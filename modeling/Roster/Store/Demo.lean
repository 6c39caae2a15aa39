import Roster.Store.Listing

/-!
# Organizations to begin with

An empty store can be filled with eight made-up organizations, each with one score of each of four
kinds. The organizations are added one after the other; the first one that is refused ends it.
-/

namespace Roster.Store

/-- An organization to begin with. -/
structure Demo where
  name : String
  kind : String
  fundingRound : String
  rtoPolicy : String
  acceleratedVesting : Bool
  givesRatings : Bool
  completeness : Float
  scores : List Float

/-- The kinds of scores. -/
def demoKinds : List String := ["Compensation", "Culture", "Growth", "Work-Life Balance"]

/-- The organizations to begin with. -/
def demos : List Demo :=
  [⟨"Acme Robotics", "C", "B", "H", true, true, 92.0, [4.2, 4.6, 4.1, 3.9]⟩,
   ⟨"Bluefin Analytics", "C", "S", "R", false, false, 64.0, [3.1, 4.0, 4.4, 4.8]⟩,
   ⟨"Cedar Health", "N", "O", "O", false, true, 78.5, [2.9, 4.3, 3.2, 4.5]⟩,
   ⟨"Delta Logistics", "C", "P", "O", false, true, 100.0, [3.8, 2.7, 3.1, 2.4]⟩,
   ⟨"Ember Games", "C", "A", "R", true, false, 55.0, [3.5, 4.1, 3.9, 3.0]⟩,
   ⟨"Fjord Security", "C", "C", "H", true, true, 87.25, [4.7, 3.9, 4.2, 4.0]⟩,
   ⟨"Granite Foundation", "N", "O", "H", false, false, 40.0, [2.5, 4.8, 2.9, 4.9]⟩,
   ⟨"Helix Biotech", "C", "X", "O", false, true, 71.0, [4.4, 3.3, 4.6, 3.1]⟩]

/-- The name as a part of an address: in lower case, with dashes for spaces. -/
def Demo.slug (d : Demo) : String :=
  String.ofList (d.name.toList.map fun c => if c == ' ' then '-' else c.toLower)

/-- The organization as it is kept. It counts as public when it is on the market. -/
def Demo.organization (d : Demo) : StoredOrganization where
  name := d.name
  kind := d.kind
  url := "https://" ++ d.slug ++ ".example.com"
  givesRatings := d.givesRatings
  isPublic := d.fundingRound == "P"
  fundingRound := d.fundingRound
  rtoPolicy := d.rtoPolicy
  acceleratedVesting := d.acceleratedVesting
  completeness := d.completeness
  status := shownStatus

/-- Sees to it that kinds of scores exist; answers their numbers. -/
def ensureKinds (s : Store) : List String → Store × List ScoreKindId
  | [] => (s, [])
  | name :: rest =>
    let (first, number) := s.ensureKind name
    let (last, numbers) := first.ensureKinds rest
    (last, number :: numbers)

/-- Adds scores of an organization until one is refused. -/
def addScores (s : Store) (id : OrganizationId) :
    List (ScoreKindId × Float) → Store × Except StoreError Unit
  | [] => (s, .ok ())
  | (kind, value) :: rest =>
    match s.addScore ⟨id, kind, value⟩ with
    | .error e => (s, .error e)
    | .ok s => s.addScores id rest

/-- Adds organizations until one is refused. -/
def addDemos (s : Store) (kinds : List ScoreKindId) : List Demo → Store × Except StoreError Unit
  | [] => (s, .ok ())
  | demo :: rest =>
    match s.addOrganization demo.organization with
    | .error e => (s, .error e)
    | .ok (s, id) =>
      match s.addScores id (kinds.zip demo.scores) with
      | (s, .error e) => (s, .error e)
      | (s, .ok ()) => s.addDemos kinds rest

/-- Fills a store in which no organization is shown; answers how many organizations were added. -/
def seed (s : Store) : Store × Except StoreError Nat :=
  if 0 < s.count then (s, .ok 0)
  else
    let (s, kinds) := s.ensureKinds demoKinds
    let (s, result) := s.addDemos kinds demos
    (s, result.map fun _ => demos.length)

/-- A store that shows organizations is left alone. -/
theorem seed_of_count_pos {s : Store} (h : 0 < s.count) : s.seed = (s, .ok 0) := by
  simp [seed, h]

end Roster.Store
