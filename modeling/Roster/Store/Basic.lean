import Roster.Organization.Basic
import Roster.Store.Register

/-!
# The store

The store keeps organizations, the kinds of scores, and scores. Names of organizations and of kinds
are unique, a score belongs to an organization and a kind that exist, and what is kept as a number is
one. A write that is refused leaves the store as it was.
-/

namespace Roster

/-- The number that names a kind of score. -/
abbrev ScoreKindId := Int

/-- An organization as it is kept. Only those of status one are shown. -/
structure StoredOrganization where
  name : String
  kind : String
  url : String
  givesRatings : Bool
  isPublic : Bool
  fundingRound : String
  rtoPolicy : String
  acceleratedVesting : Bool
  completeness : Float
  status : Int
  deriving Repr

/-- A score as it is kept. -/
structure StoredScore where
  organization : OrganizationId
  kind : ScoreKindId
  value : Float
  deriving Repr

/-- Why a write is refused. -/
inductive StoreError where
  | noRegister (name : String)
  | noNumber (column : String)
  | nameTaken
  | unknownReference
  deriving DecidableEq, Repr

/-- The text of the error. -/
def StoreError.message : StoreError → String
  | .noRegister name => "error returned from database: (code: 1) no such table: " ++ name
  | .noNumber column =>
    "error returned from database: (code: 1299) NOT NULL constraint failed: " ++ column
  | .nameTaken =>
    "error returned from database: (code: 2067) UNIQUE constraint failed: organization.name"
  | .unknownReference =>
    "error returned from database: (code: 787) FOREIGN KEY constraint failed"

/-- The three registers. -/
structure Store where
  organizations : Register StoredOrganization
  kinds : Register String
  scores : Register StoredScore
  deriving Repr

namespace Store

/-- The status of an organization that is shown. -/
def shownStatus : Int := 1

/-- The store with nothing in it. -/
def empty : Store := ⟨.empty, .empty, .empty⟩

/-- The store of a database that has been set up: the registers it has are kept, and one without
registers gets empty ones. -/
def setUp (held : Option Store) : Store :=
  held.getD empty

/-- A number as it is kept: there is only one zero. -/
def kept (x : Float) : Float :=
  if x == 0.0 then 0.0 else x

/-- Adds an organization; answers its number. -/
def addOrganization (s : Store) (o : StoredOrganization) :
    Except StoreError (Store × OrganizationId) :=
  if o.completeness.isNaN then .error (.noNumber "organization.profile_completeness")
  else if s.organizations.rows.any fun row => row.value.name == o.name then .error .nameTaken
  else
    let o := { o with completeness := kept o.completeness }
    .ok ({ s with organizations := s.organizations.add o }, s.organizations.next)

/-- Sees to it that a kind of score exists; answers its number. A kind that exists already takes up
another number all the same. -/
def ensureKind (s : Store) (name : String) : Store × ScoreKindId :=
  match s.kinds.rows.find? fun row => row.value == name with
  | some row => ({ s with kinds := s.kinds.skip }, row.number)
  | none => ({ s with kinds := s.kinds.add name }, s.kinds.next)

/-- Adds a score. -/
def addScore (s : Store) (score : StoredScore) : Except StoreError Store :=
  if score.value.isNaN then .error (.noNumber "score.score")
  else if s.organizations.has score.organization && s.kinds.has score.kind then
    .ok { s with scores := s.scores.add { score with value := kept score.value } }
  else .error .unknownReference

/-- Changes the status of an organization; answers how many organizations have that number. -/
def setStatus (s : Store) (id : OrganizationId) (status : Int) : Store × Nat :=
  ({ s with organizations := s.organizations.change id fun o => { o with status := status } },
    if s.organizations.has id then 1 else 0)

/-- An organization is refused without a completeness, and under a name that some organization has. -/
theorem addOrganization_eq_error_iff {s : Store} {o : StoredOrganization} {e : StoreError} :
    s.addOrganization o = .error e ↔
      (o.completeness.isNaN = true ∧ e = .noNumber "organization.profile_completeness") ∨
        (o.completeness.isNaN = false ∧ (∃ row ∈ s.organizations.rows, row.value.name = o.name) ∧
          e = .nameTaken) := by
  unfold addOrganization
  generalize o.completeness.isNaN = missing
  cases missing with
  | true => simp [eq_comm (b := e)]
  | false =>
    rw [if_neg Bool.false_ne_true]
    split
    · rename_i htaken
      simp only [List.any_eq_true, beq_iff_eq] at htaken
      simp [htaken, eq_comm (b := e)]
    · rename_i htaken
      simp only [List.any_eq_true, beq_iff_eq] at htaken
      simp [htaken]

/-- A score is refused without a value, and for an organization or a kind that does not exist. -/
theorem addScore_eq_error_iff {s : Store} {score : StoredScore} {e : StoreError} :
    s.addScore score = .error e ↔
      (score.value.isNaN = true ∧ e = .noNumber "score.score") ∨
        (score.value.isNaN = false ∧
          (s.organizations.has score.organization && s.kinds.has score.kind) = false ∧
          e = .unknownReference) := by
  unfold addScore
  generalize score.value.isNaN = missing
  generalize (s.organizations.has score.organization && s.kinds.has score.kind) = known
  cases missing <;> cases known <;> simp [eq_comm (b := e)]

/-- An organization that is not refused has a completeness and a new name. It is added in the last row,
and answered by the number of that row. -/
theorem addOrganization_eq_ok_iff {s s' : Store} {o : StoredOrganization} {id : OrganizationId} :
    s.addOrganization o = .ok (s', id) ↔
      o.completeness.isNaN = false ∧ (∀ row ∈ s.organizations.rows, row.value.name ≠ o.name) ∧
        s' = { s with organizations :=
          s.organizations.add { o with completeness := kept o.completeness } } ∧
        id = s.organizations.next := by
  unfold addOrganization
  generalize o.completeness.isNaN = missing
  cases missing with
  | true => simp
  | false =>
    rw [if_neg Bool.false_ne_true]
    split
    · rename_i htaken
      obtain ⟨row, hrow, hname⟩ := List.any_eq_true.mp htaken
      exact iff_of_false nofun fun h => h.2.1 row hrow (beq_iff_eq.mp hname)
    · rename_i hnew
      simp only [List.any_eq_true, beq_iff_eq, not_exists, not_and] at hnew
      rw [Except.ok.injEq, Prod.mk.injEq, eq_comm (b := s'), eq_comm (b := id)]
      exact ⟨fun ⟨hs', hid⟩ => ⟨rfl, hnew, hs', hid⟩, fun ⟨_, _, hs', hid⟩ => ⟨hs', hid⟩⟩

/-- A score that is not refused has a value and refers to what is there. It is added in the last
row. -/
theorem addScore_eq_ok_iff {s s' : Store} {score : StoredScore} :
    s.addScore score = .ok s' ↔
      score.value.isNaN = false ∧ s.organizations.has score.organization = true ∧
        s.kinds.has score.kind = true ∧
        s' = { s with scores := s.scores.add { score with value := kept score.value } } := by
  unfold addScore
  generalize score.value.isNaN = missing
  generalize s.organizations.has score.organization = known
  generalize s.kinds.has score.kind = named
  cases missing <;> cases known <;> cases named <;> simp [eq_comm (a := s')]

end Store

end Roster
