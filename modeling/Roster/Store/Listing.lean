import Roster.Store.Basic
import Roster.Store.Mean

/-!
# What the store shows

The store lists the organizations that are shown, the one with the best mean score first; of equal
ones the name decides. It answers for the details and the scores of each of them.
-/

namespace Roster.Store

/-- The organizations that are shown. -/
def shown (s : Store) : List (Numbered StoredOrganization) :=
  s.organizations.rows.filter fun row => row.value.status == shownStatus

/-- The organization of a number, if it is shown. -/
def shown? (s : Store) (id : OrganizationId) : Option (Numbered StoredOrganization) :=
  (s.organizations.row? id).filter fun row => row.value.status == shownStatus

/-- How many organizations are shown. -/
def count (s : Store) : Nat :=
  s.shown.length

/-- Whether an organization is shown. -/
def has (s : Store) (id : OrganizationId) : Bool :=
  (s.shown? id).isSome

/-- The scores of an organization, in the order in which they were added. -/
def scoresOf (s : Store) (id : OrganizationId) : List StoredScore :=
  (s.scores.rows.map Numbered.value).filter fun score => score.organization == id

/-- The mean of all scores of an organization; without scores it is zero. -/
def meanOf (s : Store) (id : OrganizationId) : Float :=
  (mean? ((s.scoresOf id).map StoredScore.value)).getD 0.0

/-- An organization with its mean score. -/
structure Rated where
  row : Numbered StoredOrganization
  average : Float

/-- Whether one organization stands no later in the list than another. -/
def Rated.notAfter (a b : Rated) : Bool :=
  b.average < a.average || (a.average == b.average && a.row.value.name ≤ b.row.value.name)

/-- The organizations that are shown, the best first. -/
def rated (s : Store) : List Rated :=
  (s.shown.map fun row => ⟨row, s.meanOf row.number⟩).mergeSort Rated.notAfter

/-- An organization as it is listed at a rank. Its details are left out. -/
def Rated.organization (r : Rated) (ranking : Nat) : Organization where
  id := r.row.number
  name := r.row.value.name
  ranking := ranking
  averageScore := r.average
  fundingRound := r.row.value.fundingRound
  rtoPolicy := r.row.value.rtoPolicy
  completeness := r.row.value.completeness
  acceleratedVesting := r.row.value.acceleratedVesting
  url := none
  kind := none
  givesRatings := none
  isPublic := none
  scores := none

/-- The list of organizations. -/
def list (s : Store) : List Organization :=
  s.rated.zipIdx.map fun (r, index) => r.organization (index + 1)

/-- The details of an organization that is shown. -/
def detail? (s : Store) (id : OrganizationId) : Option OrganizationDetail :=
  (s.shown? id).map fun row =>
    { id := some row.number
      name := some row.value.name
      kind := some row.value.kind
      url := some row.value.url
      givesRatings := some row.value.givesRatings
      isPublic := some row.value.isPublic
      acceleratedVesting := some row.value.acceleratedVesting
      fundingRound := some row.value.fundingRound
      rtoPolicy := some row.value.rtoPolicy
      scores := none }

/-- The mean of the scores of one kind, if there are any. -/
def meanOfKind (s : Store) (id : OrganizationId) (kind : Numbered String) : Option Score :=
  let scores := (s.scoresOf id).filter fun score => score.kind == (kind.number : Int)
  (mean? (scores.map StoredScore.value)).map fun average => ⟨kind.value, average⟩

/-- The mean scores of an organization by kind, in the order of their names. -/
def meanScores (s : Store) (id : OrganizationId) : List Score :=
  (s.kinds.rows.mergeSort fun a b => a.value ≤ b.value).filterMap (s.meanOfKind id)

/-- As many organizations are listed as are counted. -/
theorem length_list (s : Store) : s.list.length = s.count := by
  simp [list, rated, count]

end Roster.Store
