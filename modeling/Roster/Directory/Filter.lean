import Roster.Organization.Basic

/-!
# Filters

A filter keeps the organizations whose name contains the search term, whatever the case of its
letters, and when asked only those with accelerated vesting.
-/

namespace Roster

/-- What organizations have to satisfy to be listed. -/
structure Filter where
  vestingOnly : Bool
  term : String
  deriving DecidableEq, Repr

namespace Filter

/-- The filter that keeps everything. -/
def none : Filter := ⟨false, ""⟩

/-- The search term in lower case. -/
def needle (f : Filter) : List Char :=
  Text.lower f.term.toList

/-- Whether the filter keeps an organization. -/
def keeps (f : Filter) (o : Organization) : Bool :=
  (!f.vestingOnly || o.acceleratedVesting) && (f.needle.isEmpty || o.matchesSearch f.needle)

/-- The indices, counted from `index`, of the organizations kept. -/
def indicesFrom (f : Filter) : Nat → List Organization → List Nat
  | _, [] => []
  | index, o :: rest =>
    if f.keeps o then index :: indicesFrom f (index + 1) rest else indicesFrom f (index + 1) rest

/-- The indices of the organizations kept, in the order of the list. -/
def apply (f : Filter) (organizations : List Organization) : List Nat :=
  indicesFrom f 0 organizations

/-- Without restrictions everything is kept. -/
theorem keeps_none (o : Organization) : none.keeps o = true := by
  simp [keeps, needle, none, Text.lower, Text.lowerAfter]

end Filter

end Roster
