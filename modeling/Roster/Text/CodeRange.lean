/-!
# Classes of characters

A class of characters is written down as a list of runs of character codes.
-/

namespace Roster.Text

/-- A run of character codes, from the first to the last, both included. -/
structure CodeRange where
  first : Nat
  last : Nat
  deriving DecidableEq, Repr

/-- Whether the run holds the code `n`. -/
def CodeRange.holds (r : CodeRange) (n : Nat) : Bool :=
  r.first ≤ n && n ≤ r.last

/-- Whether one of the runs holds the character. -/
def covered (runs : List (Nat × Nat)) (c : Char) : Bool :=
  runs.any fun r => (CodeRange.mk r.1 r.2).holds c.toNat

end Roster.Text
