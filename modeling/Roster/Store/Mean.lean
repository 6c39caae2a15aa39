/-!
# Means

The mean of doubles, by compensated summation: what an addition rounds off is summed apart and added
in the end. A sum beyond the doubles stays what it is.
-/

namespace Roster

/-- A sum under way: what has been summed, what was rounded off, and how many summands there were. -/
structure RunningSum where
  sum : Float
  lost : Float
  count : Nat

namespace RunningSum

/-- The sum of nothing. -/
def zero : RunningSum := ⟨0.0, 0.0, 0⟩

/-- Adds a summand. The smaller of the two operands is the one that loses digits. -/
def add (s : RunningSum) (x : Float) : RunningSum :=
  let total := s.sum + x
  let lost := if x.abs < s.sum.abs then (s.sum - total) + x else (x - total) + s.sum
  ⟨total, s.lost + lost, s.count + 1⟩

/-- The sum. -/
def total (s : RunningSum) : Float :=
  if s.sum.isFinite then s.sum + s.lost else s.sum

/-- The mean, unless there were no summands. -/
def mean? (s : RunningSum) : Option Float :=
  if s.count = 0 then none else some (s.total / s.count.toUInt64.toFloat)

end RunningSum

/-- The mean of doubles, unless there are none. -/
def mean? (xs : List Float) : Option Float :=
  (xs.foldl RunningSum.add .zero).mean?

end Roster
