import Roster.Store.Mean

/-!
# Averages of doubles

An average is a sum divided by a count. A sum of doubles is rounded with every addition; what was
rounded off can itself be computed, and is summed apart. The definitions here speak of whole lists,
and the fold that computes a mean is shown to keep to them.
-/

namespace Roster.Decimal

/-- What the addition of two doubles rounds off. It is missing from the operand of smaller size. -/
def roundedOff (x y : Float) : Float :=
  if y.abs < x.abs then (x - (x + y)) + y else (y - (x + y)) + x

/-- What each addition rounds off when the doubles of a list are added to a first one. -/
def roundings : Float → List Float → List Float
  | _, [] => []
  | x, y :: rest => roundedOff x y :: roundings (x + y) rest

/-- The sum of doubles, rounded with every addition. -/
def sum (xs : List Float) : Float :=
  xs.foldl (· + ·) 0.0

/-- The sum of doubles together with what was rounded off, unless the sum is beyond the doubles. -/
def compensatedSum (xs : List Float) : Float :=
  if (sum xs).isFinite then sum xs + sum (roundings 0.0 xs) else sum xs

/-- The average of doubles. Of none it is zero. -/
def average (xs : List Float) : Float :=
  if xs.isEmpty then 0.0 else compensatedSum xs / xs.length.toUInt64.toFloat

/-- What a sum under way becomes: its parts are summed apart. -/
theorem foldl_add (xs : List Float) (s : RunningSum) :
    xs.foldl RunningSum.add s =
      ⟨xs.foldl (· + ·) s.sum, (roundings s.sum xs).foldl (· + ·) s.lost, s.count + xs.length⟩ := by
  induction xs generalizing s with
  | nil => rfl
  | cons x rest ih =>
    rw [List.foldl_cons, ih, roundings, List.foldl_cons, List.foldl_cons, List.length_cons,
      Nat.add_comm rest.length, ← Nat.add_assoc]
    rfl

/-- The mean of doubles is their average, if there are any. -/
theorem mean?_eq (xs : List Float) : mean? xs = if xs.isEmpty then none else some (average xs) := by
  have hsum : xs.foldl RunningSum.add .zero = ⟨sum xs, sum (roundings 0.0 xs), xs.length⟩ := by
    have hcount : RunningSum.zero.count + xs.length = xs.length := Nat.zero_add _
    rw [foldl_add, hcount]
    rfl
  rw [mean?, hsum]
  cases xs with
  | nil => rfl
  | cons x rest => exact if_neg (Nat.succ_ne_zero rest.length)

end Roster.Decimal
