import Roster.Decimal.Binary

/-!
# Decimals with a fixed number of places

A quotient is rounded to the nearest integer, a half going to the even neighbour, and written with
a fixed number of decimal places. Rounding is done on exact quotients, so no digit depends on the
precision of an intermediate double.
-/

namespace Roster.Decimal

/-- The integer nearest to `num / den`; a half goes to the even neighbour. -/
def roundHalfEven (num den : Nat) : Nat :=
  let q := num / den
  let r := num % den
  if 2 * r < den then q
  else if den < 2 * r then q + 1
  else if q % 2 == 0 then q else q + 1

/-- `digits` as exactly `places` decimal places: `123` with two places is `1.23`. -/
def placed (digits places : Nat) : String :=
  let whole := toString (digits / Nat.pow 10 places)
  if places == 0 then whole
  else
    let fraction := toString (digits % Nat.pow 10 places)
    whole ++ "." ++ String.ofList (List.replicate (places - fraction.length) '0') ++ fraction

/-- `x` with exactly `places` decimal places; the sign of a zero is kept. -/
def fixed (places : Nat) (x : Float) : String :=
  match Binary.ofFloat x with
  | .notANumber => "NaN"
  | .infinite negative => if negative then "-inf" else "inf"
  | .finite negative mantissa exponent =>
    let (num, den) := Binary.powerOfTwo exponent
    let digits := roundHalfEven (mantissa * num * Nat.pow 10 places) den
    (if negative then "-" else "") ++ placed digits places

end Roster.Decimal
