import Roster.Decimal.Binary

/-!
# Shortest decimals

The shortest decimal of a double has the fewest digits among all decimals that round to it, and is
the nearest to it among those. The interval of numbers that round to `mantissa * 2 ^ exponent` runs
halfway to both neighbours; its ends belong to it exactly when the mantissa is even.
-/

namespace Roster.Decimal

/-- A positive decimal, `digits * 10 ^ exponent`. -/
structure Scientific where
  digits : Nat
  exponent : Int
  deriving DecidableEq, Repr

/-- Numerator and denominator of `10 ^ e`. -/
def powerOfTen (e : Int) : Nat × Nat :=
  match e with
  | .ofNat n => (Nat.pow 10 n, 1)
  | .negSucc n => (1, Nat.pow 10 (n + 1))

namespace Scientific

/-- Moves trailing zeros of the digits into the exponent, at most `fuel` of them. -/
def stripZeros (fuel : Nat) (d : Scientific) : Scientific :=
  match fuel with
  | 0 => d
  | fuel + 1 =>
    if d.digits % 10 == 0 && d.digits != 0 then stripZeros fuel ⟨d.digits / 10, d.exponent + 1⟩ else d

end Scientific

/-- The numbers that round to a double, in quarters of its last place: the double itself is
`center`, and the interval reaches from `low` to `high`. -/
structure RoundingInterval where
  low : Nat
  center : Nat
  high : Nat
  closed : Bool
  unit : Nat × Nat

/-- The rounding interval of `mantissa * 2 ^ exponent`. Below a power of two the neighbour is half as
far away, except at the least exponent. -/
def RoundingInterval.of (mantissa : Nat) (exponent : Int) : RoundingInterval where
  low := if mantissa == Binary.hiddenBit && exponent != -1074 then 4 * mantissa - 1 else 4 * mantissa - 2
  center := 4 * mantissa
  high := 4 * mantissa + 2
  closed := mantissa % 2 == 0
  unit := Binary.powerOfTwo (exponent - 2)

namespace RoundingInterval

/-- `digits * 10 ^ k`, brought to the denominator shared with the interval. -/
def gridPoint (r : RoundingInterval) (k : Int) (digits : Nat) : Nat :=
  digits * (powerOfTen k).1 * r.unit.2

/-- A bound of the interval, brought to the denominator shared with the grid of step `10 ^ k`. -/
def bound (r : RoundingInterval) (k : Int) (quarters : Nat) : Nat :=
  quarters * r.unit.1 * (powerOfTen k).2

/-- Whether `digits * 10 ^ k` rounds to the double. -/
def holds (r : RoundingInterval) (k : Int) (digits : Nat) : Bool :=
  let p := r.gridPoint k digits
  if r.closed then r.bound k r.low ≤ p && p ≤ r.bound k r.high
  else r.bound k r.low < p && p < r.bound k r.high

/-- The multiple of `10 ^ k` that rounds to the double and lies nearest to it, if any does. -/
def onGrid (r : RoundingInterval) (k : Int) : Option Nat :=
  let v := r.bound k r.center
  let below := v / r.gridPoint k 1
  let above := below + 1
  match r.holds k below, r.holds k above with
  | false, false => none
  | true, false => some below
  | false, true => some above
  | true, true =>
    let middle := r.gridPoint k below + r.gridPoint k above
    if 2 * v < middle then some below
    else if middle < 2 * v then some above
    else some (if below % 2 == 0 then below else above)

/-- Tries the grids of step `10 ^ k`, `10 ^ (k - 1)`, … and keeps the first that holds a decimal. -/
def search (r : RoundingInterval) : Nat → Int → Option Scientific
  | 0, _ => none
  | fuel + 1, k =>
    match r.onGrid k with
    | some digits => some ⟨digits, k⟩
    | none => r.search fuel (k - 1)

/-- The exponent of the leading decimal digit of the double. -/
def leading (r : RoundingInterval) : Int :=
  let estimate : Int :=
    ((Nat.log2 (r.center * r.unit.1) : Int) - (Nat.log2 r.unit.2 : Int)) * 30103 / 100000
  if r.gridPoint (estimate + 1) 1 ≤ r.bound (estimate + 1) r.center then estimate + 1
  else if r.gridPoint estimate 1 ≤ r.bound estimate r.center then estimate
  else estimate - 1

end RoundingInterval

/-- The shortest decimal of `mantissa * 2 ^ exponent`; seventeen digits always suffice. -/
def shortestDigits (mantissa : Nat) (exponent : Int) : Scientific :=
  let r := RoundingInterval.of mantissa exponent
  match r.search 18 r.leading with
  | some d => d.stripZeros 400
  | none => ⟨mantissa, 0⟩

/-- How a decimal is laid out: which leading exponents are written positionally, and how many digits
an exponent has at least. -/
structure Layout where
  least : Int
  most : Int
  exponentDigits : Nat

/-- Writes `d` positionally when its leading exponent allows it, and with an exponent otherwise. A
positional integer ends in `.0`; a written exponent always has a sign. -/
def Layout.write (layout : Layout) (d : Scientific) : String :=
  let text := toString d.digits
  let count := text.length
  let lead : Int := d.exponent + count - 1
  if layout.least ≤ lead && lead ≤ layout.most then
    if 0 ≤ d.exponent then
      text ++ String.ofList (List.replicate d.exponent.toNat '0') ++ ".0"
    else if 0 ≤ lead then
      let whole := (lead + 1).toNat
      String.ofList (text.toList.take whole) ++ "." ++ String.ofList (text.toList.drop whole)
    else
      "0." ++ String.ofList (List.replicate (-lead - 1).toNat '0') ++ text
  else
    let mark := toString lead.natAbs
    let fraction := String.ofList (text.toList.drop 1)
    String.ofList (text.toList.take 1) ++ (if count == 1 then "" else "." ++ fraction) ++
      (if lead < 0 then "e-" else "e+") ++
      String.ofList (List.replicate (layout.exponentDigits - mark.length) '0') ++ mark

/-- Numbers in documents are positional from `0.00001` up to sixteen digits, and their exponents have
at least two digits. -/
def Layout.document : Layout := ⟨-5, 15, 2⟩

/-- The shortest text that reads back as `x`, or `none` when `x` is no finite number. -/
def shortest (x : Float) : Option String :=
  match Binary.ofFloat x with
  | .notANumber | .infinite _ => none
  | .finite negative mantissa exponent =>
    let body :=
      if mantissa == 0 then "0.0" else Layout.document.write (shortestDigits mantissa exponent)
    some ((if negative then "-" else "") ++ body)

end Roster.Decimal
