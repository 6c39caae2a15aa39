/-!
# Doubles taken apart

A double is a sign with an exact binary fraction, or one of the two shapes that are no number. The
decimal writers work on this view, in exact arithmetic, and never on the double itself.
-/

namespace Roster.Decimal

/-- The exact content of a double: `finite` stands for `±mantissa * 2 ^ exponent`. -/
inductive Binary where
  | notANumber
  | infinite (negative : Bool)
  | finite (negative : Bool) (mantissa : Nat) (exponent : Int)
  deriving DecidableEq, Repr

namespace Binary

/-- The bit that every usual mantissa has in front of its fraction. -/
def hiddenBit : Nat := 0x10000000000000

/-- Reads the three fields of a 64-bit double: one sign bit, eleven exponent bits, 52 fraction bits. -/
def ofBits (bits : UInt64) : Binary :=
  let n := bits.toNat
  let negative := n / 0x8000000000000000 == 1
  let biased : Nat := n / hiddenBit % 2048
  let fraction : Nat := n % hiddenBit
  if biased == 2047 then
    if fraction == 0 then .infinite negative else .notANumber
  else if biased == 0 then .finite negative fraction (-1074)
  else .finite negative (fraction + hiddenBit) ((biased : Int) - 1075)

/-- The exact content of `x`. -/
def ofFloat (x : Float) : Binary :=
  ofBits x.toBits

/-- Numerator and denominator of `2 ^ e`. -/
def powerOfTwo (e : Int) : Nat × Nat :=
  match e with
  | .ofNat n => (Nat.pow 2 n, 1)
  | .negSucc n => (1, Nat.pow 2 (n + 1))

end Binary

end Roster.Decimal
