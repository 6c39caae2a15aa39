/-!
# Words

Numbers that fit 64 bits, as texts write them in decimal digits.
-/

namespace Roster

/-- The greatest word of 64 bits. -/
def wordMax : Nat := 0xFFFFFFFFFFFFFFFF

/-- The value of a decimal digit. -/
def digitValue (c : Char) : Nat :=
  c.toNat - 0x30

/-- The value of a run of decimal digits. -/
def digitsValue (digits : List Char) : Nat :=
  digits.foldl (fun n c => n * 10 + digitValue c) 0

/-- Reads a word in decimal digits, before which a plus sign may stand. -/
def word? (cs : List Char) : Option Nat :=
  let digits := if cs.head? == some '+' then cs.tail else cs
  let n := digitsValue digits
  if !digits.isEmpty && digits.all Char.isDigit && n ≤ wordMax then some n else none

end Roster
