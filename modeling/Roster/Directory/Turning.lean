/-!
# Turning pages

Which page the keys lead to. A page has to have a button, so nothing leads anywhere while nothing
matches.
-/

namespace Roster.Page

/-- The page before. From beyond the end it is the last one. -/
def previous? (current count : Nat) : Option Nat :=
  if count = 0 then none
  else
    let target := Nat.min (Nat.max (current - 1) 1) count
    if target = current then none else some target

/-- The page after. -/
def next? (current count : Nat) : Option Nat :=
  if count ≤ current then none else some (current + 1)

/-- The page of a digit. -/
def ofDigit? (digit : Char) (count : Nat) : Option Nat :=
  if digit.isDigit then
    let number := digit.toNat - 0x30
    if 1 ≤ number && number ≤ count then some number else none
  else none

end Roster.Page
