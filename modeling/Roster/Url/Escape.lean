import Roster.Text.Octets

/-!
# Escaped text

In an address a character that does not stand for itself is written as its octets, each a percent
sign with two hexadecimal digits. Which characters stand for themselves depends on the part of the
address.
-/

namespace Roster.Url

/-- A hexadecimal digit in upper case. -/
def hexDigit (n : Nat) : Char :=
  if n < 10 then Char.ofNat (0x30 + n) else Char.ofNat (0x37 + n)

/-- An octet, escaped. -/
def escapedOctet (n : Nat) : List Char :=
  ['%', hexDigit (n / 16), hexDigit (n % 16)]

/-- A text in which every character is escaped that `plain` does not hold of. -/
def escape (plain : Char → Bool) (cs : List Char) : List Char :=
  cs.flatMap fun c => if plain c then [c] else (Text.octetsOfChar c).flatMap escapedOctet

/-- The value of a hexadecimal digit, in either case. -/
def hexValue (c : Char) : Option Nat :=
  let n := c.toNat
  if 0x30 ≤ n && n ≤ 0x39 then some (n - 0x30)
  else if 0x41 ≤ n && n ≤ 0x46 then some (n - 0x37)
  else if 0x61 ≤ n && n ≤ 0x66 then some (n - 0x57)
  else none

/-- The octets behind a text. A percent sign without two digits stands for itself. -/
def unescape : List Char → List Nat
  | [] => []
  | '%' :: a :: b :: rest =>
    match hexValue a, hexValue b with
    | some m, some n => (m * 16 + n) :: unescape rest
    | _, _ => 0x25 :: unescape (a :: b :: rest)
  | c :: rest => Text.octetsOfChar c ++ unescape rest

/-- The text behind an escaped one. -/
def unescaped (cs : List Char) : List Char :=
  Text.ofOctets (unescape cs)

/-- Whether a character shows and is no special sign: between the space and the end of ASCII. -/
def isVisible (c : Char) : Bool :=
  0x20 ≤ c.toNat && c.toNat < 0x7F

/-- What stands for itself in a fragment. -/
def plainInFragment (c : Char) : Bool :=
  isVisible c && !" \"<>\x60".contains c

/-- What stands for itself in a query. -/
def plainInQuery (c : Char) : Bool :=
  isVisible c && !" \"#<>".contains c

/-- What stands for itself in the query of an address on the web. -/
def plainInWebQuery (c : Char) : Bool :=
  plainInQuery c && c != '\''

/-- What stands for itself in a path. -/
def plainInPath (c : Char) : Bool :=
  plainInFragment c && !"#?^\x7b\x7d".contains c

/-- What stands for itself in a user's name or password. -/
def plainInUser (c : Char) : Bool :=
  plainInPath c && !"/:;=@[\\]|".contains c

end Roster.Url
