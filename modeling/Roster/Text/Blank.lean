/-!
# Blank characters

A character is blank when it has the White_Space property of the Unicode standard. Every reader of
this library that trims its input trims these characters, so the class is written out here once.
-/

namespace Roster.Text

/-- The White_Space property: the controls from tab to carriage return, the next-line control, and
the spaces and separators beyond the basic block. -/
def isBlank (c : Char) : Bool :=
  let n := c.toNat
  (9 ≤ n && n ≤ 13) || n == 0x20 || n == 0x85 || n == 0xA0 || n == 0x1680 ||
    (0x2000 ≤ n && n ≤ 0x200A) || n == 0x2028 || n == 0x2029 || n == 0x202F || n == 0x205F ||
    n == 0x3000

/-- A control character: the two blocks of codes that name no symbol. -/
def isControl (c : Char) : Bool :=
  c.toNat ≤ 0x1F || (0x7F ≤ c.toNat && c.toNat ≤ 0x9F)

/-- The text without its leading blanks. -/
def dropLeading (cs : List Char) : List Char :=
  cs.dropWhile isBlank

/-- The text without its trailing blanks. -/
def dropTrailing (cs : List Char) : List Char :=
  (cs.reverse.dropWhile isBlank).reverse

/-- The text without blanks at either end. -/
def trim (cs : List Char) : List Char :=
  dropTrailing (dropLeading cs)

/-- A string without blanks at either end. -/
def trimmed (s : String) : String :=
  String.ofList (trim s.toList)

end Roster.Text
