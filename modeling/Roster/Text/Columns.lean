import Roster.Text.Blank
import Roster.Text.Marks
import Roster.Total

/-!
# Columns on a screen

A text is drawn symbol by symbol. A symbol is a character with the marks that follow it, and fills
one column, or two when its character is wide.
-/

namespace Roster.Text

/-- The wide and full-width classes of the East_Asian_Width property. -/
def wideRuns : List (Nat × Nat) :=
  [(0x1100, 0x115F), (0x231A, 0x231B), (0x2329, 0x232A), (0x23E9, 0x23EC), (0x23F0, 0x23F0),
   (0x23F3, 0x23F3), (0x25FD, 0x25FE), (0x2614, 0x2615), (0x2648, 0x2653), (0x267F, 0x267F),
   (0x2693, 0x2693), (0x26A1, 0x26A1), (0x26AA, 0x26AB), (0x26BD, 0x26BE), (0x26C4, 0x26C5),
   (0x26CE, 0x26CE), (0x26D4, 0x26D4), (0x26EA, 0x26EA), (0x26F2, 0x26F3), (0x26F5, 0x26F5),
   (0x26FA, 0x26FA), (0x26FD, 0x26FD), (0x2705, 0x2705), (0x270A, 0x270B), (0x2728, 0x2728),
   (0x274C, 0x274C), (0x274E, 0x274E), (0x2753, 0x2755), (0x2757, 0x2757), (0x2795, 0x2797),
   (0x27B0, 0x27B0), (0x27BF, 0x27BF), (0x2B1B, 0x2B1C), (0x2B50, 0x2B50), (0x2B55, 0x2B55),
   (0x2E80, 0x2E99), (0x2E9B, 0x2EF3), (0x2F00, 0x2FD5), (0x2FF0, 0x2FFB), (0x3000, 0x303E),
   (0x3041, 0x3096), (0x3099, 0x30FF), (0x3105, 0x312F), (0x3131, 0x318E), (0x3190, 0x31E3),
   (0x31F0, 0x321E), (0x3220, 0x3247), (0x3250, 0x4DBF), (0x4E00, 0xA48C), (0xA490, 0xA4C6),
   (0xA960, 0xA97C), (0xAC00, 0xD7A3), (0xF900, 0xFAFF), (0xFE10, 0xFE19), (0xFE30, 0xFE52),
   (0xFE54, 0xFE66), (0xFE68, 0xFE6B), (0xFF01, 0xFF60), (0xFFE0, 0xFFE6), (0x16FE0, 0x16FE4),
   (0x16FF0, 0x16FF1), (0x17000, 0x187F7), (0x18800, 0x18CD5), (0x18D00, 0x18D08),
   (0x1AFF0, 0x1AFF3), (0x1AFF5, 0x1AFFB), (0x1AFFD, 0x1AFFE), (0x1B000, 0x1B122),
   (0x1B132, 0x1B132), (0x1B150, 0x1B152), (0x1B155, 0x1B155), (0x1B164, 0x1B167),
   (0x1B170, 0x1B2FB), (0x1F004, 0x1F004), (0x1F0CF, 0x1F0CF), (0x1F18E, 0x1F18E),
   (0x1F191, 0x1F19A), (0x1F200, 0x1F202), (0x1F210, 0x1F23B), (0x1F240, 0x1F248),
   (0x1F250, 0x1F251), (0x1F260, 0x1F265), (0x1F300, 0x1F320), (0x1F32D, 0x1F335),
   (0x1F337, 0x1F37C), (0x1F37E, 0x1F393), (0x1F3A0, 0x1F3CA), (0x1F3CF, 0x1F3D3),
   (0x1F3E0, 0x1F3F0), (0x1F3F4, 0x1F3F4), (0x1F3F8, 0x1F43E), (0x1F440, 0x1F440),
   (0x1F442, 0x1F4FC), (0x1F4FF, 0x1F53D), (0x1F54B, 0x1F54E), (0x1F550, 0x1F567),
   (0x1F57A, 0x1F57A), (0x1F595, 0x1F596), (0x1F5A4, 0x1F5A4), (0x1F5FB, 0x1F64F),
   (0x1F680, 0x1F6C5), (0x1F6CC, 0x1F6CC), (0x1F6D0, 0x1F6D2), (0x1F6D5, 0x1F6D7),
   (0x1F6DC, 0x1F6DF), (0x1F6EB, 0x1F6EC), (0x1F6F4, 0x1F6FC), (0x1F7E0, 0x1F7EB),
   (0x1F7F0, 0x1F7F0), (0x1F90C, 0x1F93A), (0x1F93C, 0x1F945), (0x1F947, 0x1F9FF),
   (0x1FA70, 0x1FA7C), (0x1FA80, 0x1FA88), (0x1FA90, 0x1FABD), (0x1FABF, 0x1FAC5),
   (0x1FACE, 0x1FADB), (0x1FAE0, 0x1FAE8), (0x1FAF0, 0x1FAF8), (0x20000, 0x2FFFD),
   (0x30000, 0x3FFFD)]

/-- How many columns a character fills on its own. -/
def columnsOf (c : Char) : Nat :=
  if c.toNat < 0x80 then 1
  else if c.toNat == 0x115F then 2
  else if isMark c || isIgnorable c then 0
  else if covered wideRuns c then 2
  else 1

/-- The joiner, which binds the symbols around it into one. -/
def joiner : Char := Char.ofNat 0x200D

/-- The selector that asks for the wide form of the character before it. -/
def wideSelector : Char := Char.ofNat 0xFE0F

/-- Letters that spell a flag, two by two. -/
def isFlagLetter (c : Char) : Bool :=
  0x1F1E6 ≤ c.toNat && c.toNat ≤ 0x1F1FF

/-- A drawn symbol: its characters and the columns it fills. -/
structure Symbol where
  chars : List Char
  columns : Nat
  deriving DecidableEq, Repr

/-- Whether `c` belongs to the symbol whose characters so far, last first, are `before`. -/
def extendsSymbol (before : List Char) (c : Char) : Bool :=
  match before with
  | [] => false
  | last :: earlier =>
    !isControl c && !isControl last &&
      (isMark c || c == joiner || (last == joiner && columnsOf c == 2) ||
        (isFlagLetter c && isFlagLetter last && earlier.isEmpty))

/-- The columns of a symbol: a joined, selected or paired one is wide, any other adds up. -/
def symbolColumns (chars : List Char) : Nat :=
  if chars.contains wideSelector && 1 < chars.length then 2
  else if chars.contains joiner && 1 < chars.length then Nat.min 2 (total (chars.map columnsOf))
  else if chars.all isFlagLetter && chars.length == 2 then 2
  else total (chars.map columnsOf)

/-- Cuts a text into symbols; `before` holds the characters of the symbol under way, last first. -/
def symbolsAfter : List Char → List Char → List Symbol
  | [], [] => []
  | before, [] => [⟨before.reverse, symbolColumns before.reverse⟩]
  | before, c :: rest =>
    if before.isEmpty || extendsSymbol before c then symbolsAfter (c :: before) rest
    else ⟨before.reverse, symbolColumns before.reverse⟩ :: symbolsAfter [c] rest

/-- The symbols of a text, those with control characters left out. -/
def symbols (cs : List Char) : List Symbol :=
  (symbolsAfter [] cs).filter fun s => !s.chars.any isControl

/-- The columns a text claims; a control character claims one, though it does not show. -/
def width (s : String) : Nat :=
  total ((symbolsAfter [] s.toList).map Symbol.columns)

/-- A symbol of one plain character fills one column. -/
theorem symbolColumns_plain {c : Char} (h : c.toNat < 0x80) : symbolColumns [c] = 1 := by
  have hr : isFlagLetter c = false := by
    simp only [isFlagLetter, Bool.and_eq_false_iff, decide_eq_false_iff_not]
    omega
  simp [symbolColumns, columnsOf, h]

end Roster.Text
