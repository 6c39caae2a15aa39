import Roster.Screen.Area
import Roster.Screen.Style
import Roster.Text.Columns

/-!
# Strokes

A drawing is a list of strokes, made one after the other. A stroke puts a symbol into a cell, lays a
style over an area, or empties an area.
-/

namespace Roster.Screen

/-- A stroke of a drawing. -/
inductive Stroke where
  | put (x y : Nat) (symbol : List Char) (style : Style)
  | join (x y : Nat) (marks : List Char) (style : Style)
  | restyle (area : Area) (style : Style)
  | empty (area : Area)
  deriving DecidableEq, Repr

/-- A piece of text in one style. -/
structure Span where
  text : String
  style : Style
  deriving DecidableEq, Repr

/-- A piece of text that leaves the style open. -/
def Span.raw (text : String) : Span := ⟨text, .plain⟩

/-- Where a line stands between its ends. -/
inductive Alignment where
  | left
  | center
  | right
  deriving DecidableEq, Repr

/-- A line of text, made of pieces. -/
structure Line where
  spans : List Span
  alignment : Option Alignment
  deriving DecidableEq, Repr

namespace Line

/-- A line of pieces. -/
def of (spans : List Span) : Line := ⟨spans, none⟩

/-- A line in one style. -/
def styled (text : String) (style : Style) : Line := ⟨[⟨text, style⟩], none⟩

/-- A line that leaves the style open. -/
def raw (text : String) : Line := .styled text .plain

/-- A line of the first line of a text, as a cell of that height shows it. -/
def first (text : String) : Line :=
  .raw (String.ofList (text.toList.takeWhile (· != '\n')))

/-- A line of all lines of a text, without the breaks between them. -/
def unbroken (text : String) : Line :=
  .raw (String.ofList (text.toList.filter (· != '\n')))

/-- The line, standing at the right end. -/
def atRight (l : Line) : Line := { l with alignment := some .right }

end Line

/-- A drawn symbol with its style. -/
structure Glyph where
  symbol : Text.Symbol
  style : Style
  deriving DecidableEq, Repr

/-- The glyphs of a piece of text. -/
def Span.glyphs (s : Span) : List Glyph :=
  (Text.symbols s.text.toList).map fun symbol => ⟨symbol, s.style⟩

/-- The glyphs of a line. -/
def Line.glyphs (l : Line) : List Glyph :=
  l.spans.flatMap Span.glyphs

/-- The columns of glyphs. -/
def glyphColumns (gs : List Glyph) : Nat :=
  total (gs.map fun g => g.symbol.columns)

/-- How far a text is indented that is `inner` columns wide, in `outer` columns. -/
def indent (alignment : Alignment) (outer inner : Nat) : Nat :=
  match alignment with
  | .left => 0
  | .center => outer / 2 - inner / 2
  | .right => outer - inner

/-- The cells that a wide symbol hides. -/
def hiddenCells (x y columns : Nat) : List Stroke :=
  (List.range (columns - 1)).map fun i => .empty ⟨x + 1 + i, y, 1, 1⟩

/-- Puts glyphs side by side, up to the column `right`. Marks without a symbol of their own join the
cell before; `fresh` says that nothing has been put at the first column. -/
def putGlyphs (x0 y right : Nat) : Nat → Bool → List Glyph → List Stroke
  | _, _, [] => []
  | x, fresh, g :: rest =>
    let columns := g.symbol.columns
    if right < x + columns then []
    else
      let chars := g.symbol.chars
      let first : Stroke :=
        if fresh then .put x y chars g.style
        else if x == x0 then .join x y chars g.style
        else if columns == 0 then .join (x - 1) y chars g.style
        else .put x y chars g.style
      first :: hiddenCells x y columns ++ putGlyphs x0 y right (x + columns) false rest

/-- The glyphs without the first columns; a wide symbol that is cut leaves its rest empty. Answers
how many columns stay empty. -/
def dropColumns : Nat → List Glyph → Nat × List Glyph
  | _, [] => (0, [])
  | n, g :: rest =>
    if n == 0 then (0, g :: rest)
    else if n < g.symbol.columns then (g.symbol.columns - n, rest)
    else dropColumns (n - g.symbol.columns) rest

/-- A piece of a line, ready to be put: its glyphs, and the columns it claims. -/
structure Piece where
  glyphs : List Glyph
  columns : Nat
  deriving DecidableEq, Repr

/-- The pieces of a line. -/
def Line.pieces (l : Line) : List Piece :=
  l.spans.map fun s => ⟨s.glyphs, Text.width s.text⟩

/-- The columns a line claims. -/
def Line.columns (l : Line) : Nat :=
  total (l.pieces.map Piece.columns)

/-- Puts the pieces of a line side by side. -/
def putPieces (y right : Nat) : Nat → List Piece → List Stroke
  | _, [] => []
  | x, p :: rest =>
    if right ≤ x then []
    else putGlyphs x y right x true p.glyphs ++ putPieces y right (Nat.min (x + p.columns) right) rest

/-- Draws a line into the first line of an area. A line that is too long loses what lies outside. -/
def drawLine (area : Area) (l : Line) : List Stroke :=
  if area.isEmpty || l.columns == 0 then []
  else
    let alignment := l.alignment.getD .left
    if l.columns ≤ area.width then
      let gap := match alignment with
        | .left => 0
        | .center => (area.width - l.columns) / 2
        | .right => area.width - l.columns
      putPieces area.y area.right (area.x + gap) l.pieces
    else
      let lost := match alignment with
        | .left => 0
        | .center => (l.columns - area.width) / 2
        | .right => l.columns - area.width
      if lost == 0 then putPieces area.y area.right area.x l.pieces
      else
        let (gap, glyphs) := dropColumns lost l.glyphs
        putPieces area.y area.right (area.x + gap) [⟨glyphs, glyphColumns glyphs⟩]

end Roster.Screen
