import Roster.Screen.Wrap

/-!
# Parts of a drawing

Boxes with titles, texts and tables, each drawn into an area of the screen.
-/

namespace Roster.Screen

/-! ## Boxes -/

/-- Which sides of a box are drawn. -/
structure Sides where
  left : Bool
  top : Bool
  right : Bool
  bottom : Bool
  deriving DecidableEq, Repr

namespace Sides

/-- All four sides. -/
def all : Sides := ⟨true, true, true, true⟩

/-- The upper side alone. -/
def upper : Sides := ⟨false, true, false, false⟩

/-- The left side alone. -/
def leftmost : Sides := ⟨true, false, false, false⟩

end Sides

/-- A box: its sides with their style, a title at the upper side and one at the right end of the
lower side, with a style for both. -/
structure Box where
  sides : Sides
  style : Style
  title : Option Line
  footer : Option Line
  titleStyle : Style
  deriving DecidableEq, Repr

namespace Box

/-- A box with all sides and nothing else. -/
def bare : Box := ⟨.all, .plain, none, none, .plain⟩

/-- The area inside a box. -/
def inner (b : Box) (a : Area) : Area :=
  let one (side : Bool) : Nat := if side then 1 else 0
  let x := if b.sides.left then Nat.min (a.x + 1) a.right else a.x
  let top := b.sides.top || b.title.isSome
  let y := if top then Nat.min (a.y + 1) a.bottom else a.y
  ⟨x, y, a.width - one b.sides.left - one b.sides.right,
    a.height - one top - one (b.sides.bottom || b.footer.isSome)⟩

/-- The columns from `x` on. -/
def columnsFrom (x width : Nat) : List Nat :=
  (List.range width).map (x + ·)

/-- The sides of a box. -/
def drawSides (b : Box) (a : Area) : List Stroke :=
  let lastX := a.right - 1
  let lastY := a.bottom - 1
  let xs := columnsFrom a.x a.width
  let ys := columnsFrom a.y a.height
  let s := b.sides
  let dot (there : Bool) (c : Char) (x y : Nat) : List Stroke :=
    if there then [.put x y [c] b.style] else []
  ys.flatMap (fun y => dot s.left '│' a.x y) ++ xs.flatMap (fun x => dot s.top '─' x a.y) ++
    ys.flatMap (fun y => dot s.right '│' lastX y) ++ xs.flatMap (fun x => dot s.bottom '─' x lastY) ++
    dot (s.right && s.bottom) '┘' lastX lastY ++ dot (s.right && s.top) '┐' lastX a.y ++
    dot (s.left && s.bottom) '└' a.x lastY ++ dot (s.left && s.top) '┌' a.x a.y

/-- The part of a side that titles stand on. -/
def titleArea (b : Box) (a : Area) (y : Nat) : Area :=
  let one (side : Bool) : Nat := if side then 1 else 0
  ⟨a.x + one b.sides.left, y, a.width - one b.sides.left - one b.sides.right, 1⟩

/-- The titles of a box. -/
def drawTitles (b : Box) (a : Area) : List Stroke :=
  let upper := match b.title with
    | none => []
    | some l =>
      let place := b.titleArea a a.y
      let area : Area := { place with width := Nat.min (l.columns) place.width }
      .restyle area b.titleStyle :: drawLine area l
  let lower := match b.footer with
    | none => []
    | some l =>
      let place := b.titleArea a (a.bottom - 1)
      let columns := l.columns
      let area : Area :=
        { place with
          x := Nat.max (place.right - columns) place.x
          width := Nat.min columns place.width }
      .restyle area b.titleStyle :: drawLine area l
  upper ++ lower

/-- A box. -/
def draw (b : Box) (a : Area) : List Stroke :=
  if a.isEmpty then [] else b.drawSides a ++ b.drawTitles a

end Box

/-! ## Texts -/

/-- How lines that are too long are shown: cut off, or broken with or without trimming. -/
inductive Overflow where
  | cutOff
  | broken (trim : Bool)
  deriving DecidableEq, Repr

/-- A text of several lines. -/
structure Paragraph where
  lines : List Line
  style : Style
  alignment : Alignment
  overflow : Overflow
  box : Option Box
  deriving DecidableEq, Repr

namespace Paragraph

/-- Lines without a box, cut off at the right. -/
def of (lines : List Line) : Paragraph := ⟨lines, .plain, .left, .cutOff, none⟩

/-- Puts the glyphs of a line side by side; marks without a symbol of their own are left out. -/
def putLine (y : Nat) : Nat → List Glyph → List Stroke
  | _, [] => []
  | x, g :: rest =>
    if g.symbol.columns == 0 then putLine y x rest
    else .put x y g.symbol.chars g.style :: putLine y (x + g.symbol.columns) rest

/-- The lines as they are shown, each with its alignment. -/
def shown (p : Paragraph) (width : Nat) : List (List Glyph × Alignment) :=
  p.lines.flatMap fun l =>
    let glyphs := l.glyphs.map fun g => { g with style := g.style.laidOver p.style }
    let alignment := l.alignment.getD p.alignment
    match p.overflow with
    | .cutOff => [(cutGlyphs width 0 glyphs, alignment)]
    | .broken trim => (wrapGlyphs width trim glyphs).map (·, alignment)

/-- A text with its box. -/
def draw (p : Paragraph) (a : Area) : List Stroke :=
  let outer := match p.box with
    | some b => b.draw a
    | none => []
  let inner := match p.box with
    | some b => b.inner a
    | none => a
  let body :=
    if inner.isEmpty then []
    else
      .restyle inner p.style ::
        (((p.shown inner.width).take inner.height).zipIdx.flatMap fun ((glyphs, alignment), i) =>
          putLine (inner.y + i) (inner.x + indent alignment inner.width (glyphColumns glyphs)) glyphs)
  .restyle a p.style :: outer ++ body

end Paragraph

/-! ## Tables -/

/-- A row of a table: a cell for each column, and a style for all of them. -/
structure Row where
  cells : List Line
  style : Style
  deriving DecidableEq, Repr

/-- A table. A column without a width takes what the others leave. -/
structure Table where
  header : Option Row
  rows : List Row
  widths : List (Option Nat)
  box : Option Box
  deriving DecidableEq, Repr

namespace Table

/-- The columns, side by side from `x` on, one column apart. -/
def placeColumns (rest : Nat) : Nat → List (Option Nat) → List (Nat × Nat)
  | _, [] => []
  | x, width :: more =>
    let w := width.getD rest
    (x, w) :: placeColumns rest (x + w + 1) more

/-- Where each column of the table starts in a width, and how wide it is. -/
def columns (t : Table) (width : Nat) : List (Nat × Nat) :=
  let fixed := total (t.widths.map fun w => w.getD 0)
  placeColumns (width - fixed - (t.widths.length - 1)) 0 t.widths

/-- A row on a line of the screen. -/
def drawRow (columns : List (Nat × Nat)) (area : Area) (row : Row) : List Stroke :=
  .restyle area row.style ::
    (columns.zip row.cells).flatMap fun ((x, width), cell) =>
      drawLine ⟨area.x + x, area.y, width, area.height⟩ cell

/-- A table with its box. -/
def draw (t : Table) (a : Area) : List Stroke :=
  let outer := match t.box with
    | some b => b.draw a
    | none => []
  let inner := match t.box with
    | some b => b.inner a
    | none => a
  if inner.isEmpty then outer
  else
    let columns := t.columns inner.width
    let (top, header) := match t.header with
      | some row => (1, drawRow columns { inner with height := 1 } row)
      | none => (0, [])
    let body := (t.rows.take (inner.height - top)).zipIdx.flatMap fun (row, i) =>
      drawRow columns ⟨inner.x, inner.y + top + i, inner.width, 1⟩ row
    outer ++ header ++ body

end Table

end Roster.Screen
