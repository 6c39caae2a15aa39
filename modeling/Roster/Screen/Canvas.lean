import Roster.Screen.Stroke
import Roster.Text.Blank

/-!
# The screen

A canvas holds the cells of a screen, each with a symbol and a style. Strokes outside the canvas
leave no trace. A wide symbol covers the cell to its right, whatever that cell holds.
-/

namespace Roster.Screen

/-- A cell. -/
structure Cell where
  symbol : List Char
  style : Style
  deriving DecidableEq, Repr

namespace Cell

/-- A cell with nothing in it. -/
def blank : Cell := ⟨[' '], .plain⟩

/-- The columns of the symbol. -/
def columns (c : Cell) : Nat :=
  Text.symbolColumns c.symbol

end Cell

/-- The cells of a screen, line by line. -/
structure Canvas where
  width : Nat
  height : Nat
  cells : Array Cell

namespace Canvas

/-- A screen with nothing on it. -/
def blank (width height : Nat) : Canvas :=
  ⟨width, height, Array.replicate (width * height) .blank⟩

/-- The whole screen. -/
def area (c : Canvas) : Area := ⟨0, 0, c.width, c.height⟩

/-- Changes the cell at a position. -/
def change (c : Canvas) (f : Cell → Cell) (x y : Nat) : Canvas :=
  if x < c.width && y < c.height then { c with cells := c.cells.modify (y * c.width + x) f } else c

/-- Changes every cell of an area. -/
def changeArea (c : Canvas) (f : Cell → Cell) (a : Area) : Canvas :=
  let a := a.intersect c.area
  (List.range a.height).foldl
    (fun c i => (List.range a.width).foldl (fun c j => c.change f (a.x + j) (a.y + i)) c) c

/-- Makes a stroke. -/
def stroke (c : Canvas) : Stroke → Canvas
  | .put x y symbol style => c.change (fun cell => ⟨symbol, style.laidOver cell.style⟩) x y
  | .join x y marks style =>
    c.change (fun cell => ⟨cell.symbol ++ marks, style.laidOver cell.style⟩) x y
  | .restyle a style => c.changeArea (fun cell => { cell with style := style.laidOver cell.style }) a
  | .empty a => c.changeArea (fun _ => .blank) a

/-- Makes the strokes of a drawing in turn. -/
def draw (c : Canvas) (strokes : List Stroke) : Canvas :=
  strokes.foldl stroke c

/-- The cells of a line as they are seen: behind a wide symbol nothing is. -/
def seen : Nat → List Cell → List Cell
  | _, [] => []
  | hidden + 1, _ :: rest => .blank :: seen hidden rest
  | 0, cell :: rest => cell :: seen (cell.columns - 1) rest

/-- The cells of every line. -/
def rows (c : Canvas) : List (List Cell) :=
  (List.range c.height).map fun y =>
    seen 0 ((c.cells.extract (y * c.width) ((y + 1) * c.width)).toList)

/-- The text of every line, without blanks at its end. -/
def lines (c : Canvas) : List String :=
  c.rows.map fun row => String.ofList (Text.dropTrailing (row.flatMap Cell.symbol))

/-- Cells side by side that have one style. -/
structure Run where
  y : Nat
  x : Nat
  length : Nat
  style : Style
  deriving DecidableEq, Repr

/-- The runs of a line from a column on. -/
def runsOfRow (y : Nat) : Nat → List Cell → List Run
  | _, [] => []
  | x, cell :: rest =>
    match runsOfRow y (x + 1) rest with
    | next :: more =>
      if next.style = cell.style then { next with x := x, length := next.length + 1 } :: more
      else ⟨y, x, 1, cell.style⟩ :: next :: more
    | [] => [⟨y, x, 1, cell.style⟩]

/-- The longest runs of cells that are styled, line by line. -/
def runs (c : Canvas) : List Run :=
  (c.rows.zipIdx.flatMap fun (row, y) => runsOfRow y 0 row).filter fun r => r.style ≠ .plain

end Canvas

end Roster.Screen
