import Roster.Directory.View
import Roster.Popup.Basic
import Roster.Screen.Area
import Roster.Word

/-!
# Where things stand on the terminal

The places of the search box, the vesting box, the page buttons, the table and the help line, and
of the popup. Drawing and clicking go by the same places, so what is seen is what is hit.

A click counts columns and lines in 16 bits and rows in words. The search for what it hits is given
twice: `rowAt` and `pageAt` count without a bound, and `rowAt?` and `pageAt?` fail where a count is
too large. It is the latter that decide what becomes of a click.
-/

namespace Roster.Terminal

open Roster.Screen

/-- The label of the vesting box. -/
def vestingLabel : String := "Show only companies with first vesting in < 1 year"

/-- What stands before the page buttons. -/
def pagesPrefix : String := "Pages: "

/-- The label of the button that closes the popup. -/
def closeLabel : String := "[ Close ]"

/-- The places of the directory. -/
structure Layout where
  search : Area
  vesting : Area
  pagination : Area
  table : Area
  help : Area
  deriving DecidableEq, Repr

namespace Layout

/-- The width of the vesting box: a check box, a space and the label inside a border. -/
def vestingWidth : Nat := vestingLabel.length + 6

/-- The heights of the controls, the page buttons and the table. With few lines the table comes
first, then the help line, then the page buttons. -/
def heights (height : Nat) : Nat × Nat × Nat :=
  if 12 ≤ height then (3, 1, height - 7)
  else (Nat.min 3 (height - 9), Nat.min 1 (height - 8), Nat.min height 5)

/-- The width of the search box. On a narrow screen the vesting box gives way. -/
def searchWidth (width : Nat) : Nat :=
  if 20 + vestingWidth ≤ width then width - vestingWidth else Nat.min width 20

/-- The places of the directory on a screen. -/
def of (a : Area) : Layout :=
  let (controls, pages, table) := heights a.height
  let width := searchWidth a.width
  { search := ⟨a.x, a.y, width, controls⟩
    vesting := ⟨a.x + width, a.y, a.width - width, controls⟩
    pagination := ⟨a.x, a.y + controls, a.width, pages⟩
    table := ⟨a.x, a.y + controls + pages, a.width, table⟩
    help := ⟨a.x, a.y + controls + pages + table, a.width, a.height - controls - pages - table⟩ }

/-- The lines of the table above its rows: the border and the header. -/
def tableTop : Nat := 2

/-- How many rows the table shows at once. -/
def visibleRows (l : Layout) : Nat :=
  l.table.height - (tableTop + 1)

/-- The first row shown, such that the selected one is among those shown. -/
def scrollOffset (total visible selected : Nat) : Nat :=
  if total ≤ visible || selected < visible then 0 else selected + 1 - visible

/-- The sum of two words, if it is a word. -/
def sum? (m n : Nat) : Option Nat :=
  if m + n ≤ wordMax then some (m + n) else none

/-- The difference of two words, if it does not lie below zero. -/
def difference? (m n : Nat) : Option Nat :=
  if n ≤ m then some (m - n) else none

/-- The first row shown, counted in words, if all that is counted for it are words. -/
def scrollOffset? (total visible selected : Nat) : Option Nat :=
  if total ≤ visible || selected < visible then some 0
  else (sum? selected 1).bind fun next => difference? next visible

/-- The column or line of a number, if the number is not beyond the last one. -/
def place? (n : Nat) : Option Nat :=
  if n ≤ last then some n else none

/-- The row of the page under a position. -/
def rowAt (l : Layout) (x y total selected : Nat) : Option Nat :=
  let top := l.table.y + tableTop
  let bottom := l.table.bottom - 1
  if !l.table.holds x y || y < top || bottom ≤ y then none
  else
    let index := scrollOffset total l.visibleRows selected + (y - top)
    if index < total then some index else none

/-- The row of the page under a position, if all that is counted for it are lines and words. The line
that the rows begin in is counted first. -/
def rowAt? (l : Layout) (x y total selected : Nat) : Option (Option Nat) :=
  (place? (l.table.y + tableTop)).bind fun top =>
    if !l.table.holds x y || y < top || l.table.bottom - 1 ≤ y then some none
    else
      (scrollOffset? total l.visibleRows selected).bind fun first =>
        (sum? first (y - top)).map fun index => if index < total then some index else none

/-- The label of a page button. -/
def pageLabel (number : Nat) : String :=
  " " ++ toString number ++ " "

/-- A page button on its line: where it starts, and how wide it is. -/
structure Span where
  number : Nat
  start : Nat
  width : Nat
  deriving DecidableEq, Repr

/-- The page buttons from a column on, one column apart. -/
def spansFrom : Nat → List Nat → List Span
  | _, [] => []
  | x, number :: rest =>
    let width := (pageLabel number).length
    ⟨number, x, width⟩ :: spansFrom (Nat.min (x + (width + 1)) last) rest

/-- The page buttons on their line. -/
def spans (numbers : List Nat) : List Span :=
  spansFrom pagesPrefix.length numbers

/-- Whether a column of the line lies on a page button. -/
def Span.holds (s : Span) (x : Nat) : Bool :=
  s.start ≤ x && x < s.start + s.width

/-- Whether a column of the line lies on a page button, if the end of the button is a column. It is
counted for the columns from the start of the button on. -/
def Span.holds? (s : Span) (x : Nat) : Option Bool :=
  if s.start ≤ x then (place? (s.start + s.width)).map fun stop => x < stop else some false

/-- The page whose button is under a position. -/
def pageAt (l : Layout) (x y : Nat) (numbers : List Nat) : Option Nat :=
  if l.pagination.holds x y then
    ((spans numbers).find? fun s => s.holds (x - l.pagination.x)).map Span.number
  else none

/-- The page whose button is under a position, if all that is counted for it are columns. The ends
of the buttons are counted one after the other, until one of them holds the column. -/
def pageAt? (l : Layout) (x y : Nat) (numbers : List Nat) : Option (Option Nat) :=
  if l.pagination.holds x y then
    ((spans numbers).findM? fun s : Span => s.holds? (x - l.pagination.x)).map
      (Option.map Span.number)
  else some none

end Layout

/-- The places of the popup. -/
structure PopupLayout where
  overlay : Area
  content : Area
  closeButton : Area
  deriving DecidableEq, Repr

namespace PopupLayout

/-- The places of the popup on a screen. -/
def of (a : Area) : PopupLayout :=
  let content := a.centered 70 70
  let width := Nat.min closeLabel.length (content.width - 2)
  { overlay := a
    content := content
    closeButton :=
      ⟨content.right - (width + 2), content.y, width, Nat.min 1 content.height⟩ }

/-- The innermost part of the popup under a position. -/
def elementAt (l : PopupLayout) (x y : Nat) : Option PopupElement :=
  if l.closeButton.holds x y then some .closeButton
  else if l.content.holds x y then some .content
  else if l.overlay.holds x y then some .overlay
  else none

end PopupLayout

end Roster.Terminal
