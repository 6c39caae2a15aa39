import Roster.Directory.View
import Roster.Popup.Lines
import Roster.Screen.Theme
import Roster.Web.Session

/-!
# What the web page shows

The drawing of a session on the web: the directory inside a frame, and over it the popup.
-/

namespace Roster.Web

open Roster.Screen

/-- The label of the vesting box. -/
def vestingLabel : String := "Show only companies with first vesting in < 1 year"

/-- The header of a table. -/
def headerStyle : Style := (Style.colored Theme.blue).strong.on (.rgb 200 200 200)

/-- The style of titles. -/
def titleStyle : Style := Theme.link.strong

/-- A box with quiet sides. -/
def quietBox : Box := { Box.bare with style := Theme.quiet }

namespace Session

/-- The search box and the vesting box. -/
def drawControls (s : Session) (a : Area) : List Stroke :=
  let width := a.width - 58
  let term := s.directory.filter.term
  let text : Span :=
    if s.focus.search then .raw (term ++ "▏")
    else if term.isEmpty then ⟨"Press / to search", .colored .darkGray⟩
    else .raw term
  let box : Box :=
    { Box.bare with
      title := some (.raw "Search")
      style := if s.focus.search then .colored .yellow else Theme.quiet }
  let vesting : Line :=
    .of [⟨Theme.mark s.directory.filter.vestingOnly ++ " ", .colored .yellow⟩, .raw vestingLabel]
  { Paragraph.of [.of [text]] with box := some box }.draw { a with width := width } ++
    { Paragraph.of [vesting] with box := some quietBox }.draw
      { a with x := a.x + width, width := a.width - width }

/-- The page buttons, each with a blank behind it. -/
def drawPages (v : Directory.View) (a : Area) : List Stroke :=
  let buttons := v.pages.flatMap fun button =>
    [⟨" " ++ toString button.number ++ " ", if button.active then Theme.chosen else Theme.link⟩,
      Span.raw " "]
  (Paragraph.of [.of (⟨"Pages: ", Theme.quiet⟩ :: buttons)]).draw a

/-- The table of organizations. -/
def drawTable (s : Session) (v : Directory.View) (a : Area) : List Stroke :=
  let rows := v.rows.zipIdx.map fun (row, index) =>
    { cells :=
        [row.ranking, row.name, row.averageScore, row.fundingRound, row.rtoPolicy,
          row.completeness].map .first
      style := if index = s.row then Theme.chosen else .colored .white : Row }
  let table : Table :=
    { header := some ⟨Theme.columnTitles.map .raw, headerStyle⟩
      rows := rows
      widths := [some 5, none, some 14, some 22, some 11, some 21]
      box := some { quietBox with title := some (.raw (toString v.total ++ " matches")) } }
  table.draw a

/-- What stands in place of the table when nothing matches. -/
def drawNoMatches (a : Area) : List Stroke :=
  { Paragraph.of [.raw Directory.noMatches] with
    style := Theme.quiet, alignment := .center }.draw a

/-- The keys named in the last line, and what they do. -/
def footerKeys : List (String × String) :=
  [("/", "Search"), ("v", "Vesting"), ("←/→ 1-9", "Page"), ("↑/↓", "Select"), ("Enter", "Details"),
   ("Esc/x", "Close")]

/-- The last line. -/
def drawFooter (a : Area) : List Stroke :=
  let spans := footerKeys.flatMap fun (key, action) =>
    [⟨key, Theme.quiet⟩, Span.raw (" " ++ action ++ "  ")]
  { Paragraph.of [.of spans] with alignment := .center }.draw a

/-- The scores of an organization, or the loading sign. -/
def drawScores (s : Session) (v : Popup.View) (a : Area) : List Stroke :=
  match v.scores with
  | .loading =>
    (Paragraph.of [.of [⟨String.singleton (Spinner.frame s.spinner) ++ " ", .colored .yellow⟩,
      .raw Popup.loadingScores]]).draw a
  | .rows rows =>
    let table : Table :=
      { header := some ⟨[.raw "Score", .raw ""], headerStyle⟩
        rows := rows.map fun r => ⟨[.first r.name, .raw r.score], .colored .white⟩
        widths := [none, some 8]
        box := none }
    table.draw a

/-- The popup. Everything behind it is dimmed. -/
def drawPopup (s : Session) (screen : Area) : List Stroke :=
  match s.popup.view s.directory.selectedOrganization s.directory.popupVisible with
  | none => []
  | some v =>
    let content := screen.centered 70 70
    let box : Box :=
      { sides := .all
        style := .colored .yellow
        title := some (.unbroken v.name)
        footer := some (Line.raw "[x] Close").atRight
        titleStyle := titleStyle }
    let inner := (box.inner content).shrink 1 0
    let left := Area.share inner.width 50
    let details : Paragraph := { Paragraph.of (v.detailLines (.colored .white)) with overflow := .broken true }
    [.restyle screen (.colored .darkGray), .empty content] ++ box.draw content ++
      details.draw { inner with width := left } ++
      s.drawScores v { inner with x := inner.x + left, width := inner.width - left }

/-- The whole screen. -/
def draw (s : Session) (screen : Area) : List Stroke :=
  let frame : Box :=
    { quietBox with title := some (.raw "Organization Directory"), titleStyle := titleStyle }
  let inner := (frame.inner screen).shrink 1 1
  let v := s.directory.view
  let tableHeight := inner.height - 5
  let at' (offset height : Nat) : Area := { inner with y := inner.y + offset, height := height }
  let table := at' 4 tableHeight
  frame.draw screen ++ s.drawControls (at' 0 3) ++ drawPages v (at' 3 1) ++
    (if v.noMatches then drawNoMatches table else s.drawTable v table) ++
    drawFooter (at' (4 + tableHeight) 1) ++ s.drawPopup screen

end Session

end Roster.Web
