import Roster.Popup.Lines
import Roster.Screen.Theme
import Roster.Terminal.Layout
import Roster.Terminal.Session

/-!
# What the terminal shows

The drawing of a session: the directory, over it the popup, and over both the help screen.
-/

namespace Roster.Terminal

open Roster.Screen

/-- A drawing, and where the cursor stands if it shows. -/
structure Picture where
  strokes : List Stroke
  cursor : Option (Nat × Nat)

namespace Session

/-! ## The directory -/

/-- What stands in the empty search box. -/
def searchHint : String := "Search organizations"

/-- The search box. -/
def drawSearch (s : Session) (l : Layout) : List Stroke :=
  let term := s.directory.filter.term
  let text : Span :=
    if term.isEmpty then ⟨searchHint, .colored .darkGray⟩ else .raw term
  let box : Box :=
    { Box.bare with
      title := some (.raw "Search")
      style := if s.focus.focused then .colored .yellow else .plain }
  { Paragraph.of [.of [text]] with box := some box }.draw l.search

/-- Where the cursor stands while the search box has the focus. -/
def cursor (s : Session) (l : Layout) : Option (Nat × Nat) :=
  if s.focus.focused && !s.directory.popupVisible && !s.helpShown then
    let typed := Nat.min s.directory.filter.term.length last
    some (Nat.min (Nat.min (l.search.x + 1 + typed) last) (l.search.right - 2), l.search.y + 1)
  else none

/-- The vesting box. -/
def drawVesting (s : Session) (l : Layout) : List Stroke :=
  let line : Line :=
    .of [⟨Theme.mark s.directory.filter.vestingOnly, Theme.key⟩, .raw " ", .raw vestingLabel]
  { Paragraph.of [line] with box := some .bare }.draw l.vesting

/-- The page buttons, a blank between any two. -/
def pageSpans : List Directory.PageButton → List Span
  | [] => []
  | [button] => [⟨Layout.pageLabel button.number, if button.active then Theme.chosen else Theme.link⟩]
  | button :: rest =>
    ⟨Layout.pageLabel button.number, if button.active then Theme.chosen else Theme.link⟩ ::
      .raw " " :: pageSpans rest

/-- The line of page buttons. -/
def drawPages (v : Directory.View) (l : Layout) : List Stroke :=
  (Paragraph.of [.of (⟨pagesPrefix, Theme.quiet⟩ :: pageSpans v.pages)]).draw l.pagination

/-- The rows that the table shows, each with its index on the page. -/
def shownRows (rows : List Directory.RowView) (visible selected : Nat) :
    List (Directory.RowView × Nat) :=
  (rows.zipIdx.drop (Layout.scrollOffset rows.length visible selected)).take visible

/-- A row of the table. -/
def tableRow (selected : Nat) : Directory.RowView × Nat → Row
  | (row, index) =>
    { cells :=
        [.first row.ranking, .styled row.name .underline, (Line.raw row.averageScore).atRight,
         .first row.fundingRound, .first row.rtoPolicy, (Line.raw row.completeness).atRight]
      style := if index = selected then Theme.chosen else .plain }

/-- The table of organizations. -/
def drawTable (s : Session) (v : Directory.View) (l : Layout) : List Stroke :=
  let link := match v.rows[s.row]? with
    | some row => " " ++ row.link ++ " "
    | none => ""
  let box : Box :=
    { Box.bare with
      title := some (.raw ("Organizations (" ++ toString v.total ++ " matches) | " ++
        s.address.current.write))
      footer := some (Line.raw link).atRight }
  let table : Table :=
    { header := some ⟨Theme.columnTitles.map .raw, Theme.key⟩
      rows := (shownRows v.rows l.visibleRows s.row).map (tableRow s.row)
      widths := [some 5, none, some 13, some 22, some 11, some 20]
      box := some box }
  table.draw l.table

/-- What stands in place of the table when nothing matches. -/
def drawNoMatches (l : Layout) : List Stroke :=
  let text : Paragraph :=
    { lines := [.raw Directory.noMatches]
      style := Theme.quiet
      alignment := .center
      overflow := .cutOff
      box := some { Box.bare with title := some (.raw "Organizations") } }
  text.draw l.table

/-- The keys named in the help line, and what they do. -/
def helpKeys : List (String × String) :=
  [("/", ": Search   "), ("v", ": Vesting filter   "), ("←/→", ": Page   "),
   ("↑/↓", ": Navigate   "), ("Enter", ": Details   "), ("F1", ": Help   "), ("q", ": Quit")]

/-- The help line, with the status behind it. -/
def drawHelpLine (s : Session) (l : Layout) : List Stroke :=
  let keys := helpKeys.flatMap fun (key, action) => [⟨key, Theme.key⟩, Span.raw action]
  let status : List Span :=
    if s.status.isEmpty then [] else [.raw "   ", ⟨s.status, .colored .green⟩]
  let text : Paragraph :=
    { lines := [.of (keys ++ status)]
      style := .plain
      alignment := .center
      overflow := .cutOff
      box := some { Box.bare with sides := .upper } }
  text.draw l.help

/-- The directory. -/
def drawDirectory (s : Session) (l : Layout) : List Stroke :=
  let v := s.directory.view
  s.drawSearch l ++ s.drawVesting l ++ drawPages v l ++
    (if v.noMatches then drawNoMatches l else s.drawTable v l) ++ s.drawHelpLine l

/-! ## The popup -/

/-- The frames of the loading sign. -/
def throbberFrames : List String := ["⠷", "⠯", "⠟", "⠻", "⠽", "⠾"]

/-- The scores of an organization, or the loading sign. -/
def drawScores (s : Session) (v : Popup.View) (a : Area) : List Stroke :=
  match v.scores with
  | .loading =>
    let frame := throbberFrames.getD (s.throbber % throbberFrames.length) ""
    drawLine { a with height := Nat.min 1 a.height }
      (.of [⟨frame ++ " ", Theme.key⟩, .raw Popup.loadingScores])
  | .rows rows =>
    let table : Table :=
      { header := none
        rows := rows.map fun r => ⟨[.first r.name, (Line.raw r.score).atRight], .plain⟩
        widths := [none, some 8]
        box := some { Box.bare with sides := .leftmost } }
    table.draw a

/-- The popup. Everything behind it is dimmed. -/
def drawPopup (s : Session) (screen : Area) : List Stroke :=
  match s.popup.view s.directory.selectedOrganization s.directory.popupVisible with
  | none => []
  | some v =>
    let l := PopupLayout.of screen
    let box : Box :=
      { Box.bare with
        title := some (.styled (" " ++ v.name ++ " ") Style.plain.strong)
        style := .colored .yellow }
    let inner := box.inner l.content
    let left := Area.share inner.width 45
    let details : Paragraph :=
      { Paragraph.of (v.detailLines .plain) with overflow := .broken false }
    [.restyle l.overlay (.colored .darkGray), .empty l.content] ++ box.draw l.content ++
      (Paragraph.of [.styled closeLabel Theme.key]).draw l.closeButton ++
      details.draw { inner with width := left } ++
      s.drawScores v { inner with x := inner.x + left, width := inner.width - left }

/-! ## The help screen -/

/-- The keys named on the help screen, and what they do. -/
def helpEntries : List (String × String) :=
  [("/ or s", "Focus the search box"),
   ("Enter / Esc", "Leave the search box"),
   ("Esc", "Clear the search term"),
   ("v", "Toggle the vesting filter"),
   ("← / →", "Previous / next page"),
   ("1-9", "Jump to a page"),
   ("↑ / ↓", "Move the row cursor"),
   ("Enter", "Show organization details"),
   ("x", "Close the details popup"),
   ("Esc", "Dismiss the details popup"),
   ("Mouse", "Click rows, pages, filters and the overlay"),
   ("q", "Quit")]

/-- The help screen. -/
def drawHelp (screen : Area) : List Stroke :=
  let a := screen.centered 60 60
  let entries := helpEntries.map fun (key, action) =>
    Line.of [⟨Text.padded 12 key ++ "  ", Theme.key⟩, .raw action]
  let closing : List Line := [.of [], .styled "F1 or Esc to close" Theme.quiet]
  let box : Box :=
    { Box.bare with title := some (.raw "Help"), style := .colored .yellow }
  .empty a :: { Paragraph.of (entries ++ closing) with box := some box }.draw a

/-! ## Everything -/

/-- The whole screen. -/
def draw (s : Session) (screen : Area) : Picture :=
  let l := Layout.of screen
  ⟨s.drawDirectory l ++ s.drawPopup screen ++ (if s.helpShown then drawHelp screen else []),
    s.cursor l⟩

end Session

end Roster.Terminal
