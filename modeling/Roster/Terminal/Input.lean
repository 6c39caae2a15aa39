import Roster.Directory.Turning
import Roster.Terminal.Layout
import Roster.Terminal.Session

/-!
# Keys and clicks on the terminal

What a key does depends on what is shown: the help screen comes first, then the popup, then the
search box while it has the focus, and last the directory. Clicks go by the places of the screen.
-/

namespace Roster.Terminal

/-- A key of the keyboard. -/
inductive KeyPress where
  | char (c : Char)
  | escape
  | enter
  | backspace
  | tab
  | left
  | right
  | up
  | down
  | home
  | end_
  | function (n : Nat)
  | other
  deriving DecidableEq, Repr

/-- What the popup sees of a key. -/
def KeyPress.toKey : KeyPress → Key
  | .escape => .escape
  | .enter => .enter
  | .char c => .char c
  | _ => .other

namespace Session

/-- Shows another page, if there is one to show. -/
def turnTo? (s : Session) (page : Option Nat) : Session :=
  match page with
  | some page => s.turnTo page
  | none => s

/-- A key in the directory. -/
def directoryKey (s : Session) (key : KeyPress) : Step Session :=
  let count := s.directory.pageNumbers.length
  let current := s.directory.page
  match key with
  | .char c =>
    if c = 'q' then .silent s.shutdown
    else if c = '/' || c = 's' then .silent s.focusSearch
    else if c = 'v' then .silent s.toggleVesting
    else if c = 'h' then .silent (s.turnTo? (Page.previous? current count))
    else if c = 'l' then .silent (s.turnTo? (Page.next? current count))
    else if c = 'k' then .silent s.previousRow
    else if c = 'j' then .silent s.nextRow
    else .silent (s.turnTo? (Page.ofDigit? c count))
  | .escape => .silent s.clearSearch
  | .left => .silent (s.turnTo? (Page.previous? current count))
  | .right => .silent (s.turnTo? (Page.next? current count))
  | .up => .silent s.previousRow
  | .down => .silent s.nextRow
  | .home => .silent (s.selectRow 0)
  | .end_ => .silent s.selectLastRow
  | .enter => s.activateCursor
  | .backspace | .tab | .function _ | .other => .silent s

/-- A key in the search box. -/
def searchKey (s : Session) (key : KeyPress) : Session :=
  match key with
  | .char c => s.typeSearch c
  | .backspace => s.eraseSearch
  | .enter | .escape | .tab | .down => s.endSearch
  | .left | .right | .up | .home | .end_ | .function _ | .other => s

/-- A key on the popup; one letter presses its close button. -/
def popupPress (s : Session) (key : KeyPress) : Step Session :=
  if key = .char 'x' then s.pressClose else s.popupKey key.toKey

/-- Presses a key. -/
def press (s : Session) (key : KeyPress) : Step Session :=
  if key = .function 1 then .silent { s with helpShown := !s.helpShown }
  else if s.helpShown then
    .silent (if key = .escape then { s with helpShown := false } else s)
  else if s.directory.popupVisible then s.popupPress key
  else if s.focus.focused then .silent (s.searchKey key)
  else s.directoryKey key

/-- Clicks on a position of the directory. -/
def clickDirectory (s : Session) (screen : Screen.Area) (x y : Nat) : Step Session :=
  let layout := Layout.of screen
  if layout.search.holds x y then .silent s.focusSearch
  else
    let s := s.endSearch
    if layout.vesting.holds x y then .silent s.toggleVesting
    else
      match layout.pageAt x y s.directory.pageNumbers with
      | some page => .silent (s.turnTo page)
      | none =>
        match layout.rowAt x y s.rows.length s.row with
        | some index => (s.selectRow index).activateCursor
        | none => .silent s

/-- Clicks on a position of the screen. -/
def click (s : Session) (screen : Screen.Area) (x y : Nat) : Step Session :=
  if s.helpShown then .silent s
  else if s.directory.popupVisible then
    match (PopupLayout.of screen).elementAt x y with
    | some element => s.clickPopup element
    | none => .silent s
  else s.clickDirectory screen x y

/-- Clicks on a position of the directory, if all that is counted for the click are columns, lines
and words. -/
def clickDirectory? (s : Session) (screen : Screen.Area) (x y : Nat) : Option (Step Session) :=
  let layout := Layout.of screen
  if layout.search.holds x y then some (.silent s.focusSearch)
  else
    let s := s.endSearch
    if layout.vesting.holds x y then some (.silent s.toggleVesting)
    else
      (layout.pageAt? x y s.directory.pageNumbers).bind fun
        | some page => some (.silent (s.turnTo page))
        | none => (layout.rowAt? x y s.rows.length s.row).map fun
          | some index => (s.selectRow index).activateCursor
          | none => .silent s

/-- Clicks on a position of the screen, if all that is counted for the click are columns, lines and
words. -/
def click? (s : Session) (screen : Screen.Area) (x y : Nat) : Option (Step Session) :=
  if s.helpShown || s.directory.popupVisible then some (s.click screen x y)
  else s.clickDirectory? screen x y

end Session

end Roster.Terminal
