import Roster.Directory.Basic
import Roster.Focus
import Roster.Popup.Basic
import Roster.Web.Spinner

/-!
# A session on the web

The same directory and popup as on the terminal, inside a page that holds the focus itself. Page
changes are pushed into the address of the page.
-/

namespace Roster.Web

/-- A key, as far as the page tells keys apart. -/
inductive KeyPress where
  | char (c : Char)
  | backspace
  | enter
  | escape
  | left
  | right
  | up
  | down
  | other
  deriving DecidableEq, Repr

/-- What the popup sees of a key. -/
def KeyPress.toKey : KeyPress → Key
  | .escape => .escape
  | .enter => .enter
  | .char c => .char c
  | _ => .other

/-- The state of a session; the pages pushed into the address stand with the latest first. -/
structure Session where
  directory : Directory
  popup : Popup
  listeners : Listeners
  pushed : List Nat
  focus : PageFocus
  row : Nat
  spinner : Float
  lastTick : Option Float

namespace Session

/-- The session of a list, opened at the page that the address names. -/
def start (organizations : List Organization) (pageSize : PageSize) (page : Option String) :
    Session where
  directory := .ofList organizations pageSize page
  popup := .hidden
  listeners := .empty
  pushed := []
  focus := ⟨false, .inert, 0⟩
  row := 0
  spinner := 0.0
  lastTick := none

/-- Brings the popup in line with the directory. -/
def syncPopup (s : Session) : Step Session :=
  (s.popup.sync s.directory.selectedOrganization s.directory.popupVisible s.listeners).map
    fun (popup, listeners) => { s with popup := popup, listeners := listeners }

/-- Takes in an answer; what it shows may ask for more. -/
def receive (s : Session) (answer : Answer) : Step Session :=
  match answer with
  | .fundingRounds result =>
    (s.directory.receiveFundingRounds result).map fun d => { s with directory := d }
  | .rtoPolicies result =>
    (s.directory.receiveRtoPolicies result).map fun d => { s with directory := d }
  | .detail id result =>
    ((s.directory.receiveDetail id result).map fun d => { s with directory := d }).andThen syncPopup
  | .scores id result => (s.popup.receiveScores id result).map fun p => { s with popup := p }

/-- Shows another page, and pushes it into the address. -/
def turnTo (s : Session) (page : Nat) : Session :=
  { s with directory := s.directory.turnTo page, pushed := page :: s.pushed, row := 0 }

/-- Searches for another term. -/
def search (s : Session) (term : String) : Session :=
  { s with directory := s.directory.search term, row := 0 }

/-- Activates the organization under the cursor. -/
def activateCursor (s : Session) : Step Session :=
  match s.directory.rows[s.row]? with
  | none => .silent s
  | some o =>
    let step := s.directory.activate o.id
    let activated := step.map fun d => { s with directory := d }
    if step.requests.isEmpty then activated.andThen syncPopup else activated

/-- Dismisses the popup if the gesture does so. -/
def dismiss (s : Session) (gesture : Gesture) : Session :=
  if s.popup.isDismissedBy gesture then
    { s with focus := clearFocus s.focus, directory := s.directory.closePopup }
  else s

/-- A key on the popup; one letter presses its close button. -/
def popupKey (s : Session) (key : KeyPress) : Step Session :=
  if key = .char 'x' then (s.dismiss .closeButton).syncPopup
  else if s.popup.isDismissedBy (.key key.toKey) then (s.dismiss (.key key.toKey)).syncPopup
  else .silent s

/-- A key in the search box. -/
def searchKey (s : Session) (key : KeyPress) : Session :=
  let term := s.directory.filter.term
  match key with
  | .char c => s.search (term.push c)
  | .backspace =>
    match term.toList.reverse with
    | [] => s
    | _ :: before => s.search (String.ofList before.reverse)
  | .enter | .escape | .down => { s with focus := FocusHost.blur s.focus }
  | .left | .right | .up | .other => s

/-- A key in the directory. -/
def directoryKey (s : Session) (key : KeyPress) : Step Session :=
  let count := s.directory.pageNumbers.length
  let current := s.directory.page
  match key with
  | .char c =>
    if c = '/' || c = 's' then .silent { s with focus := { s.focus with search := true } }
    else if c = 'v' then .silent { s with directory := s.directory.toggleVesting, row := 0 }
    else if '1' ≤ c && c ≤ '9' && c.toNat - 0x30 ≤ count then .silent (s.turnTo (c.toNat - 0x30))
    else .silent s
  | .left => .silent (if 1 < current then s.turnTo (current - 1) else s)
  | .right => .silent (if current < count then s.turnTo (current + 1) else s)
  | .up => .silent { s with row := s.row - 1 }
  | .down =>
    .silent (if s.row + 1 < s.directory.rows.length then { s with row := s.row + 1 } else s)
  | .enter => s.activateCursor
  | .backspace | .escape | .other => .silent s

/-- Presses a key. -/
def press (s : Session) (key : KeyPress) : Step Session :=
  if s.directory.popupVisible then s.popupKey key
  else if s.focus.search then .silent (s.searchKey key)
  else s.directoryKey key

/-- Moves the loading sign to the time `now`. -/
def tick (s : Session) (now : Float) : Session :=
  { s with
    spinner := Spinner.advance s.spinner s.lastTick now s.popup.isLoading
    lastTick := some now }

end Session

end Roster.Web
