import Roster.Directory.Basic
import Roster.Focus
import Roster.Popup.Basic
import Roster.Url.History

/-!
# A session on the terminal

A session holds the directory and its popup, the address bar, the focus, the row under the cursor,
and how many requests have not been answered.
-/

namespace Roster.Terminal

/-- The state of a session. -/
structure Session where
  running : Bool
  directory : Directory
  popup : Popup
  address : Url.History
  focus : SearchFocus
  listeners : Listeners
  row : Nat
  status : String
  helpShown : Bool
  throbber : Nat
  inFlight : Nat

namespace Session

/-- The status while details are awaited. -/
def loadingStatus : String := "Loading organization..."

/-- The session of a list, opened at an address. -/
def start (organizations : List Organization) (pageSize : PageSize) (address : Url) : Session where
  running := true
  directory := .ofList organizations pageSize (address.parameter? Directory.pageParameter)
  popup := .hidden
  address := .start address
  focus := ⟨false⟩
  listeners := .empty
  row := 0
  status := ""
  helpShown := false
  throbber := 0
  inFlight := 0

/-- Sends requests on their way. -/
def dispatch (s : Session) (requests : List Request) : Step Session :=
  ⟨{ s with inFlight := s.inFlight + requests.length }, requests, []⟩

/-- Asks for the tables of labels. -/
def mount (s : Session) : Step Session :=
  s.dispatch Directory.firstRequests

/-- Brings the popup in line with the directory. -/
def syncPopup (s : Session) : Step Session :=
  let step :=
    s.popup.sync s.directory.selectedOrganization s.directory.popupVisible s.listeners
  let synced := { s with popup := step.state.1, listeners := step.state.2 }
  (synced.dispatch step.requests)

/-! ## Answers -/

/-- Takes in an answer; what it shows may ask for more. -/
def receive (s : Session) (answer : Answer) : Step Session :=
  let s := { s with inFlight := s.inFlight - 1 }
  match answer with
  | .fundingRounds result =>
    (s.directory.receiveFundingRounds result).map fun d => { s with directory := d }
  | .rtoPolicies result =>
    (s.directory.receiveRtoPolicies result).map fun d => { s with directory := d }
  | .detail id result =>
    ((s.directory.receiveDetail id result).map fun d =>
      { s with
        directory := d
        status := if d.pending.isNone then "" else s.status }).andThen syncPopup
  | .scores id result => (s.popup.receiveScores id result).map fun p => { s with popup := p }

/-- Moves the loading sign on, while scores are awaited. -/
def tick (s : Session) : Session :=
  if s.popup.isLoading then { s with throbber := (s.throbber + 1) % 128 } else s

/-! ## Rows -/

/-- The organizations on the page. -/
def rows (s : Session) : List Organization :=
  s.directory.rows

/-- The organization under the cursor. -/
def cursorId (s : Session) : Option OrganizationId :=
  (s.rows[s.row]?).map Organization.id

/-- Moves the cursor up. -/
def previousRow (s : Session) : Session :=
  { s with row := s.row - 1 }

/-- Moves the cursor down, as long as there is a row. -/
def nextRow (s : Session) : Session :=
  if s.row + 1 < s.rows.length then { s with row := s.row + 1 } else s

/-- Moves the cursor to a row, or to the last one. -/
def selectRow (s : Session) (index : Nat) : Session :=
  { s with row := Nat.min index (s.rows.length - 1) }

/-- Moves the cursor to the last row. -/
def selectLastRow (s : Session) : Session :=
  { s with row := s.rows.length - 1 }

/-- Activates an organization: shows its popup, or asks for its details. -/
def activate (s : Session) (id : OrganizationId) : Step Session :=
  let step := s.directory.activate id
  let activated := step.map fun d => { s with directory := d }
  if step.requests.isEmpty then activated.andThen syncPopup
  else
    activated.map fun s =>
      { s with status := loadingStatus, inFlight := s.inFlight + step.requests.length }

/-- Activates the organization under the cursor. -/
def activateCursor (s : Session) : Step Session :=
  match s.cursorId with
  | some id => s.activate id
  | none => .silent s

/-! ## Pages and filters -/

/-- Shows another page, and notes it in the address. -/
def turnTo (s : Session) (page : Nat) : Session :=
  { s with
    directory := s.directory.turnTo page
    address := s.address.push Directory.pageParameter (toString page)
    row := 0 }

/-- Turns the vesting filter over. -/
def toggleVesting (s : Session) : Session :=
  { s with directory := s.directory.toggleVesting, row := 0 }

/-- Searches for another term. -/
def search (s : Session) (term : String) : Session :=
  { s with directory := s.directory.search term, row := 0 }

/-- Adds a character to the search term. -/
def typeSearch (s : Session) (c : Char) : Session :=
  s.search (s.directory.filter.term.push c)

/-- Drops the last character of the search term, if there is one. -/
def eraseSearch (s : Session) : Session :=
  match s.directory.filter.term.toList.reverse with
  | [] => s
  | _ :: before => s.search (String.ofList before.reverse)

/-- Empties the search term, if it is not empty. -/
def clearSearch (s : Session) : Session :=
  if s.directory.filter.term.isEmpty then s else s.search ""

/-- Puts the focus on the search box. -/
def focusSearch (s : Session) : Session :=
  { s with focus := ⟨true⟩ }

/-- Takes the focus off the search box. -/
def endSearch (s : Session) : Session :=
  { s with focus := FocusHost.blur s.focus }

/-! ## The popup -/

/-- Dismisses the popup if the gesture does so. -/
def dismiss (s : Session) (gesture : Gesture) : Session :=
  if s.popup.isDismissedBy gesture then
    { s with focus := clearFocus s.focus, directory := s.directory.closePopup }
  else s

/-- Presses a key on the popup. -/
def popupKey (s : Session) (key : Key) : Step Session :=
  if s.popup.isDismissedBy (.key key) then (s.dismiss (.key key)).syncPopup else .silent s

/-- Presses the close button of the popup. -/
def pressClose (s : Session) : Step Session :=
  (s.dismiss .closeButton).syncPopup

/-- Clicks on a part of the popup; clicks beside the close button arrive at the overlay. -/
def clickPopup (s : Session) (target : PopupElement) : Step Session :=
  if target = .closeButton then s.pressClose
  else if s.popup.isDismissedBy (.click target .overlay) then
    (s.dismiss (.click target .overlay)).syncPopup
  else .silent s

/-- Ends the session. -/
def shutdown (s : Session) : Session :=
  let (popup, listeners) := s.popup.teardown s.listeners
  { s with popup := popup, listeners := listeners, running := false }

end Session

end Roster.Terminal
