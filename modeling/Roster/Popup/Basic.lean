import Roster.Listeners
import Roster.Step

/-!
# The popup of an organization

The directory decides whose popup is shown; the popup asks for scores that are not known, listens
for Escape while it is shown, and decides which gestures dismiss it.
-/

namespace Roster

/-- What the popup knows of the scores it asked for. -/
inductive FetchedScores where
  | idle
  | loading (id : OrganizationId)
  | loaded (id : OrganizationId) (scores : List Score)
  deriving Repr

/-- Whether the scores of an organization are loading or loaded. -/
def FetchedScores.concern (s : FetchedScores) (id : OrganizationId) : Bool :=
  match s with
  | .idle => false
  | .loading other => other == id
  | .loaded other _ => other == id

/-- The state of the popup. -/
structure Popup where
  scores : FetchedScores
  listener : Option Nat
  visible : Bool
  deriving Repr

/-- A key, as far as the popup tells keys apart. -/
inductive Key where
  | escape
  | enter
  | char (c : Char)
  | other
  deriving DecidableEq, Repr

/-- A part of the popup. -/
inductive PopupElement where
  | overlay
  | content
  | closeButton
  deriving DecidableEq, Repr

/-- Something done to the popup. A click lands on one element and is handled by another. -/
inductive Gesture where
  | closeButton
  | click (target handler : PopupElement)
  | key (key : Key)
  deriving DecidableEq, Repr

/-- Whether a click goes on to the elements around. -/
inductive Propagation where
  | goesOn
  | stops
  deriving DecidableEq, Repr

namespace Popup

/-- The popup before it is shown. -/
def hidden : Popup := ⟨.idle, none, false⟩

/-- Detaches the listener of the popup, if it has one. -/
def detach (p : Popup) (l : Listeners) : Listeners :=
  match p.listener with
  | some id => l.remove id
  | none => l

/-- Takes over whether the popup is shown. It listens while it is shown, and forgets the scores it
fetched when it is hidden. -/
def setVisible (p : Popup) (visible : Bool) (l : Listeners) : Popup × Listeners :=
  if visible then
    match p.listener with
    | some id => (⟨p.scores, some id, true⟩, l)
    | none => (⟨p.scores, some l.next, true⟩, l.add)
  else (hidden, p.detach l)

/-- Asks for the scores of an organization, unless they are known, loading or loaded. -/
def requestScores (p : Popup) (o : Organization) : Step Popup :=
  if o.knownScores.isSome || p.scores.concern o.id then .silent p
  else ⟨{ p with scores := .loading o.id }, [.scores o.id], []⟩

/-- Brings the popup in line with what the directory wants to show. -/
def sync (p : Popup) (organization : Option Organization) (visible : Bool) (l : Listeners) :
    Step (Popup × Listeners) :=
  let (shown, listeners) := p.setVisible visible l
  match organization with
  | some o =>
    if visible then (shown.requestScores o).map (·, listeners) else .silent (shown, listeners)
  | none => .silent (shown, listeners)

/-- Takes in the scores of an organization, if the popup waits for them. -/
def receiveScores (p : Popup) (id : OrganizationId) (result : Fetched (List Score)) : Step Popup :=
  match p.scores with
  | .loading other =>
    if other == id then
      match result with
      | .ok scores => .silent { p with scores := .loaded id scores }
      | .error e =>
        ⟨{ p with scores := .loaded id [] }, [],
          [⟨.error, "Error fetching organization scores: " ++ e.message⟩]⟩
    else .silent p
  | _ => .silent p

/-- Takes the popup away for good. -/
def teardown (p : Popup) (l : Listeners) : Popup × Listeners :=
  (hidden, p.detach l)

/-- Whether the popup waits for scores. -/
def isLoading (p : Popup) : Bool :=
  match p.scores with
  | .loading _ => true
  | _ => false

/-- Whether a gesture dismisses the popup: the close button, Escape, or a click on the overlay
itself. -/
def isDismissedBy (p : Popup) : Gesture → Bool
  | .closeButton => p.visible
  | .click target handler => p.visible && target = .overlay && handler = .overlay
  | .key key => p.visible && key = .escape && p.listener.isSome

/-- A click on the close button never goes on. -/
def closeButtonPropagation : Propagation := .stops

end Popup

end Roster
