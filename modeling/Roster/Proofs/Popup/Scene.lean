import Roster.Proofs.Popup.Listening
import Roster.Terminal.Session
import Roster.Web.Session

/-!
# The popup among its surroundings

A popup is brought in line with what is to be shown, receives scores, is torn down, and is the
target of gestures. Around it is something that holds the focus and that its owner changes when the
popup is dismissed. Whatever happens, the popup listens exactly while it is visible: a listener is
added each time it turns visible and removed when it turns hidden. A gesture never touches the popup
itself. If it dismisses the popup, the focus is taken away first and the owner is told once.
-/

namespace Roster

namespace Popup

variable {α : Type}

/-- Carries out a gesture on what is around the popup: one that dismisses the popup takes the focus
away, and then closes. -/
def handle [FocusHost α] (p : Popup) (close : α → α) (gesture : Gesture) (around : α) : α :=
  if p.isDismissedBy gesture then close (clearFocus around) else around

/-- A popup with the register of its listener and what is around it. -/
structure Scene (α : Type) where
  popup : Popup
  listeners : Listeners
  around : α

/-- Something that happens to a popup or around it. -/
inductive Operation (α : Type) where
  | sync (organization : Option Organization) (visible : Bool)
  | receiveScores (id : OrganizationId) (result : Fetched (List Score))
  | teardown
  | gesture (gesture : Gesture) (close : α → α)
  | elsewhere (change : α → α)

/-- The visibility that an operation brings about. -/
def Operation.shown? : Operation α → Option Bool
  | .sync _ visible => some visible
  | .teardown => some false
  | _ => none

/-- How often a popup turns from hidden to visible, from its visibility before and those after. -/
def showings : Bool → List Bool → Nat
  | _, [] => 0
  | before, now :: rest => (if now && !before then 1 else 0) + showings now rest

namespace Scene

/-- A new popup with a register of its own. -/
def opening (around : α) : Scene α := ⟨.hidden, .empty, around⟩

variable [FocusHost α]

/-- What an operation leads to. -/
def perform (s : Scene α) : Operation α → Step (Scene α)
  | .sync organization visible =>
    (s.popup.sync organization visible s.listeners).map
      fun (popup, listeners) => { s with popup := popup, listeners := listeners }
  | .receiveScores id result =>
    (s.popup.receiveScores id result).map fun popup => { s with popup := popup }
  | .teardown =>
    let (popup, listeners) := s.popup.teardown s.listeners
    .silent { s with popup := popup, listeners := listeners }
  | .gesture gesture close => .silent { s with around := s.popup.handle close gesture s.around }
  | .elsewhere change => .silent { s with around := change s.around }

/-- The scene after operations, the first of them performed first. -/
def run (s : Scene α) (ops : List (Operation α)) : Scene α :=
  ops.foldl (fun s op => (s.perform op).state) s

end Scene

/-! ## Visibility and listeners -/

/-- A popup that is brought in line has the visibility asked for. -/
theorem sync_visible (p : Popup) (organization : Option Organization) (visible : Bool)
    (l : Listeners) : (p.sync organization visible l).state.1.visible = visible := by
  cases visible with
  | false => cases organization <;> rfl
  | true =>
    have hvisible : (p.setVisible true l).1.visible = true := (p.setVisible_true l).1
    cases organization with
    | none => exact hvisible
    | some o => exact ((p.setVisible true l).1.requestScores_shown o).1.trans hvisible

/-- Bringing a popup in line changes the register as its visibility requires. -/
theorem sync_listeners (p : Popup) (organization : Option Organization) (visible : Bool)
    (l : Listeners) : (p.sync organization visible l).state.2 = (p.setVisible visible l).2 := by
  cases organization <;> cases visible <;> rfl

/-- Scores that come in change neither the visibility nor the listener. -/
theorem receiveScores_shown (p : Popup) (id : OrganizationId) (result : Fetched (List Score)) :
    (p.receiveScores id result).state.visible = p.visible := by
  by_cases hloading : p.scores = .loading id
  · rw [(p.receiveScores_of_loading id result hloading).1]
  · rw [p.receiveScores_of_ne id result hloading, Step.silent_state]

/-- Detaching a listener adds none. -/
theorem detach_added (p : Popup) (l : Listeners) : (p.detach l).added = l.added := by
  unfold detach
  split
  · exact l.added_remove _
  · rfl

/-- A listener is added when a popup without one is shown. -/
theorem setVisible_added (p : Popup) (visible : Bool) (l : Listeners) :
    (p.setVisible visible l).2.added =
      l.added + if visible && !p.listener.isSome then 1 else 0 := by
  cases visible with
  | false => exact p.detach_added l
  | true =>
    unfold setVisible
    cases p.listener <;> rfl

namespace Scene

variable [FocusHost α] {s : Scene α}

/-- Every operation keeps the popup in order. -/
theorem inOrder_perform (h : s.popup.InOrder s.listeners) (op : Operation α) :
    (s.perform op).state.popup.InOrder (s.perform op).state.listeners := by
  cases op with
  | sync organization visible => exact h.sync organization visible
  | receiveScores id result => exact h.receiveScores id result
  | teardown => exact h.hide
  | gesture gesture close => exact h
  | elsewhere change => exact h

/-- Every run keeps the popup in order. -/
theorem inOrder_run (h : s.popup.InOrder s.listeners) (ops : List (Operation α)) :
    (s.run ops).popup.InOrder (s.run ops).listeners := by
  induction ops generalizing s with
  | nil => exact h
  | cons op rest ih => exact ih (inOrder_perform h op)

/-- The popup is as visible as the operation leaves it. -/
theorem visible_perform (s : Scene α) (op : Operation α) :
    (s.perform op).state.popup.visible = op.shown?.getD s.popup.visible := by
  cases op with
  | sync organization visible => exact s.popup.sync_visible organization visible s.listeners
  | receiveScores id result => exact s.popup.receiveScores_shown id result
  | _ => rfl

/-- The popup is as visible as the last operation that concerned it left it. -/
theorem visible_run (s : Scene α) (ops : List (Operation α)) :
    (s.run ops).popup.visible = (ops.filterMap Operation.shown?).getLastD s.popup.visible := by
  induction ops generalizing s with
  | nil => rfl
  | cons op rest ih =>
    have hrest := ih (s.perform op).state
    rw [visible_perform] at hrest
    cases hop : op.shown? with
    | none =>
      rw [hop] at hrest
      rw [List.filterMap_cons_none hop]
      exact hrest
    | some visible =>
      rw [hop] at hrest
      rw [List.filterMap_cons_some hop, List.getLastD_cons]
      exact hrest

/-- An operation adds a listener when it turns the popup visible. -/
theorem added_perform (h : s.popup.InOrder s.listeners) (op : Operation α) :
    (s.perform op).state.listeners.added =
      s.listeners.added + showings s.popup.visible op.shown?.toList := by
  cases op with
  | sync organization visible =>
    have hsync := s.popup.sync_listeners organization visible s.listeners
    have hadded := s.popup.setVisible_added visible s.listeners
    rw [h.listening] at hadded
    exact (congrArg Listeners.added hsync).trans hadded
  | teardown => exact s.popup.detach_added s.listeners
  | _ => rfl

/-- As many listeners are added as the popup turns visible. -/
theorem added_run (h : s.popup.InOrder s.listeners) (ops : List (Operation α)) :
    (s.run ops).listeners.added =
      s.listeners.added + showings s.popup.visible (ops.filterMap Operation.shown?) := by
  induction ops generalizing s with
  | nil => rfl
  | cons op rest ih =>
    have hrest := ih (inOrder_perform h op)
    rw [added_perform h, visible_perform] at hrest
    cases hop : op.shown? with
    | none =>
      rw [hop] at hrest
      rw [List.filterMap_cons_none hop]
      exact hrest
    | some visible =>
      rw [hop, Nat.add_assoc] at hrest
      rw [List.filterMap_cons_some hop]
      exact hrest

end Scene

/-! ## Gestures -/

/-- A popup that listens while it is visible is dismissed by its close button, by Escape and by a
click on the overlay itself. -/
theorem isDismissedBy_iff {p : Popup} (h : p.listener.isSome = p.visible) (g : Gesture) :
    p.isDismissedBy g = true ↔
      p.visible = true ∧ (g = .closeButton ∨ g = .key .escape ∨ g = .click .overlay .overlay) := by
  cases g with
  | closeButton => simp [isDismissedBy]
  | click target handler => simp [isDismissedBy, and_assoc]
  | key key =>
    rw [isDismissedBy, h]
    cases p.visible <;> simp

/-- A new popup with a register of its own, whatever happens to it and around it, listens exactly
while the last operation that concerned its visibility left it visible. Its listener is then the
only one attached; the register has removed all others that it has added, which are as many as the
popup turned visible. While it is hidden it has no scores. A gesture leaves the popup and the
register as they are, and changes what is around only if the popup is visible and the gesture is
the close button, Escape or a click on the overlay itself: then a focusable element loses the focus,
and after that the popup is closed once. -/
theorem listening_run [FocusHost α] (around : α) (ops : List (Operation α)) :
    let s := (Scene.opening around).run ops
    let visible := (ops.filterMap Operation.shown?).getLastD false
    (s.popup.visible = visible ∧ s.popup.listener.isSome = visible ∧
        s.listeners.attached = s.popup.listener.toList) ∧
      (s.listeners.count = (if visible then 1 else 0) ∧
        s.listeners.added = s.listeners.removed + s.listeners.count ∧
        s.listeners.added = showings false (ops.filterMap Operation.shown?)) ∧
      (visible = false → s.popup.scores = .idle) ∧
      ∀ gesture close,
        let next := (s.perform (.gesture gesture close)).state
        (next.popup = s.popup ∧ next.listeners = s.listeners) ∧
          next.around =
            if visible = true ∧ (gesture = .closeButton ∨ gesture = .key .escape ∨
                gesture = .click .overlay .overlay) then
              close (if FocusHost.holder s.around = .focusable then FocusHost.blur s.around
                else s.around)
            else s.around := by
  intro s visible
  have horder : s.popup.InOrder s.listeners := Scene.inOrder_run inOrder_hidden ops
  have hvisible : s.popup.visible = visible := Scene.visible_run (Scene.opening around) ops
  have hadded := Scene.added_run (s := Scene.opening around) inOrder_hidden ops
  refine ⟨⟨hvisible, horder.listening.trans hvisible, horder.attached⟩,
    ⟨hvisible ▸ horder.count, horder.balanced, ?_⟩, ?_, ?_⟩
  · exact hadded.trans (Nat.zero_add _)
  · intro hhidden
    exact horder.idle (hvisible.trans hhidden)
  · intro gesture close next
    refine ⟨⟨rfl, rfl⟩, ?_⟩
    change s.popup.handle close gesture s.around = _
    simp only [handle, isDismissedBy_iff horder.listening, hvisible, clearFocus]

end Popup

/-! ## Sessions -/

/-- A session on the terminal holds the focus in its search box. -/
instance Terminal.Session.focusHost : FocusHost Terminal.Session where
  holder s := FocusHost.holder s.focus
  blur s := { s with focus := FocusHost.blur s.focus }

/-- A session on the web holds the focus in its page. -/
instance Web.Session.focusHost : FocusHost Web.Session where
  holder s := FocusHost.holder s.focus
  blur s := { s with focus := FocusHost.blur s.focus }

/-- A session on the terminal is what is around its popup; closing changes its directory. -/
theorem Terminal.Session.dismiss_eq_handle (s : Terminal.Session) (gesture : Gesture) :
    s.dismiss gesture =
      s.popup.handle (fun s => { s with directory := s.directory.closePopup }) gesture s := by
  have hclear : clearFocus s = { s with focus := clearFocus s.focus } := by
    change (if FocusHost.holder s.focus = .focusable then
      { s with focus := FocusHost.blur s.focus } else s) = _
    unfold clearFocus
    split <;> rfl
  rw [dismiss, Popup.handle, hclear]

/-- A session on the web is what is around its popup; closing changes its directory. -/
theorem Web.Session.dismiss_eq_handle (s : Web.Session) (gesture : Gesture) :
    s.dismiss gesture =
      s.popup.handle (fun s => { s with directory := s.directory.closePopup }) gesture s := by
  have hclear : clearFocus s = { s with focus := clearFocus s.focus } := by
    change (if FocusHost.holder s.focus = .focusable then
      { s with focus := FocusHost.blur s.focus } else s) = _
    unfold clearFocus
    split <;> rfl
  rw [dismiss, Popup.handle, hclear]

end Roster
