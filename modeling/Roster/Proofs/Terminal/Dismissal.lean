import Roster.Proofs.Terminal.InLine

/-!
# Dismissing the popup

The places of the popup are nested: the close button lies in the content and the content on the
screen, however few cells there are. So a position has one innermost place, and a click dismisses the
popup exactly on the close button and on what is around the content; of the keys, Escape and the
letter of the close button do. What dismisses the popup leads to one and the same session: nothing is
selected, the popup is as if never shown, its listener is detached and the search box has no focus.
-/

namespace Roster

namespace Terminal

open Screen

namespace PopupLayout

variable {screen : Area} {x y : Nat}

/-- The content lies on the screen. -/
theorem holds_of_content (h : (PopupLayout.of screen).content.holds x y = true) :
    screen.holds x y = true :=
  Area.holds_of_middle (by decide) (by decide) h

/-- The close button lies in the content. Where the content has no room for it beside a margin of a
cell on each side, it has no cells. -/
theorem holds_of_closeButton (hscreen : screen.x + screen.width ≤ last)
    (h : (PopupLayout.of screen).closeButton.holds x y = true) :
    (PopupLayout.of screen).content.holds x y = true := by
  have hcontent : (screen.centered 70 70).x + (screen.centered 70 70).width ≤ last :=
    Area.middle_within hscreen (by decide) (by decide)
  have hright : (screen.centered 70 70).right =
      (screen.centered 70 70).x + (screen.centered 70 70).width := Nat.min_eq_left hcontent
  have hbutton : Nat.min closeLabel.length ((screen.centered 70 70).width - 2) ≤
      (screen.centered 70 70).width - 2 := Nat.min_le_right _ _
  have hline : Nat.min 1 (screen.centered 70 70).height ≤ (screen.centered 70 70).height :=
    Nat.min_le_right _ _
  rw [Area.holds_iff] at h ⊢
  simp only [PopupLayout.of, hright] at h ⊢
  omega

/-- The positions of the screen on the close button or beside the content. -/
def DismissesAt (l : PopupLayout) (x y : Nat) : Prop :=
  l.overlay.holds x y = true ∧ (l.content.holds x y = false ∨ l.closeButton.holds x y = true)

instance (l : PopupLayout) (x y : Nat) : Decidable (l.DismissesAt x y) :=
  inferInstanceAs (Decidable (_ ∧ _))

/-- At these positions, and no others, the innermost place is one other than the content. -/
theorem elementAt_ne_content_iff (hscreen : screen.x + screen.width ≤ last) :
    (∃ target, (PopupLayout.of screen).elementAt x y = some target ∧ target ≠ .content) ↔
      (PopupLayout.of screen).DismissesAt x y := by
  have hoverlay : (PopupLayout.of screen).overlay = screen := rfl
  unfold elementAt DismissesAt
  rw [hoverlay]
  cases hbutton : (PopupLayout.of screen).closeButton.holds x y with
  | true =>
    have hcontent := holds_of_closeButton hscreen hbutton
    simp [holds_of_content hcontent]
  | false =>
    cases (PopupLayout.of screen).content.holds x y with
    | true => simp
    | false => cases screen.holds x y <;> simp

end PopupLayout

/-- Whether an event is one that a popup on top of everything is dismissed by. -/
def Event.DismissesPopup : Event → Prop
  | .key pressed => pressed = .char 'x' ∨ pressed = .escape
  | .mouse action screen x y =>
    action = .leftDown ∧
      ∃ target, (PopupLayout.of screen).elementAt x y = some target ∧ target ≠ .content
  | .answer _ _ => False

namespace Session

/-- The session once its popup has been dismissed. -/
def dismissed (s : Session) : Session :=
  { s with
    focus := ⟨false⟩
    directory := s.directory.closePopup
    popup := .hidden
    listeners := s.popup.detach s.listeners }

/-- Nothing is left of a popup: the search box has no focus, nothing is selected or shown, and no
listener is attached. -/
structure Dismissed (s : Session) : Prop where
  focus : s.focus.focused = false
  selected : s.directory.selected = none
  popupVisible : s.directory.popupVisible = false
  popup : s.popup = .hidden
  detached : s.listeners.attached = []

variable {s : Session}

/-- A gesture that dismisses the popup leads to the session without it, and asks for nothing. -/
theorem dismiss_eq_dismissed {gesture : Gesture} (h : s.popup.isDismissedBy gesture = true) :
    (s.dismiss gesture).syncPopup = .silent s.dismissed := by
  have hfocus : clearFocus s.focus = ⟨false⟩ := by
    rw [← clearFocus_focused s.focus]
  rw [dismiss, if_pos h, hfocus]
  rfl

/-- Nothing is left of the popup that was dismissed. -/
theorem PopupInOrder.dismissed (h : s.PopupInOrder) : s.dismissed.Dismissed where
  focus := rfl
  selected := rfl
  popupVisible := rfl
  popup := rfl
  detached := (Popup.InOrder.hide h).attached

namespace Shown

variable {id : OrganizationId} {scores : FetchedScores}

/-- Escape and the letter of the close button dismiss the popup, and no other key does anything. -/
theorem popupPress_eq (h : s.Shown id scores) (key : KeyPress) :
    s.popupPress key =
      .silent (if key = .char 'x' ∨ key = .escape then s.dismissed else s) := by
  have hescape : s.popup.isDismissedBy (.key key.toKey) = true ↔ key = .escape := by
    have hkey : key.toKey = .escape ↔ key = .escape := by cases key <;> simp [KeyPress.toKey]
    simp [Popup.isDismissedBy, h.visible, h.listening, hkey]
  unfold popupPress pressClose popupKey
  by_cases hbutton : key = .char 'x'
  · rw [if_pos hbutton, if_pos (.inl hbutton)]
    exact dismiss_eq_dismissed h.visible
  · rw [if_neg hbutton]
    by_cases hleft : key = .escape
    · rw [if_pos (hescape.mpr hleft), if_pos (.inr hleft)]
      exact dismiss_eq_dismissed (hescape.mpr hleft)
    · rw [if_neg (mt hescape.mp hleft), if_neg (not_or.mpr ⟨hbutton, hleft⟩)]

/-- A click on the close button or around the content dismisses the popup, a click on the content
does nothing. -/
theorem clickPopup_eq (h : s.Shown id scores) (target : PopupElement) :
    s.clickPopup target = .silent (if target ≠ .content then s.dismissed else s) := by
  have hclick (target : PopupElement) :
      s.popup.isDismissedBy (.click target .overlay) = true ↔ target = .overlay := by
    simp [Popup.isDismissedBy, h.visible]
  cases target with
  | closeButton => exact dismiss_eq_dismissed h.visible
  | overlay =>
    unfold clickPopup
    rw [if_neg (by decide), if_pos ((hclick .overlay).mpr rfl)]
    exact dismiss_eq_dismissed ((hclick .overlay).mpr rfl)
  | content =>
    unfold clickPopup
    rw [if_neg (by decide), if_neg (by rw [hclick]; decide)]
    rfl

/-- While the popup is shown without the help screen, a click either hits a place that dismisses it, or
does nothing. -/
theorem on_mouse (h : s.Shown id scores) (help : s.helpShown = false) (action : MouseAction)
    (screen : Area) (x y : Nat) :
    (Event.DismissesPopup (.mouse action screen x y) ∧
        s.on (.mouse action screen x y) = .silent s.dismissed) ∨
      (¬Event.DismissesPopup (.mouse action screen x y) ∧
        s.on (.mouse action screen x y) = .silent s) := by
  cases action with
  | other => exact .inr ⟨by simp [Event.DismissesPopup], rfl⟩
  | leftDown =>
    simp only [Event.DismissesPopup, on, click, help, h.directory.visible, Bool.false_eq_true,
      if_false, if_true]
    cases hplace : (PopupLayout.of screen).elementAt x y with
    | none => exact .inr ⟨by simp, rfl⟩
    | some target =>
      by_cases htarget : target = .content
      · refine .inr ⟨by simp [htarget], ?_⟩
        exact (h.clickPopup_eq target).trans (congrArg Step.silent (if_neg fun hne => hne htarget))
      · refine .inl ⟨⟨trivial, target, rfl, htarget⟩, ?_⟩
        exact (h.clickPopup_eq target).trans (congrArg Step.silent (if_pos htarget))

/-- While the popup is shown without the help screen, the left button dismisses it on the close button
and around the content, and the mouse does nothing else. -/
theorem on_mouse_eq (h : s.Shown id scores) (help : s.helpShown = false) {screen : Area}
    (hscreen : screen.x + screen.width ≤ last) (action : MouseAction) (x y : Nat) :
    s.on (.mouse action screen x y) =
      .silent (if action = .leftDown ∧ (PopupLayout.of screen).DismissesAt x y then s.dismissed
        else s) := by
  have hplaces : Event.DismissesPopup (.mouse action screen x y) ↔
      action = .leftDown ∧ (PopupLayout.of screen).DismissesAt x y :=
    and_congr_right fun _ => PopupLayout.elementAt_ne_content_iff hscreen
  rcases h.on_mouse help action screen x y with ⟨hdismisses, hon⟩ | ⟨hmiss, hon⟩
  · rw [hon, if_pos (hplaces.mp hdismisses)]
  · rw [hon, if_neg (mt hplaces.mpr hmiss)]

end Shown

/-- In a session in a phase that shows a popup, the popup is shown. -/
theorem InPhase.exists_shown {p : Phase} (h : s.InPhase p)
    (shown : s.directory.popupVisible = true) : ∃ id scores, s.Shown id scores := by
  obtain ⟨id, scores, rfl⟩ := h.of_shown shown
  exact ⟨id, scores, h⟩

end Session

namespace Dialogue

/-- After any keys, clicks and answers that leave a popup shown and the help screen hidden, on every
screen that ends within the columns there are: the close button lies in the content, and the content
on the screen. The left button dismisses the popup exactly at the positions of the screen that are
on the close button or not on the content; there only the popup goes, and with it the selection, the
listener and the focus of the search box. Whatever else the mouse does changes nothing. -/
theorem mouse_dismisses_popup_iff (organizations : List Organization) (pageSize : PageSize)
    (address : Url) (events : List Event) (screen : Area)
    (hscreen : screen.x + screen.width ≤ last) :
    let s := ((opening organizations pageSize address).after events).session
    let places := PopupLayout.of screen
    s.directory.popupVisible = true → s.helpShown = false → ∀ action x y,
      (places.closeButton.holds x y = true → places.content.holds x y = true) ∧
      (places.content.holds x y = true → screen.holds x y = true) ∧
      ((s.on (.mouse action screen x y)).state.Dismissed ↔
        action = .leftDown ∧ places.DismissesAt x y) ∧
      s.on (.mouse action screen x y) =
        .silent (if action = .leftDown ∧ places.DismissesAt x y then s.dismissed else s) := by
  intro s places hvisible hhelp action x y
  obtain ⟨⟨p, hphase⟩, hpopup⟩ := (inLine_opening organizations pageSize address).after events
  obtain ⟨id, scores, hshown⟩ := hphase.exists_shown hvisible
  have hon := hshown.on_mouse_eq hhelp hscreen action x y
  refine ⟨PopupLayout.holds_of_closeButton hscreen, PopupLayout.holds_of_content, ?_, hon⟩
  rw [hon, Step.silent_state]
  split
  · rename_i hhit
    exact iff_of_true (Session.PopupInOrder.dismissed hpopup) hhit
  · rename_i hmiss
    refine iff_of_false (fun hdismissed => ?_) hmiss
    exact Bool.false_ne_true (hdismissed.popupVisible.symm.trans hvisible)

/-- On a screen of 80 columns and 24 lines the close button ends two cells before the content does.
A click on its first cell dismisses the popup, a click on the cell before does nothing. -/
theorem mouse_dismisses_popup_on_button :
    let enriched := { Organization.bare 7 with url := some "", kind := some "" }
    let s := ((opening [enriched] .standard .bare).after [.key .enter]).session
    let screen : Area := ⟨0, 0, 80, 24⟩
    s.directory.popupVisible = true ∧ s.helpShown = false ∧
      (PopupLayout.of screen).closeButton = ⟨57, 4, 9, 1⟩ ∧
        s.on (.mouse .leftDown screen 57 4) = .silent s.dismissed ∧
          s.on (.mouse .leftDown screen 56 4) = .silent s := by
  intro enriched s screen
  have hvisible : s.directory.popupVisible = true := by decide
  have hclick := mouse_dismisses_popup_iff [enriched] .standard .bare [.key .enter] screen
    (by decide) hvisible rfl .leftDown
  obtain ⟨-, -, -, hhit⟩ := hclick 57 4
  obtain ⟨-, -, -, hmiss⟩ := hclick 56 4
  rw [if_pos (by decide)] at hhit
  rw [if_neg (by decide)] at hmiss
  exact ⟨hvisible, rfl, by decide, hhit, hmiss⟩

end Dialogue

end Terminal

end Roster
