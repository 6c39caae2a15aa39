import Roster.Popup.View
import Roster.Proofs.Popup.Listening
import Roster.Proofs.Terminal.Phase

/-!
# The popup stays in line

Whether a popup is shown is known to the directory, to the popup and to the keyboard. Whatever
happens to a session, and in whatever order answers come in, the three agree after every event: the
popup is visible exactly while an organization is selected, one listener is attached exactly while
the popup is visible, and the scores that it has or waits for are those of the organization selected.
-/

namespace Roster

namespace Popup

/-- A popup whose scores concern no other organization waits for those of the organization exactly
while it loads. -/
theorem scoresView_eq_loading_iff {p : Popup} {o : Organization}
    (h : ∀ id, p.scores.concern id = true → id = o.id) :
    p.scoresView o = .loading ↔ p.isLoading = true := by
  cases hscores : p.scores with
  | idle => simp [scoresView, waitsFor, isLoading, hscores]
  | loaded id scores => simp [scoresView, waitsFor, isLoading, hscores]
  | loading id =>
    obtain rfl : id = o.id := h id (by simp [hscores, FetchedScores.concern])
    simp [scoresView, waitsFor, isLoading, hscores]

end Popup

namespace Terminal

namespace Session

/-! ## The popup and the keyboard -/

/-- The popup of a session is in order with the keyboard. -/
def PopupInOrder (s : Session) : Prop :=
  s.popup.InOrder s.listeners

variable {s : Session}

/-- Bringing the popup in line leaves it in order. -/
theorem PopupInOrder.syncPopup (h : s.PopupInOrder) : s.syncPopup.state.PopupInOrder :=
  Popup.InOrder.sync h s.directory.selectedOrganization s.directory.popupVisible

/-- A row that is activated leaves the popup in order, whether it is shown or waited for. -/
theorem PopupInOrder.activate (h : s.PopupInOrder) (id : OrganizationId) :
    (s.activate id).state.PopupInOrder := by
  cases hrequests : (s.directory.activate id).requests with
  | nil =>
    rw [(activate_of_silent hrequests).2]
    exact PopupInOrder.syncPopup (s := { s with directory := (s.directory.activate id).state }) h
  | cons r rest =>
    have hstate : (s.activate id).state.popup = s.popup ∧
        (s.activate id).state.listeners = s.listeners := by
      simp [Session.activate, hrequests]
    rw [PopupInOrder, hstate.1, hstate.2]
    exact h

/-- A gesture leaves the popup in order. -/
theorem Turn.popupInOrder {activated : Option OrganizationId} {step : Step Session}
    (hturn : s.Turn activated step) (h : s.PopupInOrder) : step.state.PopupInOrder := by
  cases hturn with
  | @quiet t alike =>
    change t.PopupInOrder
    rw [PopupInOrder, alike.popup, alike.listeners]
    exact h
  | shutdown hidden => exact Popup.InOrder.hide h
  | @activation t id o alike hidden listed =>
    have ht : t.PopupInOrder := by
      rw [PopupInOrder, alike.popup, alike.listeners]
      exact h
    exact ht.activate id
  | @dismissal gesture shown dismissed =>
    have hkept : (s.dismiss gesture).PopupInOrder := by
      unfold Session.dismiss
      split <;> exact h
    exact hkept.syncPopup

/-- An answer leaves the popup in order. -/
theorem PopupInOrder.receive (h : s.PopupInOrder) (answer : Answer) :
    (s.receive answer).state.PopupInOrder := by
  cases answer with
  | fundingRounds result => exact h
  | rtoPolicies result => exact h
  | detail id result =>
    rw [(s.receive_detail id result).2]
    exact PopupInOrder.syncPopup (s := s.withDetail id result) h
  | scores id result => exact Popup.InOrder.receiveScores h id result

/-- Every event leaves the popup in order. -/
theorem PopupInOrder.on (h : s.PopupInOrder) (e : Event) : (s.on e).state.PopupInOrder := by
  cases e with
  | key key => exact (s.turn_key key).popupInOrder h
  | mouse action screen x y => exact (s.turn_mouse action screen x y).popupInOrder h
  | answer n answer => exact h.receive answer

/-! ## The popup and the directory -/

variable {p : Phase}

/-- In every phase the popup is visible exactly while the directory shows one. -/
theorem InPhase.visible_popup (h : s.InPhase p) : s.popup.visible = s.directory.popupVisible := by
  cases p with
  | hidden pending =>
    rw [h.directory.hidden, h.popup]
    rfl
  | shown id scores => rw [h.directory.visible, h.visible]

/-- In every phase the directory shows a popup exactly while an organization is selected. -/
theorem InPhase.popupVisible_eq (h : s.InPhase p) :
    s.directory.popupVisible = s.directory.selectedOrganization.isSome := by
  cases p with
  | hidden pending =>
    rw [h.directory.hidden, h.directory.selectedOrganization]
    rfl
  | shown id scores =>
    obtain ⟨o, ho, -⟩ := h.directory.selectedOrganization
    rw [h.directory.visible, ho]
    rfl

/-- In every phase the scores concern the organization selected. -/
theorem InPhase.selected_of_concern (h : s.InPhase p) {id : OrganizationId}
    (hid : s.popup.scores.concern id = true) :
    ∃ o, s.directory.selectedOrganization = some o ∧ o.id = id := by
  cases p with
  | hidden pending => simp [h.popup, Popup.hidden, FetchedScores.concern] at hid
  | shown shown scores =>
    obtain rfl : id = shown := h.own id (h.fetched ▸ hid)
    exact h.directory.selectedOrganization

/-- In every phase scores are loading exactly while the popup shows that they are. -/
theorem InPhase.isLoading_iff (h : s.InPhase p) :
    s.popup.isLoading = true ↔
      ∃ view, s.popup.view s.directory.selectedOrganization s.directory.popupVisible = some view ∧
        view.scores = .loading := by
  cases p with
  | hidden pending =>
    simp [h.popup, h.directory.hidden, Popup.hidden, Popup.isLoading, Popup.view]
  | shown id scores =>
    obtain ⟨o, ho, rfl⟩ := h.directory.selectedOrganization
    have hview : s.popup.view s.directory.selectedOrganization s.directory.popupVisible =
        some (s.popup.viewOf o) := by
      simp [Popup.view, ho, h.directory.visible]
    have hown : ∀ id, s.popup.scores.concern id = true → id = o.id := h.fetched ▸ h.own
    rw [hview, ← Popup.scoresView_eq_loading_iff hown]
    simp [Popup.viewOf]

end Session

/-! ## Every dialogue -/

namespace Dialogue

/-- The session of a dialogue is in a phase, and its popup in order. -/
structure InLine (d : Dialogue) : Prop where
  phase : ∃ p, d.session.InPhase p
  popup : d.session.PopupInOrder

theorem inLine_opening (organizations : List Organization) (pageSize : PageSize) (address : Url) :
    (opening organizations pageSize address).InLine :=
  ⟨⟨.hidden none, Directory.hides_ofList organizations pageSize _, rfl⟩, Popup.inOrder_hidden⟩

theorem InLine.next {d : Dialogue} (h : d.InLine) (e : Event) : (d.next e).InLine := by
  obtain ⟨p, hphase⟩ := h.phase
  obtain ⟨p', _, hphase'⟩ := Session.leads_on hphase e
  exact ⟨⟨p', hphase'⟩, h.popup.on e⟩

/-- Whatever happens to a session, its popup stays in line. -/
theorem InLine.after {d : Dialogue} (h : d.InLine) (events : List Event) :
    (d.after events).InLine := by
  induction events generalizing d with
  | nil => exact h
  | cons e rest ih => exact ih (h.next e)

/-- After any keys, clicks and answers the popup is visible exactly while the directory shows one,
which is exactly while an organization is selected. It has a listener exactly while it is visible,
which is then the only one attached, and all others that were added have been removed. While it is
not visible it has no scores, otherwise only those of the organization selected, and they are
loading exactly while the popup shows so. -/
theorem popup_in_line_after (organizations : List Organization) (pageSize : PageSize)
    (address : Url) (events : List Event) :
    let s := ((opening organizations pageSize address).after events).session
    s.popup.visible = s.directory.popupVisible ∧
      s.directory.popupVisible = s.directory.selectedOrganization.isSome ∧
      s.popup.listener.isSome = s.popup.visible ∧
      s.listeners.attached = s.popup.listener.toList ∧
      s.listeners.count = (if s.popup.visible then 1 else 0) ∧
      s.listeners.added = s.listeners.removed + s.listeners.count ∧
      (s.popup.visible = false → s.popup.scores = .idle) ∧
      (∀ id, s.popup.scores.concern id = true →
        ∃ o, s.directory.selectedOrganization = some o ∧ o.id = id) ∧
      (s.popup.isLoading = true ↔
        ∃ view, s.popup.view s.directory.selectedOrganization s.directory.popupVisible =
          some view ∧ view.scores = .loading) := by
  intro s
  obtain ⟨⟨p, hphase⟩, hpopup⟩ := (inLine_opening organizations pageSize address).after events
  exact ⟨hphase.visible_popup, hphase.popupVisible_eq, hpopup.listening, hpopup.attached,
    hpopup.count, hpopup.balanced, hpopup.idle, fun _ hid => hphase.selected_of_concern hid,
    hphase.isLoading_iff⟩

end Dialogue

end Terminal

end Roster
