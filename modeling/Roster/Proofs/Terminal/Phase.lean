import Roster.Proofs.Directory.Selection
import Roster.Proofs.Popup.Sync
import Roster.Proofs.Terminal.Turn

/-!
# Phases of a session

A session keeps what it shows in three places: the directory selects an organization, the popup
knows whether it is visible and what it has fetched, and a listener is attached to the keyboard.
Together they are always in one of two phases. In the hidden phase nothing is selected, fetched or
listened for, and details may be waited for. In the shown phase one organization is selected, its
popup is visible and listens, nothing is waited for, and all fetched scores are its own.

Every event leads from a phase to a phase, by one of the few ways listed here.
-/

namespace Roster.Terminal

/-- What a session shows: nothing, perhaps while it waits for details, or the popup of an
organization with the scores fetched for it. -/
inductive Phase where
  | hidden (pending : Option OrganizationId)
  | shown (id : OrganizationId) (scores : FetchedScores)

/-- What drives a session on: a key or a click, with the organization whose row it activates, or an
answer. -/
inductive Cause where
  | gesture (activated : Option OrganizationId)
  | answer (answer : Answer)

/-- What an event is for a session. -/
def Session.cause (s : Session) (e : Event) : Cause :=
  match e with
  | .answer _ answer => .answer answer
  | _ => .gesture (s.activated? e)

open Popup in
/-- How a phase leads to the next, with the requests sent on the way. -/
inductive Phase.Leads : Phase → Cause → List Request → Phase → Prop where
  | stay (p : Phase) : Leads p (.gesture none) [] p
  | ask (pending : Option OrganizationId) (id : OrganizationId) :
      Leads (.hidden pending) (.gesture (some id)) [.detail id] (.hidden (some id))
  | show (pending : Option OrganizationId) {id : OrganizationId} {requests : List Request}
      {scores : FetchedScores} (asks : Asks id .idle requests scores) :
      Leads (.hidden pending) (.gesture (some id)) requests (.shown id scores)
  | dismiss (id : OrganizationId) (scores : FetchedScores) :
      Leads (.shown id scores) (.gesture none) [] (.hidden none)
  | fundingRounds (p : Phase) (result : Fetched Choices) :
      Leads p (.answer (.fundingRounds result)) [] p
  | rtoPolicies (p : Phase) (result : Fetched Choices) :
      Leads p (.answer (.rtoPolicies result)) [] p
  | arrive {id : OrganizationId} (result : Fetched OrganizationDetail) {requests : List Request}
      {scores : FetchedScores} (asks : Asks id .idle requests scores) :
      Leads (.hidden (some id)) (.answer (.detail id result)) requests (.shown id scores)
  | pass {pending : Option OrganizationId} {id : OrganizationId}
      (result : Fetched OrganizationDetail) (other : pending ≠ some id) :
      Leads (.hidden pending) (.answer (.detail id result)) [] (.hidden pending)
  | refresh {shown : OrganizationId} (id : OrganizationId) (result : Fetched OrganizationDetail)
      {requests : List Request} {before later : FetchedScores}
      (asks : Asks shown before requests later) :
      Leads (.shown shown before) (.answer (.detail id result)) requests (.shown shown later)
  | load (id : OrganizationId) (result : Fetched (List Score)) :
      Leads (.shown id (.loading id)) (.answer (.scores id result)) []
        (.shown id (.loaded id (received result)))
  | ignore {p : Phase} {id : OrganizationId} (result : Fetched (List Score))
      (other : ∀ shown, p ≠ .shown shown (.loading id)) : Leads p (.answer (.scores id result)) [] p

namespace Session

/-- Nothing is shown: the directory shows nothing, and the popup has been reset. -/
structure Hidden (s : Session) (pending : Option OrganizationId) : Prop where
  directory : s.directory.Hides pending
  popup : s.popup = .hidden

/-- The popup of an organization is shown: it is visible and listens, and the scores fetched are
those of the organization. -/
structure Shown (s : Session) (id : OrganizationId) (scores : FetchedScores) : Prop where
  directory : s.directory.Shows id
  visible : s.popup.visible = true
  listening : s.popup.listener.isSome = true
  fetched : s.popup.scores = scores
  own : ∀ other, scores.concern other = true → other = id

/-- The session is in a phase. -/
def InPhase (s : Session) : Phase → Prop
  | .hidden pending => s.Hidden pending
  | .shown id scores => s.Shown id scores

/-! ## The popup follows the directory -/

/-- The popup of a directory that shows nothing is reset. -/
theorem hidden_syncPopup {s : Session} {pending : Option OrganizationId}
    (h : s.directory.Hides pending) :
    s.syncPopup.requests = [] ∧ s.syncPopup.state.Hidden pending := by
  have hsync : s.popup.sync s.directory.selectedOrganization s.directory.popupVisible s.listeners =
      .silent (.hidden, s.popup.detach s.listeners) := by
    rw [h.selectedOrganization, h.hidden]
    rfl
  simp only [syncPopup, hsync]
  exact ⟨rfl, h, rfl⟩

/-- The popup of a directory that shows an organization is shown, and may ask for its scores. -/
theorem shown_syncPopup {s : Session} {id : OrganizationId} (h : s.directory.Shows id)
    (hown : ∀ other, s.popup.scores.concern other = true → other = id) :
    ∃ scores, Popup.Asks id s.popup.scores s.syncPopup.requests scores ∧
      s.syncPopup.state.Shown id scores := by
  obtain ⟨o, ho, rfl⟩ := h.selectedOrganization
  obtain ⟨hvisible, hlistening, hscores⟩ := s.popup.setVisible_true s.listeners
  obtain ⟨hstill, hlistener⟩ := (s.popup.setVisible true s.listeners).1.requestScores_shown o
  have hsync : s.popup.sync s.directory.selectedOrganization s.directory.popupVisible s.listeners =
      ((s.popup.setVisible true s.listeners).1.requestScores o).map
        (·, (s.popup.setVisible true s.listeners).2) := by
    rw [ho, h.visible]
    rfl
  have hasks := (s.popup.setVisible true s.listeners).1.asks_requestScores o (by rwa [hscores])
  rw [hscores] at hasks
  refine ⟨((s.popup.setVisible true s.listeners).1.requestScores o).state.scores, ?_, ?_⟩
  · simp only [syncPopup, hsync]
    exact hasks
  · simp only [syncPopup, hsync]
    exact ⟨h, hstill.trans hvisible, hlistener.symm ▸ hlistening, rfl, hasks.concern hown⟩

/-- Bringing the popup in line asks for nothing but the scores of what is selected. -/
theorem requests_syncPopup_subset {s : Session} {o : Organization}
    (h : s.directory.selectedOrganization = some o) : s.syncPopup.requests ⊆ [.scores o.id] := by
  simp only [syncPopup, Popup.sync, h, dispatch]
  split
  · simp only [Step.map_requests, Popup.requestScores]
    split
    · exact List.nil_subset _
    · exact List.Subset.refl _
  · exact List.nil_subset _

/-- A popup that was reset starts a showing without any scores. -/
theorem opened_syncPopup {s : Session} {id : OrganizationId} (h : s.directory.Shows id)
    (hp : s.popup = .hidden) :
    ∃ scores, Popup.Asks id .idle s.syncPopup.requests scores ∧
      s.syncPopup.state.Shown id scores := by
  have hidle : s.popup.scores = .idle := by rw [hp, Popup.hidden]
  obtain ⟨scores, hasks, hshown⟩ := shown_syncPopup h (by simp [hidle, FetchedScores.concern])
  exact ⟨scores, hidle ▸ hasks, hshown⟩

/-! ## What leaves the phase as it is -/

/-- The phase is decided by the popup, the selection and the ids of the list. -/
theorem InPhase.congr {s t : Session} {p : Phase} (h : s.InPhase p)
    (organizations : t.directory.organizations = s.directory.organizations)
    (pending : t.directory.pending = s.directory.pending)
    (selected : t.directory.selected = s.directory.selected)
    (visible : t.directory.popupVisible = s.directory.popupVisible) (popup : t.popup = s.popup) :
    t.InPhase p := by
  cases p with
  | hidden waiting =>
    obtain ⟨hd, hp⟩ := h
    refine ⟨⟨visible.trans hd.hidden, selected.trans hd.selected, pending.trans hd.waiting, ?_⟩,
      popup.trans hp⟩
    rw [organizations]
    exact hd.listed
  | shown id scores =>
    obtain ⟨hd, hvisible, hlistening, hfetched, hown⟩ := h
    rw [← popup] at hvisible hlistening hfetched
    refine ⟨⟨visible.trans hd.visible, selected.trans hd.selected, pending.trans hd.waiting, ?_⟩,
      hvisible, hlistening, hfetched, hown⟩
    rw [organizations]
    exact hd.listed

/-- A session alike to one in a phase is in that phase. -/
theorem Alike.inPhase {s t : Session} (halike : s.Alike t) {p : Phase} (h : s.InPhase p) :
    t.InPhase p :=
  h.congr halike.organizations halike.pending halike.selected halike.popupVisible halike.popup

/-- In a hidden phase the popup is not visible. -/
theorem InPhase.of_hidden {s : Session} {p : Phase} (h : s.InPhase p)
    (hidden : s.directory.popupVisible = false) : ∃ pending, p = .hidden pending := by
  cases p with
  | hidden pending => exact ⟨pending, rfl⟩
  | shown id scores =>
    have hvisible := h.directory.visible
    simp [hidden] at hvisible

/-- In a shown phase the popup is visible. -/
theorem InPhase.of_shown {s : Session} {p : Phase} (h : s.InPhase p)
    (shown : s.directory.popupVisible = true) : ∃ id scores, p = .shown id scores := by
  cases p with
  | shown id scores => exact ⟨id, scores, rfl⟩
  | hidden pending =>
    have hhidden := h.directory.hidden
    simp [shown] at hhidden

/-! ## What leads on -/

/-- Activating a row asks for details when the directory does. -/
theorem activate_of_asking {s : Session} {id : OrganizationId} {r : Request}
    (h : (s.directory.activate id).requests = [r]) :
    (s.activate id).requests = [r] ∧
      (s.activate id).state =
        { s with
          directory := (s.directory.activate id).state
          status := loadingStatus
          inFlight := s.inFlight + 1 } := by
  simp [Session.activate, h]

/-- Activating a row brings the popup in line when the directory asks for nothing. -/
theorem activate_of_silent {s : Session} {id : OrganizationId}
    (h : (s.directory.activate id).requests = []) :
    (s.activate id).requests =
        { s with directory := (s.directory.activate id).state }.syncPopup.requests ∧
      (s.activate id).state =
        { s with directory := (s.directory.activate id).state }.syncPopup.state := by
  simp [Session.activate, h]

/-- Activating a row of the list asks for details or shows the popup. -/
theorem Hidden.activate {s : Session} {pending : Option OrganizationId} (h : s.Hidden pending)
    {id : OrganizationId} {o : Organization} (ho : s.directory.organization? id = some o) :
    ∃ p, Phase.Leads (.hidden pending) (.gesture (some id)) (s.activate id).requests p ∧
      (s.activate id).state.InPhase p := by
  rcases h.directory.activate ho with ⟨hasking, hd⟩ | ⟨hsilent, hd⟩
  · obtain ⟨hrequests, hstate⟩ := activate_of_asking hasking
    rw [hrequests, hstate]
    exact ⟨.hidden (some id), .ask pending id, hd, h.popup⟩
  · obtain ⟨hrequests, hstate⟩ := activate_of_silent hsilent
    rw [hrequests, hstate]
    obtain ⟨scores, hasks, hshown⟩ := opened_syncPopup
      (s := { s with directory := (s.directory.activate id).state }) hd h.popup
    exact ⟨.shown id scores, .show pending hasks, hshown⟩

/-- Dismissing the popup hides it. -/
theorem Shown.dismiss {s : Session} {id : OrganizationId} {scores : FetchedScores}
    (h : s.Shown id scores) {gesture : Gesture}
    (hdismissed : gesture = .closeButton ∨ s.popup.isDismissedBy gesture = true) :
    (s.dismiss gesture).syncPopup.requests = [] ∧
      (s.dismiss gesture).syncPopup.state.Hidden none := by
  have hby : s.popup.isDismissedBy gesture = true := by
    rcases hdismissed with rfl | hby
    · exact h.visible
    · exact hby
  have hclosed : (s.dismiss gesture).directory = s.directory.closePopup := by
    rw [Session.dismiss, if_pos hby]
  exact hidden_syncPopup (hclosed ▸ h.directory.closePopup)

/-- A key or a click leads from a phase to a phase. -/
theorem Turn.leads {s : Session} {activated : Option OrganizationId} {step : Step Session}
    (hturn : s.Turn activated step) {p : Phase} (h : s.InPhase p) :
    ∃ p', p.Leads (.gesture activated) step.requests p' ∧ step.state.InPhase p' := by
  cases hturn with
  | quiet alike => exact ⟨p, .stay p, alike.inPhase h⟩
  | shutdown hidden =>
    obtain ⟨pending, rfl⟩ := h.of_hidden hidden
    exact ⟨.hidden pending, .stay _, h.directory, rfl⟩
  | activation alike hidden listed =>
    obtain ⟨pending, rfl⟩ := h.of_hidden hidden
    exact Hidden.activate (alike.inPhase h) ((alike.organization? _).trans listed)
  | dismissal shown dismissed =>
    obtain ⟨id, scores, rfl⟩ := h.of_shown shown
    obtain ⟨hrequests, hhidden⟩ := Shown.dismiss h dismissed
    rw [hrequests]
    exact ⟨.hidden none, .dismiss id scores, hhidden⟩

/-- The session that has taken in details, before its popup is brought in line. -/
def withDetail (s : Session) (id : OrganizationId) (result : Fetched OrganizationDetail) :
    Session :=
  let d := (s.directory.receiveDetail id result).state
  { s with
    inFlight := s.inFlight - 1
    directory := d
    status := if d.pending.isNone then "" else s.status }

/-- Details are taken in, and then the popup is brought in line. -/
theorem receive_detail (s : Session) (id : OrganizationId) (result : Fetched OrganizationDetail) :
    (s.receive (.detail id result)).requests = (s.withDetail id result).syncPopup.requests ∧
      (s.receive (.detail id result)).state = (s.withDetail id result).syncPopup.state := by
  simp only [receive, Step.andThen_requests, Step.andThen_state, Step.map_requests, Step.map_state,
    Directory.receiveDetail_requests, List.nil_append]
  exact ⟨rfl, rfl⟩

/-- An answer with details leads from a phase to a phase. -/
theorem leads_receive_detail {s : Session} {p : Phase} (h : s.InPhase p) (id : OrganizationId)
    (result : Fetched OrganizationDetail) :
    ∃ p', p.Leads (.answer (.detail id result)) (s.receive (.detail id result)).requests p' ∧
      (s.receive (.detail id result)).state.InPhase p' := by
  obtain ⟨hrequests, hstate⟩ := s.receive_detail id result
  rw [hrequests, hstate]
  cases p with
  | hidden pending =>
    obtain ⟨hd, hp⟩ := h
    by_cases hpending : pending = some id
    · subst hpending
      obtain ⟨scores, hasks, hshown⟩ :=
        opened_syncPopup (s := s.withDetail id result) (hd.receiveDetail result) hp
      exact ⟨.shown id scores, .arrive result hasks, hshown⟩
    · obtain ⟨hnothing, hhidden⟩ := hidden_syncPopup (s := s.withDetail id result)
        (hd.receiveDetail_of_ne hpending result)
      rw [hnothing]
      exact ⟨.hidden pending, .pass result hpending, hhidden⟩
  | shown shown scores =>
    have hfetched : (s.withDetail id result).popup.scores = scores := h.fetched
    obtain ⟨later, hasks, hshown⟩ := shown_syncPopup (s := s.withDetail id result)
      (h.directory.receiveDetail id result) (hfetched ▸ h.own)
    exact ⟨.shown shown later, .refresh id result (hfetched ▸ hasks), hshown⟩

/-- An answer with scores leads from a phase to a phase. -/
theorem leads_receive_scores {s : Session} {p : Phase} (h : s.InPhase p) (id : OrganizationId)
    (result : Fetched (List Score)) :
    ∃ p', p.Leads (.answer (.scores id result)) (s.receive (.scores id result)).requests p' ∧
      (s.receive (.scores id result)).state.InPhase p' := by
  simp only [receive, Step.map_requests, Step.map_state]
  by_cases hloading : s.popup.scores = .loading id
  · obtain ⟨hstate, hrequests⟩ := s.popup.receiveScores_of_loading id result hloading
    rw [hstate, hrequests]
    cases p with
    | hidden pending => simp [h.popup, Popup.hidden] at hloading
    | shown shown scores =>
      obtain rfl : scores = .loading id := h.fetched.symm.trans hloading
      obtain rfl : id = shown := h.own id (beq_self_eq_true id)
      exact ⟨_, .load id result, h.directory, h.visible, h.listening, rfl,
        fun other hother => (eq_of_beq hother).symm⟩
  · rw [s.popup.receiveScores_of_ne id result hloading]
    refine ⟨p, .ignore result ?_, ?_⟩
    · rintro shown rfl
      exact hloading h.fetched
    · cases p with
      | hidden pending => exact ⟨h.directory, h.popup⟩
      | shown shown scores => exact ⟨h.directory, h.visible, h.listening, h.fetched, h.own⟩

/-- Every event leads from a phase to a phase. -/
theorem leads_on {s : Session} {p : Phase} (h : s.InPhase p) (e : Event) :
    ∃ p', p.Leads (s.cause e) (s.on e).requests p' ∧ (s.on e).state.InPhase p' := by
  cases e with
  | key key => exact (s.turn_key key).leads h
  | mouse action screen x y => exact (s.turn_mouse action screen x y).leads h
  | answer n answer =>
    cases answer with
    | fundingRounds result =>
      refine ⟨p, ?_, ?_⟩
      · cases result <;> exact .fundingRounds p _
      · cases result <;> exact h.congr rfl rfl rfl rfl rfl
    | rtoPolicies result =>
      refine ⟨p, ?_, ?_⟩
      · cases result <;> exact .rtoPolicies p _
      · cases result <;> exact h.congr rfl rfl rfl rfl rfl
    | detail id result => exact leads_receive_detail h id result
    | scores id result => exact leads_receive_scores h id result

end Session

end Roster.Terminal
