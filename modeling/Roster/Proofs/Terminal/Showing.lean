import Roster.Proofs.Terminal.Phase

/-!
# Showings of the popup

The popup is only ever opened for the row that was activated last, and nothing is pending while it
is shown. Once it has been dismissed only another activation brings it back: answers that arrive
late change records, but show nothing. Between its opening and its dismissal the selection stays
the same, and scores are asked for at most once.
-/

namespace Roster

/-- Whether a request asks for scores. -/
def Request.isScores : Request → Bool
  | .scores _ => true
  | _ => false

namespace Terminal

/-! ## The row a phase is about -/

/-- The organization whose row a gesture activates. -/
def Cause.activated : Cause → Option OrganizationId
  | .gesture activated => activated
  | .answer _ => none

/-- A session is caused to activate what its event activates. -/
theorem Session.cause_activated (s : Session) (e : Event) :
    (s.cause e).activated = s.activated? e := by
  cases e <;> rfl

namespace Phase

/-- The organization that a phase is about: the one shown, or the one waited for. -/
def subject : Phase → Option OrganizationId
  | .hidden pending => pending
  | .shown id _ => some id

/-- A phase is about the row activated just now, or about what it was about before. -/
theorem Leads.subject {p p' : Phase} {c : Cause} {requests : List Request}
    (h : p.Leads c requests p') {id : OrganizationId} (hid : p'.subject = some id) :
    c.activated.or p.subject = some id := by
  cases h with
  | dismiss => simp [Phase.subject] at hid
  | _ => exact hid

/-- Without an activation a hidden phase that waits for nothing stays as it is. -/
theorem Leads.of_hidden_none {p' : Phase} {c : Cause} {requests : List Request}
    (h : Leads (.hidden none) c requests p') (hc : c.activated = none) : p' = .hidden none := by
  cases h with
  | ask => simp [Cause.activated] at hc
  | «show» => simp [Cause.activated] at hc
  | _ => rfl

/-- A shown phase that is left waits for nothing. -/
theorem Leads.hidden_of_shown {id : OrganizationId} {scores : FetchedScores}
    {pending : Option OrganizationId} {c : Cause} {requests : List Request}
    (h : Leads (.shown id scores) c requests (.hidden pending)) : pending = none := by
  cases h
  rfl

/-- A popup that is opened has no scores yet, apart from asking for them. -/
theorem Leads.asks_of_hidden {pending : Option OrganizationId} {id : OrganizationId}
    {scores : FetchedScores} {c : Cause} {requests : List Request}
    (h : Leads (.hidden pending) c requests (.shown id scores)) :
    Popup.Asks id .idle requests scores := by
  cases h with
  | «show» _ asks => exact asks
  | arrive _ asks => exact asks

/-- A gesture that leaves a popup shown changes nothing about it. -/
theorem Leads.of_gesture {id id' : OrganizationId} {scores scores' : FetchedScores}
    {activated : Option OrganizationId} {requests : List Request}
    (h : Leads (.shown id scores) (.gesture activated) requests (.shown id' scores')) :
    requests = [] ∧ id' = id ∧ scores' = scores := by
  cases h
  exact ⟨rfl, rfl, rfl⟩

/-- A popup that stays shown keeps its organization. It asks for scores only while it has none, and
does not lose them again. -/
theorem Leads.of_shown {id id' : OrganizationId} {scores scores' : FetchedScores} {c : Cause}
    {requests : List Request} (h : Leads (.shown id scores) c requests (.shown id' scores')) :
    id' = id ∧ (requests = [] ∧ (scores' = .idle → scores = .idle) ∨
      requests = [.scores id] ∧ scores = .idle ∧ scores' = .loading id) := by
  cases h with
  | refresh _ _ asks =>
    cases asks with
    | nothing => exact ⟨rfl, .inl ⟨rfl, fun h => h⟩⟩
    | first => exact ⟨rfl, .inr ⟨rfl, rfl, rfl⟩⟩
  | load => exact ⟨rfl, .inl ⟨rfl, nofun⟩⟩
  | _ => exact ⟨rfl, .inl ⟨rfl, fun h => h⟩⟩

end Phase

namespace Dialogue

/-- Whether the popup is shown. -/
def popupShown (d : Dialogue) : Bool :=
  d.session.directory.popupVisible

/-- The id of the selected organization. -/
def selectedId (d : Dialogue) : Option OrganizationId :=
  d.session.directory.selectedOrganization.map Organization.id

/-- The requests for scores among those sent after the first `n`. -/
def scoresSentAfter (d : Dialogue) (n : Nat) : List Request :=
  (d.sent.drop n).filter Request.isScores

/-- An event that can happen and activates no row. -/
def ActivatesNothing (d : Dialogue) (e : Event) : Prop :=
  d.Admits e ∧ d.session.activated? e = none

instance (d : Dialogue) (e : Event) : Decidable (d.ActivatesNothing e) :=
  inferInstanceAs (Decidable (_ ∧ _))

/-- An event that can happen and leaves the popup shown. -/
def LeavesShown (d : Dialogue) (e : Event) : Prop :=
  d.Admits e ∧ (d.next e).popupShown = true

instance (d : Dialogue) (e : Event) : Decidable (d.LeavesShown e) :=
  inferInstanceAs (Decidable (_ ∧ _))

/-! ## The row activated last -/

/-- The session is in a phase, and the phase is about the row activated last. -/
def Follows (d : Dialogue) : Prop :=
  ∃ p, d.session.InPhase p ∧ ∀ id, p.subject = some id → d.activated = some id

theorem follows_opening (organizations : List Organization) (pageSize : PageSize)
    (address : Url) : (opening organizations pageSize address).Follows :=
  ⟨.hidden none, ⟨Directory.hides_ofList organizations pageSize _, rfl⟩, fun _ h => nomatch h⟩

theorem Follows.next {d : Dialogue} (h : d.Follows) (e : Event) : (d.next e).Follows := by
  obtain ⟨p, hphase, hsubject⟩ := h
  obtain ⟨p', hleads, hphase'⟩ := Session.leads_on hphase e
  refine ⟨p', hphase', fun id hid => ?_⟩
  have hlast := hleads.subject hid
  rw [Session.cause_activated] at hlast
  change (d.session.activated? e).or d.activated = some id
  cases hactivated : d.session.activated? e with
  | some activated => simpa [hactivated] using hlast
  | none =>
    rw [hactivated] at hlast
    exact hsubject id hlast

theorem follows_after {organizations : List Organization} {pageSize : PageSize} {address : Url}
    {events : List Event} (h : (opening organizations pageSize address).Course events) :
    ((opening organizations pageSize address).after events).Follows :=
  h.preserves (fun _ e hd _ => hd.next e) (follows_opening organizations pageSize address)

end Dialogue

namespace Session

/-- A session whose popup is visible is in a shown phase. -/
theorem InPhase.shown_of_popupShown {d : Dialogue} {p : Phase} (h : d.session.InPhase p)
    (shown : d.popupShown = true) :
    ∃ id scores, d.session.Shown id scores ∧ p = .shown id scores := by
  obtain ⟨id, scores, rfl⟩ := h.of_shown shown
  exact ⟨id, scores, h, rfl⟩

/-- The organization of a shown phase is the selected one. -/
theorem Shown.selectedId {d : Dialogue} {id : OrganizationId} {scores : FetchedScores}
    (h : d.session.Shown id scores) : d.selectedId = some id := by
  obtain ⟨o, ho, rfl⟩ := h.directory.selectedOrganization
  simp [Dialogue.selectedId, ho]

end Session

namespace Dialogue

/-! ## After a dismissal -/

/-- Without activations a popup that is hidden and waits for nothing stays hidden. -/
theorem hidden_after {d : Dialogue} (h : d.session.Hidden none) {later : List Event}
    (hlater : d.Along ActivatesNothing later) : (d.after later).session.Hidden none := by
  refine hlater.preserves (Q := fun d => d.session.Hidden none) (fun d e hd he => ?_) h
  obtain ⟨p', hleads, hphase⟩ := Session.leads_on (p := .hidden none) hd e
  have hc : (d.session.cause e).activated = none := (d.session.cause_activated e).trans he.2
  rw [hleads.of_hidden_none hc] at hphase
  exact hphase

/-- A popup that has been dismissed waits for nothing. -/
theorem hidden_next_of_shown {d : Dialogue} {id : OrganizationId} {scores : FetchedScores}
    (h : d.session.Shown id scores) {e : Event} (he : (d.next e).popupShown = false) :
    (d.next e).session.Hidden none := by
  obtain ⟨p', hleads, hphase⟩ := Session.leads_on (p := .shown id scores) h e
  obtain ⟨pending, rfl⟩ := hphase.of_hidden he
  rw [hleads.hidden_of_shown] at hphase
  exact hphase

/-! ## While the popup is shown -/

/-- Since its opening after the first `n` requests, the popup of one organization has been shown. It
has asked for scores at most once, and if it has asked then it has scores. -/
structure ShownSince (d : Dialogue) (n : Nat) (id : OrganizationId) : Prop where
  sent : n ≤ d.sent.length
  shown : ∃ scores, d.session.Shown id scores ∧
    (d.scoresSentAfter n = [] ∨ d.scoresSentAfter n = [.scores id] ∧ scores ≠ .idle)

/-- The requests for scores sent by an event come after those sent before. -/
theorem scoresSentAfter_next {d : Dialogue} {n : Nat} (hn : n ≤ d.sent.length) (e : Event) :
    (d.next e).scoresSentAfter n =
      d.scoresSentAfter n ++ (d.session.on e).requests.filter Request.isScores := by
  rw [scoresSentAfter, next, List.drop_append_of_le_length hn, List.filter_append]
  rfl

/-- An event that opens the popup starts a showing. -/
theorem shownSince_of_opening {d : Dialogue} {pending : Option OrganizationId}
    (h : d.session.Hidden pending) {e : Event} (he : (d.next e).popupShown = true) :
    ∃ id, (d.next e).ShownSince d.sent.length id := by
  obtain ⟨p', hleads, hphase⟩ := Session.leads_on (p := .hidden pending) h e
  obtain ⟨id, scores, hshown, rfl⟩ := hphase.shown_of_popupShown he
  refine ⟨id, by rw [length_sent_next]; exact Nat.le_add_right _ _, scores, hshown, ?_⟩
  have hbefore : d.scoresSentAfter d.sent.length = [] := by simp [scoresSentAfter]
  rw [scoresSentAfter_next (Nat.le_refl _), hbefore, List.nil_append]
  generalize (d.session.on e).requests = requests at hleads
  cases hleads.asks_of_hidden with
  | nothing => exact .inl rfl
  | first => exact .inr ⟨rfl, nofun⟩

/-- A showing goes on while the popup stays shown. -/
theorem ShownSince.next {d : Dialogue} {n : Nat} {id : OrganizationId} (h : d.ShownSince n id)
    {e : Event} (he : (d.next e).popupShown = true) : (d.next e).ShownSince n id := by
  obtain ⟨hn, scores, hshown, hsent⟩ := h
  obtain ⟨p', hleads, hphase⟩ := Session.leads_on (p := .shown id scores) hshown e
  obtain ⟨id', scores', hshown', rfl⟩ := hphase.shown_of_popupShown he
  refine ⟨by rw [length_sent_next]; exact Nat.le_add_right_of_le hn, scores', ?_⟩
  rw [scoresSentAfter_next hn]
  obtain ⟨rfl, ⟨hnothing, hidle⟩ | ⟨hasked, hwasIdle, hloading⟩⟩ := hleads.of_shown
  · refine ⟨hshown', ?_⟩
    rw [hnothing, List.filter_nil, List.append_nil]
    rcases hsent with hnone | ⟨hone, hsome⟩
    · exact .inl hnone
    · exact .inr ⟨hone, fun h => hsome (hidle h)⟩
  · refine ⟨hshown', .inr ⟨?_, by simp [hloading]⟩⟩
    rcases hsent with hnone | ⟨_, hsome⟩
    · rw [hnone, hasked]
      rfl
    · exact absurd hwasIdle hsome

/-- A showing goes on until the popup is dismissed. -/
theorem ShownSince.after {d : Dialogue} {n : Nat} {id : OrganizationId} (h : d.ShownSince n id)
    {later : List Event} (hlater : d.Along LeavesShown later) : (d.after later).ShownSince n id :=
  hlater.preserves (Q := fun d => d.ShownSince n id) (fun _ _ hd he => hd.next he.2) h

/-- In a showing the selection is that of the organization shown. -/
theorem ShownSince.selectedId {d : Dialogue} {n : Nat} {id : OrganizationId}
    (h : d.ShownSince n id) : d.selectedId = some id := by
  obtain ⟨_, _, hshown, _⟩ := h
  exact hshown.selectedId

/-- In a showing at most one request for scores is sent, for the organization shown. -/
theorem ShownSince.sublist {d : Dialogue} {n : Nat} {id : OrganizationId}
    (h : d.ShownSince n id) : (d.scoresSentAfter n).Sublist [.scores id] := by
  obtain ⟨_, _, _, hnone | ⟨hone, _⟩⟩ := h
  · exact hnone ▸ List.nil_sublist _
  · exact hone ▸ List.Sublist.refl _

/-! ## Every dialogue -/

/-- While the popup is shown nothing is pending, and the organization selected is the one whose row
was activated last. After the popup has been dismissed, nothing shows it before a row is activated.
From its opening until its dismissal the selection stays the same, and at most one request for
scores is sent, for the organization selected. -/
theorem showing_of_activated (organizations : List Organization) (pageSize : PageSize)
    (address : Url) (events : List Event)
    (h : (opening organizations pageSize address).Course events) :
    let d := (opening organizations pageSize address).after events
    (d.popupShown = true →
      d.session.directory.pending = none ∧ d.selectedId.isSome = true ∧
        d.selectedId = d.activated) ∧
    (∀ e later, d.popupShown = true → d.Admits e → (d.next e).popupShown = false →
      (d.next e).Along ActivatesNothing later → ((d.next e).after later).popupShown = false) ∧
    (∀ e later, d.popupShown = false → d.Admits e → (d.next e).popupShown = true →
      (d.next e).Along LeavesShown later →
        ∃ id, (d.next e).selectedId = some id ∧ ((d.next e).after later).selectedId = some id ∧
          (((d.next e).after later).scoresSentAfter d.sent.length).Sublist [.scores id]) := by
  intro d
  obtain ⟨p, hphase, hsubject⟩ := follows_after h
  refine ⟨fun hshown => ?_, fun e later hshown _ hhidden hlater => ?_,
    fun e later hhidden _ hopened hlater => ?_⟩
  · obtain ⟨id, scores, hs, rfl⟩ := hphase.shown_of_popupShown hshown
    rw [hs.selectedId]
    exact ⟨hs.directory.waiting, rfl, (hsubject id rfl).symm⟩
  · obtain ⟨id, scores, hs, rfl⟩ := hphase.shown_of_popupShown hshown
    exact (hidden_after (hidden_next_of_shown hs hhidden) hlater).directory.hidden
  · obtain ⟨pending, rfl⟩ := hphase.of_hidden hhidden
    obtain ⟨id, hsince⟩ := shownSince_of_opening hphase hopened
    have hstill := hsince.after hlater
    exact ⟨id, hsince.selectedId, hstill.selectedId, hstill.sublist⟩

/-- A row is activated and its popup shown; scores that arrive while it is shown leave it shown, and
scores that arrive after Escape leave it hidden. -/
theorem showing_of_enter :
    let start :=
      opening [{ Organization.bare 7 with url := some "", kind := some "" }] .standard .bare
    let arrival : Event := .answer 2 (.scores 7 (.ok []))
    (start.after [.key .enter]).selectedId = some 7 ∧
      (start.after [.key .enter, .key .escape, arrival]).popupShown = false ∧
      ∃ id, (start.after [.key .enter, arrival]).selectedId = some id ∧
        ((start.after [.key .enter, arrival]).scoresSentAfter 2).Sublist [.scores id] := by
  obtain ⟨hselected, hdismissed, _⟩ := showing_of_activated
    [{ Organization.bare 7 with url := some "", kind := some "" }] .standard .bare
    [.key .enter] (by decide)
  obtain ⟨_, _, hopened⟩ := showing_of_activated
    [{ Organization.bare 7 with url := some "", kind := some "" }] .standard .bare [] (by decide)
  obtain ⟨id, _, hstill, hsublist⟩ := hopened (.key .enter) [.answer 2 (.scores 7 (.ok []))]
    (by decide) (by decide) (by decide) (by decide)
  have hhidden := hdismissed (.key .escape) [.answer 2 (.scores 7 (.ok []))]
    (by decide) (by decide) (by decide) (by decide)
  exact ⟨(hselected (by decide)).2.2.trans (by decide), hhidden, id, hstill, hsublist⟩

end Dialogue

end Terminal

end Roster
