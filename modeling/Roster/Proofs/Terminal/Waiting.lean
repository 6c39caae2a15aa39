import Roster.Proofs.Terminal.Phase

/-!
# What a session waits for

A session counts the requests that have not been answered, and it waits for at most one of them: for
the details of a row that was activated, or for the scores of the popup that is shown. What it waits
for is always on its way, whatever else is, so no order of answers leaves it waiting for nothing.
-/

namespace Roster.Terminal

/-! ## The count of requests -/

namespace Session

/-- Bringing the popup in line counts the requests it sends. -/
theorem inFlight_syncPopup (s : Session) :
    s.syncPopup.state.inFlight = s.inFlight + s.syncPopup.requests.length := rfl

/-- Activating a row counts the requests it sends. -/
theorem inFlight_activate (s : Session) (id : OrganizationId) :
    (s.activate id).state.inFlight = s.inFlight + (s.activate id).requests.length := by
  cases hrequests : (s.directory.activate id).requests with
  | nil =>
    obtain ⟨hsent, hstate⟩ := activate_of_silent hrequests
    rw [hsent, hstate]
    rfl
  | cons r rest => simp [Session.activate, hrequests]

/-- A gesture counts the requests it sends. -/
theorem Turn.inFlight {s : Session} {activated : Option OrganizationId} {step : Step Session}
    (h : s.Turn activated step) : step.state.inFlight = s.inFlight + step.requests.length := by
  cases h with
  | quiet alike => exact alike.inFlight
  | shutdown hidden => rfl
  | activation alike hidden listed => rw [inFlight_activate, alike.inFlight]
  | @dismissal gesture shown dismissed =>
    have hkept : (s.dismiss gesture).inFlight = s.inFlight := by
      unfold Session.dismiss
      split <;> rfl
    rw [inFlight_syncPopup, hkept]

/-- An answer is taken off the count, and the requests it leads to are added. -/
theorem inFlight_receive (s : Session) (answer : Answer) :
    (s.receive answer).state.inFlight = s.inFlight - 1 + (s.receive answer).requests.length := by
  cases answer with
  | fundingRounds result => cases result <;> rfl
  | rtoPolicies result => cases result <;> rfl
  | detail id result =>
    obtain ⟨hrequests, hstate⟩ := s.receive_detail id result
    rw [hrequests, hstate]
    rfl
  | scores id result => simp [receive, s.popup.receiveScores_requests id result]

end Session

/-! ## The request that is waited for -/

/-- The request that a phase waits for. -/
def Phase.awaited : Phase → Option Request
  | .hidden (some id) => some (.detail id)
  | .shown _ (.loading id) => some (.scores id)
  | _ => none

/-- Details are waited for only while nothing is shown. -/
theorem Phase.awaited_detail_iff {p : Phase} {id : OrganizationId} :
    p.awaited = some (.detail id) ↔ p = .hidden (some id) := by
  cases p with
  | hidden pending => cases pending <;> simp [awaited]
  | shown shown scores => cases scores <;> simp [awaited]

/-- Scores are waited for only while they are loading. -/
theorem Phase.awaited_scores_iff {p : Phase} {id : OrganizationId} :
    p.awaited = some (.scores id) ↔ ∃ shown, p = .shown shown (.loading id) := by
  cases p with
  | hidden pending => cases pending <;> simp [awaited]
  | shown shown scores => cases scores <;> simp [awaited]

/-- The tables of labels are never waited for. -/
theorem Phase.awaited_ne_choices (p : Phase) :
    p.awaited ≠ some .fundingRounds ∧ p.awaited ≠ some .rtoPolicies := by
  cases p with
  | hidden pending => cases pending <;> simp [awaited]
  | shown shown scores => cases scores <;> simp [awaited]

/-- A shown phase waits for scores that have just been asked for, or for what it waited for. -/
theorem Phase.awaited_of_asks {id : OrganizationId} {before later : FetchedScores}
    {requests : List Request} (h : Popup.Asks id before requests later) {r : Request}
    (hr : (Phase.shown id later).awaited = some r) :
    r ∈ requests ∨ (Phase.shown id before).awaited = some r := by
  cases h with
  | nothing => exact .inr hr
  | first => exact .inl (List.mem_singleton.mpr (Option.some.inj hr).symm)

/-- A popup that has just been opened waits only for what it has asked for. -/
theorem Phase.awaited_of_asks_idle {id : OrganizationId} {later : FetchedScores}
    {requests : List Request} (h : Popup.Asks id .idle requests later) {r : Request}
    (hr : (Phase.shown id later).awaited = some r) : r ∈ requests := by
  rcases awaited_of_asks h hr with hsent | hidle
  · exact hsent
  · simp [Phase.awaited] at hidle

/-- What a phase waits for has just been asked for, or was waited for before and has not been
answered now. -/
theorem Phase.Leads.awaited {p p' : Phase} {c : Cause} {requests : List Request}
    (h : p.Leads c requests p') {r : Request} (hr : p'.awaited = some r) :
    r ∈ requests ∨ p.awaited = some r ∧ ∀ answer, c = .answer answer → answer.request ≠ r := by
  cases h with
  | stay => exact .inr ⟨hr, fun _ hc => by cases hc⟩
  | ask pending id => exact .inl (List.mem_singleton.mpr (Option.some.inj hr).symm)
  | «show» pending asks => exact .inl (awaited_of_asks_idle asks hr)
  | dismiss => simp [Phase.awaited] at hr
  | fundingRounds p result =>
    refine .inr ⟨hr, ?_⟩
    rintro _ ⟨⟩ rfl
    exact p.awaited_ne_choices.1 hr
  | rtoPolicies p result =>
    refine .inr ⟨hr, ?_⟩
    rintro _ ⟨⟩ rfl
    exact p.awaited_ne_choices.2 hr
  | arrive result asks => exact .inl (awaited_of_asks_idle asks hr)
  | pass result other =>
    refine .inr ⟨hr, ?_⟩
    rintro _ ⟨⟩ rfl
    exact other (Phase.hidden.inj (Phase.awaited_detail_iff.mp hr))
  | refresh id result asks =>
    rcases awaited_of_asks asks hr with hsent | hbefore
    · exact .inl hsent
    · refine .inr ⟨hbefore, ?_⟩
      rintro _ ⟨⟩ rfl
      cases Phase.awaited_detail_iff.mp hbefore
  | load => simp [Phase.awaited] at hr
  | ignore result other =>
    refine .inr ⟨hr, ?_⟩
    rintro _ ⟨⟩ rfl
    obtain ⟨shown, hshown⟩ := Phase.awaited_scores_iff.mp hr
    exact other shown hshown

/-! ## Every dialogue -/

namespace Dialogue

/-- The books of a dialogue are in order: the count is that of the requests without an answer, and
what the session waits for is among them. -/
structure Accounted (d : Dialogue) : Prop where
  numbered : d.Numbered
  inFlight : d.session.inFlight = d.unanswered.length
  phase : ∃ p, d.session.InPhase p ∧ ∀ r, p.awaited = some r → d.Awaits r

theorem accounted_opening (organizations : List Organization) (pageSize : PageSize)
    (address : Url) : (opening organizations pageSize address).Accounted :=
  ⟨numbered_opening organizations pageSize address, rfl, .hidden none,
    ⟨Directory.hides_ofList organizations pageSize _, rfl⟩, fun _ h => nomatch h⟩

/-- The count follows the requests without an answer. -/
theorem inFlight_next {d : Dialogue} (h : d.session.inFlight = d.unanswered.length) {e : Event}
    (he : d.Admits e) : (d.next e).session.inFlight = (d.next e).unanswered.length := by
  have hlength : (d.next e).unanswered.length =
      (d.leftBy e).length + (d.session.on e).requests.length := by
    simp [next]
  rw [hlength, d.length_leftBy he, ← h]
  cases e with
  | key key => exact (d.session.turn_key key).inFlight
  | mouse action screen x y => exact (d.session.turn_mouse action screen x y).inFlight
  | answer n answer => exact d.session.inFlight_receive answer

/-- What is waited for after an event is on its way. -/
theorem awaits_next {d : Dialogue} {p p' : Phase} {e : Event} (he : d.Admits e)
    (hleads : p.Leads (d.session.cause e) (d.session.on e).requests p')
    (h : ∀ r, p.awaited = some r → d.Awaits r) {r : Request} (hr : p'.awaited = some r) :
    (d.next e).Awaits r := by
  rcases hleads.awaited hr with hsent | ⟨hbefore, hother⟩
  · exact d.awaits_next_of_mem hsent
  · refine (h r hbefore).next he fun n answer heq => hother answer ?_
    rw [heq]
    rfl

theorem Accounted.next {d : Dialogue} (h : d.Accounted) {e : Event} (he : d.Admits e) :
    (d.next e).Accounted := by
  obtain ⟨p, hphase, hawaited⟩ := h.phase
  obtain ⟨p', hleads, hphase'⟩ := Session.leads_on hphase e
  exact ⟨h.numbered.next e, inFlight_next h.inFlight he, p', hphase',
    fun r hr => awaits_next he hleads hawaited hr⟩

/-- Whatever happens to a session, its books stay in order. -/
theorem accounted_after {organizations : List Organization} {pageSize : PageSize} {address : Url}
    {events : List Event} (h : (opening organizations pageSize address).Course events) :
    ((opening organizations pageSize address).after events).Accounted :=
  h.preserves (fun _ _ hd he => hd.next he) (accounted_opening organizations pageSize address)

/-- Details that are pending are on their way. -/
theorem Accounted.awaits_pending {d : Dialogue} (h : d.Accounted) {id : OrganizationId}
    (hid : d.session.directory.pending = some id) : d.Awaits (.detail id) := by
  obtain ⟨p, hphase, hawaited⟩ := h.phase
  cases p with
  | hidden pending =>
    obtain rfl : pending = some id := hphase.directory.waiting.symm.trans hid
    exact hawaited _ rfl
  | shown shown scores =>
    have hnone := hphase.directory.waiting
    simp [hid] at hnone

/-- Scores that are loading are those of the selected organization, and on their way. -/
theorem Accounted.awaits_loading {d : Dialogue} (h : d.Accounted)
    (hloading : d.session.popup.isLoading = true) :
    ∃ o, d.session.directory.selectedOrganization = some o ∧ d.Awaits (.scores o.id) := by
  obtain ⟨p, hphase, hawaited⟩ := h.phase
  cases p with
  | hidden pending => simp [hphase.popup, Popup.hidden, Popup.isLoading] at hloading
  | shown id scores =>
    rw [Popup.isLoading, hphase.fetched] at hloading
    cases scores with
    | idle => simp at hloading
    | loaded other scores => simp at hloading
    | loading other =>
      obtain rfl : other = id := hphase.own other (beq_self_eq_true other)
      obtain ⟨o, ho, rfl⟩ := hphase.directory.selectedOrganization
      exact ⟨o, ho, hawaited _ rfl⟩

/-- In every dialogue the count is that of the requests without an answer, and is never zero when an
answer comes in. Pending details are on their way, and while scores are loading those of the
selected organization are. So once every request has its answer, the count is zero and nothing is
pending or loading. -/
theorem inFlight_eq_and_awaits_waited (organizations : List Organization) (pageSize : PageSize)
    (address : Url) (events : List Event)
    (h : (opening organizations pageSize address).Course events) :
    let d := (opening organizations pageSize address).after events
    d.unanswered.Nodup ∧ (∀ n ∈ d.unanswered, n < d.sent.length) ∧
      d.session.inFlight = d.unanswered.length ∧
      (∀ n answer, d.Admits (.answer n answer) → 0 < d.session.inFlight) ∧
      (∀ id, d.session.directory.pending = some id → d.Awaits (.detail id)) ∧
      (d.session.popup.isLoading = true →
        ∃ o, d.session.directory.selectedOrganization = some o ∧ d.Awaits (.scores o.id)) ∧
      (d.unanswered = [] →
        d.session.inFlight = 0 ∧ d.session.directory.pending = none ∧
          d.session.popup.isLoading = false) := by
  intro d
  have hd : d.Accounted := accounted_after h
  refine ⟨hd.numbered.distinct, hd.numbered.sent, hd.inFlight, ?_, fun id => hd.awaits_pending,
    hd.awaits_loading, ?_⟩
  · intro n answer hadmits
    rw [hd.inFlight]
    exact List.length_pos_of_mem hadmits.1
  · intro hnone
    have hnothing : ∀ r, ¬d.Awaits r := by
      rintro r ⟨n, hn, _⟩
      rw [hnone] at hn
      cases hn
    refine ⟨by rw [hd.inFlight, hnone]; rfl, ?_, ?_⟩
    · cases hpending : d.session.directory.pending with
      | none => rfl
      | some id => exact absurd (hd.awaits_pending hpending) (hnothing _)
    · cases hloading : d.session.popup.isLoading with
      | false => rfl
      | true =>
        obtain ⟨o, _, hawaits⟩ := hd.awaits_loading hloading
        exact absurd hawaits (hnothing _)

/-- A row is activated, its details are answered before the tables are, and its popup waits for the
scores it has asked for. -/
theorem awaits_scores_of_shown :
    let start := opening [Organization.bare 7] .standard .bare
    let events := [.key .enter, .answer 2 (.detail 7 (.ok .blank))]
    start.Course events ∧ (start.after events).session.inFlight = 3 ∧
      ∃ o, (start.after events).session.directory.selectedOrganization = some o ∧
        (start.after events).Awaits (.scores o.id) := by
  have hcourse : (opening [Organization.bare 7] .standard .bare).Course
      [.key .enter, .answer 2 (.detail 7 (.ok .blank))] := by decide
  obtain ⟨_, _, hcount, _, _, hloading, _⟩ := inFlight_eq_and_awaits_waited _ _ _ _ hcourse
  exact ⟨hcourse, hcount.trans (by decide), hloading (by decide)⟩

end Dialogue

end Roster.Terminal
