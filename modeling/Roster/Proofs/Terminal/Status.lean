import Roster.Proofs.History
import Roster.Proofs.Terminal.Phase

/-!
# The status of a session

The status says that an organization is loading as soon as its details are asked for, and is cleared
when details arrive and none are pending any more. Opening an organization whose details are known
ends what was pending as well, but leaves the status as it is. So the status tells whether details
are pending, except after such an opening, until further details arrive or are asked for.
-/

namespace Roster.Terminal

/-- Whether an event brings details, of whatever organization. -/
def Event.bringsDetail : Event → Bool
  | .answer _ (.detail _ _) => true
  | _ => false

namespace Session

/-- An event activates the row of an organization whose details are known. -/
def Opens (s : Session) (e : Event) : Prop :=
  ∃ id o, s.activated? e = some id ∧ s.directory.organization? id = some o ∧ o.hasDetail = true

/-- An event opens such an organization while details are pending. -/
def Supersedes (s : Session) (e : Event) : Prop :=
  s.directory.pending.isSome = true ∧ s.Opens e

/-- An event neither brings details nor asks for any. -/
def LeavesDetail (s : Session) (e : Event) : Prop :=
  e.bringsDetail = false ∧ ∀ id, .detail id ∉ (s.on e).requests

/-- What an event does to the status and to what is pending. It leaves both as they are; or it opens
an organization, and nothing is pending any more; or it asks for details; or it brings some. -/
inductive Affects (s : Session) (e : Event) : Prop where
  | keeps (opens : ¬s.Opens e) (leaves : s.LeavesDetail e)
      (status : (s.on e).state.status = s.status)
      (pending : (s.on e).state.directory.pending = s.directory.pending)
  | opens (opens : s.Opens e) (leaves : s.LeavesDetail e)
      (status : (s.on e).state.status = s.status)
      (pending : (s.on e).state.directory.pending = none)
  | asks (id : OrganizationId) (opens : ¬s.Opens e) (asked : .detail id ∈ (s.on e).requests)
      (status : (s.on e).state.status = loadingStatus)
      (pending : (s.on e).state.directory.pending = some id)
  | brings (opens : ¬s.Opens e) (brings : e.bringsDetail = true)
      (status : (s.on e).state.status =
        if (s.on e).state.directory.pending.isNone then "" else s.status)
      (pending : (s.on e).state.directory.pending = none ∨
        (s.on e).state.directory.pending = s.directory.pending)

/-! ## One event -/

/-- Bringing the popup in line asks for no details. -/
theorem detail_notMem_syncPopup (s : Session) (id : OrganizationId) :
    .detail id ∉ s.syncPopup.requests := by
  intro hasked
  cases hselected : s.directory.selectedOrganization with
  | none => simp [syncPopup, Popup.sync, hselected, dispatch] at hasked
  | some o => simpa using requests_syncPopup_subset hselected hasked

/-- An event that activates no row opens nothing. -/
theorem not_opens_of_none {s : Session} {e : Event} (h : s.activated? e = none) : ¬s.Opens e := by
  rintro ⟨id, o, hactivated, _⟩
  simp [h] at hactivated

/-- An event that activates a row opens its organization, or asks for its details. -/
theorem affects_of_activation {s t : Session} {e : Event} {id : OrganizationId} {o : Organization}
    (hactivated : s.activated? e = some id) (listed : s.directory.organization? id = some o)
    (alike : s.Alike t) (hon : s.on e = t.activate id) (hgesture : e.bringsDetail = false) :
    s.Affects e := by
  have hfound : t.directory.organization? id = some o := (alike.organization? id).trans listed
  cases hdetail : o.hasDetail with
  | true =>
    have hactivate := Directory.activate_of_known hfound hdetail
    obtain ⟨hrequests, hstate⟩ := activate_of_silent (s := t) (by rw [hactivate]; rfl)
    rw [hactivate, ← hon] at hrequests hstate
    refine .opens ⟨id, o, hactivated, listed, hdetail⟩ ⟨hgesture, fun other => ?_⟩ ?_ ?_
    · rw [hrequests]
      exact detail_notMem_syncPopup _ other
    · rw [hstate]
      exact alike.status
    · rw [hstate]
      rfl
  | false =>
    have hactivate := Directory.activate_of_unknown hfound hdetail
    obtain ⟨hrequests, hstate⟩ := activate_of_asking (s := t) (by rw [hactivate])
    rw [hactivate, ← hon] at hstate
    rw [← hon] at hrequests
    refine .asks id ?_ (by simp [hrequests]) (by rw [hstate]) (by rw [hstate])
    rintro ⟨other, p, hother, hp, hknown⟩
    obtain rfl : id = other := Option.some.inj (hactivated.symm.trans hother)
    obtain rfl : o = p := Option.some.inj (listed.symm.trans hp)
    simp [hdetail] at hknown

/-- A key or a click opens an organization, asks for its details, or changes neither the status nor
what is pending. -/
theorem Turn.affects {s : Session} {e : Event} (h : s.Turn (s.activated? e) (s.on e))
    (hgesture : e.bringsDetail = false) : s.Affects e := by
  generalize hactivated : s.activated? e = activated at h
  generalize hon : s.on e = step at h
  cases h with
  | quiet alike =>
    refine .keeps (not_opens_of_none hactivated) ⟨hgesture, by simp [hon]⟩ ?_ ?_
    · rw [hon]
      exact alike.status
    · rw [hon]
      exact alike.pending
  | shutdown hidden =>
    refine .keeps (not_opens_of_none hactivated) ⟨hgesture, by simp [hon]⟩ ?_ ?_
    · rw [hon]
      rfl
    · rw [hon]
      rfl
  | activation alike hidden listed =>
    exact affects_of_activation hactivated listed alike hon hgesture
  | @dismissal gesture shown dismissed =>
    have hdismiss : (s.dismiss gesture).status = s.status ∧
        (s.dismiss gesture).directory.pending = s.directory.pending := by
      unfold Session.dismiss
      split <;> exact ⟨rfl, rfl⟩
    refine .keeps (not_opens_of_none hactivated) ⟨hgesture, fun id => ?_⟩ ?_ ?_
    · rw [hon]
      exact detail_notMem_syncPopup _ id
    · rw [hon]
      exact hdismiss.1
    · rw [hon]
      exact hdismiss.2

/-- Taking in details leaves what is pending as it is, or ends it. -/
theorem pending_receiveDetail (d : Directory) (id : OrganizationId)
    (result : Fetched OrganizationDetail) :
    (d.receiveDetail id result).state.pending = none ∨
      (d.receiveDetail id result).state.pending = d.pending := by
  obtain ⟨os, _, hstate⟩ := d.receiveDetail_eq_settle id result
  rw [hstate, Directory.settle]
  split
  · exact .inl rfl
  · exact .inr rfl

/-- What any event does to the status and to what is pending. -/
theorem affects (s : Session) (e : Event) : s.Affects e := by
  cases e with
  | key key => exact (s.turn_key key).affects rfl
  | mouse action screen x y => exact (s.turn_mouse action screen x y).affects rfl
  | answer n answer =>
    have hopens : ¬s.Opens (.answer n answer) := not_opens_of_none rfl
    cases answer with
    | fundingRounds result => cases result <;> exact .keeps hopens ⟨rfl, nofun⟩ rfl rfl
    | rtoPolicies result => cases result <;> exact .keeps hopens ⟨rfl, nofun⟩ rfl rfl
    | detail id result =>
      have hstate := (s.receive_detail id result).2
      refine .brings hopens rfl ?_ ?_
      · rw [on, hstate]
        rfl
      · rw [on, hstate]
        exact pending_receiveDetail s.directory id result
    | scores id result =>
      have hsilent := s.popup.receiveScores_requests id result
      exact .keeps hopens ⟨rfl, by simp [on, receive, hsilent]⟩ rfl rfl

/-- The status is empty or says that an organization is loading, and it says so while details are
pending. -/
structure Announces (s : Session) : Prop where
  status : s.status = "" ∨ s.status = loadingStatus
  pending : s.directory.pending.isSome = true → s.status = loadingStatus

/-- The status says that an organization is loading, but nothing is pending. -/
def Misleads (s : Session) : Prop :=
  s.status = loadingStatus ∧ s.directory.pending = none

/-- Every event keeps pending details announced. -/
theorem Announces.on {s : Session} (h : s.Announces) (e : Event) : (s.on e).state.Announces := by
  cases s.affects e with
  | keeps opens leaves status pending =>
    refine ⟨?_, ?_⟩
    · rw [status]
      exact h.status
    · rw [status, pending]
      exact h.pending
  | opens opens leaves status pending =>
    refine ⟨?_, ?_⟩
    · rw [status]
      exact h.status
    · rw [pending]
      exact nofun
  | asks id opens asked status pending => exact ⟨.inr status, fun _ => status⟩
  | brings opens brings status pending =>
    refine ⟨?_, fun hpending => ?_⟩
    · rw [status]
      split
      · exact .inl rfl
      · exact h.status
    · have hsome := Option.isNone_eq_false_iff.mpr hpending
      rw [status, hsome, if_neg Bool.false_ne_true]
      rcases pending with hnone | hsame
      · simp [hnone] at hpending
      · exact h.pending (hsame ▸ hpending)

/-- The status misleads after an event that ends what was pending by opening an organization, or if
it did before and the event leaves details alone. -/
theorem Announces.misleads_on_iff {s : Session} (h : s.Announces) (e : Event) :
    (s.on e).state.Misleads ↔ s.Supersedes e ∨ s.Misleads ∧ s.LeavesDetail e := by
  unfold Misleads Supersedes
  cases s.affects e with
  | keeps opens leaves status pending => simp [status, pending, opens, leaves]
  | opens opens leaves status pending =>
    cases hpending : s.directory.pending with
    | none => simp [status, pending, leaves]
    | some id => simp [status, pending, opens, h.pending (by simp [hpending])]
  | asks id opens asked status pending =>
    have hasks : ¬s.LeavesDetail e := fun hleaves => hleaves.2 id asked
    simp [pending, opens, hasks]
  | brings opens brings status pending =>
    have hbrings : ¬s.LeavesDetail e := fun hleaves =>
      Bool.false_ne_true (hleaves.1.symm.trans brings)
    have hcleared (hnone : (s.on e).state.directory.pending = none) :
        (s.on e).state.status ≠ loadingStatus := by
      rw [status, hnone]
      exact (by decide : "" ≠ loadingStatus)
    simp only [opens, hbrings, and_false, or_self, iff_false]
    exact fun hmisleads => hcleared hmisleads.2 hmisleads.1

end Session

/-! ## Every dialogue -/

namespace Dialogue

/-- Among the events, what was pending was superseded by an organization that was opened at once, and
since then no details have arrived and none have been asked for. -/
def Superseded (d : Dialogue) (events : List Event) : Prop :=
  Since (fun before e => (d.after before).session.Supersedes e)
    (fun before e => (d.after before).session.LeavesDetail e) events

/-- One more event happens to what the others have led to. -/
theorem session_after_concat (d : Dialogue) (events : List Event) (e : Event) :
    (d.after (events ++ [e])).session = ((d.after events).session.on e).state := by
  rw [after, List.foldl_append]
  rfl

/-- Pending details stay announced. -/
theorem announces_after {d : Dialogue} (h : d.session.Announces) (events : List Event) :
    (d.after events).session.Announces := by
  induction events using List.reverseRecOn with
  | nil => exact h
  | append_singleton events e ih =>
    rw [session_after_concat]
    exact ih.on e

/-- The status misleads exactly since what was pending was superseded. -/
theorem misleads_after_iff {d : Dialogue} (h : d.session.Announces) (hd : ¬d.session.Misleads)
    (events : List Event) : (d.after events).session.Misleads ↔ d.Superseded events := by
  refine iff_since_of_concat (P := fun events => (d.after events).session.Misleads) hd ?_ events
  intro events e
  rw [session_after_concat]
  exact (announces_after h events).misleads_on_iff e

/-- Whatever keys, clicks and answers come, the status is empty or says that an organization is
loading, and it says so while details are pending. It says so only then, unless what was pending has
been superseded by opening an organization whose details were known, and since then no details have
arrived and none have been asked for. -/
theorem status_loading_iff (organizations : List Organization) (pageSize : PageSize)
    (address : Url) (events : List Event) :
    let start := opening organizations pageSize address
    let s := (start.after events).session
    (s.status = "" ∨ s.status = Session.loadingStatus) ∧
      (s.directory.pending.isSome = true → s.status = Session.loadingStatus) ∧
      ((s.status = Session.loadingStatus ↔ s.directory.pending.isSome = true) ↔
        ¬start.Superseded events) := by
  intro start s
  have hstart : start.session.Announces := ⟨.inl rfl, nofun⟩
  have hquiet : ¬start.session.Misleads := by
    rintro ⟨hloading, _⟩
    exact absurd hloading (by decide : "" ≠ Session.loadingStatus)
  have hs : s.Announces := announces_after hstart events
  refine ⟨hs.status, hs.pending, ?_⟩
  rw [← misleads_after_iff hstart hquiet]
  change (s.status = Session.loadingStatus ↔ s.directory.pending.isSome = true) ↔ ¬s.Misleads
  cases hpending : s.directory.pending with
  | none => simp [Session.Misleads, hpending]
  | some id => simp [Session.Misleads, hpending, hs.pending (by simp [hpending])]

/-- The row of an organization is activated, and then, before its details arrive, the row of another
whose details are known. Its popup is shown, nothing is pending, and the status still says that an
organization is loading. -/
theorem status_loading_after_opening :
    let known := { Organization.bare 2 with url := some "https://two.example", kind := some "C" }
    let start := opening [.bare 1, known] .standard .bare
    let events := [.key .enter, .key .down, .key .enter]
    let s := (start.after events).session
    start.Course events ∧ s.directory.selected = some 2 ∧ s.directory.pending = none ∧
      s.status = Session.loadingStatus := by
  decide

end Dialogue

end Roster.Terminal
