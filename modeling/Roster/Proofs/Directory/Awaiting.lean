import Roster.Proofs.Directory.Arrival
import Roster.Proofs.Directory.Selection
import Roster.Proofs.History

/-!
# What is shown and what is awaited

The popup and the details waited for are named by ids, which are looked up anew whenever they are
read. Since no operation changes an id, both always name organizations of the list, whatever is
activated, closed or received in between. An organization is awaited from its activation until an
answer for its details comes in or an organization of the list is activated again, and only the
answer awaited shows a popup.
-/

namespace Roster.Directory

/-- The popup is shown exactly while something is selected, and what is selected or waited for is
in the list. -/
structure Consistent (d : Directory) : Prop where
  visible : d.popupVisible = d.selected.isSome
  selected : ∀ id ∈ d.selected, id ∈ d.organizations.map Organization.id
  pending : ∀ id ∈ d.pending, id ∈ d.organizations.map Organization.id

/-! ## What an operation keeps -/

variable {d : Directory}

/-- A directory that has just been opened selects nothing and waits for nothing. -/
theorem consistent_ofList (organizations : List Organization) (pageSize : PageSize)
    (page : Option String) : (ofList organizations pageSize page).Consistent :=
  ⟨rfl, nofun, nofun⟩

/-- Organizations may change as long as their ids stay. -/
theorem Consistent.withOrganizations (h : d.Consistent) {os : List Organization}
    (hids : os.map Organization.id = d.organizations.map Organization.id) :
    { d with organizations := os }.Consistent where
  visible := h.visible
  selected id hid := hids ▸ h.selected id hid
  pending id hid := hids ▸ h.pending id hid

/-- The popup of an organization of the list may be shown while nothing is waited for. -/
theorem consistent_openPopup {id : OrganizationId}
    (hid : id ∈ d.organizations.map Organization.id) :
    ({ d with pending := none }.openPopup id).Consistent where
  visible := rfl
  selected := by
    rintro other ⟨⟩
    exact hid
  pending := nofun

/-- What was waited for may be shown. -/
theorem Consistent.settle (h : d.Consistent) (id : OrganizationId) : (d.settle id).Consistent := by
  by_cases hid : d.pending = some id
  · rw [settle_of_pending hid]
    exact consistent_openPopup (h.pending id hid)
  · rw [settle_of_ne hid]
    exact h

/-- Only an organization of the list is selected or waited for when it is activated. -/
theorem Consistent.activate (h : d.Consistent) (id : OrganizationId) :
    (d.activate id).state.Consistent := by
  unfold Directory.activate
  split
  · exact h
  · rename_i o ho
    have hid : id ∈ d.organizations.map Organization.id := mem_ids_iff.mpr ⟨o, ho⟩
    split
    · exact consistent_openPopup hid
    · refine ⟨h.visible, h.selected, ?_⟩
      rintro other ⟨⟩
      exact hid

/-- Every operation keeps the selection in the list. -/
theorem Consistent.perform (h : d.Consistent) (op : Operation) :
    (d.perform op).state.Consistent := by
  cases op with
  | activate id => exact h.activate id
  | closePopup => exact ⟨rfl, nofun, h.pending⟩
  | receiveFundingRounds result => cases result <;> exact ⟨h.visible, h.selected, h.pending⟩
  | receiveRtoPolicies result => cases result <;> exact ⟨h.visible, h.selected, h.pending⟩
  | receiveDetail id result =>
    obtain ⟨os, hids, hstate⟩ := d.receiveDetail_eq_settle id result
    rw [Directory.perform, hstate]
    exact (h.withOrganizations hids).settle id
  | _ => exact ⟨h.visible, h.selected, h.pending⟩

/-- Every run keeps the selection in the list. -/
theorem Consistent.run (h : d.Consistent) (ops : List Operation) : (d.run ops).Consistent := by
  induction ops generalizing d with
  | nil => exact h
  | cons op rest ih => exact ih (h.perform op)

/-- Something is found under what is selected, and only while the popup is shown. -/
theorem Consistent.visible_iff (h : d.Consistent) :
    d.popupVisible = true ↔ d.selectedOrganization.isSome = true := by
  rw [h.visible, selectedOrganization]
  cases hselected : d.selected with
  | none => simp
  | some id =>
    obtain ⟨o, ho⟩ := mem_ids_iff.mp (h.selected id hselected)
    simp [ho]

/-! ## How long an organization is awaited -/

/-- Whether an operation ends the wait for the details of an organization: an answer for them comes
in, or an organization of the list is activated. -/
def Operation.endsWait (ids : List OrganizationId) (id : OrganizationId) : Operation → Bool
  | .activate other => ids.contains other
  | .receiveDetail other _ => other == id
  | _ => false

/-- The organization of an id is awaited after operations: it was activated when its details were
not known, and nothing has ended the wait since. -/
def AwaitedAfter (d : Directory) (ops : List Operation) (id : OrganizationId) : Prop :=
  ∃ before after o, ops = before ++ .activate id :: after ∧
    (d.run before).organization? id = some o ∧ o.hasDetail = false ∧
    ∀ op ∈ after, op.endsWait (d.organizations.map Organization.id) id = false

/-- Activating an organization starts a wait for it, if its details are not known, and ends any
other. Outside the list nothing is activated. -/
theorem activate_pending_iff (d : Directory) (other id : OrganizationId) :
    (d.activate other).state.pending = some id ↔
      (other = id ∧ ∃ o, d.organization? id = some o ∧ o.hasDetail = false) ∨
        (d.pending = some id ∧ other ∉ d.organizations.map Organization.id) := by
  rw [mem_ids_iff, activate]
  cases ho : d.organization? other with
  | none =>
    have hother : other = id → d.organization? id = none := by
      rintro rfl
      exact ho
    constructor
    · intro hpending
      exact .inr ⟨hpending, by simp⟩
    · rintro (⟨heq, o, hid, -⟩ | ⟨hpending, -⟩)
      · simp [hother heq] at hid
      · exact hpending
  | some o =>
    by_cases hdetail : o.hasDetail = true
    · simp only [hdetail, if_true, Step.silent_state, openPopup]
      constructor
      · intro hnone
        simp at hnone
      · rintro (⟨rfl, o', hid, hdetail'⟩ | ⟨-, hnone⟩)
        · obtain rfl : o = o' := Option.some.inj (ho.symm.trans hid)
          simp [hdetail] at hdetail'
        · exact absurd ⟨o, rfl⟩ hnone
    · simp only [hdetail, Bool.false_eq_true, if_false, Option.some.injEq]
      constructor
      · rintro rfl
        exact .inl ⟨rfl, o, ho, by simpa using hdetail⟩
      · rintro (⟨heq, -⟩ | ⟨-, hnone⟩)
        · exact heq
        · exact absurd ⟨o, rfl⟩ hnone

/-- Details end the wait for them, and no other. -/
theorem receiveDetail_pending_iff (d : Directory) (other id : OrganizationId)
    (result : Fetched OrganizationDetail) :
    (d.receiveDetail other result).state.pending = some id ↔ d.pending = some id ∧ other ≠ id := by
  obtain ⟨os, -, hstate⟩ := d.receiveDetail_eq_settle other result
  rw [hstate]
  by_cases hother : d.pending = some other
  · rw [settle_of_pending (d := { d with organizations := os }) hother]
    constructor
    · intro hnone
      simp [openPopup] at hnone
    · rintro ⟨hid, hne⟩
      exact absurd (Option.some.inj (hother.symm.trans hid)) hne
  · rw [settle_of_ne (d := { d with organizations := os }) hother]
    constructor
    · intro hid
      refine ⟨hid, ?_⟩
      rintro rfl
      exact hother hid
    · rintro ⟨hid, -⟩
      exact hid

/-- An operation starts a wait by activating an organization without details, and keeps one that it
does not end. -/
theorem perform_pending_iff (d : Directory) (op : Operation) (id : OrganizationId) :
    (d.perform op).state.pending = some id ↔
      (op = .activate id ∧ ∃ o, d.organization? id = some o ∧ o.hasDetail = false) ∨
        (d.pending = some id ∧ op.endsWait (d.organizations.map Organization.id) id = false) := by
  have hkept (rest : (d.perform op).state.pending = d.pending) (hother : ∀ id, op ≠ .activate id)
      (hends : op.endsWait (d.organizations.map Organization.id) id = false) :
      (d.perform op).state.pending = some id ↔
        (op = .activate id ∧ ∃ o, d.organization? id = some o ∧ o.hasDetail = false) ∨
          (d.pending = some id ∧ op.endsWait (d.organizations.map Organization.id) id = false) := by
    simp [rest, hother, hends]
  cases op with
  | activate other =>
    simpa [perform, Operation.endsWait] using d.activate_pending_iff other id
  | receiveDetail other result =>
    simpa [perform, Operation.endsWait] using d.receiveDetail_pending_iff other id result
  | receiveFundingRounds result => cases result <;> exact hkept rfl (by simp) rfl
  | receiveRtoPolicies result => cases result <;> exact hkept rfl (by simp) rfl
  | _ => exact hkept rfl (by simp) rfl

/-- After a run the details awaited are those that the directory waits for. -/
theorem run_pending_iff (h : d.pending = none) (ops : List Operation) (id : OrganizationId) :
    (d.run ops).pending = some id ↔ d.AwaitedAfter ops id := by
  have hsince : d.AwaitedAfter ops id ↔
      Since (fun before op => op = .activate id ∧
          ∃ o, (d.run before).organization? id = some o ∧ o.hasDetail = false)
        (fun _ op => op.endsWait (d.organizations.map Organization.id) id = false) ops := by
    rw [since_iff_forall_mem]
    constructor
    · rintro ⟨before, after, o, hops, ho, hdetail, hafter⟩
      exact ⟨before, _, after, hops, ⟨rfl, o, ho, hdetail⟩, hafter⟩
    · rintro ⟨before, _, after, hops, ⟨rfl, o, ho, hdetail⟩, hafter⟩
      exact ⟨before, after, o, hops, ho, hdetail, hafter⟩
  rw [hsince]
  refine iff_since_of_concat (P := fun ops => (d.run ops).pending = some id) ?_ ?_ ops
  · simp [run, h]
  · intro ops op
    rw [run_concat, perform_pending_iff, map_id_run]

/-! ## What an answer shows -/

/-- The answer that is waited for shows the popup and ends the wait, whatever it brings. -/
theorem receive_of_awaited {answer : Answer}
    (h : d.pending.map Request.detail = some answer.request) :
    (d.receive answer).state.popupVisible = true ∧
      (d.receive answer).state.selected = d.pending ∧
      (d.receive answer).state.pending = none := by
  obtain ⟨id, hid, hrequest⟩ := Option.map_eq_some_iff.mp h
  cases answer with
  | detail other result =>
    obtain rfl : id = other := Request.detail.inj hrequest
    have hkept : (d.keep (.detail id result)).pending = some id := (d.keep_pending _).trans hid
    rw [receive_state, reveal, settle_of_pending hkept, hid]
    exact ⟨rfl, rfl, rfl⟩
  | _ => simp [Answer.request] at hrequest

/-- Any other answer leaves alone what is shown and what is waited for. -/
theorem receive_of_not_awaited {answer : Answer}
    (h : d.pending.map Request.detail ≠ some answer.request) :
    (d.receive answer).state.popupVisible = d.popupVisible ∧
      (d.receive answer).state.selected = d.selected ∧
      (d.receive answer).state.pending = d.pending := by
  have hreveal : (d.keep answer).reveal answer = d.keep answer := by
    cases answer with
    | detail id result =>
      have hid : d.pending ≠ some id := by
        intro hid
        exact h (by rw [hid]; rfl)
      exact settle_of_ne (by rwa [keep_pending])
    | _ => rfl
  obtain ⟨_, _, _, hkeep⟩ := d.keep_eq answer
  rw [receive_state, hreveal, hkeep]
  exact ⟨rfl, rfl, rfl⟩

/-- After any operations the popup is shown exactly while an organization is selected, and what is
selected or waited for is in the list. The directory waits for an organization that was activated
when its details were not known, until the wait is ended. The answer it waits for, and no other,
shows a popup that was hidden; it ends the wait even when it brings nothing. All other answers
leave the selection, the popup and the wait as they are. -/
theorem selection_run (organizations : List Organization) (pageSize : PageSize)
    (page : Option String) (ops : List Operation) :
    let d := (ofList organizations pageSize page).run ops
    (d.popupVisible = true ↔ d.selectedOrganization.isSome = true) ∧
      (∀ id ∈ d.selected, ∃ o ∈ d.organizations, o.id = id) ∧
      (∀ id ∈ d.pending, ∃ o ∈ d.organizations, o.id = id) ∧
      (∀ id, d.pending = some id ↔ (ofList organizations pageSize page).AwaitedAfter ops id) ∧
      ∀ answer : Answer,
        let next := (d.receive answer).state
        let awaited := d.pending.map Request.detail = some answer.request
        (d.popupVisible = false → (next.popupVisible = true ↔ awaited)) ∧
          (awaited →
            next.popupVisible = true ∧ next.selected = d.pending ∧ next.pending = none) ∧
          (¬awaited →
            next.popupVisible = d.popupVisible ∧ next.selected = d.selected ∧
              next.pending = d.pending) := by
  intro d
  have hconsistent : d.Consistent := (consistent_ofList organizations pageSize page).run ops
  refine ⟨hconsistent.visible_iff, ?_, ?_, run_pending_iff rfl ops, ?_⟩
  · intro id hid
    exact List.mem_map.mp (hconsistent.selected id hid)
  · intro id hid
    exact List.mem_map.mp (hconsistent.pending id hid)
  · intro answer next awaited
    refine ⟨?_, receive_of_awaited, receive_of_not_awaited⟩
    intro hhidden
    constructor
    · intro hshown
      by_contra hother
      have hsame : next.popupVisible = d.popupVisible := (receive_of_not_awaited hother).1
      simp [hsame, hhidden] at hshown
    · intro hawaited
      exact (receive_of_awaited hawaited).1

end Roster.Directory
