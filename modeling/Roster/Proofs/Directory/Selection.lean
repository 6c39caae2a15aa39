import Roster.Proofs.Directory.Run

/-!
# What the directory shows and waits for

As long as rows are activated only while the popup is hidden, a directory is in one of two states.
Either it shows the popup of an organization of its list and waits for nothing, or it shows none and
may wait for the details of an organization of its list. Answers for other organizations change
records and nothing else, since merging details keeps every id.
-/

namespace Roster.Directory

/-- A directory shows the popup of an organization of its list, and waits for no details. -/
structure Shows (d : Directory) (id : OrganizationId) : Prop where
  visible : d.popupVisible = true
  selected : d.selected = some id
  waiting : d.pending = none
  listed : id ∈ d.organizations.map Organization.id

/-- A directory shows no popup, and waits for the details of an organization of its list or of
none. -/
structure Hides (d : Directory) (pending : Option OrganizationId) : Prop where
  hidden : d.popupVisible = false
  selected : d.selected = none
  waiting : d.pending = pending
  listed : ∀ id ∈ pending, id ∈ d.organizations.map Organization.id

/-! ## Finding organizations -/

/-- What is found under an id has that id. -/
theorem id_of_organization? {d : Directory} {id : OrganizationId} {o : Organization}
    (h : d.organization? id = some o) : o.id = id := by
  unfold Directory.organization? at h
  have hid := List.find?_some h
  exact eq_of_beq hid

/-- Something is found under exactly the ids of the list. -/
theorem mem_ids_iff {d : Directory} {id : OrganizationId} :
    id ∈ d.organizations.map Organization.id ↔ ∃ o, d.organization? id = some o := by
  rw [← Option.isSome_iff_exists, organization?, List.find?_isSome, List.mem_map]
  simp only [beq_iff_eq]

/-- What is selected is found. -/
theorem Shows.selectedOrganization {d : Directory} {id : OrganizationId} (h : d.Shows id) :
    ∃ o, d.selectedOrganization = some o ∧ o.id = id := by
  obtain ⟨o, ho⟩ := mem_ids_iff.mp h.listed
  refine ⟨o, ?_, id_of_organization? ho⟩
  rw [Directory.selectedOrganization, h.selected]
  exact ho

/-- While no popup is shown, nothing is selected. -/
theorem Hides.selectedOrganization {d : Directory} {pending : Option OrganizationId}
    (h : d.Hides pending) : d.selectedOrganization = none := by
  rw [Directory.selectedOrganization, h.selected]
  rfl

/-! ## Activating, closing, receiving -/

/-- A directory that has just been opened shows nothing and waits for nothing. -/
theorem hides_ofList (organizations : List Organization) (pageSize : PageSize)
    (page : Option String) : (ofList organizations pageSize page).Hides none :=
  ⟨rfl, rfl, rfl, fun _ h => nomatch h⟩

/-- Activating an organization whose details are known shows its popup, and ends what was waited
for. -/
theorem activate_of_known {d : Directory} {id : OrganizationId} {o : Organization}
    (ho : d.organization? id = some o) (h : o.hasDetail = true) :
    d.activate id = .silent ({ d with pending := none }.openPopup id) := by
  simp [activate, ho, h]

/-- Activating an organization whose details are not known asks for them, and waits. -/
theorem activate_of_unknown {d : Directory} {id : OrganizationId} {o : Organization}
    (ho : d.organization? id = some o) (h : o.hasDetail = false) :
    d.activate id = ⟨{ d with pending := some id }, [.detail id], []⟩ := by
  simp [activate, ho, h]

/-- Closing the popup leaves nothing to wait for. -/
theorem Shows.closePopup {d : Directory} {id : OrganizationId} (h : d.Shows id) :
    d.closePopup.Hides none :=
  ⟨rfl, rfl, h.waiting, fun _ h => nomatch h⟩

/-- Activating an organization of the list asks for its details and waits for them, or shows its
popup at once. -/
theorem Hides.activate {d : Directory} {pending : Option OrganizationId} {id : OrganizationId}
    {o : Organization} (h : d.Hides pending) (ho : d.organization? id = some o) :
    ((d.activate id).requests = [.detail id] ∧ (d.activate id).state.Hides (some id)) ∨
      ((d.activate id).requests = [] ∧ (d.activate id).state.Shows id) := by
  have hlisted : id ∈ d.organizations.map Organization.id := mem_ids_iff.mpr ⟨o, ho⟩
  cases hdetail : o.hasDetail with
  | true =>
    rw [activate_of_known ho hdetail]
    exact .inr ⟨rfl, rfl, rfl, rfl, hlisted⟩
  | false =>
    rw [activate_of_unknown ho hdetail]
    refine .inl ⟨rfl, h.hidden, h.selected, rfl, ?_⟩
    rintro other ⟨⟩
    exact hlisted

/-- Taking in details asks for nothing. -/
theorem receiveDetail_requests (d : Directory) (id : OrganizationId)
    (result : Fetched OrganizationDetail) : (d.receiveDetail id result).requests = [] := by
  cases result <;> rfl

/-- Details change records only, apart from settling what was waited for. -/
theorem receiveDetail_eq_settle (d : Directory) (id : OrganizationId)
    (result : Fetched OrganizationDetail) :
    ∃ os, os.map Organization.id = d.organizations.map Organization.id ∧
      (d.receiveDetail id result).state = { d with organizations := os }.settle id := by
  cases result with
  | ok detail => exact ⟨_, map_id_updateFirst id detail d.organizations, rfl⟩
  | error e => exact ⟨d.organizations, rfl, rfl⟩

/-- Details that were waited for open the popup, also when they could not be fetched. -/
theorem Hides.receiveDetail {d : Directory} {id : OrganizationId} (h : d.Hides (some id))
    (result : Fetched OrganizationDetail) : (d.receiveDetail id result).state.Shows id := by
  obtain ⟨os, hids, hstate⟩ := d.receiveDetail_eq_settle id result
  rw [hstate, settle_of_pending (d := { d with organizations := os }) h.waiting]
  refine ⟨rfl, rfl, rfl, ?_⟩
  change id ∈ os.map Organization.id
  rw [hids]
  exact h.listed id rfl

/-- Other details leave a hidden popup hidden. -/
theorem Hides.receiveDetail_of_ne {d : Directory} {pending : Option OrganizationId}
    {id : OrganizationId} (h : d.Hides pending) (hne : pending ≠ some id)
    (result : Fetched OrganizationDetail) : (d.receiveDetail id result).state.Hides pending := by
  obtain ⟨os, hids, hstate⟩ := d.receiveDetail_eq_settle id result
  have hother : d.pending ≠ some id := by rwa [h.waiting]
  rw [hstate, settle_of_ne (d := { d with organizations := os }) hother]
  refine ⟨h.hidden, h.selected, h.waiting, fun other hother => ?_⟩
  change other ∈ os.map Organization.id
  rw [hids]
  exact h.listed other hother

/-- Details leave a shown popup shown. -/
theorem Shows.receiveDetail {d : Directory} {shown : OrganizationId} (h : d.Shows shown)
    (id : OrganizationId) (result : Fetched OrganizationDetail) :
    (d.receiveDetail id result).state.Shows shown := by
  obtain ⟨os, hids, hstate⟩ := d.receiveDetail_eq_settle id result
  have hother : d.pending ≠ some id := by simp [h.waiting]
  rw [hstate, settle_of_ne (d := { d with organizations := os }) hother]
  refine ⟨h.visible, h.selected, h.waiting, ?_⟩
  change shown ∈ os.map Organization.id
  rw [hids]
  exact h.listed

end Roster.Directory
