import Mathlib.Data.List.DropRight
import Roster.Proofs.Directory.Run

/-!
# What the directory lists

The indices of the organizations that pass the filter are kept beside the organizations, and are
derived anew when the filter changes. Details that arrive later may change what the filter reads.
So the directory lists the organizations that passed when it last derived the indices, and lists
exactly those that pass now if and only if every organization has kept its verdict since.
-/

namespace Roster

namespace Filter

/-- Indices are counted upwards from the first one. -/
theorem le_of_mem_indicesFrom (f : Filter) {first i : Nat} {os : List Organization}
    (h : i ∈ f.indicesFrom first os) : first ≤ i := by
  induction os generalizing first with
  | nil => simp [indicesFrom] at h
  | cons o rest ih =>
    simp only [indicesFrom] at h
    split at h
    · rcases List.mem_cons.mp h with rfl | h
      · exact Nat.le_refl _
      · exact Nat.le_of_succ_le (ih h)
    · exact Nat.le_of_succ_le (ih h)

/-- An index is listed when the organization at its place is kept. -/
theorem mem_indicesFrom (f : Filter) (first i : Nat) (os : List Organization) :
    first + i ∈ f.indicesFrom first os ↔ ∃ o, os[i]? = some o ∧ f.keeps o = true := by
  induction os generalizing first i with
  | nil => simp [indicesFrom]
  | cons o rest ih =>
    have hfresh : first ∉ f.indicesFrom (first + 1) rest := fun h => by
      have := f.le_of_mem_indicesFrom h
      omega
    cases i with
    | zero =>
      by_cases ho : f.keeps o = true
      · simp [indicesFrom, ho]
      · simp [indicesFrom, ho, hfresh]
    | succ i =>
      have hshift : first + (i + 1) = first + 1 + i := by omega
      have hne : first + 1 + i ≠ first := by omega
      by_cases ho : f.keeps o = true
      · simp [indicesFrom, ho, hshift, hne, ih]
      · simp [indicesFrom, ho, hshift, ih]

/-- An index passes when the organization at its place is kept. -/
theorem mem_apply (f : Filter) (i : Nat) (os : List Organization) :
    i ∈ f.apply os ↔ ∃ o, os[i]? = some o ∧ f.keeps o = true := by
  simpa [apply] using f.mem_indicesFrom 0 i os

/-- Only the verdicts on the organizations decide which indices pass. -/
theorem indicesFrom_congr (f : Filter) (first : Nat) {as bs : List Organization}
    (h : as.map f.keeps = bs.map f.keeps) : f.indicesFrom first as = f.indicesFrom first bs := by
  induction as generalizing bs first with
  | nil =>
    obtain rfl : bs = [] := by simpa using h.symm
    rfl
  | cons a as ih =>
    cases bs with
    | nil => simp at h
    | cons b bs =>
      obtain ⟨hab, hrest⟩ : f.keeps a = f.keeps b ∧ as.map f.keeps = bs.map f.keeps := by
        simpa using h
      simp only [indicesFrom, hab, ih (first + 1) hrest]

/-- For lists of one length, the same indices pass exactly when all verdicts are the same. -/
theorem apply_eq_apply_iff (f : Filter) {as bs : List Organization} (hlen : as.length = bs.length) :
    f.apply as = f.apply bs ↔ as.map f.keeps = bs.map f.keeps := by
  refine ⟨fun h => ?_, f.indicesFrom_congr 0⟩
  apply List.ext_getElem (by simpa using hlen)
  intro i hi hi'
  have ha : i < as.length := by simpa using hi
  have hb : i < bs.length := by simpa using hi'
  have hiff : i ∈ f.apply as ↔ i ∈ f.apply bs := by rw [h]
  simp only [mem_apply, List.getElem?_eq_getElem ha, List.getElem?_eq_getElem hb,
    Option.some.injEq, exists_eq_left'] at hiff
  simpa only [List.getElem_map] using Bool.eq_iff_iff.mpr hiff

/-- Without restrictions every index passes. -/
theorem apply_none (os : List Organization) : none.apply os = List.range os.length := by
  have hall : ∀ first, none.indicesFrom first os = List.range' first os.length := by
    induction os with
    | nil => exact fun _ => rfl
    | cons o rest ih => exact fun first => by simp [indicesFrom, keeps_none, ih, List.range'_succ]
  rw [apply, hall 0, List.range_eq_range']

end Filter

namespace Directory

/-- Whether an operation derives anew which organizations pass. -/
def Operation.derives : Operation → Bool
  | .search _ | .setVesting _ | .toggleVesting => true
  | _ => false

/-- The operations up to the last one that derives anew. -/
def Operation.untilDerived (ops : List Operation) : List Operation :=
  ops.rdropWhile fun op => !op.derives

/-- A directory lists by what it held at some moment: it has the filter of that moment, and lists
what passed then. -/
structure ListsAsOf (d moment : Directory) : Prop where
  filter : d.filter = moment.filter
  listed : d.listed = moment.filter.apply moment.organizations

/-- Nothing is filtered out of a directory that has just been opened. -/
theorem listsAsOf_ofList (organizations : List Organization) (pageSize : PageSize)
    (page : Option String) :
    (ofList organizations pageSize page).ListsAsOf (ofList organizations pageSize page) :=
  ⟨rfl, (Filter.apply_none organizations).symm⟩

/-- A directory that derives anew lists by what it holds now. -/
theorem listsAsOf_of_derives (d : Directory) {op : Operation} (h : op.derives = true) :
    (d.perform op).state.ListsAsOf (d.perform op).state := by
  cases op with
  | search term => exact ⟨rfl, rfl⟩
  | setVesting only => exact ⟨rfl, rfl⟩
  | toggleVesting => exact ⟨rfl, rfl⟩
  | _ => simp [Operation.derives] at h

/-- The other operations touch neither the filter nor what is listed. -/
theorem perform_of_not_derives (d : Directory) {op : Operation} (h : op.derives = false) :
    (d.perform op).state.filter = d.filter ∧ (d.perform op).state.listed = d.listed := by
  cases op with
  | search term => simp [Operation.derives] at h
  | setVesting only => simp [Operation.derives] at h
  | toggleVesting => simp [Operation.derives] at h
  | turnTo page => exact ⟨rfl, rfl⟩
  | closePopup => exact ⟨rfl, rfl⟩
  | activate id =>
    obtain ⟨_, _, _, hactivate⟩ := d.activate_eq id
    rw [perform, hactivate]
    exact ⟨rfl, rfl⟩
  | receiveFundingRounds result => cases result <;> exact ⟨rfl, rfl⟩
  | receiveRtoPolicies result => cases result <;> exact ⟨rfl, rfl⟩
  | receiveDetail id result =>
    obtain ⟨_, _, _, _, hreceive⟩ := d.receiveDetail_eq id result
    rw [perform, hreceive]
    exact ⟨rfl, rfl⟩

/-- After a run the directory lists by what it held when it last derived anew. -/
theorem listsAsOf_run (organizations : List Organization) (pageSize : PageSize)
    (page : Option String) (ops : List Operation) :
    ((ofList organizations pageSize page).run ops).ListsAsOf
      ((ofList organizations pageSize page).run (Operation.untilDerived ops)) := by
  induction ops using List.reverseRecOn with
  | nil => exact listsAsOf_ofList organizations pageSize page
  | append_singleton ops op ih =>
    rw [run_concat]
    cases hop : op.derives with
    | true =>
      have hkept : Operation.untilDerived (ops ++ [op]) = ops ++ [op] :=
        List.rdropWhile_concat_neg _ _ _ (by simp [hop])
      rw [hkept, run_concat]
      exact listsAsOf_of_derives _ hop
    | false =>
      have hdropped : Operation.untilDerived (ops ++ [op]) = Operation.untilDerived ops :=
        List.rdropWhile_concat_pos _ _ _ (by simp [hop])
      obtain ⟨hfilter, hlisted⟩ := perform_of_not_derives
        ((ofList organizations pageSize page).run ops) hop
      rw [hdropped]
      exact ⟨hfilter.trans ih.filter, hlisted.trans ih.listed⟩

/-- After any run the directory lists what passed the current filter at the moment of the last
derivation. That is what passes now exactly when the filter judges every organization as it did at
that moment. -/
theorem listed_run_eq_apply_iff (organizations : List Organization) (pageSize : PageSize)
    (page : Option String) (ops : List Operation) :
    let d := (ofList organizations pageSize page).run ops
    let derived := (ofList organizations pageSize page).run (Operation.untilDerived ops)
    d.listed = d.filter.apply derived.organizations ∧
      (d.listed = d.filter.apply d.organizations ↔
        d.organizations.map d.filter.keeps = derived.organizations.map d.filter.keeps) := by
  intro d derived
  obtain ⟨hfilter, hlisted⟩ := listsAsOf_run organizations pageSize page ops
  have hlisted : d.listed = d.filter.apply derived.organizations := by rw [hfilter]; exact hlisted
  have hlen : derived.organizations.length = d.organizations.length := by
    have hids := (map_id_run (ofList organizations pageSize page)
      (Operation.untilDerived ops)).trans (map_id_run (ofList organizations pageSize page) ops).symm
    simpa using congrArg List.length hids
  refine ⟨hlisted, ?_⟩
  rw [hlisted, d.filter.apply_eq_apply_iff hlen]
  exact eq_comm

/-- A directory that shows only accelerated vesting goes on listing an organization whose details
have taken that away. -/
theorem listed_after_merge :
    let os := [{ Organization.bare 1 with acceleratedVesting := true }]
    let detail := { OrganizationDetail.blank with acceleratedVesting := some false }
    let d := (ofList os .standard none).run [.setVesting true, .receiveDetail 1 (.ok detail)]
    d.listed = [0] ∧ d.filter.apply d.organizations = [] := by
  decide

end Directory

end Roster
