import Roster.Directory.Basic

/-!
# Runs of the directory

Whatever happens to a directory is one of nine operations: two change the search and the vesting
filter, one turns the latter over, one shows another page, one activates an organization, one
closes the popup, and three take in answers. A run performs operations one after the other, in any
order and with any answers. The organizations keep their places and their ids in all of them.
-/

namespace Roster

/-- An organization of which nothing but its id is told. -/
def Organization.bare (id : OrganizationId) : Organization where
  id := id
  name := ""
  ranking := 0
  averageScore := 0
  fundingRound := ""
  rtoPolicy := ""
  completeness := 0
  acceleratedVesting := false
  url := none
  kind := none
  givesRatings := none
  isPublic := none
  scores := none

namespace Directory

/-- Something that happens to a directory. -/
inductive Operation where
  | search (term : String)
  | setVesting (only : Bool)
  | toggleVesting
  | turnTo (page : Nat)
  | activate (id : OrganizationId)
  | closePopup
  | receiveFundingRounds (result : Fetched Choices)
  | receiveRtoPolicies (result : Fetched Choices)
  | receiveDetail (id : OrganizationId) (result : Fetched OrganizationDetail)

/-- What an operation leads to. -/
def perform (d : Directory) : Operation → Step Directory
  | .search term => .silent (d.search term)
  | .setVesting only => .silent (d.setVesting only)
  | .toggleVesting => .silent d.toggleVesting
  | .turnTo page => .silent (d.turnTo page)
  | .activate id => d.activate id
  | .closePopup => .silent d.closePopup
  | .receiveFundingRounds result => d.receiveFundingRounds result
  | .receiveRtoPolicies result => d.receiveRtoPolicies result
  | .receiveDetail id result => d.receiveDetail id result

/-- The directory after operations, the first of them performed first. -/
def run (d : Directory) (ops : List Operation) : Directory :=
  ops.foldl (fun d op => (d.perform op).state) d

@[simp] theorem run_append (d : Directory) (before after : List Operation) :
    d.run (before ++ after) = (d.run before).run after :=
  List.foldl_append

theorem run_concat (d : Directory) (ops : List Operation) (op : Operation) :
    d.run (ops ++ [op]) = ((d.run ops).perform op).state :=
  run_append d ops [op]

/-! ## The organizations -/

/-- A change to an organization that a function does not see keeps the values of the function. -/
theorem map_updateFirst {α : Type} {id : OrganizationId} {f : Organization → Organization}
    {g : Organization → α} {os : List Organization} (h : ∀ o ∈ os, o.id = id → g (f o) = g o) :
    (updateFirst id f os).map g = os.map g := by
  induction os with
  | nil => rfl
  | cons o rest ih =>
    by_cases ho : o.id = id
    · simp [updateFirst, ho, h o List.mem_cons_self ho]
    · simp [updateFirst, ho, ih fun o' ho' => h o' (List.mem_cons_of_mem o ho')]

/-- Merging details into the organization of an id keeps all ids in place. -/
theorem map_id_updateFirst (id : OrganizationId) (detail : OrganizationDetail)
    (os : List Organization) :
    (updateFirst id (·.mergeDetail detail) os).map Organization.id = os.map Organization.id :=
  map_updateFirst fun _ _ _ => rfl

/-- The popup that waited for these details is shown. -/
theorem settle_of_pending {d : Directory} {id : OrganizationId} (h : d.pending = some id) :
    d.settle id = { d with pending := none }.openPopup id := by
  rw [settle, if_pos (by simp [h])]

/-- Details that are not waited for show nothing. -/
theorem settle_of_ne {d : Directory} {id : OrganizationId} (h : d.pending ≠ some id) :
    d.settle id = d := by
  rw [settle, if_neg (by simpa using h)]

/-- Settling what was waited for changes only what is shown and what is waited for. -/
theorem settle_eq (d : Directory) (id : OrganizationId) :
    ∃ selected visible pending, d.settle id =
      { d with selected := selected, popupVisible := visible, pending := pending } := by
  by_cases hid : d.pending = some id
  · exact ⟨_, _, _, settle_of_pending hid⟩
  · exact ⟨_, _, _, settle_of_ne hid⟩

/-- Activating an organization changes only what is shown and what is waited for. -/
theorem activate_eq (d : Directory) (id : OrganizationId) :
    ∃ selected visible pending, (d.activate id).state =
      { d with selected := selected, popupVisible := visible, pending := pending } := by
  unfold activate
  split
  · exact ⟨_, _, _, rfl⟩
  · split
    · exact ⟨_, _, _, rfl⟩
    · exact ⟨_, _, _, rfl⟩

@[simp] theorem settle_organizations (d : Directory) (id : OrganizationId) :
    (d.settle id).organizations = d.organizations := by
  obtain ⟨_, _, _, hsettle⟩ := d.settle_eq id
  rw [hsettle]

/-- Taking in details changes only the organizations, what is shown and what is waited for. -/
theorem receiveDetail_eq (d : Directory) (id : OrganizationId)
    (result : Fetched OrganizationDetail) :
    ∃ os selected visible pending, (d.receiveDetail id result).state =
      { d with
        organizations := os
        selected := selected
        popupVisible := visible
        pending := pending } := by
  cases result with
  | ok detail =>
    obtain ⟨_, _, _, hsettle⟩ := settle_eq
      { d with organizations := updateFirst id (·.mergeDetail detail) d.organizations } id
    exact ⟨_, _, _, _, hsettle⟩
  | error e =>
    obtain ⟨_, _, _, hsettle⟩ := d.settle_eq id
    exact ⟨_, _, _, _, hsettle⟩

/-- The organizations after details have been taken in: merged, when there are any. -/
theorem receiveDetail_organizations (d : Directory) (id : OrganizationId)
    (result : Fetched OrganizationDetail) :
    (d.receiveDetail id result).state.organizations =
      match result with
      | .ok detail => updateFirst id (·.mergeDetail detail) d.organizations
      | .error _ => d.organizations := by
  cases result with
  | ok detail => simp [receiveDetail]
  | error e => simp [receiveDetail]

/-- Activating an organization changes no organization. -/
@[simp] theorem activate_organizations (d : Directory) (id : OrganizationId) :
    (d.activate id).state.organizations = d.organizations := by
  obtain ⟨_, _, _, hactivate⟩ := d.activate_eq id
  rw [hactivate]

/-- No operation changes an id or the place of an organization. -/
theorem map_id_perform (d : Directory) (op : Operation) :
    (d.perform op).state.organizations.map Organization.id =
      d.organizations.map Organization.id := by
  cases op with
  | activate id => simp [perform]
  | receiveFundingRounds result => cases result <;> rfl
  | receiveRtoPolicies result => cases result <;> rfl
  | receiveDetail id result =>
    simp only [perform, receiveDetail_organizations]
    cases result with
    | ok detail => exact map_id_updateFirst id detail d.organizations
    | error e => rfl
  | _ => rfl

/-- No run changes an id or the place of an organization. -/
theorem map_id_run (d : Directory) (ops : List Operation) :
    (d.run ops).organizations.map Organization.id = d.organizations.map Organization.id := by
  induction ops generalizing d with
  | nil => rfl
  | cons op rest ih => exact (ih (d.perform op).state).trans (map_id_perform d op)

/-- No run changes how many organizations there are. -/
theorem length_organizations_run (d : Directory) (ops : List Operation) :
    (d.run ops).organizations.length = d.organizations.length := by
  have hids := congrArg List.length (d.map_id_run ops)
  rwa [List.length_map, List.length_map] at hids

end Directory

end Roster
