import Mathlib.Data.List.Basic
import Mathlib.Data.List.Induction
import Roster.Proofs.Directory.Run

/-!
# What the directory knows

Of everything that happens to a directory only answers that brought something change what it holds.
An organization is the one of the list, overridden field by field by the last details for its id
that give the field, and each table is the last one received. Where an id is repeated, only the
first organization of that id takes in details. So details that are known stay known, and are never
asked for again.
-/

namespace Roster

/-! ## Fields -/

/-- What the last of the details that give a field give for it. -/
def OrganizationDetail.lastGiven {α : Type} (field : OrganizationDetail → Option α)
    (details : List OrganizationDetail) : Option α :=
  (details.filterMap field).getLast?

/-- An organization overridden by details: each field that any of them give has the last value
given. The id, the ranking, the average score and the completeness are never overridden. -/
def Organization.overridden (o : Organization) (details : List OrganizationDetail) :
    Organization where
  id := o.id
  name := (OrganizationDetail.lastGiven (·.name) details).getD o.name
  ranking := o.ranking
  averageScore := o.averageScore
  fundingRound := (OrganizationDetail.lastGiven (·.fundingRound) details).getD o.fundingRound
  rtoPolicy := (OrganizationDetail.lastGiven (·.rtoPolicy) details).getD o.rtoPolicy
  completeness := o.completeness
  acceleratedVesting :=
    (OrganizationDetail.lastGiven (·.acceleratedVesting) details).getD o.acceleratedVesting
  url := (OrganizationDetail.lastGiven (·.url) details).or o.url
  kind := (OrganizationDetail.lastGiven (·.kind) details).or o.kind
  givesRatings := (OrganizationDetail.lastGiven (·.givesRatings) details).or o.givesRatings
  isPublic := (OrganizationDetail.lastGiven (·.isPublic) details).or o.isPublic
  scores := (OrganizationDetail.lastGiven (·.scores) details).or o.scores

/-- Further details count first, as far as they give the field. -/
theorem OrganizationDetail.lastGiven_concat {α : Type} (field : OrganizationDetail → Option α)
    (details : List OrganizationDetail) (detail : OrganizationDetail) :
    lastGiven field (details ++ [detail]) = (field detail).or (lastGiven field details) := by
  rw [lastGiven, lastGiven, List.filterMap_append]
  cases hfield : field detail with
  | none => simp [hfield]
  | some value => simp [hfield]

/-- Without details nothing is overridden. -/
theorem Organization.overridden_nil (o : Organization) : o.overridden [] = o := rfl

/-- Merging further details overrides by them as well. -/
theorem Organization.overridden_concat (o : Organization) (details : List OrganizationDetail)
    (detail : OrganizationDetail) :
    o.overridden (details ++ [detail]) = (o.overridden details).mergeDetail detail := by
  have hgetD {α : Type} (a b : Option α) (c : α) : (a.or b).getD c = a.getD (b.getD c) := by
    cases a <;> rfl
  simp only [overridden, mergeDetail, OrganizationDetail.lastGiven_concat, hgetD, Option.or_assoc]

namespace Directory

/-! ## What operations bring -/

/-- The details that an operation brings for an organization. -/
def Operation.detailFor? (id : OrganizationId) : Operation → Option OrganizationDetail
  | .receiveDetail other (.ok detail) => if other = id then some detail else none
  | _ => none

/-- The table of funding rounds that an operation brings. -/
def Operation.fundingRounds? : Operation → Option Choices
  | .receiveFundingRounds (.ok choices) => some choices
  | _ => none

/-- The table of policies that an operation brings. -/
def Operation.rtoPolicies? : Operation → Option Choices
  | .receiveRtoPolicies (.ok choices) => some choices
  | _ => none

/-- Operations other than details that were fetched change no organization. -/
theorem perform_organizations (d : Directory) (op : Operation) :
    (d.perform op).state.organizations =
      match op with
      | .receiveDetail id (.ok detail) => updateFirst id (·.mergeDetail detail) d.organizations
      | _ => d.organizations := by
  cases op with
  | activate id => exact d.activate_organizations id
  | receiveFundingRounds result => cases result <;> rfl
  | receiveRtoPolicies result => cases result <;> rfl
  | receiveDetail id result =>
    rw [perform, receiveDetail_organizations]
    cases result <;> rfl
  | _ => rfl

/-- An operation changes a table only when it brings one. -/
theorem perform_tables (d : Directory) (op : Operation) :
    (d.perform op).state.fundingRounds = op.fundingRounds?.getD d.fundingRounds ∧
      (d.perform op).state.rtoPolicies = op.rtoPolicies?.getD d.rtoPolicies := by
  cases op with
  | activate id =>
    obtain ⟨_, _, _, hactivate⟩ := d.activate_eq id
    rw [perform, hactivate]
    exact ⟨rfl, rfl⟩
  | receiveFundingRounds result => cases result <;> exact ⟨rfl, rfl⟩
  | receiveRtoPolicies result => cases result <;> exact ⟨rfl, rfl⟩
  | receiveDetail id result =>
    obtain ⟨_, _, _, _, hreceive⟩ := d.receiveDetail_eq id result
    rw [perform, hreceive]
    exact ⟨rfl, rfl⟩
  | _ => exact ⟨rfl, rfl⟩

/-! ## Places -/

/-- A change to the first organization of an id is a change at the first place of that id. -/
theorem getElem?_updateFirst (id : OrganizationId) (f : Organization → Organization)
    (os : List Organization) (i : Nat) :
    (updateFirst id f os)[i]? =
      if (os.map Organization.id).idxOf id = i then os[i]?.map f else os[i]? := by
  induction os generalizing i with
  | nil => simp [updateFirst]
  | cons o rest ih =>
    by_cases ho : o.id = id
    · cases i with
      | zero => simp [updateFirst, ho]
      | succ i => simp [updateFirst, ho]
    · cases i with
      | zero => simp [updateFirst, ho]
      | succ i => simp [updateFirst, ho, ih]

/-- The organization of an id stands at the first place of that id. -/
theorem organization?_eq_getElem? (d : Directory) (id : OrganizationId) :
    d.organization? id = d.organizations[(d.organizations.map Organization.id).idxOf id]? := by
  rw [organization?]
  induction d.organizations with
  | nil => rfl
  | cons o rest ih =>
    by_cases ho : o.id = id
    · simp [ho]
    · simp [ho, ih]

/-- At the first place of an id stands an organization of that id. -/
theorem id_eq_of_idxOf {os : List Organization} {id : OrganizationId} {i : Nat} {o : Organization}
    (ho : os[i]? = some o) (hi : (os.map Organization.id).idxOf id = i) : o.id = id := by
  subst hi
  obtain ⟨hlt, rfl⟩ := List.getElem?_eq_some_iff.mp ho
  have hlt' : (os.map Organization.id).idxOf id < (os.map Organization.id).length := by
    simpa using hlt
  have hid := List.getElem_idxOf hlt'
  rwa [List.getElem_map] at hid

/-! ## Runs -/

variable (organizations : List Organization) (pageSize : PageSize) (page : Option String)

/-- At every place stands the organization of the list, overridden by the details received for it if
it is the first of its id. -/
theorem getElem?_run (ops : List Operation) (i : Nat) :
    ((ofList organizations pageSize page).run ops).organizations[i]? =
      organizations[i]?.map fun o =>
        if (organizations.map Organization.id).idxOf o.id = i then
          o.overridden (ops.filterMap (Operation.detailFor? o.id))
        else o := by
  induction ops using List.reverseRecOn with
  | nil =>
    have hsame : (fun o : Organization =>
        if (organizations.map Organization.id).idxOf o.id = i then
          o.overridden ([].filterMap (Operation.detailFor? o.id))
        else o) = id := by
      funext o
      simp [Organization.overridden_nil]
    rw [hsame, Option.map_id]
    rfl
  | append_singleton ops op ih =>
    rw [run_concat, perform_organizations]
    split
    · rename_i id detail
      have hids := map_id_run (ofList organizations pageSize page) ops
      change _ = organizations.map Organization.id at hids
      rw [getElem?_updateFirst, hids, ih]
      cases ho : organizations[i]? with
      | none => simp
      | some o =>
        by_cases hi : (organizations.map Organization.id).idxOf id = i
        · obtain rfl : o.id = id := id_eq_of_idxOf ho hi
          simp [hi, Operation.detailFor?, Organization.overridden_concat]
        · by_cases hid : id = o.id
          · subst hid
            simp [hi]
          · simp [hi, hid, Operation.detailFor?]
    · rename_i hother
      rw [ih]
      have hnone (id : OrganizationId) : op.detailFor? id = none := by
        cases op with
        | receiveDetail other result =>
          cases result with
          | ok detail => exact absurd rfl (hother other detail)
          | error e => rfl
        | _ => rfl
      simp [List.filterMap_append, hnone]

/-- Each table is the last one received. -/
theorem tables_run (ops : List Operation) :
    ((ofList organizations pageSize page).run ops).fundingRounds =
        (ops.filterMap Operation.fundingRounds?).getLast?.getD .empty ∧
      ((ofList organizations pageSize page).run ops).rtoPolicies =
        (ops.filterMap Operation.rtoPolicies?).getLast?.getD .empty := by
  induction ops using List.reverseRecOn with
  | nil => exact ⟨rfl, rfl⟩
  | append_singleton ops op ih =>
    obtain ⟨hrounds, hpolicies⟩ := perform_tables ((ofList organizations pageSize page).run ops) op
    rw [run_concat, hrounds, hpolicies, ih.1, ih.2, List.filterMap_append, List.filterMap_append]
    constructor
    · cases hround : op.fundingRounds? <;> simp [hround]
    · cases hpolicy : op.rtoPolicies? <;> simp [hpolicy]

/-- The fields that no details can override stay at their places. -/
theorem map_fixed_run (ops : List Operation) :
    ((ofList organizations pageSize page).run ops).organizations.map
        (fun o => (o.id, o.ranking, o.averageScore, o.completeness)) =
      organizations.map fun o => (o.id, o.ranking, o.averageScore, o.completeness) := by
  apply List.ext_getElem?
  intro i
  rw [List.getElem?_map, List.getElem?_map, getElem?_run, Option.map_map]
  congr 1
  funext o
  simp only [Function.comp_apply]
  split <;> rfl

/-! ## Known details -/

variable {organizations pageSize page} {d : Directory} {i : Nat} {o : Organization}

/-- Whatever happens to a directory, details that are known at a place stay known there. -/
theorem hasDetail_perform (ho : d.organizations[i]? = some o) (h : o.hasDetail = true)
    (op : Operation) :
    ∃ o', (d.perform op).state.organizations[i]? = some o' ∧ o'.hasDetail = true := by
  rw [perform_organizations]
  split
  · rename_i id detail
    rw [getElem?_updateFirst, ho]
    split
    · exact ⟨_, rfl, Organization.hasDetail_mergeDetail h detail⟩
    · exact ⟨o, rfl, h⟩
  · exact ⟨o, ho, h⟩

/-- Details that are known at a place are never forgotten. -/
theorem hasDetail_run (ho : d.organizations[i]? = some o) (h : o.hasDetail = true)
    (ops : List Operation) :
    ∃ o', (d.run ops).organizations[i]? = some o' ∧ o'.hasDetail = true := by
  induction ops generalizing d o with
  | nil => exact ⟨o, ho, h⟩
  | cons op rest ih =>
    obtain ⟨o', ho', h'⟩ := hasDetail_perform ho h op
    exact ih ho' h'

/-- Activating an organization whose details are known asks for nothing. -/
theorem activate_requests_of_hasDetail {id : OrganizationId} (ho : d.organization? id = some o)
    (h : o.hasDetail = true) : (d.activate id).requests = [] := by
  simp [activate, ho, h]

/-- Details that were once known are never asked for again. -/
theorem activate_run_requests {id : OrganizationId} (ho : d.organization? id = some o)
    (h : o.hasDetail = true) (ops : List Operation) : ((d.run ops).activate id).requests = [] := by
  rw [organization?_eq_getElem?] at ho
  obtain ⟨o', ho', h'⟩ := hasDetail_run ho h ops
  refine activate_requests_of_hasDetail ?_ h'
  rw [organization?_eq_getElem?, map_id_run]
  exact ho'

/-- After any operations the directory holds what the answers that brought something make of the
list: at every place the organization of the list, overridden by the details received for its id if
it is the first of that id, and as tables the last ones received. Details that are known stay known
whatever else happens, and are not asked for again. -/
theorem run_eq_overridden (organizations : List Organization) (pageSize : PageSize)
    (page : Option String) (ops : List Operation) :
    let d := (ofList organizations pageSize page).run ops
    (∀ i, d.organizations[i]? = organizations[i]?.map fun o =>
        if (organizations.map Organization.id).idxOf o.id = i then
          o.overridden (ops.filterMap (Operation.detailFor? o.id))
        else o) ∧
      d.organizations.map (fun o => (o.id, o.ranking, o.averageScore, o.completeness)) =
        organizations.map (fun o => (o.id, o.ranking, o.averageScore, o.completeness)) ∧
      d.fundingRounds = (ops.filterMap Operation.fundingRounds?).getLast?.getD .empty ∧
      d.rtoPolicies = (ops.filterMap Operation.rtoPolicies?).getLast?.getD .empty ∧
      (∀ later (i : Nat) (o : Organization), d.organizations[i]? = some o → o.hasDetail = true →
        ∃ o', (d.run later).organizations[i]? = some o' ∧ o'.hasDetail = true) ∧
      (∀ later id o, d.organization? id = some o → o.hasDetail = true →
        ((d.run later).activate id).requests = []) := by
  intro d
  obtain ⟨hrounds, hpolicies⟩ := tables_run organizations pageSize page ops
  exact ⟨getElem?_run organizations pageSize page ops,
    map_fixed_run organizations pageSize page ops, hrounds, hpolicies,
    fun later _ _ ho h => hasDetail_run ho h later,
    fun later _ _ ho h => activate_run_requests ho h later⟩

end Directory

end Roster
