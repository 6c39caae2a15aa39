import Mathlib.Algebra.Order.Floor.Div
import Mathlib.Data.List.Sort
import Roster.Directory.View
import Roster.Proofs.Directory.Paging

/-!
# Pages cover the listing

The indices that a directory lists are increasing and lie within its list, so every page, however
far off, shows organizations that exist. The pages that have buttons follow one another without gap
or overlap: put together they show what is listed, each organization once and in the order of the
list. All of them are full but the last, which is not empty.
-/

namespace Roster

namespace Page

variable {α : Type} {size : PageSize} {total index : Nat}

/-! ## Bounds -/

/-- The pages are numbered from one to the number of rows divided by the size, rounded up. -/
theorem numbers_eq_range' (total : Nat) (size : PageSize) :
    numbers total size = List.range' 1 (total ⌈/⌉ size.value) := by
  rw [numbers, Nat.ceilDiv_eq_add_pred_div, List.range'_eq_map_range]
  apply List.map_congr_left
  intro index _
  exact Nat.add_comm index 1

/-- A page ends after it starts, within the rows, and is never longer than its size. -/
theorem bounds (page : Nat) (size : PageSize) (total : Nat) :
    start page size total ≤ stop page size total ∧ stop page size total ≤ total ∧
      stop page size total - start page size total ≤ size.value := by
  simp only [start, stop, Nat.min_def]
  split_ifs <;> omega

/-- A page has a button when rows are left for it. -/
theorem lt_count_iff : index < count total size ↔ index * size.value < total := by
  have hpos : 0 < size.value := size.positive
  rw [count, ← Nat.add_one_le_iff, Nat.le_div_iff_mul_le hpos, Nat.add_one_mul]
  omega

/-- Of fewer than half as many rows as there are words, the pages with buttons are cut off at
multiples of the size: their bounds do not reach the greatest word. -/
theorem bounds_of_lt_count (htotal : total < 2 ^ 63) (h : index < count total size) :
    start (index + 1) size total = index * size.value ∧
      stop (index + 1) size total = min (index * size.value + size.value) total := by
  have hrows : index * size.value < total := lt_count_iff.mp h
  have hsize : index = 0 ∨ size.value ≤ index * size.value := by
    rcases Nat.eq_zero_or_pos index with hzero | hpos
    · exact .inl hzero
    · exact .inr (Nat.le_mul_of_pos_left _ hpos)
  simp only [start, stop, fullEnd, wordMax, Nat.add_one_mul, Nat.min_def]
  rcases hsize with rfl | hsize
  · split_ifs <;> omega
  · split_ifs <;> omega

/-! ## Rows -/

/-- A page has as many rows as lie within its bounds. -/
theorem length_slice (rows : List α) (page : Nat) (size : PageSize) :
    (slice rows page size).length = stop page size rows.length - start page size rows.length := by
  have hstop : stop page size rows.length ≤ rows.length := (bounds page size rows.length).2.1
  rw [slice, List.length_drop, List.length_take, Nat.min_eq_left hstop]

/-- A page with a button takes as many rows as fit from those that the pages before it leave. -/
theorem slice_of_lt_count {rows : List α} (hrows : rows.length < 2 ^ 63)
    (h : index < count rows.length size) :
    slice rows (index + 1) size = (rows.drop (index * size.value)).take size.value := by
  obtain ⟨hstart, hstop⟩ := bounds_of_lt_count hrows h
  rw [slice, hstart, hstop, List.drop_take, List.take_eq_take_iff, List.length_drop]
  omega

/-- Taking equal pieces one after the other takes all of them. -/
theorem flatMap_take_drop (rows : List α) (length count : Nat) :
    (List.range count).flatMap (fun index => (rows.drop (index * length)).take length) =
      rows.take (count * length) := by
  induction count with
  | zero => simp
  | succ count ih =>
    rw [List.range_succ, List.flatMap_append, ih, Nat.add_one_mul, List.take_add]
    simp

/-- The pages with buttons show all rows, one after the other. -/
theorem flatMap_slice_numbers {rows : List α} (hrows : rows.length < 2 ^ 63) :
    (numbers rows.length size).flatMap (fun page => slice rows page size) = rows := by
  have hall : rows.length ≤ count rows.length size * size.value := by
    by_contra hlt
    exact absurd (lt_count_iff.mpr (Nat.lt_of_not_le hlt)) (Nat.lt_irrefl _)
  calc (numbers rows.length size).flatMap (fun page => slice rows page size)
      = (List.range (count rows.length size)).flatMap
          (fun index => slice rows (index + 1) size) := by rw [numbers, List.flatMap_map]
    _ = (List.range (count rows.length size)).flatMap
          (fun index => (rows.drop (index * size.value)).take size.value) := by
      apply List.flatMap_congr
      intro index hindex
      exact slice_of_lt_count hrows (List.mem_range.mp hindex)
    _ = rows := by rw [flatMap_take_drop, List.take_of_length_le hall]

/-- A page with a button shows a row, and is full if the page after it has a button as well. -/
theorem length_slice_of_mem {rows : List α} {page : Nat} (hrows : rows.length < 2 ^ 63)
    (h : page ∈ numbers rows.length size) :
    0 < (slice rows page size).length ∧
      (page + 1 ∈ numbers rows.length size → (slice rows page size).length = size.value) := by
  rw [mem_numbers] at h ⊢
  obtain ⟨index, rfl⟩ : ∃ index, page = index + 1 := ⟨page - 1, by omega⟩
  have hindex : index < count rows.length size := by omega
  have hfirst : index * size.value < rows.length := lt_count_iff.mp hindex
  have hpos : 0 < size.value := size.positive
  rw [slice_of_lt_count hrows hindex, List.length_take, List.length_drop]
  constructor
  · omega
  · rintro ⟨-, hnext⟩
    have hsecond : (index + 1) * size.value < rows.length := lt_count_iff.mp (by omega)
    rw [Nat.add_one_mul] at hsecond
    omega

end Page

namespace Filter

/-- The indices of the organizations kept are increasing. -/
theorem pairwise_indicesFrom (f : Filter) (first : Nat) (os : List Organization) :
    (f.indicesFrom first os).Pairwise (· < ·) := by
  induction os generalizing first with
  | nil => exact List.Pairwise.nil
  | cons o rest ih =>
    rw [indicesFrom]
    split
    · rw [List.pairwise_cons]
      refine ⟨?_, ih (first + 1)⟩
      intro i hi
      exact f.le_of_mem_indicesFrom hi
    · exact ih (first + 1)

end Filter

namespace Directory

/-! ## What is listed exists -/

/-- No operation changes how many rows a page has. -/
theorem perform_pageSize (d : Directory) (op : Operation) :
    (d.perform op).state.pageSize = d.pageSize := by
  cases op with
  | activate id =>
    obtain ⟨_, _, _, hactivate⟩ := d.activate_eq id
    rw [perform, hactivate]
  | receiveFundingRounds result => cases result <;> rfl
  | receiveRtoPolicies result => cases result <;> rfl
  | receiveDetail id result =>
    obtain ⟨_, _, _, _, hreceive⟩ := d.receiveDetail_eq id result
    rw [perform, hreceive]
  | _ => rfl

/-- No run changes how many rows a page has. -/
theorem run_pageSize (d : Directory) (ops : List Operation) : (d.run ops).pageSize = d.pageSize := by
  induction ops generalizing d with
  | nil => rfl
  | cons op rest ih => exact (ih (d.perform op).state).trans (d.perform_pageSize op)

/-- After a run the indices listed are increasing and lie within the list. -/
theorem listed_run (organizations : List Organization) (pageSize : PageSize)
    (page : Option String) (ops : List Operation) :
    let d := (ofList organizations pageSize page).run ops
    d.listed.Pairwise (· < ·) ∧ ∀ index ∈ d.listed, index < d.organizations.length := by
  intro d
  let derived := (ofList organizations pageSize page).run (Operation.untilDerived ops)
  have hlisted : d.listed = derived.filter.apply derived.organizations :=
    (listsAsOf_run organizations pageSize page ops).listed
  have hlength : derived.organizations.length = d.organizations.length :=
    (length_organizations_run _ _).trans (length_organizations_run _ _).symm
  rw [hlisted]
  constructor
  · exact derived.filter.pairwise_indicesFrom 0 derived.organizations
  · intro index hindex
    obtain ⟨o, ho, -⟩ := (Filter.mem_apply _ _ _).mp hindex
    obtain ⟨hlt, -⟩ := List.getElem?_eq_some_iff.mp ho
    exact hlt.trans_eq hlength

/-- Looking up indices that lie within a list finds something for each of them. -/
theorem map_some_filterMap_getElem? {os : List Organization} {indices : List Nat}
    (h : ∀ index ∈ indices, index < os.length) :
    (indices.filterMap fun index => os[index]?).map some =
      indices.map fun index => os[index]? := by
  induction indices with
  | nil => rfl
  | cons index rest ih =>
    have hlt : index < os.length := h index List.mem_cons_self
    have hindex : os[index]? = some os[index] := List.getElem?_eq_getElem hlt
    have hrest := ih fun other hother => h other (List.mem_cons_of_mem _ hother)
    rw [List.filterMap_cons_some hindex, List.map_cons, List.map_cons, hrest, hindex]

/-- Looking up all indices of a list gives the list. -/
theorem filterMap_getElem?_range (os : List Organization) :
    ((List.range os.length).filterMap fun index => os[index]?) = os := by
  have hsome : (List.range os.length).map (fun index => os[index]?) = os.map some :=
    List.ext_getElem (by simp) (by simp)
  apply List.map_injective_iff.mpr (Option.some_injective Organization)
  rw [map_some_filterMap_getElem? fun index hindex => List.mem_range.mp hindex, hsome]

/-- Looking up increasing indices that lie within a list keeps its order. -/
theorem filterMap_getElem?_sublist {os : List Organization} {indices : List Nat}
    (hincreasing : indices.Pairwise (· < ·)) (h : ∀ index ∈ indices, index < os.length) :
    (indices.filterMap fun index => os[index]?).Sublist os := by
  have hnodup : indices.Nodup := hincreasing.imp Nat.ne_of_lt
  have hrange : indices.Sublist (List.range os.length) := by
    apply List.sublist_of_subperm_of_pairwise _ hincreasing List.pairwise_lt_range
    exact List.subperm_of_subset hnodup fun index hindex => List.mem_range.mpr (h index hindex)
  have hsublist := hrange.filterMap fun index => os[index]?
  rwa [filterMap_getElem?_range] at hsublist

/-! ## Pages -/

/-- The organizations on a page are those at the indices that the page takes from the listing. -/
theorem map_some_rows_turnTo {d : Directory}
    (h : ∀ index ∈ d.listed, index < d.organizations.length) (page : Nat) :
    (d.turnTo page).rows.map some =
      (Page.slice d.listed page d.pageSize).map fun index => d.organizations[index]? := by
  apply map_some_filterMap_getElem?
  intro index hindex
  exact h index (List.mem_of_mem_take (List.mem_of_mem_drop hindex))

/-- A page shows as many organizations as it takes indices from the listing. -/
theorem length_rows_turnTo {d : Directory}
    (h : ∀ index ∈ d.listed, index < d.organizations.length) (page : Nat) :
    (d.turnTo page).rows.length = (Page.slice d.listed page d.pageSize).length := by
  have hrows := congrArg List.length (map_some_rows_turnTo h page)
  rwa [List.length_map, List.length_map] at hrows

/-- The pages with buttons show what passes the filter, one after the other. -/
theorem flatMap_rows_turnTo {d : Directory} (hlisted : d.listed.length < 2 ^ 63) :
    (d.pageNumbers.flatMap fun page => (d.turnTo page).rows) = d.matching := by
  have hcover : (d.pageNumbers.flatMap fun page => Page.slice d.listed page d.pageSize) = d.listed :=
    Page.flatMap_slice_numbers hlisted
  rw [matching]
  conv_rhs => rw [← hcover, List.filterMap_flatMap]
  rfl

/-- Of a list that is short enough for its indices to be counted in signed words, the indices listed
are increasing and exist after any operations. So every page, whatever its number, is cut from the
listing within its bounds, shows an organization for each index, and is no longer than the size of
a page. The buttons lead to the pages from one to the number of organizations listed divided by the
size of a page, rounded up. These pages show what passes the filter, one after the other and each
organization once in the order of the list; none of them is empty, and all but the last are full. -/
theorem pages_cover_run (organizations : List Organization) (pageSize : PageSize)
    (page : Option String) (ops : List Operation) (hlength : organizations.length < 2 ^ 63) :
    let d := (ofList organizations pageSize page).run ops
    (d.listed.Pairwise (· < ·) ∧ ∀ index ∈ d.listed, index < d.organizations.length) ∧
      (d.matching.map some = d.listed.map (fun index => d.organizations[index]?) ∧
        d.matching.Sublist d.organizations) ∧
      (∀ number,
        let first := Page.start number pageSize d.listed.length
        let last := Page.stop number pageSize d.listed.length
        (first ≤ last ∧ last ≤ d.listed.length) ∧
          (d.turnTo number).rows.map some =
            ((d.listed.take last).drop first).map (fun index => d.organizations[index]?) ∧
          (d.turnTo number).view.rows.length = last - first ∧
          (d.turnTo number).rows.length ≤ pageSize.value) ∧
      (d.pageNumbers = List.range' 1 (d.listed.length ⌈/⌉ pageSize.value) ∧
        d.view.pages.map PageButton.number = d.pageNumbers) ∧
      (d.pageNumbers.flatMap fun number => (d.turnTo number).rows) = d.matching ∧
      ∀ number ∈ d.pageNumbers,
        (d.turnTo number).rows ≠ [] ∧
          (number + 1 ∈ d.pageNumbers → (d.turnTo number).rows.length = pageSize.value) := by
  intro d
  have hsize : d.pageSize = pageSize := run_pageSize (ofList organizations pageSize page) ops
  obtain ⟨hincreasing, hvalid⟩ := listed_run organizations pageSize page ops
  have hlisted : d.listed.length < 2 ^ 63 :=
    (length_listed_run_le organizations pageSize page ops).trans_lt hlength
  have hrows : ∀ number, (d.turnTo number).rows.length =
      (Page.slice d.listed number pageSize).length := by
    intro number
    rw [← hsize]
    exact length_rows_turnTo hvalid number
  refine ⟨⟨hincreasing, hvalid⟩,
    ⟨map_some_filterMap_getElem? hvalid, filterMap_getElem?_sublist hincreasing hvalid⟩, ?_,
    ⟨?_, ?_⟩, flatMap_rows_turnTo hlisted, ?_⟩
  · intro number first last
    obtain ⟨hstart, hstop, hlong⟩ := Page.bounds number pageSize d.listed.length
    have hsome := map_some_rows_turnTo hvalid number
    rw [hsize] at hsome
    refine ⟨⟨hstart, hstop⟩, hsome, ?_, ?_⟩
    · rw [view, List.length_map, hrows, Page.length_slice]
    · rw [hrows, Page.length_slice]
      exact hlong
  · rw [pageNumbers, Page.numbers_eq_range', hsize]
  · simp [view, pageButtons, Function.comp_def]
  · intro number hnumber
    rw [pageNumbers, hsize] at hnumber ⊢
    obtain ⟨hpos, hfull⟩ := Page.length_slice_of_mem hlisted hnumber
    rw [← hrows] at hpos hfull
    exact ⟨List.ne_nil_of_length_pos hpos, hfull⟩

/-- At the greatest size that a page can have, one page shows everything. -/
theorem pages_cover_greatest_size :
    let organizations : List Organization := [.bare 1, .bare 2, .bare 3]
    let d := (ofList organizations ⟨wordMax, by decide⟩ none).run [.turnTo wordMax]
    organizations.length < 2 ^ 63 ∧ d.pageNumbers = [1] ∧
      (d.pageNumbers.flatMap fun number => (d.turnTo number).rows) = d.matching := by
  intro organizations d
  have hlength : organizations.length < 2 ^ 63 := by decide
  obtain ⟨-, -, -, ⟨hnumbers, -⟩, hcover, -⟩ :=
    pages_cover_run organizations ⟨wordMax, by decide⟩ none [.turnTo wordMax] hlength
  exact ⟨hlength, hnumbers.trans (by decide), hcover⟩

end Directory

end Roster
