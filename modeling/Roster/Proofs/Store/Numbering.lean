import Mathlib.Data.List.Nodup
import Roster.Store.Register

/-!
# Numbering

The rows of a register stand in the order of their numbers, and no number is given out twice. So a
number finds at most one row, and a row that is added later has a number beyond all that the register
ever held, whatever was refused, changed or skipped in between.
-/

namespace Roster.Register

variable {α : Type}

/-- The numbers of the rows, in the order in which the rows were added. -/
def numbers (t : Register α) : List Nat :=
  t.rows.map Numbered.number

theorem mem_numbers {t : Register α} {n : Nat} : n ∈ t.numbers ↔ ∃ row ∈ t.rows, row.number = n :=
  List.mem_map

@[simp] theorem numbers_add (t : Register α) (value : α) :
    (t.add value).numbers = t.numbers ++ [t.next] := by
  simp [numbers, add]

@[simp] theorem numbers_skip (t : Register α) : t.skip.numbers = t.numbers := rfl

/-- A change leaves every row its number. -/
@[simp] theorem numbers_change (t : Register α) (number : Int) (f : α → α) :
    (t.change number f).numbers = t.numbers := by
  simp only [numbers, change, List.map_map]
  refine List.map_congr_left fun row _ => ?_
  simp only [Function.comp_apply]
  split <;> rfl

/-! ## Order -/

/-- The numbers of the rows rise up to the last one given out, and no more rows are there than
numbers have been given out. -/
structure Ordered (t : Register α) : Prop where
  rising : t.numbers.Pairwise (· < ·)
  wellNumbered : t.WellNumbered
  length_le : t.rows.length ≤ t.last

namespace Ordered

variable {t : Register α}

theorem empty : (empty : Register α).Ordered :=
  ⟨List.Pairwise.nil, wellNumbered_empty, Nat.le_refl 0⟩

theorem add (h : t.Ordered) (value : α) : (t.add value).Ordered where
  rising := by
    rw [numbers_add, List.pairwise_append]
    refine ⟨h.rising, List.pairwise_singleton _ _, fun m hm n hn => ?_⟩
    obtain ⟨row, hrow, rfl⟩ := mem_numbers.mp hm
    rw [List.mem_singleton.mp hn]
    exact Nat.lt_succ_of_le (h.wellNumbered row hrow)
  wellNumbered := h.wellNumbered.add value
  length_le := by
    simpa [Register.add, next] using h.length_le

theorem skip (h : t.Ordered) : t.skip.Ordered where
  rising := h.rising
  wellNumbered row hrow := Nat.le_succ_of_le (h.wellNumbered row hrow)
  length_le := Nat.le_succ_of_le h.length_le

theorem change (h : t.Ordered) (number : Int) (f : α → α) : (t.change number f).Ordered where
  rising := by
    rw [numbers_change]
    exact h.rising
  wellNumbered row hrow := by
    obtain ⟨before, hbefore, hnumber⟩ :=
      mem_numbers.mp (numbers_change t number f ▸ mem_numbers.mpr ⟨row, hrow, rfl⟩)
    exact hnumber ▸ h.wellNumbered before hbefore
  length_le := by
    simpa [Register.change] using h.length_le

/-- Two rows with one number are one row. -/
theorem eq_of_number_eq (h : t.Ordered) {row other : Numbered α} (hrow : row ∈ t.rows)
    (hother : other ∈ t.rows) (heq : row.number = other.number) : row = other :=
  List.inj_on_of_nodup_map (h.rising.imp Nat.ne_of_lt) hrow hother heq

/-- A number finds the row that has it. -/
theorem row?_eq_some_iff (h : t.Ordered) {number : Int} {row : Numbered α} :
    t.row? number = some row ↔ row ∈ t.rows ∧ (row.number : Int) = number := by
  constructor
  · intro hrow
    exact ⟨List.mem_of_find?_eq_some hrow, by simpa using List.find?_some hrow⟩
  · rintro ⟨hrow, rfl⟩
    obtain ⟨found, hfound⟩ : ∃ found, t.row? (row.number : Int) = some found := by
      rw [← Option.isSome_iff_exists, row?, List.find?_isSome]
      exact ⟨row, hrow, by simp⟩
    have hnumber : found.number = row.number :=
      Int.ofNat_inj.mp (by simpa using List.find?_some hfound)
    rw [hfound, h.eq_of_number_eq (List.mem_of_find?_eq_some hfound) hrow hnumber]

end Ordered

/-- A register has a number that some row has. -/
theorem has_iff {t : Register α} {number : Int} :
    t.has number = true ↔ ∃ n ∈ t.numbers, (n : Int) = number := by
  simp [has, row?, List.find?_isSome, mem_numbers]

/-! ## Growth -/

/-- What writes make of a register: the rows keep their numbers and places, and the rows behind them
have numbers that had not been given out before. -/
structure Grows (t t' : Register α) : Prop where
  numbers : ∃ added, t'.numbers = t.numbers ++ added ∧ ∀ n ∈ added, t.last < n
  last : t.last ≤ t'.last

namespace Grows

variable {t t' t'' : Register α}

theorem refl (t : Register α) : t.Grows t :=
  ⟨⟨[], by simp⟩, Nat.le_refl _⟩

theorem trans (h : t.Grows t') (h' : t'.Grows t'') : t.Grows t'' := by
  obtain ⟨added, hadded, hnew⟩ := h.numbers
  obtain ⟨added', hadded', hnew'⟩ := h'.numbers
  refine ⟨⟨added ++ added', by rw [hadded', hadded, List.append_assoc], fun n hn => ?_⟩,
    Nat.le_trans h.last h'.last⟩
  rcases List.mem_append.mp hn with hn | hn
  · exact hnew n hn
  · exact Nat.lt_of_le_of_lt h.last (hnew' n hn)

theorem add (t : Register α) (value : α) : t.Grows (t.add value) :=
  ⟨⟨[t.next], by simp [next]⟩, Nat.le_succ _⟩

theorem skip (t : Register α) : t.Grows t.skip :=
  ⟨⟨[], by simp⟩, Nat.le_succ _⟩

theorem change (t : Register α) (number : Int) (f : α → α) : t.Grows (t.change number f) :=
  ⟨⟨[], by simp⟩, Nat.le_refl _⟩

/-- No number is lost. -/
theorem subset (h : t.Grows t') : t.numbers ⊆ t'.numbers := by
  obtain ⟨added, hadded, -⟩ := h.numbers
  rw [hadded]
  exact List.subset_append_left _ _

/-- What was there is still there. -/
theorem has (h : t.Grows t') {number : Int} (hhas : t.has number = true) : t'.has number = true := by
  obtain ⟨n, hn, heq⟩ := has_iff.mp hhas
  exact has_iff.mpr ⟨n, h.subset hn, heq⟩

/-- A number that was not there before is greater than every number that was. -/
theorem lt_of_not_mem (h : t.Grows t') (ht : t.WellNumbered) {m n : Nat} (hm : m ∈ t.numbers)
    (hn : n ∈ t'.numbers) (hnew : n ∉ t.numbers) : m < n := by
  obtain ⟨added, hadded, hlast⟩ := h.numbers
  obtain ⟨row, hrow, rfl⟩ := mem_numbers.mp hm
  rw [hadded] at hn
  have hadd : n ∈ added := (List.mem_append.mp hn).resolve_left hnew
  exact Nat.lt_of_le_of_lt (ht row hrow) (hlast n hadd)

end Grows

end Roster.Register
