import Mathlib.Algebra.Group.Nat.Defs
import Mathlib.Data.List.Chain
import Roster.Proofs.Text.Digits
import Roster.Terminal.Layout
import Roster.Total

/-!
# Where the page buttons stand

Each page button starts one column behind the end of the one before, but none starts beyond the last
column. As long as the buttons do not reach beyond it, no start is cut back: the buttons stand one
column apart and do not overlap, and a column is on at most one of them.
-/

namespace Roster.Terminal.Layout

open Screen (last)

/-! ## Labels -/

/-- A label consists of the digits of its number between two blanks. -/
theorem toList_pageLabel (number : Nat) :
    (pageLabel number).toList = ' ' :: Nat.toDigits 10 number ++ [' '] := by
  simp [pageLabel, Nat.toString_eq_repr, Nat.toList_repr]

/-- A label is two columns wider than the digits of its number. -/
theorem length_pageLabel (number : Nat) :
    (pageLabel number).length = (Nat.toDigits 10 number).length + 2 := by
  rw [← String.length_toList, toList_pageLabel]
  simp

/-- The label of a number of up to so many digits. -/
theorem length_pageLabel_le_iff {number digits : Nat} (h : 0 < digits) :
    (pageLabel number).length ≤ digits + 2 ↔ number < 10 ^ digits := by
  rw [length_pageLabel, Nat.add_le_add_iff_right, Nat.length_toDigits_le_iff (by decide) h]

/-! ## Starts -/

/-- Where the next button would start behind buttons from a column on, if no start were cut back. -/
def advance (x : Nat) (numbers : List Nat) : Nat :=
  x + total (numbers.map fun number => (pageLabel number).length + 1)

@[simp] theorem advance_nil (x : Nat) : advance x [] = x := rfl

@[simp] theorem advance_cons (x number : Nat) (rest : List Nat) :
    advance x (number :: rest) = advance (x + ((pageLabel number).length + 1)) rest := by
  simp [advance, Nat.add_assoc]

theorem advance_append (x : Nat) (front back : List Nat) :
    advance x (front ++ back) = advance (advance x front) back := by
  simp [advance, total_append, Nat.add_assoc]

theorem le_advance (x : Nat) (numbers : List Nat) : x ≤ advance x numbers :=
  Nat.le_add_right _ _

/-- To cut back an earlier start as well does not change where a later one is cut back to. -/
theorem min_advance_min (x : Nat) (numbers : List Nat) :
    Nat.min (advance (Nat.min x last) numbers) last = Nat.min (advance x numbers) last := by
  rcases Nat.le_total x last with hx | hx
  · have hmin : Nat.min x last = x := Nat.min_eq_left hx
    rw [hmin]
  · have hmin : Nat.min x last = last := Nat.min_eq_right hx
    have hback : Nat.min (advance last numbers) last = last := Nat.min_eq_right (le_advance _ _)
    rw [hmin, hback]
    exact (Nat.min_eq_right (Nat.le_trans hx (le_advance _ _))).symm

/-- Further buttons start where the ones before have advanced to. -/
theorem spansFrom_append {x : Nat} (hx : x ≤ last) (front back : List Nat) :
    spansFrom x (front ++ back) =
      spansFrom x front ++ spansFrom (Nat.min (advance x front) last) back := by
  induction front generalizing x with
  | nil =>
    have hmin : Nat.min x last = x := Nat.min_eq_left hx
    rw [advance_nil, hmin]
    rfl
  | cons number rest ih =>
    have hrest := ih (x := Nat.min (x + ((pageLabel number).length + 1)) last)
      (Nat.min_le_right _ _)
    rw [min_advance_min] at hrest
    rw [List.cons_append, spansFrom, hrest, advance_cons]
    rfl

/-- A button starts neither before the column that the buttons stand from, nor beyond the last
column. -/
theorem start_bounds {x : Nat} {numbers : List Nat} (hx : x ≤ last) {s : Span}
    (h : s ∈ spansFrom x numbers) : x ≤ s.start ∧ s.start ≤ last := by
  induction numbers generalizing x with
  | nil => cases h
  | cons number rest ih =>
    rcases List.mem_cons.mp h with rfl | hrest
    · exact ⟨Nat.le_refl x, hx⟩
    · obtain ⟨hnext, hlast⟩ := ih (Nat.min_le_right _ _) hrest
      exact ⟨Nat.le_trans (Nat.le_min.mpr ⟨Nat.le_add_right _ _, hx⟩) hnext, hlast⟩

/-! ## Searching -/

/-- A button lies on the columns of its width. -/
theorem Span.holds_iff {s : Span} {c : Nat} :
    s.holds c = true ↔ s.start ≤ c ∧ c < s.start + s.width := by
  rw [holds, Bool.and_eq_true, decide_eq_true_iff, decide_eq_true_iff]

/-- A button is not hit before the column that it starts in. -/
theorem Span.holds_of_lt {s : Span} {c : Nat} (h : c < s.start) : s.holds c = false := by
  rw [holds, decide_eq_false (Nat.not_le.mpr h), Bool.false_and]

/-- No button is hit before the columns that the buttons start in. -/
theorem find?_eq_none_of_lt {spans : List Span} {c : Nat} (h : ∀ s ∈ spans, c < s.start) :
    spans.find? (·.holds c) = none := by
  rw [List.find?_eq_none]
  exact fun s hs => Bool.eq_false_iff.mp (Span.holds_of_lt (h s hs))

/-! ## Buttons that do not reach beyond the last column -/

/-- The buttons do not reach beyond the last column. -/
def Fits (x : Nat) (numbers : List Nat) : Prop :=
  advance x numbers ≤ last + 1

namespace Fits

variable {x number : Nat} {rest numbers : List Nat}

/-- The first button ends by the last column. -/
theorem first (h : Fits x (number :: rest)) : x + (pageLabel number).length ≤ last := by
  rw [Fits, advance_cons] at h
  exact Nat.le_of_succ_le_succ (Nat.le_trans (le_advance _ rest) h)

/-- The other buttons do not reach beyond the last column either. -/
theorem behind (h : Fits x (number :: rest)) : Fits (x + ((pageLabel number).length + 1)) rest := by
  rwa [Fits, advance_cons] at h

/-- The start of the other buttons is not cut back. -/
theorem spansFrom_cons (h : Fits x (number :: rest)) :
    spansFrom x (number :: rest) =
      ⟨number, x, (pageLabel number).length⟩ ::
        spansFrom (x + ((pageLabel number).length + 1)) rest := by
  cases rest with
  | nil => rfl
  | cons next others =>
    have hnext : Nat.min (x + ((pageLabel number).length + 1)) last =
        x + ((pageLabel number).length + 1) :=
      Nat.min_eq_left (Nat.le_trans (Nat.le_add_right _ _) h.behind.first)
    rw [spansFrom, hnext]

/-- A button starts no earlier than the column that the buttons stand from, and ends before the one
where the next button would start. -/
theorem bounds (h : Fits x numbers) {s : Span} (hs : s ∈ spansFrom x numbers) :
    x ≤ s.start ∧ s.start + s.width < advance x numbers := by
  induction numbers generalizing x with
  | nil => cases hs
  | cons number rest ih =>
    rw [h.spansFrom_cons] at hs
    rw [advance_cons]
    rcases List.mem_cons.mp hs with rfl | hrest
    · exact ⟨Nat.le_refl x, le_advance _ rest⟩
    · obtain ⟨hstart, hend⟩ := ih h.behind hrest
      exact ⟨Nat.le_trans (Nat.le_add_right _ _) hstart, hend⟩

/-- A button ends by the last column. -/
theorem end_le (h : Fits x numbers) {s : Span} (hs : s ∈ spansFrom x numbers) :
    s.start + s.width ≤ last :=
  Nat.le_of_lt_succ (Nat.lt_of_lt_of_le (h.bounds hs).2 h)

/-- Each button starts one column behind the end of the one before. -/
theorem isChain (h : Fits x numbers) :
    (spansFrom x numbers).IsChain fun a b => b.start = a.start + a.width + 1 := by
  induction numbers generalizing x with
  | nil => exact .nil
  | cons number rest ih =>
    have hrest := ih h.behind
    rw [h.spansFrom_cons]
    cases rest with
    | nil => exact .singleton _
    | cons next others =>
      rw [h.behind.spansFrom_cons] at hrest ⊢
      exact .cons_cons rfl hrest

/-- Each button ends before all those behind it start. -/
theorem pairwise (h : Fits x numbers) :
    (spansFrom x numbers).Pairwise fun a b => a.start + a.width < b.start := by
  induction numbers generalizing x with
  | nil => exact .nil
  | cons number rest ih =>
    rw [h.spansFrom_cons]
    exact .cons (fun s hs => (h.behind.bounds hs).1) (ih h.behind)

/-- No button is hit in the column behind one of them. -/
theorem find?_behind (h : Fits x numbers) {s : Span} (hs : s ∈ spansFrom x numbers) :
    (spansFrom x numbers).find? (·.holds (s.start + s.width)) = none := by
  rw [List.find?_eq_none]
  intro t ht hholds
  obtain ⟨hstart, hend⟩ := Span.holds_iff.mp hholds
  have hpairwise := h.pairwise
  obtain ⟨earlier, later, hsplit⟩ := List.append_of_mem hs
  rw [hsplit, List.pairwise_append, List.pairwise_cons] at hpairwise
  obtain ⟨-, ⟨hlater, -⟩, hearlier⟩ := hpairwise
  rw [hsplit, List.mem_append, List.mem_cons] at ht
  rcases ht with hbefore | rfl | hafter
  · have := hearlier t hbefore s List.mem_cons_self
    omega
  · exact Nat.lt_irrefl _ hend
  · exact absurd (hlater t hafter) (Nat.not_lt.mpr hstart)

end Fits

end Roster.Terminal.Layout
