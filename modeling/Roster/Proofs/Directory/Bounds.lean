import Roster.Proofs.Directory.Coverage

/-!
# Bounds of pages

Where a page starts and stops is computed from a product that stops at the greatest word. The rows
between these bounds are exactly those of the page unless the product is cut off and the rows reach
beyond the last full page that ends at the greatest word. In that case every such page shows the rows
from there on, whatever its number, although they belong to a page before it.
-/

namespace Roster.Page

variable {page total : Nat} {size : PageSize}

/-- The bounds of a page hold exactly the rows from its first one up to the first one of the page
after it, as far as there are rows. -/
def Exact (page : Nat) (size : PageSize) (total : Nat) : Prop :=
  ∀ index, (start page size total ≤ index ∧ index < stop page size total) ↔
    index < total ∧ (page - 1) * size.value ≤ index ∧ index < page * size.value

/-- The rows of a page and those of the pages before it are one multiple of the size. -/
theorem mul_eq_add_size (hpage : 1 ≤ page) :
    page * size.value = (page - 1) * size.value + size.value := by
  rw [← Nat.succ_mul, Nat.succ_eq_add_one, Nat.sub_add_cancel hpage]

/-- While the product is not cut off, the bounds are multiples of the size. -/
theorem exact_of_mul_le (hpage : 1 ≤ page) (h : page * size.value ≤ wordMax) :
    Exact page size total := by
  intro index
  have hproduct : page * size.value = (page - 1) * size.value + size.value :=
    mul_eq_add_size hpage
  simp only [start, stop, fullEnd, Nat.min_def]
  split_ifs <;> omega

/-- A product that is cut off is taken for the greatest word: the page starts one size before it. -/
theorem bounds_of_lt_mul (htotal : total ≤ wordMax) (h : wordMax < page * size.value) :
    start page size total = min (wordMax - size.value) total ∧ stop page size total = total := by
  have hend : fullEnd page size = wordMax := Nat.min_eq_right h.le
  rw [start, stop, hend]
  exact ⟨rfl, Nat.min_eq_right htotal⟩

/-- A page whose product is cut off is exact when no row lies where it starts. -/
theorem exact_iff_of_lt_mul (hpage : 1 ≤ page) (hsize : size.value ≤ wordMax)
    (htotal : total ≤ wordMax) (h : wordMax < page * size.value) :
    Exact page size total ↔ total + size.value ≤ wordMax := by
  have hproduct : page * size.value = (page - 1) * size.value + size.value :=
    mul_eq_add_size hpage
  obtain ⟨hstart, hstop⟩ := bounds_of_lt_mul htotal h
  rw [Exact, hstart, hstop]
  constructor
  · intro hexact
    -- The row at which the page starts belongs to a page before it.
    have hfirst := hexact (wordMax - size.value)
    omega
  · intro hroom index
    omega

/-- A page is exact when its product is not cut off, or no row lies where it then starts. -/
theorem exact_iff (hpage : 1 ≤ page) (hsize : size.value ≤ wordMax) (htotal : total ≤ wordMax) :
    Exact page size total ↔ page * size.value ≤ wordMax ∨ total + size.value ≤ wordMax := by
  rcases Nat.lt_or_ge wordMax (page * size.value) with hcut | hwhole
  · rw [exact_iff_of_lt_mul hpage hsize htotal hcut, or_iff_right (Nat.not_le.mpr hcut)]
  · exact iff_of_true (exact_of_mul_le hpage hwhole) (.inl hwhole)

/-- Two exact pages with different numbers have no row in common. -/
theorem Exact.disjoint {other index : Nat} (h : Exact page size total)
    (hother : Exact other size total) (hne : page ≠ other)
    (hindex : start page size total ≤ index ∧ index < stop page size total) :
    ¬(start other size total ≤ index ∧ index < stop other size total) := by
  intro hindex'
  obtain ⟨-, hlow, hhigh⟩ := (h index).mp hindex
  obtain ⟨-, hlow', hhigh'⟩ := (hother index).mp hindex'
  rcases Nat.lt_or_gt_of_ne hne with hlt | hgt
  · have hbefore := Nat.mul_le_mul_right size.value (Nat.le_sub_one_of_lt hlt)
    omega
  · have hafter := Nat.mul_le_mul_right size.value (Nat.le_sub_one_of_lt hgt)
    omega

/-- An exact page past the last button has no rows. -/
theorem Exact.empty_of_count_lt (h : Exact page size total) (hpast : total ⌈/⌉ size.value < page) :
    start page size total = stop page size total := by
  have hcount : total ≤ (total ⌈/⌉ size.value) * size.value := by
    rw [Nat.mul_comm]
    exact le_smul_ceilDiv size.positive
  have hbefore := Nat.mul_le_mul_right size.value (Nat.le_sub_one_of_lt hpast)
  have hordered := (bounds page size total).1
  have hfirst := h (start page size total)
  omega

/-- Of words, the bounds of a page are exact if and only if the product of its number and the size is
a word, or the rows leave room for one more page below the greatest word. Otherwise the page shows the
rows from one size below the greatest word on, and there are some. Exact pages have no row in
common, and show none past the last button. -/
theorem exact_bounds_iff (hpage : 1 ≤ page) (hsize : size.value ≤ wordMax)
    (htotal : total ≤ wordMax) :
    (Exact page size total ↔ page * size.value ≤ wordMax ∨ total + size.value ≤ wordMax) ∧
      (¬Exact page size total →
        start page size total = wordMax - size.value ∧ stop page size total = total ∧
          start page size total < stop page size total) ∧
      (Exact page size total →
        (total ⌈/⌉ size.value < page → start page size total = stop page size total) ∧
        ∀ other index, page ≠ other → Exact other size total →
          (start page size total ≤ index ∧ index < stop page size total) →
          ¬(start other size total ≤ index ∧ index < stop other size total)) := by
  refine ⟨exact_iff hpage hsize htotal, ?_, ?_⟩
  · intro hexact
    rw [exact_iff hpage hsize htotal, not_or, Nat.not_le, Nat.not_le] at hexact
    obtain ⟨hstart, hstop⟩ := bounds_of_lt_mul htotal hexact.1
    rw [hstart, hstop]
    omega
  · intro hexact
    exact ⟨hexact.empty_of_count_lt, fun _ _ hne hother => hexact.disjoint hother hne⟩

/-- The page of the greatest number is exact and shows nothing of a short list. -/
theorem exact_bounds_greatest_page :
    let ten : PageSize := ⟨10, by decide⟩
    1 ≤ wordMax ∧ ten.value ≤ wordMax ∧ 5 ≤ wordMax ∧ Exact wordMax ten 5 ∧
      start wordMax ten 5 = stop wordMax ten 5 := by
  intro ten
  have hpage : 1 ≤ wordMax := by decide
  have hsize : ten.value ≤ wordMax := by decide
  have htotal : 5 ≤ wordMax := by decide
  obtain ⟨hiff, -, hempty⟩ := exact_bounds_iff hpage hsize htotal
  have hexact : Exact wordMax ten 5 := hiff.mpr (.inr (by decide))
  exact ⟨hpage, hsize, htotal, hexact, (hempty hexact).1 (by decide)⟩

/-- At the greatest size that a page can have, the second page shows the rows of the first. -/
theorem bounds_greatest_size :
    let size : PageSize := ⟨wordMax, by decide⟩
    (start 1 size 5 = 0 ∧ stop 1 size 5 = 5) ∧ (start 2 size 5 = 0 ∧ stop 2 size 5 = 5) ∧
      5 ⌈/⌉ size.value < 2 ∧ ¬Exact 2 size 5 := by
  intro size
  refine ⟨by decide, by decide, by decide, fun hexact => ?_⟩
  have hfirst := (hexact 0).mp (by decide)
  exact absurd hfirst.2.1 (by decide)

end Roster.Page
