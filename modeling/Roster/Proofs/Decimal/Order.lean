import Mathlib.Algebra.Order.Group.Int
import Mathlib.Algebra.Ring.Int.Defs
import Mathlib.Data.Prod.Lex

/-!
# The order of doubles

The finite doubles are linearly ordered, up to the two zeros: first by their signs, then by their
exponents and then by their mantissas, the latter two downwards below zero. So a finite double has a
place, and comparing two of them compares their places.
-/

namespace Roster.Decimal

open Float.Model (UnpackedFloat)

/-- The place of a double among the finite ones. -/
def place : UnpackedFloat → ℤ ×ₗ ℤ ×ₗ ℤ
  | .finite .positive mantissa exponent _ => toLex (1, toLex (exponent, (mantissa : ℤ)))
  | .finite .negative mantissa exponent _ => toLex (-1, toLex (-exponent, -(mantissa : ℤ)))
  | _ => toLex (0, toLex (0, 0))

/-- A finite double is a zero or has a mantissa. -/
theorem cases_of_isFinite {a : UnpackedFloat} (h : a.isFinite = true) :
    (∃ s, a = .zero s) ∨ ∃ s m e, ∃ hm : 0 < m, a = .finite s m e hm := by
  cases a with
  | infinity s => exact absurd h Bool.false_ne_true
  | notANumber => exact absurd h Bool.false_ne_true
  | zero s => exact .inl ⟨s, rfl⟩
  | finite s m e hm => exact .inr ⟨s, m, e, hm, rfl⟩

/-- Of two finite doubles the one at the lower place is less. -/
theorem compare_eq_lt_iff {a b : UnpackedFloat} (ha : a.isFinite = true) (hb : b.isFinite = true) :
    a.compare b = some .lt ↔ place a < place b := by
  obtain ⟨s, rfl⟩ | ⟨s, m, e, hm, rfl⟩ := cases_of_isFinite ha <;>
    obtain ⟨t, rfl⟩ | ⟨t, n, f, hn, rfl⟩ := cases_of_isFinite hb
  · dsimp only [UnpackedFloat.compare, place]
    simp
  · cases t <;> dsimp only [UnpackedFloat.compare, place] <;> simp [Prod.Lex.lt_iff]
  · cases s <;> dsimp only [UnpackedFloat.compare, place] <;> simp [Prod.Lex.lt_iff]
  · cases s <;> cases t <;> dsimp only [UnpackedFloat.compare, place] <;>
      simp [Prod.Lex.lt_iff, Ordering.then_eq_lt, Ordering.then_eq_gt, compare_lt_iff_lt,
        compare_gt_iff_gt]

/-- Of two finite doubles that are equal both have one place. -/
theorem compare_eq_eq_iff {a b : UnpackedFloat} (ha : a.isFinite = true) (hb : b.isFinite = true) :
    a.compare b = some .eq ↔ place a = place b := by
  obtain ⟨s, rfl⟩ | ⟨s, m, e, hm, rfl⟩ := cases_of_isFinite ha <;>
    obtain ⟨t, rfl⟩ | ⟨t, n, f, hn, rfl⟩ := cases_of_isFinite hb
  · dsimp only [UnpackedFloat.compare, place]
    simp
  · cases t <;> dsimp only [UnpackedFloat.compare, place] <;> simp
  · cases s <;> dsimp only [UnpackedFloat.compare, place] <;> simp
  · cases s <;> cases t <;> dsimp only [UnpackedFloat.compare, place] <;>
      simp [Ordering.then_eq_eq]

/-- The place of a double, which means something for the finite ones. -/
def placeOf (x : Float) : ℤ ×ₗ ℤ ×ₗ ℤ :=
  place x.toModel.unpack

variable {x y : Float}

theorem lt_iff_placeOf_lt (hx : x.isFinite = true) (hy : y.isFinite = true) :
    x < y ↔ placeOf x < placeOf y := by
  rw [placeOf, placeOf, ← compare_eq_lt_iff hx hy]
  change decide ((x.toModel.unpack.compare y.toModel.unpack == some .lt) = true) = true ↔ _
  rw [decide_eq_true_iff, beq_iff_eq]

theorem beq_iff_placeOf_eq (hx : x.isFinite = true) (hy : y.isFinite = true) :
    (x == y) = true ↔ placeOf x = placeOf y := by
  rw [placeOf, placeOf, ← compare_eq_eq_iff hx hy]
  change (x.toModel.unpack.compare y.toModel.unpack == some .eq) = true ↔ _
  rw [beq_iff_eq]

end Roster.Decimal
