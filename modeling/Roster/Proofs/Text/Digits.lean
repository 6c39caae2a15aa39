import Roster.Word

/-!
# Numbers in digits

A number is written in decimal digits without a leading zero, and the digits have its value.
-/

namespace Roster

/-- The digits of a number have its value. -/
theorem digitsValue_toDigits (n : Nat) : digitsValue (Nat.toDigits 10 n) = n := by
  have hfold : ∀ (digits : List Char) (start : Nat),
      digits.foldl (fun n c => n * 10 + digitValue c) start = Nat.ofDigitChars 10 digits start := by
    intro digits
    induction digits with
    | nil => exact fun _ => rfl
    | cons c rest ih =>
      intro start
      rw [List.foldl_cons, ih, Nat.ofDigitChars_cons, Nat.mul_comm]
      rfl
  rw [digitsValue, hfold, Nat.ofDigitChars_ten_toDigits]

/-- A number is written in digits. -/
theorem isDigit_of_mem_toDigits {n : Nat} {c : Char} (h : c ∈ Nat.toDigits 10 n) :
    c.isDigit = true :=
  Nat.isDigit_of_mem_toDigits (by decide) (by decide) h

/-- Further digits make a number no smaller. -/
theorem le_foldl_digitValue (digits : List Char) (start : Nat) :
    start ≤ digits.foldl (fun n c => n * 10 + digitValue c) start := by
  induction digits generalizing start with
  | nil => exact Nat.le_refl start
  | cons c rest ih => exact Nat.le_trans (by omega) (ih (start * 10 + digitValue c))

/-- The digits of a positive number do not begin with a zero. -/
theorem exists_toDigits_eq_cons {n : Nat} (h : 0 < n) :
    ∃ c rest, Nat.toDigits 10 n = c :: rest ∧ c ≠ '0' := by
  induction n using Nat.strongRecOn with
  | ind n ih =>
    rw [Nat.toDigits_eq_if (by decide)]
    split
    · rename_i hlt
      have hzero : ∀ n < 10, 0 < n → n.digitChar ≠ '0' := by decide
      exact ⟨n.digitChar, [], rfl, hzero n hlt h⟩
    · obtain ⟨c, rest, hdigits, hc⟩ := ih (n / 10) (by omega) (by omega)
      exact ⟨c, rest ++ [(n % 10).digitChar], by rw [hdigits]; rfl, hc⟩

end Roster
