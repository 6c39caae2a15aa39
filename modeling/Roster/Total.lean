/-!
# Totals

The sum of a list of counts.
-/

namespace Roster

/-- The sum of counts. -/
def total : List Nat → Nat
  | [] => 0
  | n :: rest => n + total rest

@[simp] theorem total_nil : total [] = 0 := rfl

@[simp] theorem total_cons (n : Nat) (rest : List Nat) : total (n :: rest) = n + total rest := rfl

/-- The total of two lists is that of their totals. -/
theorem total_append (a b : List Nat) : total (a ++ b) = total a + total b := by
  induction a with
  | nil => simp
  | cons n rest ih => simp [ih, Nat.add_assoc]

end Roster
