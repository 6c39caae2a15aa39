/-!
# Registers

A register numbers its rows from one on. Every number is given out once, also when the row that it was
meant for is not added after all.
-/

namespace Roster

/-- A row with its number. -/
structure Numbered (α : Type) where
  number : Nat
  value : α
  deriving DecidableEq, Repr

/-- A register: its rows in the order of their numbers, and the last number given out. -/
structure Register (α : Type) where
  rows : List (Numbered α)
  last : Nat
  deriving Repr

namespace Register

variable {α : Type}

/-- The register without rows. -/
def empty : Register α := ⟨[], 0⟩

/-- The number that the next row gets. -/
def next (t : Register α) : Nat :=
  t.last + 1

/-- Adds a row. -/
def add (t : Register α) (value : α) : Register α :=
  ⟨t.rows ++ [⟨t.next, value⟩], t.next⟩

/-- Gives out a number to no row. -/
def skip (t : Register α) : Register α :=
  { t with last := t.next }

/-- The row of a number. -/
def row? (t : Register α) (number : Int) : Option (Numbered α) :=
  t.rows.find? fun row => (row.number : Int) == number

/-- Whether a row has the number. -/
def has (t : Register α) (number : Int) : Bool :=
  (t.row? number).isSome

/-- Changes the row of a number. -/
def change (t : Register α) (number : Int) (f : α → α) : Register α :=
  { t with
    rows := t.rows.map fun row =>
      if (row.number : Int) == number then { row with value := f row.value } else row }

/-- No row has a number that has not been given out. -/
def WellNumbered (t : Register α) : Prop :=
  ∀ row ∈ t.rows, row.number ≤ t.last

/-- The empty register is well numbered. -/
theorem wellNumbered_empty : (empty : Register α).WellNumbered := by
  simp [WellNumbered, empty]

/-- Adding a row keeps a register well numbered. -/
theorem WellNumbered.add {t : Register α} (h : t.WellNumbered) (value : α) :
    (t.add value).WellNumbered := by
  intro row hrow
  simp only [Register.add, List.mem_append, List.mem_singleton] at hrow
  rcases hrow with hrow | rfl
  · exact Nat.le_trans (h row hrow) (Nat.le_succ _)
  · exact Nat.le_refl _

end Register

end Roster
