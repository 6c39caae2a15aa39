import Roster.Text.Blank
import Roster.Word

/-!
# Pages

A list is shown page by page. Page numbers start at one and are counted in words of 64 bits, whose
products stop at the greatest word.
-/

namespace Roster

/-- How many rows a full page has. -/
structure PageSize where
  value : Nat
  positive : 0 < value
  deriving DecidableEq, Repr

namespace PageSize

/-- A page of so many rows, unless that is none at all. -/
def ofNat? (n : Nat) : Option PageSize :=
  if h : 0 < n then some ⟨n, h⟩ else none

/-- Fifteen rows, unless something else is asked for. -/
def standard : PageSize := ⟨15, by decide⟩

end PageSize

/-- Reads how many rows a page has; blanks around the number do not matter. -/
def PageSize.parse? (s : String) : Option PageSize :=
  (word? (Text.trim s.toList)).bind PageSize.ofNat?

namespace Page

/-- How many pages `total` rows fill. -/
def count (total : Nat) (size : PageSize) : Nat :=
  (total + size.value - 1) / size.value

/-- The numbers of the pages that `total` rows fill. -/
def numbers (total : Nat) (size : PageSize) : List Nat :=
  (List.range (count total size)).map (· + 1)

/-- Where page `page` ends, if it is full. -/
def fullEnd (page : Nat) (size : PageSize) : Nat :=
  Nat.min (page * size.value) wordMax

/-- The index of the first row of a page. -/
def start (page : Nat) (size : PageSize) (total : Nat) : Nat :=
  Nat.min (fullEnd page size - size.value) total

/-- The index after the last row of a page. -/
def stop (page : Nat) (size : PageSize) (total : Nat) : Nat :=
  Nat.min (fullEnd page size) total

/-- The rows on a page. -/
def slice {α : Type} (rows : List α) (page : Nat) (size : PageSize) : List α :=
  (rows.take (stop page size rows.length)).drop (start page size rows.length)

/-- Reads a page number from an address: blanks and plus signs at the front are dropped, and the
digits that follow count. Whatever is no page number means the first page. -/
def parse : Option String → Nat
  | none => 1
  | some raw =>
    let digits := ((Text.dropLeading raw.toList).dropWhile (· == '+')).takeWhile Char.isDigit
    let page := digitsValue digits
    if 1 ≤ page && page ≤ wordMax then page else 1

/-- A page number is never zero. -/
theorem one_le_parse (raw : Option String) : 1 ≤ parse raw := by
  cases raw with
  | none => exact Nat.le_refl 1
  | some raw =>
    simp only [parse]
    split
    · rename_i h
      simp only [Bool.and_eq_true, decide_eq_true_eq] at h
      exact h.1
    · exact Nat.le_refl 1

end Page

end Roster
