import Mathlib.Data.List.Lex
import Mathlib.Data.String.Basic
import Roster.Text.Octets

/-!
# The order of octets

Texts stand in the order of their characters, which is also the order of their octets: of two
characters the one with the lower code has the lower octet at the first place where they differ.
-/

namespace Roster.Text

/-- Octets of one mark are compared by their digits, and by what follows if those are equal. -/
theorem add_cons_lt {mark p q : Nat} {rest rest' : List Nat} (h : p < q ∨ p = q ∧ rest < rest') :
    (mark + p) :: rest < (mark + q) :: rest' := by
  rw [List.cons_lt_cons_iff]
  rcases h with hlt | ⟨rfl, hrest⟩
  · exact .inl (Nat.add_lt_add_left hlt mark)
  · exact .inr ⟨rfl, hrest⟩

section

variable {m n : Nat} (h : m < n) (rest rest' : List Nat)

include h

theorem two_octets_lt :
    [0xC0 + m / 0x40, 0x80 + m % 0x40] ++ rest < [0xC0 + n / 0x40, 0x80 + n % 0x40] ++ rest' := by
  have hdigits : m / 0x40 < n / 0x40 ∨ m / 0x40 = n / 0x40 ∧ m % 0x40 < n % 0x40 := by omega
  rcases hdigits with hfirst | ⟨hfirst, hsecond⟩
  · exact add_cons_lt (.inl hfirst)
  · exact add_cons_lt (.inr ⟨hfirst, add_cons_lt (.inl hsecond)⟩)

theorem three_octets_lt :
    [0xE0 + m / 0x1000, 0x80 + m / 0x40 % 0x40, 0x80 + m % 0x40] ++ rest <
      [0xE0 + n / 0x1000, 0x80 + n / 0x40 % 0x40, 0x80 + n % 0x40] ++ rest' := by
  have hdigits : m / 0x1000 < n / 0x1000 ∨ m / 0x1000 = n / 0x1000 ∧
      (m / 0x40 % 0x40 < n / 0x40 % 0x40 ∨ m / 0x40 % 0x40 = n / 0x40 % 0x40 ∧
        m % 0x40 < n % 0x40) := by omega
  rcases hdigits with hfirst | ⟨hfirst, hsecond | ⟨hsecond, hthird⟩⟩
  · exact add_cons_lt (.inl hfirst)
  · exact add_cons_lt (.inr ⟨hfirst, add_cons_lt (.inl hsecond)⟩)
  · exact add_cons_lt
      (.inr ⟨hfirst, add_cons_lt (.inr ⟨hsecond, add_cons_lt (.inl hthird)⟩)⟩)

theorem four_octets_lt :
    [0xF0 + m / 0x40000, 0x80 + m / 0x1000 % 0x40, 0x80 + m / 0x40 % 0x40, 0x80 + m % 0x40] ++
        rest <
      [0xF0 + n / 0x40000, 0x80 + n / 0x1000 % 0x40, 0x80 + n / 0x40 % 0x40, 0x80 + n % 0x40] ++
        rest' := by
  have hdigits : m / 0x40000 < n / 0x40000 ∨ m / 0x40000 = n / 0x40000 ∧
      (m / 0x1000 % 0x40 < n / 0x1000 % 0x40 ∨ m / 0x1000 % 0x40 = n / 0x1000 % 0x40 ∧
        (m / 0x40 % 0x40 < n / 0x40 % 0x40 ∨ m / 0x40 % 0x40 = n / 0x40 % 0x40 ∧
          m % 0x40 < n % 0x40)) := by omega
  rcases hdigits with hfirst | ⟨hfirst, hsecond | ⟨hsecond, hthird | ⟨hthird, hfourth⟩⟩⟩
  · exact add_cons_lt (.inl hfirst)
  · exact add_cons_lt (.inr ⟨hfirst, add_cons_lt (.inl hsecond)⟩)
  · exact add_cons_lt
      (.inr ⟨hfirst, add_cons_lt (.inr ⟨hsecond, add_cons_lt (.inl hthird)⟩)⟩)
  · exact add_cons_lt (.inr ⟨hfirst, add_cons_lt (.inr ⟨hsecond, add_cons_lt
      (.inr ⟨hthird, add_cons_lt (.inl hfourth)⟩)⟩)⟩)

end

/-- The octets of a code. -/
theorem octetsOfChar_cases (c : Char) :
    (c.toNat < 0x80 ∧ octetsOfChar c = [c.toNat]) ∨
    (0x80 ≤ c.toNat ∧ c.toNat < 0x800 ∧
      octetsOfChar c = [0xC0 + c.toNat / 0x40, 0x80 + c.toNat % 0x40]) ∨
    (0x800 ≤ c.toNat ∧ c.toNat < 0x10000 ∧
      octetsOfChar c = [0xE0 + c.toNat / 0x1000, 0x80 + c.toNat / 0x40 % 0x40,
        0x80 + c.toNat % 0x40]) ∨
    (0x10000 ≤ c.toNat ∧
      octetsOfChar c = [0xF0 + c.toNat / 0x40000, 0x80 + c.toNat / 0x1000 % 0x40,
        0x80 + c.toNat / 0x40 % 0x40, 0x80 + c.toNat % 0x40]) := by
  unfold octetsOfChar
  simp only
  split
  · rename_i hone
    exact .inl ⟨hone, rfl⟩
  · split
    · rename_i hone htwo
      exact .inr (.inl ⟨Nat.le_of_not_lt hone, htwo, rfl⟩)
    · split
      · rename_i htwo hthree
        exact .inr (.inr (.inl ⟨Nat.le_of_not_lt htwo, hthree, rfl⟩))
      · rename_i hthree
        exact .inr (.inr (.inr ⟨Nat.le_of_not_lt hthree, rfl⟩))

/-- A character of a lower code has lower octets, whatever follows them. One of fewer octets has the
lower octet at the front. -/
theorem octetsOfChar_append_lt {c d : Char} (h : c < d) (rest rest' : List Nat) :
    octetsOfChar c ++ rest < octetsOfChar d ++ rest' := by
  have hlt : c.toNat < d.toNat := h
  have hfront {first first' : Nat} {more more' : List Nat} (hfirst : first < first') :
      first :: more ++ rest < first' :: more' ++ rest' :=
    List.cons_lt_cons_iff.mpr (.inl hfirst)
  rcases octetsOfChar_cases c with ⟨hc, ec⟩ | ⟨lc, hc, ec⟩ | ⟨lc, hc, ec⟩ | ⟨lc, ec⟩
  · rcases octetsOfChar_cases d with ⟨hd, ed⟩ | ⟨ld, -, ed⟩ | ⟨ld, -, ed⟩ | ⟨ld, ed⟩ <;> rw [ec, ed]
    · exact hfront hlt
    all_goals exact hfront (by omega)
  · rcases octetsOfChar_cases d with ⟨hd, ed⟩ | ⟨ld, -, ed⟩ | ⟨ld, -, ed⟩ | ⟨ld, ed⟩ <;> rw [ec, ed]
    · omega
    · exact two_octets_lt hlt rest rest'
    all_goals exact hfront (by omega)
  · rcases octetsOfChar_cases d with ⟨hd, ed⟩ | ⟨-, hd, ed⟩ | ⟨ld, -, ed⟩ | ⟨ld, ed⟩ <;> rw [ec, ed]
    · omega
    · omega
    · exact three_octets_lt hlt rest rest'
    · exact hfront (by omega)
  · rcases octetsOfChar_cases d with ⟨hd, ed⟩ | ⟨-, hd, ed⟩ | ⟨-, hd, ed⟩ | ⟨ld, ed⟩ <;> rw [ec, ed]
    · omega
    · omega
    · omega
    · exact four_octets_lt hlt rest rest'

/-- Every character has octets. -/
theorem octetsOfChar_ne_nil (c : Char) : octetsOfChar c ≠ [] := by
  rcases octetsOfChar_cases c with ⟨-, h⟩ | ⟨-, -, h⟩ | ⟨-, -, h⟩ | ⟨-, h⟩ <;> simp [h]

/-- A text that stands before another one has the lower octets. -/
theorem toOctets_lt {a b : List Char} (h : a < b) : toOctets a < toOctets b := by
  induction h with
  | nil =>
    rename_i d rest
    obtain ⟨first, more, hoctets⟩ := List.exists_cons_of_ne_nil (octetsOfChar_ne_nil d)
    simp only [toOctets, List.flatMap_nil, List.flatMap_cons, hoctets, List.cons_append]
    exact List.nil_lt_cons _ _
  | rel hlt => exact octetsOfChar_append_lt hlt _ _
  | cons _ ih => exact List.append_left_lt ih

end Roster.Text
