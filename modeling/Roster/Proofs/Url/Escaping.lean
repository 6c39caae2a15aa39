import Mathlib.Data.List.Infix
import Roster.Proofs.Text.OctetOrder
import Roster.Url.Escape

/-!
# What unescaping leaves alone

Unescaping takes three characters for one octet wherever a percent sign stands before two hexadecimal
digits, and leaves everything else as it is. So a text keeps its octets if there is no such place, and
loses some as soon as there is one.
-/

namespace Roster.Url

open Text (octetsOfChar toOctets toOctets_cons)

/-- An escaped octet stands in a text: a percent sign before two hexadecimal digits. -/
def HasEscape (cs : List Char) : Prop :=
  ∃ a b, (hexValue a).isSome ∧ (hexValue b).isSome ∧ ['%', a, b] <:+: cs

/-- Octets are those of a text in which no escaped octet stands, or fewer than those of a text in which
one does. -/
def Spares (cs : List Char) (octets : List Nat) : Prop :=
  ¬HasEscape cs ∧ octets = toOctets cs ∨ HasEscape cs ∧ octets.length < (toOctets cs).length

variable {c : Char} {cs : List Char} {octets : List Nat}

/-- An escaped octet stands at the front of a text or behind its first character. -/
theorem hasEscape_cons_iff :
    HasEscape (c :: cs) ↔ (c = '%' ∧ ∃ a b rest, cs = a :: b :: rest ∧ (hexValue a).isSome ∧
      (hexValue b).isSome) ∨ HasEscape cs := by
  constructor
  · rintro ⟨a, b, ha, hb, hinfix⟩
    rcases List.infix_cons_iff.mp hinfix with ⟨rest, hfront⟩ | hbehind
    · rw [List.cons_append, List.cons.injEq] at hfront
      exact .inl ⟨hfront.1.symm, a, b, rest, hfront.2.symm, ha, hb⟩
    · exact .inr ⟨a, b, ha, hb, hbehind⟩
  · rintro (⟨rfl, a, b, rest, rfl, ha, hb⟩ | ⟨a, b, ha, hb, hbehind⟩)
    · exact ⟨a, b, ha, hb, [], rest, rfl⟩
    · exact ⟨a, b, ha, hb, hbehind.trans (List.suffix_cons c cs).isInfix⟩

/-- No text gets more octets than it has. -/
theorem Spares.length_le (h : Spares cs octets) : octets.length ≤ (toOctets cs).length := by
  rcases h with ⟨-, heq⟩ | ⟨-, hlt⟩
  · rw [heq]
  · exact Nat.le_of_lt hlt

/-- A character that begins no escaped octet stands for its own octets. -/
theorem Spares.cons (h : Spares cs octets)
    (hfront : ¬(c = '%' ∧ ∃ a b rest, cs = a :: b :: rest ∧ (hexValue a).isSome ∧
      (hexValue b).isSome)) : Spares (c :: cs) (octetsOfChar c ++ octets) := by
  rw [Spares, hasEscape_cons_iff, or_iff_right hfront, toOctets_cons]
  rcases h with ⟨hnone, heq⟩ | ⟨hsome, hlt⟩
  · exact .inl ⟨hnone, by rw [heq]⟩
  · exact .inr ⟨hsome, by rw [List.length_append, List.length_append]; omega⟩

/-- Unescaping spares a text in which no escaped octet stands, and gives fewer octets for any other. -/
theorem spares_unescape (cs : List Char) : Spares cs (unescape cs) := by
  fun_induction unescape cs with
  | case1 => exact .inl ⟨fun ⟨_, _, _, _, hinfix⟩ => absurd hinfix (by simp), rfl⟩
  | case2 a b rest m n hn hm ih =>
    -- Three characters with at least one octet each give a single octet.
    have hhead := List.length_pos_iff.mpr (Text.octetsOfChar_ne_nil a)
    have hle := ih.length_le
    refine .inr ⟨hasEscape_cons_iff.mpr (.inl ⟨rfl, a, b, rest, rfl, ?_, ?_⟩), ?_⟩
    · rw [hm, Option.isSome_some]
    · rw [hn, Option.isSome_some]
    · simp only [toOctets_cons, List.length_append, List.length_cons]
      have hpercent : (octetsOfChar '%').length = 1 := rfl
      omega
  | case3 a b rest hno ih =>
    refine ih.cons fun ⟨_, a', b', rest', heq, ha, hb⟩ => ?_
    obtain ⟨rfl, rfl, rfl⟩ : a = a' ∧ b = b' ∧ rest = rest' := by simpa using heq
    obtain ⟨m, hm⟩ := Option.isSome_iff_exists.mp ha
    obtain ⟨n, hn⟩ := Option.isSome_iff_exists.mp hb
    exact hno m n hm hn
  | case4 c rest hno ih =>
    exact ih.cons fun ⟨hc, a, b, rest', heq, _, _⟩ => hno a b rest' hc heq

/-- Unescaping leaves a text alone exactly if no escaped octet stands in it. -/
theorem unescape_eq_toOctets_iff : unescape cs = toOctets cs ↔ ¬HasEscape cs := by
  rcases spares_unescape cs with ⟨hnone, heq⟩ | ⟨hsome, hlt⟩
  · exact iff_of_true heq hnone
  · refine iff_of_false (fun heq => ?_) (not_not.mpr hsome)
    rw [heq] at hlt
    exact Nat.lt_irrefl _ hlt

instance (cs : List Char) : Decidable (HasEscape cs) :=
  decidable_of_iff (unescape cs ≠ toOctets cs) (not_congr unescape_eq_toOctets_iff |>.trans not_not)

end Roster.Url
