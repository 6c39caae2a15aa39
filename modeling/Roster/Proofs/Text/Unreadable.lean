import Mathlib.Tactic.SplitIfs
import Roster.Proofs.Text.Octets
import Roster.Text.Unreadable

/-!
# Readable octets

The strict reading of octets finds no fault exactly where the octets are those of a text. A character
that is read strictly is written in the octets that it was read from: longer forms, surrogates and
codes beyond the last character are faults.
-/

namespace Roster.Text

/-! ## One character -/

/-- A code that is no surrogate is that of a character. -/
theorem toNat_ofNat {n : Nat} (h : n < 0xD800 ∨ 0xDFFF < n ∧ n < 0x110000) :
    (Char.ofNat n).toNat = n := by
  rw [Char.ofNat, dif_pos (show n.isValidChar from h)]
  rfl

/-- A first octet tells how many octets its character has by the range in which it lies. -/
theorem lengthFrom_cases (first : Nat) :
    (lengthFrom first = 1 ∧ first < 0x80) ∨
      (lengthFrom first = 2 ∧ 0xC2 ≤ first ∧ first ≤ 0xDF) ∨
      (lengthFrom first = 3 ∧ 0xE0 ≤ first ∧ first ≤ 0xEF) ∨
      (lengthFrom first = 4 ∧ 0xF0 ≤ first ∧ first ≤ 0xF4) ∨ lengthFrom first = 0 := by
  simp only [lengthFrom, Bool.and_eq_true, decide_eq_true_eq]
  split_ifs <;> omega

/-- A second octet in its range continues a character. Behind some first octets, those are left out
with which the character would be too short, a surrogate or too large. -/
theorem secondRange_bounds {first n : Nat} (hlow : (secondRange first).1 ≤ n)
    (hhigh : n ≤ (secondRange first).2) :
    0x80 ≤ n ∧ n ≤ 0xBF ∧ (first = 0xE0 → 0xA0 ≤ n) ∧ (first = 0xED → n ≤ 0x9F) ∧
      (first = 0xF0 → 0x90 ≤ n) ∧ (first = 0xF4 → n ≤ 0x8F) := by
  simp only [secondRange, beq_iff_eq] at hlow hhigh
  split_ifs at hlow hhigh <;> simp only at hlow hhigh <;> omega

section

variable {first b c d : Nat} {rest : List Nat}

/-- An octet that continues a character lies in the range of those. -/
theorem isContinuation_iff : isContinuation b = true ↔ 0x80 ≤ b ∧ b ≤ 0xBF := by
  rw [isContinuation, Bool.and_eq_true, decide_eq_true_eq, decide_eq_true_eq]

/-- A character is written in the two octets that it was read from. -/
theorem octetsOfChar_of_two (hfirst : 0xC2 ≤ first ∧ first ≤ 0xDF) (hb : isContinuation b = true) :
    octetsOfChar (Char.ofNat ((first - 0xC0) * 0x40 + (b - 0x80))) = [first, b] := by
  rw [isContinuation_iff] at hb
  have hcode := toNat_ofNat (n := (first - 0xC0) * 0x40 + (b - 0x80)) (by omega)
  rw [octetsOfChar, hcode, if_neg (by omega), if_pos (by omega), List.cons.injEq, List.cons.injEq]
  exact ⟨by omega, by omega, rfl⟩

/-- A character is written in the three octets that it was read from. -/
theorem octetsOfChar_of_three (hfirst : 0xE0 ≤ first ∧ first ≤ 0xEF)
    (hlow : (secondRange first).1 ≤ b) (hhigh : b ≤ (secondRange first).2)
    (hc : isContinuation c = true) :
    octetsOfChar (Char.ofNat ((first - 0xE0) * 0x1000 + (b - 0x80) * 0x40 + (c - 0x80))) =
      [first, b, c] := by
  rw [isContinuation_iff] at hc
  obtain ⟨hb, hb', hshort, hsurrogate, -⟩ := secondRange_bounds hlow hhigh
  have hcode := toNat_ofNat
    (n := (first - 0xE0) * 0x1000 + (b - 0x80) * 0x40 + (c - 0x80)) (by omega)
  rw [octetsOfChar, hcode, if_neg (by omega), if_neg (by omega), if_pos (by omega)]
  simp only [List.cons.injEq, and_true]
  exact ⟨by omega, by omega, by omega⟩

/-- A character is written in the four octets that it was read from. -/
theorem octetsOfChar_of_four (hfirst : 0xF0 ≤ first ∧ first ≤ 0xF4)
    (hlow : (secondRange first).1 ≤ b) (hhigh : b ≤ (secondRange first).2)
    (hc : isContinuation c = true) (hd : isContinuation d = true) :
    octetsOfChar (Char.ofNat ((first - 0xF0) * 0x40000 + (b - 0x80) * 0x1000 + (c - 0x80) * 0x40 +
      (d - 0x80))) = [first, b, c, d] := by
  rw [isContinuation_iff] at hc hd
  obtain ⟨hb, hb', -, -, hshort, hlarge⟩ := secondRange_bounds hlow hhigh
  have hcode := toNat_ofNat
    (n := (first - 0xF0) * 0x40000 + (b - 0x80) * 0x1000 + (c - 0x80) * 0x40 + (d - 0x80)) (by omega)
  rw [octetsOfChar, hcode, if_neg (by omega), if_neg (by omega), if_neg (by omega)]
  simp only [List.cons.injEq, and_true]
  exact ⟨by omega, by omega, by omega, by omega⟩

/-- What is read of two octets is written in them, unless it stands for octets that carry no
character. -/
theorem octetsOfChar_readChar_two (hlength : lengthFrom first = 2)
    (hfirst : 0xC2 ≤ first ∧ first ≤ 0xDF) (h : (readChar first rest).1 ≠ replacement) :
    octetsOfChar (readChar first rest).1 = first :: rest.take (readChar first rest).2 := by
  revert h
  rcases rest with _ | ⟨b, rest⟩
  · simp [readChar, hlength]
  simp only [readChar, hlength]
  split_ifs with hb
  · intro _
    simp only [List.take_succ_cons, List.take_zero]
    exact octetsOfChar_of_two hfirst hb
  · exact fun h => absurd rfl h

/-- The same of three octets. -/
theorem octetsOfChar_readChar_three (hlength : lengthFrom first = 3)
    (hfirst : 0xE0 ≤ first ∧ first ≤ 0xEF) (h : (readChar first rest).1 ≠ replacement) :
    octetsOfChar (readChar first rest).1 = first :: rest.take (readChar first rest).2 := by
  revert h
  rcases rest with _ | ⟨b, _ | ⟨c, rest⟩⟩
  · simp [readChar, hlength]
  · simp [readChar, hlength]
  simp only [readChar, hlength, Bool.and_eq_true, decide_eq_true_eq]
  split_ifs with hb hc
  · intro _
    simp only [List.take_succ_cons, List.take_zero]
    exact octetsOfChar_of_three hfirst hb.1 hb.2 hc
  · exact fun h => absurd rfl h
  · exact fun h => absurd rfl h

/-- The same of four octets. -/
theorem octetsOfChar_readChar_four (hlength : lengthFrom first = 4)
    (hfirst : 0xF0 ≤ first ∧ first ≤ 0xF4) (h : (readChar first rest).1 ≠ replacement) :
    octetsOfChar (readChar first rest).1 = first :: rest.take (readChar first rest).2 := by
  revert h
  rcases rest with _ | ⟨b, _ | ⟨c, _ | ⟨d, rest⟩⟩⟩
  · simp [readChar, hlength]
  · simp [readChar, hlength]
  · simp [readChar, hlength]
  simp only [readChar, hlength, Bool.and_eq_true, decide_eq_true_eq]
  split_ifs with hb hc hd
  · intro _
    simp only [List.take_succ_cons, List.take_zero]
    exact octetsOfChar_of_four hfirst hb.1 hb.2 hc hd
  · exact fun h => absurd rfl h
  · exact fun h => absurd rfl h
  · exact fun h => absurd rfl h

end

/-- Unless it stands for octets that carry none, a character is written in the octets that it was read
from. -/
theorem octetsOfChar_readChar {first : Nat} {rest : List Nat}
    (h : (readChar first rest).1 ≠ replacement) :
    octetsOfChar (readChar first rest).1 = first :: rest.take (readChar first rest).2 := by
  rcases lengthFrom_cases first with
    ⟨hone, hfirst⟩ | ⟨htwo, hfirst⟩ | ⟨hthree, hfirst⟩ | ⟨hfour, hfirst⟩ | hnone
  · have hcode := toNat_ofNat (n := first) (by omega)
    simp [readChar, hone, octetsOfChar, hcode, hfirst]
  · exact octetsOfChar_readChar_two htwo hfirst h
  · exact octetsOfChar_readChar_three hthree hfirst h
  · exact octetsOfChar_readChar_four hfour hfirst h
  · simp [readChar, hnone] at h

/-- Octets that carry a character in front start with the octets of the one that is read. -/
theorem octetsOfChar_of_carries {first : Nat} {rest : List Nat} (h : carries first rest = true) :
    octetsOfChar (readChar first rest).1 = first :: rest.take (readChar first rest).2 := by
  by_cases hread : (readChar first rest).1 = replacement
  · -- The replacement character itself is read from its own octets.
    have htake : (first :: rest).take 3 = octetsOfChar replacement := by
      simpa [carries, hread] using h
    obtain ⟨begins, more, hoctets, hmore⟩ := readChar_octetsOfChar replacement (rest.drop 2)
    rw [List.take_succ_cons, hoctets, List.cons.injEq] at htake
    obtain ⟨rfl, hrest⟩ := htake
    rw [← hrest, List.take_append_drop] at hmore
    have hlength : (rest.take 2).length = 2 := by
      rw [hrest]
      exact Nat.succ.inj (congrArg List.length hoctets).symm
    rw [hread, hoctets, hmore, ← hrest, hlength]
  · exact octetsOfChar_readChar hread

/-- The octets of a character carry it in front, whatever follows them. -/
theorem carries_of_octetsOfChar {c : Char} {first : Nat} {more : List Nat}
    (hoctets : octetsOfChar c = first :: more) (rest : List Nat) :
    carries first (more ++ rest) = true ∧ (readChar first (more ++ rest)).2 = more.length := by
  obtain ⟨begins, others, hothers, hread⟩ := readChar_octetsOfChar c rest
  rw [hoctets, List.cons.injEq] at hothers
  obtain ⟨rfl, rfl⟩ := hothers
  refine ⟨?_, by rw [hread]⟩
  rw [carries, hread, Bool.or_eq_true, bne_iff_ne, beq_iff_eq]
  by_cases hc : c = replacement
  · subst hc
    have hlength : (octetsOfChar replacement).length = 3 := by decide
    exact .inr (by rw [← List.cons_append, ← hoctets, ← hlength, List.take_left])
  · exact .inl hc

/-! ## Texts -/

/-- Octets that belong to a character already read are passed over. -/
theorem faultFrom_eq (index skip : Nat) (octets : List Nat) :
    faultFrom index skip octets = faultFrom (index + skip) 0 (octets.drop skip) := by
  induction skip generalizing index octets with
  | zero => rfl
  | succ skip ih =>
    cases octets with
    | nil => rfl
    | cons octet rest =>
      rw [faultFrom, ih, List.drop_succ_cons, Nat.add_assoc, Nat.add_comm 1]

/-- The octets of a text have no fault. -/
theorem faultFrom_toOctets (index : Nat) (cs : List Char) : faultFrom index 0 (toOctets cs) = none := by
  induction cs generalizing index with
  | nil => rfl
  | cons c cs ih =>
    obtain ⟨first, more, hoctets, -⟩ := readChar_octetsOfChar c []
    obtain ⟨hcarries, hmore⟩ := carries_of_octetsOfChar hoctets (toOctets cs)
    rw [toOctets_cons, hoctets, List.cons_append, faultFrom, if_pos hcarries, hmore, faultFrom_eq,
      List.drop_left]
    exact ih _

/-- Octets without a fault are those of a text. -/
theorem exists_toOctets_eq {octets : List Nat} {index : Nat} (h : faultFrom index 0 octets = none) :
    ∃ cs, toOctets cs = octets := by
  induction hlength : octets.length using Nat.strongRecOn generalizing octets index with
  | ind length ih =>
    cases octets with
    | nil => exact ⟨[], rfl⟩
    | cons first rest =>
      rw [faultFrom] at h
      split_ifs at h with hcarries
      · rw [faultFrom_eq] at h
        have hshorter : (rest.drop (readChar first rest).2).length < length := by
          rw [← hlength, List.length_drop, List.length_cons]
          omega
        obtain ⟨cs, hcs⟩ := ih _ hshorter h rfl
        refine ⟨(readChar first rest).1 :: cs, ?_⟩
        rw [toOctets_cons, octetsOfChar_of_carries hcarries, hcs, List.cons_append,
          List.take_append_drop]

/-- Octets have no fault exactly if they are those of a text. -/
theorem fault?_eq_none_iff {octets : List Nat} : fault? octets = none ↔ ∃ cs, toOctets cs = octets := by
  constructor
  · exact exists_toOctets_eq
  · rintro ⟨cs, rfl⟩
    exact faultFrom_toOctets 0 cs

/-- Octets without a fault are those of the text that is read from them. -/
theorem toOctets_ofOctets {octets : List Nat} (h : fault? octets = none) :
    toOctets (ofOctets octets) = octets := by
  obtain ⟨cs, rfl⟩ := fault?_eq_none_iff.mp h
  rw [ofOctets_toOctets]

/-- A surrogate is no character, although its octets have the form of one. -/
example : fault? [0xED, 0xA0, 0x80] = some ⟨0, some 1⟩ := by decide

end Roster.Text
