import Roster.Text.Octets

/-!
# Octets there and back

The octets of a text carry that text and no other: reading them gives it back, character by
character. A character that is no surrogate has one to four octets, and the first of them tells how
many follow.
-/

namespace Roster.Text

/-- The code of a character lies below the surrogates or beyond them. -/
theorem toNat_valid (c : Char) : c.toNat < 0xD800 ∨ 0xDFFF < c.toNat ∧ c.toNat < 0x110000 :=
  c.valid

/-- Every octet is less than 256. -/
theorem lt_of_mem_octetsOfChar {c : Char} {n : Nat} (h : n ∈ octetsOfChar c) : n < 0x100 := by
  have hvalid := toNat_valid c
  unfold octetsOfChar at h
  simp only at h
  split at h
  · simp only [List.mem_singleton] at h
    omega
  · split at h
    · simp only [List.mem_cons, List.not_mem_nil, or_false] at h
      omega
    · split at h
      · simp only [List.mem_cons, List.not_mem_nil, or_false] at h
        omega
      · simp only [List.mem_cons, List.not_mem_nil, or_false] at h
        omega

/-! ## One character -/

/-- An octet that continues a character. -/
theorem isContinuation_add {n : Nat} (h : n < 0x40) : isContinuation (0x80 + n) = true := by
  simp only [isContinuation, Bool.and_eq_true, decide_eq_true_eq]
  omega

/-- The second octet of a character of three octets lies in the range that the first one asks for. -/
theorem secondRange_three {n : Nat} (hlow : 0x800 ≤ n) (hhigh : n < 0x10000)
    (hvalid : n < 0xD800 ∨ 0xDFFF < n) :
    (secondRange (0xE0 + n / 0x1000)).1 ≤ 0x80 + n / 0x40 % 0x40 ∧
      0x80 + n / 0x40 % 0x40 ≤ (secondRange (0xE0 + n / 0x1000)).2 := by
  simp only [secondRange, beq_iff_eq]
  split
  · simp only
    omega
  · split
    · simp only
      omega
    · split
      · omega
      · split
        · omega
        · simp only
          omega

/-- The second octet of a character of four octets lies in the range that the first one asks for. -/
theorem secondRange_four {n : Nat} (hlow : 0x10000 ≤ n) (hhigh : n < 0x110000) :
    (secondRange (0xF0 + n / 0x40000)).1 ≤ 0x80 + n / 0x1000 % 0x40 ∧
      0x80 + n / 0x1000 % 0x40 ≤ (secondRange (0xF0 + n / 0x40000)).2 := by
  simp only [secondRange, beq_iff_eq]
  split
  · omega
  · split
    · omega
    · split
      · simp only
        omega
      · split
        · simp only
          omega
        · simp only
          omega

/-- A character of one octet is read from it. -/
theorem readChar_one {n : Nat} (h : n < 0x80) (rest : List Nat) :
    readChar n rest = (Char.ofNat n, 0) := by
  have hlength : lengthFrom n = 1 := by simp [lengthFrom, h]
  simp [readChar, hlength]

/-- A character of two octets is read from them. -/
theorem readChar_two {n : Nat} (hlow : 0x80 ≤ n) (hhigh : n < 0x800) (rest : List Nat) :
    readChar (0xC0 + n / 0x40) ((0x80 + n % 0x40) :: rest) = (Char.ofNat n, 1) := by
  have hlength : lengthFrom (0xC0 + n / 0x40) = 2 := by
    unfold lengthFrom
    rw [if_neg (by omega), if_pos (by simp; omega)]
  have hsecond := isContinuation_add (n := n % 0x40) (by omega)
  have hcode : (0xC0 + n / 0x40 - 0xC0) * 0x40 + (0x80 + n % 0x40 - 0x80) = n := by omega
  simp only [readChar, hlength, hsecond, if_true, hcode]

/-- A character of three octets is read from them. -/
theorem readChar_three {n : Nat} (hlow : 0x800 ≤ n) (hhigh : n < 0x10000)
    (hvalid : n < 0xD800 ∨ 0xDFFF < n) (rest : List Nat) :
    readChar (0xE0 + n / 0x1000) ((0x80 + n / 0x40 % 0x40) :: (0x80 + n % 0x40) :: rest) =
      (Char.ofNat n, 2) := by
  have hlength : lengthFrom (0xE0 + n / 0x1000) = 3 := by
    unfold lengthFrom
    rw [if_neg (by omega), if_neg (by simp; omega), if_pos (by simp; omega)]
  have hsecond := secondRange_three hlow hhigh hvalid
  have hthird := isContinuation_add (n := n % 0x40) (by omega)
  have hcode : (0xE0 + n / 0x1000 - 0xE0) * 0x1000 + (0x80 + n / 0x40 % 0x40 - 0x80) * 0x40 +
      (0x80 + n % 0x40 - 0x80) = n := by omega
  simp only [readChar, hlength, hsecond, hthird, decide_true, Bool.and_self, if_true, hcode]

/-- A character of four octets is read from them. -/
theorem readChar_four {n : Nat} (hlow : 0x10000 ≤ n) (hhigh : n < 0x110000) (rest : List Nat) :
    readChar (0xF0 + n / 0x40000)
        ((0x80 + n / 0x1000 % 0x40) :: (0x80 + n / 0x40 % 0x40) :: (0x80 + n % 0x40) :: rest) =
      (Char.ofNat n, 3) := by
  have hlength : lengthFrom (0xF0 + n / 0x40000) = 4 := by
    unfold lengthFrom
    rw [if_neg (by omega), if_neg (by simp; omega), if_neg (by simp; omega),
      if_pos (by simp; omega)]
  have hsecond := secondRange_four hlow hhigh
  have hthird := isContinuation_add (n := n / 0x40 % 0x40) (by omega)
  have hfourth := isContinuation_add (n := n % 0x40) (by omega)
  have hcode : (0xF0 + n / 0x40000 - 0xF0) * 0x40000 + (0x80 + n / 0x1000 % 0x40 - 0x80) * 0x1000 +
      (0x80 + n / 0x40 % 0x40 - 0x80) * 0x40 + (0x80 + n % 0x40 - 0x80) = n := by omega
  simp only [readChar, hlength, hsecond, hthird, hfourth, decide_true, Bool.and_self, if_true,
    hcode]

/-- The first octet of a character tells how many follow, and with them it gives the character. -/
theorem readChar_octetsOfChar (c : Char) (rest : List Nat) :
    ∃ first more, octetsOfChar c = first :: more ∧
      readChar first (more ++ rest) = (c, more.length) := by
  have hvalid := toNat_valid c
  have hc : Char.ofNat c.toNat = c := Char.ofNat_toNat c
  unfold octetsOfChar
  simp only
  split
  · rename_i hone
    exact ⟨_, [], rfl, (readChar_one hone rest).trans (by rw [hc]; rfl)⟩
  · rename_i hone
    split
    · rename_i htwo
      exact ⟨_, [_], rfl, (readChar_two (by omega) htwo rest).trans (by rw [hc]; rfl)⟩
    · rename_i htwo
      split
      · rename_i hthree
        exact ⟨_, [_, _], rfl,
          (readChar_three (by omega) hthree (by omega) rest).trans (by rw [hc]; rfl)⟩
      · rename_i hthree
        exact ⟨_, [_, _, _], rfl,
          (readChar_four (by omega) (by omega) rest).trans (by rw [hc]; rfl)⟩

/-! ## Texts -/

/-- Octets that belong to a character already read are skipped. -/
theorem ofOctetsAfter_length (more rest : List Nat) :
    ofOctetsAfter more.length (more ++ rest) = ofOctets rest := by
  induction more with
  | nil => rfl
  | cons octet more ih => exact ih

/-- The octets of a character are read as that character. -/
theorem ofOctets_octetsOfChar (c : Char) (rest : List Nat) :
    ofOctets (octetsOfChar c ++ rest) = c :: ofOctets rest := by
  obtain ⟨first, more, hoctets, hread⟩ := readChar_octetsOfChar c rest
  rw [hoctets, List.cons_append, ofOctets, ofOctetsAfter, hread]
  exact congrArg (c :: ·) (ofOctetsAfter_length more rest)

/-- Octets that start with those of a text are read as that text and more. -/
theorem ofOctets_toOctets_append (cs : List Char) (rest : List Nat) :
    ofOctets (toOctets cs ++ rest) = cs ++ ofOctets rest := by
  induction cs with
  | nil => rfl
  | cons c cs ih =>
    rw [toOctets_cons, List.append_assoc, ofOctets_octetsOfChar, ih, List.cons_append]

/-- The octets of a text are read as that text. -/
theorem ofOctets_toOctets (cs : List Char) : ofOctets (toOctets cs) = cs := by
  have hnil : ofOctets [] = [] := rfl
  have happend := ofOctets_toOctets_append cs []
  rwa [List.append_nil, hnil, List.append_nil] at happend

end Roster.Text
