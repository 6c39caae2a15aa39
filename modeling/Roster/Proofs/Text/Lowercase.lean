import Roster.Text.Lowercase

/-!
# Lower case of a part of a text

Lower case is written character by character, and what becomes of a character does not depend on
where it stands, but for the capital sigma: it asks whether it ends its word. So a part of a text
has the same lower case on its own and in its place exactly when its capital sigmas are decided
alike in both.

The main result tells which texts keep their lower case wherever they stand. What stands around a
text is seen past its outermost sigmas only, and only by those with nothing but ignorable characters
on that side.
-/

namespace Roster.Text

/-- Whether a capital sigma ends its word, given what stands before it, in reverse, and after it. -/
def endsWord (before after : List Char) : Bool :=
  casedAhead before && !casedAhead after

/-- The lower case of a capital sigma that ends its word, or does not. -/
def lowerSigma (ends : Bool) : Char :=
  if ends then 'ς' else 'σ'

/-- Lower case of a part of a text, given what stands before it, in reverse, and after it. -/
def lowerWithin : List Char → List Char → List Char → List Char
  | _, [], _ => []
  | before, c :: rest, after =>
    (if c = 'Σ' then [lowerSigma (endsWord before (rest ++ after))] else lower [c]) ++
      lowerWithin (c :: before) rest after

/-- For each capital sigma of a part of a text, whether it ends its word. -/
def wordEnds : List Char → List Char → List Char → List Bool
  | _, [], _ => []
  | before, c :: rest, after =>
    if c = 'Σ' then endsWord before (rest ++ after) :: wordEnds (c :: before) rest after
    else wordEnds (c :: before) rest after

/-! ## Parts -/

/-- Lower case of a text begins with that of its first character. -/
theorem lowerAfter_cons (before : List Char) (c : Char) (rest : List Char) :
    lowerAfter before (c :: rest) =
      (if c = 'Σ' then [lowerSigma (endsWord before rest)] else lower [c]) ++
        lowerAfter (c :: before) rest := by
  have hsigma : (c.toNat == 0x3A3) = decide (c = 'Σ') := by
    rw [Bool.eq_iff_iff, beq_iff_eq, decide_eq_true_iff]
    exact Char.toNat_inj (d := 'Σ')
  rw [lowerAfter, lower, lowerAfter, lowerAfter, hsigma]
  by_cases hc : c = 'Σ'
  · simp only [hc, decide_true, if_true]
    rfl
  · simp only [hc, decide_false, if_false, Bool.false_eq_true, List.append_nil]

/-- Lower case of a text is that of a part and then that of what follows it. -/
theorem lowerAfter_append (before cs after : List Char) :
    lowerAfter before (cs ++ after) =
      lowerWithin before cs after ++ lowerAfter (cs.reverse ++ before) after := by
  induction cs generalizing before with
  | nil => rfl
  | cons c rest ih =>
    rw [List.cons_append, lowerAfter_cons, ih, lowerWithin, List.append_assoc, List.reverse_cons,
      List.append_assoc, List.singleton_append]

/-- With nothing after it, a part is the rest of its text. -/
theorem lowerWithin_nil (before cs : List Char) : lowerWithin before cs [] = lowerAfter before cs := by
  have happend := lowerAfter_append before cs []
  rw [List.append_nil] at happend
  rw [happend, lowerAfter, List.append_nil]

/-- A part has the same lower case in two places exactly when its capital sigmas are decided alike
there. -/
theorem lowerWithin_eq_iff {before before' cs after after' : List Char} :
    lowerWithin before cs after = lowerWithin before' cs after' ↔
      wordEnds before cs after = wordEnds before' cs after' := by
  induction cs generalizing before before' with
  | nil => simp [lowerWithin, wordEnds]
  | cons c rest ih =>
    by_cases hc : c = 'Σ'
    · have hwritten (a b : Bool) : lowerSigma a = lowerSigma b ↔ a = b := by
        cases a <;> cases b <;> decide
      simp only [lowerWithin, wordEnds, hc, if_true, List.singleton_append, List.cons.injEq, ih,
        hwritten]
    · simp only [lowerWithin, wordEnds, hc, if_false, List.append_cancel_left_eq, ih]

/-- Each capital sigma of a part that is decided one way is missing among those written the other
way. -/
theorem count_lowerWithin (before before' cs after after' : List Char) (ends : Bool) :
    (lowerWithin before cs after).count (lowerSigma !ends) + (wordEnds before cs after).count ends =
      (lowerWithin before' cs after').count (lowerSigma !ends) +
        (wordEnds before' cs after').count ends := by
  induction cs generalizing before before' with
  | nil => rfl
  | cons c rest ih =>
    have hrest := ih (c :: before) (c :: before')
    by_cases hc : c = 'Σ'
    · have hone (e : Bool) :
          ((if lowerSigma e == lowerSigma !ends then 1 else 0) + if e == ends then 1 else 0) = 1 := by
        cases e <;> cases ends <;> decide
      have hleft := hone (endsWord before (rest ++ after))
      have hright := hone (endsWord before' (rest ++ after'))
      rw [hc] at hrest
      simp only [lowerWithin, wordEnds, hc, if_true, List.singleton_append, List.count_cons]
      omega
    · simp only [lowerWithin, wordEnds, hc, if_false, List.count_append]
      omega

/-! ## What a sigma sees -/

/-- Nothing is seen past a character that case does not ignore. -/
theorem casedAhead_append (cs ds : List Char) :
    casedAhead (cs ++ ds) = if cs.all isCaseIgnorable then casedAhead ds else casedAhead cs := by
  induction cs with
  | nil => rfl
  | cons c rest ih =>
    cases hc : isCaseIgnorable c with
    | true => simp only [List.cons_append, casedAhead, List.all_cons, hc, if_true, Bool.true_and, ih]
    | false => simp [casedAhead, hc]

/-- Characters that case ignores show no cased one. -/
theorem casedAhead_of_ignorable {cs : List Char} (h : cs.all isCaseIgnorable = true) :
    casedAhead cs = false := by
  have hnil := casedAhead_append cs []
  rwa [List.append_nil, if_pos h] at hnil

/-- A letter behind ignorable characters is seen. -/
theorem casedAhead_append_letter {cs : List Char} (h : cs.all isCaseIgnorable = true) :
    casedAhead (cs ++ ['a']) = true := by
  rw [casedAhead_append, if_pos h]
  decide +kernel

/-- Case does not ignore a capital sigma. -/
theorem isCaseIgnorable_sigma : isCaseIgnorable 'Σ' = false := by
  decide +kernel

/-- A capital sigma is cased, so nothing is seen past it. -/
theorem casedAhead_sigma (cs ds : List Char) :
    casedAhead (cs ++ 'Σ' :: ds) = casedAhead (cs ++ ['Σ']) := by
  have hcased (ds : List Char) : casedAhead ('Σ' :: ds) = isCased 'Σ' := by
    rw [casedAhead, isCaseIgnorable_sigma]
    rfl
  rw [casedAhead_append, casedAhead_append, hcased, hcased]

/-- A sigma is settled by its own text when what stands around the text cannot change whether it
ends its word: with nothing but ignorable characters before it a cased one follows, and with nothing
but ignorable characters after it no cased one precedes. -/
def Settled (before after : List Char) : Prop :=
  (before.all isCaseIgnorable = true → casedAhead after = true) ∧
    (after.all isCaseIgnorable = true → casedAhead before = false)

/-- A settled sigma is decided alike whatever stands around its text. -/
theorem Settled.endsWord_append {before after : List Char} (h : Settled before after)
    (further beyond : List Char) :
    endsWord (before ++ further) (after ++ beyond) = endsWord before after := by
  obtain ⟨hbefore, hafter⟩ := h
  simp only [endsWord, casedAhead_append]
  by_cases hb : before.all isCaseIgnorable = true
  · have hcased := hbefore hb
    have ha : ¬after.all isCaseIgnorable = true := fun ha => by
      simp [casedAhead_of_ignorable ha] at hcased
    simp [ha, hcased]
  · by_cases ha : after.all isCaseIgnorable = true
    · simp [hb, hafter ha]
    · simp [hb, ha]

/-! ## Where the sigmas of a text end words -/

/-- Ignorable characters are no sigmas. -/
theorem wordEnds_of_ignorable {before cs after : List Char} (h : cs.all isCaseIgnorable = true) :
    wordEnds before cs after = [] := by
  induction cs generalizing before with
  | nil => rfl
  | cons c rest ih =>
    rw [List.all_cons, Bool.and_eq_true] at h
    have hc : c ≠ 'Σ' := by
      rintro rfl
      simp [isCaseIgnorable_sigma] at h
    rw [wordEnds, if_neg hc, ih h.2]

theorem wordEnds_append (before cs ds after : List Char) :
    wordEnds before (cs ++ ds) after =
      wordEnds before cs (ds ++ after) ++ wordEnds (cs.reverse ++ before) ds after := by
  induction cs generalizing before with
  | nil => rfl
  | cons c rest ih =>
    simp only [List.cons_append, wordEnds, ih, List.reverse_cons, List.append_assoc]
    split <;> rfl

/-- Sigmas do not see past a sigma before them. -/
theorem wordEnds_after_sigma (between before cs after : List Char) :
    wordEnds (between ++ 'Σ' :: before) cs after = wordEnds (between ++ ['Σ']) cs after := by
  induction cs generalizing between with
  | nil => rfl
  | cons c rest ih =>
    have hrest := ih (c :: between)
    simp only [List.cons_append] at hrest
    simp only [wordEnds, endsWord, casedAhead_sigma between before, hrest]

/-- Sigmas do not see past a sigma after them. -/
theorem wordEnds_before_sigma (before cs after : List Char) :
    wordEnds before cs ('Σ' :: after) = wordEnds before cs ['Σ'] := by
  induction cs generalizing before with
  | nil => rfl
  | cons c rest ih => simp only [wordEnds, endsWord, casedAhead_sigma rest after, ih]

/-- A capital sigma shields those on one side of it from what stands on the other. -/
theorem wordEnds_around (before front rest after : List Char) :
    wordEnds before (front ++ 'Σ' :: rest) after =
      wordEnds before front ['Σ'] ++
        endsWord (front.reverse ++ before) (rest ++ after) :: wordEnds ['Σ'] rest after := by
  have hrest := wordEnds_after_sigma [] (front.reverse ++ before) rest after
  simp only [List.nil_append] at hrest
  rw [wordEnds_append, List.cons_append, wordEnds_before_sigma, wordEnds, if_pos rfl, hrest]

/-! ## Steady texts -/

/-- A text is steady when it settles each of its capital sigmas. -/
def Steady (cs : List Char) : Prop :=
  ∀ front rest, cs = front ++ 'Σ' :: rest → Settled front.reverse rest

/-- A text without a capital sigma is steady. -/
theorem steady_of_not_mem {cs : List Char} (h : 'Σ' ∉ cs) : Steady cs := by
  rintro front rest rfl
  simp at h

/-- Settled sigmas are decided alike whatever stands around their text. -/
theorem wordEnds_of_settled {passed cs : List Char}
    (h : ∀ front rest, cs = front ++ 'Σ' :: rest → Settled (front.reverse ++ passed) rest)
    (before after : List Char) : wordEnds (passed ++ before) cs after = wordEnds passed cs [] := by
  induction cs generalizing passed with
  | nil => rfl
  | cons c rest ih =>
    have hrest : wordEnds (c :: passed ++ before) rest after = wordEnds (c :: passed) rest [] := by
      refine ih fun front ds hds => ?_
      have hsettled := h (c :: front) ds (by rw [hds, List.cons_append])
      rwa [List.reverse_cons, List.append_assoc, List.singleton_append] at hsettled
    rw [List.cons_append] at hrest
    by_cases hc : c = 'Σ'
    · have hsettled : Settled passed rest := h [] rest (by rw [hc, List.nil_append])
      simp only [wordEnds, hc, if_true, hsettled.endsWord_append, List.append_nil]
      rw [← hc, hrest]
    · simp only [wordEnds, hc, if_false, hrest]

/-- A steady text has the same lower case wherever it stands. -/
theorem Steady.lowerWithin_eq {cs : List Char} (h : Steady cs) (before after : List Char) :
    lowerWithin before cs after = lower cs := by
  rw [lower, ← lowerWithin_nil, lowerWithin_eq_iff]
  have hsettled : ∀ front rest, cs = front ++ 'Σ' :: rest → Settled (front.reverse ++ []) rest := by
    intro front rest hcs
    rw [List.append_nil]
    exact h front rest hcs
  have hends := wordEnds_of_settled hsettled before after
  rwa [List.nil_append] at hends

/-- The lower case of a part in its place is part of the lower case of the text. -/
theorem lowerWithin_infix (before cs after : List Char) :
    lowerWithin before.reverse cs after <:+: lower (before ++ cs ++ after) := by
  rw [lower, List.append_assoc, lowerAfter_append, lowerAfter_append, List.append_nil,
    ← List.append_assoc]
  exact List.infix_append _ _ _

/-- A sigma that begins a text, but for ignorable characters, and is not followed by a cased one,
ends its word when a letter stands before the text. -/
theorem not_infix_after_letter {front rest : List Char}
    (hfront : front.reverse.all isCaseIgnorable = true) (hrest : casedAhead rest = false) :
    ¬lower (front ++ 'Σ' :: rest) <:+: lower ('a' :: (front ++ 'Σ' :: rest)) := by
  intro hinfix
  have hignorable : front.all isCaseIgnorable = true := by rwa [List.all_reverse] at hfront
  have hletter : lower ('a' :: (front ++ 'Σ' :: rest)) =
      'a' :: lowerWithin ['a'] (front ++ 'Σ' :: rest) [] := by
    rw [lowerWithin_nil]
    rfl
  have hcount := count_lowerWithin ['a'] [] (front ++ 'Σ' :: rest) [] [] true
  rw [lowerWithin_nil [], ← lower] at hcount
  simp only [wordEnds_around, wordEnds_of_ignorable hignorable, List.append_nil, List.nil_append,
    endsWord, casedAhead_append_letter hfront, casedAhead_of_ignorable hfront, hrest, Bool.not_false,
    Bool.and_true, List.count_cons_self, List.count_cons_of_ne Bool.false_ne_true] at hcount
  have hle := hinfix.sublist.count_le (lowerSigma !true)
  rw [hletter, List.count_cons_of_ne (by decide)] at hle
  omega

/-- A sigma that ends a text, but for ignorable characters, and its word, no longer ends the word
when a letter stands after the text. -/
theorem not_infix_before_letter {front rest : List Char}
    (hrest : rest.all isCaseIgnorable = true) (hfront : casedAhead front.reverse = true) :
    ¬lower (front ++ 'Σ' :: rest) <:+: lower (front ++ 'Σ' :: rest ++ ['a']) := by
  intro hinfix
  have hletter : lower (front ++ 'Σ' :: rest ++ ['a']) =
      lowerWithin [] (front ++ 'Σ' :: rest) ['a'] ++ ['a'] := lowerAfter_append _ _ _
  have hcount := count_lowerWithin [] [] (front ++ 'Σ' :: rest) ['a'] [] false
  rw [lowerWithin_nil [], ← lower] at hcount
  simp only [wordEnds_around, wordEnds_of_ignorable hrest, List.append_nil, endsWord,
    casedAhead_append_letter hrest, hfront, casedAhead_of_ignorable hrest, Bool.not_true,
    Bool.not_false, Bool.and_false, Bool.and_true, List.count_append, List.count_cons_self,
    List.count_cons_of_ne Bool.false_ne_true.symm] at hcount
  have hle := hinfix.sublist.count_le (lowerSigma true)
  rw [hletter, List.count_append, List.count_eq_zero_of_not_mem (by decide : _ ∉ ['a'])] at hle
  omega

/-- A text is found in lower case in every text that contains it exactly when it is steady. -/
theorem infix_lower_iff_steady (cs : List Char) :
    (∀ text, cs <:+: text → lower cs <:+: lower text) ↔ Steady cs := by
  constructor
  · rintro hfound front rest rfl
    constructor
    · intro hfront
      cases hrest : casedAhead rest with
      | true => rfl
      | false =>
        have hsuffix := List.suffix_cons 'a' (front ++ 'Σ' :: rest)
        exact absurd (hfound _ hsuffix.isInfix) (not_infix_after_letter hfront hrest)
    · intro hrest
      cases hfront : casedAhead front.reverse with
      | false => rfl
      | true =>
        have hprefix := List.prefix_append (front ++ 'Σ' :: rest) ['a']
        exact absurd (hfound _ hprefix.isInfix) (not_infix_before_letter hrest hfront)
  · rintro hsteady _ ⟨before, after, rfl⟩
    rw [← hsteady.lowerWithin_eq before.reverse after]
    exact lowerWithin_infix before cs after

end Roster.Text
