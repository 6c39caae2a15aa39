import Roster.Proofs.Json.Reading
import Roster.Proofs.Text.Digits

/-!
# Reading numbers

A whole number of 64 bits is read as it is written. Whatever else is read as a number, the reader
looks no further than the number goes: what may follow a value changes nothing. So a double that is
read back from its own text is read back inside a document.
-/

namespace Roster.Json.Reader

variable {α β : Type}

/-! ## What ends a number -/

/-- What follows a value is none of the characters that continue a number. -/
theorem Ends.head_beq {rest : List Char} (h : Ends rest) {c : Char}
    (hc : c ≠ ',' ∧ c ≠ ']' ∧ c ≠ '\x7d') : (rest.head? == some c) = false := by
  rw [beq_eq_false_iff_ne]
  intro heq
  obtain hc' | hc' | hc' := h c heq
  · exact hc.1 hc'
  · exact hc.2.1 hc'
  · exact hc.2.2 hc'

/-- What follows a value is no exponent. -/
theorem Ends.not_exponent {rest : List Char} (h : Ends rest) :
    (rest.head? == some 'e' || rest.head? == some 'E') = false := by
  rw [h.head_beq (by decide), h.head_beq (by decide), Bool.or_false]

/-- What follows a value does not begin with a digit. -/
theorem Ends.isDigit {rest : List Char} (h : Ends rest) {c : Char} (hc : c ∈ rest.head?) :
    c.isDigit = false := by
  obtain rfl | rfl | rfl := h c hc <;> decide

/-- What follows a value is no digit. -/
theorem Ends.not_digit {rest : List Char} (h : Ends rest) :
    ¬(rest.head?.map Char.isDigit).getD false = true := by
  cases hhead : rest.head? with
  | none => simp
  | some c => simp [h.isDigit hhead]

/-- A run of digits goes no further than before. -/
theorem Ends.dropWhile_isDigit {rest : List Char} (h : Ends rest) (cs : List Char) :
    (cs ++ rest).dropWhile Char.isDigit = cs.dropWhile Char.isDigit ++ rest := by
  have hrest : rest.dropWhile Char.isDigit = rest := by
    cases rest with
    | nil => rfl
    | cons c rest => simp [h.isDigit (c := c) rfl]
  rw [List.dropWhile_append, hrest]
  split
  · rename_i hnone
    rw [List.isEmpty_iff.mp hnone, List.nil_append]
  · rfl

/-- A run of digits is as long as before. -/
theorem Ends.takeWhile_isDigit {rest : List Char} (h : Ends rest) (cs : List Char) :
    (cs ++ rest).takeWhile Char.isDigit = cs.takeWhile Char.isDigit := by
  refine List.append_cancel_right (?_ : _ ++ (cs ++ rest).dropWhile Char.isDigit = _)
  rw [List.takeWhile_append_dropWhile, h.dropWhile_isDigit, ← List.append_assoc,
    List.takeWhile_append_dropWhile]

/-- The digits of a significand go no further than before. -/
theorem Ends.significandDigits {rest : List Char} (h : Ends rest) (significand count : Nat)
    (cs : List Char) :
    significandDigits significand count (cs ++ rest) =
      ((Reader.significandDigits significand count cs).1,
        (Reader.significandDigits significand count cs).2 ++ rest) := by
  induction cs generalizing significand count with
  | nil =>
    cases rest with
    | nil => rfl
    | cons c rest => simp [Reader.significandDigits, h.isDigit (c := c) rfl]
  | cons c cs ih =>
    simp only [List.cons_append, Reader.significandDigits]
    split_ifs
    · rfl
    · exact ih _ _
    · rfl

/-! ## Readers that look no further -/

/-- A reader looks no further than a text when whatever follows a value may stand behind it. -/
def Stable (reader : Reader α) : Prop :=
  ∀ ⦃cs a r⦄, reader cs = .ok (a, r) → ∀ ⦃rest⦄, Ends rest →
    reader (cs ++ rest) = .ok (a, r ++ rest)

theorem stable_pure (a : α) : Stable (pure a : Reader α) := by
  rintro cs _ _ ⟨⟩ rest _
  rfl

theorem stable_fail (e : ReadError) : Stable (fail e : Reader α) := fun _ _ _ h => nomatch h

theorem stable_takeOr (e : ReadError) : Stable (takeOr e) := by
  intro cs c r h rest _
  cases cs with
  | nil => cases h
  | cons c cs =>
    obtain ⟨rfl, rfl⟩ := Prod.mk.inj (Except.ok.inj h)
    rfl

theorem stable_dropDigits : Stable dropDigits := by
  rintro cs _ _ ⟨⟩ rest hrest
  simp only [dropDigits, hrest.takeWhile_isDigit, hrest.dropWhile_isDigit]

/-- A run of digits may be taken off the front. -/
theorem stable_takeDigits {f : List Char → Reader α} (hf : ∀ digits, Stable (f digits)) :
    Stable (do
      let cs ← get
      set (cs.dropWhile Char.isDigit)
      f (cs.takeWhile Char.isDigit)) := by
  intro cs a r h rest hrest
  rw [bind_ok (get_apply _), bind_ok (set_apply _ _)] at h ⊢
  rw [hrest.takeWhile_isDigit, hrest.dropWhile_isDigit]
  exact hf _ h hrest

/-- One after the other, such readers look no further either. -/
theorem Stable.bind {x : Reader α} {f : α → Reader β} (hx : Stable x) (hf : ∀ a, Stable (f a)) :
    Stable (x >>= f) := by
  intro cs b r h rest hrest
  rw [bind_apply] at h
  cases hfirst : x cs with
  | error e => simp [hfirst, Except.bind] at h
  | ok p =>
    rw [hfirst] at h
    rw [bind_ok (hx hfirst hrest)]
    exact hf p.1 h hrest

/-- A reader may go on behind a mark, which cannot begin what follows a value, as long as it does not
tell apart what can. -/
theorem stable_peek {marks : Option Char → Bool} {marked plain : Option Char → Reader α}
    (hmarks : ∀ rest, Ends rest → marks rest.head? = false)
    (hends : ∀ rest, Ends rest → plain rest.head? = plain none)
    (hmarked : ∀ c, Stable (marked c)) (hplain : ∀ c, Stable (plain c)) :
    Stable (do
      let c ← peek
      if marks c then do skip; marked c else plain c) := by
  have hunmarked {rest : List Char} (hrest : Ends rest) : ¬marks rest.head? = true := by
    rw [hmarks rest hrest]
    exact Bool.false_ne_true
  intro cs a r h rest hrest
  rw [bind_ok (peek_apply _)] at h ⊢
  cases cs with
  | nil =>
    rw [if_neg (hunmarked ends_nil)] at h
    rw [List.nil_append, if_neg (hunmarked hrest), hends rest hrest]
    exact hplain none h hrest
  | cons c cs =>
    by_cases hc : marks (some c) = true
    · rw [List.head?_cons, if_pos hc] at h
      rw [List.cons_append, List.head?_cons, if_pos hc]
      exact hmarked (some c) h hrest
    · rw [List.head?_cons, if_neg hc] at h
      rw [List.cons_append, List.head?_cons, if_neg hc]
      exact hplain (some c) h hrest

/-! ## Doubles -/

theorem stable_realOf (positive : Bool) (significand : Nat) (exponent : Int) :
    Stable (realOf positive significand exponent) := by
  unfold realOf
  split
  · exact stable_fail _
  · exact stable_pure _

theorem stable_withExponent (positive : Bool) (significand : Nat) (scale : Int)
    (sign : Option Char) (exponent : Nat) :
    Stable (withExponent positive significand scale sign exponent) := by
  unfold withExponent
  split
  · split
    · exact stable_fail _
    · exact stable_pure _
  · exact stable_realOf _ _ _

theorem stable_exponentDigits (positive : Bool) (significand : Nat) (scale : Int)
    (sign : Option Char) : Stable (exponentDigits positive significand scale sign) := by
  refine (stable_takeOr _).bind fun first => ?_
  split
  · exact stable_fail _
  · exact stable_takeDigits fun digits =>
      stable_withExponent positive significand scale sign (digitsValue (first :: digits))

theorem stable_exponentPart (positive : Bool) (significand : Nat) (scale : Int) :
    Stable (exponentPart positive significand scale) := by
  refine stable_peek (fun rest hrest => ?_) (fun rest hrest => ?_)
    (stable_exponentDigits positive significand scale)
    (stable_exponentDigits positive significand scale)
  · simp only [hrest.head_beq (c := '+') (by decide), hrest.head_beq (c := '-') (by decide),
      Bool.or_false]
  · have hminus : (rest.head? == some '-') = (none == some '-') :=
      hrest.head_beq (by decide)
    simp only [exponentDigits, withExponent, bne, hminus]

/-- The end of a number behind its digits. -/
theorem stable_afterFraction (positive : Bool) (significand : Nat) (scale : Int) :
    Stable (afterFraction positive significand scale) := by
  exact stable_peek (fun rest hrest => hrest.not_exponent) (fun _ _ => rfl)
    (fun _ => stable_exponentPart positive significand scale)
    (fun _ => stable_realOf positive significand scale)

theorem stable_fractionPart (positive : Bool) (significand : Nat) (scale : Int) :
    Stable (fractionPart positive significand scale) := by
  intro cs a r h rest hrest
  rw [fractionPart, bind_ok (get_apply _)] at h ⊢
  rw [hrest.significandDigits]
  generalize Reader.significandDigits significand 0 cs = read at h ⊢
  obtain ⟨⟨digits, count, full⟩, left⟩ := read
  simp only at h ⊢
  rw [bind_ok (set_apply _ _)] at h ⊢
  cases full with
  | true =>
    exact (stable_dropDigits.bind fun _ => stable_afterFraction _ _ _) h hrest
  | false =>
    simp only [Bool.false_eq_true, if_false] at h ⊢
    by_cases hcount : (count == 0) = true
    · rw [if_pos hcount] at h
      split at h <;> cases h
    · rw [if_neg hcount] at h ⊢
      exact stable_afterFraction _ _ _ h hrest

theorem stable_longInteger (positive : Bool) (significand : Nat) :
    Stable (longInteger positive significand) := by
  refine stable_dropDigits.bind fun count => ?_
  exact stable_peek (fun rest hrest => hrest.head_beq (by decide)) (fun _ _ => rfl)
    (fun _ => stable_fractionPart positive significand count)
    (fun _ => stable_afterFraction positive significand count)

theorem stable_wholeNumber (positive : Bool) (significand : Nat) :
    Stable (wholeNumber positive significand) := by
  unfold wholeNumber
  split_ifs
  · exact stable_pure _
  · exact stable_pure _
  · exact stable_pure _

/-- The marks behind a whole part may be looked for one after the other. -/
theorem afterWhole_eq (positive : Bool) (significand : Nat) :
    afterWhole positive significand = (do
      let c ← peek
      if c == some '.' then do
        skip
        fractionPart positive significand 0
      else do
        let c ← peek
        if c == some 'e' || c == some 'E' then do
          skip
          exponentPart positive significand 0
        else wholeNumber positive significand) := by
  funext cs
  rw [afterWhole, bind_ok (peek_apply _), bind_ok (peek_apply _)]
  split <;> rfl

theorem stable_afterWhole (positive : Bool) (significand : Nat) :
    Stable (afterWhole positive significand) := by
  rw [afterWhole_eq]
  refine stable_peek (fun rest hrest => hrest.head_beq (by decide)) (fun _ _ => rfl)
    (fun _ => stable_fractionPart positive significand 0) (fun _ => ?_)
  exact stable_peek (fun rest hrest => hrest.not_exponent) (fun _ _ => rfl)
    (fun _ => stable_exponentPart positive significand 0)
    (fun _ => stable_wholeNumber positive significand)

/-- Behind a leading zero no digit may stand. -/
theorem stable_afterZero (positive : Bool) :
    Stable (do
      let c ← peek
      if (c.map Char.isDigit).getD false then fail .invalidNumber else afterWhole positive 0) := by
  intro cs a r h rest hrest
  rw [bind_ok (peek_apply _)] at h ⊢
  cases cs with
  | nil =>
    rw [List.nil_append, if_neg hrest.not_digit]
    exact stable_afterWhole positive 0 h hrest
  | cons c cs =>
    by_cases hc : c.isDigit = true
    · simp [hc] at h
    · rw [List.head?_cons, if_neg (by simpa using hc)] at h
      rw [List.cons_append, List.head?_cons, if_neg (by simpa using hc)]
      exact stable_afterWhole positive 0 h hrest

theorem stable_number (positive : Bool) : Stable (number positive) := by
  refine (stable_takeOr _).bind fun first => ?_
  split
  · exact stable_afterZero positive
  · split
    · intro cs a r h rest hrest
      rw [bind_ok (get_apply _)] at h ⊢
      rw [hrest.significandDigits]
      generalize Reader.significandDigits (digitValue first) 0 cs = read at h ⊢
      obtain ⟨⟨digits, count, full⟩, left⟩ := read
      simp only at h ⊢
      rw [bind_ok (set_apply _ _)] at h ⊢
      cases full with
      | true => exact stable_longInteger positive digits h hrest
      | false => exact stable_afterWhole positive digits h hrest
    · exact stable_fail _

theorem stable_number? : Stable number? := by
  intro cs a r h rest hrest
  cases hcs : cs.dropWhile isBlank with
  | nil =>
    rw [number?, bind_ok (peekPastBlanks_of_dropWhile hcs)] at h
    cases h
  | cons c tail =>
    have hmore : (cs ++ rest).dropWhile isBlank = c :: (tail ++ rest) := by
      rw [List.dropWhile_append, hcs]
      rfl
    rw [number?, bind_ok (peekPastBlanks_of_dropWhile hcs)] at h
    rw [number?, bind_ok (peekPastBlanks_of_dropWhile hmore)]
    simp only [List.head?_cons] at h ⊢
    by_cases hminus : (c == '-') = true
    · rw [if_pos hminus] at h ⊢
      exact ((stable_number false).bind fun found => stable_pure (some found)) h hrest
    · rw [if_neg hminus] at h ⊢
      by_cases hdigit : c.isDigit = true
      · rw [if_pos hdigit] at h ⊢
        exact ((stable_number true).bind fun found => stable_pure (some found)) h hrest
      · rw [if_neg hdigit] at h ⊢
        obtain ⟨rfl, rfl⟩ := Prod.mk.inj (Except.ok.inj h)
        rfl

/-! ## Values of the wrong kind -/

/-- A reader that never succeeds. -/
def Fails (reader : Reader α) : Prop :=
  ∀ cs a r, reader cs ≠ .ok (a, r)

theorem fails_fail (e : ReadError) : Fails (fail e : Reader α) := fun _ _ _ h => nomatch h

/-- A reader that ends in failure never succeeds. -/
theorem fails_bind {x : Reader α} {f : α → Reader β} (hf : ∀ a, Fails (f a)) : Fails (x >>= f) := by
  intro cs b r h
  rw [bind_apply] at h
  cases hfirst : x cs with
  | error e => simp [hfirst, Except.bind] at h
  | ok p =>
    rw [hfirst] at h
    exact hf p.1 p.2 b r h

/-- Something else than was asked for is always refused. -/
theorem fails_unexpected (expected : String) : Fails (unexpected expected : Reader α) := by
  refine fails_bind fun c => ?_
  cases c with
  | none => exact fails_fail _
  | some c =>
    simp only
    split_ifs
    · exact fails_bind fun _ => fails_bind fun _ => fails_fail _
    · exact fails_bind fun _ => fails_bind fun _ => fails_fail _
    · exact fails_bind fun _ => fails_bind fun _ => fails_fail _
    · exact fails_bind fun _ => fails_bind fun _ => fails_fail _
    · exact fails_bind fun _ => fails_fail _
    · exact fails_bind fun _ => fails_bind fun _ => fails_fail _
    · exact fails_fail _
    · exact fails_fail _
    · exact fails_fail _

/-- A reader that never succeeds looks no further. -/
theorem Fails.stable {reader : Reader α} (h : Fails reader) : Stable reader :=
  fun cs a r hread => absurd hread (h cs a r)

theorem stable_double : Stable double := by
  refine stable_number?.bind fun found => ?_
  match found with
  | none => exact (fails_unexpected _).stable
  | some (.natural value) => exact stable_pure _
  | some (.negative value) => exact stable_pure _
  | some (.real value) => exact stable_pure _

theorem stable_signed : Stable signed := by
  refine stable_number?.bind fun found => ?_
  match found with
  | none => exact (fails_unexpected _).stable
  | some (.natural value) =>
    simp only
    split
    · exact stable_pure _
    · exact stable_fail _
  | some (.negative value) => exact stable_pure _
  | some (.real value) => exact stable_fail _

/-- A text that is read to its end is taken. -/
theorem Stable.takes {reader : Reader α} (h : Stable reader) {text : List Char} {value : α}
    (hread : reader text = .ok (value, [])) : Takes reader text value :=
  fun _ hrest => h hread hrest

/-! ## Whole numbers -/

/-- Digits are read as far as their number fits a word. -/
theorem significandDigits_of_le {digits : List Char} (h : ∀ c ∈ digits, c.isDigit = true)
    (significand count : Nat)
    (hle : digits.foldl (fun n c => n * 10 + digitValue c) significand ≤ wordMax) :
    significandDigits significand count digits =
      ((digits.foldl (fun n c => n * 10 + digitValue c) significand, count + digits.length, false),
        []) := by
  induction digits generalizing significand count with
  | nil => rfl
  | cons c digits ih =>
    have hfits : ¬wordMax < significand * 10 + digitValue c :=
      Nat.not_lt.mpr (Nat.le_trans (le_foldl_digitValue digits _) hle)
    rw [significandDigits, if_pos (h c List.mem_cons_self)]
    simp only
    rw [if_neg hfits, ih (fun c hc => h c (List.mem_cons_of_mem _ hc)) _ _ hle]
    simp only [List.foldl_cons, List.length_cons]
    congr 3
    omega

/-- The digits of a word are read as its value. -/
theorem number_toDigits (positive : Bool) {n : Nat} (h : n ≤ wordMax) :
    number positive (Nat.toDigits 10 n) = wholeNumber positive n [] := by
  rcases Nat.eq_zero_or_pos n with rfl | hpos
  · rfl
  · obtain ⟨c, digits, hdigits, hc⟩ := exists_toDigits_eq_cons hpos
    have hall : ∀ d ∈ c :: digits, d.isDigit = true := fun d hd =>
      isDigit_of_mem_toDigits (hdigits ▸ hd)
    have hvalue : digits.foldl (fun n c => n * 10 + digitValue c) (digitValue c) = n := by
      have hvalue := digitsValue_toDigits n
      rwa [hdigits, digitsValue, List.foldl_cons, Nat.zero_mul, Nat.zero_add] at hvalue
    have hread := significandDigits_of_le (fun d hd => hall d (List.mem_cons_of_mem c hd))
      (digitValue c) 0 (by rw [hvalue]; exact h)
    rw [hdigits, number, bind_ok (takeOr_cons _ _ _), if_neg (by simpa using hc),
      if_pos (hall c List.mem_cons_self), bind_ok (get_apply _), hread, hvalue]
    rfl

/-- A digit is neither a blank nor a sign, a bracket or a letter. -/
theorem ne_of_isDigit {c : Char} (h : c.isDigit = true) :
    isBlank c = false ∧ c ≠ '-' ∧ c ≠ ']' ∧ c ≠ 'n' := by
  have hne : ∀ d : Char, d.isDigit = false → c ≠ d := by
    rintro d hd rfl
    exact Bool.false_ne_true (hd.symm.trans h)
  refine ⟨?_, hne _ (by decide), hne _ (by decide), hne _ (by decide)⟩
  simp [isBlank, hne ' ' (by decide), hne '\n' (by decide), hne '\t' (by decide),
    hne '\r' (by decide)]

/-- A number is written with at least one digit. -/
theorem exists_digit_toDigits (n : Nat) :
    ∃ c digits, Nat.toDigits 10 n = c :: digits ∧ c.isDigit = true := by
  obtain ⟨c, digits, hdigits⟩ := List.exists_cons_of_ne_nil (Nat.toDigits_ne_nil (n := n) (b := 10))
  exact ⟨c, digits, hdigits, isDigit_of_mem_toDigits (hdigits ▸ List.mem_cons_self)⟩

/-- The digits of a word are a natural number. -/
theorem number?_toDigits {n : Nat} (h : n ≤ wordMax) :
    number? (Nat.toDigits 10 n) = .ok (some (.natural n), []) := by
  have hread : number true (Nat.toDigits 10 n) = .ok (.natural n, []) := number_toDigits true h
  obtain ⟨c, digits, hdigits, hc⟩ := exists_digit_toDigits n
  obtain ⟨hblank, hminus, -⟩ := ne_of_isDigit hc
  rw [hdigits] at hread ⊢
  rw [number?, bind_ok (peekPastBlanks_cons hblank digits)]
  simp only
  rw [if_neg (by simpa using hminus), if_pos hc]
  exact bind_ok hread

/-- Digits behind a minus sign are a negative number. -/
theorem number?_minus {n : Nat} (hpos : 0 < n) (h : n ≤ 0x8000000000000000) :
    number? ('-' :: Nat.toDigits 10 n) = .ok (some (.negative (-n)), []) := by
  have hword : n ≤ wordMax := Nat.le_trans h (by decide)
  have hread : number false (Nat.toDigits 10 n) = .ok (.negative (-n), []) := by
    rw [number_toDigits false hword, wholeNumber, if_neg Bool.false_ne_true,
      if_neg (by simp; omega)]
    rfl
  rw [number?, bind_ok (peekPastBlanks_cons (by decide) _)]
  exact (bind_ok (skip_apply _)).trans (bind_ok hread)

theorem written_ofNat (n : Nat) : written (.integer (.ofNat n)) = Nat.toDigits 10 n :=
  Nat.toList_repr

theorem written_negSucc (n : Nat) :
    written (.integer (.negSucc n)) = '-' :: Nat.toDigits 10 (n + 1) := by
  rw [← Nat.toList_repr]
  exact String.toList_append

theorem opens_written_integer (i : Int) : Opens (written (.integer i)) := by
  cases i with
  | ofNat n =>
    obtain ⟨c, digits, hdigits, hc⟩ := exists_digit_toDigits n
    obtain ⟨hblank, -, hbracket, hletter⟩ := ne_of_isDigit hc
    exact ⟨c, digits, (written_ofNat n).trans hdigits, hblank, hbracket, hletter⟩
  | negSucc n => exact ⟨_, _, written_negSucc n, by decide, by decide, by decide⟩

/-- Whether a whole number has 64 bits, one of them for the sign. -/
def IsLong (i : Int) : Prop :=
  -0x8000000000000000 ≤ i ∧ i < 0x8000000000000000

instance (i : Int) : Decidable (IsLong i) :=
  inferInstanceAs (Decidable (_ ∧ _))

/-- A whole number of 64 bits is read. -/
theorem reads_signed {i : Int} (h : IsLong i) : Reads signed (.integer i) i where
  opens := opens_written_integer i
  takes := by
    obtain ⟨hmin, hmax⟩ := h
    refine stable_signed.takes ?_
    cases i with
    | ofNat n =>
      simp only [Int.ofNat_eq_natCast] at hmax
      have hword : n ≤ wordMax := by
        simp only [wordMax]
        omega
      rw [written_ofNat, signed, bind_ok (number?_toDigits hword)]
      exact congrFun (if_pos (by omega)) []
    | negSucc n =>
      rw [written_negSucc, signed, bind_ok (number?_minus (Nat.succ_pos n) (by omega))]
      rfl

/-! ## Doubles that are read back -/

/-- The text of a double is read as the same double. The digits of a text are rounded more than once,
and a number that is not finite has no text, so not every double has this. -/
def ReadsBack (x : Float) : Prop :=
  double (writtenReal x) = .ok (x, [])

instance (x : Float) : Decidable (ReadsBack x) :=
  match h : double (writtenReal x) with
  | .ok read => decidable_of_iff (read = (x, [])) (by simp [ReadsBack, h])
  | .error _ => .isFalse (by simp [ReadsBack, h])

example : ReadsBack (13.0 / 3.0) ∧ ¬ReadsBack (185.0 / 105.0) := by decide +kernel

/-- A double that is read back from its own text is taken inside a document. -/
theorem takes_double {x : Float} (h : ReadsBack x) : Takes double (written (.real x)) x :=
  stable_double.takes h

end Roster.Json.Reader
