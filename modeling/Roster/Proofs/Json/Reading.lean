import Mathlib.Tactic.SplitIfs
import Roster.Json.Decode
import Roster.Json.Value

/-!
# Reading what was written

A reader takes a written text when it reads the value off the front of it and leaves whatever follows
in place. What may follow a value inside a document is a comma or a closing bracket. Texts are taken
whatever their characters are, since every character that is escaped stands behind its escape.
-/

namespace Roster.Json.Reader

variable {α β : Type}

/-! ## Readers as functions -/

@[simp] theorem pure_apply (a : α) (cs : List Char) : (pure a : Reader α) cs = .ok (a, cs) := rfl

@[simp] theorem fail_apply (e : ReadError) (cs : List Char) : (fail e : Reader α) cs = .error e := rfl

@[simp] theorem skip_apply (cs : List Char) : skip cs = .ok ((), cs.tail) := rfl

theorem get_apply (cs : List Char) : (get : Reader (List Char)) cs = .ok (cs, cs) := rfl

theorem set_apply (cs cs' : List Char) : (set cs' : Reader Unit) cs = .ok ((), cs') := rfl

@[simp] theorem peek_apply (cs : List Char) : peek cs = .ok (cs.head?, cs) := rfl

@[simp] theorem takeOr_cons (e : ReadError) (c : Char) (cs : List Char) :
    takeOr e (c :: cs) = .ok (c, cs) := rfl

theorem bind_apply (x : Reader α) (f : α → Reader β) (cs : List Char) :
    (x >>= f) cs = (x cs).bind fun p => f p.1 p.2 := rfl

/-- A reader goes on from where the one before it stopped. -/
theorem bind_ok {x : Reader α} {f : α → Reader β} {cs rest : List Char} {a : α}
    (h : x cs = .ok (a, rest)) : (x >>= f) cs = f a rest := by
  rw [bind_apply, h]
  rfl

/-- The next character is the first one behind the blanks. -/
theorem peekPastBlanks_of_dropWhile {cs rest : List Char} (h : cs.dropWhile isBlank = rest) :
    peekPastBlanks cs = .ok (rest.head?, rest) := by
  subst h
  rfl

/-- A character that is no blank is the next one. -/
theorem peekPastBlanks_cons {c : Char} (h : isBlank c = false) (cs : List Char) :
    peekPastBlanks (c :: cs) = .ok (some c, c :: cs) :=
  peekPastBlanks_of_dropWhile (List.dropWhile_cons_of_neg (by simp [h]))

/-! ## What follows a value -/

/-- Whether a text can stand behind a value: it begins with a comma or a closing bracket, or there is
nothing. -/
def Ends (rest : List Char) : Prop :=
  ∀ c ∈ rest.head?, c = ',' ∨ c = ']' ∨ c = '\x7d'

theorem ends_nil : Ends [] := fun _ h => nomatch h

theorem ends_comma (cs : List Char) : Ends (',' :: cs) := by simp [Ends]

theorem ends_bracket (cs : List Char) : Ends (']' :: cs) := by simp [Ends]

theorem ends_brace (cs : List Char) : Ends ('\x7d' :: cs) := by simp [Ends]

/-- A reader takes a text: it reads the value and leaves in place what stands behind. -/
def Takes (reader : Reader α) (text : List Char) (value : α) : Prop :=
  ∀ rest, Ends rest → reader (text ++ rest) = .ok (value, rest)

/-- What is made of a value is taken along with it. -/
theorem Takes.map {reader : Reader α} {text : List Char} {value : α} (h : Takes reader text value)
    (f : α → β) : Takes (do return f (← reader)) text (f value) :=
  fun rest hrest => bind_ok (h rest hrest)

/-! ## How values begin -/

/-- A text begins as an item of a list, or as a value that is no null. -/
def Opens (text : List Char) : Prop :=
  ∃ c cs, text = c :: cs ∧ isBlank c = false ∧ c ≠ ']' ∧ c ≠ 'n'

theorem Opens.ne_nil {text : List Char} (h : Opens text) : text ≠ [] := by
  obtain ⟨c, cs, rfl, -⟩ := h
  exact List.cons_ne_nil c cs

/-- A reader reads a document: the document opens and is taken. -/
structure Reads (reader : Reader α) (document : Json) (value : α) : Prop where
  opens : Opens document.written
  takes : Takes reader document.written value

/-- A document that is taken is read as a whole. -/
theorem Takes.whole {reader : Reader α} {document : Json} {value : α}
    (h : Takes reader document.written value) : reader.whole document.compact = .ok value := by
  have hread := h [] ends_nil
  rw [List.append_nil] at hread
  rw [Reader.whole, compact, String.toList_ofList, hread]
  rfl

/-! ## Texts -/

/-- A code below thirty-two is written with two digits behind two zeros, and they have its value. -/
theorem hexFour_of_lt : ∀ n < 0x20,
    ((if n < 0x10 then ['0'] else []) ++ Text.hexDigits n =
        [Nat.digitChar (n / 0x10), Nat.digitChar (n % 0x10)]) ∧
      hexFour '0' '0' (Nat.digitChar (n / 0x10)) (Nat.digitChar (n % 0x10)) = some n := by
  decide

/-- Behind a letter escape stands its character. -/
theorem textRest_letter {fuel : Nat} {e c : Char} {cs rest tail : List Char}
    (he : (e == 'u') = false) (hc : letterEscape e = some c)
    (h : textRest fuel cs = .ok (tail, rest)) :
    textRest (fuel + 1) ('\\' :: e :: cs) = .ok (c :: tail, rest) := by
  rw [textRest, bind_ok (takeOr_cons _ _ _), if_neg (by decide), if_pos (by decide),
    bind_ok (takeOr_cons _ _ _)]
  simp only [he, hc]
  exact (bind_ok (pure_apply c cs)).trans (bind_ok h)

/-- Behind an escape by code stands the character of the code. -/
theorem textRest_code {fuel : Nat} {c : Char} {cs rest tail : List Char} (hc : c.toNat < 0x20)
    (h : textRest fuel cs = .ok (tail, rest)) :
    textRest (fuel + 1) (['\\', 'u', '0', '0'] ++ (if c.toNat < 0x10 then ['0'] else []) ++
      Text.hexDigits c.toNat ++ cs) = .ok (c :: tail, rest) := by
  obtain ⟨hdigits, hvalue⟩ := hexFour_of_lt c.toNat hc
  have hcode : escapeCode ('0' :: '0' :: Nat.digitChar (c.toNat / 0x10) ::
      Nat.digitChar (c.toNat % 0x10) :: cs) = .ok (c.toNat, cs) := by
    simp only [escapeCode, hvalue]
  have hchar : codeEscape ('0' :: '0' :: Nat.digitChar (c.toNat / 0x10) ::
      Nat.digitChar (c.toNat % 0x10) :: cs) = .ok (c, cs) := by
    rw [codeEscape, bind_ok hcode, if_neg (by simp; omega), if_pos (by simp; omega),
      Char.ofNat_toNat]
    rfl
  rw [List.append_assoc ['\\', 'u', '0', '0'], hdigits]
  simp only [List.cons_append, List.nil_append]
  rw [textRest, bind_ok (takeOr_cons _ _ _), if_neg (by decide), if_pos (by decide),
    bind_ok (takeOr_cons _ _ _), if_pos (by decide)]
  exact (bind_ok hchar).trans (bind_ok h)

/-- A character that needs no escape stands for itself. -/
theorem textRest_plain {fuel : Nat} {c : Char} {cs rest tail : List Char}
    (hquote : (c == '"') = false) (hslash : (c == '\\') = false) (hlow : ¬c.toNat < 0x20)
    (h : textRest fuel cs = .ok (tail, rest)) :
    textRest (fuel + 1) (c :: cs) = .ok (c :: tail, rest) := by
  rw [textRest, bind_ok (takeOr_cons _ _ _), if_neg (by simp [hquote]), if_neg (by simp [hslash]),
    if_neg hlow]
  exact bind_ok h

/-- However a character is written, it is read. -/
theorem textRest_escapedChar {fuel : Nat} {c : Char} {cs rest tail : List Char}
    (h : textRest fuel cs = .ok (tail, rest)) :
    textRest (fuel + 1) (escapedChar c ++ cs) = .ok (c :: tail, rest) := by
  have hofNat {n : Nat} (hn : (c.toNat == n) = true) : Char.ofNat n = c := by
    rw [← beq_iff_eq.mp hn, Char.ofNat_toNat]
  unfold escapedChar
  split_ifs with hquote hslash hb ht hn hf hr hlow hshort
  · obtain rfl := beq_iff_eq.mp hquote
    exact textRest_letter (by decide) rfl h
  · obtain rfl := beq_iff_eq.mp hslash
    exact textRest_letter (by decide) rfl h
  · exact textRest_letter (by decide) (congrArg some (hofNat hb)) h
  · obtain rfl := beq_iff_eq.mp ht
    exact textRest_letter (by decide) rfl h
  · obtain rfl := beq_iff_eq.mp hn
    exact textRest_letter (by decide) rfl h
  · exact textRest_letter (by decide) (congrArg some (hofNat hf)) h
  · obtain rfl := beq_iff_eq.mp hr
    exact textRest_letter (by decide) rfl h
  · have hcode := textRest_code hlow h
    rwa [if_pos hshort] at hcode
  · have hcode := textRest_code hlow h
    rwa [if_neg hshort] at hcode
  · exact textRest_plain (by simpa using hquote) (by simpa using hslash) hlow h

/-- Written characters are read up to the closing quote. -/
theorem textRest_flatMap (cs : List Char) {fuel : Nat} (h : cs.length < fuel) (rest : List Char) :
    textRest fuel (cs.flatMap escapedChar ++ '"' :: rest) = .ok (cs, rest) := by
  induction cs generalizing fuel with
  | nil =>
    obtain ⟨fuel, rfl⟩ := Nat.exists_eq_succ_of_ne_zero (Nat.ne_of_gt h)
    rfl
  | cons c cs ih =>
    obtain ⟨fuel, rfl⟩ := Nat.exists_eq_succ_of_ne_zero (Nat.ne_of_gt (Nat.zero_lt_of_lt h))
    rw [List.flatMap_cons, List.append_assoc]
    exact textRest_escapedChar (ih (by simpa using h))

/-- A written character takes at least one. -/
theorem length_le_flatMap_escapedChar (cs : List Char) :
    cs.length ≤ (cs.flatMap escapedChar).length := by
  induction cs with
  | nil => simp
  | cons c cs ih =>
    have hpos : 0 < (escapedChar c).length := by
      unfold escapedChar
      split_ifs <;> simp
    simp only [List.flatMap_cons, List.length_append, List.length_cons]
    omega

/-- A text is read behind its opening quote. -/
theorem text_flatMap (s : String) (rest : List Char) :
    text (s.toList.flatMap escapedChar ++ '"' :: rest) = .ok (s, rest) := by
  have hlength := length_le_flatMap_escapedChar s.toList
  have hfuel : s.toList.length < (s.toList.flatMap escapedChar ++ '"' :: rest).length + 1 := by
    simp only [List.length_append, List.length_cons]
    omega
  rw [text, bind_ok (get_apply _), bind_ok (textRest_flatMap s.toList hfuel rest),
    String.ofList_toList]
  rfl

/-- A text is read. -/
theorem reads_text (s : String) : Reads quotedText (.text s) s where
  opens := ⟨_, _, rfl, by decide, by decide, by decide⟩
  takes rest _ := by
    simp only [written, writtenText, List.cons_append, List.append_assoc, List.nil_append]
    rw [quotedText, bind_ok (peekPastBlanks_cons (by decide) _)]
    exact (bind_ok (skip_apply _)).trans (text_flatMap s rest)

/-! ## Truth values and nulls -/

/-- The rest of a name is taken letter by letter. -/
theorem name_append (letters rest : List Char) : name letters (letters ++ rest) = .ok ((), rest) := by
  induction letters with
  | nil => rfl
  | cons c letters ih =>
    rw [List.cons_append, name, bind_ok (takeOr_cons _ _ _), if_pos (beq_self_eq_true c), ih]

/-- A truth value is read. -/
theorem reads_boolean (b : Bool) : Reads boolean (.boolean b) b where
  opens := by cases b <;> exact ⟨_, _, rfl, by decide, by decide, by decide⟩
  takes rest _ := by
    cases b with
    | true =>
      change boolean ('t' :: ("rue".toList ++ rest)) = _
      rw [boolean, bind_ok (peekPastBlanks_cons (by decide) _)]
      exact (bind_ok (skip_apply _)).trans (bind_ok (name_append _ rest))
    | false =>
      change boolean ('f' :: ("alse".toList ++ rest)) = _
      rw [boolean, bind_ok (peekPastBlanks_cons (by decide) _)]
      exact (bind_ok (skip_apply _)).trans (bind_ok (name_append _ rest))

end Roster.Json.Reader
