import Roster.Proofs.Json.Reading

/-!
# Reading lists and records

A list is read when its items are. A record is read when every field that it has is one that its
shape knows and takes, no field stands twice and none that is required is left out; what is read is
the blank record, changed by the fields one after the other.
-/

namespace Roster.Json

/-! ## Parts between commas -/

/-- Parts in a row, with a comma before each of them, the first one apart if nothing stands before. -/
def joined : Bool → List (List Char) → List Char
  | _, [] => []
  | first, part :: rest => (if first then part else ',' :: part) ++ joined false rest

/-- Commas separate the parts in a row. -/
theorem commaSeparated_eq_joined (parts : List (List Char)) :
    commaSeparated parts = joined true parts := by
  induction parts with
  | nil => rfl
  | cons part rest ih =>
    cases rest with
    | nil => simp [commaSeparated, joined]
    | cons next rest => simp [commaSeparated, ih, joined]

/-- There are no more parts than characters. -/
theorem length_le_joined (first : Bool) {parts : List (List Char)} (h : ∀ part ∈ parts, part ≠ []) :
    parts.length ≤ (joined first parts).length := by
  induction parts generalizing first with
  | nil => simp
  | cons part rest ih =>
    have hpart : 0 < part.length := List.length_pos_iff.mpr (h part List.mem_cons_self)
    have hrest := ih false fun part hpart => h part (List.mem_cons_of_mem _ hpart)
    cases first <;> simp [joined] <;> omega

/-- The items of a list are written one by one. -/
theorem writtenItems_eq_map (items : List Json) : writtenItems items = items.map written := by
  induction items with
  | nil => rfl
  | cons item rest ih => rw [writtenItems, ih, List.map_cons]

/-- A field of a record in writing. -/
def writtenField (field : String × Json) : List Char :=
  writtenText field.1 ++ ':' :: field.2.written

/-- The fields of a record are written one by one. -/
theorem writtenFields_eq_map (fields : List (String × Json)) :
    writtenFields fields = fields.map writtenField := by
  induction fields with
  | nil => rfl
  | cons field rest ih =>
    rw [writtenFields, ih, List.map_cons]
    rfl

namespace Reader

variable {α : Type}

/-- What stands between two parts, or behind the last one, ends a value. -/
theorem ends_joined (parts : List (List Char)) {closing : List Char} (h : Ends closing) :
    Ends (joined false parts ++ closing) := by
  cases parts with
  | nil => exact h
  | cons part rest => exact ends_comma _

/-! ## Lists -/

/-- A closing bracket ends a list. -/
theorem hasItem_end (first : Bool) (rest : List Char) :
    hasItem first (']' :: rest) = .ok (false, ']' :: rest) := by
  rw [hasItem, bind_ok (peekPastBlanks_cons (by decide) _)]
  rfl

/-- A list goes on where a part begins as an item. -/
theorem hasItem_joined (first : Bool) {part : List Char} (h : Opens part)
    (parts : List (List Char)) (rest : List Char) :
    hasItem first (joined first (part :: parts) ++ rest) =
      .ok (true, part ++ (joined false parts ++ rest)) := by
  obtain ⟨c, cs, rfl, hblank, hbracket, -⟩ := h
  have hc : ¬(c == ']') = true := by simpa using hbracket
  cases first with
  | true =>
    simp only [joined, if_true, List.cons_append, List.append_assoc]
    rw [hasItem, bind_ok (peekPastBlanks_cons hblank _)]
    simp only
    rw [if_neg hc, if_pos trivial]
    rfl
  | false =>
    simp only [joined, Bool.false_eq_true, if_false, List.cons_append, List.append_assoc]
    rw [hasItem, bind_ok (peekPastBlanks_cons (by decide) _)]
    refine (bind_ok (skip_apply _)).trans ((bind_ok (peekPastBlanks_cons hblank _)).trans ?_)
    simp only
    rw [if_neg hc]
    rfl

/-- The items of a list are taken one after the other. -/
theorem items_joined {item : Reader α} {document : α → Json} {values : List α}
    (h : ∀ value ∈ values, Reads item (document value) value) {fuel : Nat}
    (hfuel : values.length < fuel) (first : Bool) (rest : List Char) :
    items item fuel first
        (joined first (values.map fun value => (document value).written) ++ ']' :: rest) =
      .ok (values, ']' :: rest) := by
  induction values generalizing fuel first with
  | nil =>
    obtain ⟨fuel, rfl⟩ := Nat.exists_eq_succ_of_ne_zero (Nat.ne_of_gt hfuel)
    rw [items, List.map_nil, joined, List.nil_append, bind_ok (hasItem_end first rest)]
    rfl
  | cons value values ih =>
    obtain ⟨fuel, rfl⟩ := Nat.exists_eq_succ_of_ne_zero (Nat.ne_of_gt (Nat.zero_lt_of_lt hfuel))
    obtain ⟨hopens, htakes⟩ := h value List.mem_cons_self
    have hrest := ih (fun value hvalue => h value (List.mem_cons_of_mem _ hvalue))
      (Nat.lt_of_succ_lt_succ hfuel) false
    rw [items, List.map_cons, bind_ok (hasItem_joined first hopens _ _), if_pos rfl,
      bind_ok (htakes _ (ends_joined _ (ends_bracket rest))), bind_ok hrest]
    rfl

/-- A list ends behind its closing bracket. -/
theorem endOfList_bracket (rest : List Char) : endOfList (']' :: rest) = .ok ((), rest) := by
  rw [endOfList, bind_ok (peekPastBlanks_cons (by decide) _)]
  rfl

/-- A list is read when its items are. -/
theorem reads_listOf {item : Reader α} {document : α → Json} {values : List α}
    (h : ∀ value ∈ values, Reads item (document value) value) :
    Reads (listOf item) (.list (values.map document)) values := by
  refine ⟨⟨_, _, rfl, by decide, by decide, by decide⟩, fun rest _ => ?_⟩
  let parts := values.map fun value => (document value).written
  have htext : written (.list (values.map document)) ++ rest =
      '[' :: (joined true parts ++ ']' :: rest) := by
    simp [written, writtenItems_eq_map, commaSeparated_eq_joined, parts, Function.comp_def]
  have hparts : parts.length ≤ (joined true parts).length := by
    refine length_le_joined true fun part hpart => ?_
    obtain ⟨value, hvalue, rfl⟩ := List.mem_map.mp hpart
    exact (h value hvalue).opens.ne_nil
  have hfuel : values.length < (joined true parts ++ ']' :: rest).length + 1 := by
    simp only [parts, List.length_map] at hparts
    simp only [parts, List.length_append, List.length_cons]
    omega
  rw [htext, listOf, bind_ok (peekPastBlanks_cons (by decide) _)]
  calc
    _ = _ := (bind_ok (skip_apply _)).trans (bind_ok (get_apply _))
    _ = _ := bind_ok (items_joined h hfuel true rest)
    _ = _ := bind_ok (endOfList_bracket rest)

/-! ## Records -/

/-- A closing brace ends a record. -/
theorem hasField_end (first : Bool) (rest : List Char) :
    hasField first ('\x7d' :: rest) = .ok (false, '\x7d' :: rest) := by
  rw [hasField, bind_ok (peekPastBlanks_cons (by decide) _)]
  rfl

/-- A record goes on where a part begins with a name, whose opening quote is taken too. -/
theorem hasField_joined (first : Bool) (name : String) (value : List Char)
    (parts : List (List Char)) (rest : List Char) :
    hasField first (joined first ((writtenText name ++ ':' :: value) :: parts) ++ rest) =
      .ok (true, name.toList.flatMap escapedChar ++
        '"' :: ':' :: (value ++ (joined false parts ++ rest))) := by
  cases first with
  | true =>
    simp only [joined, writtenText, if_true, List.cons_append, List.append_assoc, List.nil_append]
    rw [hasField, bind_ok (peekPastBlanks_cons (by decide) _)]
    exact bind_ok (skip_apply _)
  | false =>
    simp only [joined, writtenText, Bool.false_eq_true, if_false, List.cons_append,
      List.append_assoc, List.nil_append]
    rw [hasField, bind_ok (peekPastBlanks_cons (by decide) _)]
    refine (bind_ok (skip_apply _)).trans ((bind_ok (peekPastBlanks_cons (by decide) _)).trans ?_)
    exact bind_ok (skip_apply _)

/-- A name is followed by a colon. -/
theorem colon_cons (rest : List Char) : colon (':' :: rest) = .ok ((), rest) := by
  rw [colon, bind_ok (peekPastBlanks_cons (by decide) _)]
  rfl

/-- A record ends behind its closing brace. -/
theorem endOfRecord_brace (rest : List Char) : endOfRecord ('\x7d' :: rest) = .ok ((), rest) := by
  rw [endOfRecord, bind_ok (peekPastBlanks_cons (by decide) _)]
  rfl

end Reader

end Roster.Json
