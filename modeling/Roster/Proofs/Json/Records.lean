import Roster.Organization.Document
import Roster.Proofs.Json.Collections

/-!
# Reading records by their shape

The fields of a written record fill a shape when the shape knows each of them and takes its value.
What is read from such a record is the blank record, changed by the fields one after the other, as
long as no name stands twice and no required one is missing.
-/

namespace Roster.Json

open Reader

variable {α β : Type}

/-! ## Single fields -/

/-- A null is taken as nothing. -/
theorem takes_optional_null (value : Reader β) : Takes (Reader.optional value) (written .null) none := by
  intro rest _
  change Reader.optional value ('n' :: ("ull".toList ++ rest)) = _
  rw [Reader.optional, bind_ok (peekPastBlanks_cons (by decide) _)]
  exact (bind_ok (skip_apply _)).trans (bind_ok (name_append _ rest))

/-- A value that opens is no null, and is taken. -/
theorem takes_optional {value : Reader β} {document : Json} {b : β}
    (h : Reads value document b) :
    Takes (Reader.optional value) document.written (some b) := by
  intro rest hrest
  obtain ⟨c, cs, htext, hblank, -, hnull⟩ := h.opens
  have htakes := h.takes.map some rest hrest
  rw [htext] at htakes ⊢
  refine (bind_ok (peekPastBlanks_cons hblank (cs ++ rest))).trans ?_
  refine Eq.trans (congrFun ?_ _) htakes
  split
  · rename_i heq
    exact absurd (Option.some.inj heq) hnull
  · rfl

/-- An optional value is taken, whether it is written or a null. -/
theorem takes_ofOption {value : Reader β} {encode : β → Json} {b? : Option β}
    (h : ∀ b ∈ b?, Reads value (encode b) b) :
    Takes (Reader.optional value) (written (.ofOption encode b?)) b? := by
  cases b? with
  | none => exact takes_optional_null value
  | some b => exact takes_optional (h b rfl)

namespace RecordShape

/-- Fields lead from one record to another when the shape knows each of them and takes its value. -/
inductive Fills (shape : RecordShape α) : α → List (String × Json) → α → Prop where
  | nil (built : α) : Fills shape built [] built
  | cons {built result : α} {name : String} {value : Json} {rest : List (String × Json)}
      {field : Field α} {put : α → α}
      (known : shape.fields.find? (fun f => f.label == name) = some field)
      (takes : Takes field.read value.written put) (fills : Fills shape (put built) rest result) :
      Fills shape built ((name, value) :: rest) result

variable {shape : RecordShape α} {built result : α} {label : String} {value : Reader β}

/-- A field that has to be there is filled by its value. -/
theorem Fills.always {put : β → α → α} {document : Json} {b : β} {rest : List (String × Json)}
    (known : shape.fields.find? (fun f => f.label == label) = some (.always label value put))
    (h : Takes value document.written b) (fills : shape.Fills (put b built) rest result) :
    shape.Fills built ((label, document) :: rest) result :=
  .cons known (h.map put) fills

/-- A field that is written as a null while unknown is filled by its value. -/
theorem Fills.ofOption {put : Option β → α → α} {encode : β → Json} {b? : Option β}
    {rest : List (String × Json)}
    (known : shape.fields.find? (fun f => f.label == label) = some (.sometimes label value put))
    (h : ∀ b ∈ b?, Reads value (encode b) b)
    (fills : shape.Fills (put b? built) rest result) :
    shape.Fills built ((label, .ofOption encode b?) :: rest) result :=
  .cons known ((takes_ofOption h).map put) fills

/-- A field that is left out while unknown is filled by its value, as long as it is still unknown. -/
theorem Fills.knownField {put : Option β → α → α} {encode : β → Json} {b? : Option β}
    {rest : List (String × Json)}
    (known : shape.fields.find? (fun f => f.label == label) = some (.sometimes label value put))
    (hblank : put none built = built)
    (h : ∀ b ∈ b?, Reads value (encode b) b)
    (fills : shape.Fills (put b? built) rest result) :
    shape.Fills built (Organization.knownField label encode b? ++ rest) result := by
  cases b? with
  | none => exact hblank ▸ fills
  | some b => exact .cons known ((takes_optional (h b rfl)).map put) fills

/-! ## Whole records -/

/-- The fields of a record are taken one after the other. -/
theorem readByName_joined {fields : List (String × Json)} (h : shape.Fills built fields result)
    {fuel : Nat} (hfuel : fields.length < fuel) {seen : List String}
    (hnew : (fields.map Prod.fst ++ seen).Nodup) (rest : List Char) :
    shape.readByName fuel seen built
        (joined seen.isEmpty (fields.map writtenField) ++ '\x7d' :: rest) =
      .ok (((fields.map Prod.fst).reverse ++ seen, result), '\x7d' :: rest) := by
  induction h generalizing fuel seen with
  | nil built =>
    obtain ⟨fuel, rfl⟩ := Nat.exists_eq_succ_of_ne_zero (Nat.ne_of_gt hfuel)
    rw [readByName, List.map_nil, joined, List.nil_append, bind_ok (hasField_end _ rest)]
    rfl
  | @cons built result name value fields field put known takes _ ih =>
    obtain ⟨fuel, rfl⟩ := Nat.exists_eq_succ_of_ne_zero (Nat.ne_of_gt (Nat.zero_lt_of_lt hfuel))
    have hunseen : seen.contains name = false := by
      have hname : name ∉ fields.map Prod.fst ++ seen := (List.nodup_cons.mp hnew).1
      rw [List.mem_append, not_or] at hname
      simpa using hname.2
    have hrest := ih (Nat.lt_of_succ_lt_succ hfuel) (List.perm_middle.nodup_iff.mpr hnew)
    rw [readByName, List.map_cons, writtenField, bind_ok (hasField_joined _ _ _ _ _), if_pos rfl,
      bind_ok (text_flatMap _ _)]
    simp only [known, hunseen]
    rw [if_neg Bool.false_ne_true, bind_ok (colon_cons _),
      bind_ok (takes _ (ends_joined _ (ends_brace rest)))]
    simpa using hrest

/-- A record is read when its fields fill the shape, no name stands twice and no required one is
missing. -/
theorem reads_read {fields : List (String × Json)} (h : shape.Fills shape.blank fields result)
    (hnodup : (fields.map Prod.fst).Nodup)
    (hrequired : (shape.fields.filter Field.required).map Field.label ⊆ fields.map Prod.fst) :
    Reads shape.read (.record fields) result := by
  refine ⟨⟨_, _, rfl, by decide, by decide, by decide⟩, fun rest _ => ?_⟩
  let parts := fields.map writtenField
  have htext : written (.record fields) ++ rest = '\x7b' :: (joined true parts ++ '\x7d' :: rest) := by
    simp [written, writtenFields_eq_map, commaSeparated_eq_joined, parts]
  have hparts : parts.length ≤ (joined true parts).length := by
    refine length_le_joined true fun part hpart => ?_
    obtain ⟨field, -, rfl⟩ := List.mem_map.mp hpart
    simp [writtenField, writtenText]
  have hfuel : fields.length < (joined true parts ++ '\x7d' :: rest).length + 1 := by
    simp only [parts, List.length_map] at hparts
    simp only [parts, List.length_append, List.length_cons]
    omega
  have hnew : (fields.map Prod.fst ++ []).Nodup := by rwa [List.append_nil]
  have hcomplete : shape.fields.find? (fun f => f.required &&
      !((fields.map Prod.fst).reverse ++ []).contains f.label) = none := by
    rw [List.find?_eq_none]
    intro field hfield hmissing
    rw [Bool.and_eq_true] at hmissing
    have hlabel : field.label ∈ fields.map Prod.fst :=
      hrequired (List.mem_map_of_mem (List.mem_filter.mpr ⟨hfield, hmissing.1⟩))
    simp [hlabel] at hmissing
  rw [htext, read, bind_ok (peekPastBlanks_cons (by decide) _)]
  refine (bind_ok (skip_apply _)).trans ((bind_ok (get_apply _)).trans
    ((bind_ok (readByName_joined h hfuel hnew rest)).trans ?_))
  simp only [hcomplete]
  exact bind_ok (endOfRecord_brace rest)

end RecordShape

end Roster.Json
