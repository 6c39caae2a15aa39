/-!
# Searching in a text

Where a text occurs in another one first, and where an entry occurs last. Entries are characters, or
the octets that carry them.
-/

namespace Roster.Text

variable {α : Type} [BEq α]

/-- How many entries stand before the first occurrence of `part`. -/
def indexOf? (part : List α) : List α → Option Nat
  | [] => if part.isEmpty then some 0 else none
  | c :: rest =>
    if part.isPrefixOf (c :: rest) then some 0 else (indexOf? part rest).map (· + 1)

/-- How many entries stand before the last occurrence of `c`. -/
def lastIndexOf? (c : α) : List α → Option Nat
  | [] => none
  | d :: rest =>
    match lastIndexOf? c rest with
    | some index => some (index + 1)
    | none => if d == c then some 0 else none

/-! ## The first occurrence -/

section

variable [LawfulBEq α]

/-- A text that starts with `part` has it at once. -/
theorem indexOf?_eq_zero {part cs : List α} (h : part <+: cs) : indexOf? part cs = some 0 := by
  cases cs with
  | nil => simp [indexOf?, List.prefix_nil.mp h]
  | cons c rest => simp [indexOf?, h]

/-- A text that does not start with `part` has it as soon as the rest has it. -/
theorem indexOf?_cons {part rest : List α} {c : α} (h : ¬part <+: c :: rest) :
    indexOf? part (c :: rest) = (indexOf? part rest).map (· + 1) := by
  simp [indexOf?, h]

/-- The first occurrence is the one that no other precedes. -/
theorem indexOf?_eq_some_iff {part cs : List α} {index : Nat} :
    indexOf? part cs = some index ↔
      part <+: cs.drop index ∧ ∀ earlier < index, ¬part <+: cs.drop earlier := by
  induction cs generalizing index with
  | nil =>
    rw [indexOf?, List.drop_nil, List.prefix_nil]
    cases index with
    | zero => simp
    | succ index =>
      have hzero : 0 < index + 1 := Nat.succ_pos index
      simp only [Option.ite_none_right_eq_some, Option.some_inj, reduceCtorEq, and_false, false_iff]
      intro ⟨hpart, hnone⟩
      exact hnone 0 hzero (by rw [hpart]; exact List.nil_prefix)
  | cons c rest ih =>
    by_cases hat : part <+: c :: rest
    · rw [indexOf?_eq_zero hat, Option.some_inj]
      constructor
      · rintro rfl
        exact ⟨hat, fun earlier h => absurd h (Nat.not_lt_zero earlier)⟩
      · intro ⟨_, hnone⟩
        exact (Nat.eq_zero_of_not_pos fun h => hnone 0 h hat).symm
    · rw [indexOf?_cons hat]
      cases index with
      | zero => simp [hat]
      | succ index =>
        have hnext : (indexOf? part rest).map (· + 1) = some (index + 1) ↔
            indexOf? part rest = some index := by simp
        rw [hnext, ih, List.drop_succ_cons]
        refine and_congr_right fun _ => ⟨fun h earlier hlt => ?_, fun h earlier hlt => ?_⟩
        · cases earlier with
          | zero => exact hat
          | succ earlier => exact h earlier (Nat.lt_of_succ_lt_succ hlt)
        · exact h (earlier + 1) (Nat.succ_lt_succ hlt)

/-- What occurs anywhere has a first occurrence. -/
theorem exists_indexOf? {part cs : List α} {index : Nat} (h : part <+: cs.drop index) :
    ∃ first, indexOf? part cs = some first := by
  induction cs generalizing index with
  | nil => exact ⟨0, indexOf?_eq_zero (by rwa [List.drop_nil] at h)⟩
  | cons c rest ih =>
    by_cases hat : part <+: c :: rest
    · exact ⟨0, indexOf?_eq_zero hat⟩
    · cases index with
      | zero => exact absurd h hat
      | succ index =>
        obtain ⟨first, hfirst⟩ := ih h
        exact ⟨first + 1, by rw [indexOf?_cons hat, hfirst]; rfl⟩

/-- At an occurrence the text stands. -/
theorem prefix_drop_of_indexOf? {part cs : List α} {index : Nat} (h : indexOf? part cs = some index) :
    part <+: cs.drop index :=
  (indexOf?_eq_some_iff.mp h).1

/-- Behind a text that has none, `c :: part` occurs where it starts. An occurrence that reaches from
`front` into it would have `c` a second time. -/
theorem indexOf?_append_cons {part front : List α} {c : α} (hpart : c ∉ part)
    (hfront : ¬c :: part <:+: front) (back : List α) :
    indexOf? (c :: part) (front ++ (c :: part ++ back)) = some front.length := by
  rw [indexOf?_eq_some_iff, List.drop_left]
  refine ⟨List.prefix_append _ _, fun earlier hlt hearlier => ?_⟩
  rw [List.drop_append_of_le_length (Nat.le_of_lt hlt)] at hearlier
  obtain ⟨after, hafter⟩ := hearlier
  have hwithin (h : c :: part <+: front.drop earlier) : False :=
    hfront (h.isInfix.trans (front.drop_suffix earlier).isInfix)
  -- An earlier occurrence lies within `front`, or `more` of it lies behind.
  rcases List.append_eq_append_iff.mp hafter with ⟨more, hdrop, -⟩ | ⟨more, hacross, hmore⟩
  · exact hwithin ⟨more, hdrop.symm⟩
  · cases more with
    | nil => exact hwithin ⟨[], by rw [hacross, List.append_nil, List.append_nil]⟩
    | cons d more =>
      have hne : front.drop earlier ≠ [] := by
        rw [Ne, List.drop_eq_nil_iff]
        exact Nat.not_le_of_lt hlt
      obtain ⟨first, inside, hinside⟩ := List.exists_cons_of_ne_nil hne
      rw [hinside, List.cons_append, List.cons.injEq] at hacross
      rw [List.cons_append, List.cons_append, List.cons.injEq] at hmore
      rw [hacross.2, ← hmore.1] at hpart
      exact hpart (List.mem_append_right inside List.mem_cons_self)

/-- What does not have the first entry of a text has no occurrence of it, and none starts in it. -/
theorem indexOf?_append_of_notMem {part front : List α} {c : α} (h : c ∉ front) (back : List α) :
    indexOf? (c :: part) (front ++ back) =
      (indexOf? (c :: part) back).map (front.length + ·) := by
  induction front with
  | nil => simp
  | cons d rest ih =>
    rw [List.mem_cons, not_or] at h
    have hat : ¬c :: part <+: d :: (rest ++ back) := fun hat => h.1 (List.cons_prefix_cons.mp hat).1
    rw [List.cons_append, indexOf?_cons hat, ih h.2, Option.map_map]
    refine congrArg (Option.map · _) (funext fun index => ?_)
    simp [Nat.add_right_comm]

end

/-! ## The last occurrence -/

/-- The last occurrence is in the rest, unless only the first entry is one. -/
theorem lastIndexOf?_cons (c d : α) (rest : List α) :
    lastIndexOf? c (d :: rest) =
      ((lastIndexOf? c rest).map (· + 1)).or (if d == c then some 0 else none) := by
  rw [lastIndexOf?]
  cases lastIndexOf? c rest <;> simp

/-- The last occurrence is in the second part, unless only the first one has any. -/
theorem lastIndexOf?_append (c : α) (front back : List α) :
    lastIndexOf? c (front ++ back) =
      ((lastIndexOf? c back).map (front.length + ·)).or (lastIndexOf? c front) := by
  induction front with
  | nil => simp [lastIndexOf?]
  | cons d rest ih =>
    rw [List.cons_append, lastIndexOf?_cons, ih, lastIndexOf?_cons]
    cases lastIndexOf? c back with
    | none => simp
    | some index => simp [Nat.add_right_comm]

variable [LawfulBEq α]

/-- An entry that does not occur has no last occurrence. -/
theorem lastIndexOf?_of_notMem {c : α} {cs : List α} (h : c ∉ cs) : lastIndexOf? c cs = none := by
  induction cs with
  | nil => rfl
  | cons d rest ih =>
    rw [List.mem_cons, not_or] at h
    rw [lastIndexOf?_cons, ih h.2, beq_eq_false_iff_ne.mpr (Ne.symm h.1)]
    rfl

/-- An entry that does not occur again occurs last. -/
theorem lastIndexOf?_append_cons {c : α} {back : List α} (h : c ∉ back) (front : List α) :
    lastIndexOf? c (front ++ c :: back) = some front.length := by
  rw [lastIndexOf?_append, lastIndexOf?_cons, lastIndexOf?_of_notMem h, beq_self_eq_true]
  rfl

/-- At the last occurrence stands the entry. -/
theorem getElem?_lastIndexOf? {c : α} {cs : List α} {index : Nat}
    (h : lastIndexOf? c cs = some index) : cs[index]? = some c := by
  induction cs generalizing index with
  | nil => simp [lastIndexOf?] at h
  | cons d rest ih =>
    rw [lastIndexOf?_cons] at h
    cases hrest : lastIndexOf? c rest with
    | none =>
      simp only [hrest, Option.map_none, Option.none_or, Option.ite_none_right_eq_some,
        Option.some_inj, beq_iff_eq] at h
      obtain ⟨rfl, rfl⟩ := h
      rfl
    | some later =>
      simp only [hrest, Option.map_some, Option.some_or, Option.some_inj] at h
      subst h
      exact ih hrest

end Roster.Text
