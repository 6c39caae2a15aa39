import Roster.Proofs.Text.Octets
import Roster.Proofs.Text.OctetOrder
import Roster.Text.Search

/-!
# Where characters begin

The octets of a text may be cut where a character begins, or at their end. A search among octets for
the octets of another text finds it where a character begins, for the first octet of a character
continues none: so octets are found where the characters are, and whatever has been found may be cut
out.
-/

namespace Roster.Text

/-- Why octets cannot be cut: one of the places lies beyond them or before the other one, or lies
inside a character. -/
inductive CutError where
  | outOfRange
  | insideCharacter
  deriving DecidableEq, Repr

/-- Whether a character begins at a place of some octets, or they end there. -/
def isBoundary (octets : List Nat) (place : Nat) : Bool :=
  match octets[place]? with
  | some octet => !isContinuation octet
  | none => place == octets.length

/-- The octets from one place up to another. -/
def cut (octets : List Nat) (start stop : Nat) : Except CutError (List Nat) :=
  if stop < start ∨ octets.length < stop then .error .outOfRange
  else if isBoundary octets start && isBoundary octets stop then .ok ((octets.take stop).drop start)
  else .error .insideCharacter

/-! ## The octets of a text -/

/-- The first octet of a character continues none, and the others do. -/
theorem octetsOfChar_split (c : Char) :
    ∃ first more, octetsOfChar c = first :: more ∧ isContinuation first = false ∧
      ∀ octet ∈ more, isContinuation octet = true := by
  have hvalid := toNat_valid c
  rcases octetsOfChar_cases c with ⟨hc, ec⟩ | ⟨lc, hc, ec⟩ | ⟨lc, hc, ec⟩ | ⟨lc, ec⟩
  all_goals
    refine ⟨_, _, ec, ?_, ?_⟩
    · simp only [isContinuation, Bool.and_eq_false_iff, decide_eq_false_iff_not]
      omega
    · simp only [List.mem_cons, List.not_mem_nil, or_false, forall_eq_or_imp, forall_eq,
        isContinuation, Bool.and_eq_true, decide_eq_true_eq, IsEmpty.forall_iff, implies_true]
      try omega

/-- Octets start with those of a text exactly when the text that they carry starts with it. -/
theorem toOctets_prefix_iff {part cs : List Char} :
    toOctets part <+: toOctets cs ↔ part <+: cs := by
  constructor
  · intro ⟨rest, hrest⟩
    refine ⟨ofOctets rest, ?_⟩
    rw [← ofOctets_toOctets_append, hrest, ofOctets_toOctets]
  · rintro ⟨rest, rfl⟩
    exact ⟨toOctets rest, (toOctets_append part rest).symm⟩

/-! ## Offsets -/

/-- How many octets the first characters of a text have. -/
def offset (cs : List Char) (index : Nat) : Nat :=
  (toOctets (cs.take index)).length

/-- The octets of some characters are counted one character after the other. -/
theorem offset_cons (c : Char) (cs : List Char) (index : Nat) :
    offset (c :: cs) (index + 1) = (octetsOfChar c).length + offset cs index := by
  rw [offset, List.take_succ_cons, toOctets_cons, List.length_append, offset]

/-- The octets of some characters are those up to a place and those behind it. -/
theorem offset_add (cs : List Char) (index more : Nat) :
    offset cs (index + more) = offset cs index + offset (cs.drop index) more := by
  rw [offset, List.take_add, toOctets_append, List.length_append, offset, offset]

/-- What follows a character has no part in the octets before it. -/
theorem offset_take (cs : List Char) {index stop : Nat} (h : index ≤ stop) :
    offset (cs.take stop) index = offset cs index := by
  rw [offset, List.take_take, Nat.min_eq_left h, offset]

/-- A character of the basic block has one octet. -/
theorem octetsOfChar_basic {c : Char} (h : c.toNat < 0x80) : octetsOfChar c = [c.toNat] := by
  simp [octetsOfChar, h]

/-- A character of the basic block is one octet further. -/
theorem offset_succ {cs : List Char} {index : Nat} {c : Char} (h : cs[index]? = some c)
    (hc : c.toNat < 0x80) : offset cs (index + 1) = offset cs index + 1 := by
  have hdrop : (cs.drop index).take 1 = [c] := by
    rw [List.take_one, List.head?_drop, h]
    rfl
  have hone : offset (cs.drop index) 1 = 1 := by
    rw [offset, hdrop, toOctets_cons, octetsOfChar_basic hc]
    rfl
  rw [offset_add, hone]

/-! ## Cuts -/

/-- The octets of a text are those before a character and those from there on. -/
theorem toOctets_take_append_drop (cs : List Char) (index : Nat) :
    toOctets (cs.take index) ++ toOctets (cs.drop index) = toOctets cs := by
  rw [← toOctets_append, List.take_append_drop]

/-- The octets before a character are those of the characters before it. -/
theorem take_offset (cs : List Char) (index : Nat) :
    (toOctets cs).take (offset cs index) = toOctets (cs.take index) := by
  rw [← toOctets_take_append_drop cs index, offset, List.take_left]

/-- The octets from a character on are those of the characters from there on. -/
theorem drop_offset (cs : List Char) (index : Nat) :
    (toOctets cs).drop (offset cs index) = toOctets (cs.drop index) := by
  rw [← toOctets_take_append_drop cs index, offset, List.drop_left]

/-- The octets before a character are some of all. -/
theorem offset_le (cs : List Char) (index : Nat) : offset cs index ≤ (toOctets cs).length := by
  rw [← toOctets_take_append_drop cs index, List.length_append]
  exact Nat.le_add_right _ _

/-- A character begins behind the octets of those before it. -/
theorem isBoundary_offset (cs : List Char) (index : Nat) :
    isBoundary (toOctets cs) (offset cs index) = true := by
  have hat : (toOctets cs)[offset cs index]? = (toOctets (cs.drop index)).head? := by
    rw [← drop_offset, List.head?_drop]
  rw [isBoundary, hat]
  cases hrest : cs.drop index with
  | nil =>
    have hend : offset cs index = (toOctets cs).length := by
      rw [offset, List.take_of_length_le (List.drop_eq_nil_iff.mp hrest)]
    simp [toOctets, hend]
  | cons c rest =>
    obtain ⟨first, more, hoctets, hfirst, -⟩ := octetsOfChar_split c
    simp [toOctets_cons, hoctets, hfirst]

/-- Octets can be cut before characters, and what is cut out are the octets of the characters there. -/
theorem cut_offset (cs : List Char) (start length : Nat) :
    cut (toOctets cs) (offset cs start) (offset cs (start + length)) =
      .ok (toOctets ((cs.drop start).take length)) := by
  have hinside : ¬(offset cs (start + length) < offset cs start ∨
      (toOctets cs).length < offset cs (start + length)) := by
    have hle := offset_le cs (start + length)
    rw [offset_add] at hle ⊢
    omega
  rw [cut, if_neg hinside, isBoundary_offset, isBoundary_offset, take_offset,
    ← offset_take cs (Nat.le_add_right start length), drop_offset, List.drop_take,
    Nat.add_sub_cancel_left]
  rfl

/-- Between the octets of one character nothing can be cut. -/
example : cut (toOctets ['é']) 0 1 = .error .insideCharacter := by decide

/-- Octets can be cut off before a character. -/
theorem cut_before (cs : List Char) (stop : Nat) :
    cut (toOctets cs) 0 (offset cs stop) = .ok (toOctets (cs.take stop)) := by
  have hcut := cut_offset cs 0 stop
  rwa [Nat.zero_add] at hcut

/-- Octets can be cut off from a character on. -/
theorem cut_from (cs : List Char) (start : Nat) :
    cut (toOctets cs) (offset cs start) (toOctets cs).length = .ok (toOctets (cs.drop start)) := by
  have hend : offset cs (start + cs.length) = (toOctets cs).length := by
    rw [offset, List.take_of_length_le (Nat.le_add_left _ _)]
  have hall : (cs.drop start).take cs.length = cs.drop start :=
    List.take_of_length_le (cs.drop_sublist start).length_le
  rw [← hend, cut_offset, hall]

/-! ## Searches -/

/-- Where a text does not occur at a character, its octets occur nowhere in that character. Octets that
continue a character are passed over, for the first one of the text continues none. -/
theorem indexOf?_toOctets_cons {part cs : List Char} {c : Char} (h : ¬part <+: c :: cs) :
    indexOf? (toOctets part) (toOctets (c :: cs)) =
      (indexOf? (toOctets part) (toOctets cs)).map ((octetsOfChar c).length + ·) := by
  have hat : ¬toOctets part <+: toOctets (c :: cs) := fun hat => h (toOctets_prefix_iff.mp hat)
  cases part with
  | nil => exact absurd List.nil_prefix h
  | cons d part =>
    obtain ⟨first, more, hpart, hfirst, -⟩ := octetsOfChar_split d
    obtain ⟨begins, continues, hc, -, hcontinues⟩ := octetsOfChar_split c
    have hmore : first ∉ continues := fun hmem => by simp [hcontinues first hmem] at hfirst
    rw [toOctets_cons, toOctets_cons, hpart, hc] at hat ⊢
    rw [List.cons_append, List.cons_append] at hat ⊢
    rw [indexOf?_cons hat, indexOf?_append_of_notMem hmore, Option.map_map]
    refine congrArg (Option.map · _) (funext fun index => ?_)
    simp [Nat.add_right_comm]

/-- A text is found among octets where it is found among their characters. -/
theorem indexOf?_toOctets (part cs : List Char) :
    indexOf? (toOctets part) (toOctets cs) = (indexOf? part cs).map (offset cs) := by
  induction cs with
  | nil =>
    cases part with
    | nil => rfl
    | cons d part =>
      obtain ⟨first, more, hoctets, -⟩ := octetsOfChar_split d
      simp [toOctets, hoctets, indexOf?]
  | cons c cs ih =>
    by_cases hat : part <+: c :: cs
    · rw [indexOf?_eq_zero hat, indexOf?_eq_zero (toOctets_prefix_iff.mpr hat)]
      rfl
    · rw [indexOf?_toOctets_cons hat, indexOf?_cons hat, ih, Option.map_map, Option.map_map]
      exact congrArg (Option.map · _) (funext fun index => (offset_cons c cs index).symm)

/-- The octets of a character have one of the basic block only if it is that character. -/
theorem lastIndexOf?_octetsOfChar {c : Char} (hc : c.toNat < 0x80) (d : Char) :
    lastIndexOf? c.toNat (octetsOfChar d) = if d == c then some 0 else none := by
  by_cases hd : d.toNat < 0x80
  · have hcode : (d.toNat == c.toNat) = (d == c) := by
      rw [Bool.eq_iff_iff, beq_iff_eq, beq_iff_eq, Char.toNat_inj]
    rw [octetsOfChar_basic hd, lastIndexOf?_cons, hcode]
    rfl
  · have hmem : c.toNat ∉ octetsOfChar d := by
      rcases octetsOfChar_cases d with ⟨hlow, -⟩ | ⟨-, -, hd⟩ | ⟨-, -, hd⟩ | ⟨-, hd⟩
      · exact absurd hlow hd
      all_goals
        simp only [hd, List.mem_cons, List.not_mem_nil, or_false]
        omega
    have hne : d ≠ c := fun h => hd (h ▸ hc)
    rw [lastIndexOf?_of_notMem hmem, beq_eq_false_iff_ne.mpr hne]
    rfl

/-- A character of the basic block is found last among octets where it is found last among their
characters. -/
theorem lastIndexOf?_toOctets {c : Char} (hc : c.toNat < 0x80) (cs : List Char) :
    lastIndexOf? c.toNat (toOctets cs) = (lastIndexOf? c cs).map (offset cs) := by
  induction cs with
  | nil => rfl
  | cons d cs ih =>
    rw [toOctets_cons, lastIndexOf?_append, ih, lastIndexOf?_octetsOfChar hc, lastIndexOf?_cons]
    cases lastIndexOf? c cs with
    | some index => exact congrArg some (offset_cons d cs index).symm
    | none =>
      cases d == c with
      | true => rfl
      | false => rfl

end Roster.Text
