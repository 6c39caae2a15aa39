import Roster.Payload

/-!
# Mounting the embedded list

A list is mounted where there is a place for it and a document that can be read. Without a document
nothing is read, so nothing is noted either. The place is looked for last: where there is none, the
document has been read already, and is noted in the log if it could not be.
-/

namespace Roster.Payload

variable {payload : Option String} {container : Bool}

/-- What a page brings along holds a document: there is a text, and it is not empty. -/
def IsDocument (payload : Option String) (text : String) : Prop :=
  payload = some text ∧ text ≠ ""

/-- What is mounted is told by the place and the document. A list is mounted exactly if there is a
place for it and a document from which it is read. Without a place or a document nothing is mounted,
and nothing noted. With a place, a document that cannot be read is noted in one line and nothing is
mounted. -/
structure MountsAsTold (payload : Option String) (container : Bool) : Prop where
  mounted : ∀ os, (mount payload container).state = some os ↔
    container = true ∧ ∃ text, IsDocument payload text ∧ parse text = .ok os
  absent : (container = false ∨ ∀ text, ¬IsDocument payload text) →
    mount payload container = .silent none
  unreadable : container = true → ∀ text e, IsDocument payload text → parse text = .error e →
    mount payload container = ⟨none, [], [⟨.error, "Error parsing organization data: " ++ e.message⟩]⟩

/-! ## The three cases -/

/-- Without a document nothing is mounted and nothing noted. -/
theorem mount_of_not_isDocument (h : ∀ text, ¬IsDocument payload text) (container : Bool) :
    mount payload container = .silent none := by
  cases payload with
  | none => rfl
  | some text =>
    have hempty : text = "" := Decidable.not_not.mp fun hne => h text ⟨rfl, hne⟩
    rw [hempty]
    rfl

/-- A document is not passed over as an empty text. -/
theorem IsDocument.isEmpty {text : String} (h : IsDocument payload text) : text.isEmpty = false := by
  simpa [String.isEmpty_iff] using h.2

/-- A list that is read is mounted if there is a place for it, and nothing is noted. -/
theorem mount_of_parse {text : String} {os : List Organization} (h : IsDocument payload text)
    (hparse : parse text = .ok os) (container : Bool) :
    mount payload container = .silent (if container then some os else none) := by
  rw [h.1]
  simp only [mount, h.isEmpty, hparse, Bool.false_eq_true, if_false]

/-- A document that cannot be read is noted, whether there is a place or not. -/
theorem mount_of_unreadable {text : String} {e : Json.ReadError} (h : IsDocument payload text)
    (hparse : parse text = .error e) (container : Bool) :
    mount payload container =
      ⟨none, [], [⟨.error, "Error parsing organization data: " ++ e.message⟩]⟩ := by
  rw [h.1]
  simp only [mount, h.isEmpty, hparse, Bool.false_eq_true, if_false]

/-- A page holds no document, or one that is read, or one that cannot be. -/
theorem document_cases (payload : Option String) :
    (∀ text, ¬IsDocument payload text) ∨
      (∃ text os, IsDocument payload text ∧ parse text = .ok os) ∨
        ∃ text e, IsDocument payload text ∧ parse text = .error e := by
  by_cases hdocument : ∃ text, IsDocument payload text
  · obtain ⟨text, htext⟩ := hdocument
    cases hparse : parse text with
    | ok os => exact .inr (.inl ⟨text, os, htext, hparse⟩)
    | error e => exact .inr (.inr ⟨text, e, htext, hparse⟩)
  · exact .inl (not_exists.mp hdocument)

/-- A page holds one document at most. -/
theorem IsDocument.eq {text other : String} (h : IsDocument payload text)
    (hother : IsDocument payload other) : text = other :=
  Option.some.inj (h.1.symm.trans hother.1)

/-! ## What is mounted -/

/-- A list is mounted exactly if there is a place for it and a document from which it is read. -/
theorem state_mount_eq_some_iff {os : List Organization} :
    (mount payload container).state = some os ↔
      container = true ∧ ∃ text, IsDocument payload text ∧ parse text = .ok os := by
  rcases document_cases payload with hnone | ⟨text, read, htext, hparse⟩ | ⟨text, e, htext, hparse⟩
  · rw [mount_of_not_isDocument hnone]
    refine iff_of_false nofun ?_
    rintro ⟨-, text, htext, -⟩
    exact hnone text htext
  · rw [mount_of_parse htext hparse, Step.silent_state, Option.ite_none_right_eq_some]
    refine and_congr_right fun _ => ⟨?_, ?_⟩
    · intro hread
      exact ⟨text, htext, hparse.trans (congrArg _ (Option.some.inj hread))⟩
    · rintro ⟨other, hother, hos⟩
      rw [← htext.eq hother, hparse] at hos
      exact congrArg some (Except.ok.inj hos)
  · rw [mount_of_unreadable htext hparse]
    refine iff_of_false nofun ?_
    rintro ⟨-, other, hother, hos⟩
    rw [← htext.eq hother, hparse] at hos
    cases hos

/-- Whatever a page brings along, a list is mounted exactly if there is a place for it and a document
from which it is read, and a document that cannot be read is noted in one line. Without a place,
though, nothing is noted only if the document, should there be one, can be read. -/
theorem mountsAsTold_iff (payload : Option String) (container : Bool) :
    (∀ os, (mount payload container).state = some os ↔
        container = true ∧ ∃ text, IsDocument payload text ∧ parse text = .ok os) ∧
      (∀ text e, IsDocument payload text → parse text = .error e →
        mount payload container =
          ⟨none, [], [⟨.error, "Error parsing organization data: " ++ e.message⟩]⟩) ∧
      (MountsAsTold payload container ↔
        container = true ∨ ∀ text e, IsDocument payload text → parse text ≠ .error e) := by
  refine ⟨fun os => state_mount_eq_some_iff, fun text e htext hparse =>
    mount_of_unreadable htext hparse container, fun htold => ?_, fun hread => ?_⟩
  · cases container with
    | true => exact .inl rfl
    | false =>
      refine .inr fun text e htext hparse => ?_
      have hsilent := htold.absent (.inl rfl)
      rw [mount_of_unreadable htext hparse] at hsilent
      cases hsilent
  · refine ⟨fun os => state_mount_eq_some_iff, fun habsent => ?_, fun _ text e htext hparse =>
      mount_of_unreadable htext hparse container⟩
    rcases document_cases payload with hnone | ⟨text, os, htext, hparse⟩ | ⟨text, e, htext, hparse⟩
    · exact mount_of_not_isDocument hnone container
    · have hcontainer : container = false := habsent.resolve_right fun hnone => hnone text htext
      rw [mount_of_parse htext hparse, hcontainer]
      rfl
    · have hcontainer : container = false := habsent.resolve_right fun hnone => hnone text htext
      rw [hcontainer] at hread
      exact absurd hparse (hread.resolve_left Bool.false_ne_true text e htext)

/-- A document that breaks off is noted on a page that has no place to show a list. -/
theorem mount_broken_without_place :
    (mount (some "[\x7b\"id\": 1,") false).log =
        [⟨.error, "Error parsing organization data: EOF while parsing a value"⟩] ∧
      ¬MountsAsTold (some "[\x7b\"id\": 1,") false := by
  have hlog : (mount (some "[\x7b\"id\": 1,") false).log =
      [⟨.error, "Error parsing organization data: EOF while parsing a value"⟩] := by decide +kernel
  refine ⟨hlog, fun htold => ?_⟩
  rw [htold.absent (.inl rfl)] at hlog
  cases hlog

end Roster.Payload
