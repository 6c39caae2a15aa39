import Mathlib.Data.List.Induction

/-!
# What has been so since

Of many things a history tells that they began at one of its events and that every event after kept
them up. What an event begins or keeps up may depend on what happened before it. A property of
histories is of this kind when one more event either begins it, or keeps it up where it was so
already.
-/

namespace Roster

variable {α : Type} {starts keeps : List α → α → Prop}

/-- Something has been so since an event of the history: that event starts it, and every event after
keeps it up. -/
def Since (starts keeps : List α → α → Prop) (history : List α) : Prop :=
  ∃ before e after, history = before ++ e :: after ∧ starts before e ∧
    ∀ middle next rest, after = middle ++ next :: rest → keeps (before ++ e :: middle) next

/-- Nothing has been so since the beginning. -/
theorem not_since_nil : ¬Since starts keeps [] := by
  rintro ⟨before, e, after, hnil, _⟩
  simp at hnil

/-- Something is so after one more event if that event starts it, or keeps it up. -/
theorem since_concat_iff {history : List α} {e : α} :
    Since starts keeps (history ++ [e]) ↔
      starts history e ∨ Since starts keeps history ∧ keeps history e := by
  constructor
  · rintro ⟨before, first, after, heq, hstarts, hkeeps⟩
    rcases List.eq_nil_or_concat after with rfl | ⟨middle, last, rfl⟩
    · obtain ⟨rfl, hlast⟩ := List.append_inj' heq rfl
      obtain rfl : e = first := List.singleton_inj.mp hlast
      exact .inl hstarts
    · rw [List.concat_eq_append, ← List.cons_append, ← List.append_assoc] at heq
      obtain ⟨rfl, hlast⟩ := List.append_inj' heq rfl
      obtain rfl : e = last := List.singleton_inj.mp hlast
      refine .inr ⟨⟨before, first, middle, rfl, hstarts, fun inner next rest hmiddle => ?_⟩,
        hkeeps middle e [] List.concat_eq_append⟩
      exact hkeeps inner next (rest ++ [e]) (by simp [hmiddle])
  · rintro (hstarts | ⟨⟨before, first, after, rfl, hstarts, hkeeps⟩, hkeep⟩)
    · exact ⟨history, e, [], rfl, hstarts, fun middle next rest hnil => by simp at hnil⟩
    · refine ⟨before, first, after ++ [e], by simp, hstarts, fun middle next rest hafter => ?_⟩
      rcases List.eq_nil_or_concat rest with rfl | ⟨inner, last, rfl⟩
      · obtain ⟨rfl, hlast⟩ := List.append_inj' hafter rfl
        obtain rfl : e = next := List.singleton_inj.mp hlast
        exact hkeep
      · rw [List.concat_eq_append, ← List.cons_append, ← List.append_assoc] at hafter
        exact hkeeps middle next inner (List.append_inj' hafter rfl).1

/-- When it does not matter what happened before, every event after the first keeps it up. -/
theorem since_iff_forall_mem {keeps : α → Prop} {history : List α} :
    Since starts (fun _ => keeps) history ↔
      ∃ before e after, history = before ++ e :: after ∧ starts before e ∧
        ∀ next ∈ after, keeps next := by
  have hmem (after : List α) : (∀ middle next rest, after = middle ++ next :: rest → keeps next) ↔
      ∀ next ∈ after, keeps next := by
    constructor
    · intro hkeeps next hnext
      obtain ⟨middle, rest, hafter⟩ := List.append_of_mem hnext
      exact hkeeps middle next rest hafter
    · rintro hkeeps middle next rest rfl
      exact hkeeps next (List.mem_append_right middle List.mem_cons_self)
  simp only [Since, hmem]

/-- A property that no history begins with, and that one more event starts or keeps up, tells what
has been so since. -/
theorem iff_since_of_concat {P : List α → Prop} (hnil : ¬P [])
    (hconcat : ∀ history e, P (history ++ [e]) ↔ starts history e ∨ P history ∧ keeps history e)
    (history : List α) : P history ↔ Since starts keeps history := by
  induction history using List.reverseRecOn with
  | nil => exact iff_of_false hnil not_since_nil
  | append_singleton history e ih => rw [hconcat, since_concat_iff, ih]

end Roster
