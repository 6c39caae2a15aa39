import Roster.Listeners
import Roster.Word

/-!
# The balance of the listeners

Listeners are added to a register and removed from it in any order; among the ids to be removed may
be some that were never given out, and some that were removed before. A new id is one more than the
last, so none is given out twice. From this it follows, by induction on the calls, that the ids
attached are those added and not removed since, in the order of their addition, and that the number
added is that of the removed and the attached together. No number that the register keeps exceeds
the number added: it can count in words exactly as long as that one is a word.
-/

namespace Roster.Listeners

/-- Something asked of a register. -/
inductive Call where
  | add
  | remove (id : Nat)
  deriving DecidableEq, Repr

/-- A call as the caller knows it: the id under which a listener was added, or the id of the one to
be removed. -/
inductive Event where
  | added (id : Nat)
  | removal (id : Nat)
  deriving DecidableEq, Repr

/-- The ids of the listeners added, in order. -/
def given : List Event → List Nat
  | [] => []
  | .added id :: rest => id :: given rest
  | .removal _ :: rest => given rest

/-- The ids of the listeners added whose removal has not been asked for since, in order. -/
def standing : List Event → List Nat
  | [] => []
  | .added id :: rest => if .removal id ∈ rest then standing rest else id :: standing rest
  | .removal _ :: rest => standing rest

/-- The ids that stand are some of those given out, in the same order. -/
theorem standing_sublist_given (events : List Event) :
    (standing events).Sublist (given events) := by
  induction events with
  | nil => exact .slnil
  | cons event rest ih =>
    cases event with
    | added id =>
      unfold standing given
      split
      · exact ih.cons id
      · exact ih.cons_cons id
    | removal id => exact ih

/-- The register after a call. -/
def perform (l : Listeners) : Call → Listeners
  | .add => l.add
  | .remove id => l.remove id

/-- What the caller knows of a call. -/
def answer (l : Listeners) : Call → Event
  | .add => .added l.next
  | .remove id => .removal id

/-- The register after calls, the first of them made first. -/
def run (l : Listeners) (calls : List Call) : Listeners :=
  calls.foldl perform l

/-- What the callers know of calls, in order. -/
def events (l : Listeners) : List Call → List Event
  | [] => []
  | call :: rest => l.answer call :: (l.perform call).events rest

variable {l : Listeners}

/-! ## Numbering -/

/-- A removal adds no listener. -/
theorem count_add_remove (id : Nat) (calls : List Call) :
    (Call.remove id :: calls).count .add = calls.count .add := by
  have hne : Call.remove id ≠ .add := nofun
  exact List.count_cons_of_ne hne

/-- Every listener added takes one id. -/
theorem last_run (l : Listeners) (calls : List Call) :
    (l.run calls).last = l.last + calls.count .add := by
  induction calls generalizing l with
  | nil => rfl
  | cons call rest ih =>
    have hrest : (l.run (call :: rest)).last = (l.perform call).last + rest.count .add := ih _
    cases call with
    | add =>
      rw [hrest, List.count_cons_self]
      exact Nat.succ_add_eq_add_succ l.last (rest.count .add)
    | remove id => rw [hrest, count_add_remove, perform, last_remove]

/-- The ids given out are numbered without a gap. -/
theorem given_events (l : Listeners) (calls : List Call) :
    given (l.events calls) = List.range' l.next (calls.count .add) := by
  induction calls generalizing l with
  | nil => rfl
  | cons call rest ih =>
    have hrest := ih (l.perform call)
    cases call with
    | add =>
      rw [List.count_cons_self, List.range'_succ]
      exact congrArg (l.next :: ·) hrest
    | remove id =>
      rw [count_add_remove, next, ← l.last_remove id]
      exact hrest

/-- An id that was given out in a run does not exceed the last one. -/
theorem le_last_of_mem_given {id : Nat} {calls : List Call} (h : id ∈ given (l.events calls)) :
    id ≤ (l.run calls).last := by
  rw [given_events, List.mem_range'_1] at h
  have hlast := l.last_run calls
  have hnext : l.next = l.last + 1 := rfl
  omega

/-! ## Balance -/

/-- A register is balanced: its last id is the number of listeners added, which is that of the
removed and the attached together, and the ids attached are distinct and given out. -/
structure Balanced (l : Listeners) : Prop where
  numbered : l.added = l.last
  within : ∀ id ∈ l.attached, id ≤ l.last
  distinct : l.attached.Nodup
  balanced : l.added = l.removed + l.count

/-- A register to which nothing is attached yet is balanced. -/
theorem balanced_empty : empty.Balanced where
  numbered := rfl
  within := nofun
  distinct := .nil
  balanced := rfl

/-- The next id is not attached. -/
theorem Balanced.next_not_mem (h : l.Balanced) : l.next ∉ l.attached :=
  fun hnext => Nat.not_succ_le_self l.last (h.within l.next hnext)

/-- Adding a listener keeps the balance. -/
theorem Balanced.add (h : l.Balanced) : l.add.Balanced where
  numbered := congrArg (· + 1) h.numbered
  within := by
    intro id hid
    rcases List.mem_append.mp hid with hold | hnew
    · exact Nat.le_succ_of_le (h.within id hold)
    · exact Nat.le_of_eq (List.mem_singleton.mp hnew)
  distinct := by
    refine List.nodup_append.mpr ⟨h.distinct, List.pairwise_singleton _ _, ?_⟩
    rintro id hold next hnew rfl
    exact h.next_not_mem (List.mem_singleton.mp hnew ▸ hold)
  balanced := by
    have hcount : l.add.count = l.count + 1 := List.length_append
    rw [hcount, ← Nat.add_assoc]
    exact congrArg (· + 1) h.balanced

/-- Removing a listener keeps the balance, whether it is attached or not. -/
theorem Balanced.remove (h : l.Balanced) (id : Nat) : (l.remove id).Balanced := by
  cases hid : l.isAttached id with
  | false =>
    rw [remove_of_not_attached hid]
    exact h
  | true =>
    have hmem : id ∈ l.attached := List.contains_iff_mem.mp hid
    have hcount : (l.attached.erase id).length + 1 = l.count := by
      rw [List.length_erase_of_mem hmem]
      exact Nat.sub_add_cancel (List.length_pos_of_mem hmem)
    rw [Listeners.remove, if_pos hid]
    refine ⟨h.numbered, fun other hother => h.within other (List.mem_of_mem_erase hother),
      h.distinct.erase id, ?_⟩
    calc
      l.added = l.removed + ((l.attached.erase id).length + 1) := hcount ▸ h.balanced
      _ = l.removed + 1 + (l.attached.erase id).length := Nat.add_right_comm l.removed _ 1

/-- Every call keeps the balance. -/
theorem Balanced.perform (h : l.Balanced) (call : Call) : (l.perform call).Balanced := by
  cases call with
  | add => exact h.add
  | remove id => exact h.remove id

/-- Every run keeps the balance. -/
theorem Balanced.run (h : l.Balanced) (calls : List Call) : (l.run calls).Balanced := by
  induction calls generalizing l with
  | nil => exact h
  | cons call rest ih => exact ih (h.perform call)

/-! ## What is attached -/

/-- Removing a listener takes its id out, and no other. -/
theorem Balanced.attached_remove (h : l.Balanced) (id : Nat) :
    (l.remove id).attached = l.attached.filter (· ≠ id) := by
  cases hid : l.isAttached id with
  | false =>
    have hother : ∀ other ∈ l.attached, decide (other ≠ id) = true := by
      rintro other hother
      refine decide_eq_true ?_
      rintro rfl
      exact Bool.false_ne_true (hid.symm.trans (List.contains_iff_mem.mpr hother))
    rw [remove_of_not_attached hid, List.filter_eq_self.mpr hother]
  | true =>
    have herase : (l.remove id).attached = l.attached.erase id := by
      rw [Listeners.remove, if_pos hid]
    rw [herase, h.distinct.erase_eq_filter]
    exact List.filter_congr fun other _ => Bool.eq_iff_iff.mpr (by simp)

/-- After a run those are attached that were so before or were added in it, and whose removal has
not been asked for since. -/
theorem Balanced.attached_run (h : l.Balanced) (calls : List Call) :
    (l.run calls).attached =
      l.attached.filter (.removal · ∉ l.events calls) ++ standing (l.events calls) := by
  -- After the first call some ids are attached already, so the induction carries them along.
  induction calls generalizing l with
  | nil =>
    change l.attached = l.attached.filter (Event.removal · ∉ []) ++ []
    have hall : ∀ id ∈ l.attached, decide (Event.removal id ∉ []) = true :=
      fun _ _ => decide_eq_true List.not_mem_nil
    rw [List.append_nil, List.filter_eq_self.mpr hall]
  | cons call rest ih =>
    cases call with
    | add =>
      have hrest : (l.add.run rest).attached = _ := ih h.add
      change (l.add.run rest).attached = _
      have hevents : l.events (.add :: rest) = .added l.next :: l.add.events rest := rfl
      have hattached : l.add.attached = l.attached ++ [l.next] := rfl
      rw [hrest, hevents, hattached, List.filter_append]
      by_cases hremoved : .removal l.next ∈ l.add.events rest <;> simp [standing, hremoved]
    | remove id =>
      have hrest : ((l.remove id).run rest).attached = _ := ih (h.remove id)
      change ((l.remove id).run rest).attached = _
      have hevents : l.events (.remove id :: rest) = .removal id :: (l.remove id).events rest := rfl
      rw [hrest, hevents, h.attached_remove, List.filter_filter]
      simp [standing, Bool.and_comm]

/-- An id that was given out and is not attached is never attached again. -/
theorem Balanced.not_mem_attached_run {id : Nat} (h : l.Balanced) (hgiven : id ≤ l.last)
    (hid : id ∉ l.attached) (calls : List Call) : id ∉ (l.run calls).attached := by
  rw [h.attached_run, List.mem_append]
  rintro (hold | hnew)
  · exact hid (List.mem_filter.mp hold).1
  · have hrange := (standing_sublist_given _).mem hnew
    rw [given_events, List.mem_range'_1] at hrange
    exact Nat.not_succ_le_self l.last (Nat.le_trans hrange.1 hgiven)

/-- An id that is removed once it was given out is never attached again. -/
theorem Balanced.not_mem_attached_of_removed {id : Nat} (h : l.Balanced) (hgiven : id ≤ l.last)
    (calls : List Call) : id ∉ ((l.remove id).run calls).attached := by
  have hremoved : id ∉ (l.remove id).attached := by
    rw [h.attached_remove, List.mem_filter]
    rintro ⟨-, hne⟩
    exact of_decide_eq_true hne rfl
  have hlast : id ≤ (l.remove id).last := by
    rw [last_remove]
    exact hgiven
  exact (h.remove id).not_mem_attached_run hlast hremoved calls

/-! ## Counting in words -/

/-- The word after a word, unless that is the greatest one. -/
def wordAfter? (n : Nat) : Option Nat :=
  if n < wordMax then some (n + 1) else none

/-- Attaches a listener, if the next id and the number added are words. -/
def add? (l : Listeners) : Option Listeners :=
  (wordAfter? l.last).bind fun id =>
    (wordAfter? l.added).map fun added => ⟨id, l.attached ++ [id], added, l.removed⟩

/-- Detaches an id, if the number removed is a word. -/
def remove? (l : Listeners) (id : Nat) : Option Listeners :=
  if l.isAttached id then
    (wordAfter? l.removed).map fun removed =>
      { l with attached := l.attached.erase id, removed := removed }
  else some l

/-- The register after a call, if it counts in words. -/
def perform? (l : Listeners) : Call → Option Listeners
  | .add => l.add?
  | .remove id => l.remove? id

/-- The register after calls, if it counts in words. -/
def run? (l : Listeners) : List Call → Option Listeners
  | [] => some l
  | call :: rest => (l.perform? call).bind fun next => next.run? rest

/-- A balanced register adds a listener as long as the number added stays a word. -/
theorem Balanced.add?_eq (h : l.Balanced) :
    l.add? = if l.added < wordMax then some l.add else none := by
  unfold Listeners.add? wordAfter?
  rw [← h.numbered]
  split
  · simp [Listeners.add, next, h.numbered]
  · rfl

/-- A balanced register removes a listener without counting beyond the number added. -/
theorem Balanced.remove?_eq (h : l.Balanced) (hadded : l.added ≤ wordMax) (id : Nat) :
    l.remove? id = some (l.remove id) := by
  unfold Listeners.remove? Listeners.remove
  split
  · rename_i hid
    have hcount : 0 < l.count := List.length_pos_of_mem (List.contains_iff_mem.mp hid)
    have hremoved : l.removed < wordMax := by
      have := h.balanced
      omega
    rw [wordAfter?, if_pos hremoved, Option.map_some]
  · rfl

/-- A balanced register counts in words exactly as long as the number added is one. -/
theorem Balanced.run?_eq (h : l.Balanced) (hadded : l.added ≤ wordMax) (calls : List Call) :
    l.run? calls = if l.added + calls.count .add ≤ wordMax then some (l.run calls) else none := by
  induction calls generalizing l with
  | nil => exact (if_pos hadded).symm
  | cons call rest ih =>
    cases call with
    | add =>
      have hrun : l.run? (.add :: rest) = l.add?.bind fun next => next.run? rest := rfl
      rw [hrun, h.add?_eq, List.count_cons_self]
      by_cases hlt : l.added < wordMax
      · have hcount : l.add.added + rest.count .add = l.added + (rest.count .add + 1) :=
          Nat.succ_add_eq_add_succ l.added (rest.count Call.add)
        rw [if_pos hlt, Option.bind_some, ih h.add hlt, hcount]
        rfl
      · have hover : ¬ l.added + (rest.count .add + 1) ≤ wordMax := by omega
        rw [if_neg hlt, if_neg hover, Option.bind_none]
    | remove id =>
      have hrun : l.run? (.remove id :: rest) = (l.remove? id).bind fun next => next.run? rest :=
        rfl
      have hrest := ih (h.remove id) (l.added_remove id ▸ hadded)
      rw [hrun, h.remove?_eq hadded, Option.bind_some, hrest, added_remove, count_add_remove]
      rfl

/-- A new register counts in words exactly as long as fewer than `2 ^ 64` listeners are added. -/
theorem run?_empty_eq_some_iff (calls : List Call) :
    empty.run? calls = some (empty.run calls) ↔ calls.count .add ≤ wordMax := by
  have hrun : empty.run? calls =
      if 0 + calls.count .add ≤ wordMax then some (empty.run calls) else none :=
    balanced_empty.run?_eq (Nat.zero_le wordMax) calls
  rw [hrun, Nat.zero_add, Option.ite_none_right_eq_some]
  exact and_iff_left rfl

/-- A new register to which fewer than `2 ^ 64` calls are made counts in words, whatever ids are
removed. It gives out no id twice. The ids attached are distinct, and are those of the listeners
added and not removed since, in the order in which they were added. The number added is that of the
removed and the attached together. Removing an id that is not attached changes nothing, and one that
was removed after it had been given out is not attached again. -/
theorem balance_run (calls : List Call) (h : calls.length ≤ wordMax) :
    let l := empty.run calls
    let events := empty.events calls
    empty.run? calls = some l ∧
      (given events).Nodup ∧
      (l.attached.Nodup ∧ l.attached = standing events ∧
        ∀ id, l.isAttached id = true ↔ id ∈ standing events) ∧
      (l.added = (given events).length ∧ l.added = l.removed + l.count) ∧
      (∀ id, l.isAttached id = false → l.remove id = l) ∧
      ∀ before id after, calls = before ++ .remove id :: after →
        id ∈ given (empty.events before) → l.isAttached id = false := by
  intro l events
  have hbalanced : l.Balanced := balanced_empty.run calls
  have hgiven : given events = List.range' 1 (calls.count .add) := empty.given_events calls
  have hattached : l.attached = standing events := balanced_empty.attached_run calls
  refine ⟨?_, ?_, ⟨hbalanced.distinct, hattached, ?_⟩, ⟨?_, hbalanced.balanced⟩,
    fun id hid => remove_of_not_attached hid, ?_⟩
  · exact (run?_empty_eq_some_iff calls).mpr (Nat.le_trans List.count_le_length h)
  · rw [hgiven]
    exact List.nodup_range'
  · intro id
    rw [← hattached]
    exact List.contains_iff_mem
  · have hlast : l.last = 0 + calls.count .add := empty.last_run calls
    rw [hbalanced.numbered, hlast, hgiven, List.length_range', Nat.zero_add]
  · rintro before id after rfl hid
    have hbefore : (empty.run before).Balanced := balanced_empty.run before
    have hgone := hbefore.not_mem_attached_of_removed (le_last_of_mem_given hid) after
    have hrun : l = ((empty.run before).remove id).run after := List.foldl_append
    rw [hrun, isAttached, List.contains_eq_mem]
    exact decide_eq_false hgone

/-- Ids that are removed before they are given out, twice, and without having been given out. -/
theorem balance_run_of_foreign_removals :
    let calls := [.remove 1, .add, .add, .add, .remove 2, .remove 2, .remove 9, .add]
    calls.length ≤ wordMax ∧ empty.run? calls = some (empty.run calls) ∧
      (empty.run calls).attached = [1, 3, 4] ∧
      (empty.run calls).added = (empty.run calls).removed + 3 ∧
      (empty.run calls).remove 2 = empty.run calls ∧ (empty.run calls).isAttached 2 = false := by
  intro calls
  have hlength : calls.length ≤ wordMax := by decide
  obtain ⟨hwords, -, ⟨-, hattached, -⟩, ⟨-, hbalanced⟩, hremove, hgone⟩ := balance_run calls hlength
  have hremoved : (empty.run calls).isAttached 2 = false :=
    hgone [.remove 1, .add, .add, .add] 2 [.remove 2, .remove 9, .add] rfl (by decide)
  exact ⟨hlength, hwords, hattached.trans (by decide), hbalanced.trans (by decide),
    hremove 2 hremoved, hremoved⟩

end Roster.Listeners
