/-!
# Keyboard listeners

A register of the listeners attached to the keyboard. Ids count up from one and are never given out
twice; removing an id that is not attached does nothing.
-/

namespace Roster

/-- The register: the last id given out, the ids attached in order, and how many listeners have been
added and removed. -/
structure Listeners where
  last : Nat
  attached : List Nat
  added : Nat
  removed : Nat
  deriving DecidableEq, Repr

namespace Listeners

/-- The register before anything is attached. -/
def empty : Listeners := ⟨0, [], 0, 0⟩

/-- The id that the next listener gets. -/
def next (l : Listeners) : Nat :=
  l.last + 1

/-- Attaches a listener under the next id. -/
def add (l : Listeners) : Listeners :=
  ⟨l.next, l.attached ++ [l.next], l.added + 1, l.removed⟩

/-- Whether an id is attached. -/
def isAttached (l : Listeners) (id : Nat) : Bool :=
  l.attached.contains id

/-- Detaches an id. -/
def remove (l : Listeners) (id : Nat) : Listeners :=
  if l.isAttached id then { l with attached := l.attached.erase id, removed := l.removed + 1 }
  else l

/-- How many listeners are attached. -/
def count (l : Listeners) : Nat :=
  l.attached.length

/-- Removing an id that is not attached changes nothing. -/
theorem remove_of_not_attached {l : Listeners} {id : Nat} (h : l.isAttached id = false) :
    l.remove id = l := by
  simp [remove, h]

/-- Removing an id leaves the last one given out as it is. -/
@[simp]
theorem last_remove (l : Listeners) (id : Nat) : (l.remove id).last = l.last := by
  unfold remove
  split <;> rfl

/-- Removing an id leaves the number added as it is. -/
@[simp]
theorem added_remove (l : Listeners) (id : Nat) : (l.remove id).added = l.added := by
  unfold remove
  split <;> rfl

end Listeners

end Roster
