import Roster.Proofs.Popup.Sync

/-!
# The listener of the popup

A popup attaches a listener when it is shown and detaches it when it is hidden. As long as nothing
else uses the register, its listener is the only one attached, and every other listener that was
ever added has been removed again. Whatever the popup goes through, it comes out in order.
-/

namespace Roster.Popup

variable {p : Popup} {l : Listeners}

/-- A popup is in order: the listener attached is its own, it has one exactly while it is visible,
and while it is not it has no scores. -/
structure InOrder (p : Popup) (l : Listeners) : Prop where
  attached : l.attached = p.listener.toList
  balanced : l.added = l.removed + l.count
  listening : p.listener.isSome = p.visible
  idle : p.visible = false → p.scores = .idle

/-- A popup that has never been shown is in order. -/
theorem inOrder_hidden : hidden.InOrder .empty where
  attached := rfl
  balanced := rfl
  listening := rfl
  idle := fun _ => rfl

/-- A popup without a listener leaves the register empty. -/
theorem InOrder.attached_of_none (h : p.InOrder l) (hp : p.listener = none) : l.attached = [] := by
  rw [h.attached, hp]
  rfl

/-- Hiding a popup removes its listener. -/
theorem InOrder.hide (h : p.InOrder l) : hidden.InOrder (p.detach l) := by
  cases hp : p.listener with
  | none =>
    have hdetach : p.detach l = l := by simp [detach, hp]
    rw [hdetach]
    exact ⟨h.attached_of_none hp, h.balanced, rfl, fun _ => rfl⟩
  | some id =>
    have hattached : l.attached = [id] := by rw [h.attached, hp]; rfl
    have hdetach : p.detach l = { l with attached := [], removed := l.removed + 1 } := by
      simp [detach, hp, Listeners.remove, Listeners.isAttached, hattached]
    rw [hdetach]
    refine ⟨rfl, ?_, rfl, fun _ => rfl⟩
    simpa [Listeners.count, hattached] using h.balanced

/-- Showing a popup gives it a listener, unless it has one. -/
theorem InOrder.setVisible (h : p.InOrder l) (visible : Bool) :
    (p.setVisible visible l).1.InOrder (p.setVisible visible l).2 := by
  cases visible with
  | false => exact h.hide
  | true =>
    cases hp : p.listener with
    | none =>
      have hset : p.setVisible true l = (⟨p.scores, some l.next, true⟩, l.add) := by
        simp [Popup.setVisible, hp]
      have hbalanced : l.added = l.removed := by
        simpa [Listeners.count, h.attached_of_none hp] using h.balanced
      rw [hset]
      refine ⟨?_, ?_, rfl, nofun⟩
      · simp [Listeners.add, h.attached_of_none hp]
      · simp [Listeners.add, Listeners.count, h.attached_of_none hp, hbalanced]
    | some id =>
      have hset : p.setVisible true l = (⟨p.scores, some id, true⟩, l) := by
        simp [Popup.setVisible, hp]
      rw [hset]
      exact ⟨by rw [h.attached, hp], h.balanced, rfl, nofun⟩

/-- While a popup is visible it may take in or ask for any scores. -/
theorem InOrder.withScores (h : p.InOrder l) (visible : p.visible = true) (scores : FetchedScores) :
    { p with scores := scores }.InOrder l where
  attached := h.attached
  balanced := h.balanced
  listening := h.listening
  idle := fun hidden => by simp [visible] at hidden

/-- A visible popup may ask for the scores of an organization. -/
theorem InOrder.requestScores (h : p.InOrder l) (visible : p.visible = true) (o : Organization) :
    (p.requestScores o).state.InOrder l := by
  unfold Popup.requestScores
  split
  · exact h
  · exact h.withScores visible _

/-- A popup that is brought in line is in order afterwards. -/
theorem InOrder.sync (h : p.InOrder l) (organization : Option Organization) (visible : Bool) :
    (p.sync organization visible l).state.1.InOrder (p.sync organization visible l).state.2 := by
  have hset := h.setVisible visible
  cases organization with
  | none => exact hset
  | some o =>
    cases visible with
    | false => exact hset
    | true =>
      have hvisible : (p.setVisible true l).1.visible = true := by
        rw [← hset.listening]
        unfold Popup.setVisible
        cases p.listener <;> rfl
      exact hset.requestScores hvisible o

/-- Scores that are taken in leave a popup in order: only a visible one waits for any. -/
theorem InOrder.receiveScores (h : p.InOrder l) (id : OrganizationId)
    (result : Fetched (List Score)) : (p.receiveScores id result).state.InOrder l := by
  by_cases hloading : p.scores = .loading id
  · have hvisible : p.visible = true := by
      cases hp : p.visible with
      | true => rfl
      | false => exact absurd (hloading.symm.trans (h.idle hp)) nofun
    rw [(p.receiveScores_of_loading id result hloading).1]
    exact h.withScores hvisible _
  · rw [p.receiveScores_of_ne id result hloading]
    exact h

/-- One listener is attached while a popup is visible, and none while it is not. -/
theorem InOrder.count (h : p.InOrder l) : l.count = if p.visible then 1 else 0 := by
  rw [Listeners.count, h.attached, ← h.listening]
  cases p.listener <;> rfl

end Roster.Popup
