import Roster.Popup.Basic

/-!
# Bringing the popup in line

When a popup is brought in line with what is to be shown it takes over the visibility, listens
exactly while it is shown, and forgets its scores when it is hidden. Scores are asked for at most
once in a showing: only a popup without any asks, and from then on it has some.
-/

namespace Roster.Popup

/-- What becomes of the fetched scores when those of an organization may be asked for: nothing
changes, or the first request is sent and its scores are loading. -/
inductive Asks (id : OrganizationId) : FetchedScores → List Request → FetchedScores → Prop where
  | nothing (scores : FetchedScores) : Asks id scores [] scores
  | first : Asks id .idle [.scores id] (.loading id)

/-- The scores that an answer brings; a failure brings none. -/
def received : Fetched (List Score) → List Score
  | .ok scores => scores
  | .error _ => []

/-! ## Visibility -/

/-- A popup that is shown is visible, listens, and keeps its scores. -/
theorem setVisible_true (p : Popup) (l : Listeners) :
    (p.setVisible true l).1.visible = true ∧ (p.setVisible true l).1.listener.isSome = true ∧
      (p.setVisible true l).1.scores = p.scores := by
  unfold setVisible
  simp only [if_true]
  cases p.listener with
  | none => exact ⟨rfl, rfl, rfl⟩
  | some id => exact ⟨rfl, rfl, rfl⟩

/-! ## Scores -/

/-- A popup whose scores concern no other organization asks at most once. -/
theorem asks_requestScores (p : Popup) (o : Organization)
    (h : ∀ id, p.scores.concern id = true → id = o.id) :
    Asks o.id p.scores (p.requestScores o).requests (p.requestScores o).state.scores := by
  unfold requestScores
  by_cases hknown : (o.knownScores.isSome || p.scores.concern o.id) = true
  · rw [if_pos hknown]
    exact .nothing p.scores
  · rw [if_neg hknown]
    cases hscores : p.scores with
    | idle => exact .first
    | loading id =>
      obtain rfl : id = o.id := h id (by simp [hscores, FetchedScores.concern])
      simp [hscores, FetchedScores.concern] at hknown
    | loaded id scores =>
      obtain rfl : id = o.id := h id (by simp [hscores, FetchedScores.concern])
      simp [hscores, FetchedScores.concern] at hknown

/-- Asking for scores changes nothing but the scores. -/
theorem requestScores_shown (p : Popup) (o : Organization) :
    (p.requestScores o).state.visible = p.visible ∧
      (p.requestScores o).state.listener = p.listener := by
  unfold requestScores
  split <;> exact ⟨rfl, rfl⟩

/-- Scores that may have been asked for concern the organization, if what was there did. -/
theorem Asks.concern {id : OrganizationId} {before later : FetchedScores} {requests : List Request}
    (h : Asks id before requests later)
    (hbefore : ∀ other, before.concern other = true → other = id) :
    ∀ other, later.concern other = true → other = id := by
  cases h with
  | nothing => exact hbefore
  | first => exact fun other hother => (eq_of_beq hother).symm

/-- Scores are taken in only while they are loading. -/
theorem receiveScores_of_ne (p : Popup) (id : OrganizationId) (result : Fetched (List Score))
    (h : p.scores ≠ .loading id) : p.receiveScores id result = .silent p := by
  unfold receiveScores
  cases hscores : p.scores with
  | idle => rfl
  | loaded other scores => rfl
  | loading other =>
    have hne : ¬(other == id) = true := fun heq => h (by rw [hscores, eq_of_beq heq])
    simp only [hne, Bool.false_eq_true, if_false]

/-- Scores that were loading are loaded afterwards, with what the answer brought. -/
theorem receiveScores_of_loading (p : Popup) (id : OrganizationId) (result : Fetched (List Score))
    (h : p.scores = .loading id) :
    (p.receiveScores id result).state = { p with scores := .loaded id (received result) } ∧
      (p.receiveScores id result).requests = [] := by
  unfold receiveScores
  rw [h]
  simp only [beq_self_eq_true, if_true]
  cases result <;> exact ⟨rfl, rfl⟩

/-- Scores that come in lead to no request. -/
theorem receiveScores_requests (p : Popup) (id : OrganizationId) (result : Fetched (List Score)) :
    (p.receiveScores id result).requests = [] := by
  by_cases hloading : p.scores = .loading id
  · exact (p.receiveScores_of_loading id result hloading).2
  · rw [p.receiveScores_of_ne id result hloading]
    rfl

end Roster.Popup
