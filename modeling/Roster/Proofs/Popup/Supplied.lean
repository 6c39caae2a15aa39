import Roster.Popup.View
import Roster.Proofs.History
import Roster.Proofs.Popup.Asking

/-!
# Scores that come with an organization

A popup shows the scores that an organization comes with, and does not ask for any. But it looks
first whether it waits for scores of that organization. They may have become known by other means
after it asked for them, and then it shows that it is loading until the request is answered. So it
shows supplied scores exactly when no request for the same organization is outstanding.
-/

namespace Roster.Popup

variable {α : Type}

namespace Scene

variable [FocusHost α]

/-- An operation leaves a request for the scores of an organization as it is: it leads to no other,
does not hide the popup, and does not bring the scores. -/
def Leaves (s : Scene α) (op : Operation α) (id : OrganizationId) : Prop :=
  (s.perform op).requests = [] ∧ op.shown? ≠ some false ∧
    ∀ result, op ≠ .receiveScores id result

/-- After operations a request for the scores of an organization is outstanding: one of them led to
it, and all after that left it as it is. -/
def Outstanding (s : Scene α) (ops : List (Operation α)) (id : OrganizationId) : Prop :=
  Since (fun before op => ((s.run before).perform op).requests = [.scores id])
    (fun before op => (s.run before).Leaves op id) ops

/-- Scores of an organization are loading after an operation that asked for them, or if they were
loading before and the operation left it so. -/
theorem loading_perform_iff (s : Scene α) (op : Operation α) (id : OrganizationId) :
    (s.perform op).state.popup.scores = .loading id ↔
      (s.perform op).requests = [.scores id] ∨
        s.popup.scores = .loading id ∧ s.Leaves op id := by
  cases op with
  | sync organization visible =>
    cases visible with
    | false =>
      have hidden : (s.perform (.sync organization false)).state.popup = .hidden ∧
          (s.perform (.sync organization false)).requests = [] := by
        cases organization <;> exact ⟨rfl, rfl⟩
      simp [hidden, Popup.hidden, Leaves, Operation.shown?]
    | true =>
      have hkept := (s.popup.setVisible_true s.listeners).2.2
      cases organization with
      | none => simp [perform, sync, hkept, Leaves, Operation.shown?]
      | some o =>
        have hrequests : (s.perform (.sync (some o) true)).requests =
            ((s.popup.setVisible true s.listeners).1.requestScores o).requests := rfl
        have hstate : (s.perform (.sync (some o) true)).state.popup =
            ((s.popup.setVisible true s.listeners).1.requestScores o).state := rfl
        rw [Leaves, hrequests, hstate, requestScores]
        split
        · simp [hkept, Operation.shown?]
        · simp [eq_comm]
  | receiveScores other result =>
    simp only [perform, Leaves, Step.map_state, Step.map_requests]
    by_cases hloading : s.popup.scores = .loading other
    · obtain ⟨hstate, hrequests⟩ := s.popup.receiveScores_of_loading other result hloading
      simp [hstate, hrequests, hloading, Operation.shown?]
    · rw [s.popup.receiveScores_of_ne other result hloading]
      have hother (h : s.popup.scores = .loading id) : other ≠ id := by
        rintro rfl
        exact hloading h
      simpa [Operation.shown?] using hother
  | teardown => simp [perform, teardown, Popup.hidden, Leaves, Operation.shown?]
  | gesture gesture close => simp [perform, Leaves, Operation.shown?]
  | elsewhere change => simp [perform, Leaves, Operation.shown?]

/-- The scores of an organization are loading exactly while a request for them is outstanding. -/
theorem loading_run_iff {s : Scene α} (hidle : s.popup.scores = .idle) (ops : List (Operation α))
    (id : OrganizationId) :
    (s.run ops).popup.scores = .loading id ↔ s.Outstanding ops id := by
  refine iff_since_of_concat (P := fun ops => (s.run ops).popup.scores = .loading id) ?_ ?_ ops
  · change s.popup.scores ≠ .loading id
    rw [hidle]
    exact nofun
  · intro ops op
    rw [run_append]
    exact (s.run ops).loading_perform_iff op id

end Scene

/-- A popup that does not wait for the scores of an organization shows those that it comes with. -/
theorem scoresView_of_supplied (p : Popup) {o : Organization} {scores : List Score}
    (h : o.scores = some scores) (hne : scores ≠ []) :
    (p.scores = .loading o.id → p.scoresView o = .loading) ∧
      (p.scores ≠ .loading o.id →
        p.scoresView o = .rows (scores.map fun s => ⟨s.kind, Figures.score s.average⟩)) := by
  have hknown : o.knownScores = some scores := by simp [Organization.knownScores, h, hne]
  constructor
  · intro hloading
    simp [scoresView, waitsFor, hloading]
  · intro hloading
    have hwaits : p.waitsFor o = false := by
      unfold waitsFor
      cases hscores : p.scores with
      | idle => rfl
      | loading id => exact beq_false_of_ne fun heq => hloading (by rw [hscores, heq])
      | loaded id scores => rfl
    rw [scoresView, hwaits, if_neg Bool.false_ne_true, hknown, Option.getD_some, scoreRows,
      List.isEmpty_eq_false_iff.mpr hne, if_neg Bool.false_ne_true]
    rfl

/-- Whatever a popup has gone through, for an organization that comes with scores it shows exactly
these, one row each with the name and the figure, unless a request for the scores of the same
organization is outstanding. While one is, it shows that it is loading. -/
theorem shows_supplied_iff [FocusHost α] (around : α) (ops : List (Operation α)) {o : Organization}
    {scores : List Score} (h : o.scores = some scores) (hne : scores ≠ []) :
    let start := Scene.opening around
    ∃ v, (start.run ops).popup.view (some o) true = some v ∧
      (v.scores = .rows (scores.map fun s => ⟨s.kind, Figures.score s.average⟩) ↔
        ¬start.Outstanding ops o.id) ∧
      (v.scores = .loading ↔ start.Outstanding ops o.id) := by
  intro start
  obtain ⟨hloading, hrows⟩ := (start.run ops).popup.scoresView_of_supplied h hne
  refine ⟨(start.run ops).popup.viewOf o, rfl, ?_⟩
  rw [← Scene.loading_run_iff (s := start) rfl]
  by_cases hwaits : (start.run ops).popup.scores = .loading o.id
  · simp [viewOf, hloading hwaits, hwaits]
  · simp [viewOf, hrows hwaits, hwaits]

/-- Once the request is answered, the scores that an organization comes with win over the answer. -/
theorem shows_supplied_over_answer :
    let o := { Organization.bare 1 with scores := some [⟨"Culture", 4⟩] }
    let ops : List (Operation SearchFocus) :=
      [.sync (some (Organization.bare 1)) true, .receiveScores 1 (.ok [⟨"Growth", 2⟩])]
    o.scores = some [⟨"Culture", 4⟩] ∧
      ∃ v, ((Scene.opening (⟨false⟩ : SearchFocus)).run ops).popup.view (some o) true = some v ∧
        v.scores = .rows [⟨"Culture", Figures.score 4⟩] := by
  intro o ops
  have hsupplied : o.scores = some [⟨"Culture", 4⟩] := rfl
  obtain ⟨v, hview, hrows, _⟩ :=
    shows_supplied_iff (⟨false⟩ : SearchFocus) ops hsupplied (by simp)
  have hloaded : ((Scene.opening (⟨false⟩ : SearchFocus)).run ops).popup.scores =
      .loaded 1 [⟨"Growth", 2⟩] := rfl
  refine ⟨hsupplied, v, hview, hrows.mpr ?_⟩
  rw [← Scene.loading_run_iff rfl, hloaded]
  simp

/-- The scores of an organization become known with its details while they are asked for: the popup
asks for no more, but still shows that it is loading. -/
theorem loading_hides_supplied :
    let o := Organization.bare 1
    let merged := o.mergeDetail { OrganizationDetail.blank with scores := some [⟨"Culture", 4⟩] }
    let start := Scene.opening (⟨false⟩ : SearchFocus)
    let ops : List (Operation SearchFocus) := [.sync (some o) true, .sync (some merged) true]
    merged.scores = some [⟨"Culture", 4⟩] ∧ start.asked ops = [.scores 1] ∧
      ((start.run ops).popup.view (some merged) true).map View.scores = some .loading :=
  ⟨rfl, rfl, rfl⟩

end Roster.Popup
