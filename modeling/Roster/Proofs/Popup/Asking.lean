import Mathlib.Data.List.Destutter
import Roster.Proofs.Directory.Run
import Roster.Proofs.Popup.Scene

/-!
# What a popup asks for during a showing

While it is shown, a popup may be given one organization after the other. It keeps in mind only the
last one that it has asked the scores of. So it asks for those of an organization that comes without
any unless it did so for the same organization last: once for each stretch without another. Each
organization of a showing is asked for once exactly when none comes back after another one.
-/

namespace Roster

/-- The organization that fetched scores are about. -/
def FetchedScores.subject : FetchedScores → Option OrganizationId
  | .idle => none
  | .loading id => some id
  | .loaded id _ => some id

theorem FetchedScores.concern_iff {s : FetchedScores} {id : OrganizationId} :
    s.concern id = true ↔ s.subject = some id := by
  cases s <;> simp [concern, subject]

namespace Popup

variable {α : Type}

/-- Scores that come in are about the organization that they were asked for. -/
theorem subject_receiveScores (p : Popup) (id : OrganizationId) (result : Fetched (List Score)) :
    (p.receiveScores id result).requests = [] ∧
      (p.receiveScores id result).state.scores.subject = p.scores.subject := by
  by_cases hloading : p.scores = .loading id
  · obtain ⟨hstate, hrequests⟩ := p.receiveScores_of_loading id result hloading
    rw [hstate, hloading]
    exact ⟨hrequests, rfl⟩
  · rw [p.receiveScores_of_ne id result hloading]
    exact ⟨rfl, rfl⟩

/-- Scores that are not known are asked for, unless the popup did so for the same organization last,
which is the last one then. -/
theorem requestScores_of_unknown (p : Popup) {o : Organization} (h : o.knownScores.isSome = false) :
    (p.requestScores o).requests = (if p.scores.subject = some o.id then [] else [.scores o.id]) ∧
      (p.requestScores o).state.scores.subject = some o.id := by
  rw [requestScores, h, Bool.false_or]
  by_cases hsubject : p.scores.subject = some o.id
  · rw [if_pos (FetchedScores.concern_iff.mpr hsubject), if_pos hsubject]
    exact ⟨rfl, hsubject⟩
  · rw [if_neg (fun hconcern => hsubject (FetchedScores.concern_iff.mp hconcern)),
      if_neg hsubject]
    exact ⟨rfl, rfl⟩

/-- The organization that an operation shows without known scores. -/
def Operation.needs? : Operation α → Option OrganizationId
  | .sync (some o) true => if o.knownScores.isSome then none else some o.id
  | _ => none

/-- The organizations that operations show without known scores. -/
def Operation.needed (ops : List (Operation α)) : List OrganizationId :=
  ops.filterMap Operation.needs?

/-- Operations belong to one showing when none of them hides the popup. -/
def Operation.Showing (ops : List (Operation α)) : Prop :=
  ∀ op ∈ ops, op.shown? ≠ some false

theorem Operation.Showing.of_append {before after : List (Operation α)}
    (h : Showing (before ++ after)) : Showing before :=
  fun op hop => h op (List.mem_append_left after hop)

namespace Scene

variable [FocusHost α]

/-- The requests that operations lead to, the first of them performed first. -/
def asked (s : Scene α) : List (Operation α) → List Request
  | [] => []
  | op :: rest => (s.perform op).requests ++ (s.perform op).state.asked rest

theorem run_append (s : Scene α) (before after : List (Operation α)) :
    s.run (before ++ after) = (s.run before).run after :=
  List.foldl_append

theorem asked_append (s : Scene α) (before after : List (Operation α)) :
    s.asked (before ++ after) = s.asked before ++ (s.run before).asked after := by
  induction before generalizing s with
  | nil => rfl
  | cons op rest ih =>
    rw [List.cons_append, asked, asked, ih, List.append_assoc]
    rfl

/-! ## One operation -/

/-- An operation that shows no organization without known scores asks for nothing. -/
theorem perform_of_needs_none (s : Scene α) {op : Operation α} (hneeds : op.needs? = none)
    (hshown : op.shown? ≠ some false) :
    (s.perform op).requests = [] ∧
      (s.perform op).state.popup.scores.subject = s.popup.scores.subject := by
  cases op with
  | sync organization visible =>
    obtain rfl : visible = true := by
      cases visible with
      | true => rfl
      | false => exact absurd rfl hshown
    have hkept := (s.popup.setVisible_true s.listeners).2.2
    cases organization with
    | none => exact ⟨rfl, congrArg FetchedScores.subject hkept⟩
    | some o =>
      have hknown : o.knownScores.isSome = true := by
        cases hknown : o.knownScores.isSome with
        | true => rfl
        | false => simp [Operation.needs?, hknown] at hneeds
      have hsilent : (s.popup.setVisible true s.listeners).1.requestScores o =
          .silent (s.popup.setVisible true s.listeners).1 := by
        rw [requestScores, hknown]
        rfl
      simp only [perform, sync, if_true, hsilent]
      exact ⟨rfl, congrArg FetchedScores.subject hkept⟩
  | receiveScores id result => exact s.popup.subject_receiveScores id result
  | teardown => exact absurd rfl hshown
  | gesture gesture close => exact ⟨rfl, rfl⟩
  | elsewhere change => exact ⟨rfl, rfl⟩

/-- An organization that is shown without known scores is asked for, unless it was so last. -/
theorem perform_of_needs_some (s : Scene α) {op : Operation α} {id : OrganizationId}
    (hneeds : op.needs? = some id) :
    (s.perform op).requests =
        (if s.popup.scores.subject = some id then [] else [.scores id]) ∧
      (s.perform op).state.popup.scores.subject = some id := by
  match op, hneeds with
  | .sync (some o) true, hneeds =>
    have hunknown : o.knownScores.isSome = false := by
      cases hknown : o.knownScores.isSome with
      | false => rfl
      | true => simp [Operation.needs?, hknown] at hneeds
    obtain rfl : o.id = id := by simpa [Operation.needs?, hunknown] using hneeds
    have hkept := (s.popup.setVisible_true s.listeners).2.2
    have hasked := (s.popup.setVisible true s.listeners).1.requestScores_of_unknown hunknown
    rw [hkept] at hasked
    simp only [perform, sync, if_true]
    exact hasked

/-! ## A showing -/

/-- After operations of one showing the popup keeps in mind the last organization that came without
known scores, or what it had in mind before. -/
theorem subject_run (s : Scene α) {ops : List (Operation α)} (h : Operation.Showing ops) :
    (s.run ops).popup.scores.subject =
      (Operation.needed ops).getLast?.or s.popup.scores.subject := by
  induction ops using List.reverseRecOn with
  | nil => rfl
  | append_singleton ops op ih =>
    have hrest := ih h.of_append
    rw [run_append, Operation.needed, List.filterMap_append]
    cases hneeds : op.needs? with
    | none =>
      have hshown : op.shown? ≠ some false := h op (by simp)
      rw [List.filterMap_cons_none hneeds, List.filterMap_nil, List.append_nil]
      exact ((s.run ops).perform_of_needs_none hneeds hshown).2.trans hrest
    | some id =>
      rw [List.filterMap_cons_some hneeds, List.filterMap_nil, List.getLast?_concat]
      exact ((s.run ops).perform_of_needs_some hneeds).2

/-- A popup that has asked for an organization asks next for the first other one. -/
theorem asked_of_subject {s : Scene α} {id : OrganizationId}
    (hsubject : s.popup.scores.subject = some id) {ops : List (Operation α)}
    (h : Operation.Showing ops) :
    Request.scores id :: s.asked ops =
      ((Operation.needed ops).destutter' (· ≠ ·) id).map Request.scores := by
  induction ops generalizing s id with
  | nil => rfl
  | cons op rest ih =>
    have hrest : Operation.Showing rest := fun op hop => h op (List.mem_cons_of_mem _ hop)
    cases hneeds : op.needs? with
    | none =>
      obtain ⟨hnothing, hkept⟩ := s.perform_of_needs_none hneeds (h op List.mem_cons_self)
      rw [Operation.needed, List.filterMap_cons_none hneeds, asked, hnothing, List.nil_append]
      exact ih (hkept.trans hsubject) hrest
    | some other =>
      obtain ⟨hrequests, hsome⟩ := s.perform_of_needs_some hneeds
      rw [hsubject] at hrequests
      have hnext := ih hsome hrest
      rw [Operation.needed, List.filterMap_cons_some hneeds, asked, hrequests]
      by_cases hsame : id = other
      · subst hsame
        rw [if_pos rfl, List.nil_append, List.destutter'_cons_neg _ (not_not.mpr rfl)]
        exact hnext
      · rw [if_neg (fun heq => hsame (Option.some.inj heq)), List.singleton_append,
          List.destutter'_cons_pos _ hsame, List.map_cons]
        exact congrArg _ hnext

/-- The requests of a showing are the organizations that came without known scores, without those
that came again at once. -/
theorem asked_of_idle {s : Scene α} (hidle : s.popup.scores.subject = none)
    {ops : List (Operation α)} (h : Operation.Showing ops) :
    s.asked ops = ((Operation.needed ops).destutter (· ≠ ·)).map Request.scores := by
  induction ops generalizing s with
  | nil => rfl
  | cons op rest ih =>
    have hrest : Operation.Showing rest := fun op hop => h op (List.mem_cons_of_mem _ hop)
    cases hneeds : op.needs? with
    | none =>
      obtain ⟨hnothing, hkept⟩ := s.perform_of_needs_none hneeds (h op List.mem_cons_self)
      rw [Operation.needed, List.filterMap_cons_none hneeds, asked, hnothing, List.nil_append]
      exact ih (hkept.trans hidle) hrest
    | some id =>
      obtain ⟨hrequests, hsome⟩ := s.perform_of_needs_some hneeds
      rw [hidle, if_neg nofun] at hrequests
      rw [Operation.needed, List.filterMap_cons_some hneeds, asked, hrequests, List.destutter_cons']
      exact asked_of_subject hsome hrest

/-- What a popup is asked at one place of a showing: an organization that comes without known scores
is asked for unless it is the last one that did. -/
theorem requests_of_idle {s : Scene α} (hidle : s.popup.scores.subject = none)
    {before : List (Operation α)} (h : Operation.Showing before) {op : Operation α}
    {id : OrganizationId} (hneeds : op.needs? = some id) :
    ((s.run before).perform op).requests =
      if (Operation.needed before).getLast? = some id then [] else [.scores id] := by
  have hsubject := s.subject_run h
  rw [hidle, Option.or_none] at hsubject
  rw [((s.run before).perform_of_needs_some hneeds).1, hsubject]

/-- The organizations asked for in a showing are those that came without known scores. -/
theorem mem_asked_iff {s : Scene α} (hidle : s.popup.scores.subject = none)
    {ops : List (Operation α)} (h : Operation.Showing ops) (id : OrganizationId) :
    .scores id ∈ s.asked ops ↔ id ∈ Operation.needed ops := by
  induction ops using List.reverseRecOn with
  | nil => simp [asked, Operation.needed]
  | append_singleton ops op ih =>
    have hbefore : Operation.Showing ops := h.of_append
    rw [asked_append, Operation.needed, List.filterMap_append, List.mem_append, List.mem_append,
      ih hbefore, asked, asked, List.append_nil, Operation.needed]
    cases hneeds : op.needs? with
    | none =>
      have hnothing := (s.run ops).perform_of_needs_none hneeds (h op (by simp))
      simp [hneeds, hnothing.1]
    | some other =>
      rw [requests_of_idle hidle hbefore hneeds, List.filterMap_cons_some hneeds]
      split
      · rename_i hlast
        have hmem := List.mem_of_getLast? hlast
        simp only [List.not_mem_nil, or_false, List.filterMap_nil, List.mem_singleton]
        exact ⟨.inl, fun hid => hid.elim (fun hid => hid) (fun heq => heq ▸ hmem)⟩
      · simp

/-- In a showing each organization is asked for once: when it comes without known scores for the
first time, and never again. -/
def AsksOnce (s : Scene α) (ops : List (Operation α)) : Prop :=
  ∀ before op after id, ops = before ++ op :: after → op.needs? = some id →
    ((s.run before).perform op).requests =
      if id ∈ Operation.needed before then [] else [.scores id]

/-- Who asks for each organization once never sends a request twice. -/
theorem AsksOnce.nodup_asked {s : Scene α} (hidle : s.popup.scores.subject = none)
    {ops : List (Operation α)} (h : Operation.Showing ops) (honce : s.AsksOnce ops) :
    (s.asked ops).Nodup := by
  induction ops using List.reverseRecOn with
  | nil => exact List.nodup_nil
  | append_singleton ops op ih =>
    have hbefore : Operation.Showing ops := h.of_append
    have hnodup : (s.asked ops).Nodup := ih hbefore fun before op' after id hops => by
      refine honce before op' (after ++ [op]) id ?_
      rw [hops, List.append_assoc, List.cons_append]
    rw [asked_append, asked, asked, List.append_nil]
    cases hneeds : op.needs? with
    | none =>
      have hnothing := (s.run ops).perform_of_needs_none hneeds (h op (by simp))
      rw [hnothing.1, List.append_nil]
      exact hnodup
    | some id =>
      rw [honce ops op [] id rfl hneeds]
      split
      · rwa [List.append_nil]
      · rename_i hnew
        rw [← List.concat_eq_append, List.nodup_concat]
        exact ⟨fun hold => hnew ((mem_asked_iff hidle hbefore id).mp hold), hnodup⟩

/-- Who never sends a request twice asks for each organization once. -/
theorem asksOnce_of_nodup_asked {s : Scene α} (hidle : s.popup.scores.subject = none)
    {ops : List (Operation α)} (h : Operation.Showing ops) (hnodup : (s.asked ops).Nodup) :
    s.AsksOnce ops := by
  rintro before op after id rfl hneeds
  have hbefore : Operation.Showing before := h.of_append
  have hrequests := requests_of_idle hidle hbefore hneeds
  rw [hrequests]
  by_cases hlast : (Operation.needed before).getLast? = some id
  · rw [if_pos hlast, if_pos (List.mem_of_getLast? hlast)]
  · rw [if_neg hlast] at hrequests
    rw [asked_append, asked, hrequests, List.nodup_append] at hnodup
    have hnew : id ∉ Operation.needed before := fun hold =>
      hnodup.2.2 _ ((mem_asked_iff hidle hbefore id).mpr hold) (.scores id) (by simp) rfl
    rw [if_neg hlast, if_neg hnew]

/-- Whatever a popup went through before, in a showing it asks for an organization that comes without
known scores unless it was the last one that did. So its requests are the organizations that came
without known scores, one for each stretch of the same. It asks for each organization once exactly
when these are all different: when none comes back after another. -/
theorem asksOnce_iff (around : α) (earlier ops : List (Operation α))
    (hidden : ((opening around).run earlier).popup.visible = false)
    (h : Operation.Showing ops) :
    let s := (opening around).run earlier
    (∀ before op after id, ops = before ++ op :: after → op.needs? = some id →
        ((s.run before).perform op).requests =
          if (Operation.needed before).getLast? = some id then [] else [.scores id]) ∧
      s.asked ops = ((Operation.needed ops).destutter (· ≠ ·)).map Request.scores ∧
      (s.AsksOnce ops ↔ ((Operation.needed ops).destutter (· ≠ ·)).Nodup) := by
  intro s
  have hidle : s.popup.scores.subject = none := by
    have horder : s.popup.InOrder s.listeners := inOrder_run inOrder_hidden earlier
    rw [horder.idle hidden]
    rfl
  have hasked := asked_of_idle hidle h
  refine ⟨?_, hasked, ?_⟩
  · rintro before op after id rfl hneeds
    exact requests_of_idle hidle h.of_append hneeds
  · have hnodup : ((Operation.needed ops).destutter (· ≠ ·)).Nodup ↔ (s.asked ops).Nodup := by
      rw [hasked, List.nodup_map_iff fun _ _ => Request.scores.inj]
    rw [hnodup]
    exact ⟨fun honce => honce.nodup_asked hidle h, asksOnce_of_nodup_asked hidle h⟩

/-- A showing that goes from one organization to another asks for each once, also for one that an
earlier showing asked for. -/
theorem asksOnce_in_turn :
    let one : Operation SearchFocus := .sync (some (Organization.bare 1)) true
    let other : Operation SearchFocus := .sync (some (Organization.bare 2)) true
    let ops := [one, .receiveScores 1 (.ok []), one, other]
    let s := (opening (⟨false⟩ : SearchFocus)).run [one, .teardown]
    s.popup.visible = false ∧ Operation.Showing ops ∧ s.AsksOnce ops := by
  intro one other ops s
  have hshowing : Operation.Showing ops := by
    simp [Operation.Showing, ops, one, other, Operation.shown?]
  obtain ⟨_, _, hiff⟩ := asksOnce_iff (⟨false⟩ : SearchFocus) [one, .teardown] ops rfl hshowing
  have hneeded : Operation.needed ops = [1, 1, 2] := rfl
  refine ⟨rfl, hshowing, hiff.mpr ?_⟩
  rw [hneeded]
  decide

/-- A popup that goes to another organization and back asks for the first one again. -/
theorem asked_again_on_return :
    let one : Operation SearchFocus := .sync (some (Organization.bare 1)) true
    let other : Operation SearchFocus := .sync (some (Organization.bare 2)) true
    let ops := [one, other, one]
    Operation.Showing ops ∧ ¬(opening ⟨false⟩).AsksOnce ops ∧
      (opening ⟨false⟩).asked ops = [.scores 1, .scores 2, .scores 1] := by
  intro one other ops
  refine ⟨by simp [Operation.Showing, ops, one, other, Operation.shown?], fun honce => ?_, rfl⟩
  have hagain : [Request.scores 1] = [] := honce [one, other] one [] 1 rfl rfl
  exact absurd hagain (by decide)

end Scene

end Popup

end Roster
