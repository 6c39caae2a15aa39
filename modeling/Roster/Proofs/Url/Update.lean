import Roster.Proofs.Url.Form

/-!
# Updating a parameter of the address

Pushing a parameter into the address bar reads the pairs of the query, gives the name its one value
and writes all pairs again. The pairs of other names come back as they were read before, in the same
order; the pair of the name stands where the name occurred first, or at the end. Nothing outside the
query changes, and pushing the same parameter again changes nothing more.
-/

namespace Roster.Url

namespace Form

variable (name value : String) (pairs : List (String × String))

/-- The pairs of other names are those from before. -/
theorem filter_set :
    (set name value pairs).filter (fun pair => pair.1 != name) =
      pairs.filter fun pair => pair.1 != name := by
  induction pairs with
  | nil => simp [set]
  | cons pair rest ih =>
    by_cases hname : pair.1 = name
    · simp [set, hname, List.filter_filter]
    · simp [set, hname, ih]

/-- A name that was set occurs once. -/
theorem count_set : ((set name value pairs).map Prod.fst).count name = 1 := by
  induction pairs with
  | nil => simp [set]
  | cons pair rest ih =>
    by_cases hname : pair.1 = name
    · have hdropped : name ∉ (rest.filter fun p => p.1 != name).map Prod.fst := by
        simp [List.mem_map]
      simp [set, hname, List.count_eq_zero.mpr hdropped]
    · simp [set, hname, ih]

/-- A name that was set stands where it occurred first; one that did not occur stands at the end,
which is the index of a name that is not found. -/
theorem idxOf_set :
    ((set name value pairs).map Prod.fst).idxOf name = (pairs.map Prod.fst).idxOf name := by
  induction pairs with
  | nil => simp [set]
  | cons pair rest ih =>
    by_cases hname : pair.1 = name
    · simp [set, hname]
    · have hkept : set name value (pair :: rest) = pair :: set name value rest := by
        simp [set, hname]
      have hmiss : (pair.1 == name) = false := beq_eq_false_iff_ne.mpr hname
      rw [hkept, List.map_cons, List.map_cons, List.idxOf_cons, List.idxOf_cons, hmiss, ih]

/-- Setting a name twice is setting it once. -/
theorem set_set : set name value (set name value pairs) = set name value pairs := by
  induction pairs with
  | nil => simp [set]
  | cons pair rest ih =>
    by_cases hname : pair.1 = name
    · simp [set, hname, List.filter_filter]
    · simp [set, hname, ih]

end Form

/-- Setting a parameter twice is setting it once. -/
theorem setParameter_setParameter (u : Url) (name value : String) :
    (u.setParameter name value).setParameter name value = u.setParameter name value := by
  have hpairs : (u.setParameter name value).pairs = Form.set name value u.pairs :=
    u.pairs_withPairs _
  calc (u.setParameter name value).setParameter name value
      = (u.setParameter name value).withPairs
          (Form.set name value (Form.set name value u.pairs)) := by rw [← hpairs]; rfl
    _ = (u.setParameter name value).withPairs (Form.set name value u.pairs) := by
      rw [Form.set_set]
    _ = u.setParameter name value := rfl

/-- A parameter that is pushed into the address bar has its value there, and its name occurs once, at
the place where it occurred first before or else at the end. The pairs of other names are read as
before, in the same order. Nothing outside the query changes, and exactly the address from before is
left behind. Pushing the parameter again leads to the same address. -/
theorem History.push_updates (h : History) (name value : String) :
    let pushed := h.push name value
    pushed.parameter? name = some value ∧
      (pushed.current.pairs.map Prod.fst).count name = 1 ∧
      (pushed.current.pairs.map Prod.fst).idxOf name =
        (h.current.pairs.map Prod.fst).idxOf name ∧
      pushed.current.pairs.filter (fun pair => pair.1 != name) =
        h.current.pairs.filter (fun pair => pair.1 != name) ∧
      { pushed.current with query := h.current.query } = h.current ∧
      pushed.past = h.current :: h.past ∧
      (pushed.push name value).current = pushed.current := by
  intro pushed
  have hpairs : pushed.current.pairs = Form.set name value h.current.pairs :=
    h.current.pairs_withPairs _
  rw [hpairs]
  exact ⟨h.parameter?_push name value, Form.count_set name value _, Form.idxOf_set name value _,
    Form.filter_set name value _, rfl, rfl, h.current.setParameter_setParameter name value⟩

end Roster.Url
