import Roster.Terminal.Input

/-!
# Clicks that are counted

What a click hits is counted in columns, lines and words, and a count that grows too large fails. One
that does not is the same as without a bound: so the searches for a row and for a page find what lies
there or fail, and a click does what it would do without a bound or fails.
-/

namespace Roster.Terminal

open Screen (last)

namespace Layout

variable {l : Layout} {x y c total visible selected : Nat}

/-! ## Counts -/

theorem sum?_eq_some_iff {m n k : Nat} : sum? m n = some k ↔ m + n ≤ wordMax ∧ m + n = k := by
  simp [sum?]

theorem difference?_eq_some_iff {m n k : Nat} : difference? m n = some k ↔ n ≤ m ∧ m - n = k := by
  simp [difference?]

theorem place?_eq_some_iff {n p : Nat} : place? n = some p ↔ n ≤ last ∧ n = p := by
  simp [place?]

/-- The window begins where it is counted to begin. -/
theorem scrollOffset_of_scrollOffset? {first : Nat}
    (h : scrollOffset? total visible selected = some first) :
    scrollOffset total visible selected = first := by
  rw [scrollOffset?] at h
  split at h
  · rename_i hfits
    rw [scrollOffset, if_pos hfits]
    exact Option.some.inj h
  · rename_i hbeyond
    obtain ⟨next, hnext, hfirst⟩ := Option.bind_eq_some_iff.mp h
    obtain ⟨-, rfl⟩ := sum?_eq_some_iff.mp hnext
    rw [scrollOffset, if_neg hbeyond]
    exact (difference?_eq_some_iff.mp hfirst).2

/-! ## Rows -/

/-- The row that is counted is the one that is hit. -/
theorem rowAt_of_rowAt? {row : Option Nat} (h : l.rowAt? x y total selected = some row) :
    l.rowAt x y total selected = row := by
  obtain ⟨top, htop, hrow⟩ := Option.bind_eq_some_iff.mp h
  obtain ⟨-, rfl⟩ := place?_eq_some_iff.mp htop
  split at hrow
  · rename_i hmiss
    rw [rowAt, if_pos hmiss]
    exact Option.some.inj hrow
  · rename_i hhit
    obtain ⟨first, hfirst, hindex⟩ := Option.bind_eq_some_iff.mp hrow
    obtain ⟨index, hsum, rfl⟩ := Option.map_eq_some_iff.mp hindex
    rw [rowAt, if_neg hhit, scrollOffset_of_scrollOffset? hfirst, (sum?_eq_some_iff.mp hsum).2]

/-! ## Pages -/

/-- The end of a button is counted for the columns from its start on, and fails beyond the last
column. -/
theorem Span.holds?_eq (s : Span) (c : Nat) :
    s.holds? c = if s.start ≤ c ∧ last < s.start + s.width then none else some (s.holds c) := by
  rw [holds?, holds, place?]
  rcases Nat.lt_or_ge c s.start with hc | hc
  · simp [Nat.not_le.mpr hc]
  · rcases Nat.lt_or_ge last (s.start + s.width) with hend | hend
    · simp [hc, hend, Nat.not_le.mpr hend]
    · simp [hc, hend, Nat.not_lt.mpr hend]

/-- The button that a search comes to is the first one that holds the column. -/
theorem find?_of_findM? {spans : List Span} {found : Option Span}
    (h : spans.findM? (fun s : Span => s.holds? c) = some found) :
    spans.find? (fun s => s.holds c) = found := by
  induction spans with
  | nil => exact Option.some.inj h
  | cons s rest ih =>
    obtain ⟨held, hheld, hfound⟩ := Option.bind_eq_some_iff.mp h
    have hholds : s.holds c = held := by
      replace hheld := (s.holds?_eq c).symm.trans hheld
      split at hheld
      · cases hheld
      · exact Option.some.inj hheld
    rw [List.find?_cons, hholds]
    cases held with
    | true => exact Option.some.inj hfound
    | false => exact ih hfound

/-- A search succeeds if the buttons that start at or before the column end by the last one. -/
theorem findM?_eq_find? {spans : List Span}
    (h : ∀ s ∈ spans, s.start ≤ c → s.start + s.width ≤ last) :
    spans.findM? (fun s : Span => s.holds? c) = some (spans.find? fun s => s.holds c) := by
  induction spans with
  | nil => rfl
  | cons s rest ih =>
    obtain ⟨hs, hrest⟩ := List.forall_mem_cons.mp h
    have hcounted : s.holds? c = some (s.holds c) := by
      rw [Span.holds?_eq, if_neg fun hfail => Nat.not_le.mpr hfail.2 (hs hfail.1)]
    rw [List.findM?, hcounted, List.find?_cons, ih hrest]
    cases s.holds c <;> rfl

/-- The page that is counted is the one that is hit. -/
theorem pageAt_of_pageAt? {numbers : List Nat} {page : Option Nat}
    (h : l.pageAt? x y numbers = some page) : l.pageAt x y numbers = page := by
  rw [pageAt?] at h
  split at h
  · rename_i hholds
    obtain ⟨found, hfound, rfl⟩ := Option.map_eq_some_iff.mp h
    rw [pageAt, if_pos hholds, find?_of_findM? hfound]
  · rename_i houtside
    rw [pageAt, if_neg houtside]
    exact Option.some.inj h

end Layout

/-! ## Clicks -/

namespace Session

variable {s : Session} {screen : Screen.Area} {x y : Nat} {step : Step Session}

/-- A click on the directory does what it would do without a bound, unless a count fails. -/
theorem clickDirectory_of_clickDirectory? (h : s.clickDirectory? screen x y = some step) :
    s.clickDirectory screen x y = step := by
  simp only [clickDirectory?] at h
  simp only [clickDirectory]
  by_cases hsearch : (Layout.of screen).search.holds x y = true
  · rw [if_pos hsearch] at h ⊢
    exact Option.some.inj h
  by_cases hvesting : (Layout.of screen).vesting.holds x y = true
  · rw [if_neg hsearch, if_pos hvesting] at h ⊢
    exact Option.some.inj h
  rw [if_neg hsearch, if_neg hvesting] at h ⊢
  obtain ⟨page, hpage, hstep⟩ := Option.bind_eq_some_iff.mp h
  rw [Layout.pageAt_of_pageAt? hpage]
  cases page with
  | some page => exact Option.some.inj hstep
  | none =>
    obtain ⟨row, hrow, rfl⟩ := Option.map_eq_some_iff.mp hstep
    rw [Layout.rowAt_of_rowAt? hrow]

/-- A click does what it would do without a bound, unless a count fails. -/
theorem click_of_click? (h : s.click? screen x y = some step) : s.click screen x y = step := by
  rw [click?] at h
  split at h
  · exact Option.some.inj h
  · rename_i hdirectory
    simp only [Bool.or_eq_true, not_or] at hdirectory
    rw [click, if_neg hdirectory.1, if_neg hdirectory.2]
    exact clickDirectory_of_clickDirectory? h

end Session

end Roster.Terminal
