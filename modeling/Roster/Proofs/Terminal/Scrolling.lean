import Roster.Proofs.Terminal.Cursor

/-!
# Scrolling

The table shows a window of the rows of its page. It begins at the first row from which on it still
reaches the cursor, and at the top if all rows fit. Everything else follows from that: from the row
where the last ones fit it reaches every row, so it begins there at the latest and leaves no line
empty, and from one row further on it reaches the next row, so it moves no faster than the cursor.
-/

namespace Roster.Terminal

namespace Layout

variable {total visible selected : Nat}

/-! ## Counting in words -/

/-- For a cursor on one of the rows, all that is counted are words. -/
theorem scrollOffset?_eq (htotal : total ≤ wordMax) (hselected : selected < total) :
    scrollOffset? total visible selected = some (scrollOffset total visible selected) := by
  simp only [scrollOffset?, scrollOffset, Bool.or_eq_true, decide_eq_true_eq]
  split
  · rfl
  · rename_i hbeyond
    have hsum : selected + 1 ≤ wordMax := Nat.le_trans hselected htotal
    have hdifference : visible ≤ selected + 1 := by omega
    rw [sum?, if_pos hsum, Option.bind_some, difference?, if_pos hdifference]

/-! ## The window -/

/-- The window begins by a row exactly when all rows fit, or it reaches the cursor from that row on. -/
theorem scrollOffset_le_iff {first : Nat} :
    scrollOffset total visible selected ≤ first ↔ total ≤ visible ∨ selected < first + visible := by
  simp only [scrollOffset, Bool.or_eq_true, decide_eq_true_eq]
  split <;> omega

/-- Where all rows fit, the window begins at the top. -/
theorem scrollOffset_of_le (h : total ≤ visible) : scrollOffset total visible selected = 0 :=
  Nat.le_zero.mp (scrollOffset_le_iff.mpr (.inl h))

/-- The window ends by the last row, unless it is larger than the page. -/
theorem scrollOffset_add_le (hselected : selected < total) (hvisible : visible ≤ total) :
    scrollOffset total visible selected + visible ≤ total := by
  have hfirst : scrollOffset total visible selected ≤ total - visible :=
    scrollOffset_le_iff.mpr (.inr (by omega))
  omega

/-- Where the cursor moves down, the window moves down or stays. -/
theorem scrollOffset_mono {next : Nat} (h : selected ≤ next) :
    scrollOffset total visible selected ≤ scrollOffset total visible next := by
  have hreaches := scrollOffset_le_iff.mp (Nat.le_refl (scrollOffset total visible next))
  exact scrollOffset_le_iff.mpr (hreaches.imp_right fun hnext => by omega)

/-- Where the cursor moves down by one row, the window does so by one row at most. -/
theorem scrollOffset_succ_le :
    scrollOffset total visible (selected + 1) ≤ scrollOffset total visible selected + 1 := by
  have hreaches := scrollOffset_le_iff.mp (Nat.le_refl (scrollOffset total visible selected))
  exact scrollOffset_le_iff.mpr (hreaches.imp_right fun hselected => by omega)

/-- For a cursor on one of the rows, the window is counted in words. If there is room for a row, the
cursor is in the window. The window ends by the last row, or begins at the top if there is room for
more rows than there are. With a cursor one row further up or down, it begins by one row further up or
down at most. -/
theorem window_follows_cursor (htotal : total ≤ wordMax) (hselected : selected < total) :
    scrollOffset? total visible selected = some (scrollOffset total visible selected) ∧
      (0 < visible → scrollOffset total visible selected ≤ selected ∧
        selected < scrollOffset total visible selected + visible) ∧
      (visible ≤ total → scrollOffset total visible selected + visible ≤ total) ∧
      (total < visible → scrollOffset total visible selected = 0) ∧
      ∀ next < total, next = selected + 1 ∨ selected = next + 1 →
        scrollOffset total visible next ≤ scrollOffset total visible selected + 1 ∧
          scrollOffset total visible selected ≤ scrollOffset total visible next + 1 := by
  refine ⟨scrollOffset?_eq htotal hselected,
    fun hvisible => Session.scrollOffset_bounds hvisible hselected,
    scrollOffset_add_le hselected, fun hroom => scrollOffset_of_le hroom.le, ?_⟩
  rintro next - (rfl | rfl)
  · exact ⟨scrollOffset_succ_le, Nat.le_succ_of_le (scrollOffset_mono (Nat.le_succ selected))⟩
  · exact ⟨Nat.le_succ_of_le (scrollOffset_mono (Nat.le_succ next)), scrollOffset_succ_le⟩

/-- A cursor on the last of as many rows as there can be, in a table of one line. -/
theorem window_follows_cursor_to_last :
    wordMax ≤ wordMax ∧ wordMax - 1 < wordMax ∧
      scrollOffset? wordMax 1 (wordMax - 1) = some (wordMax - 1) ∧
      scrollOffset wordMax 1 (wordMax - 1) + 1 ≤ wordMax := by
  have htotal : wordMax ≤ wordMax := Nat.le_refl _
  have hselected : wordMax - 1 < wordMax := by decide
  have hvisible : 1 ≤ wordMax := by decide
  obtain ⟨hwords, hcursor, hend, -⟩ := @window_follows_cursor wordMax 1 (wordMax - 1) htotal hselected
  have hfirst : scrollOffset wordMax 1 (wordMax - 1) = wordMax - 1 := by
    have := hcursor (Nat.le_refl 1)
    omega
  exact ⟨htotal, hselected, hwords.trans (congrArg some hfirst), hend hvisible⟩

end Layout

end Roster.Terminal
