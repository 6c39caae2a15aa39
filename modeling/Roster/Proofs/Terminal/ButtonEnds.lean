import Roster.Proofs.Terminal.ButtonSpans
import Roster.Proofs.Terminal.Clicks
import Roster.Proofs.Terminal.Counting
import Roster.Proofs.Terminal.Operations

/-!
# Page buttons at the last column

The start of a page button is cut back to the last column, but its end is not. A search for the
button under a column counts the ends of the buttons that start at or before it, and fails at one
beyond the last column. The buttons 1 to 9519 end by the last column. Button 9520 starts in column
65533 and its label has six columns; all further buttons start in the last column, which lies in no
area. So the search fails exactly when there is a button 9520 and the column is one of the first two
of its label.
-/

namespace Roster.Terminal

open Screen (last)

namespace Layout

/-! ## Widths -/

/-- A button is as wide as the label of its number. -/
theorem width_of_mem_spansFrom {x : Nat} {numbers : List Nat} {s : Span}
    (h : s ∈ spansFrom x numbers) : s.number ∈ numbers ∧ s.width = (pageLabel s.number).length := by
  induction numbers generalizing x with
  | nil => cases h
  | cons number rest ih =>
    rcases List.mem_cons.mp h with rfl | hrest
    · exact ⟨List.mem_cons_self, rfl⟩
    · obtain ⟨hnumber, hwidth⟩ := ih hrest
      exact ⟨List.mem_cons_of_mem _ hnumber, hwidth⟩

/-- Buttons of one width advance by it, and by one column more, for each button. -/
theorem advance_of_length {numbers : List Nat} {width : Nat}
    (h : ∀ number ∈ numbers, (pageLabel number).length = width) (x : Nat) :
    advance x numbers = x + numbers.length * (width + 1) := by
  induction numbers generalizing x with
  | nil => simp
  | cons number rest ih =>
    obtain ⟨hnumber, hrest⟩ := List.forall_mem_cons.mp h
    rw [advance_cons, ih hrest, hnumber, List.length_cons, Nat.succ_mul]
    omega

/-- The label of a number with one digit more than `digits`. -/
theorem length_pageLabel_of_digits {number digits : Nat} (hlow : 10 ^ digits ≤ number)
    (hhigh : number < 10 ^ (digits + 1)) : (pageLabel number).length = digits + 3 := by
  have hle := (length_pageLabel_le_iff (Nat.succ_pos digits)).mpr hhigh
  rcases Nat.eq_zero_or_pos digits with rfl | hpos
  · have hdigits : Nat.toDigits 10 number ≠ [] := by
      obtain ⟨c, rest, h, -⟩ := exists_toDigits_eq_cons hlow
      rw [h]
      exact List.cons_ne_nil c rest
    have := List.length_pos_iff.mpr hdigits
    rw [length_pageLabel] at hle ⊢
    omega
  · have := mt (length_pageLabel_le_iff hpos).mp (Nat.not_lt.mpr hlow)
    omega

/-- Successive buttons whose numbers have one digit more than `digits`. -/
theorem advance_of_digits (digits : Nat) {first count : Nat} (hlow : 10 ^ digits ≤ first)
    (hhigh : first + count ≤ 10 ^ (digits + 1)) (x : Nat) :
    advance x (List.range' first count) = x + count * (digits + 4) := by
  have h : ∀ number ∈ List.range' first count, (pageLabel number).length = digits + 3 := by
    intro number hnumber
    rw [List.mem_range'_1] at hnumber
    exact length_pageLabel_of_digits (by omega) (by omega)
  rw [advance_of_length h, List.length_range']

/-! ## The first button beyond the last column -/

/-- Behind the buttons 1 to 9519 the next one starts in column 65533. -/
theorem advance_last_fitting : advance pagesPrefix.length (List.range' 1 9519) = 65533 := by
  -- the labels widen at 10, 100 and 1000
  have hsplit : List.range' 1 9519 =
      List.range' 1 9 ++ (List.range' 10 90 ++ (List.range' 100 900 ++ List.range' 1000 8520)) := by
    rw [List.range'_append_1, List.range'_append_1, List.range'_append_1]
  rw [hsplit, advance_append, advance_append, advance_append,
    advance_of_digits 3 (by decide) (by decide), advance_of_digits 2 (by decide) (by decide),
    advance_of_digits 1 (by decide) (by decide), advance_of_digits 0 (by decide) (by decide)]
  rfl

/-- The buttons 1 to 9519 end by the last column. -/
theorem fits_of_lt {n : Nat} (h : n < 9520) : Fits pagesPrefix.length (List.range' 1 n) := by
  have hsplit : List.range' 1 n ++ List.range' (1 + n) (9519 - n) = List.range' 1 9519 := by
    rw [List.range'_append_1, Nat.add_sub_cancel' (Nat.le_of_lt_succ h)]
  have hle := le_advance (advance pagesPrefix.length (List.range' 1 n))
    (List.range' (1 + n) (9519 - n))
  rw [← advance_append, hsplit, advance_last_fitting] at hle
  exact Nat.le_trans hle (by decide)

/-- Behind them, button 9520 starts in column 65533, and all further ones in the last column. -/
theorem spans_of_le {n : Nat} (h : 9520 ≤ n) :
    spans (List.range' 1 n) =
      spans (List.range' 1 9519) ++
        ⟨9520, 65533, 6⟩ :: spansFrom last (List.range' 9521 (n - 9520)) := by
  have hsplit : List.range' 1 n = List.range' 1 9519 ++ 9520 :: List.range' 9521 (n - 9520) := by
    have hnext : 9520 :: List.range' 9521 (n - 9520) = List.range' (1 + 9519) (n - 9519) := by
      rw [show n - 9519 = n - 9520 + 1 by omega, List.range'_succ]
    rw [hnext, List.range'_append_1, Nat.add_sub_cancel' (Nat.le_of_succ_le h)]
  have hwidth : (pageLabel 9520).length = 3 + 3 :=
    length_pageLabel_of_digits (by decide) (by decide)
  rw [spans, hsplit, spansFrom_append (by decide), advance_last_fitting, spansFrom, hwidth]
  rfl

/-! ## Counting the ends -/

section Counting

variable {n c : Nat} {spans front back : List Span}

/-- A search fails at the first button whose end cannot be counted. -/
theorem findM?_eq_none {s : Span} (hfront : ∀ t ∈ front, t.holds? c = some false)
    (hs : s.holds? c = none) :
    (front ++ s :: back).findM? (fun s : Span => s.holds? c) = none := by
  induction front with
  | nil =>
    rw [List.nil_append, List.findM?, hs]
    rfl
  | cons t rest ih =>
    obtain ⟨ht, hrest⟩ := List.forall_mem_cons.mp hfront
    rw [List.cons_append, List.findM?, ht]
    exact ih hrest

/-- Among any number of buttons those below 9520 end by the last column. The others start in column
65533 at the earliest, and end behind the last column. -/
theorem ends_or_cut_off {s : Span} (hs : s ∈ Layout.spans (List.range' 1 n)) :
    s.number < 9520 ∧ s.start + s.width ≤ last ∨
      9520 ≤ s.number ∧ 65533 ≤ s.start ∧ last < s.start + s.width := by
  have hfront {m : Nat} (hm : m < 9520) (h : s ∈ Layout.spans (List.range' 1 m)) :
      s.number < 9520 ∧ s.start + s.width ≤ last := by
    have hnumber := (width_of_mem_spansFrom h).1
    rw [List.mem_range'_1] at hnumber
    exact ⟨by omega, (fits_of_lt hm).end_le h⟩
  rcases Nat.lt_or_ge n 9520 with hn | hn
  · exact .inl (hfront hn hs)
  · rw [spans_of_le hn, List.mem_append, List.mem_cons] at hs
    rcases hs with hs | rfl | hback
    · exact .inl (hfront (by decide) hs)
    · exact .inr (by decide)
    · have hstart : last ≤ s.start := (start_bounds (Nat.le_refl last) hback).1
      obtain ⟨hnumber, hwidth⟩ := width_of_mem_spansFrom hback
      rw [List.mem_range'_1] at hnumber
      rw [length_pageLabel] at hwidth
      exact .inr ⟨by omega, Nat.le_trans (by decide) hstart, by omega⟩

/-- A search among the buttons fails exactly if there is a button 9520 and the column is one of its
label. -/
theorem findM?_spans_eq_none_iff :
    (Layout.spans (List.range' 1 n)).findM? (fun s : Span => s.holds? c) = none ↔
      9520 ≤ n ∧ 65533 ≤ c := by
  constructor
  · intro h
    by_contra hsmall
    have hcounted : ∀ s ∈ Layout.spans (List.range' 1 n), s.start ≤ c →
        s.start + s.width ≤ last := by
      intro s hs hstart
      rcases ends_or_cut_off hs with ⟨-, hend⟩ | ⟨hnumber, hlate, -⟩
      · exact hend
      · have hmem := (width_of_mem_spansFrom hs).1
        rw [List.mem_range'_1] at hmem
        exact absurd ⟨by omega, Nat.le_trans hlate hstart⟩ hsmall
    rw [findM?_eq_find? hcounted] at h
    cases h
  · rintro ⟨hn, hc⟩
    have hfits := fits_of_lt (n := 9519) (by decide)
    rw [spans_of_le hn]
    refine findM?_eq_none (fun s hs => ?_) ?_
    · -- the earlier buttons end before column 65533, so they are passed by
      have hend := (hfits.bounds hs).2
      rw [advance_last_fitting] at hend
      have hmiss : s.holds c = false :=
        Bool.eq_false_iff.mpr fun hholds => by
          have hbefore := (Span.holds_iff.mp hholds).2
          omega
      rw [Span.holds?_eq, if_neg fun hfail => Nat.not_le.mpr hfail.2 (hfits.end_le hs), hmiss]
    · rw [Span.holds?_eq, if_pos ⟨hc, by decide⟩]

end Counting

/-! ## Positions -/

section Positions

variable {l : Layout} {x y n : Nat}

/-- The search for the page under a position fails exactly if there is a button 9520 and the position
is in one of the columns where its label begins. -/
theorem pageAt?_eq_none_iff :
    l.pageAt? x y (List.range' 1 n) = none ↔
      l.pagination.holds x y = true ∧ 9520 ≤ n ∧ 65533 ≤ x - l.pagination.x := by
  rw [pageAt?]
  split
  · rename_i hholds
    rw [Option.map_eq_none_iff, findM?_spans_eq_none_iff, and_iff_right hholds]
  · rename_i houtside
    exact iff_of_false (Option.some_ne_none _) fun h => houtside h.1

/-- The buttons from 9520 on are not hit. -/
theorem lt_of_pageAt? {number : Nat}
    (h : l.pageAt? x y (List.range' 1 n) = some (some number)) : number < 9520 := by
  have hfound := pageAt_of_pageAt? h
  obtain ⟨hholds, hmem⟩ := pageAt_eq_some hfound
  rw [pageAt, if_pos hholds] at hfound
  obtain ⟨s, hs, rfl⟩ := Option.map_eq_some_iff.mp hfound
  rcases ends_or_cut_off (List.mem_of_find?_eq_some hs) with ⟨hnumber, -⟩ | ⟨hnumber, hstart, -⟩
  · exact hnumber
  · -- a column on a later button would have made the search fail
    have hcolumn : s.start ≤ x - l.pagination.x := by
      have hheld := List.find?_some (p := fun s : Span => s.holds (x - l.pagination.x)) hs
      exact (Span.holds_iff.mp hheld).1
    rw [List.mem_range'_1] at hmem
    have hfail := (pageAt?_eq_none_iff (n := n)).mpr
      ⟨hholds, by omega, Nat.le_trans hstart hcolumn⟩
    rw [h] at hfail
    cases hfail

/-- Where there is a line for the page buttons, there are lines for the table as well. -/
theorem tableTop_le_heights {height : Nat} (h : 0 < (heights height).2.1) :
    (heights height).1 + (heights height).2.1 + tableTop ≤ height := by
  simp only [heights, tableTop, Nat.min_def] at h ⊢
  split_ifs at h ⊢ <;> simp only at h ⊢ <;> omega

/-- On the line of the page buttons the search for a row finds none, and does not fail. -/
theorem rowAt?_of_pagination {screen : Screen.Area} {total selected : Nat}
    (hscreen : screen.y + screen.height ≤ last)
    (h : (Layout.of screen).pagination.holds x y = true) :
    (Layout.of screen).rowAt? x y total selected = some none := by
  have hmiss : (Layout.of screen).table.holds x y = false :=
    Bool.eq_false_iff.mpr fun htable => by simp [(holds_of_table htable).2.2] at h
  obtain ⟨-, hfrom, hto, -⟩ := Screen.Area.holds_iff.mp h
  have hline : 0 < (heights screen.height).2.1 :=
    Nat.lt_of_add_lt_add_left (Nat.lt_of_le_of_lt hfrom hto)
  have hlines := tableTop_le_heights hline
  have htop : (Layout.of screen).table.y + tableTop ≤ last := by
    change screen.y + (heights screen.height).1 + (heights screen.height).2.1 + tableTop ≤ last
    omega
  rw [rowAt?, place?, if_pos htop, Option.bind_some, hmiss]
  rfl

end Positions

end Layout

/-! ## Clicks -/

namespace Session

/-- The page buttons are numbered from one on. -/
theorem pageNumbers_eq_range' (s : Session) :
    s.directory.pageNumbers = List.range' 1 s.directory.pageNumbers.length := by
  rw [Directory.pageNumbers, Page.length_numbers, Page.numbers, List.range'_eq_map_range]
  exact List.map_congr_left fun i _ => Nat.add_comm i 1

/-- A click on the line of the page buttons fails exactly when it goes to the directory, there is a
button 9520, and the click is in one of the columns where its label begins. -/
theorem click?_eq_none_iff {s : Session} {screen : Screen.Area} {x y : Nat}
    (hscreen : screen.y + screen.height ≤ last)
    (h : (Layout.of screen).pagination.holds x y = true) :
    s.click? screen x y = none ↔ s.helpShown = false ∧ s.directory.popupVisible = false ∧
      9520 ≤ s.directory.pageNumbers.length ∧ 65533 ≤ x - screen.x := by
  have hpage : (Layout.of screen).pageAt? x y s.directory.pageNumbers = none ↔
      9520 ≤ s.directory.pageNumbers.length ∧ 65533 ≤ x - screen.x := by
    rw [s.pageNumbers_eq_range', List.length_range', Layout.pageAt?_eq_none_iff, and_iff_right h]
    exact Iff.rfl
  obtain ⟨hsearch, hvesting⟩ := Layout.holds_of_pagination h
  have hsame : s.endSearch.directory = s.directory := rfl
  rw [← hpage, click?]
  split
  · rename_i hdialogue
    refine iff_of_false (Option.some_ne_none _) fun hhidden => ?_
    simp [hhidden.1, hhidden.2.1] at hdialogue
  · rename_i hdirectory
    simp only [Bool.or_eq_true, not_or, Bool.not_eq_true] at hdirectory
    rw [and_iff_right hdirectory.1, and_iff_right hdirectory.2]
    simp only [clickDirectory?, hsearch, hvesting, Bool.false_eq_true, if_false, hsame,
      Layout.rowAt?_of_pagination hscreen h, Option.map_some]
    cases (Layout.of screen).pageAt? x y s.directory.pageNumbers with
    | none => exact iff_of_true rfl rfl
    | some page =>
      cases page <;> exact iff_of_false (Option.some_ne_none _) (Option.some_ne_none _)

end Session

/-- However many page buttons there are, their starts and the steps between them are columns, and
their ends are so exactly for the buttons below 9520. The search for the page under a position fails
exactly when there is a button 9520 and the position is in one of the columns where its label begins,
and so does a click that comes to the search. Otherwise the page that lies there is found, which is
none of those from 9520 on, and the click does what it would do without a bound. -/
theorem pageButtons_fail_iff (n : Nat) (hn : n ≤ wordMax) :
    (∀ b ∈ Layout.spans (List.range' 1 n), b.start ≤ last ∧ b.width + 1 ≤ last ∧
        (b.start + b.width ≤ last ↔ b.number < 9520)) ∧
      (∀ (l : Layout) (x y : Nat), l.pageAt? x y (List.range' 1 n) = none ↔
        l.pagination.holds x y = true ∧ 9520 ≤ n ∧ 65533 ≤ x - l.pagination.x) ∧
      (∀ (l : Layout) (x y : Nat) (page : Option Nat),
        l.pageAt? x y (List.range' 1 n) = some page →
          l.pageAt x y (List.range' 1 n) = page ∧ ∀ number ∈ page, number < 9520) ∧
      (∀ (s : Session) (screen : Screen.Area) (x y : Nat), screen.y + screen.height ≤ last →
        (Layout.of screen).pagination.holds x y = true → s.directory.pageNumbers.length = n →
          (s.click? screen x y = none ↔ s.helpShown = false ∧ s.directory.popupVisible = false ∧
            9520 ≤ n ∧ 65533 ≤ x - screen.x)) ∧
      ∀ (s : Session) (screen : Screen.Area) (x y : Nat) (step : Step Session),
        s.click? screen x y = some step → s.click screen x y = step := by
  refine ⟨fun b hb => ⟨(Layout.start_bounds (by decide) hb).2, ?_, ?_⟩,
    fun l x y => Layout.pageAt?_eq_none_iff, fun l x y page hpage => ?_,
    fun s screen x y hscreen hholds hcount => hcount ▸ Session.click?_eq_none_iff hscreen hholds,
    fun s screen x y step => Session.click_of_click?⟩
  · obtain ⟨hnumber, hwidth⟩ := Layout.width_of_mem_spansFrom hb
    have hsmall : b.number < 10 ^ 20 := by
      rw [List.mem_range'_1] at hnumber
      have hword : wordMax < 10 ^ 20 := by decide
      omega
    have hlabel := (Layout.length_pageLabel_le_iff (by decide)).mpr hsmall
    rw [hwidth]
    exact Nat.le_trans (Nat.succ_le_succ hlabel) (by decide)
  · rcases Layout.ends_or_cut_off hb with ⟨hnumber, hend⟩ | ⟨hnumber, -, hend⟩
    · exact iff_of_true hend hnumber
    · exact iff_of_false (Nat.not_le.mpr hend) (Nat.not_lt.mpr hnumber)
  · refine ⟨Layout.pageAt_of_pageAt? hpage, fun number hnumber => ?_⟩
    rw [Option.mem_def] at hnumber
    exact Layout.lt_of_pageAt? (hnumber ▸ hpage)

/-- A click on the last button of a line of 9519 buttons does not fail. -/
theorem pageButtons_last_fitting :
    9519 ≤ wordMax ∧ (Layout.of ⟨0, 0, 65535, 40⟩).pageAt? 65526 3 (List.range' 1 9519) ≠ none := by
  have h := (pageButtons_fail_iff 9519 (by decide)).2.1 (Layout.of ⟨0, 0, 65535, 40⟩) 65526 3
  exact ⟨by decide, fun hfail => absurd (h.mp hfail).2.1 (by decide)⟩

/-- On a screen of 65535 columns the label of button 9520 begins in column 65533. A search there
fails. -/
theorem pageButtons_first_cut_off :
    (Layout.of ⟨0, 0, 65535, 40⟩).pagination.holds 65533 3 = true ∧
      ⟨9520, 65533, 6⟩ ∈ Layout.spans (List.range' 1 9520) ∧
      (Layout.of ⟨0, 0, 65535, 40⟩).pageAt? 65533 3 (List.range' 1 9520) = none := by
  have hholds : (Layout.of ⟨0, 0, 65535, 40⟩).pagination.holds 65533 3 = true := by decide
  refine ⟨hholds, ?_, Layout.pageAt?_eq_none_iff.mpr ⟨hholds, Nat.le_refl _, Nat.le_refl _⟩⟩
  rw [Layout.spans_of_le (Nat.le_refl 9520)]
  exact List.mem_append_right _ List.mem_cons_self

end Roster.Terminal
