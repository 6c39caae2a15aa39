import Roster.Proofs.Screen.PlainText
import Roster.Proofs.Terminal.ButtonSpans
import Roster.Proofs.Terminal.Counting
import Roster.Terminal.Drawing

/-!
# Page buttons are hit where they are drawn

The line of page buttons is drawn from one text, while clicks go by spans whose starts are added up
label by label. Both are brought to the same columns: each column of the line is marked with the
page to whose label it belongs, if any. The line is drawn column by column, and, as long as it does
not grow beyond the last column, a position hits the page that its column is marked with.
-/

namespace Roster.Terminal

open Directory (PageButton)
open Screen

/-! ## The columns of the line -/

/-- A column of the line of page buttons: what is drawn in it, and the page to whose label it
belongs. -/
structure PageColumn where
  glyph : Glyph
  page : Option Nat

/-- The label of a page button as it is drawn. -/
def labelSpan (button : PageButton) : Screen.Span :=
  ⟨Layout.pageLabel button.number, if button.active then Theme.chosen else Theme.link⟩

/-- The labels, each with its page, and a blank between any two. -/
def labelPieces (buttons : List PageButton) : List (Option Nat × Screen.Span) :=
  (buttons.map fun button => (some button.number, labelSpan button)).intersperse (none, .raw " ")

/-- The pieces of the line of page buttons. -/
def linePieces (buttons : List PageButton) : List (Option Nat × Screen.Span) :=
  (none, ⟨pagesPrefix, Theme.quiet⟩) :: labelPieces buttons

/-- The columns of a piece: all of them belong to its page. -/
def pieceColumns (piece : Option Nat × Screen.Span) : List PageColumn :=
  piece.2.text.toList.map fun c => ⟨.ofPlain piece.2.style c, piece.1⟩

/-- The column between two labels. -/
def gapColumn : PageColumn := ⟨.ofPlain .plain ' ', none⟩

/-- The columns of the labels. -/
def labelColumns (buttons : List PageButton) : List PageColumn :=
  (labelPieces buttons).flatMap pieceColumns

/-- The columns of the line of page buttons. -/
def lineColumns (buttons : List PageButton) : List PageColumn :=
  (linePieces buttons).flatMap pieceColumns

/-- The columns that an area shows, each with its place on the screen. -/
def shownColumns (buttons : List PageButton) (a : Screen.Area) : List (PageColumn × Nat) :=
  if a.isEmpty then [] else ((lineColumns buttons).take a.width).zipIdx a.x

/-! ## Labels -/

namespace Layout

/-- A label is plain text. -/
theorem isPlain_of_mem_pageLabel {number : Nat} {c : Char} (h : c ∈ (pageLabel number).toList) :
    Text.IsPlain c := by
  rw [toList_pageLabel, List.mem_append, List.mem_cons, List.mem_singleton] at h
  rcases h with (rfl | hdigit) | rfl
  · decide
  · exact Text.isPlain_of_isDigit (isDigit_of_mem_toDigits hdigit)
  · decide

end Layout

/-! ## Pieces -/

section Pieces

variable (button next : PageButton) (rest buttons : List PageButton)

@[simp] theorem labelPieces_singleton :
    labelPieces [button] = [(some button.number, labelSpan button)] := by
  simp [labelPieces]

@[simp] theorem labelPieces_cons_cons :
    labelPieces (button :: next :: rest) =
      (some button.number, labelSpan button) :: (none, .raw " ") :: labelPieces (next :: rest) := by
  simp [labelPieces]

/-- The pieces of labels are the drawn ones. -/
theorem map_snd_labelPieces : (labelPieces buttons).map Prod.snd = Session.pageSpans buttons := by
  fun_induction Session.pageSpans buttons with
  | case1 => rfl
  | case2 button => simp [labelSpan]
  | case3 button rest hrest ih =>
    cases rest with
    | nil => exact absurd rfl hrest
    | cons next rest => simpa [labelSpan] using ih

/-- The pieces of the line are the drawn ones. -/
theorem map_snd_linePieces :
    (linePieces buttons).map Prod.snd =
      ⟨pagesPrefix, Theme.quiet⟩ :: Session.pageSpans buttons := by
  rw [linePieces, List.map_cons, map_snd_labelPieces]

/-- The columns of the first label, and behind it, if there are more, a gap and the others. -/
theorem labelColumns_cons :
    labelColumns (button :: rest) =
      pieceColumns (some button.number, labelSpan button) ++
        if rest.isEmpty then [] else gapColumn :: labelColumns rest := by
  have hgap : pieceColumns (none, .raw " ") = [gapColumn] := rfl
  cases rest with
  | nil => simp [labelColumns]
  | cons next rest => simp [labelColumns, hgap]

variable {buttons}

/-- The pieces of the labels are plain text. -/
theorem isPlain_of_mem_labelPieces {piece : Option Nat × Screen.Span}
    (h : piece ∈ labelPieces buttons) : ∀ c ∈ piece.2.text.toList, Text.IsPlain c := by
  induction buttons with
  | nil => cases h
  | cons button rest ih =>
    cases rest with
    | nil =>
      rw [labelPieces_singleton, List.mem_singleton] at h
      subst h
      exact fun c hc => Layout.isPlain_of_mem_pageLabel hc
    | cons next rest =>
      rw [labelPieces_cons_cons, List.mem_cons, List.mem_cons] at h
      rcases h with rfl | rfl | hrest
      · exact fun c hc => Layout.isPlain_of_mem_pageLabel hc
      · exact fun c hc => by simp_all [Screen.Span.raw, Text.IsPlain]
      · exact ih hrest

end Pieces

/-! ## Labels and spans -/

section Labels

variable {x : Nat} {button : PageButton} {rest buttons : List PageButton}

/-- The columns of a piece are marked with its page. -/
theorem getElem?_pieceColumns {piece : Option Nat × Screen.Span} {i : Nat}
    (h : i < (pieceColumns piece).length) :
    ((pieceColumns piece)[i]?).bind PageColumn.page = piece.1 := by
  rw [pieceColumns, List.length_map] at h
  simp [pieceColumns, h]

/-- A label has as many columns as its button is wide. -/
theorem length_pieceColumns_labelSpan (button : PageButton) :
    (pieceColumns (some button.number, labelSpan button)).length =
      (Layout.pageLabel button.number).length := by
  rw [pieceColumns, List.length_map, String.length_toList, labelSpan]

/-- The first columns belong to the first button. -/
theorem page_labelColumns_first {i : Nat} (h : i < (Layout.pageLabel button.number).length) :
    ((labelColumns (button :: rest))[i]?).bind PageColumn.page = some button.number := by
  rw [← length_pieceColumns_labelSpan] at h
  rw [labelColumns_cons, List.getElem?_append_left h, getElem?_pieceColumns h]

/-- The column behind the first label belongs to no page. -/
theorem page_labelColumns_gap :
    ((labelColumns (button :: rest))[(Layout.pageLabel button.number).length]?).bind
      PageColumn.page = none := by
  rw [labelColumns_cons, ← length_pieceColumns_labelSpan,
    List.getElem?_append_right (Nat.le_refl _), Nat.sub_self]
  split <;> rfl

/-- One column further, the other labels follow. -/
theorem getElem?_labelColumns_rest (i : Nat) :
    (labelColumns (button :: rest))[(Layout.pageLabel button.number).length + (i + 1)]? =
      (labelColumns rest)[i]? := by
  rw [labelColumns_cons, ← length_pieceColumns_labelSpan,
    List.getElem?_append_right (Nat.le_add_right _ _), Nat.add_sub_cancel_left]
  split
  · rename_i hempty
    rw [List.isEmpty_iff.mp hempty]
    rfl
  · exact List.getElem?_cons_succ

/-- The columns of the labels reach as far as the buttons, but for the column behind the last. -/
theorem advance_eq (x : Nat) (h : buttons ≠ []) :
    Layout.advance x (buttons.map PageButton.number) = x + (labelColumns buttons).length + 1 := by
  induction buttons generalizing x with
  | nil => exact absurd rfl h
  | cons button rest ih =>
    rw [List.map_cons, Layout.advance_cons, labelColumns_cons, List.length_append,
      length_pieceColumns_labelSpan]
    cases rest with
    | nil => rfl
    | cons next others =>
      rw [ih _ (List.cons_ne_nil _ _)]
      simp only [List.isEmpty_cons, Bool.false_eq_true, if_false, List.length_cons]
      omega

/-- Buttons that do not reach beyond the last column are hit in the columns of their labels. -/
theorem find?_spansFrom (h : Layout.Fits x (buttons.map PageButton.number)) (i : Nat) :
    ((Layout.spansFrom x (buttons.map PageButton.number)).find? (·.holds (x + i))).map
        Layout.Span.number = ((labelColumns buttons)[i]?).bind PageColumn.page := by
  induction buttons generalizing x i with
  | nil => rfl
  | cons button rest ih =>
    rw [List.map_cons] at h ⊢
    have hholds := Layout.Span.holds_iff
      (s := ⟨button.number, x, (Layout.pageLabel button.number).length⟩) (c := x + i)
    rw [h.spansFrom_cons]
    rcases Nat.lt_trichotomy i (Layout.pageLabel button.number).length with hi | rfl | hi
    · -- on the first label
      have hhit := hholds.mpr ⟨Nat.le_add_right _ _, Nat.add_lt_add_left hi x⟩
      simp only [List.find?_cons, hhit]
      exact (page_labelColumns_first hi).symm
    · -- in the gap behind it, before all other buttons start
      have hmiss := Bool.eq_false_iff.mpr fun hhit => Nat.lt_irrefl _ (hholds.mp hhit).2
      have hbefore : ∀ s ∈ Layout.spansFrom (x + ((Layout.pageLabel button.number).length + 1))
          (rest.map PageButton.number), x + (Layout.pageLabel button.number).length < s.start :=
        fun s hs => (h.behind.bounds hs).1
      simp only [List.find?_cons, hmiss]
      rw [Layout.find?_eq_none_of_lt hbefore, page_labelColumns_gap]
      rfl
    · -- among the other labels, which start one column behind the gap
      have hmiss := Bool.eq_false_iff.mpr fun hhit =>
        Nat.lt_asymm hi (Nat.lt_of_add_lt_add_left (hholds.mp hhit).2)
      obtain ⟨j, rfl⟩ := Nat.exists_eq_add_of_lt hi
      have hrest := ih h.behind j
      rw [Nat.add_assoc x, Nat.add_assoc, Nat.add_comm 1 j] at hrest
      simp only [List.find?_cons, hmiss]
      rw [Nat.add_assoc, getElem?_labelColumns_rest, hrest]

end Labels

/-! ## The line -/

section TheLine

variable (buttons : List PageButton)

theorem lineColumns_eq :
    lineColumns buttons =
      pieceColumns (none, ⟨pagesPrefix, Theme.quiet⟩) ++ labelColumns buttons := by
  rw [lineColumns, linePieces, List.flatMap_cons, labelColumns]

theorem length_lineColumns :
    (lineColumns buttons).length = pagesPrefix.length + (labelColumns buttons).length := by
  rw [lineColumns_eq, List.length_append, pieceColumns, List.length_map, String.length_toList]

/-- The pieces of the line are plain text. -/
theorem isPlain_of_mem_linePieces :
    ∀ piece ∈ linePieces buttons, ∀ c ∈ piece.2.text.toList, Text.IsPlain c := by
  intro piece hpiece
  rcases List.mem_cons.mp hpiece with rfl | hlabels
  · -- by the list of its characters; to decide it for all characters would take too long
    have hprefix : pagesPrefix.toList.all (fun c => decide (Text.IsPlain c)) = true := by decide
    exact fun c hc => of_decide_eq_true (List.all_eq_true.mp hprefix c hc)
  · exact isPlain_of_mem_labelPieces hlabels

/-- The line claims as many columns as it has. -/
theorem columns_line :
    (Line.of (⟨pagesPrefix, Theme.quiet⟩ :: Session.pageSpans buttons)).columns =
      (lineColumns buttons).length := by
  rw [← map_snd_linePieces, Line.columns_of_plain (List.forall_mem_map.mpr
    (isPlain_of_mem_linePieces buttons)), List.flatMap_map, lineColumns, List.length_flatMap,
    List.length_flatMap]
  simp [pieceColumns]

/-- The glyphs of the line are those of its columns. -/
theorem glyphs_line :
    (Line.of (⟨pagesPrefix, Theme.quiet⟩ :: Session.pageSpans buttons)).glyphs =
      (lineColumns buttons).map PageColumn.glyph := by
  rw [← map_snd_linePieces, Line.glyphs, Line.of, List.flatMap_map, lineColumns, List.map_flatMap]
  refine List.flatMap_congr fun piece hpiece => ?_
  rw [Span.glyphs_of_plain (isPlain_of_mem_linePieces buttons piece hpiece), pieceColumns,
    List.map_map]
  rfl

variable {buttons}

/-- The buttons do not reach beyond the last column if the line does not. -/
theorem fits_line (h : (lineColumns buttons).length ≤ last) :
    Layout.Fits pagesPrefix.length (buttons.map PageButton.number) := by
  rw [length_lineColumns] at h
  by_cases hbuttons : buttons = []
  · have hprefix : pagesPrefix.length ≤ last + 1 := by decide
    rwa [hbuttons]
  · rw [Layout.Fits, advance_eq _ hbuttons]
    exact Nat.succ_le_succ h

/-- The buttons of a line that does not reach beyond the last column are hit in the columns of their
labels. -/
theorem find?_spans (h : (lineColumns buttons).length ≤ last) (c : Nat) :
    ((Layout.spans (buttons.map PageButton.number)).find? (·.holds c)).map Layout.Span.number =
      ((lineColumns buttons)[c]?).bind PageColumn.page := by
  have hprefix : (pieceColumns (none, ⟨pagesPrefix, Theme.quiet⟩)).length = pagesPrefix.length :=
    rfl
  rw [Layout.spans, lineColumns_eq]
  rcases Nat.lt_or_ge c pagesPrefix.length with hbefore | hbehind
  · have hcolumn := hbefore
    rw [← hprefix] at hcolumn
    have hstarts : ∀ s ∈ Layout.spansFrom pagesPrefix.length (buttons.map PageButton.number),
        c < s.start :=
      fun s hs => Nat.lt_of_lt_of_le hbefore ((fits_line h).bounds hs).1
    rw [Layout.find?_eq_none_of_lt hstarts, List.getElem?_append_left hcolumn,
      getElem?_pieceColumns hcolumn]
    rfl
  · obtain ⟨i, rfl⟩ := Nat.exists_eq_add_of_le hbehind
    rw [find?_spansFrom (fits_line h), List.getElem?_append_right (by omega), hprefix,
      Nat.add_sub_cancel_left]

end TheLine

/-! ## Drawing and clicking -/

/-- At a position in an area, the area shows the column of that distance from its first one. -/
theorem mem_shownColumns {buttons : List PageButton} {a : Area} {x y : Nat}
    (h : a.holds x y = true) {column : PageColumn} :
    (column, x) ∈ shownColumns buttons a ↔ (lineColumns buttons)[x - a.x]? = some column := by
  simp only [Area.holds, Bool.and_eq_true, decide_eq_true_eq] at h
  obtain ⟨⟨⟨hleft, hright⟩, htop⟩, hbottom⟩ := h
  have hwidth : x < a.x + a.width := Nat.lt_of_lt_of_le hright (Nat.min_le_left _ _)
  have hheight : y < a.y + a.height := Nat.lt_of_lt_of_le hbottom (Nat.min_le_left _ _)
  have hshown : a.isEmpty = false := by
    rw [Area.isEmpty, Bool.or_eq_false_iff, beq_eq_false_iff_ne, beq_eq_false_iff_ne]
    omega
  rw [shownColumns, hshown, if_neg Bool.false_ne_true,
    List.mk_mem_zipIdx_iff_le_and_getElem?_sub, List.getElem?_take_of_lt (by omega)]
  exact and_iff_right hleft

/-- The stroke that draws a column of the line. -/
def columnStroke (y : Nat) : PageColumn × Nat → Stroke
  | (column, x) => .put x y column.glyph.symbol.chars column.glyph.style

/-- The page buttons of a view are hit where they are drawn. -/
structure HitWhereDrawn (v : Directory.View) (l : Layout) : Prop where
  /-- The columns that the area shows are drawn, after styles are laid over the area. -/
  drawn : ∃ opening : List Stroke,
    (∀ stroke ∈ opening, ∃ style, stroke = .restyle l.pagination style) ∧
      Session.drawPages v l =
        opening ++ (shownColumns v.pages l.pagination).map (columnStroke l.pagination.y)
  /-- A position hits a page exactly when it is in the area, and in a column that is drawn for the
  label of the page. -/
  hit : ∀ x y page, l.pageAt x y (v.pages.map PageButton.number) = some page ↔
    l.pagination.holds x y = true ∧
      ∃ column, (column, x) ∈ shownColumns v.pages l.pagination ∧ column.page = some page
  /-- Nothing that is counted for a position is beyond the last column. -/
  counted : ∀ x y, l.pageAt? x y (v.pages.map PageButton.number) =
    some (l.pageAt x y (v.pages.map PageButton.number))
  /-- Each button starts one column behind the end of the one before. -/
  apart : (Layout.spans (v.pages.map PageButton.number)).IsChain fun a b =>
    b.start = a.start + a.width + 1
  /-- Each button ends before all those behind it start. -/
  disjoint : (Layout.spans (v.pages.map PageButton.number)).Pairwise fun a b =>
    a.start + a.width < b.start
  /-- No page is hit on what stands before the buttons. -/
  before : ∀ x y, x < l.pagination.x + pagesPrefix.length →
    l.pageAt x y (v.pages.map PageButton.number) = none
  /-- No page is hit in the column behind a button. -/
  between : ∀ s ∈ Layout.spans (v.pages.map PageButton.number), ∀ y,
    l.pageAt (l.pagination.x + (s.start + s.width)) y (v.pages.map PageButton.number) = none
  /-- No page is hit behind all the buttons. -/
  beyond : ∀ x y, l.pagination.x + (lineColumns v.pages).length ≤ x →
    l.pageAt x y (v.pages.map PageButton.number) = none

/-- The columns that an area shows are drawn, after styles are laid over the area. -/
theorem drawPages_eq (v : Directory.View) {l : Layout} (h : l.pagination.height ≤ 1) :
    ∃ opening : List Stroke,
      (∀ stroke ∈ opening, ∃ style, stroke = .restyle l.pagination style) ∧
        Session.drawPages v l =
          opening ++ (shownColumns v.pages l.pagination).map (columnStroke l.pagination.y) := by
  have hplain : ∀ g ∈ (lineColumns v.pages).map PageColumn.glyph, g.symbol.columns = 1 := by
    intro g hg
    obtain ⟨column, hcolumn, rfl⟩ := List.mem_map.mp hg
    obtain ⟨piece, -, hpiece⟩ := List.mem_flatMap.mp hcolumn
    obtain ⟨c, -, rfl⟩ := List.mem_map.mp hpiece
    rfl
  have hdraw := Paragraph.draw_line (glyphs_line v.pages) hplain h
  rw [Session.drawPages, hdraw, shownColumns]
  split
  · exact ⟨[.restyle l.pagination .plain], by simp, rfl⟩
  · refine ⟨[.restyle l.pagination .plain, .restyle l.pagination .plain], by simp, ?_⟩
    rw [← List.map_take, List.zipIdx_map, List.map_map]
    rfl

/-- As long as the line of page buttons does not grow beyond the last column, the buttons are hit
exactly where they are drawn. -/
theorem hitWhereDrawn (v : Directory.View) (l : Layout)
    (hwidth : (Line.of (⟨pagesPrefix, Theme.quiet⟩ :: Session.pageSpans v.pages)).columns ≤ last)
    (hheight : l.pagination.height ≤ 1) : HitWhereDrawn v l := by
  rw [columns_line] at hwidth
  have hpage (x y : Nat) : l.pageAt x y (v.pages.map PageButton.number) =
      if l.pagination.holds x y then
        ((lineColumns v.pages)[x - l.pagination.x]?).bind PageColumn.page
      else none := by
    rw [Layout.pageAt, find?_spans hwidth]
  have hnone {x y : Nat} (h : (Layout.spans (v.pages.map PageButton.number)).find?
      (·.holds (x - l.pagination.x)) = none) :
      l.pageAt x y (v.pages.map PageButton.number) = none := by
    rw [Layout.pageAt, h, Option.map_none, ite_self]
  have hfits := fits_line hwidth
  exact {
    drawn := drawPages_eq v hheight
    hit := by
      intro x y page
      rw [hpage]
      by_cases hholds : l.pagination.holds x y = true
      · simp only [hholds, if_true, true_and, mem_shownColumns hholds, Option.bind_eq_some_iff]
      · simp [hholds]
    counted := by
      intro x y
      have hcounted := Layout.findM?_eq_find? (c := x - l.pagination.x)
        fun s hs _ => hfits.end_le hs
      rw [Layout.pageAt?, Layout.pageAt, Layout.spans, hcounted]
      split <;> rfl
    apart := hfits.isChain
    disjoint := hfits.pairwise
    before := by
      intro x y hx
      have hprefix : 0 < pagesPrefix.length := by decide
      refine hnone (Layout.find?_eq_none_of_lt fun s hs => ?_)
      exact Nat.lt_of_lt_of_le (by omega) (hfits.bounds hs).1
    between := by
      intro s hs y
      apply hnone
      rw [Nat.add_sub_cancel_left]
      exact hfits.find?_behind hs
    beyond := by
      intro x y hx
      rw [hpage, List.getElem?_eq_none (by omega), Option.bind_none, ite_self] }

/-- Twelve page buttons on a screen of 80 columns: the label of page 10, the first of two digits,
begins in column 43 and ends before column 47. -/
theorem hitWhereDrawn_twelve :
    let v : Directory.View :=
      ⟨"", false, 2, (List.range' 1 12).map fun number => ⟨number, number == 2⟩, [], 60, false⟩
    let l := Layout.of ⟨0, 0, 80, 24⟩
    HitWhereDrawn v l ∧
      (List.range' 42 6).map (fun x => l.pageAt x 3 (v.pages.map PageButton.number)) =
        [none, some 10, some 10, some 10, some 10, none] :=
  ⟨hitWhereDrawn _ _ (by decide +kernel) (by decide), by decide +kernel⟩

end Roster.Terminal
