import Roster.Proofs.Screen.Strokes
import Roster.Terminal.Drawing

/-!
# Rows on the screen

Between the parts above and below it, the terminal draws the table, or a message in its place. The
table draws the rows of the page that fit below its header, one on each line, from a first one that
is chosen such that the row under the cursor is among them. Where the border leaves no cell, nothing
but the border is drawn.
-/

namespace Roster.Terminal

open Roster.Screen

/-- A row of the page that is drawn: what it shows, its index on the page, and its line. -/
structure PlacedRow where
  row : Directory.RowView
  index : Nat
  line : Nat

namespace Session

/-! ## The parts of the screen -/

/-- What is drawn above the table. -/
def drawAbove (s : Session) (l : Layout) : List Stroke :=
  s.drawSearch l ++ s.drawVesting l ++ drawPages s.directory.view l

/-- What is drawn below the table and over it. -/
def drawBelow (s : Session) (screen : Area) : List Stroke :=
  s.drawHelpLine (Layout.of screen) ++ s.drawPopup screen ++
    if s.helpShown then drawHelp screen else []

/-- The table, or the message in its place, stands between the other parts of the screen. -/
theorem strokes_draw (s : Session) (screen : Area) :
    (s.draw screen).strokes = s.drawAbove (Layout.of screen) ++
      (if s.directory.listed.isEmpty then drawNoMatches (Layout.of screen)
        else s.drawTable s.directory.view (Layout.of screen)) ++ s.drawBelow screen := by
  simp [draw, drawDirectory, drawAbove, drawBelow, Directory.view]

/-! ## The rows of the table -/

/-- The area inside the border of the table. -/
def tableInside (screen : Area) : Area :=
  Box.bare.inner (Layout.of screen).table

/-- The rows of the page that are drawn, from the line below the header on. -/
def drawnRows (s : Session) (screen : Area) : List PlacedRow :=
  if (tableInside screen).isEmpty then []
  else
    (shownRows s.directory.view.rows (Layout.of screen).visibleRows s.row).zipIdx.map
      fun ((row, index), i) => ⟨row, index, (tableInside screen).y + 1 + i⟩

/-- The strokes of a row that is drawn. -/
def drawPlaced (s : Session) (screen : Area) (columns : List (Nat × Nat)) (p : PlacedRow) :
    List Stroke :=
  let inside := tableInside screen
  Table.drawRow columns ⟨inside.x, p.line, inside.width, 1⟩ (tableRow s.row (p.row, p.index))

/-- The terminal draws rows of the page, each on its line, and no other ones: all that it draws besides
them is a table without rows, or the message in its place, and the other parts of the screen. -/
def DrawsRows (s : Session) (screen : Area) (placed : List PlacedRow) : Prop :=
  ∃ (t : Table) (columns : List (Nat × Nat)), t.rows = [] ∧
    (s.draw screen).strokes = s.drawAbove (Layout.of screen) ++
      ((if s.directory.listed.isEmpty then drawNoMatches (Layout.of screen)
        else t.draw (Layout.of screen).table) ++
        placed.flatMap (s.drawPlaced screen columns)) ++ s.drawBelow screen

/-- The table has the rows of the page that it shows, below a header and inside a border. -/
theorem exists_table (s : Session) (screen : Area) :
    ∃ t : Table, s.drawTable s.directory.view (Layout.of screen) = t.draw (Layout.of screen).table ∧
      t.headerHeight = 1 ∧ insideOf t.box (Layout.of screen).table = tableInside screen ∧
      t.rows = (shownRows s.directory.view.rows (Layout.of screen).visibleRows s.row).map
        (tableRow s.row) := by
  simp only [drawTable]
  exact ⟨_, rfl, rfl, rfl, rfl⟩

/-- The table shows no more rows than fit. -/
theorem length_shownRows_le (rows : List Directory.RowView) (visible selected : Nat) :
    (shownRows rows visible selected).length ≤ visible :=
  List.length_take_le _ _

/-- The rows that the table shows follow one another on the page, from the first one shown on. -/
theorem getElem?_shownRows_eq_some_iff {rows : List Directory.RowView}
    {visible selected i index : Nat} {row : Directory.RowView} :
    (shownRows rows visible selected)[i]? = some (row, index) ↔
      i < visible ∧ index = Layout.scrollOffset rows.length visible selected + i ∧
        rows[index]? = some row := by
  rw [shownRows, List.getElem?_take]
  split
  · rename_i hvisible
    rw [List.getElem?_drop, List.getElem?_zipIdx, Option.map_eq_some_iff]
    simp only [Prod.mk.injEq, Nat.zero_add, hvisible, true_and]
    constructor
    · rintro ⟨other, hother, rfl, rfl⟩
      exact ⟨rfl, hother⟩
    · rintro ⟨rfl, hrow⟩
      exact ⟨row, hrow, rfl, rfl⟩
  · rename_i hbeyond
    simp [hbeyond]

/-- The rows that a table draws are those that fit below its header. -/
theorem drawRows_eq {s : Session} {screen : Area} {t : Table} (hheader : t.headerHeight = 1)
    (hrows : t.rows = (shownRows s.directory.view.rows (Layout.of screen).visibleRows s.row).map
      (tableRow s.row)) (hinside : (tableInside screen).isEmpty = false) :
    t.drawRows (tableInside screen) = (s.drawnRows screen).flatMap
      (s.drawPlaced screen (t.columns (tableInside screen).width)) := by
  have hfit : t.rows.length ≤ (tableInside screen).height - t.headerHeight := by
    rw [hrows, hheader, List.length_map]
    exact length_shownRows_le _ _ _
  rw [Table.drawRows, List.take_of_length_le hfit, hrows, hheader, drawnRows, hinside,
    if_neg Bool.false_ne_true, List.zipIdx_map, List.flatMap_map, List.flatMap_map]
  rfl

/-- The terminal draws the rows that fit below the header of the table. -/
theorem drawsRows_drawnRows (s : Session) (screen : Area) :
    s.DrawsRows screen (s.drawnRows screen) := by
  obtain ⟨t, htable, hheader, hinside, hrows⟩ := s.exists_table screen
  refine ⟨{ t with rows := [] }, t.columns (tableInside screen).width, rfl, ?_⟩
  rw [strokes_draw]
  congr 2
  cases hlisted : s.directory.listed with
  | nil =>
    have hnone : s.drawnRows screen = [] := by
      simp [drawnRows, shownRows, Directory.view, Directory.rows, Page.slice, hlisted]
    simp [hnone]
  | cons index rest =>
    have hbare : Table.drawRows { t with rows := [] } (tableInside screen) = [] := by
      simp [Table.drawRows]
    have hempty : (index :: rest).isEmpty = false := rfl
    rw [hempty, if_neg Bool.false_ne_true, if_neg Bool.false_ne_true, htable, Table.draw_eq,
      Table.draw_eq, hinside, hbare]
    cases hcells : (tableInside screen).isEmpty with
    | true => simp [drawnRows, hcells]
    | false => simp [drawRows_eq hheader hrows hcells, Table.drawHeader, Table.columns]

/-- A row that is drawn is a row of the page, on the line that is as far below the header as it is
behind the first row that is shown. -/
theorem mem_drawnRows_iff {s : Session} {screen : Area} {p : PlacedRow} :
    p ∈ s.drawnRows screen ↔ (tableInside screen).isEmpty = false ∧
      ∃ i < (Layout.of screen).visibleRows,
        p.index = Layout.scrollOffset s.rows.length (Layout.of screen).visibleRows s.row + i ∧
          p.line = (tableInside screen).y + 1 + i ∧
          (s.rows[p.index]?).map s.directory.rowView = some p.row := by
  have hlength : s.directory.view.rows.length = s.rows.length := List.length_map _
  have hrow : ∀ index, s.directory.view.rows[index]? =
      (s.rows[index]?).map s.directory.rowView := fun index => List.getElem?_map
  rw [drawnRows]
  cases (tableInside screen).isEmpty with
  | true => simp
  | false =>
    simp only [Bool.false_eq_true, if_false, List.mem_map, true_and]
    constructor
    · rintro ⟨⟨⟨row, index⟩, i⟩, hmem, rfl⟩
      rw [List.mem_zipIdx_iff_getElem?, getElem?_shownRows_eq_some_iff, hlength, hrow] at hmem
      exact ⟨i, hmem.1, hmem.2.1, rfl, hmem.2.2⟩
    · rintro ⟨i, hvisible, hindex, hline, hshown⟩
      refine ⟨((p.row, p.index), i), ?_, ?_⟩
      · rw [List.mem_zipIdx_iff_getElem?, getElem?_shownRows_eq_some_iff, hlength, hrow]
        exact ⟨hvisible, hindex, hshown⟩
      · rw [← hline]

end Session

end Roster.Terminal
