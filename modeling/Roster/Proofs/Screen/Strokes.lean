import Roster.Screen.Widget

/-!
# What parts of a drawing leave alone

A line of text is drawn by putting symbols into one line of the screen; it lays no style over an
area. So a row of a table touches its own line only. The styles that a drawing lays over areas are
those of its rows, its texts and the titles of its boxes, and a style that none of them has is laid
nowhere.
-/

namespace Roster.Screen

/-! ## Lines of text -/

/-- What the drawing of a text on a line of the screen is made of: it puts symbols into the line,
joins marks to them, and empties single cells. -/
inductive Stroke.Writes (y : Nat) : Stroke → Prop
  | put (x : Nat) (symbol : List Char) (style : Style) : Writes y (.put x y symbol style)
  | join (x : Nat) (marks : List Char) (style : Style) : Writes y (.join x y marks style)
  | empty (x : Nat) : Writes y (.empty ⟨x, y, 1, 1⟩)

/-- The cells that a symbol hides are on its line. -/
theorem writes_of_mem_hiddenCells {x y columns : Nat} :
    ∀ stroke ∈ hiddenCells x y columns, stroke.Writes y := by
  intro stroke hstroke
  obtain ⟨i, -, rfl⟩ := List.mem_map.mp hstroke
  exact .empty _

/-- Glyphs are put into their line. -/
theorem writes_of_mem_putGlyphs {x0 y right x : Nat} {fresh : Bool} {glyphs : List Glyph} :
    ∀ stroke ∈ putGlyphs x0 y right x fresh glyphs, stroke.Writes y := by
  induction glyphs generalizing x fresh with
  | nil => simp [putGlyphs]
  | cons g rest ih =>
    simp only [putGlyphs]
    split
    · simp
    · intro stroke hstroke
      simp only [List.cons_append, List.mem_cons, List.mem_append] at hstroke
      rcases hstroke with rfl | hhidden | hrest
      · split
        · exact .put _ _ _
        · split
          · exact .join _ _ _
          · split
            · exact .join _ _ _
            · exact .put _ _ _
      · exact writes_of_mem_hiddenCells stroke hhidden
      · exact ih stroke hrest

/-- Pieces of a line are put into it. -/
theorem writes_of_mem_putPieces {y right x : Nat} {pieces : List Piece} :
    ∀ stroke ∈ putPieces y right x pieces, stroke.Writes y := by
  induction pieces generalizing x with
  | nil => simp [putPieces]
  | cons p rest ih =>
    simp only [putPieces]
    split
    · simp
    · intro stroke hstroke
      rcases List.mem_append.mp hstroke with hfirst | hrest
      · exact writes_of_mem_putGlyphs stroke hfirst
      · exact ih stroke hrest

/-- A line of text is drawn into the first line of its area. -/
theorem writes_of_mem_drawLine {area : Area} {l : Line} :
    ∀ stroke ∈ drawLine area l, stroke.Writes area.y := by
  simp only [drawLine]
  generalize l.alignment.getD .left = alignment
  split
  · simp
  · split
    · exact writes_of_mem_putPieces
    · cases alignment <;> dsimp only <;> split <;> exact writes_of_mem_putPieces

/-! ## Lines of the screen -/

/-- What a box leaves of its area; without a box that is all of it. -/
def insideOf (box : Option Box) (a : Area) : Area :=
  box.elim a fun b => b.inner a

/-- The box of a text or a table, if it has one. -/
def drawAround (box : Option Box) (a : Area) : List Stroke :=
  box.elim [] fun b => b.draw a

/-- The lines of a text that are drawn into an area. -/
def Paragraph.drawInside (p : Paragraph) (inner : Area) : List Stroke :=
  if inner.isEmpty then []
  else
    .restyle inner p.style ::
      (((p.shown inner.width).take inner.height).zipIdx.flatMap fun ((glyphs, alignment), i) =>
        putLine (inner.y + i) (inner.x + indent alignment inner.width (glyphColumns glyphs)) glyphs)

/-- A text consists of its box and its lines. -/
theorem Paragraph.draw_eq (p : Paragraph) (a : Area) :
    p.draw a = .restyle a p.style :: drawAround p.box a ++ p.drawInside (insideOf p.box a) := by
  obtain ⟨lines, style, alignment, overflow, box⟩ := p
  cases box <;> rfl

namespace Table

/-- How many lines the header takes. -/
def headerHeight (t : Table) : Nat :=
  if t.header.isSome then 1 else 0

/-- The header of a table that is drawn into an area. -/
def drawHeader (t : Table) (inner : Area) : List Stroke :=
  t.header.elim [] (drawRow (t.columns inner.width) { inner with height := 1 })

/-- The rows of a table that are drawn into an area, from the line below the header on. -/
def drawRows (t : Table) (inner : Area) : List Stroke :=
  (t.rows.take (inner.height - t.headerHeight)).zipIdx.flatMap fun (row, i) =>
    drawRow (t.columns inner.width) ⟨inner.x, inner.y + t.headerHeight + i, inner.width, 1⟩ row

/-- A table consists of its box, its header and its rows. -/
theorem draw_eq (t : Table) (a : Area) :
    t.draw a = drawAround t.box a ++
      if (insideOf t.box a).isEmpty then []
      else t.drawHeader (insideOf t.box a) ++ t.drawRows (insideOf t.box a) := by
  obtain ⟨header, rows, widths, box⟩ := t
  cases header <;> cases box <;> simp only [draw] <;> split <;>
    simp_all [drawAround, insideOf, drawHeader, drawRows, headerHeight]

end Table

/-! ## Styles that are laid over areas -/

/-- The style is not laid over any area. -/
def Spares (style : Style) (strokes : List Stroke) : Prop :=
  ∀ area, .restyle area style ∉ strokes

section Spares

variable {style : Style}

@[simp] theorem spares_nil : Spares style [] :=
  fun _ => List.not_mem_nil

@[simp] theorem spares_append {before after : List Stroke} :
    Spares style (before ++ after) ↔ Spares style before ∧ Spares style after := by
  simp [Spares, forall_and]

@[simp] theorem spares_restyle {area : Area} {other : Style} {rest : List Stroke} :
    Spares style (.restyle area other :: rest) ↔ other ≠ style ∧ Spares style rest := by
  simp only [Spares, List.mem_cons, Stroke.restyle.injEq, not_or, forall_and]
  refine and_congr_left fun _ => ⟨fun h heq => h area ⟨rfl, heq.symm⟩, fun h _ hsame => ?_⟩
  exact h hsame.2.symm

@[simp] theorem spares_empty {area : Area} {rest : List Stroke} :
    Spares style (.empty area :: rest) ↔ Spares style rest := by
  simp [Spares]

/-- What is drawn for each of several things spares a style if it does for each of them. -/
theorem spares_flatMap {α : Type} {f : α → List Stroke} {items : List α}
    (h : ∀ item ∈ items, Spares style (f item)) : Spares style (items.flatMap f) := by
  intro area hmem
  obtain ⟨item, hitem, hstroke⟩ := List.mem_flatMap.mp hmem
  exact h item hitem area hstroke

/-- A line of text lays no style over an area. -/
theorem spares_drawLine (area : Area) (l : Line) : Spares style (drawLine area l) := by
  intro _ hmem
  cases writes_of_mem_drawLine _ hmem

/-- A box lays the style of its titles over areas. -/
theorem Box.spares_draw {b : Box} (htitle : b.titleStyle ≠ style) (a : Area) :
    Spares style (b.draw a) := by
  have hsides : Spares style (b.drawSides a) := by
    intro area hmem
    simp only [drawSides, List.mem_append, List.mem_flatMap, List.mem_ite_nil_right,
      List.mem_singleton, reduceCtorEq, and_false, exists_false, or_self] at hmem
  have htitles : Spares style (b.drawTitles a) := by
    simp only [drawTitles, spares_append]
    constructor
    · cases b.title with
      | none => exact spares_nil
      | some l => exact spares_restyle.mpr ⟨htitle, spares_drawLine _ l⟩
    · cases b.footer with
      | none => exact spares_nil
      | some l => exact spares_restyle.mpr ⟨htitle, spares_drawLine _ l⟩
  simp only [draw]
  split
  · exact spares_nil
  · exact spares_append.mpr ⟨hsides, htitles⟩

/-- The box of a text or a table lays the style of its titles over areas. -/
theorem spares_drawAround {box : Option Box} (hbox : ∀ b ∈ box, b.titleStyle ≠ style) (a : Area) :
    Spares style (drawAround box a) := by
  cases box with
  | none => exact spares_nil
  | some b => exact Box.spares_draw (hbox b rfl) a

/-- Glyphs side by side lay no style over an area. -/
theorem Paragraph.spares_putLine (y x : Nat) (glyphs : List Glyph) :
    Spares style (putLine y x glyphs) := by
  induction glyphs generalizing x with
  | nil => exact spares_nil
  | cons g rest ih =>
    simp only [putLine]
    split
    · exact ih x
    · intro area hmem
      rcases List.mem_cons.mp hmem with hput | hrest
      · cases hput
      · exact ih _ area hrest

/-- A text lays its own style and that of the titles of its box over areas. -/
theorem Paragraph.spares_draw {p : Paragraph} (hstyle : p.style ≠ style)
    (hbox : ∀ b ∈ p.box, b.titleStyle ≠ style) (a : Area) : Spares style (p.draw a) := by
  simp only [draw_eq, List.cons_append, spares_restyle, spares_append]
  refine ⟨hstyle, spares_drawAround hbox a, ?_⟩
  simp only [drawInside]
  split
  · exact spares_nil
  · exact spares_restyle.mpr ⟨hstyle, spares_flatMap fun _ _ => spares_putLine _ _ _⟩

/-- A row lays its own style over its area. -/
theorem Table.spares_drawRow {row : Row} (hstyle : row.style ≠ style) (columns : List (Nat × Nat))
    (area : Area) : Spares style (drawRow columns area row) :=
  spares_restyle.mpr ⟨hstyle, spares_flatMap fun _ _ => spares_drawLine _ _⟩

/-- A table lays the styles of its rows, of its header and of the titles of its box over areas. -/
theorem Table.spares_draw {t : Table} (hrows : ∀ row ∈ t.rows, row.style ≠ style)
    (hheader : ∀ row ∈ t.header, row.style ≠ style) (hbox : ∀ b ∈ t.box, b.titleStyle ≠ style)
    (a : Area) : Spares style (t.draw a) := by
  simp only [draw_eq, spares_append]
  refine ⟨spares_drawAround hbox a, ?_⟩
  split
  · exact spares_nil
  · refine spares_append.mpr ⟨?_, spares_flatMap fun (row, _) hrow => ?_⟩
    · cases ht : t.header with
      | none => simp [drawHeader, ht]
      | some row =>
        rw [drawHeader, ht]
        exact spares_drawRow (hheader row ht) _ _
    · exact spares_drawRow (hrows row (List.mem_of_mem_take (List.fst_mem_of_mem_zipIdx hrow))) _ _

end Spares

end Roster.Screen
