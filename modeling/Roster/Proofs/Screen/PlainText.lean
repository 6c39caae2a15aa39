import Roster.Proofs.Screen.Strokes

/-!
# Plain text

A character of the basic block that is no control is a symbol of its own, and fills one column. So
the symbols of a plain text are its characters, and a line of plain text is drawn character by
character, each in the column after the one before, as far as the area reaches.
-/

namespace Roster

namespace Text

/-- A character of the basic block that is no control. -/
def IsPlain (c : Char) : Prop :=
  0x20 ≤ c.toNat ∧ c.toNat < 0x7F

instance (c : Char) : Decidable (IsPlain c) :=
  inferInstanceAs (Decidable (_ ∧ _))

/-- The symbol of a plain character. -/
def Symbol.ofPlain (c : Char) : Symbol := ⟨[c], 1⟩

section Plain

variable {c : Char} {cs : List Char}

/-- A plain character is no control. -/
theorem IsPlain.isControl (h : IsPlain c) : isControl c = false := by
  simp only [Text.isControl, Bool.or_eq_false_iff, Bool.and_eq_false_iff, decide_eq_false_iff_not]
  exact ⟨Nat.not_le.mpr h.1, .inl (Nat.not_le.mpr h.2)⟩

/-- A digit is plain. -/
theorem isPlain_of_isDigit (h : c.isDigit = true) : IsPlain c := by
  simp only [Char.isDigit, Bool.and_eq_true, decide_eq_true_eq, ge_iff_le,
    UInt32.le_iff_toNat_le] at h
  have hlow : 48 ≤ c.toNat := h.1
  have hhigh : c.toNat ≤ 57 := h.2
  exact ⟨by omega, by omega⟩

/-- A plain character does not belong to the symbol before it. -/
theorem IsPlain.extendsSymbol (h : IsPlain c) (before : List Char) :
    extendsSymbol before c = false := by
  have hcode : c.toNat < 0x80 := Nat.lt_succ_of_lt h.2
  have hmark : isMark c = false := by simp [isMark, Nat.not_le.mpr hcode]
  have hjoiner : (c == joiner) = false := by
    rw [beq_eq_false_iff_ne]
    rintro rfl
    exact absurd hcode (by decide)
  have hwide : (columnsOf c == 2) = false := by simp [columnsOf, hcode]
  have hflag : isFlagLetter c = false := by
    simp only [isFlagLetter, Bool.and_eq_false_iff, decide_eq_false_iff_not]
    omega
  cases before <;> simp [Text.extendsSymbol, hmark, hjoiner, hwide, hflag]

/-- Behind a plain character, plain text falls into the symbols of its characters. -/
theorem symbolsAfter_singleton (hc : IsPlain c) (h : ∀ c ∈ cs, IsPlain c) :
    symbolsAfter [c] cs = (c :: cs).map Symbol.ofPlain := by
  have hcolumns {c : Char} (hc : IsPlain c) : symbolColumns [c] = 1 :=
    symbolColumns_plain (Nat.lt_succ_of_lt hc.2)
  induction cs generalizing c with
  | nil => simp [symbolsAfter, Symbol.ofPlain, hcolumns hc]
  | cons d rest ih =>
    obtain ⟨hd, hrest⟩ := List.forall_mem_cons.mp h
    simp [symbolsAfter, hd.extendsSymbol, Symbol.ofPlain, hcolumns hc, ih hd hrest]

/-- Plain text falls into the symbols of its characters. -/
theorem symbolsAfter_nil (h : ∀ c ∈ cs, IsPlain c) :
    symbolsAfter [] cs = cs.map Symbol.ofPlain := by
  cases cs with
  | nil => rfl
  | cons c rest =>
    obtain ⟨hc, hrest⟩ := List.forall_mem_cons.mp h
    exact symbolsAfter_singleton hc hrest

/-- Each character of a plain text shows. -/
theorem symbols_of_plain (h : ∀ c ∈ cs, IsPlain c) : symbols cs = cs.map Symbol.ofPlain := by
  rw [symbols, symbolsAfter_nil h, List.filter_eq_self]
  intro symbol hsymbol
  obtain ⟨c, hc, rfl⟩ := List.mem_map.mp hsymbol
  simp [Symbol.ofPlain, (h c hc).isControl]

/-- A plain text claims one column for each character. -/
theorem width_of_plain {s : String} (h : ∀ c ∈ s.toList, IsPlain c) : width s = s.length := by
  rw [width, symbolsAfter_nil h, List.map_map, ← String.length_toList]
  generalize s.toList = cs
  induction cs with
  | nil => rfl
  | cons c rest ih =>
    rw [List.map_cons, total_cons, ih, List.length_cons, Nat.add_comm]
    rfl

end Plain

end Text

namespace Screen

/-! ## Glyphs of one column -/

/-- Glyphs that fill one column each are cut off after as many as fit. -/
theorem cutGlyphs_eq_take {glyphs : List Glyph} (h : ∀ g ∈ glyphs, g.symbol.columns = 1)
    (limit used : Nat) : cutGlyphs limit used glyphs = glyphs.take (limit - used) := by
  induction glyphs generalizing used with
  | nil => simp [cutGlyphs]
  | cons g rest ih =>
    obtain ⟨hg, hrest⟩ := List.forall_mem_cons.mp h
    simp only [cutGlyphs, hg, ih hrest]
    split
    · have hzero : limit - used = 0 := by omega
      simp [hzero]
    · split
      · have hzero : limit - used = 0 := by omega
        simp [hzero]
      · have hsucc : limit - used = limit - (used + 1) + 1 := by omega
        rw [hsucc, List.take_succ_cons]

/-- Glyphs that fill one column each are put into columns side by side. -/
theorem Paragraph.putLine_eq_map {glyphs : List Glyph} (h : ∀ g ∈ glyphs, g.symbol.columns = 1)
    (y x : Nat) :
    putLine y x glyphs =
      (glyphs.zipIdx x).map fun (g, column) => .put column y g.symbol.chars g.style := by
  induction glyphs generalizing x with
  | nil => rfl
  | cons g rest ih =>
    obtain ⟨hg, hrest⟩ := List.forall_mem_cons.mp h
    simp [putLine, hg, ih hrest]

/-! ## A line of plain text -/

/-- The glyph of a plain character. -/
def Glyph.ofPlain (style : Style) (c : Char) : Glyph := ⟨.ofPlain c, style⟩

/-- The glyphs of a plain text are those of its characters. -/
theorem Span.glyphs_of_plain {s : Span} (h : ∀ c ∈ s.text.toList, Text.IsPlain c) :
    s.glyphs = s.text.toList.map (.ofPlain s.style) := by
  rw [glyphs, Text.symbols_of_plain h, List.map_map]
  rfl

/-- A line of plain text claims one column for each character. -/
theorem Line.columns_of_plain {spans : List Span}
    (h : ∀ s ∈ spans, ∀ c ∈ s.text.toList, Text.IsPlain c) :
    (Line.of spans).columns = (spans.flatMap fun s => s.text.toList).length := by
  rw [columns, pieces, List.map_map, Line.of]
  induction spans with
  | nil => rfl
  | cons s rest ih =>
    obtain ⟨hs, hrest⟩ := List.forall_mem_cons.mp h
    rw [List.map_cons, total_cons, ih hrest, List.flatMap_cons, List.length_append]
    exact congrArg (· + _) (Text.width_of_plain hs)

/-- A line of text whose glyphs fill one column each is drawn glyph by glyph, as far as the area
reaches. -/
theorem Paragraph.draw_line {spans : List Span} {glyphs : List Glyph}
    (hglyphs : (Line.of spans).glyphs = glyphs) (h : ∀ g ∈ glyphs, g.symbol.columns = 1)
    {a : Area} (hheight : a.height ≤ 1) :
    (Paragraph.of [.of spans]).draw a =
      .restyle a .plain ::
        if a.isEmpty then []
        else
          .restyle a .plain ::
            ((glyphs.take a.width).zipIdx a.x).map fun (g, column) =>
              .put column a.y g.symbol.chars g.style := by
  have hshown : (Paragraph.of [.of spans]).shown a.width = [(glyphs.take a.width, .left)] := by
    have hcut := cutGlyphs_eq_take h a.width 0
    simp only [shown, of, List.flatMap_cons, List.flatMap_nil, List.append_nil, hglyphs,
      Style.laidOver_plain, List.map_id', hcut, Nat.sub_zero]
    rfl
  have htaken : ∀ g ∈ glyphs.take a.width, g.symbol.columns = 1 :=
    fun g hg => h g (List.mem_of_mem_take hg)
  have hput := putLine_eq_map htaken
  have hdraw : (Paragraph.of [.of spans]).draw a =
      .restyle a .plain :: (Paragraph.of [.of spans]).drawInside a :=
    draw_eq _ a
  have hstyle : (Paragraph.of [.of spans]).style = .plain := rfl
  rw [hdraw, drawInside, hstyle]
  by_cases hempty : a.isEmpty = true
  · simp only [hempty, if_true]
  · have hone : a.height = 1 := by
      simp only [Area.isEmpty, Bool.or_eq_true, beq_iff_eq] at hempty
      omega
    simp [hempty, hshown, hone, hput, indent]

end Screen

end Roster
