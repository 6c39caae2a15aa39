import Roster.Proofs.Terminal.Dialogue
import Roster.Proofs.Terminal.Rows
import Roster.Report
import Roster.Web.Drawing

/-!
# When nothing matches

In place of rows, a message can say that no organization passes the filters. On both screens it is
the one thing that lays the quiet style over an area, and it is there exactly when nothing is listed.
A report says it whenever the page has no rows, so also on a page past the last one.
-/

namespace Roster

open Roster.Screen

/-! ## The quiet style -/

namespace Screen.Theme

theorem plain_ne_quiet : Style.plain ≠ quiet := by decide

theorem key_ne_quiet : key ≠ quiet := by decide

theorem chosen_ne_quiet : chosen ≠ quiet := by decide

theorem white_ne_quiet : Style.colored .white ≠ quiet := by decide

theorem header_ne_quiet : Web.headerStyle ≠ quiet := by decide

theorem title_ne_quiet : Web.titleStyle ≠ quiet := by decide

end Screen.Theme

open Theme

/-- A plain text without a box lays no quiet style over an area. -/
theorem Screen.spares_quiet_text (lines : List Line) (alignment : Alignment) (overflow : Overflow)
    (a : Area) : Spares quiet (Paragraph.draw ⟨lines, .plain, alignment, overflow, none⟩ a) :=
  Paragraph.spares_draw plain_ne_quiet (fun _ h => absurd h (Option.not_mem_none _)) a

/-- A plain text in a box with plain titles lays no quiet style over an area. -/
theorem Screen.spares_quiet_boxedText (lines : List Line) (alignment : Alignment)
    (overflow : Overflow) {b : Box} (hbox : b.titleStyle = .plain) (a : Area) :
    Spares quiet (Paragraph.draw ⟨lines, .plain, alignment, overflow, some b⟩ a) :=
  Paragraph.spares_draw plain_ne_quiet
    (fun _ h => Option.some.inj h ▸ hbox ▸ plain_ne_quiet) a

/-- A part that alone lays the quiet style over an area is in a drawing exactly when it is drawn. -/
theorem Screen.infix_iff_of_spares {part other before after : List Stroke} {drawn : Bool}
    (area : Area) (hpart : .restyle area quiet ∈ part) (hother : Spares quiet other)
    (hbefore : Spares quiet before) (hafter : Spares quiet after) :
    part <:+: before ++ (if drawn then part else other) ++ after ↔ drawn = true := by
  cases drawn with
  | true => exact iff_of_true (List.infix_append before part after) rfl
  | false =>
    have hspares : Spares quiet (before ++ other ++ after) := by
      simp [hbefore, hother, hafter]
    exact iff_of_false (fun hwithin => hspares area (hwithin.subset hpart)) Bool.false_ne_true

/-! ## The terminal -/

namespace Terminal.Session

/-- The message stands in place of the table. -/
def ShowsNoMatches (s : Session) (screen : Area) : Prop :=
  drawNoMatches (Layout.of screen) <:+: (s.draw screen).strokes

/-- The table lays no quiet style over an area. -/
theorem spares_quiet_drawTable (s : Session) (v : Directory.View) (l : Layout) :
    Spares quiet (s.drawTable v l) := by
  simp only [drawTable]
  refine Table.spares_draw ?_ (fun row hrow => ?_) (fun b hb => ?_) _
  · refine List.forall_mem_map.mpr fun item _ => ?_
    simp only [tableRow]
    split
    · exact chosen_ne_quiet
    · exact plain_ne_quiet
  · obtain rfl := Option.some.inj hrow
    exact key_ne_quiet
  · obtain rfl := Option.some.inj hb
    exact plain_ne_quiet

/-- The scores lay no quiet style over an area. -/
theorem spares_quiet_drawScores (s : Session) (v : Popup.View) (a : Area) :
    Spares quiet (s.drawScores v a) := by
  simp only [drawScores]
  split
  · exact spares_drawLine _ _
  · refine Table.spares_draw ?_ (fun _ h => absurd h (Option.not_mem_none _)) (fun b hb => ?_) a
    · exact List.forall_mem_map.mpr fun _ _ => plain_ne_quiet
    · obtain rfl := Option.some.inj hb
      exact plain_ne_quiet

/-- The popup lays no quiet style over an area. -/
theorem spares_quiet_drawPopup (s : Session) (screen : Area) :
    Spares quiet (s.drawPopup screen) := by
  simp only [drawPopup]
  split
  · exact spares_nil
  · simp only [List.cons_append, List.nil_append, spares_restyle, spares_empty, spares_append]
    exact ⟨by decide, ⟨⟨Box.spares_draw plain_ne_quiet _, spares_quiet_text _ _ _ _⟩,
      spares_quiet_text _ _ _ _⟩, s.spares_quiet_drawScores _ _⟩

/-- The help screen lays no quiet style over an area. -/
theorem spares_quiet_drawHelp (screen : Area) : Spares quiet (drawHelp screen) := by
  simp only [drawHelp, spares_empty]
  exact spares_quiet_boxedText _ _ _ rfl _

/-- The parts besides the table lay no quiet style over an area. -/
theorem spares_quiet_around (s : Session) (screen : Area) :
    Spares quiet (s.drawAbove (Layout.of screen)) ∧ Spares quiet (s.drawBelow screen) := by
  simp only [drawAbove, drawBelow, spares_append]
  refine ⟨⟨⟨spares_quiet_boxedText _ _ _ rfl _, spares_quiet_boxedText _ _ _ rfl _⟩,
    spares_quiet_text _ _ _ _⟩, ⟨spares_quiet_boxedText _ _ _ rfl _, s.spares_quiet_drawPopup _⟩, ?_⟩
  split
  · exact spares_quiet_drawHelp screen
  · exact spares_nil

/-- The terminal shows the message exactly when nothing is listed. -/
theorem showsNoMatches_iff {s : Session} {screen : Area} :
    s.ShowsNoMatches screen ↔ s.directory.listed = [] := by
  obtain ⟨habove, hbelow⟩ := s.spares_quiet_around screen
  rw [ShowsNoMatches, strokes_draw, ← List.isEmpty_iff]
  exact infix_iff_of_spares (Layout.of screen).table List.mem_cons_self
    (s.spares_quiet_drawTable _ _) habove hbelow

end Terminal.Session

/-! ## The web page -/

namespace Web.Session

/-- Where the table stands on the web page. -/
def tableArea (screen : Area) : Area :=
  let inner := (Box.bare.inner screen).shrink 1 1
  { inner with y := inner.y + 4, height := inner.height - 5 }

/-- The message stands in place of the table. -/
def ShowsNoMatches (s : Session) (screen : Area) : Prop :=
  drawNoMatches (tableArea screen) <:+: s.draw screen

/-- The table lays no quiet style over an area. -/
theorem spares_quiet_drawTable (s : Session) (v : Directory.View) (a : Area) :
    Spares quiet (s.drawTable v a) := by
  simp only [drawTable]
  refine Table.spares_draw ?_ (fun row hrow => ?_) (fun b hb => ?_) a
  · refine List.forall_mem_map.mpr fun item _ => ?_
    dsimp only
    split
    · exact chosen_ne_quiet
    · exact white_ne_quiet
  · obtain rfl := Option.some.inj hrow
    exact header_ne_quiet
  · obtain rfl := Option.some.inj hb
    exact plain_ne_quiet

/-- The scores lay no quiet style over an area. -/
theorem spares_quiet_drawScores (s : Session) (v : Popup.View) (a : Area) :
    Spares quiet (s.drawScores v a) := by
  simp only [drawScores]
  split
  · exact spares_quiet_text _ _ _ a
  · refine Table.spares_draw ?_ (fun row hrow => ?_) (fun _ h => absurd h (Option.not_mem_none _)) a
    · exact List.forall_mem_map.mpr fun _ _ => white_ne_quiet
    · obtain rfl := Option.some.inj hrow
      exact header_ne_quiet

/-- The popup lays no quiet style over an area. -/
theorem spares_quiet_drawPopup (s : Session) (screen : Area) :
    Spares quiet (s.drawPopup screen) := by
  simp only [drawPopup]
  split
  · exact spares_nil
  · simp only [List.cons_append, List.nil_append, spares_restyle, spares_empty, spares_append]
    exact ⟨by decide, ⟨Box.spares_draw title_ne_quiet _, spares_quiet_text _ _ _ _⟩,
      s.spares_quiet_drawScores _ _⟩

/-- The controls lay no quiet style over an area. -/
theorem spares_quiet_drawControls (s : Session) (a : Area) : Spares quiet (s.drawControls a) :=
  spares_append.mpr ⟨spares_quiet_boxedText _ _ _ rfl _, spares_quiet_boxedText _ _ _ rfl _⟩

/-- The table, or the message in its place, stands between the other parts of the page. None of these
lays the quiet style over an area. -/
theorem draw_eq (s : Session) (screen : Area) :
    ∃ above footer popup,
      s.draw screen = above ++
        (if s.directory.listed.isEmpty then drawNoMatches (tableArea screen)
          else s.drawTable s.directory.view (tableArea screen)) ++ footer ++ popup ∧
      Spares quiet above ∧ Spares quiet footer ∧ Spares quiet popup := by
  refine ⟨_, _, _, rfl, ?_, spares_quiet_text _ _ _ _, s.spares_quiet_drawPopup screen⟩
  simp only [spares_append]
  exact ⟨⟨Box.spares_draw title_ne_quiet _, s.spares_quiet_drawControls _⟩,
    spares_quiet_text _ _ _ _⟩

/-- The web page shows the message exactly when nothing is listed. -/
theorem showsNoMatches_iff {s : Session} {screen : Area} :
    s.ShowsNoMatches screen ↔ s.directory.listed = [] := by
  obtain ⟨above, footer, popup, hdraw, habove, hfooter, hpopup⟩ := s.draw_eq screen
  rw [ShowsNoMatches, hdraw, List.append_assoc _ footer, ← List.isEmpty_iff]
  exact infix_iff_of_spares (tableArea screen) List.mem_cons_self
    (s.spares_quiet_drawTable _ _) habove (spares_append.mpr ⟨hfooter, hpopup⟩)

end Web.Session

/-! ## Reports -/

namespace Report

/-- The message is one of the lines. -/
def SaysNoMatches (r : Report) : Prop :=
  Directory.noMatches ∈ r.lines

/-- The message is no line above the rows. -/
theorem noMatches_notMem_heading (r : Report) : Directory.noMatches ∉ r.heading := by
  have hfirst : ∀ c : Char, c ≠ 'T' → ∀ line : String, line.toList.head? = some c →
      Directory.noMatches ≠ line := by
    rintro c hc line hline rfl
    exact hc (Option.some.inj hline).symm
  simp only [heading, List.mem_cons, List.not_mem_nil, or_false, not_or]
  refine ⟨by decide, hfirst 'O' (by decide) _ ?_, by decide, hfirst 'P' (by decide) _ ?_, by decide⟩
  · simp [String.toList_append]
  · simp [String.toList_append]

/-- The message is not the line of a row, which has bars. -/
theorem noMatches_ne_rowLine (row : Directory.RowView) : Directory.noMatches ≠ rowLine row := by
  intro heq
  have hbar : '|' ∈ (rowLine row).toList := by
    simp [rowLine]
  rw [← heq] at hbar
  exact absurd hbar (by decide)

/-- A report says that nothing matches exactly when it has no rows. -/
theorem saysNoMatches_iff {r : Report} : r.SaysNoMatches ↔ r.rows = [] := by
  rw [SaysNoMatches, lines, List.mem_append, or_iff_right r.noMatches_notMem_heading, body]
  cases r.rows with
  | nil => simp
  | cons row rest =>
    refine iff_of_false (fun hmem => ?_) (List.cons_ne_nil row rest)
    obtain ⟨other, -, heq⟩ := List.mem_map.mp hmem
    exact noMatches_ne_rowLine other heq.symm

end Report

/-- A page shows nothing when nothing is listed. -/
theorem Directory.rows_eq_nil_of_listed {d : Directory} (h : d.listed = []) : d.rows = [] := by
  simp [rows, h, Page.slice]

/-! ## Both clients -/

namespace Clients

/-- On both screens the message is shown exactly when nothing is listed. A report says it exactly
when the page has no rows; so it agrees with the screens if and only if the page has rows or nothing
is listed. -/
theorem noMatches_iff (t : Terminal.Session) (w : Web.Session) (screen webScreen : Area) :
    (t.ShowsNoMatches screen ↔ t.directory.listed = []) ∧
      (w.ShowsNoMatches webScreen ↔ w.directory.listed = []) ∧
      ((Report.ofSession t).SaysNoMatches ↔ t.directory.rows = []) ∧
      (((Report.ofSession t).SaysNoMatches ↔ t.ShowsNoMatches screen) ↔
        t.directory.rows ≠ [] ∨ t.directory.listed = []) := by
  have hreport : (Report.ofSession t).SaysNoMatches ↔ t.directory.rows = [] := by
    rw [Report.saysNoMatches_iff]
    exact List.map_eq_nil_iff
  have hempty : t.directory.listed = [] → t.directory.rows = [] := Directory.rows_eq_nil_of_listed
  refine ⟨Terminal.Session.showsNoMatches_iff, Web.Session.showsNoMatches_iff, hreport, ?_⟩
  rw [hreport, Terminal.Session.showsNoMatches_iff]
  constructor
  · intro hagree
    rcases Decidable.em (t.directory.rows = []) with hrows | hrows
    · exact .inr (hagree.mp hrows)
    · exact .inl hrows
  · rintro (hrows | hlisted)
    · exact ⟨fun hnone => absurd hnone hrows, hempty⟩
    · exact ⟨fun _ => hlisted, hempty⟩

/-- Of one organization the second page is empty. The report says there that nothing matches, and the
terminal does not. -/
theorem noMatches_past_end :
    let t := Terminal.Session.start [.bare 7] .standard { Url.bare with query := some "page=2" }
    t.directory.page = 2 ∧ t.directory.listed = [0] ∧ t.directory.rows = [] ∧
      (Report.ofSession t).SaysNoMatches ∧ ∀ screen, ¬t.ShowsNoMatches screen := by
  intro t
  have hlisted : t.directory.listed = [0] := rfl
  have hrows : t.directory.rows = [] := by decide
  refine ⟨by decide, hlisted, hrows, ?_, fun screen hshown => ?_⟩
  · refine Report.saysNoMatches_iff.mpr ?_
    rw [Report.ofSession, Directory.view, hrows, List.map_nil]
  · rw [Terminal.Session.showsNoMatches_iff, hlisted] at hshown
    exact List.cons_ne_nil _ _ hshown

end Clients

end Roster
