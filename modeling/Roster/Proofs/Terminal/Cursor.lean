import Roster.Proofs.Terminal.Clicks
import Roster.Proofs.Terminal.Operations

/-!
# The cursor

The cursor is always on a row of the page, or at zero while the page is empty. What is listed and the
page can only change together with the cursor, which then goes back to the first row; answers change
organizations, but never how many rows the page has. So the table highlights exactly one of the rows
that it draws, and Enter activates the organization of that row.
-/

namespace Roster

/-- How many rows the page has depends on the organizations by their number only. -/
theorem Directory.length_rows (d : Directory) :
    d.rows.length = (Page.slice d.listed d.page d.pageSize).countP
      fun index => index < d.organizations.length := by
  rw [rows, List.length_filterMap_eq_countP]
  refine List.countP_congr fun index _ => ?_
  simp

/-- Taking in details leaves the number of rows as it is. -/
theorem Directory.length_rows_receiveDetail (d : Directory) (id : OrganizationId)
    (result : Fetched OrganizationDetail) :
    (d.receiveDetail id result).state.rows.length = d.rows.length := by
  have hcount : (d.receiveDetail id result).state.organizations.length =
      d.organizations.length := by
    rw [receiveDetail_organizations]
    cases result with
    | ok detail => exact length_updateFirst _ _ _
    | error e => rfl
  obtain ⟨os, selected, visible, pending, hreceive⟩ := d.receiveDetail_eq id result
  rw [length_rows, hcount, hreceive, length_rows]

namespace Terminal

open Screen

/-- Something done to a session: an event, or one of its own functions, called with any argument. -/
inductive Act where
  | event (e : Event)
  | selectRow (index : Nat)
  | activate (id : OrganizationId)
  | turnTo (page : Nat)
  | toggleVesting
  | search (term : String)

namespace Session

/-- What an act leads to. -/
def act (s : Session) : Act → Step Session
  | .event e => s.on e
  | .selectRow index => .silent (s.selectRow index)
  | .activate id => s.activate id
  | .turnTo page => .silent (s.turnTo page)
  | .toggleVesting => .silent s.toggleVesting
  | .search term => .silent (s.search term)

/-- The session after acts, the first of them done first. -/
def run (s : Session) (acts : List Act) : Session :=
  acts.foldl (fun s a => (s.act a).state) s

/-- The cursor is not beyond the last row of the page, nor beyond zero while the page is empty. -/
def CursorFits (s : Session) : Prop :=
  s.row ≤ s.rows.length - 1

/-- The cursor is on a row of the page, or at zero while the page is empty. -/
theorem cursorFits_iff {s : Session} :
    s.CursorFits ↔ s.row < s.rows.length ∨ s.rows = [] ∧ s.row = 0 := by
  rw [CursorFits, ← List.length_eq_zero_iff]
  omega

/-! ## Acts -/

namespace CursorFits

variable {s t : Session}

/-- The first row is on every page. -/
theorem of_first (h : t.row = 0) : t.CursorFits := by
  rw [CursorFits, h]
  exact Nat.zero_le _

/-- The cursor stays on a page that keeps its number of rows. -/
theorem of_page (h : s.CursorFits) (rows : t.rows.length = s.rows.length)
    (row : t.row = s.row) : t.CursorFits := by
  rw [CursorFits, rows, row]
  exact h

/-- Whatever does not change the directory or the cursor leaves the cursor on the page. -/
theorem of_directory (h : s.CursorFits) (directory : t.directory = s.directory)
    (row : t.row = s.row) : t.CursorFits :=
  h.of_page (by rw [Session.rows, directory, Session.rows]) row

theorem previousRow (h : s.CursorFits) : s.previousRow.CursorFits :=
  Nat.le_trans (Nat.sub_le s.row 1) h

theorem nextRow (h : s.CursorFits) : s.nextRow.CursorFits := by
  unfold Session.nextRow
  split
  · rename_i hlast
    exact Nat.le_sub_one_of_lt hlast
  · exact h

theorem selectRow (s : Session) (index : Nat) : (s.selectRow index).CursorFits :=
  Nat.min_le_right _ _

theorem turnTo? (h : s.CursorFits) (page : Option Nat) : (s.turnTo? page).CursorFits := by
  cases page with
  | none => exact h
  | some page => exact .of_first rfl

theorem eraseSearch (h : s.CursorFits) : s.eraseSearch.CursorFits := by
  unfold Session.eraseSearch
  split
  · exact h
  · exact .of_first rfl

theorem clearSearch (h : s.CursorFits) : s.clearSearch.CursorFits := by
  unfold Session.clearSearch
  split
  · exact h
  · exact .of_first rfl

theorem syncPopup (h : s.CursorFits) : s.syncPopup.state.CursorFits :=
  h.of_directory rfl rfl

theorem dismiss (h : s.CursorFits) (gesture : Gesture) : (s.dismiss gesture).CursorFits := by
  unfold Session.dismiss
  split
  · exact h.of_page rfl rfl
  · exact h

theorem activate (h : s.CursorFits) (id : OrganizationId) : (s.activate id).state.CursorFits := by
  obtain ⟨selected, visible, pending, hactivate⟩ := s.directory.activate_eq id
  have hrows : (s.directory.activate id).state.rows.length = s.rows.length := by
    rw [hactivate]
    rfl
  simp only [Session.activate]
  split
  · exact CursorFits.syncPopup (h.of_page hrows rfl)
  · exact h.of_page hrows rfl

theorem activateCursor (h : s.CursorFits) : s.activateCursor.state.CursorFits := by
  unfold Session.activateCursor
  split
  · exact h.activate _
  · exact h

/-- Keys in the directory move the cursor within the page, or lead to another one. -/
theorem directoryKey (h : s.CursorFits) (key : KeyPress) :
    (s.directoryKey key).state.CursorFits := by
  cases key with
  | char c =>
    simp only [Session.directoryKey]
    split_ifs
    · exact h.of_directory rfl rfl
    · exact h.of_directory rfl rfl
    · exact .of_first rfl
    · exact h.turnTo? _
    · exact h.turnTo? _
    · exact h.previousRow
    · exact h.nextRow
    · exact h.turnTo? _
  | escape => exact h.clearSearch
  | left => exact h.turnTo? _
  | right => exact h.turnTo? _
  | up => exact h.previousRow
  | down => exact h.nextRow
  | home => exact .selectRow s 0
  | end_ => exact Nat.le_refl _
  | enter => exact h.activateCursor
  | _ => exact h

/-- Typing into the search box leads back to the first row. -/
theorem searchKey (h : s.CursorFits) (key : KeyPress) : (s.searchKey key).CursorFits := by
  cases key with
  | char c => exact .of_first rfl
  | backspace => exact h.eraseSearch
  | enter | escape | tab | down => exact h.of_directory rfl rfl
  | _ => exact h

theorem popupPress (h : s.CursorFits) (key : KeyPress) :
    (s.popupPress key).state.CursorFits := by
  unfold Session.popupPress popupKey
  split_ifs
  · exact (h.dismiss _).syncPopup
  · exact (h.dismiss _).syncPopup
  · exact h

theorem press (h : s.CursorFits) (key : KeyPress) : (s.press key).state.CursorFits := by
  unfold Session.press
  split_ifs
  · exact h.of_directory rfl rfl
  · exact h.of_directory rfl rfl
  · exact h
  · exact h.popupPress key
  · exact h.searchKey key
  · exact h.directoryKey key

theorem clickPopup (h : s.CursorFits) (target : PopupElement) :
    (s.clickPopup target).state.CursorFits := by
  unfold Session.clickPopup pressClose
  split_ifs
  · exact (h.dismiss _).syncPopup
  · exact (h.dismiss _).syncPopup
  · exact h

theorem clickDirectory (h : s.CursorFits) (screen : Screen.Area) (x y : Nat) :
    (s.clickDirectory screen x y).state.CursorFits := by
  unfold Session.clickDirectory
  simp only
  split_ifs
  · exact h.of_directory rfl rfl
  · exact .of_first rfl
  · split
    · exact .of_first rfl
    · split
      · exact (selectRow _ _).activateCursor
      · exact h.of_directory rfl rfl

theorem click (h : s.CursorFits) (screen : Screen.Area) (x y : Nat) :
    (s.click screen x y).state.CursorFits := by
  unfold Session.click
  split_ifs
  · exact h
  · split
    · exact h.clickPopup _
    · exact h
  · exact h.clickDirectory screen x y

/-- Answers never change how many rows the page has. -/
theorem receive (h : s.CursorFits) (answer : Answer) : (s.receive answer).state.CursorFits := by
  cases answer with
  | fundingRounds result => cases result <;> exact h.of_page rfl rfl
  | rtoPolicies result => cases result <;> exact h.of_page rfl rfl
  | detail id result =>
    rw [(s.receive_detail id result).2]
    refine CursorFits.syncPopup (h.of_page ?_ rfl)
    exact s.directory.length_rows_receiveDetail id result
  | scores id result => exact h.of_directory rfl rfl

/-- Whatever is done to a session, the cursor stays on the page. -/
theorem act (h : s.CursorFits) (a : Act) : (s.act a).state.CursorFits := by
  cases a with
  | event e =>
    cases e with
    | key key => exact h.press key
    | mouse action screen x y =>
      cases action with
      | leftDown => exact h.click screen x y
      | other => exact h
    | answer n answer => exact h.receive answer
  | selectRow index => exact .selectRow s index
  | activate id => exact h.activate id
  | turnTo page => exact .of_first rfl
  | toggleVesting => exact .of_first rfl
  | search term => exact .of_first rfl

theorem run (h : s.CursorFits) (acts : List Act) : (s.run acts).CursorFits := by
  induction acts generalizing s with
  | nil => exact h
  | cons a rest ih => exact ih (h.act a)

end CursorFits

/-! ## The row under the cursor -/

variable {s : Session} {screen : Area} {o : Organization}

/-- The table draws a row of the page as the chosen one. -/
def Highlights (s : Session) (p : PlacedRow) : Prop :=
  (tableRow s.row (p.row, p.index)).style = Theme.chosen

/-- The row under the cursor is drawn as the chosen one, and no other row is. -/
theorem highlights_iff {p : PlacedRow} : s.Highlights p ↔ p.index = s.row := by
  have hplain : Style.plain ≠ Theme.chosen := by decide
  simp only [Highlights, tableRow]
  split
  · rename_i hindex
    exact iff_of_true rfl hindex
  · rename_i hindex
    exact iff_of_false hplain hindex

/-- The first row that is shown is not below the cursor, and the cursor is among the rows shown. -/
theorem scrollOffset_bounds {total visible selected : Nat} (hvisible : 0 < visible)
    (hselected : selected < total) :
    Layout.scrollOffset total visible selected ≤ selected ∧
      selected < Layout.scrollOffset total visible selected + visible := by
  simp only [Layout.scrollOffset, Bool.or_eq_true, decide_eq_true_eq]
  split <;> omega

/-- Where the table draws rows at all, it draws the row under the cursor, and highlights it alone. -/
theorem existsUnique_highlighted (hrow : s.rows[s.row]? = some o)
    (hdrawn : s.drawnRows screen ≠ []) :
    ∃! p, p ∈ s.drawnRows screen ∧ s.Highlights p := by
  obtain ⟨hlt, -⟩ := List.getElem?_eq_some_iff.mp hrow
  obtain ⟨other, hother⟩ := List.exists_mem_of_ne_nil _ hdrawn
  obtain ⟨hinside, i, hi, -⟩ := mem_drawnRows_iff.mp hother
  have hvisible : 0 < (Layout.of screen).visibleRows := by omega
  obtain ⟨hlow, hhigh⟩ := scrollOffset_bounds hvisible hlt
  refine ⟨⟨s.directory.rowView o, s.row, (tableInside screen).y + 1 +
    (s.row - Layout.scrollOffset s.rows.length (Layout.of screen).visibleRows s.row)⟩,
    ⟨mem_drawnRows_iff.mpr ⟨hinside, _, ?_, ?_, rfl, ?_⟩, highlights_iff.mpr rfl⟩, ?_⟩
  · omega
  · dsimp only
    omega
  · rw [hrow, Option.map_some]
  · rintro ⟨row, index, line⟩ ⟨hp, hhighlight⟩
    obtain rfl : index = s.row := highlights_iff.mp hhighlight
    obtain ⟨-, j, -, hindex, hline, hview⟩ := mem_drawnRows_iff.mp hp
    rw [hrow, Option.map_some, Option.some_inj] at hview
    simp only at hindex hline hview
    rw [PlacedRow.mk.injEq]
    exact ⟨hview.symm, rfl, by omega⟩

/-- In the directory, Enter activates the row under the cursor. -/
theorem on_enter (mode : s.InDirectory) : s.on (.key .enter) = s.activateCursor := by
  simp [on, press, mode.help, mode.popup, mode.search, directoryKey]

/-- Enter activates the id of the row under the cursor, and so the organization that is found under
this id. -/
theorem on_enter_of_row (mode : s.InDirectory) (hrow : s.rows[s.row]? = some o) :
    s.on (.key .enter) = s.activate o.id ∧
      ∃ first, s.directory.organization? o.id = some first ∧
        Activates (s.on (.key .enter)) first := by
  have hid : s.cursorId = some o.id := by rw [cursorId, hrow, Option.map_some]
  have henter : s.on (.key .enter) = s.activate o.id := by
    rw [on_enter mode, activateCursor, hid]
  obtain ⟨first, hfirst⟩ := s.organization?_of_cursorId hid
  have hsame := Directory.id_of_organization? hfirst
  refine ⟨henter, first, hfirst, ?_⟩
  rw [henter, ← hsame]
  exact (activates_of_organization? (hsame ▸ hfirst) mode.popup).1

/-! ## The list -/

/-- Whatever is done to a session, the organizations keep their ids. -/
theorem map_id_act (s : Session) (a : Act) :
    (s.act a).state.directory.organizations.map Organization.id =
      s.directory.organizations.map Organization.id := by
  cases a with
  | event e => exact s.map_id_on e
  | activate id => exact congrArg _ (s.activate_organizations id)
  | _ => rfl

theorem map_id_run (s : Session) (acts : List Act) :
    (s.run acts).directory.organizations.map Organization.id =
      s.directory.organizations.map Organization.id := by
  induction acts generalizing s with
  | nil => rfl
  | cons a rest ih => exact (ih (s.act a).state).trans (s.map_id_act a)

end Session

namespace Dialogue

/-- After any keys, clicks and answers, and any changes to page, filters and cursor besides, the cursor
is on a row of the page, or at zero while the page is empty. On a page with rows, the row under the
cursor is the one highlighted: wherever the table has room for rows, exactly one of those drawn is.
Enter in the directory activates the organization of this row, by its id; should several have that
id, the first of them is what is then found. On an empty page Enter does nothing. -/
theorem cursor_on_row_after (organizations : List Organization) (pageSize : PageSize)
    (address : Url) (acts : List Act) :
    let s := (opening organizations pageSize address).session.run acts
    (s.row < s.rows.length ∨ s.rows = [] ∧ s.row = 0) ∧
      (s.rows ≠ [] → ∃ o, s.rows[s.row]? = some o ∧
        (∀ p, s.Highlights p ↔ p.index = s.row) ∧
        (∀ screen, s.DrawsRows screen (s.drawnRows screen) ∧
          (s.drawnRows screen ≠ [] → ∃! p, p ∈ s.drawnRows screen ∧ s.Highlights p)) ∧
        (s.InDirectory → s.on (.key .enter) = s.activate o.id ∧
          ∃ first, s.directory.organization? o.id = some first ∧
            Session.Activates (s.on (.key .enter)) first ∧
            ((organizations.map Organization.id).Nodup → first = o))) ∧
      (s.rows = [] → s.InDirectory → s.on (.key .enter) = .silent s) := by
  intro s
  have hcursor : s.CursorFits :=
    Session.CursorFits.run (.of_first rfl) acts
  have hids : s.directory.organizations.map Organization.id =
      organizations.map Organization.id := Session.map_id_run _ acts
  refine ⟨Session.cursorFits_iff.mp hcursor, fun hrows => ?_, fun hrows mode => ?_⟩
  · have hlt : s.row < s.rows.length := by
      rcases Session.cursorFits_iff.mp hcursor with hlt | ⟨hempty, -⟩
      · exact hlt
      · exact absurd hempty hrows
    have hrow : s.rows[s.row]? = some s.rows[s.row] := List.getElem?_eq_getElem hlt
    refine ⟨s.rows[s.row], hrow, fun p => Session.highlights_iff, fun screen =>
      ⟨s.drawsRows_drawnRows screen, Session.existsUnique_highlighted hrow⟩, fun mode => ?_⟩
    obtain ⟨henter, first, hfirst, hactivates⟩ := Session.on_enter_of_row mode hrow
    refine ⟨henter, first, hfirst, hactivates, fun hdistinct => ?_⟩
    have hfound := Session.organization?_of_mem_rows (hids ▸ hdistinct) (List.mem_of_getElem? hrow)
    exact Option.some.inj (hfirst.symm.trans hfound)
  · have hnone : s.cursorId = none := by rw [Session.cursorId, hrows]; rfl
    rw [Session.on_enter mode, Session.activateCursor, hnone]

/-- After Down, the second of two rows is under the cursor, and Enter asks for its details. -/
theorem cursor_on_second_row :
    let s := (opening [.bare 7, .bare 8] .standard .bare).session.run [.event (.key .down)]
    s.rows ≠ [] ∧ s.InDirectory ∧ s.row = 1 ∧ s.drawnRows ⟨0, 0, 80, 24⟩ ≠ [] ∧
      (∃! p, p ∈ s.drawnRows ⟨0, 0, 80, 24⟩ ∧ s.Highlights p) ∧
        (s.on (.key .enter)).requests = [.detail 8] := by
  intro s
  have hrows : s.rows ≠ [] := by decide
  have mode : s.InDirectory := by decide
  have hdrawn : s.drawnRows ⟨0, 0, 80, 24⟩ ≠ [] := by decide
  obtain ⟨-, hrow, -⟩ :=
    cursor_on_row_after [.bare 7, .bare 8] .standard .bare [.event (.key .down)]
  obtain ⟨o, ho, -, hdraws, henter⟩ := hrow hrows
  obtain ⟨-, first, -, hactivates, hfirst⟩ := henter mode
  have hsecond : s.rows[s.row]? = some (Organization.bare 8) := rfl
  obtain rfl : first = o := hfirst (by decide)
  obtain rfl := Option.some.inj (hsecond.symm.trans ho)
  rw [Session.Activates, if_neg (by decide)] at hactivates
  exact ⟨hrows, mode, rfl, hdrawn, (hdraws _).2 hdrawn, hactivates.2.2⟩

end Dialogue

end Terminal

end Roster
