import Mathlib.Tactic.SplitIfs
import Roster.Proofs.Terminal.Dialogue

/-!
# What keys and clicks can do

However keys and clicks are routed, they come down to four kinds of turns. Most of them change only
what is listed, the cursor, the address, the focus or the help screen. One ends the session. A row
is activated only while the popup is hidden, and the popup is dismissed only while it is shown.
-/

namespace Roster.Terminal.Session

/-- Two sessions have the same organizations, popup, status and requests on their way. They may
differ in what is listed, the cursor, the address, the focus and the help screen. -/
structure Alike (s t : Session) : Prop where
  organizations : t.directory.organizations = s.directory.organizations
  pending : t.directory.pending = s.directory.pending
  selected : t.directory.selected = s.directory.selected
  popupVisible : t.directory.popupVisible = s.directory.popupVisible
  popup : t.popup = s.popup
  listeners : t.listeners = s.listeners
  status : t.status = s.status
  inFlight : t.inFlight = s.inFlight

namespace Alike

variable {s t : Session}

theorem refl (s : Session) : s.Alike s := ⟨rfl, rfl, rfl, rfl, rfl, rfl, rfl, rfl⟩

/-- Alike sessions find the same organizations. -/
theorem organization? (h : s.Alike t) (id : OrganizationId) :
    t.directory.organization? id = s.directory.organization? id := by
  simp only [Directory.organization?, h.organizations]

end Alike

/-- The four kinds of turns: nothing but the view changes, the session ends, a row is activated, or
the popup is dismissed. A turn is labelled with the organization whose row it activates. -/
inductive Turn (s : Session) : Option OrganizationId → Step Session → Prop where
  | quiet {t : Session} (alike : s.Alike t) : Turn s none (.silent t)
  | shutdown (hidden : s.directory.popupVisible = false) : Turn s none (.silent s.shutdown)
  | activation {t : Session} {id : OrganizationId} {o : Organization} (alike : s.Alike t)
      (hidden : s.directory.popupVisible = false) (listed : s.directory.organization? id = some o) :
      Turn s (some id) (t.activate id)
  | dismissal {gesture : Gesture} (shown : s.directory.popupVisible = true)
      (dismissed : gesture = .closeButton ∨ s.popup.isDismissedBy gesture = true) :
      Turn s none (s.dismiss gesture).syncPopup

/-! ## Turns that change only the view -/

variable (s : Session)

theorem alike_turnTo? (page : Option Nat) : s.Alike (s.turnTo? page) := by
  cases page with
  | none => exact .refl s
  | some page => exact ⟨rfl, rfl, rfl, rfl, rfl, rfl, rfl, rfl⟩

theorem alike_nextRow : s.Alike s.nextRow := by
  unfold nextRow
  split <;> exact ⟨rfl, rfl, rfl, rfl, rfl, rfl, rfl, rfl⟩

theorem alike_eraseSearch : s.Alike s.eraseSearch := by
  unfold eraseSearch
  split <;> exact ⟨rfl, rfl, rfl, rfl, rfl, rfl, rfl, rfl⟩

theorem alike_clearSearch : s.Alike s.clearSearch := by
  unfold clearSearch
  split <;> exact ⟨rfl, rfl, rfl, rfl, rfl, rfl, rfl, rfl⟩

/-- Typing into the search box changes only the view. -/
theorem alike_searchKey (key : KeyPress) : s.Alike (s.searchKey key) := by
  cases key with
  | backspace => exact s.alike_eraseSearch
  | _ => exact ⟨rfl, rfl, rfl, rfl, rfl, rfl, rfl, rfl⟩

/-! ## Rows -/

/-- A row of the page shows an organization of the list. -/
theorem mem_organizations_of_mem_rows {d : Directory} {o : Organization} (h : o ∈ d.rows) :
    o ∈ d.organizations := by
  obtain ⟨i, _, hi⟩ := List.mem_filterMap.mp h
  exact List.mem_of_getElem? hi

/-- An organization of the list is found under its id. -/
theorem organization?_isSome_of_mem {d : Directory} {o : Organization} (h : o ∈ d.organizations) :
    (d.organization? o.id).isSome = true := by
  rw [Directory.organization?, List.find?_isSome]
  exact ⟨o, h, beq_self_eq_true o.id⟩

/-- Under the cursor is an organization of the list. -/
theorem organization?_of_cursorId {id : OrganizationId} (h : s.cursorId = some id) :
    ∃ o, s.directory.organization? id = some o := by
  obtain ⟨o, hrow, rfl⟩ := Option.map_eq_some_iff.mp h
  exact Option.isSome_iff_exists.mp
    (organization?_isSome_of_mem (mem_organizations_of_mem_rows (List.mem_of_getElem? hrow)))

/-- Activating the row under the cursor is an activation, or nothing when there is no row. -/
theorem turn_activateCursor {t : Session} (halike : s.Alike t)
    (hidden : s.directory.popupVisible = false) : s.Turn t.cursorId t.activateCursor := by
  unfold activateCursor
  cases hid : t.cursorId with
  | none => exact .quiet halike
  | some id =>
    obtain ⟨o, ho⟩ := t.organization?_of_cursorId hid
    exact .activation halike hidden ((halike.organization? id).symm.trans ho)

/-! ## Keys and clicks -/

/-- A key in the directory activates a row only when it is Enter. -/
theorem turn_directoryKey (hidden : s.directory.popupVisible = false) (key : KeyPress) :
    s.Turn (if key = .enter then s.cursorId else none) (s.directoryKey key) := by
  cases key with
  | char c =>
    simp only [directoryKey, reduceCtorEq, if_false]
    split_ifs
    · exact .shutdown hidden
    · exact .quiet ⟨rfl, rfl, rfl, rfl, rfl, rfl, rfl, rfl⟩
    · exact .quiet ⟨rfl, rfl, rfl, rfl, rfl, rfl, rfl, rfl⟩
    · exact .quiet (s.alike_turnTo? _)
    · exact .quiet (s.alike_turnTo? _)
    · exact .quiet ⟨rfl, rfl, rfl, rfl, rfl, rfl, rfl, rfl⟩
    · exact .quiet s.alike_nextRow
    · exact .quiet (s.alike_turnTo? _)
  | enter => exact s.turn_activateCursor (.refl s) hidden
  | escape => exact .quiet s.alike_clearSearch
  | left => exact .quiet (s.alike_turnTo? _)
  | right => exact .quiet (s.alike_turnTo? _)
  | down => exact .quiet s.alike_nextRow
  | _ => exact .quiet ⟨rfl, rfl, rfl, rfl, rfl, rfl, rfl, rfl⟩

/-- A key on the popup dismisses it or does nothing. -/
theorem turn_popupPress (shown : s.directory.popupVisible = true) (key : KeyPress) :
    s.Turn none (s.popupPress key) := by
  unfold popupPress popupKey
  split_ifs with _ hdismissed
  · exact .dismissal shown (.inl rfl)
  · exact .dismissal shown (.inr hdismissed)
  · exact .quiet (.refl s)

/-- A click on the popup dismisses it or does nothing. -/
theorem turn_clickPopup (shown : s.directory.popupVisible = true) (target : PopupElement) :
    s.Turn none (s.clickPopup target) := by
  unfold clickPopup
  split_ifs with _ hdismissed
  · exact .dismissal shown (.inl rfl)
  · exact .dismissal shown (.inr hdismissed)
  · exact .quiet (.refl s)

/-- A click on the directory activates the row under it, if it hits one. -/
theorem turn_clickDirectory (hidden : s.directory.popupVisible = false) (screen : Screen.Area)
    (x y : Nat) : s.Turn (s.rowUnder screen x y) (s.clickDirectory screen x y) := by
  have hsearch : s.Alike s.focusSearch := ⟨rfl, rfl, rfl, rfl, rfl, rfl, rfl, rfl⟩
  have hvesting : s.Alike s.endSearch.toggleVesting := ⟨rfl, rfl, rfl, rfl, rfl, rfl, rfl, rfl⟩
  have hpage (page : Nat) : s.Alike (s.endSearch.turnTo page) :=
    ⟨rfl, rfl, rfl, rfl, rfl, rfl, rfl, rfl⟩
  have hrow (index : Nat) : s.Alike (s.endSearch.selectRow index) :=
    ⟨rfl, rfl, rfl, rfl, rfl, rfl, rfl, rfl⟩
  unfold rowUnder clickDirectory
  by_cases hs : (Layout.of screen).search.holds x y = true
  · simpa [hs] using Turn.quiet hsearch
  by_cases hv : (Layout.of screen).vesting.holds x y = true
  · simpa [hs, hv] using Turn.quiet hvesting
  have hdirectory : s.endSearch.directory = s.directory := rfl
  have hcursor : s.endSearch.rows = s.rows ∧ s.endSearch.row = s.row := ⟨rfl, rfl⟩
  simp only [hs, hv, hdirectory, hcursor, Bool.or_self, if_false, Bool.false_eq_true]
  cases (Layout.of screen).pageAt x y s.directory.pageNumbers with
  | some page => exact .quiet (hpage page)
  | none =>
    cases (Layout.of screen).rowAt x y s.rows.length s.row with
    | none => exact .quiet ⟨rfl, rfl, rfl, rfl, rfl, rfl, rfl, rfl⟩
    | some index => exact s.turn_activateCursor (hrow index) hidden

/-- Every key is a turn, labelled with the row that it activates. -/
theorem turn_key (key : KeyPress) : s.Turn (s.activated? (.key key)) (s.on (.key key)) := by
  have hhelp (b : Bool) : s.Alike { s with helpShown := b } :=
    ⟨rfl, rfl, rfl, rfl, rfl, rfl, rfl, rfl⟩
  simp only [activated?, on, press]
  by_cases hf : key = .function 1
  · simpa [hf] using Turn.quiet (hhelp _)
  cases hshown : s.helpShown with
  | true =>
    by_cases hesc : key = .escape
    · simpa [hesc] using Turn.quiet (hhelp false)
    · simpa [hf, hesc] using Turn.quiet (.refl s)
  | false =>
    cases hvisible : s.directory.popupVisible with
    | true => simpa [hf] using s.turn_popupPress hvisible key
    | false =>
      cases hfocus : s.focus.focused with
      | true => simpa [hf] using Turn.quiet (s.alike_searchKey key)
      | false =>
        by_cases henter : key = .enter
        · simpa [henter] using s.turn_directoryKey hvisible .enter
        · simpa [hf, henter] using s.turn_directoryKey hvisible key

/-- Whatever the mouse does is a turn, labelled with the row that it activates. -/
theorem turn_mouse (action : MouseAction) (screen : Screen.Area) (x y : Nat) :
    s.Turn (s.activated? (.mouse action screen x y)) (s.on (.mouse action screen x y)) := by
  cases action with
  | other => exact .quiet (.refl s)
  | leftDown =>
    simp only [activated?, on, click]
    cases hshown : s.helpShown with
    | true => exact .quiet (.refl s)
    | false =>
      cases hvisible : s.directory.popupVisible with
      | false => simpa using s.turn_clickDirectory hvisible screen x y
      | true =>
        simp only [Bool.false_or, if_true, Bool.false_eq_true, if_false]
        cases (PopupLayout.of screen).elementAt x y with
        | none => exact .quiet (.refl s)
        | some target => exact s.turn_clickPopup hvisible target

end Roster.Terminal.Session
