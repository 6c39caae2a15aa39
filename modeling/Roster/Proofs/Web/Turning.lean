import Roster.Proofs.Terminal.Operations
import Roster.Web.Session

/-!
# Turning pages on the web

Filters leave the page as it is, so it may lie any number of pages beyond the last one. Right and the
digits lead to pages that have a button, from wherever they are pressed. Left counts down: it leads
to the page before, whether that has a button or not. So all pages turned to have a button as long as
the page shown is at most one beyond the last, and from further beyond Left leads to a page without
one, where the terminal leads to the last page.
-/

namespace Roster

namespace Web.Session

/-- Keys go to the directory: no popup is shown, and the search box has no focus. -/
structure InDirectory (s : Session) : Prop where
  popup : s.directory.popupVisible = false
  search : s.focus.search = false

/-- A key selects a page: Left the page before, Right the page after, and a digit the page of its
number. -/
def Selects (s : Session) (page : Nat) : KeyPress → Prop
  | .left => s.InDirectory ∧ 1 < s.directory.page ∧ page = s.directory.page - 1
  | .right => s.InDirectory ∧ s.directory.IsPageAfter page
  | .char c => s.InDirectory ∧ s.directory.IsPageOfDigit page c
  | _ => False

/-- A session turns to the page that satisfies a condition and pushes it into the address. Without
such a page it stays on its own and pushes nothing. -/
def Turning (s : Session) (pages : Nat → Prop) (t : Session) : Prop :=
  ∃ next : Option Nat, t.directory.page = next.getD s.directory.page ∧
    t.pushed = next.toList ++ s.pushed ∧ ∀ page, next = some page ↔ pages page

variable {s t : Session} {pages : Nat → Prop}

/-- Where no page is turned to, any condition will do that selects none. -/
theorem Turning.of_same (page : t.directory.page = s.directory.page) (pushed : t.pushed = s.pushed)
    (hpages : ∀ page, ¬pages page) : s.Turning pages t :=
  ⟨none, page, pushed, fun page => iff_of_false (by simp) (hpages page)⟩

/-- Turning to a page under a condition turns to that page only. -/
theorem turning_turnTo (s : Session) {condition : Prop} [Decidable condition] {page : Nat}
    (hpages : ∀ other, pages other ↔ condition ∧ other = page) :
    s.Turning pages (if condition then s.turnTo page else s) := by
  by_cases hcondition : condition
  · rw [if_pos hcondition]
    refine ⟨some page, rfl, rfl, fun other => ?_⟩
    rw [hpages, Option.some_inj]
    exact ⟨fun h => ⟨hcondition, h.symm⟩, fun h => h.2.symm⟩
  · rw [if_neg hcondition]
    exact .of_same rfl rfl fun other h => hcondition ((hpages other).mp h).1

/-- Whatever is turned to is shown and pushed. -/
theorem Turning.shown {page : Nat} (h : s.Turning pages t) (hpage : pages page) :
    t.directory.page = page ∧ t.pushed = page :: s.pushed := by
  obtain ⟨next, hshown, hpushed, hnext⟩ := h
  rw [(hnext page).mpr hpage] at hshown hpushed
  exact ⟨hshown, hpushed⟩

/-- What changes the page or the pages pushed has turned to a page. -/
theorem Turning.exists_of_ne (h : s.Turning pages t)
    (hne : t.directory.page ≠ s.directory.page ∨ t.pushed ≠ s.pushed) : ∃ page, pages page := by
  obtain ⟨next, hshown, hpushed, hnext⟩ := h
  cases next with
  | none => exact (hne.elim (· hshown) (· hpushed)).elim
  | some page => exact ⟨page, (hnext page).mp rfl⟩

/-! ## Keys -/

/-- Activating the row under the cursor turns no page. -/
theorem activateCursor_page (s : Session) :
    s.activateCursor.state.directory.page = s.directory.page ∧
      s.activateCursor.state.pushed = s.pushed := by
  unfold activateCursor
  split
  · exact ⟨rfl, rfl⟩
  · rename_i o _
    have hpage : (s.directory.activate o.id).state.page = s.directory.page :=
      s.directory.perform_page (.activate o.id)
    dsimp only
    split
    · exact ⟨hpage, rfl⟩
    · exact ⟨hpage, rfl⟩

/-- A key on the popup turns no page. -/
theorem popupKey_page (s : Session) (key : KeyPress) :
    (s.popupKey key).state.directory.page = s.directory.page ∧
      (s.popupKey key).state.pushed = s.pushed := by
  have hdismiss (gesture : Gesture) :
      (s.dismiss gesture).directory.page = s.directory.page ∧
        (s.dismiss gesture).pushed = s.pushed := by
    unfold dismiss
    split
    · exact ⟨rfl, rfl⟩
    · exact ⟨rfl, rfl⟩
  unfold popupKey
  split_ifs
  · exact hdismiss _
  · exact hdismiss _
  · exact ⟨rfl, rfl⟩

/-- A key in the search box turns no page. -/
theorem searchKey_page (s : Session) (key : KeyPress) :
    (s.searchKey key).directory.page = s.directory.page ∧ (s.searchKey key).pushed = s.pushed := by
  cases key with
  | backspace =>
    simp only [searchKey]
    split
    · exact ⟨rfl, rfl⟩
    · exact ⟨rfl, rfl⟩
  | _ => exact ⟨rfl, rfl⟩

/-- A key in the directory turns to the page that it selects. -/
theorem turning_directoryKey (mode : s.InDirectory) (key : KeyPress) :
    s.Turning (s.Selects · key) (s.directoryKey key).state := by
  cases key with
  | char c =>
    have hother {t : Session} (hc : ¬('1' ≤ c ∧ c ≤ '9')) (page : t.directory.page = s.directory.page)
        (pushed : t.pushed = s.pushed) : s.Turning (s.Selects · (.char c)) t :=
      .of_same page pushed fun _ h => hc h.2.1
    simp only [directoryKey]
    split_ifs with hslash hv hdigit
    · obtain rfl | rfl : c = '/' ∨ c = 's' := by simpa using hslash
      · exact hother (by decide) rfl rfl
      · exact hother (by decide) rfl rfl
    · subst hv
      exact hother (by decide) rfl rfl
    · simp only [Bool.and_eq_true, decide_eq_true_eq] at hdigit
      obtain ⟨hrange, hle⟩ := hdigit
      refine ⟨some (c.toNat - 0x30), rfl, rfl, fun page => ?_⟩
      simp only [Selects, Directory.IsPageOfDigit, mode, hrange, Option.some_inj]
      constructor
      · rintro rfl
        exact ⟨trivial, ⟨trivial, trivial⟩, rfl, hle⟩
      · rintro ⟨-, -, rfl, -⟩
        rfl
    · refine .of_same rfl rfl fun page h => hdigit ?_
      obtain ⟨-, hrange, rfl, hle⟩ := h
      simp only [Bool.and_eq_true, decide_eq_true_eq]
      exact ⟨hrange, hle⟩
  | left =>
    exact s.turning_turnTo fun page => by simp [Selects, mode]
  | right =>
    exact s.turning_turnTo fun page => by simp [Selects, mode, Directory.IsPageAfter]
  | enter =>
    exact .of_same s.activateCursor_page.1 s.activateCursor_page.2 fun _ => id
  | down =>
    simp only [directoryKey, Step.silent_state]
    split
    · exact .of_same rfl rfl fun _ => id
    · exact .of_same rfl rfl fun _ => id
  | _ => exact .of_same rfl rfl fun _ => id

/-- Outside the directory keys select no pages. -/
theorem not_selects (mode : ¬s.InDirectory) (page : Nat) (key : KeyPress) :
    ¬s.Selects page key := by
  cases key <;> simp [Selects, mode]

/-- A key turns to the page that it selects. -/
theorem turning_press (s : Session) (key : KeyPress) :
    s.Turning (s.Selects · key) (s.press key).state := by
  unfold press
  split_ifs with hpopup hsearch
  · exact .of_same (s.popupKey_page key).1 (s.popupKey_page key).2 fun page =>
      not_selects (fun mode => by simp [mode.popup] at hpopup) page key
  · exact .of_same (s.searchKey_page key).1 (s.searchKey_page key).2 fun page =>
      not_selects (fun mode => by simp [mode.search] at hsearch) page key
  · exact turning_directoryKey ⟨by simpa using hpopup, by simpa using hsearch⟩ key

/-! ## Pages without a button -/

/-- Pages have a button that a key other than Left selects. -/
theorem Selects.bounds {page : Nat} {key : KeyPress} (h : s.Selects page key) (hleft : key ≠ .left) :
    1 ≤ page ∧ page ≤ s.directory.pageNumbers.length := by
  cases key with
  | char c => exact h.2.bounds
  | right => exact h.2.bounds
  | left => exact absurd rfl hleft
  | _ => exact h.elim

/-- Every key keeps to the pages that have a button: whatever changes the page or is pushed into the
address leads to one, without matches no key changes the page, and with matches Left leads from
beyond the last page to the last one. -/
structure KeepsToButtons (s : Session) : Prop where
  turned : ∀ key,
    (s.press key).state.directory.page ≠ s.directory.page ∨ (s.press key).state.pushed ≠ s.pushed →
      (s.press key).state.pushed = (s.press key).state.directory.page :: s.pushed ∧
        1 ≤ (s.press key).state.directory.page ∧
          (s.press key).state.directory.page ≤ s.directory.pageNumbers.length
  unmatched : s.directory.listed = [] → ∀ key,
    (s.press key).state.directory.page = s.directory.page
  left : s.InDirectory → s.directory.listed ≠ [] →
    s.directory.pageNumbers.length < s.directory.page →
      (s.press .left).state.directory.page = s.directory.pageNumbers.length

/-- From at most one page beyond the last, every page selected has a button. -/
theorem Selects.bounds_of_le {page : Nat} {key : KeyPress} (h : s.Selects page key)
    (hpage : s.InDirectory → s.directory.page ≤ s.directory.pageNumbers.length + 1) :
    1 ≤ page ∧ page ≤ s.directory.pageNumbers.length := by
  by_cases hleft : key = .left
  · subst hleft
    obtain ⟨mode, hlt, rfl⟩ := h
    have := hpage mode
    omega
  · exact h.bounds hleft

/-- From at most one page beyond the last, every key keeps to the pages that have a button. -/
theorem keepsToButtons_of_le
    (hpage : s.InDirectory → s.directory.page ≤ s.directory.pageNumbers.length + 1) :
    s.KeepsToButtons where
  turned key hne := by
    obtain ⟨page, hselects⟩ := (s.turning_press key).exists_of_ne hne
    obtain ⟨hshown, hpushed⟩ := (s.turning_press key).shown hselects
    rw [hshown]
    exact ⟨hpushed, hselects.bounds_of_le hpage⟩
  unmatched hlisted key := by
    by_contra hne
    obtain ⟨page, hselects⟩ := (s.turning_press key).exists_of_ne (.inl hne)
    obtain ⟨hpos, hle⟩ := hselects.bounds_of_le hpage
    have hnone : s.directory.pageNumbers.length = 0 := by
      rw [Directory.pageNumbers, hlisted, Page.length_numbers]
      exact Nat.le_zero.mp (Page.count_le 0 s.directory.pageSize)
    omega
  left mode hlisted hbeyond := by
    have hsome : 0 < s.directory.pageNumbers.length := by
      rw [Directory.pageNumbers, Page.length_numbers]
      exact Page.count_pos (List.length_pos_iff.mpr hlisted)
    have hselects : s.Selects (s.directory.page - 1) .left := ⟨mode, by omega, rfl⟩
    have hle := hpage mode
    rw [((s.turning_press .left).shown hselects).1]
    omega

/-- On the web keys keep to the pages that have a button exactly unless they go to the directory while
the page is more than one beyond the last. There it is Left that does not: it leads to the page
before and pushes it, while every other key always leads to a page that has a button. The terminal
leads from beyond the last page to the last one, however far beyond. -/
theorem keepsToButtons_iff (s : Session) :
    (s.KeepsToButtons ↔
      (s.InDirectory → s.directory.page ≤ s.directory.pageNumbers.length + 1)) ∧
    (s.InDirectory → 1 < s.directory.page →
      (s.press .left).state.directory.page = s.directory.page - 1 ∧
        (s.press .left).state.pushed = (s.directory.page - 1) :: s.pushed) ∧
    (∀ key, key ≠ .left →
      (s.press key).state.directory.page ≠ s.directory.page ∨ (s.press key).state.pushed ≠ s.pushed →
        1 ≤ (s.press key).state.directory.page ∧
          (s.press key).state.directory.page ≤ s.directory.pageNumbers.length) ∧
    (∀ t : Terminal.Session, t.InDirectory → 0 < t.directory.pageNumbers.length →
      t.directory.pageNumbers.length < t.directory.page →
        (t.press .left).state.directory.page = t.directory.pageNumbers.length) := by
  have hleft (mode : s.InDirectory) (hlt : 1 < s.directory.page) :
      (s.press .left).state.directory.page = s.directory.page - 1 ∧
        (s.press .left).state.pushed = (s.directory.page - 1) :: s.pushed := by
    have hselects : s.Selects (s.directory.page - 1) .left := ⟨mode, hlt, rfl⟩
    exact (s.turning_press .left).shown hselects
  refine ⟨⟨fun hkeeps mode => ?_, keepsToButtons_of_le⟩, hleft, fun key hkey hne => ?_,
    fun t mode hsome hbeyond => ?_⟩
  · by_contra hbeyond
    obtain ⟨hpage, hpushed⟩ := hleft mode (by omega)
    obtain ⟨-, -, hle⟩ := hkeeps.turned .left (.inl (by omega))
    omega
  · obtain ⟨page, hselects⟩ := (s.turning_press key).exists_of_ne hne
    rw [((s.turning_press key).shown hselects).1]
    exact hselects.bounds hkey
  · have hlast : Page.previous? t.directory.page t.directory.pageNumbers.length =
        some t.directory.pageNumbers.length :=
      (Page.previous?_eq_some_iff (by omega)).mpr (.inr ⟨hsome, hbeyond, rfl⟩)
    simp only [Terminal.Session.press, mode.help, mode.popup, mode.search, reduceCtorEq, if_false,
      Bool.false_eq_true, Terminal.Session.directoryKey, Step.silent_state, hlast]
    rfl

/-- One organization fills one page. From the third page, Left leads to the second, which has no
button, and pushes it into the address. -/
theorem not_keepsToButtons_third_of_one :
    let s := Session.start [.bare 7] .standard (some "3")
    s.InDirectory ∧ s.directory.pageNumbers = [1] ∧ s.directory.page = 3 ∧
      (s.press .left).state.directory.page = 2 ∧ (s.press .left).state.pushed = [2] ∧
        ¬s.KeepsToButtons := by
  intro s
  have hpage : (s.press .left).state.directory.page = 2 := by decide
  refine ⟨⟨rfl, rfl⟩, by decide, by decide, hpage, by decide, fun hkeeps => ?_⟩
  obtain ⟨-, -, hle⟩ := hkeeps.turned .left (.inl (by decide))
  rw [hpage] at hle
  exact absurd hle (by decide)

end Web.Session

end Roster
