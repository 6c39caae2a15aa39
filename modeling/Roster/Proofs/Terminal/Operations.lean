import Roster.Proofs.Directory.Paging
import Roster.Proofs.Terminal.Phase

/-!
# What a session does to its directory

Whatever happens to a session, it performs at most one operation on its directory. The address bar
follows: a page that is turned to is pushed into the address, and nothing else changes the address.
Pages are turned by the arrow keys and their letters, by digits and by clicks on the page buttons,
and always to a page that has a button.
-/

namespace Roster

/-- The address bar after a page has been turned to. -/
def Url.History.pushPage (h : Url.History) (page : Nat) : Url.History :=
  h.push Directory.pageParameter (toString page)

namespace Directory

/-- The page before is the one with the number before, or the last one from beyond the end. -/
def IsPageBefore (d : Directory) (page : Nat) : Prop :=
  1 < d.page ∧ d.page ≤ d.pageNumbers.length ∧ page = d.page - 1 ∨
    0 < d.pageNumbers.length ∧ d.pageNumbers.length < d.page ∧ page = d.pageNumbers.length

/-- The page after is the one with the number after, if it has a button. -/
def IsPageAfter (d : Directory) (page : Nat) : Prop :=
  d.page < d.pageNumbers.length ∧ page = d.page + 1

/-- A page can be found under its digit, if it has a button. -/
def IsPageOfDigit (d : Directory) (page : Nat) (c : Char) : Prop :=
  ('1' ≤ c ∧ c ≤ '9') ∧ page = c.toNat - 0x30 ∧ page ≤ d.pageNumbers.length

theorem IsPageBefore.bounds {d : Directory} {page : Nat} (h : d.IsPageBefore page) :
    1 ≤ page ∧ page ≤ d.pageNumbers.length := by
  obtain ⟨hlow, hhigh, rfl⟩ | ⟨hsome, hbeyond, rfl⟩ := h
  · omega
  · omega

theorem IsPageAfter.bounds {d : Directory} {page : Nat} (h : d.IsPageAfter page) :
    1 ≤ page ∧ page ≤ d.pageNumbers.length := by
  obtain ⟨hlt, rfl⟩ := h
  omega

theorem IsPageOfDigit.bounds {d : Directory} {page : Nat} {c : Char}
    (h : d.IsPageOfDigit page c) : 1 ≤ page ∧ page ≤ d.pageNumbers.length := by
  obtain ⟨⟨hlow, -⟩, rfl, hle⟩ := h
  have hdigit : 49 ≤ c.toNat := hlow
  exact ⟨by omega, hle⟩

/-- The page shown follows the operations. -/
theorem run_toList_page (d : Directory) (op : Option Operation) :
    (d.run op.toList).page = (op.bind Operation.page?).getD d.page := by
  cases op with
  | none => rfl
  | some op => exact d.perform_page op

end Directory

namespace Terminal

open Directory (Operation)

namespace Layout

/-- The buttons are those of the numbers. -/
theorem map_number_spansFrom (start : Nat) (numbers : List Nat) :
    (spansFrom start numbers).map Span.number = numbers := by
  induction numbers generalizing start with
  | nil => rfl
  | cons number rest ih => simp [spansFrom, ih]

/-- A position on a page button is on the line of the page buttons, and the page has a button. -/
theorem pageAt_eq_some {l : Layout} {x y page : Nat} {numbers : List Nat}
    (h : l.pageAt x y numbers = some page) :
    l.pagination.holds x y = true ∧ page ∈ numbers := by
  unfold pageAt at h
  split at h
  · rename_i hholds
    obtain ⟨span, hspan, rfl⟩ := Option.map_eq_some_iff.mp h
    refine ⟨hholds, ?_⟩
    have hmem : span.number ∈ (spans numbers).map Span.number :=
      List.mem_map_of_mem (List.mem_of_find?_eq_some hspan)
    rwa [spans, map_number_spansFrom] at hmem
  · cases h

/-- The page buttons stand below the search box and the vesting box. -/
theorem holds_of_pagination {a : Screen.Area} {x y : Nat}
    (h : (Layout.of a).pagination.holds x y = true) :
    (Layout.of a).search.holds x y = false ∧ (Layout.of a).vesting.holds x y = false := by
  have hline : a.y + (heights a.height).1 ≤ y := by
    simp only [Layout.of, Screen.Area.holds, Bool.and_eq_true] at h
    exact of_decide_eq_true h.1.2
  have hbelow : ¬y < Nat.min (a.y + (heights a.height).1) Screen.last := fun hlt =>
    absurd (Nat.lt_of_lt_of_le hlt (Nat.min_le_left _ _)) (Nat.not_lt.mpr hline)
  simp [Layout.of, Screen.Area.holds, Screen.Area.bottom, hbelow]

end Layout

namespace Session

/-! ## Selecting pages -/

/-- Keys go to the directory: no help and no popup is shown, and the search box has no focus. -/
structure InDirectory (s : Session) : Prop where
  help : s.helpShown = false
  popup : s.directory.popupVisible = false
  search : s.focus.focused = false

instance (s : Session) : Decidable s.InDirectory :=
  decidable_of_iff
    (s.helpShown = false ∧ s.directory.popupVisible = false ∧ s.focus.focused = false)
    ⟨fun ⟨help, popup, search⟩ => ⟨help, popup, search⟩, fun h => ⟨h.help, h.popup, h.search⟩⟩

/-- An event selects a page: an arrow key or its letter selects the page before or after, a digit
the page of its number, and a click the page whose button it hits. -/
def Selects (s : Session) (page : Nat) : Event → Prop
  | .key .left | .key (.char 'h') => s.InDirectory ∧ s.directory.IsPageBefore page
  | .key .right | .key (.char 'l') => s.InDirectory ∧ s.directory.IsPageAfter page
  | .key (.char c) => s.InDirectory ∧ s.directory.IsPageOfDigit page c
  | .mouse .leftDown screen x y =>
    s.helpShown = false ∧ s.directory.popupVisible = false ∧
      (Layout.of screen).pageAt x y s.directory.pageNumbers = some page
  | _ => False

/-- A page that is selected has a button. -/
theorem Selects.bounds {s : Session} {page : Nat} {e : Event} (h : s.Selects page e) :
    1 ≤ page ∧ page ≤ s.directory.pageNumbers.length := by
  unfold Selects at h
  split at h
  · exact h.2.bounds
  · exact h.2.bounds
  · exact h.2.bounds
  · exact h.2.bounds
  · exact h.2.bounds
  · have hmem := (Layout.pageAt_eq_some h.2.2).2
    rwa [Directory.pageNumbers, Page.mem_numbers, ← Page.length_numbers] at hmem
  · exact h.elim

/-! ## Performing operations -/

/-- A session comes to another by an operation on its directory, or by none. The address bar follows
the page turned to. -/
structure Performs (s : Session) (op : Option Operation) (t : Session) : Prop where
  directory : t.directory = s.directory.run op.toList
  address : t.address = (op.bind Operation.page?).elim s.address s.address.pushPage

/-- A session comes to another by at most one operation on its directory, which turns to exactly the
pages that satisfy a condition. -/
def Turning (s : Session) (pages : Nat → Prop) (t : Session) : Prop :=
  ∃ op, s.Performs op t ∧ ∀ page, op.bind Operation.page? = some page ↔ pages page

variable {s t : Session} {pages : Nat → Prop}

/-- Conditions that select the same pages can be exchanged. -/
theorem Turning.congr (h : s.Turning pages t) {pages' : Nat → Prop}
    (hpages : ∀ page, pages page ↔ pages' page) : s.Turning pages' t := by
  obtain ⟨op, hperforms, hop⟩ := h
  exact ⟨op, hperforms, fun page => (hop page).trans (hpages page)⟩

/-- Where no page is turned to, any condition will do that selects none. -/
theorem Turning.of_none (h : s.Turning (fun _ => False) t) (hpages : ∀ page, ¬pages page) :
    s.Turning pages t :=
  h.congr fun page => iff_of_false id (hpages page)

/-- What is turned to only depends on the directory and the address before. -/
theorem Turning.of_eq {r : Session} (h : r.Turning pages t) (directory : r.directory = s.directory)
    (address : r.address = s.address) : s.Turning pages t := by
  obtain ⟨op, ⟨hdirectory, haddress⟩, hop⟩ := h
  rw [directory] at hdirectory
  rw [address] at haddress
  exact ⟨op, ⟨hdirectory, haddress⟩, hop⟩

variable (s)

/-- A session that keeps its directory and its address turns no page. -/
theorem turning_none (directory : t.directory = s.directory) (address : t.address = s.address) :
    s.Turning (fun _ => False) t :=
  ⟨none, ⟨directory, address⟩, fun _ => by simp⟩

/-- An operation on the directory other than turning to a page turns no page. -/
theorem turning_perform (op : Operation) (hop : op.page? = none)
    (directory : t.directory = (s.directory.perform op).state) (address : t.address = s.address) :
    s.Turning (fun _ => False) t := by
  refine ⟨some op, ⟨directory, ?_⟩, fun _ => by simp [hop]⟩
  rw [Option.bind_some, hop]
  exact address

/-- Turning to a page turns to that page only. -/
theorem turning_turnTo (page : Nat) : s.Turning (fun other => page = other) (s.turnTo page) :=
  ⟨some (.turnTo page), ⟨rfl, rfl⟩, fun _ => Option.some_inj⟩

/-- Turning to a page, if there is one, turns to the pages that it may be. -/
theorem turning_turnTo? {next : Option Nat} (hnext : ∀ page, next = some page ↔ pages page) :
    s.Turning pages (s.turnTo? next) := by
  cases next with
  | none =>
    exact (s.turning_none rfl rfl).of_none fun page hpage => by simpa using (hnext page).mpr hpage
  | some page => exact (s.turning_turnTo page).congr fun other => by rw [← hnext, Option.some_inj]

/-- Activating an organization turns no page, whether its popup is shown or waited for. -/
theorem turning_activate (id : OrganizationId) :
    s.Turning (fun _ => False) (s.activate id).state := by
  cases hrequests : (s.directory.activate id).requests with
  | nil =>
    rw [(activate_of_silent hrequests).2]
    exact s.turning_perform (.activate id) rfl rfl rfl
  | cons r rest =>
    have hstate : (s.activate id).state.directory = (s.directory.activate id).state ∧
        (s.activate id).state.address = s.address := by
      simp [Session.activate, hrequests]
    exact s.turning_perform (.activate id) rfl hstate.1 hstate.2

/-- Moving the cursor down turns no page. -/
theorem turning_nextRow : s.Turning (fun _ => False) s.nextRow := by
  unfold nextRow
  split
  · exact s.turning_none rfl rfl
  · exact s.turning_none rfl rfl

/-- Another search turns no page. -/
theorem turning_search (term : String) : s.Turning (fun _ => False) (s.search term) :=
  s.turning_perform (.search term) rfl rfl rfl

/-- The vesting filter turns no page. -/
theorem turning_toggleVesting : s.Turning (fun _ => False) s.toggleVesting :=
  s.turning_perform .toggleVesting rfl rfl rfl

/-- Activating the row under the cursor turns no page. -/
theorem turning_activateCursor : s.Turning (fun _ => False) s.activateCursor.state := by
  unfold activateCursor
  split
  · rename_i id _
    exact s.turning_activate id
  · exact s.turning_none rfl rfl

/-- Dismissing the popup turns no page. -/
theorem turning_dismiss (gesture : Gesture) :
    s.Turning (fun _ => False) (s.dismiss gesture).syncPopup.state := by
  unfold dismiss
  split
  · exact s.turning_perform .closePopup rfl rfl rfl
  · exact s.turning_none rfl rfl

/-! ## Keys -/

/-- A key in the directory turns to the page that it selects. -/
theorem turning_directoryKey (hpage : 1 ≤ s.directory.page) (mode : s.InDirectory)
    (key : KeyPress) :
    s.Turning (fun page => s.Selects page (.key key)) (s.directoryKey key).state := by
  have hbefore : s.Turning s.directory.IsPageBefore
      (s.turnTo? (Page.previous? s.directory.page s.directory.pageNumbers.length)) :=
    s.turning_turnTo? fun _ => Page.previous?_eq_some_iff hpage
  have hafter : s.Turning s.directory.IsPageAfter
      (s.turnTo? (Page.next? s.directory.page s.directory.pageNumbers.length)) :=
    s.turning_turnTo? fun _ => Page.next?_eq_some_iff
  have hdigit (c : Char) : s.Turning (s.directory.IsPageOfDigit · c)
      (s.turnTo? (Page.ofDigit? c s.directory.pageNumbers.length)) :=
    s.turning_turnTo? fun _ => Page.ofDigit?_eq_some_iff
  have hchar {c : Char} (hh : c ≠ 'h') (hl : c ≠ 'l') (page : Nat) :
      s.Selects page (.key (.char c)) ↔ s.InDirectory ∧ s.directory.IsPageOfDigit page c := by
    unfold Selects
    split <;> simp_all
  have hother (c : Char) (hc : ¬('1' ≤ c ∧ c ≤ '9') ∧ c ≠ 'h' ∧ c ≠ 'l') {t : Session}
      (h : s.Turning (fun _ => False) t) :
      s.Turning (fun page => s.Selects page (.key (.char c))) t :=
    h.of_none fun page => by simp [hchar hc.2.1 hc.2.2, Directory.IsPageOfDigit, hc.1]
  cases key with
  | char c =>
    simp only [directoryKey]
    split_ifs with hq hslash hv hh hl hk hj
    · subst hq
      exact hother 'q' (by decide) (s.turning_none rfl rfl)
    · obtain rfl | rfl : c = '/' ∨ c = 's' := by simpa using hslash
      · exact hother '/' (by decide) (s.turning_none rfl rfl)
      · exact hother 's' (by decide) (s.turning_none rfl rfl)
    · subst hv
      exact hother 'v' (by decide) s.turning_toggleVesting
    · subst hh
      exact hbefore.congr fun page => by simp [Selects, mode]
    · subst hl
      exact hafter.congr fun page => by simp [Selects, mode]
    · subst hk
      exact hother 'k' (by decide) (s.turning_none rfl rfl)
    · subst hj
      exact hother 'j' (by decide) s.turning_nextRow
    · exact (hdigit c).congr fun page => by simp [hchar hh hl, mode]
  | left => exact hbefore.congr fun page => by simp [Selects, mode]
  | right => exact hafter.congr fun page => by simp [Selects, mode]
  | enter => exact s.turning_activateCursor
  | escape =>
    simp only [directoryKey, Step.silent_state, clearSearch]
    split
    · exact s.turning_none rfl rfl
    · exact s.turning_search ""
  | down => exact s.turning_nextRow
  | _ => exact s.turning_none rfl rfl

/-- A key in the search box turns no page. -/
theorem turning_searchKey (key : KeyPress) : s.Turning (fun _ => False) (s.searchKey key) := by
  cases key with
  | char c => exact s.turning_search _
  | backspace =>
    simp only [searchKey, eraseSearch]
    split
    · exact s.turning_none rfl rfl
    · exact s.turning_search _
  | _ => exact s.turning_none rfl rfl

/-- A key on the popup turns no page. -/
theorem turning_popupPress (key : KeyPress) :
    s.Turning (fun _ => False) (s.popupPress key).state := by
  unfold popupPress popupKey
  split_ifs
  · exact s.turning_dismiss _
  · exact s.turning_dismiss _
  · exact s.turning_none rfl rfl

/-- Outside the directory keys select no pages. -/
theorem not_selects_key (mode : ¬s.InDirectory) (page : Nat) (key : KeyPress) :
    ¬s.Selects page (.key key) := by
  unfold Selects
  split <;> simp_all

/-- A key turns to the page that it selects. -/
theorem turning_press (hpage : 1 ≤ s.directory.page) (key : KeyPress) :
    s.Turning (fun page => s.Selects page (.key key)) (s.press key).state := by
  have hother {t : Session} (mode : ¬s.InDirectory) (h : s.Turning (fun _ => False) t) :
      s.Turning (fun page => s.Selects page (.key key)) t :=
    h.of_none fun page => s.not_selects_key mode page key
  unfold press
  by_cases hkey : key = .function 1
  · subst hkey
    exact s.turning_none rfl rfl
  rw [if_neg hkey]
  by_cases hhelp : s.helpShown = true
  · rw [if_pos hhelp]
    refine hother (fun mode => by simp [mode.help] at hhelp) ?_
    simp only [Step.silent_state]
    split
    · exact s.turning_none rfl rfl
    · exact s.turning_none rfl rfl
  rw [if_neg hhelp]
  split_ifs with hpopup hsearch
  · exact hother (fun mode => by simp [mode.popup] at hpopup) (s.turning_popupPress key)
  · exact hother (fun mode => by simp [mode.search] at hsearch) (s.turning_searchKey key)
  · exact s.turning_directoryKey hpage ⟨by simpa using hhelp, by simpa using hpopup,
      by simpa using hsearch⟩ key

/-! ## Clicks and answers -/

/-- A click on the directory turns to the page whose button it hits. -/
theorem turning_clickDirectory (screen : Screen.Area) (x y : Nat) :
    s.Turning (fun page => (Layout.of screen).pageAt x y s.directory.pageNumbers = some page)
      (s.clickDirectory screen x y).state := by
  have hnone {t : Session}
      (hmiss : (Layout.of screen).pageAt x y s.directory.pageNumbers = none)
      (h : s.Turning (fun _ => False) t) :
      s.Turning (fun page => (Layout.of screen).pageAt x y s.directory.pageNumbers = some page)
        t := h.of_none fun page => by simp [hmiss]
  -- The boxes are tried before the page buttons, but no position lies on both.
  have hboxes (hbox : (Layout.of screen).search.holds x y = true ∨
      (Layout.of screen).vesting.holds x y = true) :
      (Layout.of screen).pageAt x y s.directory.pageNumbers = none := by
    cases hpage : (Layout.of screen).pageAt x y s.directory.pageNumbers with
    | none => rfl
    | some page =>
      have hbelow := Layout.holds_of_pagination (Layout.pageAt_eq_some hpage).1
      simp [hbelow.1, hbelow.2] at hbox
  unfold clickDirectory
  by_cases hs : (Layout.of screen).search.holds x y = true
  · rw [if_pos hs]
    exact hnone (hboxes (.inl hs)) (s.turning_none rfl rfl)
  by_cases hv : (Layout.of screen).vesting.holds x y = true
  · rw [if_neg hs, if_pos hv]
    exact hnone (hboxes (.inr hv)) (s.turning_perform .toggleVesting rfl rfl rfl)
  rw [if_neg hs, if_neg hv]
  have hsame : s.endSearch.directory = s.directory := rfl
  simp only [hsame]
  cases hpage : (Layout.of screen).pageAt x y s.directory.pageNumbers with
  | some page =>
    have hturned : s.Turning (fun other => page = other) (s.endSearch.turnTo page) :=
      (s.endSearch.turning_turnTo page).of_eq rfl rfl
    exact hturned.congr fun _ => Option.some_inj.symm
  | none =>
    refine Turning.of_none ?_ fun page => by simp
    simp only
    split
    · rename_i index _
      exact (s.endSearch.selectRow index).turning_activateCursor.of_eq rfl rfl
    · exact s.turning_none rfl rfl

/-- A click turns to the page whose button it hits. -/
theorem turning_click (screen : Screen.Area) (x y : Nat) :
    s.Turning (fun page => s.Selects page (.mouse .leftDown screen x y))
      (s.click screen x y).state := by
  unfold click
  split_ifs with hhelp hpopup
  · exact (s.turning_none rfl rfl).of_none fun page => by simp [Selects, hhelp]
  · refine Turning.of_none ?_ fun page => by simp [Selects, hpopup]
    split
    · rename_i element _
      unfold clickPopup pressClose
      split_ifs
      · exact s.turning_dismiss _
      · exact s.turning_dismiss _
      · exact s.turning_none rfl rfl
    · exact s.turning_none rfl rfl
  · exact (s.turning_clickDirectory screen x y).congr fun page => by
      simp [Selects, hhelp, hpopup]

/-- An answer turns no page. -/
theorem turning_receive (answer : Answer) :
    s.Turning (fun _ => False) (s.receive answer).state := by
  cases answer with
  | fundingRounds result => exact s.turning_perform (.receiveFundingRounds result) rfl rfl rfl
  | rtoPolicies result => exact s.turning_perform (.receiveRtoPolicies result) rfl rfl rfl
  | detail id result =>
    rw [(s.receive_detail id result).2]
    exact s.turning_perform (.receiveDetail id result) rfl rfl rfl
  | scores id result => exact s.turning_none rfl rfl

/-- Every event turns to the page that it selects, and performs nothing else of the kind. -/
theorem turning_on (hpage : 1 ≤ s.directory.page) (e : Event) :
    s.Turning (fun page => s.Selects page e) (s.on e).state := by
  cases e with
  | key key => exact s.turning_press hpage key
  | mouse action screen x y =>
    cases action with
    | leftDown => exact s.turning_click screen x y
    | other => exact s.turning_none rfl rfl
  | answer n answer => exact s.turning_receive answer

end Session

end Terminal

end Roster
