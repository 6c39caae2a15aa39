import Roster.Proofs.Terminal.Operations
import Roster.Web.Session

/-!
# The terminal and the web agree

Two clients show the same directory, each with its own handling of keys and answers. Fed with the
same keys and answers they stay in agreement, and ask for the same things in the same order, as long
as the keys mean the same to both: in the directory the terminal knows a few keys more, and it steps
back to the last page from beyond the end where the web counts down.
-/

namespace Roster

/-! ## What both clients are fed -/

namespace Clients

/-- What happens to both clients: a key is pressed, or an answer comes in. -/
inductive Input where
  | key (key : Web.KeyPress)
  | answer (answer : Answer)

/-- Feeds a client with inputs, and collects what it asks for. -/
def feed {α : Type} (take : α → Input → Step α) (step : Step α) (inputs : List Input) : Step α :=
  inputs.foldl (fun step input => step.andThen fun state => take state input) step

end Clients

namespace Web

/-- The same key on the terminal. -/
def KeyPress.toTerminal : KeyPress → Terminal.KeyPress
  | .char c => .char c
  | .backspace => .backspace
  | .enter => .enter
  | .escape => .escape
  | .left => .left
  | .right => .right
  | .up => .up
  | .down => .down
  | .other => .other

/-- Whether only the terminal knows the key in the directory. -/
def KeyPress.isTerminalOnly : KeyPress → Bool
  | .escape => true
  | .char c => c = 'q' || c = 'h' || c = 'j' || c = 'k' || c = 'l'
  | _ => false

/-- A session of a list that asks for the tables of labels. The search box has no focus, whatever
else on the page has it. -/
def Session.opening (organizations : List Organization) (pageSize : PageSize)
    (page : Option String) (element : FocusHolder) : Step Session :=
  ⟨{ Session.start organizations pageSize page with focus := ⟨false, element, 0⟩ },
    Directory.firstRequests, []⟩

/-- What an input leads to. -/
def Session.take (s : Session) : Clients.Input → Step Session
  | .key key => s.press key
  | .answer answer => s.receive answer

end Web

namespace Terminal.Session

/-- What an input leads to. -/
def take (s : Session) : Clients.Input → Step Session
  | .key key => s.press key.toTerminal
  | .answer answer => s.receive answer

/-- An input means the same to both clients: in the directory it is no key that only the terminal
knows, nor Left beyond the last page. -/
def Shares (s : Session) : Clients.Input → Prop
  | .key key => s.InDirectory →
    key.isTerminalOnly = false ∧
      (key = .left → s.directory.page ≤ s.directory.pageNumbers.length)
  | .answer _ => True

instance (s : Session) : (input : Clients.Input) → Decidable (s.Shares input)
  | .key _ => inferInstanceAs (Decidable (_ → _ ∧ (_ → _)))
  | .answer _ => isTrue trivial

/-- Each of the inputs means the same to both clients at its time. -/
def SharesAll : Session → List Clients.Input → Prop
  | _, [] => True
  | s, input :: rest => s.Shares input ∧ SharesAll (s.take input).state rest

instance decidableSharesAll :
    (s : Session) → (inputs : List Clients.Input) → Decidable (s.SharesAll inputs)
  | _, [] => isTrue trivial
  | s, input :: rest =>
    @instDecidableAnd _ _ _ (decidableSharesAll (s.take input).state rest)

end Terminal.Session

namespace Clients

/-! ## Agreement -/

/-- Two clients agree: they have the same directory, popup, listeners and row under the cursor, the
search box has the focus on both or on neither, and the address bar of the terminal is what becomes
of the first address when the pages that the web has pushed are pushed into it. -/
structure Agree (start : Url) (t : Terminal.Session) (w : Web.Session) : Prop where
  directory : t.directory = w.directory
  popup : t.popup = w.popup
  listeners : t.listeners = w.listeners
  row : t.row = w.row
  focus : t.focus.focused = w.focus.search
  address : t.address = w.pushed.foldr (fun page bar => bar.pushPage page) (.start start)
  help : t.helpShown = false
  page : 1 ≤ t.directory.page

/-- Two steps ask for the same, and lead to clients that agree. -/
structure AgreeAfter (start : Url) (t : Step Terminal.Session) (w : Step Web.Session) : Prop where
  requests : t.requests = w.requests
  state : Agree start t.state w.state

variable {start : Url} {t : Terminal.Session} {w : Web.Session}

theorem Agree.silent (h : Agree start t w) : AgreeAfter start (.silent t) (.silent w) :=
  ⟨rfl, h⟩

/-- Steps that agree can be continued by steps that agree. -/
theorem AgreeAfter.andThen {t : Step Terminal.Session} {w : Step Web.Session}
    (h : AgreeAfter start t w) {f : Terminal.Session → Step Terminal.Session}
    {g : Web.Session → Step Web.Session} (hnext : AgreeAfter start (f t.state) (g w.state)) :
    AgreeAfter start (t.andThen f) (w.andThen g) :=
  ⟨congrArg₂ (· ++ ·) h.requests hnext.requests, hnext.state⟩

/-! ## What the clients do -/

theorem Agree.syncPopup (h : Agree start t w) : AgreeAfter start t.syncPopup w.syncPopup := by
  have hsync : t.popup.sync t.directory.selectedOrganization t.directory.popupVisible t.listeners =
      w.popup.sync w.directory.selectedOrganization w.directory.popupVisible w.listeners := by
    rw [h.popup, h.directory, h.listeners]
  refine ⟨congrArg Step.requests hsync, ?_⟩
  exact { h with
    popup := congrArg (·.state.1) hsync
    listeners := congrArg (·.state.2) hsync }

/-- An operation that turns to no page is performed on both directories, whatever status and count of
unanswered requests the terminal notes. -/
theorem Agree.perform (h : Agree start t w) (op : Directory.Operation) (hop : op.page? = none)
    (status : String) (inFlight : Nat) :
    Agree start
      { t with
        directory := (w.directory.perform op).state
        status := status
        inFlight := inFlight }
      { w with directory := (w.directory.perform op).state } := by
  have hpage : 1 ≤ (w.directory.perform op).state.page := by
    rw [Directory.perform_page, hop, Option.getD_none, ← h.directory]
    exact h.page
  exact { h with directory := rfl, page := hpage }

theorem Agree.search (h : Agree start t w) (term : String) :
    Agree start (t.search term) (w.search term) :=
  { h with directory := congrArg (·.search term) h.directory, row := rfl }

theorem Agree.toggleVesting (h : Agree start t w) :
    Agree start t.toggleVesting { w with directory := w.directory.toggleVesting, row := 0 } :=
  { h with directory := congrArg Directory.toggleVesting h.directory, row := rfl }

theorem Agree.turnTo (h : Agree start t w) {page : Nat} (hpage : 1 ≤ page) :
    Agree start (t.turnTo page) (w.turnTo page) :=
  { h with
    directory := congrArg (·.turnTo page) h.directory
    row := rfl
    address := congrArg (·.pushPage page) h.address
    page := hpage }

theorem Agree.nextRow (h : Agree start t w) :
    Agree start t.nextRow
      (if w.row + 1 < w.directory.rows.length then { w with row := w.row + 1 } else w) := by
  have hrows : t.rows.length = w.directory.rows.length := congrArg (·.rows.length) h.directory
  unfold Terminal.Session.nextRow
  rw [hrows, h.row]
  split
  · exact { h with row := rfl }
  · exact h

/-- The terminal turns to a page when there is one, the web when a condition holds. -/
theorem Agree.turnTo? (h : Agree start t w) {next : Option Nat} {condition : Prop}
    [Decidable condition] {page : Nat} (hpage : condition → 1 ≤ page)
    (hnext : ∀ other, next = some other ↔ condition ∧ other = page) :
    Agree start (t.turnTo? next) (if condition then w.turnTo page else w) := by
  by_cases hcondition : condition
  · rw [if_pos hcondition, (hnext page).mpr ⟨hcondition, rfl⟩]
    exact h.turnTo (hpage hcondition)
  · have hnone : next = none :=
      Option.eq_none_iff_forall_ne_some.mpr fun other hsome =>
        hcondition ((hnext other).mp hsome).1
    rw [if_neg hcondition, hnone]
    exact h

theorem Agree.endSearch (h : Agree start t w) :
    Agree start t.endSearch { w with focus := FocusHost.blur w.focus } :=
  { h with focus := rfl }

theorem Agree.dismiss (h : Agree start t w) (gesture : Gesture) :
    Agree start (t.dismiss gesture) (w.dismiss gesture) := by
  have hby : t.popup.isDismissedBy gesture = w.popup.isDismissedBy gesture := by rw [h.popup]
  unfold Terminal.Session.dismiss Web.Session.dismiss
  rw [hby]
  split
  · exact { h with
      directory := congrArg Directory.closePopup h.directory
      focus := (clearFocus_focused t.focus).trans (clearFocus_search w.focus).symm }
  · exact h

/-- Activating the row under the cursor asks for details, or shows the popup. -/
theorem Agree.activateCursor (h : Agree start t w) :
    AgreeAfter start t.activateCursor w.activateCursor := by
  unfold Terminal.Session.activateCursor Terminal.Session.cursorId Terminal.Session.rows
    Web.Session.activateCursor
  rw [h.directory, h.row]
  cases w.directory.rows[w.row]? with
  | none => exact h.silent
  | some o =>
    have hactivated (status : String) (inFlight : Nat) :=
      h.perform (.activate o.id) rfl status inFlight
    simp only [Option.map_some, Terminal.Session.activate, h.directory]
    split
    · exact AgreeAfter.andThen ⟨rfl, hactivated _ _⟩ (hactivated _ _).syncPopup
    · exact ⟨rfl, hactivated _ _⟩

/-- Both clients take in an answer in the same way. -/
theorem Agree.receive (h : Agree start t w) (answer : Answer) :
    AgreeAfter start (t.receive answer) (w.receive answer) := by
  cases answer with
  | fundingRounds result =>
    simp only [Terminal.Session.receive, Web.Session.receive, h.directory]
    exact ⟨rfl, h.perform (.receiveFundingRounds result) rfl _ _⟩
  | rtoPolicies result =>
    simp only [Terminal.Session.receive, Web.Session.receive, h.directory]
    exact ⟨rfl, h.perform (.receiveRtoPolicies result) rfl _ _⟩
  | detail id result =>
    simp only [Terminal.Session.receive, Web.Session.receive, h.directory]
    have hreceived := h.perform (.receiveDetail id result) rfl
    exact AgreeAfter.andThen ⟨rfl, hreceived _ _⟩ (hreceived _ _).syncPopup
  | scores id result =>
    simp only [Terminal.Session.receive, Web.Session.receive, h.popup]
    exact ⟨rfl, { h with popup := rfl }⟩

/-! ## Keys -/

theorem Agree.popupKey (h : Agree start t w) (key : Web.KeyPress) :
    AgreeAfter start (t.popupPress key.toTerminal) (w.popupKey key) := by
  have hchar : key.toTerminal = .char 'x' ↔ key = .char 'x' := by
    cases key <;> simp [Web.KeyPress.toTerminal]
  have hkey : key.toTerminal.toKey = key.toKey := by
    cases key <;> rfl
  unfold Terminal.Session.popupPress Terminal.Session.popupKey Web.Session.popupKey
  simp only [hchar, hkey, h.popup]
  split_ifs
  · exact (h.dismiss .closeButton).syncPopup
  · exact (h.dismiss (.key key.toKey)).syncPopup
  · exact h.silent

theorem Agree.searchKey (h : Agree start t w) (key : Web.KeyPress) :
    Agree start (t.searchKey key.toTerminal) (w.searchKey key) := by
  cases key with
  | char c =>
    simp only [Web.KeyPress.toTerminal, Terminal.Session.searchKey, Terminal.Session.typeSearch,
      Web.Session.searchKey, h.directory]
    exact h.search _
  | backspace =>
    simp only [Web.KeyPress.toTerminal, Terminal.Session.searchKey, Terminal.Session.eraseSearch,
      Web.Session.searchKey, h.directory]
    cases w.directory.filter.term.toList.reverse with
    | nil => exact h
    | cons last before => exact h.search _
  | enter | escape | down => exact h.endSearch
  | _ => exact h

/-- A key that both clients know in the directory does the same on both. -/
theorem Agree.directoryKey (h : Agree start t w) {key : Web.KeyPress}
    (hshared : key.isTerminalOnly = false)
    (hleft : key = .left → t.directory.page ≤ t.directory.pageNumbers.length) :
    AgreeAfter start (t.directoryKey key.toTerminal) (w.directoryKey key) := by
  cases key with
  | char c =>
    simp only [Web.KeyPress.isTerminalOnly, Bool.or_eq_false_iff, decide_eq_false_iff_not]
      at hshared
    obtain ⟨⟨⟨⟨hq, hh⟩, hj⟩, hk⟩, hl⟩ := hshared
    simp only [Web.KeyPress.toTerminal, Terminal.Session.directoryKey, Web.Session.directoryKey,
      if_neg hq, if_neg hh, if_neg hj, if_neg hk, if_neg hl, h.directory, ← apply_ite Step.silent]
    split
    · exact Agree.silent { h with focus := rfl }
    split
    · exact h.toggleVesting.silent
    · refine (h.turnTo? ?_ fun page => ?_).silent
      · intro hdigit
        simp only [Bool.and_eq_true, decide_eq_true_eq] at hdigit
        have hbutton : w.directory.IsPageOfDigit (c.toNat - 0x30) c :=
          ⟨hdigit.1, rfl, hdigit.2⟩
        exact hbutton.bounds.1
      · rw [Page.ofDigit?_eq_some_iff]
        simp only [Bool.and_eq_true, decide_eq_true_eq]
        constructor
        · rintro ⟨hdigit, rfl, hle⟩
          exact ⟨⟨hdigit, hle⟩, rfl⟩
        · rintro ⟨⟨hdigit, hle⟩, rfl⟩
          exact ⟨hdigit, rfl, hle⟩
  | left =>
    -- The web counts down from every page, the terminal only from one that has a button.
    refine (h.turnTo? (fun hpage => by omega) fun page => ?_).silent
    rw [Page.previous?_eq_some_iff h.page, ← h.directory]
    have := hleft rfl
    omega
  | right =>
    refine (h.turnTo? (fun hpage => by omega) fun page => ?_).silent
    rw [Page.next?_eq_some_iff, ← h.directory]
  | up => exact Agree.silent { h with row := congrArg (· - 1) h.row }
  | down => exact h.nextRow.silent
  | enter => exact h.activateCursor
  | escape => simp [Web.KeyPress.isTerminalOnly] at hshared
  | backspace => exact h.silent
  | other => exact h.silent

theorem Agree.press (h : Agree start t w) {key : Web.KeyPress} (hshared : t.Shares (.key key)) :
    AgreeAfter start (t.press key.toTerminal) (w.press key) := by
  have hkey : key.toTerminal ≠ .function 1 := by cases key <;> simp [Web.KeyPress.toTerminal]
  have hhelp : ¬t.helpShown = true := by simp [h.help]
  have hvisible : w.directory.popupVisible = t.directory.popupVisible := by rw [h.directory]
  unfold Terminal.Session.press Web.Session.press
  rw [if_neg hkey, if_neg hhelp, hvisible, ← h.focus]
  split_ifs with hpopup hsearch
  · exact h.popupKey key
  · exact (h.searchKey key).silent
  · obtain ⟨hknown, hleft⟩ := hshared ⟨h.help, by simpa using hpopup, by simpa using hsearch⟩
    exact h.directoryKey hknown hleft

/-! ## Runs -/

theorem Agree.take (h : Agree start t w) {input : Input} (hshared : t.Shares input) :
    AgreeAfter start (t.take input) (w.take input) := by
  cases input with
  | key key => exact h.press hshared
  | answer answer => exact h.receive answer

/-- Whatever both clients are fed with, they go on agreeing, as long as it means the same to both. -/
theorem AgreeAfter.feed {t : Step Terminal.Session} {w : Step Web.Session}
    (h : AgreeAfter start t w) {inputs : List Input} (hshared : t.state.SharesAll inputs) :
    AgreeAfter start (feed Terminal.Session.take t inputs) (feed Web.Session.take w inputs) := by
  induction inputs generalizing t w with
  | nil => exact h
  | cons input rest ih =>
    obtain ⟨hinput, hrest⟩ := hshared
    exact ih (h.andThen (h.state.take hinput)) hrest

/-- Clients that open the same list at the same page agree. -/
theorem agreeAfter_opening (organizations : List Organization) (pageSize : PageSize) (start : Url)
    (element : FocusHolder) :
    AgreeAfter start (Terminal.Session.start organizations pageSize start).mount
      (Web.Session.opening organizations pageSize (start.parameter? Directory.pageParameter)
        element) where
  requests := rfl
  state := ⟨rfl, rfl, rfl, rfl, rfl, rfl, rfl, Page.one_le_parse _⟩

/-- A terminal and a web client are opened on the same list at the same address, and fed with the
same keys and answers, each of which means the same to both at its time. Then they have the same
directory, popup, listeners and row under the cursor, the search box has the focus on both or on
neither, they have asked for the same things in the same order, and the address bar of the terminal
has taken the pages that the web has pushed, in the same order. -/
theorem agree_of_shared (organizations : List Organization) (pageSize : PageSize) (start : Url)
    (element : FocusHolder) (inputs : List Input)
    (h : (Terminal.Session.start organizations pageSize start).mount.state.SharesAll inputs) :
    let t := feed Terminal.Session.take
      (Terminal.Session.start organizations pageSize start).mount inputs
    let w := feed Web.Session.take
      (Web.Session.opening organizations pageSize (start.parameter? Directory.pageParameter)
        element) inputs
    t.state.directory = w.state.directory ∧
      t.state.popup = w.state.popup ∧
      t.state.listeners = w.state.listeners ∧
      t.state.row = w.state.row ∧
      t.state.focus.focused = w.state.focus.search ∧
      t.requests = w.requests ∧
      t.state.address =
        w.state.pushed.foldr (fun page bar => bar.pushPage page) (.start start) := by
  intro t w
  obtain ⟨hrequests, hstate⟩ :=
    (agreeAfter_opening organizations pageSize start element).feed h
  exact ⟨hstate.directory, hstate.popup, hstate.listeners, hstate.row, hstate.focus, hrequests,
    hstate.address⟩

/-- Two organizations are on a page each. The second page is turned to, details that fail and scores
are asked for, the popup is dismissed, and a letter is searched for that would end the terminal in
the directory. -/
theorem agree_on_second_page :
    let organizations := [Organization.bare 7, Organization.bare 8]
    let inputs : List Input := [.key .right, .key .enter, .answer (.detail 8 (.error (.status 500))),
      .key .escape, .key (.char '/'), .key (.char 'q'), .key .escape]
    let t := feed Terminal.Session.take
      (Terminal.Session.start organizations ⟨1, by decide⟩ .bare).mount inputs
    let w := feed Web.Session.take
      (Web.Session.opening organizations ⟨1, by decide⟩
        (Url.bare.parameter? Directory.pageParameter) .nothing) inputs
    t.requests = [.fundingRounds, .rtoPolicies, .detail 8, .scores 8] ∧ w.requests = t.requests ∧
      w.state.pushed = [2] ∧ t.state.address = (Url.History.start .bare).pushPage 2 := by
  intro organizations inputs t w
  obtain ⟨_, _, _, _, _, hrequests, haddress⟩ :=
    agree_of_shared organizations ⟨1, by decide⟩ .bare .nothing inputs (by decide)
  have hpushed : w.state.pushed = [2] := by decide
  refine ⟨by decide, hrequests.symm, hpushed, haddress.trans ?_⟩
  rw [hpushed]
  rfl

end Clients

end Roster
