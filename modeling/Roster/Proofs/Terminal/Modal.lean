import Roster.Proofs.Terminal.Dismissal

/-!
# The popup and the help screen are modal

While the help screen is shown, or else the popup, keys and clicks reach nothing behind them. They
show or hide the help screen or dismiss the popup, and beyond that leave the session as it is: what is
listed, the page and its address, the cursor, what is waited for. The route that a gesture takes is
decided by three flags with three owners, so an answer may show the popup while the search box has the
focus; even then no key gets through to the search box.
-/

namespace Roster.Terminal

/-- Whether an event is a key or a click. -/
def Event.IsGesture : Event → Prop
  | .answer _ _ => False
  | _ => True

namespace Session

/-- A session is modal while it shows a popup or the help screen. -/
def IsModal (s : Session) : Prop :=
  s.directory.popupVisible = true ∨ s.helpShown = true

/-- A session keeps its organizations, the search term and the vesting filter, what is listed, the
page, the address and the addresses before, the cursor, what is waited for, and goes on running. -/
structure Keeps (s t : Session) : Prop where
  organizations : t.directory.organizations = s.directory.organizations
  filter : t.directory.filter = s.directory.filter
  listed : t.directory.listed = s.directory.listed
  page : t.directory.page = s.directory.page
  address : t.address = s.address
  row : t.row = s.row
  pending : t.directory.pending = s.directory.pending
  running : t.running = s.running

/-- What a key or a click makes of a modal session. -/
inductive ModalEffect (s : Session) : Event → Session → Prop where
  | toggleHelp : ModalEffect s (.key (.function 1)) { s with helpShown := !s.helpShown }
  | hideHelp (help : s.helpShown = true) :
      ModalEffect s (.key .escape) { s with helpShown := false }
  | dismiss {e : Event} (help : s.helpShown = false) (dismisses : e.DismissesPopup) :
      ModalEffect s e s.dismissed
  | ignore {e : Event} (other : e ≠ .key (.function 1))
      (help : s.helpShown = true → e ≠ .key .escape)
      (popup : s.helpShown = false → ¬e.DismissesPopup) : ModalEffect s e s

variable {s t : Session} {e : Event}

/-- Whatever a gesture does to a modal session, everything behind the popup and the help screen is
kept. -/
theorem ModalEffect.keeps (h : s.ModalEffect e t) : s.Keeps t := by
  cases h <;> exact ⟨rfl, rfl, rfl, rfl, rfl, rfl, rfl, rfl⟩

/-! ## The help screen -/

/-- Keys on the help screen do nothing but hide it. -/
theorem modalEffect_key_of_help (help : s.helpShown = true) (key : KeyPress) :
    ∃ t, s.on (.key key) = .silent t ∧ s.ModalEffect (.key key) t := by
  simp only [on, press, help, if_true]
  by_cases hfunction : key = .function 1
  · subst hfunction
    exact ⟨_, if_pos rfl, help ▸ .toggleHelp⟩
  · rw [if_neg hfunction]
    by_cases hescape : key = .escape
    · subst hescape
      exact ⟨_, congrArg Step.silent (if_pos rfl), .hideHelp help⟩
    · refine ⟨s, congrArg Step.silent (if_neg hescape), .ignore ?_ (fun _ => ?_) fun hidden => ?_⟩
      · simpa using hfunction
      · simpa using hescape
      · exact absurd help (by simp [hidden])

/-- The mouse does nothing on the help screen. -/
theorem modalEffect_mouse_of_help (help : s.helpShown = true) (action : MouseAction)
    (screen : Screen.Area) (x y : Nat) :
    ∃ t, s.on (.mouse action screen x y) = .silent t ∧
      s.ModalEffect (.mouse action screen x y) t := by
  refine ⟨s, ?_, .ignore (by simp) (fun _ => by simp) fun hidden => ?_⟩
  · cases action with
    | other => rfl
    | leftDown => simp [on, click, help]
  · exact absurd help (by simp [hidden])

/-! ## The popup -/

namespace Shown

variable {id : OrganizationId} {scores : FetchedScores}

/-- Keys on the popup do nothing but dismiss it, and the key of the help screen shows that. -/
theorem modalEffect_key (h : s.Shown id scores) (help : s.helpShown = false) (key : KeyPress) :
    ∃ t, s.on (.key key) = .silent t ∧ s.ModalEffect (.key key) t := by
  simp only [on, press, help, h.directory.visible, Bool.false_eq_true, if_false, if_true]
  by_cases hfunction : key = .function 1
  · subst hfunction
    exact ⟨_, if_pos rfl, help ▸ .toggleHelp⟩
  · rw [if_neg hfunction, h.popupPress_eq key]
    refine ⟨_, rfl, ?_⟩
    split
    · rename_i hdismisses
      exact .dismiss help hdismisses
    · rename_i hother
      exact .ignore (by simpa using hfunction) (fun shown => by simp [help] at shown)
        fun _ => hother

/-- Clicks on the popup do nothing but dismiss it. -/
theorem modalEffect_mouse (h : s.Shown id scores) (help : s.helpShown = false)
    (action : MouseAction) (screen : Screen.Area) (x y : Nat) :
    ∃ t, s.on (.mouse action screen x y) = .silent t ∧
      s.ModalEffect (.mouse action screen x y) t := by
  rcases h.on_mouse help action screen x y with ⟨hdismisses, hon⟩ | ⟨hmiss, hon⟩
  · exact ⟨s.dismissed, hon, .dismiss help hdismisses⟩
  · exact ⟨s, hon, .ignore (by simp) (fun shown => by simp [help] at shown) fun _ => hmiss⟩

end Shown

/-- Keys and clicks do nothing else to a session in a phase while it is modal. -/
theorem InPhase.modalEffect {p : Phase} (h : s.InPhase p) (modal : s.IsModal)
    (gesture : e.IsGesture) : ∃ t, s.on e = .silent t ∧ s.ModalEffect e t := by
  cases help : s.helpShown with
  | true =>
    cases e with
    | key key => exact modalEffect_key_of_help help key
    | mouse action screen x y => exact modalEffect_mouse_of_help help action screen x y
    | answer n answer => exact gesture.elim
  | false =>
    have hvisible : s.directory.popupVisible = true := by simpa [IsModal, help] using modal
    obtain ⟨id, scores, hshown⟩ := h.exists_shown hvisible
    cases e with
    | key key => exact hshown.modalEffect_key help key
    | mouse action screen x y => exact hshown.modalEffect_mouse help action screen x y
    | answer n answer => exact gesture.elim

end Session

namespace Dialogue

/-- After any keys, clicks and answers that leave the popup or the help screen shown, every further
key or click asks for nothing and keeps everything behind them. All it can do is to show or hide the
help screen and, while that is hidden, to dismiss the popup, which takes the focus off the search
box; and it does so exactly when it is a gesture of that kind. -/
theorem modal_gesture_after (organizations : List Organization) (pageSize : PageSize)
    (address : Url) (events : List Event) :
    let s := ((opening organizations pageSize address).after events).session
    s.IsModal → ∀ e : Event, e.IsGesture →
      ∃ t, s.on e = .silent t ∧ s.Keeps t ∧ s.ModalEffect e t := by
  intro s modal e gesture
  obtain ⟨⟨p, hphase⟩, -⟩ := (inLine_opening organizations pageSize address).after events
  obtain ⟨t, hon, heffect⟩ := hphase.modalEffect modal gesture
  exact ⟨t, hon, heffect.keeps, heffect⟩

/-- Details are asked for, the search box gets the focus, and then the popup is shown. A letter that
would end the session in the directory, and be typed in the search box, does nothing; Escape
dismisses the popup and takes the focus off the search box. -/
theorem modal_gesture_over_search :
    let s := ((opening [.bare 7] .standard .bare).after [.key .enter, .key (.char '/'),
      .answer 2 (.detail 7 (.error (.status 500)))]).session
    s.IsModal ∧ s.focus.focused = true ∧ s.on (.key (.char 'q')) = .silent s ∧
      s.on (.key .escape) = .silent s.dismissed := by
  intro s
  have modal : s.IsModal := .inl (by decide)
  have help : ¬s.helpShown = true := by decide
  have heffect := modal_gesture_after [.bare 7] .standard .bare [.key .enter, .key (.char '/'),
    .answer 2 (.detail 7 (.error (.status 500)))] modal
  refine ⟨modal, by decide, ?_, ?_⟩
  · obtain ⟨t, hon, -, hletter⟩ := heffect (.key (.char 'q')) trivial
    cases hletter with
    | dismiss _ dismisses => simp [Event.DismissesPopup] at dismisses
    | ignore => exact hon
  · obtain ⟨t, hon, -, hescape⟩ := heffect (.key .escape) trivial
    cases hescape with
    | hideHelp shown => exact absurd shown help
    | dismiss => exact hon
    | ignore _ _ popup => exact absurd (.inr rfl) (popup (by simpa using help))

end Dialogue

end Roster.Terminal
