import Roster.Popup.View
import Roster.Proofs.Terminal.Showing

/-!
# Answers that overtake

Answers name an organization, not a showing. When a popup is closed and opened again for the same
organization, an answer to the request of the earlier showing may overtake the one to the request of
the present showing, and then it is taken in its place.

An observer notes for each showing which request was its own, the first answer for its organization
after that request, and the answer to the request itself. The popup always goes by the first answer.
So it shows what its own request brought as long as none from an earlier showing comes first.
-/

namespace Roster.Terminal

/-- What an observer notes of a showing: how many requests had been sent when it began, the number
of its own request for scores, the number and result of the first answer for its organization after
that request, and the result of its own request. -/
structure Showing where
  opened : Nat
  asked : Option Nat
  first : Option (Nat × Fetched (List Score))
  own : Option (Fetched (List Score))

namespace Dialogue

/-- The number of the request for scores that an event leads to. -/
def asksAt (d : Dialogue) (e : Event) : Option Nat :=
  ((d.session.on e).requests.findIdx? Request.isScores).map (d.sent.length + ·)

/-- The number and result of an answer with scores of the selected organization. -/
def hears (d : Dialogue) : Event → Option (Nat × Fetched (List Score))
  | .answer n (.scores id result) => if d.selectedId = some id then some (n, result) else none
  | _ => none

end Dialogue

namespace Showing

/-- A showing begins, perhaps with a request for scores. -/
def atOpening (d : Dialogue) (e : Event) : Showing :=
  ⟨d.sent.length, d.asksAt e, none, none⟩

/-- A showing goes on. Answers count once scores have been asked for. -/
def goOn (s : Showing) (d : Dialogue) (e : Event) : Showing :=
  let heard := if s.asked.isSome then d.hears e else none
  { s with
    asked := s.asked.or (d.asksAt e)
    first := s.first.or heard
    own := s.own.or ((heard.filter fun answer => s.asked == some answer.1).map Prod.snd) }

/-- The scores of a showing that goes by an answer: none before they are asked for, loading until
the answer comes, and then what it brought. -/
def fetched (s : Showing) (id : OrganizationId) (answer : Option (Fetched (List Score))) :
    FetchedScores :=
  match s.asked, answer with
  | none, _ => .idle
  | some _, none => .loading id
  | some _, some result => .loaded id (Popup.received result)

/-- The scores shown for an organization in a showing that goes by an answer: those that came with
the organization win over those that the answer brought. -/
def view (s : Showing) (o : Organization) (answer : Option (Fetched (List Score))) :
    Popup.ScoresView :=
  match s.asked, answer with
  | none, _ => .rows (Popup.scoreRows o (o.knownScores.getD []))
  | some _, none => .loading
  | some _, some result => .rows (Popup.scoreRows o (o.knownScores.getD (Popup.received result)))

end Showing

/-- A dialogue with what an observer notes of the showing, while there is one. -/
structure Watch where
  dialogue : Dialogue
  showing : Option Showing

namespace Watch

/-- An observer who watches from the beginning. -/
def opening (organizations : List Organization) (pageSize : PageSize) (address : Url) : Watch :=
  ⟨.opening organizations pageSize address, none⟩

/-- What the observer has noted after an event. -/
def next (w : Watch) (e : Event) : Watch where
  dialogue := w.dialogue.next e
  showing :=
    if (w.dialogue.next e).popupShown then
      match w.showing with
      | none => some (.atOpening w.dialogue e)
      | some s => some (s.goOn w.dialogue e)
    else none

/-- What the observer has noted after events. -/
def after (w : Watch) (events : List Event) : Watch :=
  events.foldl next w

/-- Observing changes nothing. -/
theorem after_dialogue (w : Watch) (events : List Event) :
    (w.after events).dialogue = w.dialogue.after events := by
  induction events generalizing w with
  | nil => rfl
  | cons e rest ih => exact ih (w.next e)

end Watch

/-! ## The notes of a showing -/

/-- The notes fit the popup of an organization. Its scores are those of the first answer. Of the
requests sent since the opening, its own and no other asks for scores. The first answer is one for
the organization, and if it is that to the own request, then it is the own answer. -/
structure Showing.Fits (s : Showing) (d : Dialogue) (id : OrganizationId) : Prop where
  shown : d.session.Shown id (s.fetched id (s.first.map Prod.snd))
  opened : s.opened ≤ d.sent.length
  asked : ∀ n, s.asked = some n → s.opened ≤ n ∧ d.sent[n]? = some (.scores id)
  only : ∀ n other, s.opened ≤ n → d.sent[n]? = some (.scores other) → s.asked = some n
  unasked : s.asked = none → s.first = none
  unheard : s.first = none → s.own = none
  first : ∀ n result, s.first = some (n, result) →
    d.sent[n]? = some (.scores id) ∧ (s.asked = some n → s.own = some result)

namespace Showing

/-- Scores of a showing are loading or loaded for its organization only. -/
theorem fetched_eq_idle_iff {s : Showing} {id : OrganizationId}
    {answer : Option (Fetched (List Score))} : s.fetched id answer = .idle ↔ s.asked = none := by
  unfold fetched
  cases s.asked <;> cases answer <;> simp

/-- While scores are loading they have been asked for, and no answer has come. -/
theorem fetched_eq_loading_iff {s : Showing} {id other : OrganizationId}
    {answer : Option (Fetched (List Score))} :
    s.fetched id answer = .loading other ↔ s.asked.isSome = true ∧ answer = none ∧ other = id := by
  unfold fetched
  cases s.asked <;> cases answer <;> simp [eq_comm]

/-- A popup with the scores of a showing shows them. -/
theorem scoresView_eq_view {p : Popup} {s : Showing} {o : Organization}
    {answer : Option (Fetched (List Score))} (h : p.scores = s.fetched o.id answer) :
    p.scoresView o = s.view o answer := by
  cases hasked : s.asked with
  | none =>
    simp only [fetched, hasked] at h
    simp [view, hasked, Popup.scoresView, Popup.waitsFor, Popup.fetchedFor, h]
  | some k =>
    cases answer with
    | none =>
      simp only [fetched, hasked] at h
      simp [view, hasked, Popup.scoresView, Popup.waitsFor, h]
    | some result =>
      simp only [fetched, hasked] at h
      simp [view, hasked, Popup.scoresView, Popup.waitsFor, Popup.fetchedFor, h]

end Showing

namespace Dialogue

variable {d : Dialogue} {e : Event}

theorem asksAt_of_nil (h : (d.session.on e).requests = []) : d.asksAt e = none := by
  simp [asksAt, h]

theorem asksAt_of_scores {id : OrganizationId} (h : (d.session.on e).requests = [.scores id]) :
    d.asksAt e = some d.sent.length := by
  simp [asksAt, h, Request.isScores]

/-- Requests sent before an event keep their numbers. -/
theorem sent_next_of_nil (h : (d.session.on e).requests = []) : (d.next e).sent = d.sent := by
  simp [next, h]

/-- The request that an event leads to gets the next number. -/
theorem sent_next_last {r : Request} (h : (d.session.on e).requests = [r]) :
    (d.next e).sent[d.sent.length]? = some r := by
  simp [next, h]

/-- A request found after an event was sent before it, or is the one that it led to. -/
theorem sent_next_cases {r q : Request} (h : (d.session.on e).requests = [r]) {n : Nat}
    (hn : (d.next e).sent[n]? = some q) : d.sent[n]? = some q ∨ n = d.sent.length := by
  have hsent : (d.next e).sent = d.sent ++ [r] := by simp [next, h]
  rw [hsent] at hn
  rcases Nat.lt_trichotomy n d.sent.length with hlt | heq | hgt
  · exact .inl (List.getElem?_append_left hlt ▸ hn)
  · exact .inr heq
  · simp [List.getElem?_eq_none (show (d.sent ++ [r]).length ≤ n by simp; omega)] at hn

end Dialogue

namespace Showing

variable {s : Showing} {d : Dialogue} {e : Event} {id : OrganizationId}

/-- The notes of a showing that has just begun. -/
theorem fits_atOpening {pending : Option OrganizationId} (h : d.session.Hidden pending)
    (he : (d.next e).popupShown = true) : ∃ id, (atOpening d e).Fits (d.next e) id := by
  obtain ⟨p', hleads, hphase⟩ := Session.leads_on (p := .hidden pending) h e
  obtain ⟨id, scores, hshown, rfl⟩ := hphase.shown_of_popupShown he
  have hlength : d.sent.length ≤ (d.next e).sent.length := by
    rw [d.length_sent_next]
    exact Nat.le_add_right _ _
  have hnew {n : Nat} {r : Request} (hn : d.sent.length ≤ n) : d.sent[n]? ≠ some r := by
    simp [List.getElem?_eq_none hn]
  generalize hrequests : (d.session.on e).requests = requests at hleads
  refine ⟨id, ?_⟩
  cases hleads.asks_of_hidden with
  | nothing =>
    have hnone : d.asksAt e = none := Dialogue.asksAt_of_nil hrequests
    refine ⟨by simpa [atOpening, fetched, hnone] using hshown, hlength, fun n hn => ?_,
      fun n other hn hsent => ?_, fun _ => rfl, fun _ => rfl, nofun⟩
    · exact absurd (hnone.symm.trans hn) nofun
    · rw [Dialogue.sent_next_of_nil hrequests] at hsent
      exact absurd hsent (hnew hn)
  | first =>
    have hasked : d.asksAt e = some d.sent.length := Dialogue.asksAt_of_scores hrequests
    refine ⟨by simpa [atOpening, fetched, hasked] using hshown, hlength, fun n hn => ?_,
      fun n other hn hsent => ?_, fun _ => rfl, fun _ => rfl, nofun⟩
    · obtain rfl : d.sent.length = n := Option.some.inj (hasked.symm.trans hn)
      exact ⟨Nat.le_refl _, Dialogue.sent_next_last hrequests⟩
    · rcases Dialogue.sent_next_cases hrequests hsent with hbefore | rfl
      · exact absurd hbefore (hnew hn)
      · exact hasked

/-- An event that sends nothing and is not heard leaves the notes as they are. -/
theorem Fits.of_silent (h : s.Fits d id) (hrequests : (d.session.on e).requests = [])
    (hheard : s.asked = none ∨ d.hears e = none)
    (hshown : (d.next e).session.Shown id (s.fetched id (s.first.map Prod.snd))) :
    (s.goOn d e).Fits (d.next e) id := by
  have hnothing : (if s.asked.isSome then d.hears e else none) = none := by
    rcases hheard with hasked | hnothing
    · simp [hasked]
    · simp [hnothing]
  have hsame : s.goOn d e = s := by
    simp only [goOn, hnothing, Dialogue.asksAt_of_nil hrequests, Option.filter_none,
      Option.map_none, Option.or_none]
  have hsent := Dialogue.sent_next_of_nil hrequests
  rw [hsame]
  exact ⟨hshown, hsent ▸ h.opened, hsent ▸ h.asked, hsent ▸ h.only, h.unasked, h.unheard,
    hsent ▸ h.first⟩

/-- A request for scores is noted as that of the showing. -/
theorem Fits.of_asking (h : s.Fits d id) (hrequests : (d.session.on e).requests = [.scores id])
    (hasked : s.asked = none) (hshown : (d.next e).session.Shown id (.loading id)) :
    (s.goOn d e).Fits (d.next e) id := by
  have hfirst : s.first = none := h.unasked hasked
  have hown : s.own = none := h.unheard hfirst
  have hnoted : s.goOn d e = ⟨s.opened, some d.sent.length, none, none⟩ := by
    simp [goOn, hasked, hfirst, hown, Dialogue.asksAt_of_scores hrequests]
  rw [hnoted]
  refine ⟨hshown, ?_, ?_, fun n other hn hsent => ?_, nofun, fun _ => rfl, nofun⟩
  · rw [d.length_sent_next]
    exact Nat.le_add_right_of_le h.opened
  · rintro n ⟨⟩
    exact ⟨h.opened, Dialogue.sent_next_last hrequests⟩
  · rcases Dialogue.sent_next_cases hrequests hsent with hbefore | rfl
    · have hsome := h.only n other hn hbefore
      simp [hasked] at hsome
    · rfl

/-- An answer with scores of the organization is noted. -/
theorem Fits.of_hearing (h : s.Fits d id) (hrequests : (d.session.on e).requests = []) {n k : Nat}
    {result : Fetched (List Score)} (hhears : d.hears e = some (n, result))
    (hsent : d.sent[n]? = some (.scores id)) (hasked : s.asked = some k)
    (hshown : (d.next e).session.Shown id
      (s.fetched id ((s.first.or (some (n, result))).map Prod.snd))) :
    (s.goOn d e).Fits (d.next e) id := by
  have hsame := Dialogue.sent_next_of_nil hrequests
  have hnoted : s.goOn d e =
      { s with
        first := s.first.or (some (n, result))
        own := s.own.or (if k = n then some result else none) } := by
    by_cases hk : k = n <;>
      simp [goOn, hasked, hhears, hk, Dialogue.asksAt_of_nil hrequests, Option.filter]
  rw [hnoted]
  refine ⟨hshown, hsame ▸ h.opened, hsame ▸ h.asked, hsame ▸ h.only, fun hnone => ?_,
    fun hnone => ?_, ?_⟩
  · simp [hasked] at hnone
  · simp at hnone
  · intro m first hm
    rw [hsame]
    cases hfirst : s.first with
    | none =>
      obtain ⟨rfl, rfl⟩ : n = m ∧ result = first := by simpa [hfirst] using hm
      refine ⟨hsent, fun hk => ?_⟩
      obtain rfl : k = n := Option.some.inj (hasked.symm.trans hk)
      simp [h.unheard hfirst]
    | some answer =>
      obtain ⟨rfl⟩ : answer = (m, first) := by simpa [hfirst] using hm
      obtain ⟨hfound, hown⟩ := h.first m first hfirst
      exact ⟨hfound, fun hk => by simp [hown hk]⟩

/-- Scores of the organization shown are heard, and others are not. -/
theorem Fits.hears_scores (h : s.Fits d id) (n : Nat) (other : OrganizationId)
    (result : Fetched (List Score)) :
    d.hears (.answer n (.scores other result)) = if id = other then some (n, result) else none := by
  simp [Dialogue.hears, h.shown.selectedId]

/-- An answer with scores that are not loading is noted at most as the own one. -/
theorem Fits.of_ignoring (h : s.Fits d id) {n : Nat} {other : OrganizationId}
    {result : Fetched (List Score)} (he : d.Admits (.answer n (.scores other result)))
    (hrequests : (d.session.on (.answer n (.scores other result))).requests = [])
    (hother : s.fetched id (s.first.map Prod.snd) ≠ .loading other)
    (hshown : (d.next (.answer n (.scores other result))).session.Shown id
      (s.fetched id (s.first.map Prod.snd))) :
    (s.goOn d (.answer n (.scores other result))).Fits
      (d.next (.answer n (.scores other result))) id := by
  by_cases hid : id = other
  · subst hid
    cases hasked : s.asked with
    | none => exact h.of_silent hrequests (.inl hasked) hshown
    | some k =>
      have hkept : s.first.or (some (n, result)) = s.first := by
        cases hfirst : s.first with
        | some answer => rfl
        | none =>
          exact absurd (fetched_eq_loading_iff.mpr ⟨by simp [hasked], by simp [hfirst], rfl⟩) hother
      refine h.of_hearing hrequests ((h.hears_scores n id result).trans (if_pos rfl)) he.2 hasked ?_
      rw [hkept]
      exact hshown
  · exact h.of_silent hrequests (.inr ((h.hears_scores n other result).trans (if_neg hid))) hshown

/-- The notes go on fitting the popup while it is shown. -/
theorem Fits.next (h : s.Fits d id) (he : d.Admits e) (hstill : (d.next e).popupShown = true) :
    (s.goOn d e).Fits (d.next e) id := by
  obtain ⟨p', hleads, hphase⟩ := Session.leads_on (p := .shown id _) h.shown e
  obtain ⟨id', scores', hshown, rfl⟩ := hphase.shown_of_popupShown hstill
  generalize hrequests : (d.session.on e).requests = requests at hleads
  generalize hscores : s.fetched id (s.first.map Prod.snd) = scores at hleads
  cases e with
  | key key =>
    obtain ⟨rfl, rfl, rfl⟩ := hleads.of_gesture
    exact h.of_silent hrequests (.inr rfl) (hscores ▸ hshown)
  | mouse action screen x y =>
    obtain ⟨rfl, rfl, rfl⟩ := hleads.of_gesture
    exact h.of_silent hrequests (.inr rfl) (hscores ▸ hshown)
  | answer n answer =>
    cases hleads with
    | fundingRounds => exact h.of_silent hrequests (.inr rfl) (hscores ▸ hshown)
    | rtoPolicies => exact h.of_silent hrequests (.inr rfl) (hscores ▸ hshown)
    | refresh _ _ asks =>
      cases asks with
      | nothing => exact h.of_silent hrequests (.inr rfl) (hscores ▸ hshown)
      | first => exact h.of_asking hrequests (fetched_eq_idle_iff.mp hscores) hshown
    | load _ result =>
      obtain ⟨hasked, hnone, _⟩ := fetched_eq_loading_iff.mp hscores
      obtain ⟨k, hk⟩ := Option.isSome_iff_exists.mp hasked
      have hfirst : s.first = none := by simpa using hnone
      refine h.of_hearing hrequests ((h.hears_scores n id result).trans (if_pos rfl)) he.2 hk ?_
      simpa [hfirst, fetched, hk] using hshown
    | ignore result hother =>
      subst hscores
      exact h.of_ignoring he hrequests (fun hloading => hother id (by rw [hloading])) hshown

/-- A popup has the scores that its own request brought, as far as that has been answered, exactly
when no answer to an earlier request came first, or the earlier one brought the same. -/
theorem Fits.fetched_own_iff (h : s.Fits d id) :
    s.fetched id (s.first.map Prod.snd) = s.fetched id s.own ↔
      ∀ n result, s.first = some (n, result) →
        s.opened ≤ n ∨ ∃ own, s.own = some own ∧ Popup.received own = Popup.received result := by
  cases hfirst : s.first with
  | none => simp [h.unheard hfirst]
  | some answer =>
    obtain ⟨n, result⟩ := answer
    obtain ⟨hsent, hown⟩ := h.first n result hfirst
    obtain ⟨k, hk⟩ : ∃ k, s.asked = some k := by
      cases hasked : s.asked with
      | none => simp [h.unasked hasked] at hfirst
      | some k => exact ⟨k, rfl⟩
    constructor
    · rintro heq _ _ ⟨⟩
      right
      cases howned : s.own with
      | none => simp [fetched, hk, howned] at heq
      | some own => exact ⟨own, rfl, by simpa [fetched, hk, howned, eq_comm] using heq⟩
    · intro hcondition
      have hsame : ∃ own, s.own = some own ∧ Popup.received own = Popup.received result := by
        rcases hcondition n result rfl with hopened | hsame
        · exact ⟨result, hown (h.only n id hopened hsent), rfl⟩
        · exact hsame
      obtain ⟨own, howned, hreceived⟩ := hsame
      simp [fetched, hk, howned, hreceived]

end Showing

/-! ## Every dialogue -/

namespace Watch

/-- The notes of an observer are right: there are some exactly while the popup is shown, and they
fit it. -/
def Noted (w : Watch) : Prop :=
  match w.showing with
  | none => ∃ pending, w.dialogue.session.Hidden pending
  | some s => ∃ id, s.Fits w.dialogue id

theorem noted_opening (organizations : List Organization) (pageSize : PageSize) (address : Url) :
    (opening organizations pageSize address).Noted :=
  ⟨none, Directory.hides_ofList organizations pageSize _, rfl⟩

theorem Noted.next {w : Watch} (h : w.Noted) {e : Event} (he : w.dialogue.Admits e) :
    (w.next e).Noted := by
  unfold Noted at h ⊢
  cases hshown : (w.dialogue.next e).popupShown with
  | false =>
    have hnone : (w.next e).showing = none := by simp [Watch.next, hshown]
    rw [hnone]
    cases hshowing : w.showing with
    | some s =>
      rw [hshowing] at h
      obtain ⟨id, hfits⟩ := h
      exact ⟨none, Dialogue.hidden_next_of_shown hfits.shown hshown⟩
    | none =>
      rw [hshowing] at h
      obtain ⟨pending, hhidden⟩ := h
      obtain ⟨p', _, hphase⟩ := Session.leads_on (p := .hidden pending) hhidden e
      obtain ⟨pending', rfl⟩ := hphase.of_hidden hshown
      exact ⟨pending', hphase⟩
  | true =>
    cases hshowing : w.showing with
    | some s =>
      have hsome : (w.next e).showing = some (s.goOn w.dialogue e) := by
        simp [Watch.next, hshown, hshowing]
      rw [hshowing] at h
      obtain ⟨id, hfits⟩ := h
      rw [hsome]
      exact ⟨id, hfits.next he hshown⟩
    | none =>
      have hsome : (w.next e).showing = some (.atOpening w.dialogue e) := by
        simp [Watch.next, hshown, hshowing]
      rw [hshowing] at h
      obtain ⟨pending, hhidden⟩ := h
      rw [hsome]
      exact Showing.fits_atOpening hhidden hshown

/-- The notes stay right along every course of events. -/
theorem Noted.after {w : Watch} (h : w.Noted) {events : List Event}
    (hcourse : w.dialogue.Course events) : (w.after events).Noted := by
  induction events generalizing w with
  | nil => exact h
  | cons e rest ih => exact ih (h.next hcourse.1) hcourse.2

/-- Notes that are right exist while the popup is shown. -/
theorem Noted.isSome_showing {w : Watch} (h : w.Noted) :
    w.showing.isSome = w.dialogue.popupShown := by
  unfold Noted at h
  cases hshowing : w.showing with
  | none =>
    rw [hshowing] at h
    obtain ⟨pending, hhidden⟩ := h
    exact hhidden.directory.hidden.symm
  | some s =>
    rw [hshowing] at h
    obtain ⟨id, hfits⟩ := h
    exact hfits.shown.directory.visible.symm

/-- In every dialogue the popup goes by the first answer for its organization after its request for
scores, which is the only one of the showing. Its scores are those that its own request brings, and
loading until it brings them, exactly when the first answer is not one to a request from before the
opening, or when both have come and brought the same. -/
theorem scores_eq_own_iff (organizations : List Organization) (pageSize : PageSize) (address : Url)
    (events : List Event)
    (h : (Dialogue.opening organizations pageSize address).Course events) :
    let d := (Dialogue.opening organizations pageSize address).after events
    let w := (Watch.opening organizations pageSize address).after events
    w.dialogue = d ∧ w.showing.isSome = d.popupShown ∧
      ∀ s, w.showing = some s →
        ∃ o, d.session.directory.selectedOrganization = some o ∧
          (∀ n, s.asked = some n ↔ s.opened ≤ n ∧ d.sent[n]? = some (.scores o.id)) ∧
          (∀ n result, s.first = some (n, result) → d.sent[n]? = some (.scores o.id)) ∧
          d.session.popup.scores = s.fetched o.id (s.first.map Prod.snd) ∧
          d.session.popup.scoresView o = s.view o (s.first.map Prod.snd) ∧
          (d.session.popup.scores = s.fetched o.id s.own ↔
            ∀ n result, s.first = some (n, result) →
              s.opened ≤ n ∨
                ∃ own, s.own = some own ∧ Popup.received own = Popup.received result) := by
  intro d w
  have hdialogue : w.dialogue = d := after_dialogue _ events
  have hnoted : w.Noted := (noted_opening organizations pageSize address).after h
  refine ⟨hdialogue, hdialogue ▸ hnoted.isSome_showing, fun s hs => ?_⟩
  unfold Noted at hnoted
  rw [hs, hdialogue] at hnoted
  obtain ⟨id, hfits⟩ := hnoted
  obtain ⟨o, ho, rfl⟩ := hfits.shown.directory.selectedOrganization
  refine ⟨o, ho, fun n => ⟨hfits.asked n, fun hn => hfits.only n o.id hn.1 hn.2⟩,
    fun n result hn => (hfits.first n result hn).1, hfits.shown.fetched,
    Showing.scoresView_eq_view hfits.shown.fetched, ?_⟩
  rw [hfits.shown.fetched]
  exact hfits.fetched_own_iff

/-- A popup whose own request is answered first has what the answer brought. -/
theorem scores_of_own_answer :
    let o := { Organization.bare 7 with url := some "", kind := some "" }
    let events := [.key .enter, .answer 2 (.scores 7 (.ok [⟨"Culture", 4⟩]))]
    (Dialogue.opening [o] .standard .bare).Course events ∧
      ((Dialogue.opening [o] .standard .bare).after events).session.popup.scores =
        .loaded 7 [⟨"Culture", 4⟩] := by
  have hcourse : (Dialogue.opening [{ Organization.bare 7 with url := some "", kind := some "" }]
      .standard .bare).Course [.key .enter, .answer 2 (.scores 7 (.ok [⟨"Culture", 4⟩]))] := by
    decide
  obtain ⟨_, _, hshowing⟩ := scores_eq_own_iff _ _ _ _ hcourse
  obtain ⟨shown, hshown, _, _, _, _, hiff⟩ :=
    hshowing ⟨2, some 2, some (2, .ok [⟨"Culture", 4⟩]), some (.ok [⟨"Culture", 4⟩])⟩ rfl
  obtain rfl : _ = shown := Option.some.inj hshown
  exact ⟨hcourse, hiff.mpr (by rintro _ _ ⟨⟩; exact .inl (Nat.le_refl 2))⟩

/-- A popup is closed while its scores are loading and opened again for the same organization. The
answer to the earlier request ends the loading, and the answer to the later one is dropped. -/
theorem scores_of_overtaking_answer :
    let o := { Organization.bare 7 with url := some "", kind := some "" }
    let reopened : List Event := [.key .enter, .key .escape, .key .enter]
    let early : Event := .answer 2 (.scores 7 (.ok [⟨"Early", 1⟩]))
    let late : Event := .answer 3 (.scores 7 (.ok [⟨"Late", 2⟩]))
    let start := Watch.opening [o] .standard .bare
    start.dialogue.Course (reopened ++ [early, late]) ∧
      (start.after reopened).showing = some ⟨3, some 3, none, none⟩ ∧
      (start.after reopened).dialogue.session.popup.scores = .loading 7 ∧
      (start.after (reopened ++ [early])).dialogue.session.popup.scores =
        .loaded 7 [⟨"Early", 1⟩] ∧
      (start.after (reopened ++ [early, late])).dialogue.session.popup.scores =
        .loaded 7 [⟨"Early", 1⟩] :=
  ⟨by decide, rfl, rfl, rfl, rfl⟩

end Watch

end Roster.Terminal
