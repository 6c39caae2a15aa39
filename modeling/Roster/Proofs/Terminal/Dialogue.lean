import Roster.Proofs.Directory.Run
import Roster.Terminal.Input

/-!
# Dialogues

A session is driven by keys, by the mouse and by the answers to the requests it has sent. A dialogue
keeps the session together with what an observer notes: every request, numbered in the order of
sending, the numbers of those without an answer, and the organization whose row was activated last.
Answers arrive in any order and bring anything, but each belongs to one request without an answer.
-/

namespace Roster

/-- An address of which nothing but its scheme is told. -/
def Url.bare : Url where
  scheme := "http"
  username := ""
  password := ""
  host := none
  port := none
  path := .plain ""
  query := none
  fragment := none

namespace Terminal

/-- What the mouse did. Only its left button going down is heeded. -/
inductive MouseAction where
  | leftDown
  | other
  deriving DecidableEq, Repr

/-- Something that happens to a session. An answer names the number of its request. -/
inductive Event where
  | key (key : KeyPress)
  | mouse (action : MouseAction) (screen : Screen.Area) (x y : Nat)
  | answer (number : Nat) (answer : Answer)

namespace Session

/-- What an event leads to. -/
def on (s : Session) : Event → Step Session
  | .key key => s.press key
  | .mouse .leftDown screen x y => s.click screen x y
  | .mouse .other _ _ _ => .silent s
  | .answer _ answer => s.receive answer

/-- The organization whose row lies under a position of the directory. -/
def rowUnder (s : Session) (screen : Screen.Area) (x y : Nat) : Option OrganizationId :=
  let layout := Layout.of screen
  if layout.search.holds x y || layout.vesting.holds x y then none
  else
    match layout.pageAt x y s.directory.pageNumbers with
    | some _ => none
    | none =>
      (layout.rowAt x y s.rows.length s.row).bind fun index => (s.selectRow index).cursorId

/-- The organization whose row an event activates, if it activates one. -/
def activated? (s : Session) : Event → Option OrganizationId
  | .key key =>
    if s.helpShown || s.directory.popupVisible || s.focus.focused || key != .enter then none
    else s.cursorId
  | .mouse .leftDown screen x y =>
    if s.helpShown || s.directory.popupVisible then none else s.rowUnder screen x y
  | .mouse .other _ _ _ => none
  | .answer _ _ => none

end Session

/-- A session with the requests it has sent, the numbers of those without an answer, and the
organization whose row was activated last. -/
structure Dialogue where
  session : Session
  sent : List Request
  unanswered : List Nat
  activated : Option OrganizationId

namespace Dialogue

/-- A session is opened on a list and asks for the tables of labels. -/
def opening (organizations : List Organization) (pageSize : PageSize) (address : Url) : Dialogue :=
  let mounted := (Session.start organizations pageSize address).mount
  ⟨mounted.state, mounted.requests, List.range mounted.requests.length, none⟩

/-- Whether a request has been sent and has no answer. -/
def Awaits (d : Dialogue) (r : Request) : Prop :=
  ∃ n ∈ d.unanswered, d.sent[n]? = some r

/-- Whether an event can happen: an answer has to belong to a request without one. -/
def Admits (d : Dialogue) : Event → Prop
  | .answer n answer => n ∈ d.unanswered ∧ d.sent[n]? = some answer.request
  | _ => True

instance (d : Dialogue) : (e : Event) → Decidable (d.Admits e)
  | .answer _ _ => inferInstanceAs (Decidable (_ ∧ _))
  | .key _ | .mouse _ _ _ _ => isTrue trivial

/-- The requests without an answer once an event has brought its own. -/
def leftBy (d : Dialogue) : Event → List Nat
  | .answer n _ => d.unanswered.erase n
  | _ => d.unanswered

/-- The dialogue after an event. -/
def next (d : Dialogue) (e : Event) : Dialogue :=
  let step := d.session.on e
  { session := step.state
    sent := d.sent ++ step.requests
    unanswered := d.leftBy e ++ List.range' d.sent.length step.requests.length
    activated := (d.session.activated? e).or d.activated }

/-- The dialogue after events, the first of them happening first. -/
def after (d : Dialogue) (events : List Event) : Dialogue :=
  events.foldl next d

/-- What an event sends comes after all that was sent before. -/
theorem length_sent_next (d : Dialogue) (e : Event) :
    (d.next e).sent.length = d.sent.length + (d.session.on e).requests.length :=
  List.length_append

/-- Each of the events satisfies a condition on the dialogue that it happens to. -/
def Along (P : Dialogue → Event → Prop) : Dialogue → List Event → Prop
  | _, [] => True
  | d, e :: rest => P d e ∧ Along P (d.next e) rest

instance decidableAlong {P : Dialogue → Event → Prop} [∀ d e, Decidable (P d e)] :
    (d : Dialogue) → (events : List Event) → Decidable (d.Along P events)
  | _, [] => isTrue trivial
  | d, e :: rest => @instDecidableAnd _ _ _ (decidableAlong (d.next e) rest)

/-- Whether events can happen one after the other. -/
abbrev Course (d : Dialogue) (events : List Event) : Prop :=
  d.Along Admits events

/-- What each event preserves under its condition holds after all of them. -/
theorem Along.preserves {P : Dialogue → Event → Prop} {Q : Dialogue → Prop}
    (hstep : ∀ d e, Q d → P d e → Q (d.next e)) {d : Dialogue} {events : List Event}
    (hd : Q d) (h : d.Along P events) : Q (d.after events) := by
  induction events generalizing d with
  | nil => exact hd
  | cons e rest ih => exact ih (hstep d e hd h.1) h.2

/-- What has no answer yet is still awaited after an event, unless the event answers it. -/
theorem Awaits.next {d : Dialogue} {r : Request} (h : d.Awaits r) {e : Event} (he : d.Admits e)
    (hr : ∀ n answer, e = .answer n answer → answer.request ≠ r) : (d.next e).Awaits r := by
  obtain ⟨n, hn, hsent⟩ := h
  have hleft : n ∈ d.leftBy e := by
    cases e with
    | key key => exact hn
    | mouse action screen x y => exact hn
    | answer m answer =>
      have hne : n ≠ m := by
        rintro rfl
        exact hr n answer rfl (Option.some.inj (he.2.symm.trans hsent))
      exact (List.mem_erase_of_ne hne).mpr hn
  refine ⟨n, List.mem_append_left _ hleft, ?_⟩
  exact List.getElem?_append_left (List.getElem?_eq_some_iff.mp hsent).1 ▸ hsent

/-- What an event asks for is awaited after it. -/
theorem awaits_next_of_mem (d : Dialogue) {e : Event} {r : Request}
    (hr : r ∈ (d.session.on e).requests) : (d.next e).Awaits r := by
  obtain ⟨i, hi, hget⟩ := List.getElem_of_mem hr
  refine ⟨d.sent.length + i, List.mem_append_right _ ?_, ?_⟩
  · rw [List.mem_range'_1]
    omega
  · rw [next, List.getElem?_append_right (Nat.le_add_right _ _), Nat.add_sub_cancel_left,
      List.getElem?_eq_getElem hi, hget]

/-- An answer takes one request off those without an answer, and other events none. -/
theorem length_leftBy (d : Dialogue) {e : Event} (he : d.Admits e) :
    (d.leftBy e).length =
      match e with
      | .answer _ _ => d.unanswered.length - 1
      | _ => d.unanswered.length := by
  cases e with
  | key key => rfl
  | mouse action screen x y => rfl
  | answer n answer => exact List.length_erase_of_mem he.1

/-! ## Numbers -/

/-- The requests without an answer are different ones of those sent. -/
structure Numbered (d : Dialogue) : Prop where
  sent : ∀ n ∈ d.unanswered, n < d.sent.length
  distinct : d.unanswered.Nodup

theorem numbered_opening (organizations : List Organization) (pageSize : PageSize)
    (address : Url) : (opening organizations pageSize address).Numbered :=
  ⟨fun _ hn => List.mem_range.mp hn, List.nodup_range⟩

/-- What is without an answer after an event was so before. -/
theorem mem_of_mem_leftBy {d : Dialogue} {e : Event} {n : Nat} (h : n ∈ d.leftBy e) :
    n ∈ d.unanswered := by
  cases e with
  | key key => exact h
  | mouse action screen x y => exact h
  | answer m answer => exact List.mem_of_mem_erase h

theorem Numbered.next {d : Dialogue} (h : d.Numbered) (e : Event) : (d.next e).Numbered := by
  have hbelow : ∀ n ∈ d.leftBy e, n < d.sent.length := fun n hn => h.sent n (mem_of_mem_leftBy hn)
  have hleft : (d.leftBy e).Nodup := by
    cases e with
    | key key => exact h.distinct
    | mouse action screen x y => exact h.distinct
    | answer m answer => exact h.distinct.erase m
  refine ⟨fun n hn => ?_, ?_⟩
  · rw [length_sent_next]
    rcases List.mem_append.mp hn with hn | hn
    · have := hbelow n hn
      omega
    · have := (List.mem_range'_1.mp hn).2
      omega
  · refine List.nodup_append.mpr ⟨hleft, List.nodup_range', fun n hn m hm => ?_⟩
    have := hbelow n hn
    have := (List.mem_range'_1.mp hm).1
    omega

end Dialogue

end Terminal

end Roster
