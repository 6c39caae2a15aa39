import Roster.Source.Basic
import Roster.Terminal.Session

/-!
# Answers that wait

Requests are performed behind the session's back. Their answers wait in the order in which they came
in, until the session takes them.
-/

namespace Roster.Terminal

namespace Session

/-- Takes in answers in turn. -/
def receiveAll (s : Session) : List Answer → Step Session
  | [] => .silent s
  | answer :: rest => (s.receive answer).andThen fun s => s.receiveAll rest

end Session

/-- A session and the answers that wait for it. -/
structure Exchange where
  session : Session
  waiting : List Answer

namespace Exchange

/-- The exchange before anything is asked. -/
def start (s : Session) : Exchange := ⟨s, []⟩

/-- Changes the session, whatever waits for it. -/
def act (e : Exchange) (f : Session → Step Session) : Step Exchange :=
  (f e.session).map fun s => { e with session := s }

/-- Takes the answer that has waited longest. -/
def takeNext (e : Exchange) : Step Exchange :=
  match e.waiting with
  | [] => .silent e
  | answer :: rest => (e.session.receive answer).map fun s => ⟨s, rest⟩

/-- Takes all answers that wait, and moves the loading sign on. -/
def update (e : Exchange) : Step Exchange :=
  (e.session.receiveAll e.waiting).map fun s => ⟨s.tick, []⟩

/-- Lets a source answer requests. -/
def perform (e : Exchange) (source : Source) (requests : List Request) : Exchange :=
  { e with waiting := e.waiting ++ requests.map source.answer }

/-- Whether nothing is on its way. -/
def isIdle (e : Exchange) : Bool :=
  e.session.inFlight == 0

end Exchange

/-- Asks for the tables of labels and takes them in, one after the other. -/
def Session.withTables (s : Session) (source : Source) : Step Session :=
  let mounted := s.mount
  mounted.andThen fun s => s.receiveAll (mounted.requests.map source.answer)

end Roster.Terminal
