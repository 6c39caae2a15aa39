import Roster.Request

/-!
# Steps

A step leads to a new state. On the way it may ask for something and write lines into the log.
-/

namespace Roster

/-- How serious a line of the log is. -/
inductive Severity where
  | warning
  | error
  deriving DecidableEq, Repr

/-- A line of the log. -/
structure LogLine where
  severity : Severity
  message : String
  deriving DecidableEq, Repr

/-- The line as it is written. -/
def LogLine.text (line : LogLine) : String :=
  (match line.severity with
  | .warning => "WARN "
  | .error => "ERROR ") ++ line.message

/-- What a step leads to: the new state, the requests to perform in order, and lines for the log. -/
structure Step (α : Type) where
  state : α
  requests : List Request
  log : List LogLine
  deriving Repr

namespace Step

variable {α β : Type}

/-- A step without requests and without lines for the log. -/
def silent (state : α) : Step α :=
  ⟨state, [], []⟩

/-- Goes on from the state that a step leads to. -/
def andThen (step : Step α) (next : α → Step β) : Step β :=
  let further := next step.state
  ⟨further.state, step.requests ++ further.requests, step.log ++ further.log⟩

/-- Changes the state that a step leads to. -/
def map (f : α → β) (step : Step α) : Step β :=
  ⟨f step.state, step.requests, step.log⟩

@[simp] theorem silent_state (a : α) : (silent a).state = a := rfl

@[simp] theorem silent_requests (a : α) : (silent a).requests = [] := rfl

@[simp] theorem map_state (f : α → β) (s : Step α) : (s.map f).state = f s.state := rfl

@[simp] theorem map_requests (f : α → β) (s : Step α) : (s.map f).requests = s.requests := rfl

@[simp] theorem andThen_state (s : Step α) (f : α → Step β) :
    (s.andThen f).state = (f s.state).state := rfl

@[simp] theorem andThen_requests (s : Step α) (f : α → Step β) :
    (s.andThen f).requests = s.requests ++ (f s.state).requests := rfl

end Step

end Roster
