import DccCua.Host.Interrupts

/-! # The raw-input queue

The actions of all connections take turns at one queue. An action checks its session before it waits; what it
checks once more after the wait depends on the session. A session with an action under way is not stopped by
its connection, which is busy with the action. The counts of broadcasts at the reading of the generation, at the
end of the open request and at the turn are not part of the code. -/

namespace DccCua

open Runs

/-- A session with what an action reads of it; `generation` is what it or its banner started with. -/
structure RawSession where
  kind : ControlKind
  pixelsOnly : Bool
  taskAuthorized : Bool
  banner : Bool
  generation : Nat
  interrupted : Bool
  read : Nat
  opened : Nat
  deriving DecidableEq, Repr

/-- A session sees an interrupt: a desktop session by its generation, a window session by its banner. -/
def RawSession.seesInterrupt (session : RawSession) (current : Nat) : Bool :=
  session.interrupted || ((session.kind = .desktop || session.banner) &&
    interruptGenerationChanged session.generation current)

/-- `revalidate_queued_action` checks the session again. -/
def RawSession.revalidated (session : RawSession) : Bool :=
  session.kind = .window && (session.pixelsOnly || session.taskAuthorized)

/-- The action that has its turn, with the broadcasts before it. -/
structure RawTurn where
  session : Nat
  turn : Nat
  deriving DecidableEq, Repr

structure RawInputQueue where
  generation : Nat
  broadcasts : Nat
  sessions : List RawSession
  openings : List RawSession
  waiting : List Nat
  holder : Option RawTurn
  deriving DecidableEq, Repr

inductive RawStep where
  | broadcast
  | beginOpen (kind : ControlKind) (pixelsOnly taskAuthorized banner : Bool)
  | finishOpen (index : Nat)
  | stop (session : Nat)
  | submit (session : Nat)
  | takeTurn (session : Nat)
  | dispatch (leaseValid : Bool)
  | finish
  deriving DecidableEq, Repr

/-- An action handed to its session. -/
structure HandedAction where
  session : RawSession
  turn : Nat
  deriving DecidableEq, Repr

namespace RawInputQueue

def start (generation : Nat) : RawInputQueue := ⟨generation, 0, [], [], [], none⟩

def broadcast (s : RawInputQueue) : RawInputQueue :=
  { s with generation := nextGeneration s.generation, broadcasts := s.broadcasts + 1 }

/-- The open request of a session, up to the reading of the generation. -/
def beginOpen (s : RawInputQueue) (kind : ControlKind) (pixelsOnly taskAuthorized banner : Bool) : RawInputQueue :=
  { s with openings :=
    ⟨kind, pixelsOnly, taskAuthorized, banner, s.generation, false, s.broadcasts, s.broadcasts⟩ :: s.openings }

def finishOpen (s : RawInputQueue) (index : Nat) : RawInputQueue :=
  match s.openings[index]? with
  | none => s
  | some session =>
    { s with
      openings := s.openings.eraseIdx index
      sessions := s.sessions ++ [{ session with opened := s.broadcasts }] }

/-- The session has an action in the queue or on its turn. -/
def busy (s : RawInputQueue) (session : Nat) : Bool := s.waiting.contains session || s.holder.any (·.session = session)

def setSession (s : RawInputQueue) (session : Nat) (value : RawSession) : RawInputQueue :=
  { s with sessions := s.sessions.set session value }

/-- The connection of the session stops it. -/
def stop (s : RawInputQueue) (session : Nat) : RawInputQueue :=
  match s.sessions[session]? with
  | none => s
  | some value => if s.busy session then s else s.setSession session { value with interrupted := true }

/-- The action is checked against its session and waits for its turn. -/
def submit (s : RawInputQueue) (session : Nat) : RawInputQueue :=
  match s.sessions[session]? with
  | none => s
  | some value =>
    if s.busy session then s
    else if value.seesInterrupt s.generation then s.setSession session { value with interrupted := true }
    else { s with waiting := s.waiting ++ [session] }

def takeTurn (s : RawInputQueue) (session : Nat) : RawInputQueue :=
  if s.holder.isSome then s
  else if s.waiting.contains session then
    { s with waiting := s.waiting.erase session, holder := some ⟨session, s.broadcasts⟩ }
  else s

/-- The checks after the wait, and the hand-over; a refused action gives up its turn. -/
def dispatch (s : RawInputQueue) (leaseValid : Bool) : Option HandedAction × RawInputQueue :=
  match s.holder with
  | none => (none, s)
  | some holder =>
    match s.sessions[holder.session]? with
    | none => (none, s)
    | some value =>
      if value.revalidated && value.seesInterrupt s.generation then
        (none, { s.setSession holder.session { value with interrupted := true } with holder := none })
      else if value.revalidated && value.taskAuthorized && !leaseValid then (none, { s with holder := none })
      else (some ⟨value, holder.turn⟩, s)

def finish (s : RawInputQueue) : RawInputQueue := { s with holder := none }

end RawInputQueue

def rawInputMachine : Machine RawInputQueue RawStep (Option HandedAction) where
  step s
    | .broadcast => (none, s.broadcast)
    | .beginOpen kind pixelsOnly taskAuthorized banner => (none, s.beginOpen kind pixelsOnly taskAuthorized banner)
    | .finishOpen index => (none, s.finishOpen index)
    | .stop session => (none, s.stop session)
    | .submit session => (none, s.submit session)
    | .takeTurn session => (none, s.takeTurn session)
    | .dispatch leaseValid => s.dispatch leaseValid
    | .finish => (none, s.finish)

end DccCua
