import DccCua.Lib.Runs
import DccCua.Words

/-! # Interrupts of a connection

The process has one interrupt generation, and a broadcast moves it on. A connection remembers the generation it
has observed and stops its sessions when a poll finds another one. A desktop session and the banner of a window
session remember the generation at their start. A connection handles one request at a time; a poll runs only
between requests and beside a request that can be interrupted. What `begun` and `broadcasts` count is not part
of the code: the broadcasts so far, and those before the open request of a session. -/

namespace DccCua

open Runs

/-- `wrapping_add(1)` on a `u64`. -/
def nextGeneration (generation : Nat) : Nat := (generation + 1) % (u64Max + 1)

def interruptGenerationChanged (started current : Nat) : Bool := started ≠ current

inductive ControlKind where
  | window
  | desktop
  deriving DecidableEq, Repr

/-- A control session: `generation` is what it or its banner started with, and no banner is no generation. -/
structure ControlSession where
  id : String
  kind : ControlKind
  generation : Option Nat
  latched : Bool
  interrupted : Bool
  begun : Nat
  deriving DecidableEq, Repr

namespace ControlSession

/-- The session sees an interrupt by itself: the generation of a desktop session, or the banner of a window. -/
def seesInterrupt (session : ControlSession) (current : Nat) : Bool :=
  session.latched || session.generation.any (interruptGenerationChanged · current)

end ControlSession

/-- An open request in progress. -/
structure Opening where
  id : String
  kind : ControlKind
  generation : Option Nat
  begun : Nat
  deriving DecidableEq, Repr

structure ConnectionInterrupts where
  generation : Nat
  observed : Nat
  sessions : List ControlSession
  opening : Option Opening
  broadcasts : Nat
  deriving DecidableEq, Repr

inductive ConnectionStep where
  | broadcast
  | poll
  | interruptAll (inFlight : Bool)
  | beginOpen (id : String) (kind : ControlKind)
  | readGeneration
  | finishOpen (opened : Bool)
  | request (id : String)
  | bannerLoop (id : String)
  | close (id : String)
  deriving DecidableEq, Repr

namespace ConnectionInterrupts

/-- A connection starts with the generation at that moment. -/
def start (generation : Nat) : ConnectionInterrupts := ⟨generation, generation, [], none, 0⟩

def broadcast (s : ConnectionInterrupts) : ConnectionInterrupts :=
  { s with generation := nextGeneration s.generation, broadcasts := s.broadcasts + 1 }

/-- `stop_connection_control_sessions`, with the sessions that it stops. -/
def stopControlSessions (s : ConnectionInterrupts) : List ControlSession × ConnectionInterrupts :=
  (s.sessions.filter (!·.interrupted),
    { s with sessions := s.sessions.map fun session => { session with interrupted := true } })

def poll (s : ConnectionInterrupts) : List ControlSession × ConnectionInterrupts :=
  if s.opening.isSome then ([], s)
  else if interruptGenerationChanged s.observed s.generation then
    (s.stopControlSessions.1, { s.stopControlSessions.2 with observed := s.generation })
  else ([], s)

/-- `InterruptAll` stops and removes every session. Only beside a request in flight is the generation observed. -/
def interruptAll (s : ConnectionInterrupts) (inFlight : Bool) : List ControlSession × ConnectionInterrupts :=
  if s.opening.isSome then ([], s)
  else
    (s.sessions, { s.broadcast with
      sessions := []
      observed := if inFlight then s.broadcast.generation else s.observed })

def beginOpen (s : ConnectionInterrupts) (id : String) (kind : ControlKind) : ConnectionInterrupts :=
  if s.opening.isSome then s else { s with opening := some ⟨id, kind, none, s.broadcasts⟩ }

/-- A desktop session reads the generation before it starts, a window session when its banner starts. -/
def readGeneration (s : ConnectionInterrupts) : ConnectionInterrupts :=
  match s.opening with
  | some opening => { s with opening := some { opening with generation := some s.generation } }
  | none => s

def finishOpen (s : ConnectionInterrupts) (opened : Bool) : ConnectionInterrupts :=
  match s.opening with
  | none => s
  | some opening =>
    if opened then
      { s with
        opening := none
        sessions := ⟨opening.id, opening.kind, opening.generation, false, false, opening.begun⟩ :: s.sessions }
    else { s with opening := none }

/-- The check of a session at the begin of a request: `ensure_session_not_interrupted` and its desktop counterpart. -/
def request (s : ConnectionInterrupts) (id : String) : List ControlSession × ConnectionInterrupts :=
  if s.opening.isSome then ([], s)
  else
    (s.sessions.filter fun session => session.id = id && !session.interrupted && session.seesInterrupt s.generation,
      { s with sessions := s.sessions.map fun session =>
        if session.id = id && session.seesInterrupt s.generation then { session with interrupted := true } else session })

/-- The loop of a banner latches an interrupt that it sees. -/
def bannerLoop (s : ConnectionInterrupts) (id : String) : ConnectionInterrupts :=
  { s with sessions := s.sessions.map fun session =>
    if session.id = id && session.seesInterrupt s.generation then { session with latched := true } else session }

def close (s : ConnectionInterrupts) (id : String) : ConnectionInterrupts :=
  if s.opening.isSome then s else { s with sessions := s.sessions.filter (·.id ≠ id) }

end ConnectionInterrupts

/-- The output of a step is the sessions that it stops as interrupted. -/
def connectionInterruptMachine : Machine ConnectionInterrupts ConnectionStep (List ControlSession) where
  step s
    | .broadcast => ([], s.broadcast)
    | .poll => s.poll
    | .interruptAll inFlight => s.interruptAll inFlight
    | .beginOpen id kind => ([], s.beginOpen id kind)
    | .readGeneration => ([], s.readGeneration)
    | .finishOpen opened => ([], s.finishOpen opened)
    | .request id => s.request id
    | .bannerLoop id => ([], s.bannerLoop id)
    | .close id => ([], s.close id)

end DccCua
