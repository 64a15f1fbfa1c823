import DccCua.Host.Connection
import Std.Data.TreeMap.Lemmas

/-! # The waits of a connection

The cancellation registry: `wait_for` registers under the id of its session with the credentials of that
session, `wait_for_window` under `window_wait:` and its wait id with no credentials. The guard that a
registration returns is held by the running wait, and its drop removes the entry. -/

namespace DccCua

open Runs

structure CancellationHandle where
  taskGrantId : String
  windowCapability : String
  cancelled : Bool
  deriving DecidableEq, Repr

inductive WaitError where
  | invalidWaitId
  | requestInProgress (message : String)
  | requestNotFound (message : String)
  | forbidden (message : String)
  deriving DecidableEq, Repr

/-- A running wait, by what it was registered with. -/
inductive Wait where
  | session (sessionId taskGrantId windowCapability : String)
  | window (waitId : String)
  deriving DecidableEq, Repr

def windowWaitKey (waitId : String) : String := "window_wait:" ++ waitId

namespace Wait

/-- The key of the guard. -/
def key : Wait → String
  | session sessionId _ _ => sessionId
  | window waitId => windowWaitKey waitId

/-- What the registry holds for the wait. -/
def handle (cancelled : Bool) : Wait → CancellationHandle
  | session _ taskGrantId windowCapability => ⟨taskGrantId, windowCapability, cancelled⟩
  | window _ => ⟨"", "", cancelled⟩

end Wait

structure Waits where
  registry : Std.TreeMap String CancellationHandle
  running : List Wait

inductive WaitCall where
  | registerWait (sessionId taskGrantId windowCapability : String)
  | registerWindowWait (waitId : String)
  | cancelWait (sessionId taskGrantId windowCapability : String)
  | cancelWindowWait (waitId : String)
  | finish (wait : Wait)
  deriving DecidableEq, Repr

namespace Waits

def start : Waits := ⟨∅, []⟩

/-- Both registrations, with their message for a key that is taken. -/
def register (s : Waits) (wait : Wait) (taken : String) : Except WaitError Unit × Waits :=
  if s.registry.contains wait.key then (.error (.requestInProgress taken), s)
  else (.ok (), ⟨s.registry.insert wait.key (wait.handle false), wait :: s.running⟩)

def registerWait (s : Waits) (sessionId taskGrantId windowCapability : String) : Except WaitError Unit × Waits :=
  s.register (.session sessionId taskGrantId windowCapability) "wait_for is already running"

def registerWindowWait (s : Waits) (waitId : String) : Except WaitError Unit × Waits :=
  if !validateWindowWaitId waitId then (.error .invalidWaitId, s)
  else s.register (.window waitId) "window_wait is already running for this wait_id"

def cancelWait (s : Waits) (sessionId taskGrantId windowCapability : String) : Except WaitError Unit × Waits :=
  match s.registry[sessionId]? with
  | none => (.error (.requestNotFound "no wait_for is running for this session"), s)
  | some handle =>
    if handle.taskGrantId ≠ taskGrantId || handle.windowCapability ≠ windowCapability then
      (.error (.forbidden "cancel credentials do not match the running wait_for"), s)
    else (.ok (), { s with registry := s.registry.insert sessionId { handle with cancelled := true } })

def cancelWindowWait (s : Waits) (waitId : String) : Except WaitError Unit × Waits :=
  if !validateWindowWaitId waitId then (.error .invalidWaitId, s)
  else match s.registry[windowWaitKey waitId]? with
    | none => (.error (.requestNotFound "no window_wait is running for this wait_id"), s)
    | some handle =>
      (.ok (), { s with registry := s.registry.insert (windowWaitKey waitId) { handle with cancelled := true } })

/-- The wait ends, and its guard is dropped. -/
def finish (s : Waits) (wait : Wait) : Except WaitError Unit × Waits :=
  if wait ∈ s.running then (.ok (), ⟨s.registry.erase wait.key, s.running.erase wait⟩) else (.ok (), s)

/-- The flag that the running wait waits for. -/
def cancelled (s : Waits) (wait : Wait) : Bool := s.registry[wait.key]?.any (·.cancelled)

end Waits

def waitMachine : Machine Waits WaitCall (Except WaitError Unit) where
  step s
    | .registerWait sessionId taskGrantId windowCapability => s.registerWait sessionId taskGrantId windowCapability
    | .registerWindowWait waitId => s.registerWindowWait waitId
    | .cancelWait sessionId taskGrantId windowCapability => s.cancelWait sessionId taskGrantId windowCapability
    | .cancelWindowWait waitId => s.cancelWindowWait waitId
    | .finish wait => s.finish wait

end DccCua
