import DccCua.Lib.Runs
import DccCua.Protocol.Frame

/-! # One Host connection

The loop of `process_connection_parts_with_security_services`: it reads one request frame after
another, and while an interruptible request runs it goes on reading in a `select!` whose other branches
are the request and the interrupt poll. The events are what the loop waits for: bytes that arrive, polls
of its read, ticks, completions and the hello deadline. The order and the timing of the events, the
results of the handlers and whether a response can be written belong to the environment.

The responses themselves are left out, since the loop never reads them. -/

namespace DccCua

open Runs

/-- The requests that the connection loop tells apart. -/
inductive Request where
  | hello
  | waitFor
  | waitForWindow
  | pollSessionEvents
  | interruptAll
  | cancelWindowWait (waitId : String)
  | cancel
  | discovery
  | other
  deriving DecidableEq, Repr

namespace Request

/-- `is_interruptible_connection_request`. -/
def isInterruptible : Request → Bool
  | waitFor | waitForWindow | pollSessionEvents => true
  | _ => false

/-- `is_parallel_request`: `ping`, `list_apps`, `list_tools`, `list_windows`, `screen_size` and
    `cursor_position`. -/
def isParallel : Request → Bool
  | discovery => true
  | _ => false

end Request

/-- `parse_request_frame`: the request id and the request, or the request id and the error. -/
abbrev ParseRequestFrame := Bytes → Except (Option String × String) (Option String × Request)

/-- How a connection fails. -/
inductive ConnectionError where
  | frame (error : FrameError)
  | helloTimeout
  | windowWaitId
  | transport
  deriving DecidableEq, Repr

def validateWindowWaitId (waitId : String) : Bool :=
  waitId ≠ "" && waitId.length ≤ maxRequestIdChars

/-- Where the loop is. Both reads are the future of `read_frame` with the bytes it has taken: `reading` is
    the read at the head of the loop, which is one future until it is ready, and `running` is the read in
    the `select!` around an interruptible request, which is a new future at each turn of that loop. -/
inductive Phase where
  | reading (taken : Bytes)
  | running (taken : Bytes) (request : Request) (requestId : Option String)
  | stopping
  | handling (request : Request)
  | closed (result : Except ConnectionError Unit)
  deriving DecidableEq, Repr

/-- `unread` are the bytes that have arrived and that no read has taken, `greeted` is
    `snapshot_transport.is_some()`. -/
structure Connection where
  phase : Phase
  unread : Bytes
  eof : Bool
  greeted : Bool
  observedGeneration : Nat
  deriving DecidableEq, Repr

/-- `sent` says whether the response that the event leads to could be written. -/
inductive ConnectionEvent where
  | arrive (chunk : Bytes)
  | eof
  | poll (sent : Bool)
  | tick (generation : Nat) (sent : Bool)
  | sessionTick
  | complete (ok : Bool) (generation : Nat) (sent : Bool)
  | helloDeadline
  deriving DecidableEq, Repr

namespace Connection

def start (generation : Nat) : Connection :=
  { phase := .reading [], unread := [], eof := false, greeted := false, observedGeneration := generation }

/-- The head of the loop, after a response that was written. -/
def answered (sent : Bool) : Phase := if sent then .reading [] else .closed (.error .transport)

/-- What the loop does with a frame from its head. -/
def accept (parse : ParseRequestFrame) (greeted : Bool) (frame : Bytes) (sent : Bool) : Phase :=
  match parse frame with
  | .error _ => answered sent
  | .ok (requestId, request) =>
    if !greeted && request ≠ .hello then answered sent
    -- `register_window_wait`: its key is free, since the guard of an earlier wait is gone.
    else if request = .waitForWindow && requestId.any (fun waitId => !validateWindowWaitId waitId) then
      .closed (.error .windowWaitId)
    else if request.isInterruptible then .running [] request requestId
    else .handling request

/-- `cancel_window_wait` succeeds for the id of the window wait that runs. -/
def cancelsWindowWait (request : Request) (requestId : Option String) (waitId : String) : Bool :=
  request = .waitForWindow && validateWindowWaitId waitId && requestId = some waitId

/-- What the `select!` does with a frame that arrives while `request` runs. -/
def acceptRunning (parse : ParseRequestFrame) (request : Request) (requestId : Option String) (frame : Bytes)
    (sent : Bool) : Phase :=
  match parse frame with
  | .ok (_, .interruptAll) => .stopping
  | .ok (_, .cancelWindowWait waitId) =>
    if !sent then .closed (.error .transport)
    else if cancelsWindowWait request requestId waitId then .reading []
    else .running [] request requestId
  -- An invalid request, `cancel` and any other request are answered, and the request goes on.
  | _ => if sent then .running [] request requestId else .closed (.error .transport)

/-- One poll of the loop's read: `keep` puts a read that is pending back, `use` takes a frame. -/
def pollRead (c : Connection) (taken : Bytes) (keep : Bytes → Phase) (use : Bytes → Phase) : Option Bytes × Connection :=
  match Frame.pollFrame maxJsonFrameBytes taken c.unread c.eof with
  | (.pending taken, unread) => (none, { c with phase := keep taken, unread := unread })
  | (.ready (.ok none), unread) => (none, { c with phase := .closed (.ok ()), unread := unread })
  | (.ready (.error e), unread) => (none, { c with phase := .closed (.error (.frame e)), unread := unread })
  | (.ready (.ok (some frame)), unread) => (some frame, { c with phase := use frame, unread := unread })

/-- One event; the output is the frame that the loop gets from its read, if it gets one. -/
def step (parse : ParseRequestFrame) (c : Connection) (event : ConnectionEvent) : Option Bytes × Connection :=
  match event, c.phase with
  | .arrive chunk, _ => (none, if c.eof then c else { c with unread := c.unread ++ chunk })
  | .eof, _ => (none, { c with eof := true })
  | .poll sent, .reading taken => c.pollRead taken .reading fun frame => accept parse c.greeted frame sent
  | .poll sent, .running taken request requestId =>
    c.pollRead taken (fun taken => .running taken request requestId)
      fun frame => acceptRunning parse request requestId frame sent
  | .tick generation _, .reading _ => (none, if c.greeted then { c with observedGeneration := generation } else c)
  | .tick generation sent, .running _ request requestId =>
    if generation ≠ c.observedGeneration then
      (none, { c with phase := answered sent, observedGeneration := generation })
    -- The next turn of the loop makes a new read: what the old one had taken is gone.
    else (none, { c with phase := .running [] request requestId })
  | .complete _ _ sent, .running _ _ _ => (none, { c with phase := answered sent })
  | .complete _ generation sent, .stopping =>
    (none, { c with phase := answered sent, observedGeneration := generation })
  | .complete ok _ sent, .handling request =>
    if request.isParallel then (none, { c with phase := .reading [] })
    else (none, { c with phase := answered sent, greeted := c.greeted || (request = .hello && ok) })
  | .helloDeadline, .reading _ =>
    (none, if c.greeted then c else { c with phase := .closed (.error .helloTimeout) })
  | _, _ => (none, c)

end Connection

def connectionMachine (parse : ParseRequestFrame) : Machine Connection ConnectionEvent (Option Bytes) where
  step := Connection.step parse

end DccCua
