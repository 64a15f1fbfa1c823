import DccCua.Lib.Runs
import DccCua.Lib.Json

/-! # The native relay

`run` and `dispatch` of `browser_extension/relay.rs`. The reader of the native messages, the worker of the paired task
and the select loop go on at the same time; their channels keep the order and are bounded. A select takes any branch
that is ready, and a wait with a timeout may end either way. A message counts as read when the loop takes it from its
channel. Where the worker gets its commands from, and which tasks the discovery asks, is left out. -/

namespace DccCua

open Runs

/-- `Command`; `reply` stands for the channel on which the worker waits. -/
structure RelayCommand where
  owner : String
  deadline : Nat
  body : Json
  reply : Nat
  deriving Repr

namespace RelayCommand

def requestId (c : RelayCommand) : Json := c.body.get "request_id"

/-- The answer that `run` and `dispatch` give themselves. -/
def refusal (c : RelayCommand) (code message : String) : Json :=
  .obj [("schema", .str "dcc-cua.browser-extension.v1"), ("type", .str "response"), ("request_id", c.requestId),
    ("ok", .bool false), ("error", .obj [("code", .str code), ("message", .str message)])]

def notForeground (c : RelayCommand) : Json :=
  c.refusal "target_not_foreground" "paired native window is no longer foreground; take a fresh observation"

def expired (c : RelayCommand) : Json :=
  c.refusal "command_expired" "expired command was not dispatched; take a fresh observation"

def owned (c : RelayCommand) : Json :=
  c.refusal "pairing_owned" "pairing belongs to another task; pair the tab again to change owner"

def needsForeground (c : RelayCommand) : Bool :=
  match (c.body.get "method").asStr with
  | some method => method = "click" || method = "type" || method = "navigate"
  | none => false

end RelayCommand

inductive RelayPhase where
  | selecting
  | writing (command : RelayCommand)
  | awaiting (command : RelayCommand)
  | ended (result : Except String Unit)
  deriving Repr

structure Relay where
  browserWindow : Nat
  selected : Bool
  pairedOwner : Option String
  commands : List RelayCommand
  /-- How many commands the worker has sent. -/
  sent : Nat
  native : List (Option Json)
  /-- The reader has not seen the end of its stream. -/
  reading : Bool
  phase : RelayPhase
  deriving Repr

inductive WriteOutcome where
  | written
  | timedOut
  | failed (error : String)
  deriving DecidableEq, Repr

inductive RelayInput where
  | readerReads (message : Option Json)
  | workerSends (owner : String) (deadline : Nat) (body : Json)
  /-- A tick of the discovery, and how many tasks match, unless the candidates cannot be listed. -/
  | discover (endpoints : Except String Nat)
  | workerExits
  | takeNative
  /-- The window in front of the browser, unless it cannot be found, and the clock, unless it is before 1970. -/
  | takeCommand (window now : Option Nat)
  | writeEnds (outcome : WriteOutcome)
  | response
  | responseTimeout
  deriving Repr

/-- What the loop does. -/
inductive RelayEvent where
  | wrote (command : RelayCommand) (now : Nat)
  | read (message : Option Json)
  | replied (command : RelayCommand) (response : Json)
  | timedOut (command : RelayCommand)
  deriving Repr

namespace Relay

def start (browserWindow : Nat) : Relay := ⟨browserWindow, false, none, [], 0, [], true, .selecting⟩

def isEnded (s : Relay) : Bool :=
  match s.phase with
  | .ended _ => true
  | _ => false

def fail (message : String) (s : Relay) : Relay := { s with phase := .ended (.error message) }

/-- A task of the reader: `native_tx` has room for one message. -/
def readerReads (message : Option Json) (s : Relay) : Relay :=
  if s.reading && s.native.isEmpty then { s with native := [message], reading := message.isSome } else s

/-- The worker sends a command: `tx` has room for 16. -/
def workerSends (owner : String) (deadline : Nat) (body : Json) (s : Relay) : Relay :=
  if s.selected && !s.isEnded && s.commands.length < 16 then
    { s with commands := s.commands ++ [⟨owner, deadline, body, s.sent⟩], sent := s.sent + 1 }
  else s

/-- `native_rx.recv()`, if it does not wait. -/
def recvNative (s : Relay) : Option (Option Json × Relay) :=
  match s.native with
  | message :: native => some (message, { s with native := native })
  | [] => if s.reading then none else some (none, s)

def discover (endpoints : Except String Nat) (s : Relay) : Relay :=
  if s.selected then s
  else match endpoints with
    | .error error => s.fail error
    | .ok count =>
      if 1 < count then s.fail "multiple matching extension tasks; revoke ambiguity and pair again"
      else { s with selected := count = 1 }

def takeNative (s : Relay) : List RelayEvent × Relay :=
  match s.recvNative with
  | none => ([], s)
  | some (none, s) => ([.read none], { s with phase := .ended (.ok ()) })
  | some (some message, s) => ([.read (some message)], s.fail "unsolicited native response")

/-- `dispatch` up to the write. -/
def dispatch (command : RelayCommand) (now : Option Nat) (s : Relay) : List RelayEvent × Relay :=
  match now with
  | none => ([], s.fail "second time provided was later than self")
  | some now =>
    if command.deadline ≤ now then ([.replied command command.expired], s)
    else if s.pairedOwner.any (· ≠ command.owner) then ([.replied command command.owned], s)
    else ([.wrote command now],
      { s with pairedOwner := some (s.pairedOwner.getD command.owner), phase := .writing command })

def takeCommand (window now : Option Nat) (s : Relay) : List RelayEvent × Relay :=
  match s.commands with
  | [] => ([], s)
  | command :: commands =>
    if command.needsForeground && window ≠ some s.browserWindow then
      ([.replied command command.notForeground], { s with commands := commands })
    else dispatch command now { s with commands := commands }

/-- The end of `write_native_message`. -/
def writeEnds (command : RelayCommand) (outcome : WriteOutcome) (s : Relay) : List RelayEvent × Relay :=
  match outcome with
  | .written => ([], { s with phase := .awaiting command })
  | .timedOut => ([.timedOut command], s.fail "native write timeout; outcome unknown; do not retry")
  | .failed error => ([], s.fail error)

/-- `responses.recv()` of `dispatch`. -/
def response (command : RelayCommand) (s : Relay) : List RelayEvent × Relay :=
  match s.recvNative with
  | none => ([], s)
  | some (none, s) => ([.read none], s.fail "extension disconnected; outcome unknown")
  | some (some message, s) =>
    if (message.get "request_id").same command.requestId then
      ([.read (some message), .replied command message], { s with phase := .selecting })
    else ([.read (some message)], s.fail "native response correlation mismatch; outcome unknown")

def responseTimeout (command : RelayCommand) (s : Relay) : List RelayEvent × Relay :=
  ([.timedOut command], s.fail "extension response timeout; outcome unknown; do not retry")

/-- One step; a step that the phase does not have changes nothing. -/
def step (s : Relay) (input : RelayInput) : List RelayEvent × Relay :=
  match input, s.phase with
  | .readerReads message, _ => ([], s.readerReads message)
  | .workerSends owner deadline body, _ => ([], s.workerSends owner deadline body)
  | .discover endpoints, .selecting => ([], s.discover endpoints)
  | .workerExits, .selecting =>
    ([], if s.selected then s.fail "paired task disconnected; pair the tab again" else s)
  | .takeNative, .selecting => s.takeNative
  | .takeCommand window now, .selecting => s.takeCommand window now
  | .writeEnds outcome, .writing command => s.writeEnds command outcome
  | .response, .awaiting command => s.response command
  | .responseTimeout, .awaiting command => s.responseTimeout command
  | _, _ => ([], s)

end Relay

def relayMachine : Machine Relay RelayInput (List RelayEvent) where
  step := Relay.step

/-- What the relay does in a run, in order. -/
def relayEvents (calls : List (Call Relay RelayInput (List RelayEvent))) : List RelayEvent := calls.flatMap (·.output)

end DccCua
