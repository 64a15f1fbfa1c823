import DccCua.Lib.Runs
import Mathlib.Logic.Function.Basic

/-! # Hosts at one Unix endpoint

`serve_unix_socket` and `OwnedSocket` of `endpoint.rs`, for any number of Hosts that start at the same path. Each
access to the file system is a step of its own, and the steps of different Hosts may interleave; a Host may be
killed between any two of them. A number stands for one process, which binds the path at most once, so that a
socket file is named by the Host that bound it: as long as its listener lives, the inode of a socket is not given
to another file. A Host that exits drops its `OwnedSocket` before its listener. -/

namespace DccCua

open Runs

/-- What is at the path. -/
inductive EndpointFile where
  | socket (host : Nat)
  /-- A socket that no Host of the run has bound. -/
  | foreign
  | other
  deriving DecidableEq, Repr

def EndpointFile.isSocket : EndpointFile → Bool
  | .other => false
  | _ => true

inductive HostPhase where
  | idle
  /-- There is a socket at the path. -/
  | probing
  /-- The probe has found nobody; `overtaken` says whether a Host has bound the path since, and nothing reads it. -/
  | stale (overtaken : Bool)
  | clear
  | bound
  /-- `OwnedSocket` with the file that was found at the path. -/
  | owned (file : EndpointFile)
  | ready (file : EndpointFile)
  /-- The drop of `OwnedSocket` has found its own file. -/
  | removing (file : EndpointFile)
  | gone
  deriving DecidableEq, Repr

/-- The Host accepts connections. -/
def HostPhase.listening : HostPhase → Bool
  | .bound | .owned _ | .ready _ | .removing _ => true
  | _ => false

def HostPhase.overtake : HostPhase → HostPhase
  | .stale _ => .stale true
  | phase => phase

structure Endpoint where
  file : Option EndpointFile
  hosts : Nat → HostPhase

/-- How `connect` ends where the model does not know. -/
inductive ProbeAnswer where
  | connected
  | refused
  | failed
  deriving DecidableEq, Repr

inductive EndpointAction where
  /-- `path.exists()` and the type of the file. -/
  | test
  | probe (answer : ProbeAnswer)
  | remove
  | bind
  /-- `symlink_metadata` of the bound path. -/
  | stat
  /-- `set_permissions`, after which the Host is ready. -/
  | secure
  /-- The check in the drop of `OwnedSocket`. -/
  | exitCheck
  | exitRemove
  | kill
  deriving DecidableEq, Repr

inductive EndpointOutcome where
  | went
  | refused (message : String)
  | failed
  | signalledReady
  deriving DecidableEq, Repr

namespace Endpoint

def put (host : Nat) (phase : HostPhase) (s : Endpoint) : Endpoint :=
  { s with hosts := Function.update s.hosts host phase }

/-- What `connect` finds at the path. A Host that listens does not refuse, and no Host listens any more where the one
    that bound the socket is gone. -/
def probe (answer : ProbeAnswer) (s : Endpoint) : ProbeAnswer :=
  match s.file with
  | none => .refused
  | some .other => .refused
  | some .foreign => answer
  | some (.socket host) =>
    if (s.hosts host).listening then (if answer = .failed then .failed else .connected) else .refused

/-- One step of a Host; a step that its phase does not have changes nothing. -/
def step (endpoint : String) (host : Nat) (action : EndpointAction) (s : Endpoint) : EndpointOutcome × Endpoint :=
  match s.hosts host, action with
  | .gone, _ => (.went, s)
  | _, .kill => (.failed, s.put host .gone)
  | .idle, .test =>
    match s.file with
    | none => (.went, s.put host .clear)
    | some file =>
      if file.isSocket then (.went, s.put host .probing)
      else (.refused ("endpoint exists and is not a socket: " ++ endpoint), s.put host .gone)
  | .probing, .probe answer =>
    match s.probe answer with
    | .connected => (.refused ("endpoint is already in use: " ++ endpoint), s.put host .gone)
    | .refused => (.went, s.put host (.stale false))
    | .failed => (.failed, s.put host .gone)
  | .stale _, .remove =>
    match s.file with
    | none => (.failed, s.put host .gone)
    | some _ => (.went, { s with file := none }.put host .clear)
  | .clear, .bind =>
    match s.file with
    | some _ => (.failed, s.put host .gone)
    | none =>
      (.went, { file := some (.socket host), hosts := Function.update (fun j => (s.hosts j).overtake) host .bound })
  | .bound, .stat =>
    match s.file with
    | none => (.failed, s.put host .gone)
    | some file => (.went, s.put host (.owned file))
  | .owned file, .secure =>
    match s.file with
    | none => (.failed, s.put host .gone)
    | some _ => (.signalledReady, s.put host (.ready file))
  | .owned file, .exitCheck | .ready file, .exitCheck =>
    if s.file = some file && file.isSocket then (.went, s.put host (.removing file)) else (.went, s.put host .gone)
  | .removing _, .exitRemove => (.went, { s with file := none }.put host .gone)
  | _, _ => (.went, s)

end Endpoint

def endpointMachine (endpoint : String) : Machine Endpoint (Nat × EndpointAction) EndpointOutcome where
  step s input := s.step endpoint input.1 input.2

end DccCua
