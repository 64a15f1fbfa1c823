import DccCua.Lib.Checks
import DccCua.Lib.Runs
import Std.Data.TreeMap.Lemmas

/-! # The sessions of a connection

The window, desktop and launch sessions of a Host connection, and the requests that open, promote and close
them. A request is handled to its end before the next one begins. What the driver and the security services
answer on the way is part of the request. -/

namespace DccCua

open Checks Runs

def maxSessionsPerConnection : Nat := 16

structure WindowSession where
  runtimeSessionId : String
  taskGrantId : String
  processId : Nat
  windowHandle : Nat
  deriving DecidableEq, Repr

structure DesktopSession where
  runtimeSessionId : String
  taskGrantId : String
  deriving DecidableEq, Repr

structure LaunchSession where
  runtimeSessionId : String
  taskGrantId : String
  applicationLabel : String
  processId : Nat
  deriving DecidableEq, Repr

structure ConnectionSessions where
  windows : Std.TreeMap String WindowSession
  desktops : Std.TreeMap String DesktopSession
  launches : Std.TreeMap String LaunchSession

/-- What the requests here read of a grant. -/
structure TaskGrant where
  taskGrantId : String
  applicationLabel : String
  processId : Option Nat
  windowHandle : Option Nat
  windowTitle : Option String
  ownedBrowserLaunch : Bool
  allowAppLaunch : Bool
  deriving DecidableEq, Repr

/-- A window that the driver lists. -/
structure WindowTarget where
  pid : Nat
  windowId : Nat
  title : String
  deriving DecidableEq, Repr

/-- `ComputerUseTargetScope::matches` for the scope of a grant. -/
def scopeMatches (grant : TaskGrant) (target : WindowTarget) : Bool :=
  grant.processId.all (· = target.pid) && grant.windowHandle.all (· = target.windowId) &&
    grant.windowTitle.all (· = target.title)

/-- `resolve_target`: the one listed window that is in the scope of the grant. -/
def resolveTarget (grant : TaskGrant) (rows : List WindowTarget) : Except String WindowTarget :=
  match rows.filter (scopeMatches grant) with
  | [target] => .ok target
  | _ => .error "expected exactly one scoped window"

/-- What a request that opens a window session is answered: the checks of the grant, of the idle timeout and of the
    authorization before the start; the windows that the driver lists and whether the session starts on one of them; the
    window of an owned browser; and what comes after the start up to the recording. -/
structure OpenAnswers where
  grantChecks : Except String Unit
  preauthorized : Except String Unit
  rows : List WindowTarget
  started : Except String Unit
  ownedBrowser : Except String WindowTarget
  finished : Except String Unit

inductive SessionRequest where
  | openDesktopSession (sessionId : String) (grant : TaskGrant) (checks started : Except String Unit)
      (runtimeSessionId : String)
  | stopDesktopSession (sessionId : String)
  | launchApp (sessionId : String) (blank : Bool) (grant : TaskGrant) (checks : Except String Unit)
      (runtimeSessionId : String) (launched : Except String (Option Nat))
  | openSession (sessionId : String) (grant : TaskGrant) (runtimeSessionId : String) (answers : OpenAnswers)
  | terminateApp (sessionId : String) (terminated : Except String Unit)
  | stopSession (sessionId : String)
  | interruptAll
  | reapIdle (expired : String → Bool)

namespace ConnectionSessions

def start : ConnectionSessions := ⟨∅, ∅, ∅⟩

/-- The number that `ensure_connection_session_capacity` is called with. -/
def total (s : ConnectionSessions) : Nat := s.windows.size + s.desktops.size + s.launches.size

def ensureConnectionSessionCapacity (s : ConnectionSessions) : Except String Unit :=
  require (s.total < maxSessionsPerConnection) "connection session limit reached (maximum 16)"

def openDesktopSession (s : ConnectionSessions) (sessionId : String) (grant : TaskGrant) (checks started : Except String Unit)
    (runtimeSessionId : String) : Except String ConnectionSessions := do
  require (!s.desktops.contains sessionId) "desktop session already exists"
  s.ensureConnectionSessionCapacity
  checks
  started
  .ok { s with desktops := s.desktops.insert sessionId ⟨runtimeSessionId, grant.taskGrantId⟩ }

/-- A launch is kept when the driver names its process. -/
def launchApp (s : ConnectionSessions) (sessionId : String) (blank : Bool) (grant : TaskGrant) (checks : Except String Unit)
    (runtimeSessionId : String) (launched : Except String (Option Nat)) : Except String ConnectionSessions := do
  require (!blank) "launch session_id must not be empty"
  require (!(s.windows.contains sessionId || s.launches.contains sessionId)) "session already exists"
  s.ensureConnectionSessionCapacity
  checks
  require grant.allowAppLaunch "application launch is not granted"
  let process ← launched
  match process with
  | some processId =>
    .ok { s with launches :=
      s.launches.insert sessionId ⟨runtimeSessionId, grant.taskGrantId, grant.applicationLabel, processId⟩ }
  | none => .ok s

/-- `bind_launched_process`: the grant with the launched process. -/
def bindLaunchedProcess (launched : LaunchSession) (grant : TaskGrant) : Except String TaskGrant := do
  require (grant.taskGrantId = launched.taskGrantId && grant.applicationLabel = launched.applicationLabel)
    "launch and window session grants do not match"
  require (grant.processId.all (· = launched.processId)) "window session does not target the launched process"
  .ok { grant with processId := some launched.processId }

/-- `start_granted_window_session`, with the window of the session. -/
def startGrantedWindowSession (grant : TaskGrant) (launched : Option LaunchSession) (answers : OpenAnswers) :
    Except String WindowTarget :=
  if grant.ownedBrowserLaunch then
    if launched.isSome then .error "owned browser tasks cannot reuse an application launch session"
    else answers.ownedBrowser
  else do
    let target ← resolveTarget grant answers.rows
    answers.started
    .ok target

def openSession (s : ConnectionSessions) (sessionId : String) (grant : TaskGrant) (runtimeSessionId : String)
    (answers : OpenAnswers) : Except String ConnectionSessions := do
  require (!s.windows.contains sessionId) "session already exists"
  answers.grantChecks
  let launched := s.launches[sessionId]?
  onlyIf launched.isNone s.ensureConnectionSessionCapacity
  let grant ← match launched with
    | some launched => bindLaunchedProcess launched grant
    | none => .ok grant
  answers.preauthorized
  let target ← startGrantedWindowSession grant launched answers
  answers.finished
  .ok { s with
    launches := s.launches.erase sessionId
    windows := s.windows.insert sessionId
      ⟨(launched.map (·.runtimeSessionId)).getD runtimeSessionId, grant.taskGrantId, target.pid, target.windowId⟩ }

/-- `terminated` is the outcome of the authorization and of the termination. -/
def terminateApp (s : ConnectionSessions) (sessionId : String) (terminated : Except String Unit) :
    Except String ConnectionSessions := do
  require (s.windows.contains sessionId) "session not found"
  terminated
  .ok { s with windows := s.windows.erase sessionId }

def stopSession (s : ConnectionSessions) (sessionId : String) : Except String ConnectionSessions := do
  require (s.windows.contains sessionId) "session not found"
  .ok { s with windows := s.windows.erase sessionId }

def stopDesktopSession (s : ConnectionSessions) (sessionId : String) : Except String ConnectionSessions := do
  require (s.desktops.contains sessionId) "session not found"
  .ok { s with desktops := s.desktops.erase sessionId }

def reapIdleWindowSessions (s : ConnectionSessions) (expired : String → Bool) : ConnectionSessions :=
  { s with windows := s.windows.filter fun sessionId _ => !expired sessionId }

/-- What a request makes of the sessions, or its error. -/
def handle (s : ConnectionSessions) : SessionRequest → Except String ConnectionSessions
  | .openDesktopSession sessionId grant checks started runtimeSessionId =>
    s.openDesktopSession sessionId grant checks started runtimeSessionId
  | .stopDesktopSession sessionId => s.stopDesktopSession sessionId
  | .launchApp sessionId blank grant checks runtimeSessionId launched =>
    s.launchApp sessionId blank grant checks runtimeSessionId launched
  | .openSession sessionId grant runtimeSessionId answers => s.openSession sessionId grant runtimeSessionId answers
  | .terminateApp sessionId terminated => s.terminateApp sessionId terminated
  | .stopSession sessionId => s.stopSession sessionId
  | .interruptAll => .ok start
  | .reapIdle expired => .ok (s.reapIdleWindowSessions expired)

end ConnectionSessions

/-- A refused request leaves the sessions. -/
def sessionMachine : Machine ConnectionSessions SessionRequest (Except String Unit) where
  step s request :=
    match s.handle request with
    | .ok next => (.ok (), next)
    | .error error => (.error error, s)

end DccCua
