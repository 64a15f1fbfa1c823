import DccCua.Cli.Workflow
import DccCua.Host.Broker
import DccCua.Host.WindowSession

/-! # The task server

`mcp_server.rs` of `dcc-cua-cli` with `owned_host.rs`, `workflows.rs` and the task capacity of
`start_contract.rs`: the tasks of one MCP connection, their leases at the broker and the Host connections that
they own. The connection handles one request at a time; while it waits the Hosts of its tasks go on and call the
broker. Between two waits what the environment says (the clocks, the file system, the workflow manager, the
answers of a Host) is one `TaskTurn`. A request that is dropped while it waits is cut there.

The arguments of a request are decoded. The checks that only look at them (`validate_task_start`,
`validate_task_method_params`, the ceilings of one call, `bind_recording_request`) are answers; nothing but their
refusal matters here. So is `derive_workflow_window`, which only looks. -/

namespace DccCua

open Runs Checks Script

def maxPendingTasks : Nat := 64

def taskNotFound : String :=
  "Task not found on this MCP connection. Keep the same mcp-server stdio connection open from start_task through " ++
    "stop_task. Task IDs cannot be resumed on another connection; if the owning connection closed, start a new task " ++
    "and take a fresh observation."

def taskStopped : String :=
  "Task was stopped. Start a new task on this MCP connection and take a fresh observation; stopped task IDs and " ++
    "references cannot be reused."

def taskExpired : String :=
  "Task expired. Call stop_task with this task ID on its owning MCP connection to clean up its session, then start " ++
    "a new task and take a fresh observation. Expired tasks cannot perform observations or actions, and their " ++
    "references cannot be reused."

inductive TaskSurface where
  | window
  | browser
  deriving DecidableEq, Repr

/-! ### Tasks -/

/-- `host_connection_completion`. -/
structure HostCompletion where
  completed : Bool
  success : Bool
  deriving DecidableEq, Repr

structure OwnedHostTask where
  completion : Option HostCompletion
  deriving DecidableEq, Repr

def OwnedHostTask.isPending (host : OwnedHostTask) : Bool := host.completion.isNone

/-- The fields of a cleanup record that are read; `none` is a field that is absent or null. -/
structure TaskCleanup where
  success : Option Bool
  active : Option Bool
  cleanupPending : Bool
  hostConnectionCompletion : Option HostCompletion
  deriving DecidableEq, Repr

/-- The session has ended, with success and nothing left to clean up. -/
def TaskCleanup.clean (cleanup : TaskCleanup) : Bool :=
  cleanup.success == some true && cleanup.active == some false && !cleanup.cleanupPending

/-- `LogicalTaskSession`: its id and the exact window that the Host has bound it to. -/
structure LogicalTaskSession where
  sessionId : String
  processId : Nat
  windowHandle : Nat
  deriving DecidableEq, Repr

/-- What has happened to a task. No function reads it. -/
inductive TaskEvent where
  | issued (authorizationId : String)
  /-- The broker has revoked the lease. -/
  | leaseRevoked (authorizationId : String)
  | openAttempted
  | hostSpawned
  | sessionOpened
  /-- The session was handed to its cleanup. -/
  | stopRequested
  /-- The Host has acknowledged the end of the session, with success and nothing left to clean up. -/
  | stopAcknowledged
  | hostEnded (success : Bool)
  | forwarded (method : String)
  deriving DecidableEq, Repr

structure TaskProposal where
  workflowId : Option String
  userActionRequired : Option String
  surface : TaskSurface
  observationMode : TaskObservationMode
  allowedMethods : List String
  registration : TrustedTaskAuthorizationRegistration
  receipt : Option TrustedTaskAuthorizationReceipt
  session : Option LogicalTaskSession
  sessionOpenAttempted : Bool
  hostTask : Option OwnedHostTask
  revoked : Bool
  cleanup : Option TaskCleanup
  history : List TaskEvent
  deriving DecidableEq, Repr

inductive TaskStatus where
  | ready
  | started
  | initializing
  | needsUserAction
  | expired
  | stopped
  | cleanupFailed
  | cleanupUnknown
  deriving DecidableEq, Repr

def stoppedTaskStatus (cleanup : Option TaskCleanup) : TaskStatus :=
  match cleanup with
  | none => .cleanupUnknown
  | some cleanup =>
    if cleanup.hostConnectionCompletion.any (!·.completed) then .cleanupUnknown
    else if cleanup.hostConnectionCompletion.any (!·.success) then .cleanupFailed
    else if !cleanup.cleanupPending && cleanup.active == some false then
      if cleanup.success == some true then .stopped else .cleanupFailed
    else .cleanupUnknown

/-- `task_cleanup_payload`: the receipt of the session, and flags that also count the Host connection. -/
structure TaskCleanupPayload where
  success : Option Bool
  active : Option Bool
  cleanupPending : Bool
  hostConnectionCompletion : Option HostCompletion
  sessionCleanup : Option TaskCleanup
  deriving DecidableEq, Repr

def taskCleanupPayload (cleanup : TaskCleanup) : TaskCleanupPayload where
  success :=
    if cleanup.hostConnectionCompletion.any fun completion => !completion.completed || !completion.success then some false
    else cleanup.success
  active := cleanup.active
  cleanupPending := cleanup.cleanupPending || cleanup.hostConnectionCompletion.any (!·.completed)
  hostConnectionCompletion := cleanup.hostConnectionCompletion
  sessionCleanup := cleanup.hostConnectionCompletion.map fun _ => { cleanup with hostConnectionCompletion := none }

/-- `proposal_payload`, with what its callers add. -/
structure TaskPayload where
  taskId : String
  status : TaskStatus
  applicationLabel : String
  surface : TaskSurface
  observationMode : TaskObservationMode
  target : TrustedTaskAuthorizationTarget
  allowedMethods : List String
  allowedActions : List TrustedTaskActionScope
  allowedBrowserOrigins : List String
  expiresAtUnixMs : Nat
  recordingOutputDir : Option String
  cleanup : Option TaskCleanupPayload
  userActionReason : Option String
  /-- The report of the workflow, if it has one; `some none` when its cleanup is unconfirmed. -/
  workflow : Option (Option RunReport)
  deriving DecidableEq, Repr

def TaskPayload.ok (payload : TaskPayload) : Bool := !(payload.status = .cleanupFailed || payload.status = .cleanupUnknown)

def proposalPayload (id : String) (proposal : TaskProposal) (status : TaskStatus) : TaskPayload where
  taskId := id
  status := status
  applicationLabel := proposal.registration.applicationLabel
  surface := proposal.surface
  observationMode := proposal.observationMode
  target := proposal.registration.target
  allowedMethods := proposal.allowedMethods
  allowedActions := proposal.registration.allowedActions
  allowedBrowserOrigins := proposal.registration.allowedBrowserOrigins
  expiresAtUnixMs := proposal.registration.expiresAtUnixMs
  recordingOutputDir := proposal.registration.recordingOutputDir
  cleanup := proposal.cleanup.map taskCleanupPayload
  userActionReason := none
  workflow := none

/-- The result of `start_task`. -/
structure StartedTask where
  taskId : String
  processId : Nat
  windowHandle : Nat
  allowNativeCapturePopupKeyboard : Bool
  recordingOutputDir : Option String
  workflow : Option RunReport
  /-- `fresh_observation_required` and `old_observations_revoked`. -/
  rebound : Bool
  deriving DecidableEq, Repr

/-- An error text, with the parts of it that are texts of other errors or reports. -/
inductive TaskError where
  | refused (message : String)
  /-- "too many live tasks". -/
  | capacity
  | broker (error : TrustedTaskAuthorizationBrokerError)
  | startupCleanup (error : TaskError) (cleanup : TaskPayload)
  | startupCleanupFailed (error cleanup : TaskError)
  | processUnauthorized (cleanup : Option TaskPayload)
  | workflowCleanup (error : TaskError) (cleanup : Option RunReport)
  deriving Repr

/-- What `shutdown_tasks` reports of a task. -/
inductive ShutdownFailure where
  | unconfirmed (payload : TaskPayload)
  | failed (taskId : String) (error : TaskError) (cleanup : Option TaskCleanupPayload)
  deriving Repr

/-! ### The environment -/

/-- What a Host asks of the broker. -/
inductive HostCall where
  | authorize (request : TrustedTaskAuthorizationRequest) (now : Nat) (reading : FenceReading)
  | validate (request : TrustedTaskAuthorizationValidationRequest) (reading : FenceReading)
  | validateLease (request : TrustedTaskAuthorizationLeaseValidationRequest) (reading : FenceReading)
  | admitAt (id : String) (reading : FenceReading)

def HostCall.brokerCall : HostCall → BrokerCall
  | .authorize request now reading => .authorize request now reading
  | .validate request reading => .validate request reading
  | .validateLease request reading => .validateLease request reading
  | .admitAt id reading => .admitAt id reading

/-- The fields of a `stop_session` reply that are read; `none` is a field that is absent or of another type. -/
structure StopReply where
  type : Option String
  sessionId : Option String
  success : Option Bool
  active : Option Bool
  cleanupPending : Option Bool
  deriving DecidableEq, Repr

/-- What the environment says until the server waits next. -/
structure TaskTurn where
  /-- The clock of the checks on a task. -/
  unixMs : Nat
  /-- `authorizes_process` for an owned workflow; a process of a workflow is refused to any other task. -/
  processScope : Except String Unit
  /-- `validate_task_start`: the browser origins. -/
  startChecks : Except String (List String)
  /-- `gui_recipe_authorizes`. -/
  recipeScope : Except String Unit
  /-- `WorkflowManager::start`: the id of the run. -/
  workflowStarted : Except String String
  preparedMs : Nat
  capacityMs : Nat
  validateMs : Nat
  revalidateMs : Nat
  /-- The journal permission of an operator who has configured one. -/
  capturePreparation : Except String CapturePreparationAuthorization
  /-- The owned recording directory, created. -/
  recordingDirectory : Except String String
  authorizationDeadline : Except String Nat
  policyExpiresAtUnixMs : Option Nat
  fs : FileSystem
  register : BrokerState.RegisterReadings
  driver : Except String Unit
  /-- `extension_transport::ensure`. -/
  extension : Except String Unit
  hello : Except String Unit
  /-- The window of an opened session. -/
  opened : Except String (Nat × Nat)
  stopped : Except String StopReply
  /-- The Host connection has ended within the timeout, and how. -/
  hostEnded : Option Bool
  methodParams : Except String Unit
  callCeilings : Except String Unit
  recordingRequest : Except String Unit
  response : Except String Unit
  /-- `derive_workflow_window`. -/
  window : Except String (Nat × Nat)
  processId : Except String Nat
  workflowStatus : Except String RunReport
  workflowCancelled : Except String RunReport

inductive TaskAnswer where
  | host (call : HostCall)
  | turn (t : TaskTurn)

/-! ### Proposals -/

namespace TaskProposal

/-- The status of `task_status`. -/
def status (now : Nat) (proposal : TaskProposal) : TaskStatus :=
  if proposal.userActionRequired.isSome && !proposal.revoked then .needsUserAction
  else if proposal.revoked then stoppedTaskStatus proposal.cleanup
  else if proposal.registration.expiresAtUnixMs ≤ now then .expired
  else if proposal.session.isSome then .started
  else if proposal.hostTask.isSome then .cleanupUnknown
  else if proposal.receipt.isSome then .ready
  else .initializing

/-- A proposal that `ensure_task_capacity` keeps. -/
def retained (now : Nat) (proposal : TaskProposal) : Bool :=
  proposal.session.isSome || proposal.hostTask.any (·.isPending) || now < proposal.registration.expiresAtUnixMs

def note (event : TaskEvent) (proposal : TaskProposal) : TaskProposal :=
  { proposal with history := event :: proposal.history }

def bindWorkflow (workflowId : Option String) (proposal : TaskProposal) : TaskProposal :=
  { proposal with workflowId := workflowId }

def retarget (target : TrustedTaskAuthorizationTarget) (proposal : TaskProposal) : TaskProposal :=
  { proposal with registration := { proposal.registration with target := target } }

/-- The task waits for its user; the broker has revoked its lease. -/
def pause (authorizationId reason : String) (proposal : TaskProposal) : TaskProposal :=
  { proposal.note (.leaseRevoked authorizationId) with userActionRequired := some reason }

def attemptOpen (proposal : TaskProposal) : TaskProposal :=
  { proposal.note .openAttempted with sessionOpenAttempted := true }

/-- `OwnedHostTask::spawn`. -/
def spawnHost (proposal : TaskProposal) : TaskProposal :=
  { proposal.note .hostSpawned with hostTask := some ⟨none⟩ }

def openSession (session : LogicalTaskSession) (proposal : TaskProposal) : TaskProposal :=
  { proposal.note .sessionOpened with session := some session }

/-- `session.take()`, before the session is stopped. -/
def takeSession (proposal : TaskProposal) : TaskProposal :=
  match proposal.session with
  | none => proposal
  | some _ => { proposal.note .stopRequested with session := none }

/-- The broker has revoked the lease of the task. -/
def revoke (authorizationId : String) (proposal : TaskProposal) : TaskProposal :=
  { (proposal.note (.leaseRevoked authorizationId)).takeSession with revoked := true }

/-- The reply of the Host is an authoritative acknowledgement. -/
def acknowledges (sessionId : String) (reply : StopReply) : Bool :=
  reply.type == some "session_stopped" && reply.sessionId == some sessionId && reply.success.isSome &&
    reply.active == some false && reply.cleanupPending == some false

/-- `stop_owned_task_session`, at the reply of the Host. -/
def stopOwnedTaskSession (sessionId : String) : Except String StopReply → TaskCleanup
  | .ok reply => if acknowledges sessionId reply then ⟨reply.success, some false, false, none⟩ else ⟨some false, none, true, none⟩
  | .error _ => ⟨some false, none, true, none⟩

def recordStop (sessionId : String) (reply : Except String StopReply) (proposal : TaskProposal) : TaskProposal :=
  let cleanup := stopOwnedTaskSession sessionId reply
  { (if cleanup.clean then proposal.note .stopAcknowledged else proposal) with cleanup := some cleanup }

/-- The cleanup of a task that has no session. -/
def recordNoSession (proposal : TaskProposal) : TaskProposal :=
  { proposal with cleanup := some (if proposal.sessionOpenAttempted then ⟨some false, none, true, none⟩
      else ⟨some true, some false, false, none⟩) }

/-- The cleanup of a task that has no session, when its lease could not be revoked. -/
def recordAbsent (proposal : TaskProposal) : TaskProposal :=
  { proposal with cleanup := some ⟨none, some false, false, none⟩ }

/-- The cleanup record shows `completion`. -/
def publish (completion : HostCompletion) (proposal : TaskProposal) : TaskProposal :=
  let cleanup := proposal.cleanup.getD ⟨some false, none, true, none⟩
  { proposal with cleanup := some { cleanup with hostConnectionCompletion := some completion } }

/-- Until the Host connection is known to have ended, the record says that it has not. -/
def beginFinish (proposal : TaskProposal) : TaskProposal :=
  match proposal.hostTask with
  | none => proposal
  | some host => proposal.publish (host.completion.getD ⟨false, false⟩)

def completeHost (success : Bool) (proposal : TaskProposal) : TaskProposal :=
  { (proposal.note (.hostEnded success)).publish ⟨true, success⟩ with hostTask := some ⟨some ⟨true, success⟩⟩ }

/-- The new lease of a rebound task; what was left of the old session is reset. -/
def renew (receipt : TrustedTaskAuthorizationReceipt) (proposal : TaskProposal) : TaskProposal :=
  { proposal.note (.issued receipt.authorizationId) with
    receipt := some receipt, revoked := false, cleanup := none, sessionOpenAttempted := false }

end TaskProposal

/-! ### The server -/

structure TaskServer where
  broker : BrokerState
  /-- By id, in some order. -/
  proposals : List (String × TaskProposal)
  /-- The UUIDs drawn for tasks and their grants. -/
  drawn : Nat

abbrev TaskProg (α : Type) := Prog TaskServer TaskAnswer (Except TaskError α)

/-- The decoded arguments of `start_task`. -/
structure PrepareTaskInput where
  applicationLabel : String
  targetProcessId : Option Nat
  targetWindowHandle : Option Nat
  ownedBrowserLaunch : Option (ComputerUseOwnedBrowserFamily × ComputerUseOwnedBrowserProfile)
  surface : TaskSurface
  observationMode : TaskObservationMode
  allowedMethods : List String
  allowedActions : List TrustedTaskActionScope
  allowRecording : Bool
  allowCapturePreparation : Bool
  allowNativeCapturePopupKeyboard : Bool
  allowedBrowserOrigins : List String
  ttlMinutes : Nat
  deriving DecidableEq, Repr

namespace PrepareTaskInput

def target (input : PrepareTaskInput) (origins : List String) : Except String TrustedTaskAuthorizationTarget :=
  match input.targetProcessId, input.targetWindowHandle, input.ownedBrowserLaunch with
  | some processId, some windowHandle, none => .ok (.exactWindow processId windowHandle)
  | none, none, some (browser, profile) =>
    if input.surface ≠ .browser then
      .error "provide either an exact target_process_id/target_window_handle pair or owned_browser_launch"
    else if input.allowedMethods.contains "browser_prepare" then
      .error "owned browser tasks derive their target internally and cannot grant browser_prepare"
    else if origins.isEmpty then
      .error "owned browser tasks require at least one exact authorized browser origin"
    else .ok (.ownedBrowser browser profile)
  | _, _, _ => .error "provide either an exact target_process_id/target_window_handle pair or owned_browser_launch"

/-- `capture_popup::add_ceiling`. -/
def actions (input : PrepareTaskInput) : List TrustedTaskActionScope :=
  if input.allowNativeCapturePopupKeyboard then
    input.allowedActions ++ [⟨"native_capture_popup_keyboard", "window_state", false, "window_state", none⟩]
  else input.allowedActions

/-- The checks of `prepare_scoped_task` up to the task capacity: the origins and the target. -/
def scope (input : PrepareTaskInput) (t : TaskTurn) : Except String (List String × TrustedTaskAuthorizationTarget) := do
  if input.targetProcessId.isSome then t.processScope
  let origins ← t.startChecks
  let target ← input.target origins
  .ok (origins, target)

/-- An owned workflow names no target, and asks for none of the secondary permissions. -/
def isWorkflowRequest (input : PrepareTaskInput) : Bool :=
  input.surface = .window && input.targetProcessId.isNone && input.targetWindowHandle.isNone &&
    input.ownedBrowserLaunch.isNone && input.allowedBrowserOrigins.isEmpty && !input.allowRecording &&
    !input.allowCapturePreparation && !input.allowNativeCapturePopupKeyboard && 1 ≤ input.ttlMinutes &&
    input.ttlMinutes ≤ 24 * 60

end PrepareTaskInput

namespace TaskServer

/-- `proposals.get`. -/
def task? (server : TaskServer) (id : String) : Option TaskProposal := server.proposals.lookup id

def ids (server : TaskServer) : List String := server.proposals.map (·.1)

def modifyTask (id : String) (f : TaskProposal → TaskProposal) (server : TaskServer) : TaskServer :=
  { server with proposals := server.proposals.map fun entry => if entry.1 = id then (entry.1, f entry.2) else entry }

/-- `proposals.insert`. -/
def insertTask (id : String) (proposal : TaskProposal) (server : TaskServer) : TaskServer :=
  { server with proposals := (id, proposal) :: server.proposals.filter (·.1 ≠ id) }

variable (env : Env) (uuid newUuid : Nat → String)

def hostCall (call : HostCall) (server : TaskServer) : TaskServer :=
  { server with broker := ((brokerMachine env uuid).step server.broker call.brokerCall).2 }

/-- The server waits; meanwhile the Hosts of its tasks call the broker. -/
def turn : Prog TaskServer TaskAnswer TaskTurn := Prog.await fun
  | .host call, server => (none, server.hostCall env uuid call)
  | .turn t, server => (some t, server)

/-- A change of one task. -/
def onTask (id : String) (f : TaskProposal → TaskProposal) : Prog TaskServer TaskAnswer Unit :=
  Prog.update fun server => ((), server.modifyTask id f)

def retainTasks (now : Nat) (server : TaskServer) : TaskServer :=
  { server with proposals := server.proposals.filter (·.2.retained now) }

def ensureTaskCapacity (now : Nat) (server : TaskServer) : Except TaskError Unit × TaskServer :=
  let server := server.retainTasks now
  (if maxPendingTasks ≤ server.proposals.length then .error .capacity else .ok (), server)

/-! ### Preparation -/

/-- The expiry of a new task; an owned workflow's policy may end before. -/
def taskExpiry (input : PrepareTaskInput) (ownedWorkflow : Bool) (t : TaskTurn) : Except TaskError Nat :=
  let expiresAtUnixMs := min (t.preparedMs + input.ttlMinutes * 60000) (2 ^ 64 - 1)
  if ownedWorkflow then match t.policyExpiresAtUnixMs with
    | none => .error (.refused "workflow policy is unavailable")
    | some expiry => .ok (min expiresAtUnixMs expiry)
  else .ok expiresAtUnixMs

/-- The owned recording directory. -/
def withRecording (input : PrepareTaskInput) (registration : TrustedTaskAuthorizationRegistration) (t : TaskTurn) :
    Except TaskError TrustedTaskAuthorizationRegistration :=
  if input.allowRecording then do
    let directory ← mapError .refused t.recordingDirectory
    let registration := { registration with recordingOutputDir := some directory }
    mapError .broker (Broker.validateRegistration env t.fs t.revalidateMs registration)
    .ok registration
  else .ok registration

/-- The registration of `prepare_scoped_task` after the task capacity, with the deadline of an owned workflow. -/
def newRegistration (input : PrepareTaskInput) (ownedWorkflow : Bool) (origins : List String)
    (target : TrustedTaskAuthorizationTarget) (grantId : String) (t : TaskTurn) :
    Except TaskError (TrustedTaskAuthorizationRegistration × Option Nat) := do
  let capturePreparation ← mapError .refused
    (if input.allowCapturePreparation then t.capturePreparation.map some else .ok none)
  let deadline ← mapError .refused (if ownedWorkflow then t.authorizationDeadline.map some else .ok none)
  let expiresAtUnixMs ← taskExpiry input ownedWorkflow t
  let registration : TrustedTaskAuthorizationRegistration :=
    { connectionId := none
      taskId := none
      taskGrantId := grantId
      applicationLabel := input.applicationLabel
      target := target
      allowedHostMethods := input.allowedMethods
      allowedActions := input.actions
      allowedBrowserOrigins := origins
      browserScope := none
      recordingOutputDir := none
      capturePreparation := capturePreparation
      expiresAtUnixMs := expiresAtUnixMs }
  mapError .broker (Broker.validateRegistration env t.fs t.validateMs registration)
  let registration ← withRecording env input registration t
  .ok (registration, deadline)

def newProposal (input : PrepareTaskInput) (registration : TrustedTaskAuthorizationRegistration)
    (receipt : TrustedTaskAuthorizationReceipt) : TaskProposal where
  workflowId := none
  userActionRequired := none
  surface := input.surface
  observationMode := input.observationMode
  allowedMethods := input.allowedMethods
  registration := registration
  receipt := some receipt
  session := none
  sessionOpenAttempted := false
  hostTask := none
  revoked := false
  cleanup := none
  history := [.issued receipt.authorizationId]

/-- `prepare_scoped_task` from the task capacity on: the id of the new task. -/
def admitTask (input : PrepareTaskInput) (ownedWorkflow : Bool) (origins : List String)
    (target : TrustedTaskAuthorizationTarget) (t : TaskTurn) (server : TaskServer) :
    Except TaskError String × TaskServer :=
  let (capacity, server) := server.ensureTaskCapacity t.capacityMs
  match capacity with
  | .error e => (.error e, server)
  | .ok () =>
    let id := "task-" ++ newUuid server.drawn
    let grantId := "task-grant-" ++ newUuid (server.drawn + 1)
    let server := { server with drawn := server.drawn + 2 }
    match newRegistration env input ownedWorkflow origins target grantId t with
    | .error e => (.error e, server)
    | .ok (registration, deadline) =>
      let (registered, broker) := server.broker.register env uuid t.fs registration deadline t.register
      let server := { server with broker := broker }
      match registered with
      | .error e => (.error (.broker e), server)
      | .ok receipt => (.ok id, server.insertTask id (newProposal input registration receipt))

def prepareScopedTask (input : PrepareTaskInput) (ownedWorkflow : Bool) (t : TaskTurn) (server : TaskServer) :
    Except TaskError String × TaskServer :=
  match input.scope t with
  | .error message => (.error (.refused message), server)
  | .ok (origins, target) => server.admitTask env uuid newUuid input ownedWorkflow origins target t

/-! ### Stopping -/

/-- `finish_owned_host_task`, after the cleanup was recorded: there is no wait between the two. A timeout leaves the
    Host connection to a later call. -/
def finishOwnedHostTask (id : String) (record : TaskProposal → TaskProposal) : Prog TaskServer TaskAnswer Unit :=
  (onTask id fun proposal => (record proposal).beginFinish).andThen fun _ =>
  (Prog.read fun server => ((server.task? id).bind (·.hostTask)).any (·.isPending)).andThen fun pending =>
    if pending then (turn env uuid).andThen fun t => match t.hostEnded with
      | none => Prog.ret ()
      | some success => onTask id (TaskProposal.completeHost success)
    else Prog.ret ()

/-- The lease of the task is revoked at the broker, and its session taken. -/
def revokeLease (id : String) (proposal : TaskProposal) (server : TaskServer) : Except TaskError Unit × TaskServer :=
  match proposal.receipt with
  | none => (.error (.refused "task runtime lease was not issued"), server)
  | some receipt => match server.broker.revoke receipt.authorizationId with
    | (.error e, broker) => (.error (.broker e), { server with broker := broker })
    | (.ok (), broker) => (.ok (), ({ server with broker := broker } : TaskServer).modifyTask id (TaskProposal.revoke receipt.authorizationId))

/-- The session that was taken is stopped: how its cleanup is recorded. -/
def stopSession (session : Option LogicalTaskSession) : Prog TaskServer TaskAnswer (TaskProposal → TaskProposal) :=
  match session with
  | none => Prog.ret TaskProposal.recordNoSession
  | some session => (turn env uuid).andThen fun t => Prog.ret (TaskProposal.recordStop session.sessionId t.stopped)

def stoppedPayload (id : String) (workflow : Option (Option RunReport)) (server : TaskServer) :
    Except TaskError TaskPayload :=
  match server.task? id with
  | none => .error (.refused taskNotFound)
  | some proposal =>
    .ok { proposalPayload id proposal (stoppedTaskStatus proposal.cleanup) with workflow := workflow }

def revokeTask (id : String) (t : TaskTurn) : TaskProg TaskPayload :=
  (Prog.read fun server => server.task? id).andThen fun
    | none => Prog.ret (.error (.refused taskNotFound))
    | some proposal =>
      let workflow := proposal.workflowId.map fun _ => t.workflowCancelled.toOption
      if proposal.revoked then
        (finishOwnedHostTask env uuid id fun proposal => proposal).andThen fun _ => Prog.read (stoppedPayload id workflow)
      else
        (Prog.update (revokeLease id proposal)).tryThen fun _ => (stopSession env uuid proposal.session).andThen fun record =>
        (finishOwnedHostTask env uuid id record).andThen fun _ => Prog.read (stoppedPayload id workflow)

/-- One task of `shutdown_tasks`. -/
def shutdownTask (id : String) (t : TaskTurn) : Prog TaskServer TaskAnswer (Option ShutdownFailure) :=
  (revokeTask env uuid id t).andThen fun
    | .ok payload => Prog.ret (if payload.status = .stopped then none else some (.unconfirmed payload))
    | .error e => (Prog.read fun server => server.task? id).andThen fun
      | none => Prog.ret (some (.failed id e (some (taskCleanupPayload ⟨none, some false, false, none⟩))))
      | some proposal =>
        -- Even a failure of the lease service does not drop the session.
        (onTask id TaskProposal.takeSession).andThen fun _ =>
        (match proposal.session with
          | none => Prog.ret TaskProposal.recordAbsent
          | some _ => stopSession env uuid proposal.session).andThen fun record =>
        (finishOwnedHostTask env uuid id record).andThen fun _ =>
        Prog.read fun server =>
          some (.failed id e ((server.task? id).bind fun proposal => proposal.cleanup.map taskCleanupPayload))

def shutdownEach (t : TaskTurn) : List String → Prog TaskServer TaskAnswer (List ShutdownFailure)
  | [] => Prog.ret []
  | id :: ids => (shutdownTask env uuid id t).andThen fun failure => (shutdownEach t ids).andThen fun failures =>
    Prog.ret (failure.toList ++ failures)

/-- `shutdown_tasks`, once the transport has ended. -/
def shutdownTasks (t : TaskTurn) : Prog TaskServer TaskAnswer (List ShutdownFailure) :=
  (Prog.read ids).andThen (shutdownEach env uuid t)

/-! ### Starting -/

/-- The checks of `start_task`: the proposal. -/
def startChecks (id : String) (t : TaskTurn) (server : TaskServer) : Except TaskError TaskProposal :=
  match server.task? id with
  | none => .error (.refused taskNotFound)
  | some proposal => do
    require (!proposal.revoked) (.refused taskStopped)
    require proposal.userActionRequired.isNone
      (.refused "task requires user action; stop it and obtain a fresh Agent Host task authorization")
    require (t.unixMs < proposal.registration.expiresAtUnixMs) (.refused taskExpired)
    require proposal.receipt.isSome (.refused "task runtime lease was not issued")
    require (proposal.session.isSome || proposal.hostTask.isNone)
      (.refused "previous Host startup did not finish; call stop_task, then start a new task")
    .ok proposal

/-- `open_task_session`. The Host task is retained before the Host is asked for anything. -/
def openTaskSession (id : String) (t : TaskTurn) : TaskProg Unit :=
  (onTask id TaskProposal.attemptOpen).andThen fun _ =>
  (Prog.ret (mapError .refused t.driver)).tryThen fun _ => (turn env uuid).andThen fun t =>
  (Prog.ret (mapError .refused t.extension)).tryThen fun _ =>
  (onTask id TaskProposal.spawnHost).andThen fun _ => (turn env uuid).andThen fun t =>
  (Prog.ret (mapError .refused t.hello)).tryThen fun _ => (turn env uuid).andThen fun t =>
  (Prog.ret (mapError .refused t.opened)).tryThen fun window =>
  (onTask id (TaskProposal.openSession ⟨"mcp-" ++ id, window.1, window.2⟩)).andThen fun _ => Prog.ret (.ok ())

def startedTask (id : String) (server : TaskServer) : Except TaskError StartedTask :=
  match server.task? id with
  | none => .error (.refused taskNotFound)
  | some proposal => match proposal.session with
    -- `expect("task session was initialized")`.
    | none => .error (.refused "task session was initialized")
    | some session => .ok
      { taskId := id
        processId := session.processId
        windowHandle := session.windowHandle
        allowNativeCapturePopupKeyboard := proposal.registration.allowedActions.any (·.isNativeCapturePopupKeyboard)
        recordingOutputDir := proposal.registration.recordingOutputDir
        workflow := none
        rebound := false }

def startTask (id : String) (t : TaskTurn) : TaskProg StartedTask :=
  (Prog.read (startChecks id t)).tryThen fun proposal =>
  (if proposal.session.isSome then Prog.ret (.ok ()) else openTaskSession env uuid id t).tryThen fun _ =>
  Prog.read (startedTask id)

def startExactTask (input : PrepareTaskInput) (t : TaskTurn) : TaskProg StartedTask :=
  (Prog.update (prepareScopedTask env uuid newUuid input false t)).tryThen fun id =>
  (startTask env uuid id t).andThen fun
    | .ok started => Prog.ret (.ok started)
    | .error e => (revokeTask env uuid id t).andThen fun
      | .ok cleanup => Prog.ret (.error (if cleanup.status = .stopped then e else .startupCleanup e cleanup))
      | .error cleanup => Prog.ret (.error (.startupCleanupFailed e cleanup))

/-- The checks of `start_workflow_task` before the capacity. -/
def workflowChecks (input : PrepareTaskInput) (t : TaskTurn) : Except TaskError Unit := do
  require input.isWorkflowRequest (.refused ("owned workflow requires the window surface without caller targets, " ++
    "browser, recording or secondary capture permissions"))
  let _ ← mapError .refused t.startChecks
  .ok ()

/-- `start_workflow_task` once its process has been launched, up to the status of the run. -/
def startOwnedWindow (input : PrepareTaskInput) (workflowId : String) (t : TaskTurn) : TaskProg StartedTask :=
  (Prog.ret (mapError .refused t.window)).tryThen fun window =>
  (Prog.update (prepareScopedTask env uuid newUuid
    { input with targetProcessId := some window.1, targetWindowHandle := some window.2 } true t)).tryThen fun id =>
  (onTask id (TaskProposal.bindWorkflow (some workflowId))).andThen fun _ =>
  (startTask env uuid id t).andThen fun
    | .error e => (revokeTask env uuid id t).andThen fun _ => Prog.ret (.error e)
    | .ok started => Prog.ret (mapError .refused
        (t.workflowStatus.map fun report => { started with workflow := some report }))

def startWorkflowTask (input : PrepareTaskInput) (t : TaskTurn) : TaskProg StartedTask :=
  (Prog.ret (workflowChecks input t)).tryThen fun _ => (Prog.update (ensureTaskCapacity t.capacityMs)).tryThen fun _ =>
  (Prog.ret (mapError .refused t.recipeScope)).tryThen fun _ =>
  (Prog.ret (mapError .refused t.workflowStarted)).tryThen fun workflowId => (turn env uuid).andThen fun t =>
  (startOwnedWindow env uuid newUuid input workflowId t).andThen fun
    | .ok started => Prog.ret (.ok started)
    | .error e => Prog.ret (.error (.workflowCleanup e t.workflowCancelled.toOption))

/-! ### Calls -/

def taskStatus (id : String) (t : TaskTurn) (server : TaskServer) : Except TaskError TaskPayload :=
  match server.task? id with
  | none => .error (.refused taskNotFound)
  | some proposal =>
    let payload := { proposalPayload id proposal (proposal.status t.unixMs) with
      userActionReason := proposal.userActionRequired }
    match proposal.workflowId with
    | none => .ok payload
    | some _ => mapError .refused (t.workflowStatus.map fun report => { payload with workflow := some (some report) })

def userActionReasons : List String :=
  ["two_factor", "captcha", "new_legal_terms", "system_permission", "credential_unavailable"]

/-- The checks of `require_user_action`: the proposal. -/
def userActionChecks (id reason : String) (t : TaskTurn) (server : TaskServer) : Except TaskError TaskProposal := do
  require (userActionReasons.contains reason) (.refused "unknown human boundary reason or fields")
  match server.task? id with
  | none => .error (.refused "task not found on this connection")
  | some proposal =>
    require (!(proposal.revoked || proposal.registration.expiresAtUnixMs ≤ t.unixMs)) (.refused "task is stopped or expired")
    .ok proposal

def requireUserAction (id reason : String) (t : TaskTurn) (server : TaskServer) : Except TaskError TaskPayload × TaskServer :=
  match userActionChecks id reason t server with
  | .error e => (.error e, server)
  | .ok proposal => match proposal.receipt with
    | none => (.error (.refused "task runtime lease was not issued"), server)
    | some receipt => match server.broker.revoke receipt.authorizationId with
      | (.error _, broker) => (.error (.refused "task pause revocation failed"), { server with broker := broker })
      | (.ok (), broker) =>
        (.ok { proposalPayload id proposal .needsUserAction with userActionReason := some reason },
          ({ server with broker := broker } : TaskServer).modifyTask id (TaskProposal.pause receipt.authorizationId reason))

/-- `validate_workflow_process`. -/
def validateWorkflowProcess (id : String) (t : TaskTurn) : TaskProg Unit :=
  (Prog.read fun server => server.task? id).andThen fun
    | none => Prog.ret (.ok ())
    | some proposal => match proposal.workflowId, proposal.registration.target with
      | none, _ => Prog.ret (.ok ())
      | some _, .ownedBrowser _ _ => Prog.ret (.error (.refused "owned workflow lost its exact process binding"))
      | some _, .exactWindow expected _ =>
        if t.processId.toOption = some expected then Prog.ret (.ok ())
        else (revokeTask env uuid id t).andThen fun cleanup => Prog.ret (.error (.processUnauthorized cleanup.toOption))

/-- The checks of `task_call` on the task that it names. -/
def callChecks (id method : String) (t : TaskTurn) (server : TaskServer) : Except TaskError Unit :=
  match server.task? id with
  | none => .error (.refused taskNotFound)
  | some proposal => do
    require (!proposal.revoked) (.refused taskStopped)
    require proposal.userActionRequired.isNone
      (.refused "task requires user action; no automatic retry is authorized")
    require (t.unixMs < proposal.registration.expiresAtUnixMs) (.refused taskExpired)
    require proposal.receipt.isSome (.refused "task runtime lease was not issued")
    require (proposal.allowedMethods.contains method)
      (.refused ("Host method " ++ method.quote ++ " is outside the configured task method scope"))
    mapError .refused t.callCeilings
    require proposal.session.isSome
      (.refused "call start_task and report provider/runtime/PID/HWND before the first observation or input")
    if method = "recording_start" then mapError .refused t.recordingRequest else .ok ()

/-- A call that the Host answers. -/
def taskCall (id method : String) (t : TaskTurn) : TaskProg Unit :=
  (Prog.ret (mapError .refused t.methodParams)).tryThen fun _ => (validateWorkflowProcess env uuid id t).tryThen fun _ =>
  (Prog.read (callChecks id method t)).tryThen fun _ =>
  (onTask id (TaskProposal.note (.forwarded method))).andThen fun _ => (turn env uuid).andThen fun t =>
  Prog.ret (mapError .refused t.response)

/-- The checks of `workflow_call`: the proposal and its workflow. -/
def workflowCallChecks (id : String) (t : TaskTurn) (server : TaskServer) : Except TaskError TaskProposal :=
  match server.task? id with
  | none => .error (.refused "workflow task not found on this connection")
  | some proposal => do
    require (!(proposal.revoked || proposal.userActionRequired.isSome ||
        proposal.registration.expiresAtUnixMs ≤ t.unixMs)) (.refused "workflow task is stopped or expired")
    require proposal.workflowId.isSome (.refused "task does not own a workflow")
    .ok proposal

inductive WorkflowResult where
  | report (report : RunReport)
  | unchanged (payload : TaskPayload)
  | rebound (started : StartedTask)
  deriving Repr

/-- The new lease of `workflow_rebind`. The target is changed first. -/
def rebindLease (id : String) (target : TrustedTaskAuthorizationTarget) (t : TaskTurn) (server : TaskServer) :
    Except TaskError Unit × TaskServer :=
  let scope : Except String Nat := do
    t.processScope
    t.authorizationDeadline
  match scope with
  | .error message => (.error (.refused message), server)
  | .ok deadline =>
    let server := server.modifyTask id (TaskProposal.retarget target)
    match server.task? id with
    | none => (.error (.refused "workflow task not found"), server)
    | some proposal =>
      let (registered, broker) := server.broker.register env uuid t.fs proposal.registration (some deadline) t.register
      let server := { server with broker := broker }
      match registered with
      | .error _ => (.error (.refused "workflow target lease could not be issued"), server)
      | .ok receipt => (.ok (), server.modifyTask id (TaskProposal.renew receipt))

/-- The lease of the old window is closed. Meanwhile the task has no workflow, so that stopping it cancels none. -/
def leaveWindow (id : String) (workflowId : Option String) (t : TaskTurn) : TaskProg Unit :=
  (onTask id (TaskProposal.bindWorkflow none)).andThen fun _ => (revokeTask env uuid id t).andThen fun stopped =>
  (onTask id (TaskProposal.bindWorkflow workflowId)).andThen fun _ => Prog.ret (match stopped with
    | .error e => .error e
    | .ok payload =>
      if payload.status = .stopped then .ok ()
      else .error (.refused "previous workflow window cleanup is unconfirmed"))

/-- `workflow_rebind`, once the window is derived. -/
def rebindWindow (id : String) (proposal : TaskProposal) (target : TrustedTaskAuthorizationTarget) (t : TaskTurn) :
    TaskProg WorkflowResult :=
  if proposal.registration.target = target then
    Prog.ret (.ok (.unchanged (proposalPayload id proposal .started)))
  else
    (leaveWindow env uuid id proposal.workflowId t).tryThen fun _ => (turn env uuid).andThen fun t =>
    (Prog.update (rebindLease env uuid id target t)).tryThen fun _ => (startTask env uuid id t).tryThen fun started =>
    Prog.ret (.ok (.rebound { started with rebound := true }))

def workflowCall (id method : String) (t : TaskTurn) : TaskProg WorkflowResult :=
  (Prog.read (workflowCallChecks id t)).tryThen fun _ =>
    if method = "workflow_status" then Prog.ret (mapError .refused (t.workflowStatus.map .report))
    else if method = "workflow_cancel" then
      (Prog.ret (mapError .refused t.workflowCancelled)).tryThen fun report =>
      (revokeTask env uuid id t).tryThen fun _ => Prog.ret (.ok (.report report))
    else if method = "workflow_rebind" then
      (turn env uuid).andThen fun t => (Prog.ret (mapError .refused t.window)).tryThen fun window =>
      (Prog.read fun server => match server.task? id with
        | none => .error (.refused "workflow task not found")
        | some proposal => .ok proposal).tryThen fun proposal =>
      rebindWindow env uuid id proposal (.exactWindow window.1 window.2) t
    else Prog.ret (.error (.refused "unknown owned workflow lifecycle method"))

end TaskServer

/-! ### Requests -/

inductive TaskRequest where
  | startTask (input : PrepareTaskInput)
  | startWorkflowTask (input : PrepareTaskInput)
  | stopTask (id : String)
  | taskStatus (id : String)
  | requireUserAction (id reason : String)
  | workflowCall (id method : String)
  | taskCall (id method : String)
  deriving DecidableEq, Repr

inductive TaskOutput where
  | started (started : StartedTask)
  | payload (payload : TaskPayload)
  | workflow (result : TaskServer.WorkflowResult)
  | answered
  deriving Repr

/-- A request, with what the environment says when it is taken up and what it says meanwhile. -/
structure TaskCall where
  request : TaskRequest
  first : TaskTurn
  script : List TaskAnswer

inductive TaskInput where
  /-- Between two requests. -/
  | host (call : HostCall)
  | call (call : TaskCall)

namespace TaskServer

/-- An output in the place of a value. -/
def output {α : Type} (f : α → TaskOutput) (p : TaskProg α) : TaskProg TaskOutput :=
  p.tryThen fun a => Prog.ret (.ok (f a))

def serve (env : Env) (uuid newUuid : Nat → String) (t : TaskTurn) : TaskRequest → TaskProg TaskOutput
  | .startTask input => output .started (startExactTask env uuid newUuid input t)
  | .startWorkflowTask input => output .started (startWorkflowTask env uuid newUuid input t)
  | .stopTask id => output .payload (revokeTask env uuid id t)
  | .taskStatus id => output .payload (Prog.read (taskStatus id t))
  | .requireUserAction id reason => output .payload (Prog.update (requireUserAction id reason t))
  | .workflowCall id method => output .workflow (workflowCall env uuid id method t)
  | .taskCall id method => output (fun _ => .answered) (taskCall env uuid id method t)

end TaskServer

/-- The task server of one connection; a request that has not been answered has no output. -/
def taskServer (env : Env) (uuid newUuid : Nat → String) :
    Machine TaskServer TaskInput (Option (Except TaskError TaskOutput)) where
  step server input := match input with
    | .host call => (none, server.hostCall env uuid call)
    | .call call => match TaskServer.serve env uuid newUuid call.first call.request server call.script with
      | .done result server _ => (some result, server)
      | .cut server => (none, server)

end DccCua
