import DccCua.Lib.Runs
import DccCua.Lib.Checks
import DccCua.Host.TaskAuthorization
import Std.Data.TreeMap

/-! # The task-authorization broker

`task_authorization_broker.rs` and the admission fence of `recording_authorization.rs` that each of
its records shares. Every clock reading, every `Instant` and the file system are inputs of the call
that reads them. `Uuid::new_v4` is a stream of displayed UUIDs; the state counts the draws made so
far. The mutexes are never poisoned: no code under them panics. -/

namespace DccCua

/-! ### The admission fence -/

/-- What one `admit` reads: the wall clock and the monotonic clock. -/
structure FenceReading where
  clock : Nat
  instant : Nat
  deriving DecidableEq, Repr

structure RecordingAuthorization where
  revoked : Bool
  expiresAtUnixMs : Nat
  monotonicDeadline : Option Nat
  deriving DecidableEq, Repr

namespace RecordingAuthorization

/-- `Instant::checked_add` of a number of milliseconds. -/
def checkedAdd (instantMax instant ms : Nat) : Option Nat :=
  if instant + ms * 1000000 ≤ instantMax then some (instant + ms * 1000000) else none

/-- `RecordingAuthorization::new`, which reads both clocks. -/
def new (instantMax expiresAtUnixMs : Nat) (reading : FenceReading) : RecordingAuthorization where
  revoked := false
  expiresAtUnixMs := expiresAtUnixMs
  monotonicDeadline := checkedAdd instantMax reading.instant (expiresAtUnixMs - reading.clock)

def withMonotonicDeadline (instantMax expiresAtUnixMs deadline : Nat) (reading : FenceReading) :
    RecordingAuthorization :=
  let authorization := new instantMax expiresAtUnixMs reading
  { authorization with monotonicDeadline := some (authorization.monotonicDeadline.elim deadline (min · deadline)) }

def revoke (authorization : RecordingAuthorization) : RecordingAuthorization := { authorization with revoked := true }

/-- The reading is at or past the expiry on one of the two clocks. -/
def expiredAt (authorization : RecordingAuthorization) (reading : FenceReading) : Bool :=
  authorization.expiresAtUnixMs ≤ reading.clock ||
    authorization.monotonicDeadline.any fun deadline => deadline ≤ reading.instant

/-- `RecordingAuthorization::admit`: an expiry that is seen once is latched. -/
def admitAt (authorization : RecordingAuthorization) (reading : FenceReading) : Bool × RecordingAuthorization :=
  if authorization.revoked || authorization.expiredAt reading then (false, authorization.revoke)
  else (true, authorization)

end RecordingAuthorization

/-! ### Registrations -/

inductive ComputerUseOwnedBrowserFamily where
  | chromium
  deriving DecidableEq, Repr

inductive ComputerUseOwnedBrowserProfile where
  | isolatedNew
  deriving DecidableEq, Repr

inductive TrustedTaskAuthorizationTarget where
  | exactWindow (processId windowHandle : Nat)
  | ownedBrowser (browser : ComputerUseOwnedBrowserFamily) (profile : ComputerUseOwnedBrowserProfile)
  deriving DecidableEq, Repr

namespace TrustedTaskAuthorizationTarget

def isExactWindow : TrustedTaskAuthorizationTarget → Bool
  | exactWindow _ _ => true
  | ownedBrowser _ _ => false

/-- An exact window names a process and a window. -/
def isNonzero : TrustedTaskAuthorizationTarget → Bool
  | exactWindow processId windowHandle => !(processId == 0 || windowHandle == 0)
  | ownedBrowser _ _ => true

/-- `target_matches` of `authorize`. -/
def admits : TrustedTaskAuthorizationTarget → Nat → Nat → Bool
  | exactWindow processId windowHandle, pid, hwnd => pid == processId && hwnd == windowHandle
  | ownedBrowser _ _, pid, hwnd => pid != 0 && hwnd != 0

end TrustedTaskAuthorizationTarget

structure TrustedTaskAuthorizationRegistration where
  connectionId : Option String
  taskId : Option String
  taskGrantId : String
  applicationLabel : String
  target : TrustedTaskAuthorizationTarget
  allowedHostMethods : List String
  allowedActions : List TrustedTaskActionScope
  allowedBrowserOrigins : List String
  browserScope : Option TrustedTaskAuthorizationBrowserScope
  recordingOutputDir : Option String
  capturePreparation : Option CapturePreparationAuthorization
  expiresAtUnixMs : Nat
  deriving DecidableEq, Repr

structure TrustedTaskAuthorizationReceipt where
  authorizationId : String
  windowCapability : String
  expiresAtUnixMs : Nat
  deriving DecidableEq, Repr

inductive TrustedTaskAuthorizationBrokerError where
  | invalidRegistration (reason : String)
  | notFound
  | unavailable
  deriving DecidableEq, Repr

namespace Broker
open Checks (require)

def maxBrokerAuthorizations : Nat := 256

def unavailable : TrustedTaskAuthorizationHostError :=
  .unavailable "the constructor-owned task authorization broker rejected the request"

/-- `validate_identity` of the broker. -/
def validateIdentity (value : String) (maxChars : Nat) (field : String) :
    Except TrustedTaskAuthorizationBrokerError Unit :=
  require (Text.printable value maxChars) (.invalidRegistration (Text.printableMessage field maxChars))

variable (env : Env)

/-- The test of `validate_registration` on the capture-preparation permission. -/
def preparationAllowed (fs : FileSystem) (registration : TrustedTaskAuthorizationRegistration) : Bool :=
  registration.capturePreparation.all fun authorization =>
    registration.target.isExactWindow && authorization.maxLifetimeMs != 0 &&
      authorization.maxLifetimeMs ≤ maxPreparationLifetimeMs &&
      decide (validateRecordingOutputLocation env.platform fs authorization.journalDirectory = .ok ()) &&
      registration.recordingOutputDir != some authorization.journalDirectory && registration.browserScope.isNone &&
      registration.allowedBrowserOrigins.isEmpty &&
      grantsAll registration.allowedHostMethods capturePreparationMethods

/-- The test of `validate_registration` on the recording directory. -/
def recordingAllowed (fs : FileSystem) (registration : TrustedTaskAuthorizationRegistration) : Bool :=
  registration.recordingOutputDir.all fun directory =>
    registration.target.isExactWindow &&
      decide (validateRecordingOutputLocation env.platform fs directory = .ok ()) &&
      grantsAll registration.allowedHostMethods recordingMethods

/-- The test of `validate_registration` on the browser scope. -/
def browserScopeAllowed (registration : TrustedTaskAuthorizationRegistration) : Bool :=
  registration.browserScope.all fun scope =>
    scope.validate env && registration.target.isExactWindow &&
      registration.allowedBrowserOrigins == [scope.origin] && registration.allowedHostMethods.contains "browser_snapshot"

/-- `validate_registration`, at the clock reading `now`. -/
def validateRegistration (fs : FileSystem) (now : Nat) (registration : TrustedTaskAuthorizationRegistration) :
    Except TrustedTaskAuthorizationBrokerError Unit := do
  registration.connectionId.elim (.ok ()) (validateIdentity · 256 "connection_id")
  registration.taskId.elim (.ok ()) (validateIdentity · 256 "task_id")
  validateIdentity registration.taskGrantId maxTaskGrantIdChars "task_grant_id"
  validateIdentity registration.applicationLabel maxApplicationLabelChars "application_label"
  require registration.target.isNonzero
    (.invalidRegistration "the exact target PID and window handle must be non-zero")
  require (!(registration.expiresAtUnixMs ≤ now ||
      maxTaskAuthorizationTtlMs < registration.expiresAtUnixMs - now))
    (.invalidRegistration "expiry must be in the future and no more than 24 hours away")
  require (actionsClosed env registration.allowedActions)
    (.invalidRegistration "allowed actions must be unique, closed, and bounded")
  require (methodsClosed registration.allowedHostMethods)
    (.invalidRegistration "allowed Host methods must be unique, closed, and non-empty")
  require (!(preparationRequested registration.allowedHostMethods != registration.capturePreparation.isSome ||
      registration.allowedActions.any (·.isCapturePreparation) != registration.capturePreparation.isSome))
    (.invalidRegistration
      "capture preparation requires its trusted journal permission and closed action scope")
  require (preparationAllowed env fs registration)
    (.invalidRegistration ("capture preparation requires an exact window, separate ordinary stable journal " ++
      "root, bounded lifetime, native state read and complete begin/state/stop methods"))
  require (recordingAllowed env fs registration)
    (.invalidRegistration ("manual recording requires an exact window, a pre-created ordinary directory, and " ++
      "start/state/stop methods"))
  require (originsClosed env registration.allowedBrowserOrigins)
    (.invalidRegistration "allowed browser origins must be unique exact HTTP(S) origins")
  require (browserScopeAllowed env registration)
    (.invalidRegistration
      "an exact browser scope requires an exact window, its sole origin, and browser_snapshot")

end Broker

/-! ### Broker state -/

structure BrokerBinding where
  connectionId : String
  sessionId : String
  leaseRequestDigest : String
  targetProcessId : Nat
  targetWindowHandle : Nat
  deriving DecidableEq, Repr

/-- `NativeTaskAuthorization`. Its lifetime is the fence of the record that holds it. -/
structure NativeTaskAuthorization where
  processId : Nat
  windowHandle : Nat
  deriving DecidableEq, Repr

structure BrokerRecord where
  registration : TrustedTaskAuthorizationRegistration
  windowCapability : String
  binding : Option BrokerBinding
  revoked : Bool
  recordingAuthorization : RecordingAuthorization
  nativeTargetAuthorization : Option NativeTaskAuthorization
  deriving DecidableEq, Repr

/-- `BrokerState`, with the number of UUIDs drawn so far. -/
structure BrokerState where
  authorizations : Std.TreeMap String BrokerRecord
  drawn : Nat

namespace BrokerRecord

/-- `BrokerRecord::is_active`: a record that is not revoked asks its fence, which may latch. -/
def isActive (record : BrokerRecord) (reading : FenceReading) : Bool × BrokerRecord :=
  if record.revoked then (false, record)
  else
    let (active, fence) := record.recordingAuthorization.admitAt reading
    (active, { record with recordingAuthorization := fence })

/-- The record is revoked, or its fence is. -/
def Ended (record : BrokerRecord) : Prop := record.revoked = true ∨ record.recordingAuthorization.revoked = true

instance (record : BrokerRecord) : Decidable record.Ended := inferInstanceAs (Decidable (_ ∨ _))

/-- `exact_match` of `authorize`. -/
def exactMatch (record : BrokerRecord) (request : TrustedTaskAuthorizationRequest) : Bool :=
  request.taskGrantId == record.registration.taskGrantId &&
    request.applicationLabel == record.registration.applicationLabel &&
    request.windowCapability == record.windowCapability &&
    record.registration.taskId.all (fun expected => request.sessionId == expected) &&
    record.registration.connectionId.all (fun expected => request.connectionId == expected) &&
    record.registration.target.admits request.targetProcessId request.targetWindowHandle

/-- `exact_match` of `validate_lease`, and of `validate` up to its action scope. -/
def boundTo (record : BrokerRecord) (binding : BrokerBinding)
    (sessionId connectionId leaseRequestDigest taskGrantId applicationLabel windowCapability : String)
    (targetProcessId targetWindowHandle : Nat) : Bool :=
  sessionId == binding.sessionId && connectionId == binding.connectionId &&
    leaseRequestDigest == binding.leaseRequestDigest && taskGrantId == record.registration.taskGrantId &&
    applicationLabel == record.registration.applicationLabel && windowCapability == record.windowCapability &&
    targetProcessId == binding.targetProcessId && targetWindowHandle == binding.targetWindowHandle

/-- Some granted action handles credentials natively, so that the lease carries a native permission. -/
def grantsNativeTarget (registration : TrustedTaskAuthorizationRegistration) : Bool :=
  registration.allowedActions.any fun action =>
    (action.authorizationCategory == "credential" || action.authorizationCategory == "account_access") &&
      match action.inputKind with
      | "semantic" | "raw_input" => registration.allowedHostMethods.contains "execute_action"
      | "browser" =>
        action.action == "browser_type" && action.secretInput &&
          registration.allowedHostMethods.contains "browser_type"
      | _ => false

/-- The record after `authorize` bound it to a request. -/
def bind (record : BrokerRecord) (request : TrustedTaskAuthorizationRequest) : BrokerRecord where
  registration := record.registration
  windowCapability := record.windowCapability
  binding := some
    { connectionId := request.connectionId
      sessionId := request.sessionId
      leaseRequestDigest := request.requestDigest
      targetProcessId := request.targetProcessId
      targetWindowHandle := request.targetWindowHandle }
  revoked := record.revoked
  recordingAuthorization := record.recordingAuthorization
  nativeTargetAuthorization :=
    if grantsNativeTarget record.registration then
      some ⟨request.targetProcessId, request.targetWindowHandle⟩
    else record.nativeTargetAuthorization

/-- The lease that `authorize` returns. -/
def lease (record : BrokerRecord) (request : TrustedTaskAuthorizationRequest) (now : Nat) :
    TrustedTaskAuthorizationLease where
  connectionId := request.connectionId
  authorizationId := request.authorizationId
  sessionId := request.sessionId
  taskGrantId := request.taskGrantId
  applicationLabel := request.applicationLabel
  windowCapability := request.windowCapability
  targetProcessId := request.targetProcessId
  targetWindowHandle := request.targetWindowHandle
  allowedHostMethods := record.registration.allowedHostMethods
  allowedActions := record.registration.allowedActions
  allowedBrowserOrigins := record.registration.allowedBrowserOrigins
  browserScope := record.registration.browserScope
  recordingOutputDir := record.registration.recordingOutputDir
  capturePreparation := record.registration.capturePreparation
  issuedAtUnixMs := now
  expiresAtUnixMs := record.registration.expiresAtUnixMs
  requestDigest := request.requestDigest

end BrokerRecord

namespace BrokerState

/-- `BrokerState::default`, at some point of the UUID stream. -/
def initial (drawn : Nat) : BrokerState := ⟨∅, drawn⟩

def set (state : BrokerState) (id : String) (record : BrokerRecord) : BrokerState :=
  { state with authorizations := state.authorizations.insert id record }

/-- `retain` of `register_inner`. -/
def prune (state : BrokerState) (now : Nat) : BrokerState :=
  { state with authorizations :=
      state.authorizations.filter fun _ record => now < record.registration.expiresAtUnixMs }

/-- The readings of one `register` call, in the order the code makes them. -/
structure RegisterReadings where
  validateNow : Nat
  now : Nat
  fence : FenceReading
  admission : FenceReading
  deriving DecidableEq, Repr

variable (env : Env) (uuid : Nat → String)

def authorizationId (n : Nat) : String := "task-auth-" ++ uuid n
def windowCapability (n : Nat) : String := "cua-window-" ++ uuid n

/-- The loop of `register_inner` that draws UUIDs until one is not in the map: the identity and the
    number of UUIDs drawn after it. One draw more than the map has entries suffices when no UUID
    repeats; `none` stands for a loop that goes on. -/
def freshAuthorizationId (authorizations : Std.TreeMap String BrokerRecord) : Nat → Nat → Option (String × Nat)
  | 0, _ => none
  | fuel + 1, drawn =>
    if authorizations.contains (authorizationId uuid drawn) then
      freshAuthorizationId authorizations fuel (drawn + 1)
    else some (authorizationId uuid drawn, drawn + 1)

/-- The fence of a new record. -/
def newFence (expiresAtUnixMs : Nat) (deadline : Option Nat) (reading : FenceReading) : RecordingAuthorization :=
  match deadline with
  | some deadline => .withMonotonicDeadline env.instantMax expiresAtUnixMs deadline reading
  | none => .new env.instantMax expiresAtUnixMs reading

/-- `register_inner`: `register` without a deadline, `register_with_monotonic_deadline` with one. -/
def register (state : BrokerState) (fs : FileSystem) (registration : TrustedTaskAuthorizationRegistration)
    (deadline : Option Nat) (r : RegisterReadings) :
    Except TrustedTaskAuthorizationBrokerError TrustedTaskAuthorizationReceipt × BrokerState :=
  match Broker.validateRegistration env fs r.validateNow registration with
  | .error e => (.error e, state)
  | .ok () =>
    let state := state.prune r.now
    if Broker.maxBrokerAuthorizations ≤ state.authorizations.size then (.error .unavailable, state)
    else match freshAuthorizationId uuid state.authorizations (state.authorizations.size + 1) state.drawn with
      | none => (.error .unavailable, state)
      | some (id, drawn) =>
        let (active, fence) := (newFence env registration.expiresAtUnixMs deadline r.fence).admitAt r.admission
        if !active then
          (.error (.invalidRegistration "the retained task deadline has expired"), { state with drawn })
        else
          let capability := windowCapability uuid drawn
          (.ok ⟨id, capability, registration.expiresAtUnixMs⟩,
            { (state.set id ⟨registration, capability, none, false, fence, none⟩) with drawn := drawn + 1 })

def revoke (state : BrokerState) (id : String) : Except TrustedTaskAuthorizationBrokerError Unit × BrokerState :=
  match state.authorizations[id]? with
  | none => (.error .notFound, state)
  | some record =>
    (.ok (), state.set id
      { record with revoked := true, recordingAuthorization := record.recordingAuthorization.revoke })

/-- `BrokerHost::authorize`: `now` is its own clock reading, `reading` that of the fence. -/
def authorize (state : BrokerState) (request : TrustedTaskAuthorizationRequest) (now : Nat) (reading : FenceReading) :
    Except TrustedTaskAuthorizationHostError TrustedTaskAuthorizationLease × BrokerState :=
  if request.schema != trustedTaskAuthorizationSchema then (.error .denied, state)
  else match state.authorizations[request.authorizationId]? with
    | none => (.error .denied, state)
    | some record =>
      let (active, asked) := record.isActive reading
      if !active || record.binding.isSome || record.registration.expiresAtUnixMs ≤ now ||
          !record.exactMatch request then
        (.error .denied, state.set request.authorizationId asked)
      else
        (.ok (record.lease request now), state.set request.authorizationId (asked.bind request))

/-- What `validate` and `validate_lease` do once a request matches its record. -/
def decideStatus (state : BrokerState) (id : String) (record : BrokerRecord) (requestDigest : String)
    (reading : FenceReading) :
    Except TrustedTaskAuthorizationHostError TrustedTaskAuthorizationValidationDecision × BrokerState :=
  let (active, asked) := record.isActive reading
  (.ok ⟨if active then .active else .revoked, requestDigest⟩, state.set id asked)

def validate (state : BrokerState) (request : TrustedTaskAuthorizationValidationRequest) (reading : FenceReading) :
    Except TrustedTaskAuthorizationHostError TrustedTaskAuthorizationValidationDecision × BrokerState :=
  if request.schema != trustedTaskAuthorizationValidationSchema then (.error Broker.unavailable, state)
  else match state.authorizations[request.authorizationId]? with
    | none => (.error Broker.unavailable, state)
    | some record => match record.binding with
      | none => (.error Broker.unavailable, state)
      | some binding =>
        if !(record.boundTo binding request.sessionId request.connectionId request.leaseRequestDigest
            request.taskGrantId request.applicationLabel request.windowCapability request.targetProcessId
            request.targetWindowHandle && record.registration.allowedActions.contains request.actionScope) then
          (.error Broker.unavailable, state)
        else state.decideStatus request.authorizationId record request.requestDigest reading

def validateLease (state : BrokerState) (request : TrustedTaskAuthorizationLeaseValidationRequest)
    (reading : FenceReading) :
    Except TrustedTaskAuthorizationHostError TrustedTaskAuthorizationValidationDecision × BrokerState :=
  if request.schema != trustedTaskAuthorizationLeaseValidationSchema then (.error Broker.unavailable, state)
  else match state.authorizations[request.authorizationId]? with
    | none => (.error Broker.unavailable, state)
    | some record => match record.binding with
      | none => (.error Broker.unavailable, state)
      | some binding =>
        if !record.boundTo binding request.sessionId request.connectionId request.leaseRequestDigest
            request.taskGrantId request.applicationLabel request.windowCapability request.targetProcessId
            request.targetWindowHandle then
          (.error Broker.unavailable, state)
        else state.decideStatus request.authorizationId record request.requestDigest reading

/-- A holder of a record's shared fence (the capture, the encoder) asks for an admission. -/
def admitAt (state : BrokerState) (id : String) (reading : FenceReading) : Bool × BrokerState :=
  match state.authorizations[id]? with
  | none => (false, state)
  | some record =>
    let (active, fence) := record.recordingAuthorization.admitAt reading
    (active, state.set id { record with recordingAuthorization := fence })

end BrokerState

/-! ### The broker as a machine -/

/-- The calls on one broker, from its issuer, its Host handle and the holders of its fences. -/
inductive BrokerCall where
  | register (fs : FileSystem) (registration : TrustedTaskAuthorizationRegistration) (deadline : Option Nat)
      (readings : BrokerState.RegisterReadings)
  | revoke (id : String)
  | authorize (request : TrustedTaskAuthorizationRequest) (now : Nat) (reading : FenceReading)
  | validate (request : TrustedTaskAuthorizationValidationRequest) (reading : FenceReading)
  | validateLease (request : TrustedTaskAuthorizationLeaseValidationRequest) (reading : FenceReading)
  | admitAt (id : String) (reading : FenceReading)

inductive BrokerReply where
  | registered (result : Except TrustedTaskAuthorizationBrokerError TrustedTaskAuthorizationReceipt)
  | revoked (result : Except TrustedTaskAuthorizationBrokerError Unit)
  | lease (result : Except TrustedTaskAuthorizationHostError TrustedTaskAuthorizationLease)
  | decision (result : Except TrustedTaskAuthorizationHostError TrustedTaskAuthorizationValidationDecision)
  | admitted (active : Bool)
  deriving DecidableEq

/-- The broker, in an environment and on a UUID stream. -/
def brokerMachine (env : Env) (uuid : Nat → String) : Runs.Machine BrokerState BrokerCall BrokerReply where
  step state
    | .register fs registration deadline readings =>
      (state.register env uuid fs registration deadline readings).map .registered id
    | .revoke id => (state.revoke id).map .revoked fun s => s
    | .authorize request now reading => (state.authorize request now reading).map .lease id
    | .validate request reading => (state.validate request reading).map .decision id
    | .validateLease request reading => (state.validateLease request reading).map .decision id
    | .admitAt id reading => (state.admitAt id reading).map .admitted fun s => s

end DccCua
