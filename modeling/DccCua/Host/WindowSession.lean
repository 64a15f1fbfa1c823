import DccCua.Browser.Session
import DccCua.Host.ExtensionCalls
import DccCua.Host.SessionEvents
import DccCua.Lib.Script

/-! # A window session of the Host

`HostSession` of `session_state.rs`: who may use a session, what it retains of its last observations, and the
epochs by which it notices that the core session has moved on. The core session itself is given by its
evidence epoch and its answers. A window session stands here with a clock in milliseconds and with what
has happened on it, the last first. Shared images, the digests of a lease and the texts of a response, which
decide nothing here, are left out. -/

namespace DccCua

open Checks Script

inductive TaskObservationMode where
  | semantic
  | pixelsOnly
  deriving DecidableEq, Repr

def pixelsOnlyMethods : List String :=
  ["get_window_state", "change_window_state", "minimize_window", "set_window_frame", "snapshot", "execute_action",
    "get_session_state", "get_input_state", "session_health", "poll_session_events", "live_observation_start",
    "live_observation_state", "live_observation_stop", "recording_start", "recording_state", "recording_stop",
    "capture_preparation_begin", "capture_preparation_state", "capture_preparation_stop", "capture_preparation_snapshot"]

def TaskObservationMode.permitsMethod (mode : TaskObservationMode) (method : String) : Bool :=
  mode = .semantic || pixelsOnlyMethods.contains method

inductive RequestErrorCode where
  | rawInputNotGranted
  | appTerminateNotGranted
  | clipboardReadNotGranted
  | clipboardWriteNotGranted
  | recordingNotGranted
  | menuInvokeNotGranted
  | nativeToolNotGranted
  | browserPrepareNotGranted
  | browserInputNotGranted
  | browserDownloadNotGranted
  | sessionEscalationNotGranted
  | taskAuthorizationRequired
  | taskAuthorizationDenied
  deriving DecidableEq, Repr

/-- `HostError`, as far as the requests of a window session give it. -/
inductive RequestError where
  | protocol (message : String)
  | codedProtocol (code : RequestErrorCode) (message : String)
  | computerUse (error : ComputerUseError)
  deriving DecidableEq, Repr

def denied (code : RequestErrorCode) (what : String) : RequestError := .codedProtocol code (what ++ " is not granted")

def browserScopeDenied (message : String) : RequestError := .codedProtocol .taskAuthorizationDenied message

def taskDenied (message : String) : RequestError := .codedProtocol .taskAuthorizationDenied message

/-- The permissions of the grant of a task. -/
structure TaskPermissions where
  rawInput : Bool
  appTerminate : Bool
  clipboardRead : Bool
  clipboardWrite : Bool
  recording : Bool
  liveObservation : Bool
  browserInput : Bool
  browserPrepare : Bool
  browserDownload : Bool
  nativeTool : Bool
  menuInvoke : Bool
  sessionEscalation : Bool
  trustedConfirmation : Bool
  restoreActivate : Bool

/-- The epochs in which the retained evidence was taken: a note of the model that no operation reads. -/
structure TakenAt where
  native : Nat
  browser : Nat
  extension : Nat

/-- `evidenceEpoch` is the `action_evidence_epoch` of the core session. -/
structure HostSession where
  sessionId : String
  taskGrantId : String
  capability : String
  targetProcessId : Nat
  targetWindowHandle : Nat
  observationMode : TaskObservationMode
  permissions : TaskPermissions
  allowedBrowserOrigins : List String
  taskAuthorization : Option TrustedTaskAuthorizationLease
  interrupted : Bool
  evidenceEpoch : Nat
  synchronizedActionEvidenceEpoch : Nat
  browserEvidenceEpoch : Option Nat
  browser : BrowserSession
  extensionObservation : Option BrowserExtension.ExtensionObservation
  latestObservationId : Option String
  latestAccessibilityStateId : Option String
  latestAccessibilityRoot : Option Json
  inputEvents : SessionEventQueue
  idleTimeout : Nat
  lastActivity : Nat
  takenAt : TakenAt

/-- A call through the browser session: its name and its arguments, the snapshot that its request is about, and the
    target that was bound as exact when it was sent. -/
structure BrowserCall where
  name : String
  args : Json
  snapshotId : Option String
  exactTarget : Option String

/-- What has happened on a session. -/
inductive WindowMoment where
  /-- The evidence epoch went on. -/
  | advanced
  /-- Browser evidence was discarded. -/
  | discarded
  | browserCalled (call : BrowserCall)
  /-- A browser snapshot was published as evidence; whether an extension observation was kept over a change of the
      epoch. -/
  | published (response : Json) (overExtension : Bool)
  | extensionPublished
  /-- A mutation passed the check of the evidence epoch. -/
  | checked
  /-- A request turned to the core session, or to an extension. -/
  | operated

structure Window where
  host : HostSession
  now : Nat
  moments : List WindowMoment

/-- What a program of the Host meets: the clock, the end of a call into the core session with the number of epochs
    it went on, the probe of the input, the control banner, the decision of code outside of the session, and the answer
    of an extension. -/
inductive WindowEvent where
  | elapsed (ms : Nat)
  | core (advances : Nat) (result : Except ComputerUseError Json)
  | availability (advances : Nat) (result : Except ComputerUseError ComputerUseTargetAvailability)
  | readiness (readiness : ComputerUseInputReadiness)
  | banner (interrupted : Bool) (failure : Option ComputerUseError)
  | decided (result : Except RequestError Unit)
  | chosen (choice : Bool)
  | answered (result : Except RequestError Json)

inductive HostEvidencePublication where
  | none
  | browserSnapshot
  | browserSnapshotAttempt
  deriving DecidableEq, Repr

structure HostEvidenceEpochSyncPlan where
  epochChanged : Bool
  invalidateBrowserSnapshot : Bool
  bindBrowserSnapshot : Bool
  deriving DecidableEq, Repr

def evidenceEpochSyncPlan (synchronized current : Nat) (publication : HostEvidencePublication) : HostEvidenceEpochSyncPlan where
  epochChanged := synchronized ≠ current
  invalidateBrowserSnapshot := synchronized ≠ current && publication ≠ .browserSnapshot
  bindBrowserSnapshot := publication = .browserSnapshot

namespace HostSession

/-- `session_with_capability` for a session that was found. -/
def presents (host : HostSession) (taskGrantId windowCapability : String) : Bool :=
  host.taskGrantId = taskGrantId && host.capability = windowCapability

def browserScope (host : HostSession) : Option TrustedTaskAuthorizationBrowserScope :=
  host.taskAuthorization.bind (·.browserScope)

def boundTaskAuthorization (host : HostSession) (method : String) : Option TrustedTaskAuthorizationLease :=
  host.taskAuthorization.filter fun lease =>
    lease.sessionId = host.sessionId && lease.taskGrantId = host.taskGrantId && lease.windowCapability = host.capability &&
      lease.targetProcessId = host.targetProcessId && lease.targetWindowHandle = host.targetWindowHandle &&
      lease.allowedHostMethods.contains method

def requireNativeCapturePopupKeyboardGrant (host : HostSession) : Except RequestError Unit :=
  require ((host.boundTaskAuthorization "snapshot").any fun lease =>
    host.observationMode = .pixelsOnly && lease.allowedActions.any (·.isNativeCapturePopupKeyboard))
    (taskDenied "selected native capture popup observations require the independent trusted owner ceiling")

def requireNativeMenuDismissGrant (host : HostSession) : Except RequestError Unit :=
  require ((host.boundTaskAuthorization "change_window_state").any fun lease =>
    host.observationMode = .pixelsOnly && lease.allowedHostMethods.contains "get_window_state" &&
      lease.allowedActions.any (·.isNativeMenuDismiss))
    (taskDenied
      "dismiss_menu requires its exact trusted pixels_only window_state/dismiss_menu scope and native state read method")

/-- The directory of the journal is checked outside of the session. -/
def requireCapturePreparationGrant (host : HostSession) (method : String) : Except RequestError Unit :=
  require ((host.boundTaskAuthorization method).any fun lease =>
    host.observationMode = .pixelsOnly && lease.allowedActions.any (·.isCapturePreparation) &&
      grantsAll lease.allowedHostMethods capturePreparationMethods && lease.capturePreparation.isSome)
    (taskDenied
      "capture preparation requires its exact trusted pixels_only lease, journal and closed lifecycle action scope")

def requireMinimizeGrant (host : HostSession) : Except RequestError Unit :=
  require ((host.boundTaskAuthorization "minimize_window").any fun lease => lease.allowedActions.any (·.isWindowMinimize))
    (taskDenied "minimize_window requires the trusted window_state/minimize_window action scope")

def requireWindowFrameGrant (host : HostSession) : Except RequestError Unit :=
  require ((host.boundTaskAuthorization "set_window_frame").any fun lease =>
    lease.allowedHostMethods.contains "get_window_state" && lease.allowedActions.any (·.isWindowFrame))
    (taskDenied "set_window_frame requires its exact trusted window_state action scope and native state read method")

def requireLatestObservation (host : HostSession) (observationId : String) : Except RequestError Unit :=
  require (observationId ≠ "" && host.latestObservationId = some observationId)
    (.computerUse ⟨.staleObservation, "observation_id does not match the latest host snapshot"⟩)

def requireTaskAuthorizedMethod (host : HostSession) (method : String) : Except RequestError Unit :=
  require (host.taskAuthorization.all (·.allowedHostMethods.contains method))
    (taskDenied ("Host method " ++ method ++ " is outside the trusted task authorization"))

def requireAllowedBrowserOrigin (host : HostSession) (origin : String) : Except RequestError Unit :=
  require (host.taskAuthorization.isNone || host.allowedBrowserOrigins.contains origin)
    (taskDenied "the browser origin is outside the task authorization")

def requireTaskAuthorizedBrowserTarget (host : HostSession) (targetId tabId : String) : Except RequestError Unit :=
  require (host.browserScope.all fun scope => targetId = scope.hostTargetId && tabId = scope.tabId)
    (taskDenied "the browser target or tab is outside the trusted task authorization")

def requireTaskAuthorizedBrowserDocument (host : HostSession) (targetId tabId documentGeneration : String) :
    Except RequestError Unit := do
  host.requireTaskAuthorizedBrowserTarget targetId tabId
  require (host.browserScope.all fun scope => documentGeneration = scope.documentGeneration)
    (taskDenied "the browser document generation is outside the trusted task authorization")

def requireCurrentTaskAuthorizedBrowserDocument (host : HostSession) : Except RequestError Unit :=
  require (host.browserScope.all fun scope =>
    host.browser.targetId = some scope.hostTargetId && host.browser.latestTabId = some scope.tabId &&
      host.browser.latestSnapshotId = some scope.documentGeneration && host.browser.latestOrigin = some scope.origin)
    (taskDenied "fresh browser evidence does not match the authorized target, tab, document, and origin")

def requireCurrentAllowedBrowserOrigin (host : HostSession) : Except RequestError Unit :=
  if host.taskAuthorization.isNone then .ok ()
  else match host.browser.latestOrigin with
    | none =>
      .error (.codedProtocol .taskAuthorizationRequired
        "take a fresh browser snapshot before mutating an authorized browser origin")
    | some origin => host.requireAllowedBrowserOrigin origin

def clearNativeObservationCaches (host : HostSession) : HostSession :=
  { host with latestObservationId := none, latestAccessibilityStateId := none, latestAccessibilityRoot := none }

/-- The observation ids that a request records; they are taken in the epoch of the core session. -/
def recordObservation (host : HostSession) (observationId : String) (accessibility : Option Json) : HostSession :=
  { host with
    latestObservationId := some observationId
    latestAccessibilityStateId := accessibility.map fun _ => observationId
    latestAccessibilityRoot := accessibility
    takenAt := { host.takenAt with native := host.evidenceEpoch } }

def recordSnapshotObservation (host : HostSession) (observationId : String) (accessibility : Json) : HostSession :=
  host.recordObservation observationId (if host.observationMode = .pixelsOnly then none else some accessibility)

/-- The session that `open_session` inserts under the identity, the grants and the lease of `host`. `browser` is its
    `task_browser_session`. -/
def opened (host : HostSession) (browser : BrowserSession) (now : Nat) : HostSession :=
  { host with
    interrupted := false
    synchronizedActionEvidenceEpoch := host.evidenceEpoch
    browserEvidenceEpoch := none
    browser := browser
    extensionObservation := none
    latestObservationId := none
    latestAccessibilityStateId := none
    latestAccessibilityRoot := none
    lastActivity := now }

end HostSession

/-- `task_browser_session`; the target of a lease was checked with the lease. -/
def taskBrowserSession (preauthorized : Option TrustedTaskAuthorizationLease) : BrowserSession :=
  (preauthorized.bind (·.browserScope)).elim .empty fun scope => .exact scope.hostTargetId

namespace Window

def note (w : Window) (moment : WindowMoment) : Window := { w with moments := moment :: w.moments }

def elapse (w : Window) (ms : Nat) : Window := { w with now := w.now + ms }

/-- The evidence epoch goes on. -/
def advance (w : Window) (n : Nat) : Window :=
  if n = 0 then w else { w with host := { w.host with evidenceEpoch := w.host.evidenceEpoch + n } }.note .advanced

def isIdleExpired (w : Window) : Bool := w.host.idleTimeout ≤ w.now - w.host.lastActivity

def markActivity (w : Window) : Window := { w with host := { w.host with lastActivity := w.now } }

def interrupt (w : Window) : Window := { w with host := { w.host with interrupted := true } }

def clearNativeObservationCaches (w : Window) : Window := { w with host := w.host.clearNativeObservationCaches }

def discardBrowserEvidence (w : Window) : Window :=
  { w with host := { w.host with
      extensionObservation := none
      browserEvidenceEpoch := none
      browser := w.host.browser.clearSnapshot } }.note .discarded

def synchronizeActionEvidenceEpochWith (w : Window) (publication : HostEvidencePublication) : Window :=
  let current := w.host.evidenceEpoch
  let plan := evidenceEpochSyncPlan w.host.synchronizedActionEvidenceEpoch current publication
  let w := if plan.epochChanged then
      let w := w.clearNativeObservationCaches
      let w := if plan.invalidateBrowserSnapshot then w.discardBrowserEvidence else w
      { w with host := { w.host with synchronizedActionEvidenceEpoch := current } }
    else w
  if plan.bindBrowserSnapshot then { w with host := { w.host with browserEvidenceEpoch := some current } } else w

def synchronizeActionEvidenceEpoch (w : Window) : Window := w.synchronizeActionEvidenceEpochWith .none

def invalidateObservations (w : Window) : Window :=
  { w with host := { w.host with synchronizedActionEvidenceEpoch := w.host.evidenceEpoch } }
    |>.clearNativeObservationCaches.discardBrowserEvidence

/-- The core session goes on to a new epoch; the forms that keep native metadata do the same here. -/
def invalidateActionObservations (w : Window) : Window := (w.advance 1).synchronizeActionEvidenceEpoch

def observeInputReadiness (w : Window) (readiness : ComputerUseInputReadiness) : Window :=
  let (event, queue) := w.host.inputEvents.observe readiness w.now
  let w := { w with host := { w.host with inputEvents := queue } }
  if event.isSome then w.invalidateActionObservations else w

def observeTargetAvailability (w : Window) (availability : ComputerUseTargetAvailability) : Window :=
  let (event, queue) := w.host.inputEvents.observeTarget availability w.now
  let w := { w with host := { w.host with inputEvents := queue } }
  if event.isSome then w.invalidateActionObservations else w

/-- The target status that an error of a call tells. -/
def errorTargetStatus : ComputerUseErrorCode → Option ComputerUseTargetStatus
  | .targetMinimized => some .minimized
  | .targetUnavailable | .missingWindow => some .unavailable
  | _ => none

def errorAvailability (status : ComputerUseTargetStatus) : ComputerUseTargetAvailability where
  status := status
  code := if status = .minimized then "target_minimized" else "target_unavailable"
  visible := false
  minimized := status = .minimized
  foreground := false

/-- The error of a call invalidates the observations. -/
def errorInvalidates (code : ComputerUseErrorCode) : Bool :=
  code = .interactiveDesktopUnavailable || (errorTargetStatus code).isSome || code = .invalidTarget ||
    code = .sessionRefreshRequired || code = .completionUnknown

/-- `finish_observation_sensitive_attempt`; the result itself goes on unchanged. -/
def finishObservationSensitiveAttempt {α : Type} (w : Window) (result : Except ComputerUseError α) : Window :=
  let w := w.synchronizeActionEvidenceEpoch
  match result with
  | .ok _ => w
  | .error error =>
    let w := if errorInvalidates error.code then w.invalidateActionObservations else w
    let w := if error.code = .interactiveDesktopUnavailable then
        w.observeInputReadiness ⟨.suspended, "interactive_desktop_unavailable", some error.message⟩
      else w
    match errorTargetStatus error.code with
    | some status => w.observeTargetAvailability (errorAvailability status)
    | none => w

/-- `ComputerUseTargetAvailability::from_window_state`. -/
def availabilityOfState (state : Json) : ComputerUseTargetAvailability :=
  let minimized := ((state.get "minimized").asBool.or (state.get "is_minimized").asBool).getD false
  let visible := ((state.get "visible").asBool.or (state.get "is_on_screen").asBool).getD false
  let foreground := ((state.get "foreground").asBool.or (state.get "is_foreground").asBool).getD false
  { status := if minimized then .minimized else if visible then .available else .unavailable
    code := if minimized then "target_minimized" else if visible then "target_available" else "target_unavailable"
    visible := visible
    minimized := minimized
    foreground := foreground }

def observeTargetState (w : Window) (state : Json) : Window := w.observeTargetAvailability (availabilityOfState state)

/-- `require_current_browser_evidence_epoch`. -/
def requireCurrentBrowserEvidenceEpoch (w : Window) : Except RequestError Unit × Window :=
  let w := w.synchronizeActionEvidenceEpoch
  if w.host.browserEvidenceEpoch = some w.host.synchronizedActionEvidenceEpoch then (.ok (), w.note .checked)
  else (.error (.computerUse ⟨.staleObservation, "take a fresh browser snapshot after action evidence changed"⟩), w)

/-- The moment of a publication. -/
def published (w : Window) (response : Json) : WindowMoment :=
  .published response (w.host.extensionObservation.isSome && w.host.synchronizedActionEvidenceEpoch ≠ w.host.evidenceEpoch)

/-- `finish_browser_snapshot_attempt` on the response of a snapshot. -/
def finishBrowserSnapshotAttempt (w : Window) (result : Except ComputerUseError Json) : Except RequestError Json × Window :=
  match result with
  | .ok response =>
    if publishesSnapshotEvidence response then
      match w.host.requireCurrentTaskAuthorizedBrowserDocument with
      | .error error => (.error error, w.discardBrowserEvidence)
      | .ok () => (.ok response, (w.note (w.published response)).synchronizeActionEvidenceEpochWith .browserSnapshot)
    else (.ok response, w.discardBrowserEvidence.synchronizeActionEvidenceEpoch)
  | .error error => (.error (.computerUse error), w.discardBrowserEvidence.finishObservationSensitiveAttempt result)

end Window

abbrev WindowProg (α : Type) := Prog Window WindowEvent (Except RequestError α)

namespace Window

/-- Wait for an event of a kind; the calls of the core session move the epoch on. -/
def awaiting {α : Type} (accept : WindowEvent → Option (Nat × α)) : Prog Window WindowEvent α :=
  Prog.await fun event w =>
    match event with
    | .elapsed ms => (none, w.elapse ms)
    | event =>
      match accept event with
      | some (advances, a) => (some a, w.advance advances)
      | none => (none, w)

/-- Ask code outside of the session. -/
def asking {α : Type} (accept : WindowEvent → Option α) : Prog Window WindowEvent α :=
  Prog.await fun event w =>
    match event with
    | .elapsed ms => (none, w.elapse ms)
    | event => (accept event, w)

def decision : WindowProg Unit := asking fun
  | .decided result => some result
  | _ => none

def choice : Prog Window WindowEvent Bool := asking fun
  | .chosen choice => some choice
  | _ => none

def bannerState : Prog Window WindowEvent (Bool × Option ComputerUseError) := asking fun
  | .banner interrupted failure => some (interrupted, failure)
  | _ => none

/-- `stop` of the core session, whose result is dropped. -/
def stopCore : Prog Window WindowEvent Unit := awaiting fun
  | .core advances _ => some (advances, ())
  | _ => none

/-- A request is let through to the session. -/
def operate : WindowProg Unit := Prog.update fun w => (.ok (), w.note .operated)

/-- A call of the core session. -/
def coreCall : Prog Window WindowEvent (Except ComputerUseError Json) := awaiting fun
  | .core advances result => some (advances, result)
  | _ => none

def targetAvailability : Prog Window WindowEvent (Except ComputerUseError ComputerUseTargetAvailability) := awaiting fun
  | .availability advances result => some (advances, result)
  | _ => none

def readinessSample : Prog Window WindowEvent ComputerUseInputReadiness := asking fun
  | .readiness readiness => some readiness
  | _ => none

def modify (f : Window → Window) : WindowProg Unit := Prog.update fun w => (.ok (), f w)

/-- A check of the session. -/
def check {α : Type} (f : HostSession → Except RequestError α) : WindowProg α := Prog.read fun w => f w.host

def permitted (p : TaskPermissions → Bool) (error : RequestError) : WindowProg Unit :=
  check fun host => require (p host.permissions) error

/-- End with an error of the core session as one of the request. -/
def lift {α : Type} (result : Except ComputerUseError α) : WindowProg α := Prog.ret (mapError .computerUse result)

/-- A call with `finish_observation_sensitive_attempt` after it; its result is handed on. -/
def finished {α : Type} (call : Prog Window WindowEvent (Except ComputerUseError α)) :
    Prog Window WindowEvent (Except ComputerUseError α) :=
  call.andThen fun result => Prog.update fun w => (result, w.finishObservationSensitiveAttempt result)

/-- A finished call whose error ends the request. -/
def attempt : WindowProg Json := (finished coreCall).andThen lift

/-- `finish_window_mutation_attempt`: the observations are gone, whatever the result. -/
def mutationAttempt : WindowProg Json :=
  (finished coreCall).andThen fun result => (modify invalidateObservations).tryThen fun _ => lift result

/-- The response of a request, whose images go over the transport of the connection. -/
def withImages (result : Json) : WindowProg Json := decision.tryThen fun _ => Prog.ret (.ok result)

/-- `ensure_session_not_interrupted`. -/
def ensureSessionNotInterrupted : WindowProg Unit :=
  (check fun host => require (!host.interrupted) (.computerUse ⟨.userInterrupted,
    "Escape or a shared Host stop interrupted this session; the session is stopped"⟩)).tryThen fun _ =>
  bannerState.andThen fun banner =>
    if banner.1 then
      stopCore.andThen fun _ => Prog.update fun w => (.error (.computerUse ⟨.userInterrupted,
        "Escape, the safety banner, or a shared Host stop interrupted this session; the session was stopped"⟩), w.interrupt)
    else match banner.2 with
      | some failure => stopCore.andThen fun _ => Prog.ret (.error (.computerUse failure))
      | none => Prog.ret (.ok ())

/-- `validate_active_task_authorization`; without a lease there is nothing to ask. -/
def validateActiveTaskAuthorization : WindowProg Unit :=
  (Prog.read fun w => w.host.taskAuthorization.isNone).andThen fun free => if free then Prog.ret (.ok ()) else decision

/-- `authorized_session` after `session_with_capability`. -/
def authorizedSession : WindowProg Unit :=
  (Prog.read isIdleExpired).andThen fun expired =>
    if expired then
      stopCore.andThen fun _ => Prog.update fun w => (.error (.computerUse ⟨.sessionRefreshRequired,
        "session idle timeout expired; open a new logical-task session"⟩), w.interrupt.invalidateObservations)
    else
      validateActiveTaskAuthorization.tryThen fun _ => ensureSessionNotInterrupted.tryThen fun _ => modify markActivity

def revalidateQueuedWindowMutation : WindowProg Unit :=
  ensureSessionNotInterrupted.tryThen fun _ => validateActiveTaskAuthorization

end Window
end DccCua
