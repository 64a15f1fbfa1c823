import DccCua.Host.BrowserRequests
import DccCua.Lib.Runs

/-! # Requests of a window session

What each request of `request_handler.rs` does with the session that it names: the wrapper that synchronizes the
evidence before and after it, the checks before the session is authorized, and the handler. A handler is a program
against the events that it meets. The decisions of other code (the policy of an action, confirmations, the vault,
the queue of physical input, transports) are events. -/

namespace DccCua

open Checks Runs Script

structure HostAction where
  action : String
  inputKind : String
  elementIndex : Option Nat
  elementToken : Option String
  secretHandle : Option String
  inputBackendId : Option String
  deliveryMode : Option String

structure ExecuteActionRequest where
  observationId : String
  accessibilityStateId : String
  action : HostAction
  captureAfter : Bool
  postSnapshotSemantic : Bool

inductive WindowOperation where
  | activate
  | restoreActivate
  | close
  | dismissMenu
  deriving DecidableEq, Repr

/-- The requests that the wrapper routes to a window session. `location` is what the file system says of a directory. -/
inductive WindowCall where
  | capturePreparationBegin
  | capturePreparationState
  | capturePreparationStop
  | capturePreparationSnapshot
  | terminateApp
  | clipboardRead
  | clipboardCaptureSecret (observationId : String)
  | clipboardWrite
  | recordingStart (recordVideo : Bool) (outputDir : String) (location : Except RequestError Unit)
  | recordingStop
  | recordingState
  | liveObservationStart
  | liveObservationState
  | liveObservationStop
  | getWindowState
  | changeWindowState (operation : WindowOperation) (windowStateId : Option String)
  | minimizeWindow (observationId : String)
  | setWindowFrame (windowStateId : Option String)
  | invokeMenu
  | snapshot (activateBefore captureDiagnostics : Bool) (popups : List Nat)
  | zoom
  | accessibilitySnapshot
  | verifyState
  | callTool
  | browserSnapshot (request : BrowserSnapshotRequest)
  | browserPrepare (request : BrowserPrepareRequest)
  | browserNavigate (request : BrowserNavigateRequest)
  | browserClick (request : BrowserClickRequest)
  | browserType (request : BrowserTypeRequest)
  | browserPointer (request : BrowserPointerRequest)
  | browserSetInputFiles (request : BrowserSetInputFilesRequest)
  | browserDownload (request : BrowserDownloadRequest)
  | browserDialog (request : BrowserDialogRequest)
  | browserExtensionStatus
  | browserExtensionCall (request : BrowserExtension.BrowserExtensionCall)
  | find
  | waitFor
  | executeAction (request : ExecuteActionRequest)
  | resumeSession
  | getSessionState
  | getInputState
  | sessionHealth
  | pollSessionEvents (afterSequence : Nat)
  | cursorTool
  | escalateSession

/-- A request with what it presents. `checked` is the outcome of the checks of its own data, and of the registration
    of a wait. -/
structure WindowRequest where
  taskGrantId : String
  windowCapability : String
  call : WindowCall
  checked : Except RequestError Unit

namespace WindowCall

/-- `window_method_scope`; the extension requests check their method themselves. -/
def method : WindowCall → Option String
  | capturePreparationBegin => some "capture_preparation_begin"
  | capturePreparationState => some "capture_preparation_state"
  | capturePreparationStop => some "capture_preparation_stop"
  | capturePreparationSnapshot => some "capture_preparation_snapshot"
  | terminateApp => some "terminate_app"
  | clipboardRead => some "clipboard_read"
  | clipboardCaptureSecret _ => some "clipboard_capture_secret"
  | clipboardWrite => some "clipboard_write"
  | recordingStart _ _ _ => some "recording_start"
  | recordingStop => some "recording_stop"
  | recordingState => some "recording_state"
  | liveObservationStart => some "live_observation_start"
  | liveObservationState => some "live_observation_state"
  | liveObservationStop => some "live_observation_stop"
  | getWindowState => some "get_window_state"
  | changeWindowState _ _ => some "change_window_state"
  | minimizeWindow _ => some "minimize_window"
  | setWindowFrame _ => some "set_window_frame"
  | invokeMenu => some "invoke_menu"
  | snapshot _ _ _ => some "snapshot"
  | zoom => some "zoom"
  | accessibilitySnapshot => some "accessibility_snapshot"
  | verifyState => some "verify_state"
  | callTool => some "call_tool"
  | browserSnapshot _ => some "browser_snapshot"
  | browserPrepare _ => some "browser_prepare"
  | browserNavigate _ => some "browser_navigate"
  | browserClick _ => some "browser_click"
  | browserType _ => some "browser_type"
  | browserPointer _ => some "browser_pointer"
  | browserSetInputFiles _ => some "browser_set_input_files"
  | browserDownload _ => some "browser_download"
  | browserDialog _ => some "browser_dialog"
  | browserExtensionStatus => none
  | browserExtensionCall _ => none
  | find => some "find"
  | waitFor => some "wait_for"
  | executeAction _ => some "execute_action"
  | resumeSession => some "resume_session"
  | getSessionState => some "get_session_state"
  | getInputState => some "get_input_state"
  | sessionHealth => some "session_health"
  | pollSessionEvents _ => some "poll_session_events"
  | cursorTool => some "cursor_tool"
  | escalateSession => some "escalate_session"

/-- The publication of `window_evidence_epoch_route`. -/
def publication : WindowCall → HostEvidencePublication
  | browserSnapshot _ => .browserSnapshotAttempt
  | _ => .none

/-- The requests that use the browser session, or an extension. -/
def onBrowser : WindowCall → Bool
  | browserSnapshot _ | browserPrepare _ | browserNavigate _ | browserClick _ | browserType _ | browserPointer _
  | browserSetInputFiles _ | browserDownload _ | browserDialog _ | browserExtensionCall _ => true
  | _ => false

/-- The requests that read the status of a session with its capability alone. -/
def readsStatus : WindowCall → Bool
  | getInputState | sessionHealth | pollSessionEvents _ => true
  | _ => false

end WindowCall

namespace HostSession

def pixelsInputActions : List String :=
  ["click", "double_click", "right_click", "toggle", "drag", "keypress", "keyboard_shortcut", "type", "type_chars"]

/-- `is_pixels_input`. -/
def isPixelsInput (scope : TrustedTaskActionScope) : Bool :=
  pixelsInputActions.contains scope.action && scope.inputKind = "raw_input" && !scope.secretInput &&
    scope.authorizationCategory = "raw_input" && scope.browserOrigin.isNone

def requirePixelsInputGrant (host : HostSession) (action : HostAction) : Except RequestError Unit := do
  require (action.inputKind = "raw_input" && pixelsInputActions.contains action.action && action.elementIndex.isNone &&
      action.elementToken.isNone && action.secretHandle.isNone && action.inputBackendId.isNone &&
      action.deliveryMode.all (· = "foreground"))
    (.computerUse ⟨.invalidAction,
      "pixels_only input requires a supported raw action without semantic selectors, secrets, or alternate backends"⟩)
  require (host.permissions.rawInput && (host.boundTaskAuthorization "execute_action").any fun lease =>
      lease.allowedActions.any fun scope => isPixelsInput scope && scope.action = action.action)
    (taskDenied "pixels_only input requires the exact supported raw_input action in the bound trusted task grant")

/-- The scope of a recording of a session without semantic observation. -/
def requireRecordingScope (host : HostSession) (recordVideo : Bool) (outputDir : String) (location : Except RequestError Unit) :
    Except RequestError Unit :=
  match (host.taskAuthorization.bind (·.recordingOutputDir)).filter fun _ => host.permissions.recording with
  | none => .error (browserScopeDenied "native recording requires a trusted immutable output directory")
  | some directory => do
    require (recordVideo && outputDir = directory)
      (browserScopeDenied "native recording requires video-only output in its exact authorized directory")
    location

/-- What `enforce_task_authorized_method` requires of single calls in `pixels_only` sessions. -/
def enforcePixelsOnly (host : HostSession) : WindowCall → Except RequestError Unit
  | .executeAction request => do
    host.requirePixelsInputGrant request.action
    host.requireLatestObservation request.observationId
  | .recordingStart recordVideo outputDir location => host.requireRecordingScope recordVideo outputDir location
  | _ => .ok ()

/-- `enforce_task_authorized_browser_scope` of a session whose lease has a browser scope. -/
def enforceBrowserScope (host : HostSession) : WindowCall → Except RequestError Unit
  | .browserSnapshot request =>
    match request.targetId, request.tabId with
    | some targetId, some tabId => host.requireTaskAuthorizedBrowserTarget targetId tabId
    | _, _ => .error (browserScopeDenied "an exact task-authorized browser snapshot requires target_id and tab_id")
  | .browserPrepare _ => .error (browserScopeDenied "browser_prepare is outside a final exact-browser task authorization")
  | .browserNavigate request => do
    host.requireTaskAuthorizedBrowserTarget request.targetId request.tabId
    host.requireCurrentTaskAuthorizedBrowserDocument
  | .browserClick request => host.requireTaskAuthorizedBrowserDocument request.targetId request.tabId request.snapshotId
  | .browserType request => host.requireTaskAuthorizedBrowserDocument request.targetId request.tabId request.snapshotId
  | .browserPointer request => host.requireTaskAuthorizedBrowserDocument request.targetId request.tabId request.snapshotId
  | .browserSetInputFiles request =>
    host.requireTaskAuthorizedBrowserDocument request.targetId request.tabId request.snapshotId
  | .browserDownload request => host.requireTaskAuthorizedBrowserDocument request.targetId request.tabId request.snapshotId
  | .browserDialog request => do
    host.requireTaskAuthorizedBrowserTarget request.targetId request.tabId
    host.requireCurrentTaskAuthorizedBrowserDocument
  | _ => .ok ()

/-- `enforce_task_authorized_method` for a request that presents the grant and the capability. -/
def enforceTaskAuthorizedMethod (host : HostSession) (call : WindowCall) : Except RequestError Unit :=
  match call.method with
  | none => .ok ()
  | some method => do
    host.requireTaskAuthorizedMethod method
    require (host.observationMode.permitsMethod method)
      (browserScopeDenied "Host method requires semantic observation and is unavailable in pixels_only sessions")
    onlyIf (host.observationMode = .pixelsOnly) (host.enforcePixelsOnly call)
    onlyIf host.browserScope.isSome (host.enforceBrowserScope call)

/-- Everything that a request passes before the session is authorized. -/
def admits (host : HostSession) (request : WindowRequest) : Except RequestError Unit := do
  require (host.presents request.taskGrantId request.windowCapability) (.protocol "session grant or capability mismatch")
  host.enforceTaskAuthorizedMethod request.call
  request.checked

end HostSession

namespace Window

/-! ### Handlers -/

/-- The calls of the core session that need a permission and nothing else. -/
def granted (p : TaskPermissions → Bool) (error : RequestError) : WindowProg Json :=
  (permitted p error).tryThen fun _ => attempt

def terminateApp : WindowProg Json := granted (·.appTerminate) (denied .appTerminateNotGranted "application termination")
def clipboardRead : WindowProg Json := granted (·.clipboardRead) (denied .clipboardReadNotGranted "clipboard read")
def clipboardWrite : WindowProg Json := granted (·.clipboardWrite) (denied .clipboardWriteNotGranted "clipboard write")
def recordingStart : WindowProg Json := granted (·.recording) (denied .recordingNotGranted "recording")
def recordingStop : WindowProg Json := granted (·.recording) (denied .recordingNotGranted "recording")
def recordingState : WindowProg Json := granted (·.recording) (denied .recordingNotGranted "recording")
def escalateSession : WindowProg Json :=
  granted (·.sessionEscalation) (denied .sessionEscalationNotGranted "session escalation")
def callTool : WindowProg Json :=
  (granted (·.nativeTool) (denied .nativeToolNotGranted "native CUA tool calls")).tryThen withImages

def zoom : WindowProg Json := attempt.tryThen withImages
def verifyState : WindowProg Json := attempt.tryThen withImages
def getSessionState : WindowProg Json := attempt
def cursorTool : WindowProg Json := attempt

/-- The approval of the user is asked by the core session; nothing is finished after it. -/
def resumeSession : WindowProg Json := coreCall.andThen lift

def liveObservationPermitted : WindowProg Unit := permitted (·.liveObservation) (.protocol "live observation is not granted")

def liveObservationStart : WindowProg Json :=
  liveObservationPermitted.tryThen fun _ => attempt.tryThen fun result =>
    (modify invalidateObservations).tryThen fun _ => Prog.ret (.ok result)

def liveObservationState : WindowProg Json := liveObservationPermitted.tryThen fun _ => Prog.ret (.ok .null)

def liveObservationStop : WindowProg Json :=
  liveObservationPermitted.tryThen fun _ => coreCall.andThen fun _ =>
    (modify invalidateObservations).tryThen fun _ => Prog.ret (.ok .null)

/-- The state of the window is read by one of three calls, and observed. -/
def observedWindowState : WindowProg Json :=
  attempt.tryThen fun state => (modify fun w => w.observeTargetState state).tryThen fun _ => Prog.ret (.ok state)

def getWindowState : WindowProg Json := observedWindowState

/-- Probe the target; an error is only observed. -/
def probeTarget : Prog Window WindowEvent Bool :=
  (finished targetAvailability).andThen fun
    | .ok availability => Prog.update fun w => (false, w.observeTargetAvailability availability)
    | .error _ => Prog.ret true

/-- A mutation that consumes its trusted metadata even if it is refused: in every case the epoch goes on and the
    observations are gone. -/
def fencedMutation (p : WindowProg Json) : WindowProg Json :=
  (Prog.read fun w => w.host.evidenceEpoch).andThen fun prior => p.andThen fun result =>
    (modify fun w => (if w.host.evidenceEpoch = prior then w.advance 1 else w).invalidateObservations).tryThen fun _ =>
      Prog.ret result

/-- A state id of the metadata; whether it is blank around is told for a menu only. -/
def requireStateId (stateId : Option String) (strict : Bool) (message : String) : Except RequestError Unit :=
  require (stateId.any fun id =>
      id ≠ "" && id.utf8ByteSize ≤ 128 && (!strict || Text.trim id = id && !id.toList.any Text.isControl))
    (.computerUse ⟨.staleObservation, message⟩)

/-- The queue of physical input, then the checks again, then whether the Host was interrupted meanwhile. -/
def queuedMutation : WindowProg Unit :=
  revalidateQueuedWindowMutation.tryThen fun _ => ensureSessionNotInterrupted.tryThen fun _ => decision

def dismissMenu (stateId : Option String) : WindowProg Json :=
  fencedMutation <| (check (·.requireNativeMenuDismissGrant)).tryThen fun _ =>
    (Prog.ret (requireStateId stateId true
      "dismiss_menu requires a fresh purpose-bound menu window_state_id")).tryThen fun _ =>
      queuedMutation.tryThen fun _ => (check (·.requireNativeMenuDismissGrant)).tryThen fun _ =>
        decision.tryThen fun _ => attempt

/-- `validate_other_operation`: a scope for menus alone gives up what is retained. -/
def validateOtherOperation (stateId : Option String) : WindowProg Unit :=
  (Prog.update fun w =>
    if w.host.taskAuthorization.any fun lease => lease.allowedActions.any (·.isNativeMenuDismiss) then
      (.error (taskDenied "a dismiss_menu action scope cannot authorize activate, restore_activate or close"),
        (w.advance 1).invalidateObservations)
    else (.ok (), w)).tryThen fun _ =>
  Prog.ret (require stateId.isNone
    (.protocol "window_state_id is accepted only for dismiss_menu in change_window_state"))

def restoreActivate : WindowProg Json :=
  (permitted (·.restoreActivate) (.computerUse ⟨.invalidTarget,
    "restore_activate requires an exact process_id and window_handle grant binding"⟩)).tryThen fun _ =>
  (finished coreCall).andThen fun result => (modify invalidateObservations).tryThen fun _ =>
    probeTarget.andThen fun _ => (lift result).tryThen fun _ => observedWindowState

def closeWindow : WindowProg Json :=
  (permitted (·.trustedConfirmation) (.computerUse ⟨.invalidAction,
    "close requires explicit trusted action-time confirmation"⟩)).tryThen fun _ => mutationAttempt

def changeWindowState (operation : WindowOperation) (stateId : Option String) : WindowProg Json :=
  match operation with
  | .dismissMenu => dismissMenu stateId
  | .activate => (validateOtherOperation stateId).tryThen fun _ => mutationAttempt.tryThen fun _ => observedWindowState
  | .restoreActivate => (validateOtherOperation stateId).tryThen fun _ => restoreActivate
  | .close => (validateOtherOperation stateId).tryThen fun _ => closeWindow

def minimizeWindow (observationId : String) : WindowProg Json :=
  (check fun host => do host.requireLatestObservation observationId; host.requireMinimizeGrant).tryThen fun _ =>
    revalidateQueuedWindowMutation.tryThen fun _ => mutationAttempt.tryThen fun _ => observedWindowState

def setPixelsWindowFrame (stateId : Option String) : WindowProg Json :=
  (fencedMutation <| (check (·.requireWindowFrameGrant)).tryThen fun _ =>
    (Prog.ret (requireStateId stateId false "set_window_frame requires a fresh native window_state_id")).tryThen fun _ =>
      queuedMutation.tryThen fun _ => (check (·.requireWindowFrameGrant)).tryThen fun _ => attempt).tryThen fun result =>
  (modify fun w => w.observeTargetState (result.get "state")).tryThen fun _ => Prog.ret (.ok result)

def setSemanticWindowFrame (stateId : Option String) : WindowProg Json :=
  (Prog.ret (require stateId.isNone (.computerUse ⟨.invalidAction,
    "native window_state_id is reserved for explicit pixels_only frame mutations"⟩))).tryThen fun _ =>
  decision.tryThen fun _ => mutationAttempt

def setWindowFrame (stateId : Option String) : WindowProg Json :=
  (Prog.read fun w => decide (w.host.observationMode = .pixelsOnly)).andThen fun pixelsOnly =>
    if pixelsOnly then setPixelsWindowFrame stateId else setSemanticWindowFrame stateId

def invokeMenu : WindowProg Json :=
  (permitted (·.menuInvoke) (denied .menuInvokeNotGranted "native menu invocation")).tryThen fun _ => mutationAttempt

/-- The id of the observation that a call took. -/
def observationIdOf (value : Json) : Except RequestError String :=
  match (value.get "observation_id").asStr with
  | some observationId => .ok observationId
  | none => .error (.protocol "accessibility snapshot returned no observation")

def validateSnapshot (activateBefore captureDiagnostics : Bool) (host : HostSession) : Except RequestError Unit := do
  require (!captureDiagnostics || host.observationMode = .pixelsOnly)
    (.protocol "capture_diagnostics is available only for an explicit pixels_only snapshot")
  require (host.observationMode ≠ .pixelsOnly || !activateBefore)
    (.protocol
      "pixels_only snapshot cannot activate the target; use an explicitly authorized change_window_state method")

/-- `capture_snapshot`, whose observation is recorded. -/
def captureSnapshot (popups : List Nat) : WindowProg Json :=
  (check fun host => onlyIf (!popups.isEmpty) host.requireNativeCapturePopupKeyboardGrant).tryThen fun _ =>
    attempt.tryThen fun screenshot => (Prog.ret (observationIdOf screenshot)).tryThen fun observationId =>
      (modify fun w => { w with host := w.host.recordSnapshotObservation observationId screenshot }).tryThen fun _ =>
        Prog.ret (.ok screenshot)

def snapshot (activateBefore captureDiagnostics : Bool) (popups : List Nat) : WindowProg Json :=
  (check (validateSnapshot activateBefore captureDiagnostics)).tryThen fun _ =>
    (if activateBefore then attempt else Prog.ret (.ok .null)).tryThen fun _ =>
      (captureSnapshot popups).tryThen fun screenshot => orInvalidate (withImages screenshot)

def accessibilitySnapshot : WindowProg Json :=
  attempt.tryThen fun root => (Prog.ret (observationIdOf root)).tryThen fun observationId =>
    (modify fun w => { w with host := w.host.recordObservation observationId (some root) }).tryThen fun _ =>
      decision.tryThen fun _ => Prog.ret (.ok root)

def beginCapturePreparation : WindowProg Json :=
  fencedMutation <| (check (·.requireCapturePreparationGrant "capture_preparation_begin")).tryThen fun _ =>
    revalidateQueuedWindowMutation.tryThen fun _ => decision.tryThen fun _ =>
      (check (·.requireCapturePreparationGrant "capture_preparation_begin")).tryThen fun _ => attempt

def capturePreparationState : WindowProg Json :=
  (check (·.requireCapturePreparationGrant "capture_preparation_state")).tryThen fun _ => attempt

def stopCapturePreparation : WindowProg Json :=
  (check (·.requireCapturePreparationGrant "capture_preparation_stop")).tryThen fun _ =>
    revalidateQueuedWindowMutation.tryThen fun _ => decision.tryThen fun _ =>
      (check (·.requireCapturePreparationGrant "capture_preparation_stop")).tryThen fun _ => mutationAttempt

def capturePreparationSnapshot : WindowProg Json :=
  (check (·.requireCapturePreparationGrant "capture_preparation_snapshot")).tryThen fun _ =>
    mutationAttempt.tryThen withImages

/-- `capture_clipboard_secret`. A refused confirmation is a response without a call. -/
def clipboardCaptureSecret (observationId : String) : WindowProg Json :=
  decision.tryThen fun _ =>
    (permitted (·.clipboardRead) (denied .clipboardReadNotGranted "clipboard read")).tryThen fun _ =>
      (permitted (·.clipboardWrite) (denied .clipboardWriteNotGranted "clipboard write")).tryThen fun _ =>
        (check fun host => require (host.latestObservationId = some observationId) (.computerUse ⟨.staleObservation,
          "clipboard secret capture requires the latest exact-window observation"⟩)).tryThen fun _ =>
          decision.tryThen fun _ => choice.andThen fun allowed =>
            if allowed then decision.tryThen fun _ => attempt.tryThen fun _ => decision.tryThen fun _ =>
              (finished coreCall).andThen fun _ => Prog.ret (.ok .null)
            else Prog.ret (.ok .null)

/-- `refresh_input_readiness`. -/
def refreshInputReadiness : WindowProg Unit :=
  readinessSample.andThen fun readiness => modify fun w => w.observeInputReadiness readiness

/-- `finish_target_sensitive_cached_read`: the input and the target as they are now. -/
def cachedReadAllowed (status : ComputerUseTargetStatus) (host : HostSession) : Except RequestError Unit := do
  require (host.inputEvents.inputCurrent.status ≠ .suspended) (.computerUse ⟨.interactiveDesktopUnavailable,
    host.inputEvents.inputCurrent.reason.getD "interactive desktop is unavailable"⟩)
  match status with
  | .available => .ok ()
  | .minimized =>
    .error (.computerUse ⟨.targetMinimized, "the exact target is minimized and cached accessibility evidence is stale"⟩)
  | .unavailable =>
    .error (.computerUse ⟨.targetUnavailable, "the exact target is unavailable and cached accessibility evidence is stale"⟩)

def find : WindowProg Json :=
  refreshInputReadiness.tryThen fun _ =>
    ((finished targetAvailability).andThen lift).tryThen fun availability =>
      (modify fun w => w.observeTargetAvailability availability).tryThen fun _ =>
        (check (cachedReadAllowed availability.status)).tryThen fun _ =>
          check fun host =>
            match host.latestAccessibilityRoot, host.latestAccessibilityStateId with
            | none, _ =>
              .error (.computerUse ⟨.staleObservation, "take a snapshot before finding accessibility elements"⟩)
            | some _, none =>
              .error (.computerUse ⟨.staleObservation, "accessibility state is unavailable; take a snapshot first"⟩)
            | some root, some _ => .ok root

/-- One round of `handle_wait_for`: a probe that is cancelled or timed out is abandoned. -/
def waitRound : Prog Window WindowEvent (Option (Except RequestError Json)) :=
  ensureSessionNotInterrupted.andThen fun
    | .error error => Prog.ret (some (.error error))
    | .ok () => choice.andThen fun abandoned =>
      if abandoned then (modify invalidateActionObservations).andThen fun _ => Prog.ret (some (.ok .null))
      else (attempt.tryThen fun root => ensureSessionNotInterrupted.tryThen fun _ => Prog.ret (.ok root)).andThen fun
        | .error error => Prog.ret (some (.error error))
        | .ok root => choice.andThen fun elapsed => Prog.ret (if elapsed then some (.ok root) else none)

def waitFor : WindowProg Json := Prog.roundsUntil waitRound

/-- `wait_for_window_post_snapshot_delay`. -/
def postSnapshotDelay : WindowProg Unit := Prog.roundsUntil <|
  ensureSessionNotInterrupted.andThen fun
    | .error error => Prog.ret (some (.error error))
    | .ok () => choice.andThen fun elapsed => Prog.ret (if elapsed then some (.ok ()) else none)

def clearNative : WindowProg Unit := modify clearNativeObservationCaches

/-- What an action must satisfy in its session. -/
def validateAction (request : ExecuteActionRequest) (host : HostSession) : Except RequestError Unit := do
  require (request.action.inputKind ≠ "raw_input" || host.permissions.rawInput) (denied .rawInputNotGranted "raw input")
  onlyIf (host.observationMode = .pixelsOnly) do
    host.requirePixelsInputGrant request.action
    require (!(request.captureAfter && request.postSnapshotSemantic)) (.computerUse ⟨.invalidAction,
      "pixels_only input cannot request a semantic post-action observation"⟩)
  host.requireLatestObservation request.observationId
  require ((request.action.elementIndex.isNone && request.action.elementToken.isNone) ||
      host.latestAccessibilityStateId = some request.accessibilityStateId)
    (.computerUse ⟨.staleObservation, "semantic action requires the latest accessibility_state_id"⟩)

/-- The refresh of the evidence of a confirmed action; the action is bound again, or everything is given up. -/
def refreshConfirmedAction : WindowProg Unit :=
  attempt.tryThen fun root => (orInvalidate decision).tryThen fun _ =>
    (Prog.ret (observationIdOf root)).tryThen fun observationId =>
      modify fun w => { w with host := w.host.recordObservation observationId (some root) }

/-- The confirmation of an action: whether it is allowed. -/
def confirmAction : WindowProg Bool :=
  decision.tryThen fun _ => choice.andThen fun allowed =>
    if allowed then choice.andThen fun refresh =>
      (if refresh then refreshConfirmedAction else Prog.ret (.ok ())).tryThen fun _ => Prog.ret (.ok true)
    else Prog.ret (.ok false)

/-- The observation after an action, from a semantic snapshot or a screenshot. -/
def observeAfterAction (semantic : Bool) : WindowProg Json :=
  (finished coreCall).andThen fun
    | .error _ => clearNative.tryThen fun _ => withImages .null
    | .ok value => (Prog.ret (observationIdOf value)).tryThen fun observationId =>
      (modify fun w => { w with host :=
        if semantic then w.host.recordObservation observationId (some value)
        else w.host.recordSnapshotObservation observationId value }).tryThen fun _ => withImages value

def finishAction (request : ExecuteActionRequest) : WindowProg Json :=
  if request.captureAfter then
    postSnapshotDelay.andThen fun
      | .error _ => clearNative.tryThen fun _ => withImages .null
      | .ok () => observeAfterAction request.postSnapshotSemantic
  else clearNative.tryThen fun _ => withImages .null

/-- `perform_action`: a session without semantic observation gives up what it retained. -/
def performAction : WindowProg Json :=
  (Prog.read fun w => decide (w.host.observationMode = .pixelsOnly)).andThen fun pixelsOnly =>
    if pixelsOnly then mutationAttempt else attempt

/-- `revalidate_queued_action`. -/
def revalidateQueuedAction : WindowProg Unit :=
  (Prog.read fun w => decide (w.host.observationMode = .pixelsOnly) || w.host.taskAuthorization.isSome).andThen fun needed =>
    if needed then revalidateQueuedWindowMutation else Prog.ret (.ok ())

/-- A rejected action and a refused confirmation are responses without a call. -/
def executeAction (request : ExecuteActionRequest) : WindowProg Json :=
  decision.tryThen fun _ => (check (validateAction request)).tryThen fun _ => choice.andThen fun rejected =>
    if rejected then Prog.ret (.ok .null)
    else choice.andThen fun confirm =>
      (if confirm then confirmAction else Prog.ret (.ok true)).tryThen fun allowed =>
        if allowed then decision.tryThen fun _ => revalidateQueuedAction.tryThen fun _ =>
          performAction.tryThen fun _ => finishAction request
        else Prog.ret (.ok .null)

/-- The events of the session are asked for after the input and the target were probed. -/
def pollRound (afterSequence : Nat) : Prog Window WindowEvent (Option (Except RequestError Json)) :=
  choice.andThen fun deadlineReached => ensureSessionNotInterrupted.andThen fun
    | .error error => Prog.ret (some (.error error))
    | .ok () => operate.andThen fun _ => refreshInputReadiness.andThen fun _ => probeTarget.andThen fun _ =>
      Prog.read fun w =>
        let page := w.host.inputEvents.pageAfter afterSequence deadlineReached
        if page.timedOut || page.resyncRequired || !page.events.isEmpty then some (.ok .null) else none

def pollSessionEvents (afterSequence : Nat) : WindowProg Json := Prog.roundsUntil (pollRound afterSequence)

def refreshStatus : Prog Window WindowEvent Bool := refreshInputReadiness.andThen fun _ => probeTarget

def getInputState : WindowProg Json := refreshStatus.andThen fun _ => Prog.ret (.ok .null)

def sessionHealth : WindowProg Json :=
  refreshStatus.andThen fun _ => (Prog.read fun w => w.host.permissions.recording).andThen fun recording =>
    (if recording then finished coreCall else Prog.ret (.ok .null)).andThen fun _ =>
      refreshStatus.andThen fun _ => Prog.ret (.ok .null)

/-- The handlers, after the session was authorized. -/
def serve (env : WindowEnv) : WindowCall → WindowProg Json
  | .capturePreparationBegin => beginCapturePreparation
  | .capturePreparationState => capturePreparationState
  | .capturePreparationStop => stopCapturePreparation
  | .capturePreparationSnapshot => capturePreparationSnapshot
  | .terminateApp => terminateApp
  | .clipboardRead => clipboardRead
  | .clipboardCaptureSecret observationId => clipboardCaptureSecret observationId
  | .clipboardWrite => clipboardWrite
  | .recordingStart _ _ _ => recordingStart
  | .recordingStop => recordingStop
  | .recordingState => recordingState
  | .liveObservationStart => liveObservationStart
  | .liveObservationState => liveObservationState
  | .liveObservationStop => liveObservationStop
  | .getWindowState => getWindowState
  | .changeWindowState operation stateId => changeWindowState operation stateId
  | .minimizeWindow observationId => minimizeWindow observationId
  | .setWindowFrame stateId => setWindowFrame stateId
  | .invokeMenu => invokeMenu
  | .snapshot activateBefore captureDiagnostics popups => snapshot activateBefore captureDiagnostics popups
  | .zoom => zoom
  | .accessibilitySnapshot => accessibilitySnapshot
  | .verifyState => verifyState
  | .callTool => callTool
  | .browserSnapshot request => browserSnapshot env request
  | .browserPrepare request => browserPrepare request
  | .browserNavigate request => browserNavigate env request
  | .browserClick request => browserClick request
  | .browserType request => browserType env request
  | .browserPointer request => browserPointer request
  | .browserSetInputFiles request => browserSetInputFiles request
  | .browserDownload request => browserDownload request
  | .browserDialog request => browserDialog request
  | .browserExtensionStatus => browserExtensionStatus
  | .browserExtensionCall request => browserExtensionCall env request
  | .find => find
  | .waitFor => waitFor
  | .executeAction request => executeAction request
  | .resumeSession => resumeSession
  | .getSessionState => getSessionState
  | .getInputState => getInputState
  | .sessionHealth => sessionHealth
  | .pollSessionEvents afterSequence => pollSessionEvents afterSequence
  | .cursorTool => cursorTool
  | .escalateSession => escalateSession

/-- Let a request through: a wait for events is let through at each of its rounds. -/
def authorize (call : WindowCall) : WindowProg Unit :=
  match call with
  | .pollSessionEvents _ => Prog.ret (.ok ())
  | call => (if call.readsStatus then Prog.ret (.ok ()) else authorizedSession).tryThen fun _ => operate

/-- `handle_request_inner` for a request that names the session. -/
def handleRequest (env : WindowEnv) (request : WindowRequest) : WindowProg Json :=
  (check fun host => host.admits request).tryThen fun _ => (authorize request.call).tryThen fun _ => serve env request.call

/-- `finish_window_evidence_request`. -/
def finishWindowEvidenceRequest (w : Window) (publication : HostEvidencePublication) (result : Except RequestError Json) : Window :=
  let w := if w.host.interrupted then w else w.markActivity
  match result with
  | .ok _ => w.synchronizeActionEvidenceEpochWith publication
  | .error _ =>
    let w := w.synchronizeActionEvidenceEpoch
    if publication ≠ .none then w.discardBrowserEvidence else w

/-! ### Between the requests -/

/-- `refresh_connection_session_states`. -/
def refreshState : Prog Window WindowEvent Unit :=
  refreshInputReadiness.andThen fun _ => validateActiveTaskAuthorization.andThen fun
    | .ok () => probeTarget.andThen fun _ => Prog.ret ()
    | .error _ => (modify invalidateObservations).andThen fun _ =>
      (Prog.read fun w => w.host.interrupted).andThen fun interrupted =>
        if interrupted then Prog.ret () else (modify interrupt).andThen fun _ => stopCore

/-- `stop_connection_control_sessions`. -/
def stopControl : Prog Window WindowEvent Unit :=
  (Prog.read fun w => w.host.interrupted).andThen fun interrupted =>
    if interrupted then Prog.ret ()
    else (modify interrupt).andThen fun _ => stopCore.andThen fun _ => (modify invalidateObservations).andThen fun _ => Prog.ret ()

end Window

/-! ### The machine -/

/-- A session of a connection; `present` tells whether the connection still has it and goes on. When a request last
    presented the grant and the capability is a note of the model. -/
structure WindowSlot where
  window : Window
  present : Bool
  presentedAt : Nat

/-- What happens at a session. The requests that the wrapper does not route name a session without using it: to
    cancel a wait, or to open a session or to launch an application under an id that is taken. -/
inductive WindowInput where
  | request (request : WindowRequest) (script : List WindowEvent)
  | unrouted (taskGrantId : String) (windowCapability : Option String)
  | stopSession
  | reapIdle
  | refreshState (script : List WindowEvent)
  | interrupted (script : List WindowEvent)
  | elapsed (ms : Nat)

namespace WindowSlot

/-- A session as it is opened: the request that opens it hands out the capability. -/
def opened (host : HostSession) (preauthorized : Option TrustedTaskAuthorizationLease) (now : Nat) : WindowSlot :=
  ⟨⟨host.opened (taskBrowserSession preauthorized) now, now, []⟩, true, now⟩

/-- The state in which a program between the requests ends; a connection whose program never ends does not go on. -/
def settle (s : WindowSlot) : Ran Window WindowEvent Unit → WindowSlot
  | .done _ w _ => { s with window := w }
  | .cut w => { s with window := w, present := false }

/-- The request presents the grant and the capability of the session. -/
def presents (s : WindowSlot) (request : WindowRequest) : Bool :=
  s.window.host.presents request.taskGrantId request.windowCapability

/-- `prepare_window_evidence_request`. -/
def prepared (s : WindowSlot) : Window := s.window.synchronizeActionEvidenceEpoch

/-- The session after a request that ended in `w`; a terminated application takes its session with it. -/
def finish (s : WindowSlot) (request : WindowRequest) (result : Except RequestError Json) (w : Window) : WindowSlot :=
  let presentedAt := if s.presents request then w.now else s.presentedAt
  match request.call, result with
  | .terminateApp, .ok _ => ⟨w, false, presentedAt⟩
  | call, result => ⟨w.finishWindowEvidenceRequest call.publication result, s.present, presentedAt⟩

def handle (env : WindowEnv) (s : WindowSlot) (request : WindowRequest) (script : List WindowEvent) :
    Option (Except RequestError Json) × WindowSlot :=
  match Window.handleRequest env request s.prepared script with
  | .done result w _ => (some result, s.finish request result w)
  | .cut w => (none, { s with window := w, present := false })

/-- `reap_idle_window_sessions`. -/
def reapIdle (s : WindowSlot) : WindowSlot :=
  if s.window.isIdleExpired then { s with window := s.window.invalidateObservations, present := false } else s

def step (env : WindowEnv) (s : WindowSlot) (input : WindowInput) : Option (Except RequestError Json) × WindowSlot :=
  match input with
  | .elapsed ms => (none, { s with window := s.window.elapse ms })
  | input =>
    if s.present then
      match input with
      | .request request script => s.handle env request script
      | .stopSession => (none, { s with present := false })
      | .reapIdle => (none, s.reapIdle)
      | .refreshState script => (none, s.settle (Window.refreshState s.window script))
      | .interrupted script => (none, s.settle (Window.stopControl s.window script))
      | .unrouted _ _ | .elapsed _ => (none, s)
    else (none, s)

end WindowSlot

def windowMachine (env : WindowEnv) : Machine WindowSlot WindowInput (Option (Except RequestError Json)) where
  step := WindowSlot.step env

end DccCua
