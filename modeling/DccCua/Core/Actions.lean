import DccCua.Core.Session

/-! # Action attempts and screenshots

`perform_action` with every place at which it sends input or fails, and `screenshot_with_bounds` on a session
with a live observation. -/

namespace DccCua

open Runs Script

/-- An action, with the predicates of the source on it, on its observation and on the effective action. -/
structure ComputerUseAction where
  observationId : Option Nat
  /-- `is_windows_uia_semantic_action` -/
  windowsUiaSemantic : Bool
  /-- `input_backend_id` is given. -/
  inputBackend : Bool
  /-- `explicit_input_backend_rejection` gives a reason. -/
  inputBackendRejected : Bool
  /-- `action_uses_local_window_coordinates` -/
  localWindowCoordinates : Bool
  /-- `uses_windows_local_foreground_path` -/
  localForegroundPath : Bool
  /-- `action_requires_physical_input_desktop` -/
  requiresPhysicalInputDesktop : Bool
  /-- `windows_fast_preflight_rejection` gives a reason. -/
  fastPreflightRejected : Bool
  foregroundDelivery : Bool
  isMove : Bool
  deriving DecidableEq, Repr

namespace ComputerUseSession

section Attempts
variable (platform : SessionPlatform)

/-- The running attempt has sent input, or may have. -/
def dispatchedIf (sent : Bool) : SessionProg Unit :=
  modify fun s => { s with history := { s.history with dispatched := s.history.dispatched || sent } }

def completeAction (status : ComputerUseToolStatus) : SessionProg ComputerUseToolStatus :=
  pause.andThen fun _ => Prog.update fun s => (.ok status, { s with postActionLiveSequenceFence := s.latestFence })

def completeMutatingAction (status : ComputerUseToolStatus) : SessionProg ComputerUseToolStatus :=
  (modify invalidateActionObservations).tryThen fun _ => completeAction status

def finishLocalMutationAttempt {α : Type} (result : Except ComputerUseError α) : SessionProg α :=
  Prog.update fun s =>
    match result with
    | .ok value => (.ok value, s)
    | .error error => (.error error, s.invalidateActionObservations)

/-- `run_gated_implicit_activation_attempt` of the exact target. -/
def activateTarget : SessionProg Unit :=
  (requireObservedInputAvailable platform).tryThen fun _ =>
  (modify invalidateActionObservations).tryThen fun _ =>
  (dispatchedIf true).tryThen fun _ =>
    ask fun event => match event with
      | .activated result => some result
      | _ => none

def askPerformed : Prog ComputerUseSession SessionEvent (Except ComputerUseError ComputerUseToolStatus) :=
  ask fun event => match event with
    | .performed result => some result
    | _ => none

/-- The route of a pixels-only session. -/
def performExactPixelAction : SessionProg ComputerUseToolStatus :=
  (check .keyboardContext).tryThen fun _ =>
  (check .pixelInputOwner).tryThen fun _ =>
  askPerformed.andThen fun outcome =>
  (dispatchedIf true).tryThen fun _ =>
  (modify invalidateActionObservations).tryThen fun _ =>
  (finishObservationSensitiveAttempt outcome).tryThen fun status => completeAction status

def performWindowsUiaAction : SessionProg ComputerUseToolStatus :=
  (check .windowsUia).tryThen fun _ =>
  askPerformed.andThen fun outcome =>
  (dispatchedIf true).tryThen fun _ =>
  (attempt (finishLocalMutationAttempt outcome)).tryThen fun status => completeMutatingAction status

/-- `finish_typed_dispatch_result`; only the answers that come before a dispatch leave the evidence alone. -/
def finishTypedDispatchResult : DriverAnswer → SessionProg (Except ComputerUseError Unit × Except ComputerUseError Unit)
  | .returned toolOk nativeResult =>
    (dispatchedIf true).tryThen fun _ =>
      (modify invalidateActionObservations).tryThen fun _ => Prog.ret (.ok (toolOk, nativeResult))
  | .interruptedCompleted error | .toolFailed error =>
    (dispatchedIf true).tryThen fun _ =>
      (modify invalidateActionObservations).tryThen fun _ => Prog.ret (.error error)
  | .interruptedUnknown error | .connectionFailed error | .timedOut error =>
    (dispatchedIf true).tryThen fun _ =>
      (invalidateLocalSession platform).andThen fun _ => Prog.ret (.error error)
  | .interruptedNotStarted error | .notDispatched error => Prog.ret (.error error)

def askCalled : Prog ComputerUseSession SessionEvent DriverAnswer :=
  ask fun event => match event with
    | .called answer => some answer
    | _ => none

/-- The call of the driver's tool. -/
def callActionTool : SessionProg ComputerUseToolStatus :=
  requireCurrentUpstreamSessionForEvidence.tryThen fun _ =>
  (check .sdkActionCommand).tryThen fun _ =>
  askCalled.andThen fun answer =>
  (attempt (finishTypedDispatchResult platform answer)).tryThen fun (toolOk, nativeResult) =>
  (finishObservationSensitiveAttempt toolOk).tryThen fun _ =>
  (finishObservationSensitiveAttempt nativeResult).tryThen fun _ => completeAction .succeeded

def moveCursor : SessionProg ComputerUseToolStatus :=
  (check .mapWindowCursorMove).tryThen fun _ =>
  (activateTarget platform).tryThen fun _ =>
  Prog.andThen
    (ask fun event => match event with
      | .cursorMoved result => some result
      | _ => none)
    fun result =>
      (dispatchedIf true).tryThen fun _ =>
      (finishLocalMutationAttempt result).tryThen fun _ => completeMutatingAction .succeeded

def requireSameTarget (message : String) (observation : ComputerUseObservation) (target : ExactWindowTarget) :
    Except ComputerUseError Unit :=
  if target.windowId ≠ observation.windowHandle ∨ target.pid ≠ observation.processId then
    .error ⟨.staleObservation, message⟩
  else .ok ()

/-- What remains when the fast path of Windows did not take the action. -/
def performSlowAction (action : ComputerUseAction) (observation : ComputerUseObservation) :
    SessionProg ComputerUseToolStatus :=
  (onlyWhen (platform = .windows)
    (requireObservedTargetAvailable.tryThen fun target =>
      (Prog.ret (requireSameTarget "the exact target window changed before Windows input dispatch" observation target)).tryThen
        fun _ => requireObservedInputAvailable platform)).tryThen fun _ =>
  if platform = .windows ∧ action.isMove ∧ action.foregroundDelivery then moveCursor platform else callActionTool platform

def askFastPerformed : SessionProg (Option ComputerUseToolStatus) :=
  ask fun event => match event with
    | .fastPerformed result => some result
    | _ => none

/-- `perform_windows_foreground_fast_action`: without a status the action is not one of the fast path. -/
def performFastAction (action : ComputerUseAction) (observation : ComputerUseObservation) :
    SessionProg ComputerUseToolStatus :=
  askFastPerformed.andThen fun outcome =>
  (dispatchedIf (outcome ≠ .ok none)).tryThen fun _ =>
  (attempt (finishLocalMutationAttempt outcome)).tryThen fun
    | some status => completeMutatingAction status
    | none => performSlowAction platform action observation

/-- The activation that foreground input needs. -/
def bringToForeground (action : ComputerUseAction) (target : ExactWindowTarget) : SessionProg Unit :=
  onlyWhen (platform = .windows ∧ action.foregroundDelivery ∧ !target.isForeground)
    ((activateTarget platform).tryThen fun _ =>
      requireObservedTargetAvailable.tryThen fun target =>
        (requireObservedInputAvailable platform).tryThen fun _ =>
          Prog.ret
            (if target.isForeground then .ok ()
             else .error ⟨.inputFailed, "the exact Windows target is not foreground before pointer input"⟩))

/-- The part of `perform_action` after its semantic routes. -/
def performInputAction (action : ComputerUseAction) (observation : ComputerUseObservation) (target : ExactWindowTarget) :
    SessionProg ComputerUseToolStatus :=
  (requireObservedInputAvailable platform).tryThen fun _ =>
  (onlyWhen observation.accessibilityAvailable (check .resolveSdkElementAction)).tryThen fun _ =>
  (onlyWhen (!observation.accessibilityAvailable || action.localWindowCoordinates)
    (check .actionForWindowVisualFallback)).tryThen fun _ =>
  let usesLocalWindowsFastPath :=
    platform = .windows ∧ (!observation.accessibilityAvailable || action.inputBackend || action.localForegroundPath)
  if usesLocalWindowsFastPath ∧ action.fastPreflightRejected then completeAction .rejected
  else
    (bringToForeground platform action target).tryThen fun _ =>
      if usesLocalWindowsFastPath then performFastAction platform action observation
      else performSlowAction platform action observation

def requireObservation (action : ComputerUseAction) : SessionProg ComputerUseObservation :=
  Prog.read fun s =>
    match s.observation with
    | none => .error ⟨.staleObservation, "take a screenshot before performing Computer Use actions"⟩
    | some observation =>
      if action.observationId ≠ some observation.observationId then
        .error ⟨.staleObservation, "action observation_id does not match the latest screenshot"⟩
      else .ok observation

/-- `action_requires_current_upstream_evidence` -/
def requiresCurrentUpstreamEvidence (action : ComputerUseAction) (observation : ComputerUseObservation)
    (s : ComputerUseSession) : Bool :=
  s.upstreamSessionState = .active ∧
    (platform ≠ .windows ∨
      !action.windowsUiaSemantic && observation.accessibilityAvailable && !action.inputBackend && !action.localForegroundPath)

def performAction (action : ComputerUseAction) : SessionProg ComputerUseToolStatus :=
  ensureActive.tryThen fun _ =>
  (check .validateAction).tryThen fun _ =>
  (check .validateWindowActionCoordinates).tryThen fun _ =>
  (requireObservation action).tryThen fun observation =>
  Prog.andThen (Prog.read fun s => requiresCurrentUpstreamEvidence platform action observation s) fun upstream =>
  (onlyWhen upstream requireCurrentUpstreamSessionForEvidence).tryThen fun _ =>
  requireObservedTargetAvailable.tryThen fun target =>
  (Prog.ret (requireSameTarget "the exact target window changed after the screenshot" observation target)).tryThen fun _ =>
  (check .rejectAmbiguousEmbeddedBrowserNavigation).tryThen fun _ =>
  (onlyWhen (platform = .windows) (check .rejectOwnedModalTakeover)).tryThen fun _ =>
  (onlyWhen action.requiresPhysicalInputDesktop (requireObservedInputAvailable platform)).tryThen fun _ =>
  (check .validateActionObservation).tryThen fun _ =>
  Prog.andThen (Prog.read fun s => s.pixelObservationRoute) fun route =>
  if platform = .windows ∧ route = some .explicitPixelsOnly then performExactPixelAction
  else if action.inputBackendRejected then completeAction .rejected
  else if platform = .windows ∧ action.windowsUiaSemantic then performWindowsUiaAction
  else performInputAction platform action observation target

/-- The end of an attempt that returned a result, or failed at or after a dispatch. -/
def finishAttempt (result : Except ComputerUseError ComputerUseToolStatus) (s : ComputerUseSession) : ComputerUseSession :=
  if s.history.dispatched || result.isOk then s.record (.attempted s.latestFence) else s

/-- `performAction` with its place in the history. `complete_action` is the last thing that a result waits for;
    an error is still on its way when other threads run. -/
def attemptAction (action : ComputerUseAction) : SessionProg ComputerUseToolStatus :=
  Prog.andThen (Prog.update fun s => ((), { s with history := { s.history with dispatched := false } })) fun _ =>
  (performAction platform action).andThen fun
    | .ok status => Prog.update fun s => (.ok status, finishAttempt (.ok status) s)
    | .error error => pause.andThen fun _ => Prog.update fun s => (.error error, finishAttempt (.error error) s)

end Attempts

/-! ### Screenshots -/

section Screenshots
variable (platform : SessionPlatform)

/-- `refresh_upstream_session_before_observation_if_needed` -/
def refreshUpstreamSessionBeforeObservation : SessionProg Unit :=
  Prog.andThen (Prog.read fun s => s.upstreamSessionState) fun upstream =>
  if upstream ≠ .active then Prog.ret (.ok ())
  else
    askRefreshDue.tryThen fun due =>
    onlyWhen due
      (Prog.andThen
        ((requireObservedInputAvailable platform).tryThen fun _ => check .startUpstreamSession)
        fun result => Prog.update fun s => (result, s.invalidateActionObservations))

/-- `rebaseline_live_observation_transition_fence` -/
def rebaseline (s : ComputerUseSession) : ComputerUseSession :=
  if s.observationTransitionLiveSequenceFence.isSome then
    { s with observationTransitionLiveSequenceFence := s.latestFence.or s.observationTransitionLiveSequenceFence }
  else s

/-- The sequence after which a frame of the stream counts. -/
def afterSequence (streamId : Nat) (s : ComputerUseSession) : Option Nat :=
  observationSequenceFence streamId (s.observation.bind fun observation => observation.live)
    s.postActionLiveSequenceFence s.observationTransitionLiveSequenceFence

/-- The status of the stream, which the caller has checked to be there. -/
def streamStatus (s : ComputerUseSession) : LiveObservationStatus :=
  (s.liveObservation.map LiveObservation.status).getD .initial

/-- `LiveObservation::latest_after`: the status is looked at first, and then whenever the waiter wakes. -/
def latestAfterTurn (after : Option Nat) (event : SessionEvent) (s : ComputerUseSession) :
    Option (Except ComputerUseError LiveObservationFrame) × ComputerUseSession :=
  let status := s.streamStatus
  match event with
  | .woken => (frameAfter after status, s)
  | .waitTimedOut =>
    (some (.error ⟨.captureFailed, status.lastError.getD "live observation did not produce a fresh frame before the timeout"⟩), s)
  | .streamClosed => (some (.error ⟨.captureFailed, "live observation stopped before a frame was available"⟩), s)
  | event => (none, s.observe event)

def latestAfter (after : Option Nat) : SessionProg LiveObservationFrame := Prog.await (latestAfterTurn after)

def validateFrameEligibility (sequence : Nat) : SessionProg Unit :=
  Prog.read fun s => s.streamStatus.validateFrameEligibility sequence

/-- The frame that a screenshot publishes, between three checks of the desktop. -/
def gatedFrame (after : Option Nat) : SessionProg LiveObservationFrame :=
  (check .exactWindowObservationAvailable).tryThen fun _ =>
  (latestAfter after).tryThen fun frame =>
  (check .exactWindowObservationAvailable).tryThen fun _ =>
  (check .encodeFrame).tryThen fun _ =>
  (check .exactWindowObservationAvailable).tryThen fun _ => Prog.ret (.ok frame)

def revalidateObservedExactPublicationTarget (expected : ExactWindowTarget) : SessionProg ExactWindowTarget :=
  requireObservedExactWindowObservationAvailable.tryThen fun _ =>
  requireObservedTargetAvailable.tryThen fun observed =>
    if observed.pid ≠ expected.pid ∨ observed.windowId ≠ expected.windowId then
      finishObservationSensitiveAttempt
        (.error ⟨.targetUnavailable, "the exact target identity changed before observation publication"⟩)
    else Prog.ret (.ok observed)

def publishFrame (observationId : Nat) (target : ExactWindowTarget) (streamId sequence : Nat) (s : ComputerUseSession) :
    ComputerUseSession :=
  { s.record (.published streamId sequence) with
    postActionLiveSequenceFence := none
    observationTransitionLiveSequenceFence := none
    target := some target
    observation := some ⟨observationId, target.windowId, target.pid, false, some ⟨streamId, sequence⟩⟩ }

/-- The next number of `OBSERVATION_COUNTER`. -/
def askObservationId : SessionProg Nat :=
  ask fun event => match event with
    | .observationCounted observationId => some (.ok observationId)
    | _ => none

def askCaptured : SessionProg Unit :=
  ask fun event => match event with
    | .captured result => some result
    | _ => none

/-- `live_observation_screenshot` of the stream `streamId`. -/
def liveObservationScreenshot (streamId : Nat) : SessionProg Unit :=
  requireObservedExactWindowObservationAvailable.tryThen fun _ =>
  requireObservedTargetAvailable.tryThen fun _ =>
  requireObservedExactWindowObservationAvailable.tryThen fun _ =>
  (modify rebaseline).tryThen fun _ =>
  Prog.andThen (Prog.read fun s => s.afterSequence streamId) fun after =>
  (attempt (gatedFrame after)).tryThen fun frame =>
  requireObservedTargetAvailable.tryThen fun target =>
  (revalidateObservedExactPublicationTarget target).tryThen fun target =>
  (validateFrameEligibility frame.sequence).tryThen fun _ =>
  (check .beginCaptureExclusion).tryThen fun _ =>
  (check .frameProvenance).tryThen fun _ =>
  (validateFrameEligibility frame.sequence).tryThen fun _ =>
  askObservationId.tryThen fun observationId => modify (publishFrame observationId target streamId frame.sequence)

/-- The other routes of a screenshot: their evidence has no live frame. -/
def captureWithoutStream : SessionProg Unit :=
  requireObservedTargetAvailable.tryThen fun _ =>
  (attempt askCaptured).tryThen fun _ =>
  requireObservedTargetAvailable.tryThen fun target =>
  askObservationId.tryThen fun observationId =>
    modify fun s =>
      { s with target := some target,
               observation := some ⟨observationId, target.windowId, target.pid, true, none⟩ }

def screenshotWithBounds : SessionProg Unit :=
  ensureActive.tryThen fun _ =>
  (check .capturePreparationSettled).tryThen fun _ =>
  (refreshUpstreamSessionBeforeObservation platform).tryThen fun _ =>
  Prog.andThen (Prog.read fun s => s.liveObservation.map fun o => o.streamId) fun
    | some streamId => liveObservationScreenshot streamId
    | none => captureWithoutStream

end Screenshots

/-- A session that was just started on its target. -/
def started (upstream : UpstreamSessionState) (route : Option PixelObservationRoute) (target : ExactWindowTarget)
    (linuxPixels : Bool) (nextStreamId nextRecorder : Nat) : ComputerUseSession where
  active := true
  upstreamSessionState := upstream
  pixelObservationRoute := route
  target := some target
  observation := none
  liveObservation := none
  postActionLiveSequenceFence := none
  observationTransitionLiveSequenceFence := none
  showcase := none
  recordingActive := false
  recordingKeepalive := false
  linuxPixels := linuxPixels
  localCleanup := ⟨false, false, []⟩
  nextStreamId := nextStreamId
  nextRecorder := nextRecorder
  history := ⟨if upstream = .active then [.upstreamStarted] else [], false⟩

end ComputerUseSession

inductive SessionOperation where
  | performAction (action : ComputerUseAction)
  | invalidateActionObservations
  | startLiveObservation
  | stopLiveObservation
  | screenshot
  | passes (event : SessionEvent)

namespace ComputerUseSession

def run (platform : SessionPlatform) (s : ComputerUseSession) (script : List SessionEvent) :
    SessionOperation → ComputerUseSession
  | .performAction action => (attemptAction platform action s script).state
  | .invalidateActionObservations => s.invalidateActionObservations
  | .startLiveObservation => (ensureLiveObservation platform s script).state
  | .stopLiveObservation => (stopLiveObservation s script).state
  | .screenshot => (screenshotWithBounds platform s script).state
  | .passes event => s.observe event

end ComputerUseSession

/-- Each operation with its script. -/
def actionMachine (platform : SessionPlatform) : Machine ComputerUseSession (SessionOperation × List SessionEvent) Unit where
  step s input := ((), s.run platform input.2 input.1)

end DccCua
