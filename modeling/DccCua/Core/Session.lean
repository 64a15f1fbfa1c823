import DccCua.Core.LiveObservation
import DccCua.Lib.Script

/-! # The session of an exact window

`ComputerUseSession` with its target, its observation, its live observation with the frame fences, and the
owners it has to clean up. What the environment answers (the operating system, the driver, the capture worker)
is the script of a program; where the script ends, the call was dropped. The capture worker runs on its own: its
events may stand anywhere in a script.

Banners, marker, semantic tokens and platform metadata, which decide nothing here, are left out; the checks
of `SessionCheck` stand for validators and calls of the operating system that only allow or refuse. -/

namespace DccCua

open Runs Script

inductive SessionPlatform where
  | windows
  | linux
  | other
  deriving DecidableEq, Repr

structure LiveObservationFence where
  streamId : Nat
  sequence : Nat
  deriving DecidableEq, Repr

def LiveObservationFence.sequenceFor (fence : LiveObservationFence) (streamId : Nat) : Option Nat :=
  if fence.streamId = streamId then some fence.sequence else none

def observationSequenceFence (streamId : Nat) (decision actionCompletion transition : Option LiveObservationFence) :
    Option Nat :=
  optionMax
    (optionMax (decision.bind fun fence => fence.sequenceFor streamId)
      (actionCompletion.bind fun fence => fence.sequenceFor streamId))
    (transition.bind fun fence => fence.sequenceFor streamId)

/-- What the capture worker does. -/
inductive StreamEvent where
  | call (call : LiveObservationCall)
  | authorizationRevoked
  | finished
  deriving DecidableEq, Repr

structure LiveObservation where
  streamId : Nat
  preparationId : Option Nat
  status : LiveObservationStatus
  finished : Bool
  deriving DecidableEq, Repr

namespace LiveObservation

def latestFence (o : LiveObservation) : Option LiveObservationFence :=
  o.status.latest.map fun frame => ⟨o.streamId, frame.sequence⟩

/-- `with_portable_capture_authorization`: the last frame is withdrawn. -/
def revoke (s : LiveObservationStatus) : LiveObservationStatus :=
  { s.recordTerminal ⟨.invalidAction, "live capture task authorization expired or was revoked"⟩ with latest := none }

def observe (o : LiveObservation) : StreamEvent → LiveObservation
  | .call call => { o with status := (liveObservationMachine.step o.status call).2 }
  | .authorizationRevoked => { o with status := revoke o.status }
  | .finished => { o with finished := true }

/-- `live_observation_start_disposition` on the state of a stream. -/
def reusable (o : LiveObservation) : Bool := !o.finished && o.status.terminalReason.isNone

end LiveObservation

/-- One look of `wait_for_latest_frame` at the status. -/
def frameAfter (afterSequence : Option Nat) (status : LiveObservationStatus) :
    Option (Except ComputerUseError LiveObservationFrame) :=
  match (status.terminalReason.map LiveObservationStatus.asError).or (status.pauseReason.map LiveObservationStatus.asError) with
  | some error => some (.error error)
  | none =>
    (status.latest.filter fun frame => afterSequence.all fun sequence => sequence < frame.sequence).map Except.ok

/-- `WindowTarget`. -/
structure ExactWindowTarget where
  pid : Nat
  windowId : Nat
  isForeground : Bool
  isMinimized : Bool
  isOnScreen : Bool
  deriving DecidableEq, Repr

/-- An observation; `live` is the live stream and frame of its provenance. -/
structure ComputerUseObservation where
  observationId : Nat
  windowHandle : Nat
  processId : Nat
  accessibilityAvailable : Bool
  live : Option LiveObservationFence
  deriving DecidableEq, Repr

inductive UpstreamSessionState where
  | inactive
  | active
  | linuxPixelsOnly
  | visualOnly
  deriving DecidableEq, Repr

inductive PixelObservationRoute where
  | explicitPixelsOnly
  | accessibilityUnavailableDegraded
  | accessibilityTimeoutDegraded
  deriving DecidableEq, Repr

inductive ComputerUseCleanupPhase where
  | recordingStop
  | liveObservationStop
  deriving DecidableEq, Repr

structure LocalSessionCleanup where
  recorderPending : Bool
  sourcePending : Bool
  issues : List (ComputerUseCleanupPhase × ComputerUseError)
  deriving DecidableEq, Repr

namespace LocalSessionCleanup

def pending (c : LocalSessionCleanup) : Bool := c.recorderPending || c.sourcePending

def pendingIssue (c : LocalSessionCleanup) (phase : ComputerUseCleanupPhase) :
    List (ComputerUseCleanupPhase × ComputerUseError) :=
  if c.issues.any fun issue => issue.1 = phase then []
  else [(phase, ⟨.completionUnknown, "owned cleanup has not been acknowledged; do not retry native input"⟩)]

def stopIssues (c : LocalSessionCleanup) : List (ComputerUseCleanupPhase × ComputerUseError) :=
  c.issues ++ (if c.recorderPending then c.pendingIssue .recordingStop else [])
    ++ (if c.sourcePending then c.pendingIssue .liveObservationStop else [])

def remember (c : LocalSessionCleanup) (phase : ComputerUseCleanupPhase) (error : ComputerUseError) : LocalSessionCleanup :=
  if (phase, error) ∈ c.issues then c else { c with issues := c.issues ++ [(phase, error)] }

end LocalSessionCleanup

/-- How a recorder ends: its tasks are joined and say whether the media are final, or it fails, joined or not. -/
inductive RecorderAnswer where
  | ended (finalized : Bool)
  | failed (joined : Bool) (error : ComputerUseError)
  deriving DecidableEq, Repr

namespace RecorderAnswer

def acknowledged : RecorderAnswer → Bool
  | .ended _ => true
  | .failed joined _ => joined

/-- The result of a stop, with `RecordingVideoTerminalEvidence::try_from_finalized`. -/
def result : RecorderAnswer → Except ComputerUseError Unit
  | .ended true => .ok ()
  | .ended false => .error ⟨.captureFailed, "showcase stop did not return finalized terminal video evidence"⟩
  | .failed _ error => .error error

end RecorderAnswer

structure ActiveShowcase where
  recorder : Nat
  ownsLiveObservation : Bool
  deriving DecidableEq, Repr

/-- What happened to a session. The history is what the statements speak of: no operation reads it. -/
inductive Moment where
  | attempted (latest : Option LiveObservationFence)
  | invalidated (latest : Option LiveObservationFence)
  | published (streamId sequence : Nat)
  | sourceStarted (streamId : Nat)
  | sourceAttached (streamId : Nat)
  | sourceStopped (streamId : Nat) (acknowledged : Bool)
  | recorderStarted (recorder : Nat)
  | recorderOwned (recorder : Nat)
  | recorderTaken (recorder : Nat)
  | recorderStopped (recorder : Nat) (acknowledged : Bool)
  | targetLost
  | upstreamStarted
  | upstreamEnded (acknowledged : Bool)
  deriving DecidableEq, Repr

/-- The history, and whether the running action attempt may have sent input. -/
structure SessionHistory where
  moments : List Moment
  dispatched : Bool
  deriving DecidableEq, Repr

/-- `nextStreamId` and `nextRecorder` count over all sessions of the process. -/
structure ComputerUseSession where
  active : Bool
  upstreamSessionState : UpstreamSessionState
  pixelObservationRoute : Option PixelObservationRoute
  target : Option ExactWindowTarget
  observation : Option ComputerUseObservation
  liveObservation : Option LiveObservation
  postActionLiveSequenceFence : Option LiveObservationFence
  observationTransitionLiveSequenceFence : Option LiveObservationFence
  showcase : Option ActiveShowcase
  recordingActive : Bool
  recordingKeepalive : Bool
  linuxPixels : Bool
  localCleanup : LocalSessionCleanup
  nextStreamId : Nat
  nextRecorder : Nat
  history : SessionHistory

/-- Validators and calls that only allow or refuse, under the names of the source. -/
inductive SessionCheck where
  | nativeTaskAuthorization
  | capturePreparationSettled
  | inputAvailable
  | exactWindowObservationAvailable
  | validateAction
  | validateWindowActionCoordinates
  | rejectAmbiguousEmbeddedBrowserNavigation
  | rejectOwnedModalTakeover
  | validateActionObservation
  | keyboardContext
  | pixelInputOwner
  | windowsUia
  | resolveSdkElementAction
  | actionForWindowVisualFallback
  | mapWindowCursorMove
  | sdkActionCommand
  | liveObservationStartRequest
  | liveObservationTarget
  | startUpstreamSession
  | encodeFrame
  | beginCaptureExclusion
  | frameProvenance
  | recordingStartRequest
  | nativeRecordingFrame
  | nativeRecordingPublication
  | sessionStartRequest
  | bootstrapActivation
  | controlBanner
  deriving DecidableEq, Repr

/-- How the driver answers a call of one of its tools: a result, which may still be refused, or a `DriverError`
    with the error that it is mapped to. -/
inductive DriverAnswer where
  | returned (toolOk nativeResult : Except ComputerUseError Unit)
  | interruptedUnknown (error : ComputerUseError)
  | interruptedNotStarted (error : ComputerUseError)
  | interruptedCompleted (error : ComputerUseError)
  | toolFailed (error : ComputerUseError)
  | connectionFailed (error : ComputerUseError)
  | notDispatched (error : ComputerUseError)
  | timedOut (error : ComputerUseError)
  deriving DecidableEq, Repr

/-- What a script is made of. -/
inductive SessionEvent where
  | stream (event : StreamEvent)
  | otherStream
  | woken
  | waitTimedOut
  | streamClosed
  | resumed
  | checked (check : SessionCheck) (result : Except ComputerUseError Unit)
  | resolved (result : Except ComputerUseError ExactWindowTarget)
  | refreshDue (due : Bool)
  | preparation (result : Except ComputerUseError (Option Nat))
  | opened (events : List StreamEvent)
  | captured (result : Except ComputerUseError Unit)
  | observationCounted (observationId : Nat)
  | performed (result : Except ComputerUseError ComputerUseToolStatus)
  | fastPerformed (result : Except ComputerUseError (Option ComputerUseToolStatus))
  | activated (result : Except ComputerUseError Unit)
  | cursorMoved (result : Except ComputerUseError Unit)
  | called (answer : DriverAnswer)
  | keepaliveStopped
  | linuxDrained (result : Except ComputerUseError Unit)
  | sourceStopped (joined : Bool)
  | recorderReady (result : Except ComputerUseError Unit)
  | recorderStopped (answer : RecorderAnswer)
  | toolCalled (result : Except ComputerUseError Unit)
  | recordingStarted (result : Except ComputerUseError Bool)
  | trajectoryProbed (result : Except ComputerUseError Bool)
  | sessionEnded (result : Except ComputerUseError Unit)
  | upstreamAnswered (result : Except ComputerUseError Unit) (degraded : Bool)

/-- The result of `ensure_live_observation`. -/
inductive LiveObservationStartDisposition where
  | reuseExisting
  | startedNew
  deriving DecidableEq, Repr

abbrev SessionProg (α : Type) := Prog ComputerUseSession SessionEvent (Except ComputerUseError α)

namespace ComputerUseSession

def record (moment : Moment) (s : ComputerUseSession) : ComputerUseSession :=
  { s with history := { s.history with moments := s.history.moments ++ [moment] } }

def latestFence (s : ComputerUseSession) : Option LiveObservationFence := s.liveObservation.bind LiveObservation.latestFence

/-- The events that do not wait for the session. -/
def observe (event : SessionEvent) (s : ComputerUseSession) : ComputerUseSession :=
  match event with
  | .stream event => { s with liveObservation := s.liveObservation.map fun o => o.observe event }
  | .otherStream => { s with nextStreamId := s.nextStreamId + 1 }
  | _ => s

def invalidateActionObservations (s : ComputerUseSession) : ComputerUseSession :=
  { s.record (.invalidated s.latestFence) with
    observationTransitionLiveSequenceFence := s.latestFence.or s.observationTransitionLiveSequenceFence
    observation := none
    postActionLiveSequenceFence := none }

/-- The errors of an attempt that make the evidence of the session void. -/
def evidenceLost : ComputerUseErrorCode → Bool
  | .missingWindow | .invalidTarget | .targetMinimized | .targetUnavailable | .interactiveDesktopUnavailable => true
  | _ => false

def loseTarget (s : ComputerUseSession) : ComputerUseSession := { s.record .targetLost with target := none }

def finishObservationSensitive {α : Type} (result : Except ComputerUseError α) (s : ComputerUseSession) : ComputerUseSession :=
  match result with
  | .ok _ => s
  | .error error =>
    let s := if error.code = .missingWindow then s.loseTarget else s
    if evidenceLost error.code then s.invalidateActionObservations else s

/-! ### The questions of a program -/

/-- Wait for an answer; what it does not ask for passes. -/
def ask {α : Type} (answer : SessionEvent → Option α) : Prog ComputerUseSession SessionEvent α :=
  Prog.await fun event s => (answer event, s.observe event)

/-- Another thread may run here. -/
def pause : Prog ComputerUseSession SessionEvent Unit :=
  ask fun event => match event with
    | .resumed => some ()
    | _ => none

def modify (f : ComputerUseSession → ComputerUseSession) : SessionProg Unit := Prog.update fun s => (.ok (), f s)

def check (which : SessionCheck) : SessionProg Unit :=
  ask fun event => match event with
    | .checked other result => if other = which then some result else none
    | _ => none

/-- A program under a condition. -/
def onlyWhen (c : Bool) (prog : SessionProg Unit) : SessionProg Unit := if c then prog else Prog.ret (.ok ())

def finishObservationSensitiveAttempt {α : Type} (result : Except ComputerUseError α) : SessionProg α :=
  Prog.update fun s => (result, finishObservationSensitive result s)

/-- A program whose error may make the evidence void. -/
def attempt {α : Type} (prog : SessionProg α) : SessionProg α := prog.andThen finishObservationSensitiveAttempt

def ensureActive : SessionProg Unit :=
  (check .nativeTaskAuthorization).tryThen fun _ =>
    Prog.read fun s =>
      if s.active then .ok () else .error ⟨.backendUnavailable, "Computer Use session is not active"⟩

def requireNotLinuxPixels (platform : SessionPlatform) : SessionProg Unit :=
  Prog.read fun s =>
    if platform = .linux ∧ s.pixelObservationRoute = some .explicitPixelsOnly then
      .error ⟨.backendUnavailable, "Linux X11 pixels-only sessions are read-only; input, activation, accessibility and recording are unsupported"⟩
    else .ok ()

def resolveTarget : SessionProg ExactWindowTarget :=
  ask fun event => match event with
    | .resolved result => some result
    | _ => none

def revalidateTarget : SessionProg ExactWindowTarget :=
  resolveTarget.tryThen fun target =>
    Prog.read fun s =>
      match s.target with
      | none => .error ⟨.missingWindow, "session target is missing"⟩
      | some original =>
        if target.pid ≠ original.pid ∨ target.windowId ≠ original.windowId then
          .error ⟨.targetUnavailable, "the exact target identity changed"⟩
        else .ok target

def ensureTargetAvailableForAction (target : ExactWindowTarget) : Except ComputerUseError Unit :=
  if target.isMinimized then
    .error ⟨.targetMinimized, "the exact target is minimized; issue the explicit restore_activate window operation, then take a fresh observation before retrying"⟩
  else if !target.isOnScreen then
    .error ⟨.targetUnavailable, "the exact target is unavailable; wait for a typed target_available event and take a fresh observation before retrying"⟩
  else .ok ()

def requireObservedTargetAvailable : SessionProg ExactWindowTarget :=
  (attempt revalidateTarget).tryThen fun target =>
    (finishObservationSensitiveAttempt (ensureTargetAvailableForAction target)).tryThen fun _ => Prog.ret (.ok target)

def requireObservedInputAvailable (platform : SessionPlatform) : SessionProg Unit :=
  (requireNotLinuxPixels platform).tryThen fun _ =>
    (check .capturePreparationSettled).tryThen fun _ => attempt (check .inputAvailable)

def requireObservedExactWindowObservationAvailable : SessionProg Unit := attempt (check .exactWindowObservationAvailable)

def askRefreshDue : SessionProg Bool :=
  ask fun event => match event with
    | .refreshDue due => some (.ok due)
    | _ => none

def requireCurrentUpstreamSessionForEvidence : SessionProg Unit :=
  (Prog.update fun s =>
    if s.upstreamSessionState ≠ .active then
      (.error ⟨.backendUnavailable, "the upstream semantic session is unavailable; this session is restricted to explicitly approved exact-window visual fallback"⟩,
        s.invalidateActionObservations)
    else (.ok (), s) : SessionProg Unit).tryThen fun _ =>
  askRefreshDue.tryThen fun due => Prog.update fun s =>
    if due then
      (.error ⟨.sessionRefreshRequired, "the upstream session requires a fresh exact-target refresh"⟩,
        s.invalidateActionObservations)
    else (.ok (), s)

/-! ### The owners of a session -/

def ensureLocalCleanupReusable (platform : SessionPlatform) : SessionProg Unit :=
  Prog.read fun s =>
    if platform = .linux ∧ s.active = false ∧ s.linuxPixels then
      .error ⟨.completionUnknown, "previous X11 capture cleanup is pending; finish stop before reusing this session"⟩
    else if s.localCleanup.pending ∨ s.localCleanup.issues ≠ [] then
      .error ⟨if s.localCleanup.pending then .completionUnknown else .captureFailed, "previous owned cleanup is unresolved or failed; create a new session object"⟩
    else .ok ()

/-- The fences are dropped and the live observation leaves the session before its stop is awaited. -/
def takeLiveObservation (s : ComputerUseSession) : Option LiveObservation × ComputerUseSession :=
  (s.liveObservation,
    { s with
      postActionLiveSequenceFence := none
      observationTransitionLiveSequenceFence := none
      liveObservation := none
      localCleanup := { s.localCleanup with sourcePending := s.liveObservation.isSome || s.localCleanup.sourcePending } })

def sourceAnswered (streamId : Nat) (joined : Bool) (s : ComputerUseSession) : ComputerUseSession :=
  let cleanup := { s.localCleanup with sourcePending := !joined }
  { s.record (.sourceStopped streamId joined) with
    localCleanup :=
      if joined then cleanup
      else cleanup.remember .liveObservationStop ⟨.completionUnknown, "live observation worker did not acknowledge shutdown"⟩ }

def stopLiveObservation : SessionProg Unit :=
  Prog.andThen (Prog.update takeLiveObservation) fun
    | none => Prog.ret (.ok ())
    | some observation =>
      Prog.andThen
        (ask fun event => match event with
          | .sourceStopped joined => some joined
          | _ => none)
        fun joined => modify (sourceAnswered observation.streamId joined)

def stopLiveObservationForReplacement (platform : SessionPlatform) : SessionProg Unit :=
  stopLiveObservation.tryThen fun _ => ensureLocalCleanupReusable platform

def stopRecordingKeepalive : SessionProg Unit :=
  Prog.andThen (Prog.update fun s => (s.recordingKeepalive, { s with recordingKeepalive := false })) fun keepalive =>
    if keepalive then
      ask fun event => match event with
        | .keepaliveStopped => some (.ok ())
        | _ => none
    else Prog.ret (.ok ())

/-- The recorder leaves the session before its stop is awaited. -/
def takeShowcase (s : ComputerUseSession) : Option ActiveShowcase × ComputerUseSession :=
  (s.showcase,
    { s with recordingActive := false, showcase := none,
             localCleanup := { s.localCleanup with recorderPending := true } })

def rememberFailure (phase : ComputerUseCleanupPhase) (result : Except ComputerUseError Unit) (s : ComputerUseSession) :
    ComputerUseSession :=
  match result with
  | .ok () => s
  | .error error => { s with localCleanup := s.localCleanup.remember phase error }

def recorderAnswered (recorder : Nat) (answer : RecorderAnswer) (s : ComputerUseSession) : ComputerUseSession :=
  rememberFailure .recordingStop answer.result
    { s.record (.recorderStopped recorder answer.acknowledged) with
      localCleanup := { s.localCleanup with recorderPending := false } }

def askRecorderStopped : Prog ComputerUseSession SessionEvent RecorderAnswer :=
  ask fun event => match event with
    | .recorderStopped answer => some answer
    | _ => none

def finalizeOwnedRecordingVideo : SessionProg Unit :=
  Prog.andThen (Prog.update takeShowcase) fun
    | none =>
      Prog.update fun s =>
        let error : ComputerUseError := ⟨.completionUnknown, "active native recording lost its recorder owner"⟩
        (.error error, rememberFailure .recordingStop (.error error) s)
    | some showcase =>
      Prog.andThen askRecorderStopped fun answer =>
        (modify (recorderAnswered showcase.recorder answer)).tryThen fun _ =>
          if showcase.ownsLiveObservation then
            stopLiveObservation.tryThen fun _ => Prog.read fun s =>
              if answer.result.isOk ∧ s.localCleanup.sourcePending then
                .error ⟨.completionUnknown, "recording media drained but its owned live source did not acknowledge shutdown"⟩
              else answer.result
          else Prog.ret answer.result

def drainLinuxPixels : SessionProg Unit :=
  Prog.andThen (Prog.read fun s => s.linuxPixels) fun owned =>
    if owned then
      Prog.andThen
        (ask fun event => match event with
          | .linuxDrained result => some result
          | _ => none)
        fun result => modify fun s => { rememberFailure .liveObservationStop result s with linuxPixels := false }
    else Prog.ret (.ok ())

/-- The capability is revoked before the first await. -/
def revokeSession (s : ComputerUseSession) : ComputerUseSession := { s with active := false, upstreamSessionState := .inactive }

def revokeEvidence (s : ComputerUseSession) : ComputerUseSession :=
  { ({ s with pixelObservationRoute := none, target := none }).invalidateActionObservations with
    postActionLiveSequenceFence := none
    observationTransitionLiveSequenceFence := none
    recordingActive := false }

def invalidateLocalSession (platform : SessionPlatform) : SessionProg Unit :=
  (modify revokeSession).tryThen fun _ =>
  (if platform = .linux then drainLinuxPixels else Prog.ret (.ok ())).tryThen fun _ =>
  (modify revokeEvidence).tryThen fun _ =>
  stopRecordingKeepalive.tryThen fun _ =>
  Prog.andThen (Prog.read fun s => s.showcase.isSome) fun owned =>
  Prog.andThen (if owned then finalizeOwnedRecordingVideo else Prog.ret (.ok ())) fun _ => stopLiveObservation

/-! ### The start of a live observation -/

/-- The first frame of a new stream, from what its worker does before the wait ends. -/
def firstFrame (events : List StreamEvent) (o : LiveObservation) : Except ComputerUseError LiveObservation :=
  let o := events.foldl LiveObservation.observe o
  match frameAfter none o.status with
  | some (.ok _) => .ok o
  | some (.error error) => .error error
  | none => .error ⟨.captureFailed, o.status.lastError.getD "live observation did not produce a fresh frame before the timeout"⟩

/-- `LiveObservation::start`: the stream takes its id, its worker starts, and the first frame is awaited. -/
def openStream (preparationId : Option Nat) : SessionProg LiveObservation :=
  (check .liveObservationTarget).tryThen fun _ =>
  (Prog.update fun s => (.ok s.nextStreamId, { s.record (.sourceStarted s.nextStreamId) with nextStreamId := s.nextStreamId + 1 })
    : SessionProg Nat).tryThen fun streamId =>
  ask fun event => match event with
    | .opened events => some (firstFrame events ⟨streamId, preparationId, .initial, false⟩)
    | _ => none

def attach (observation : LiveObservation) (s : ComputerUseSession) : ComputerUseSession :=
  { s.record (.sourceAttached observation.streamId) with liveObservation := some observation }

def askPreparation (platform : SessionPlatform) : SessionProg (Option Nat) :=
  if platform = .windows then
    ask fun event => match event with
      | .preparation result => some result
      | _ => none
  else Prog.ret (.ok none)

def preflightLiveObservationStart (platform : SessionPlatform) (existing : Option Bool) :
    SessionProg LiveObservationStartDisposition :=
  (onlyWhen (platform = .windows) (check .exactWindowObservationAvailable)).tryThen fun _ =>
    requireObservedTargetAvailable.tryThen fun _ =>
      Prog.ret (.ok (if existing = some true then .reuseExisting else .startedNew))

/-- The state of the old stream is read before the target is revalidated. -/
def ensureLiveObservation (platform : SessionPlatform) : SessionProg LiveObservationStartDisposition :=
  (requireNotLinuxPixels platform).tryThen fun _ =>
  ensureActive.tryThen fun _ =>
  (check .liveObservationStartRequest).tryThen fun _ =>
  (ensureLocalCleanupReusable platform).tryThen fun _ =>
  (askPreparation platform).tryThen fun preparationId =>
  (Prog.read fun s => .ok (platform = .windows ∧ s.liveObservation.any fun o => o.preparationId ≠ preparationId)
    : SessionProg Bool).tryThen fun replaced =>
  (onlyWhen replaced (stopLiveObservationForReplacement platform)).tryThen fun _ =>
  Prog.andThen (Prog.read fun s => s.liveObservation.map LiveObservation.reusable) fun existing =>
  (attempt (preflightLiveObservationStart platform existing)).tryThen fun
    | .reuseExisting => Prog.ret (.ok .reuseExisting)
    | .startedNew =>
      Prog.andThen (Prog.read fun s => s.liveObservation.isSome) fun owned =>
      (onlyWhen owned (stopLiveObservationForReplacement platform)).tryThen fun _ =>
      (modify invalidateActionObservations).tryThen fun _ =>
      (openStream preparationId).tryThen fun observation =>
      (modify (attach observation)).tryThen fun _ => Prog.ret (.ok .startedNew)

end ComputerUseSession
end DccCua
