import DccCua.Core.Actions

/-! # Recording and the end of a session

The starts and stops of recordings on both routes, `stop`, and the starts of a session. A pixels-only session
of Windows records video without a trajectory and keeps the obligation to clean up its recorder; the other
route records a trajectory, with a video of a live source beside it.

The passive capture preparation of Windows, which can only take the success of a stop away, is left out. -/

namespace DccCua

open Runs Script

structure ComputerUseSessionStopResult where
  success : Bool
  cleanupPending : Bool
  cleanupIssues : List (ComputerUseCleanupPhase × ComputerUseError)
  deriving DecidableEq, Repr

namespace ComputerUseSession

section
variable (platform : SessionPlatform)

def usesNativeVideoRecording (s : ComputerUseSession) : Bool :=
  platform = .windows ∧ s.pixelObservationRoute = some .explicitPixelsOnly

/-- A call of a tool that is bound to the window. -/
def callBoundTool {α : Type} (answer : SessionEvent → Option (Except ComputerUseError α)) : SessionProg α :=
  requireCurrentUpstreamSessionForEvidence.tryThen fun _ =>
  (requireNotLinuxPixels platform).tryThen fun _ => attempt (ask answer)

def stopRecordingTool : SessionProg Unit :=
  callBoundTool platform fun event => match event with
    | .toolCalled result => some result
    | _ => none

/-- Whether the lease of the new trajectory is healthy. -/
def startRecordingTool : SessionProg Bool :=
  callBoundTool platform fun event => match event with
    | .recordingStarted result => some result
    | _ => none

/-- A recorder starts to work. -/
def spawnRecorder (s : ComputerUseSession) : Nat × ComputerUseSession :=
  (s.nextRecorder, { s.record (.recorderStarted s.nextRecorder) with nextRecorder := s.nextRecorder + 1 })

def askRecorderReady : Prog ComputerUseSession SessionEvent (Except ComputerUseError Unit) :=
  ask fun event => match event with
    | .recorderReady result => some result
    | _ => none

/-- A failed start joins both tasks of the recorder before it returns. -/
def startupFailed (recorder : Nat) (s : ComputerUseSession) : ComputerUseSession := s.record (.recorderStopped recorder true)

/-- The recorder of the trajectory route. -/
def startRecorder (owns healthy : Bool) : SessionProg Unit :=
  Prog.andThen (Prog.update spawnRecorder) fun recorder =>
  askRecorderReady.andThen fun
    | .ok () => modify fun s => { s.record (.recorderOwned recorder) with showcase := some ⟨recorder, owns⟩, recordingKeepalive := healthy }
    | .error error =>
      (modify (startupFailed recorder)).tryThen fun _ =>
      (stopRecordingTool platform).andThen fun _ =>
      (modify fun s => { s with recordingActive := false }).tryThen fun _ =>
      (onlyWhen owns stopLiveObservation).tryThen fun _ => Prog.ret (.error error)

def recordingStartAfterTargetValidation (recordVideo : Bool) : SessionProg Unit :=
  (startRecordingTool platform).tryThen fun healthy =>
  (modify fun s => { s with recordingActive := true }).tryThen fun _ =>
  if !recordVideo then modify fun s => { s with recordingKeepalive := healthy }
  else
    (ensureLiveObservation platform).andThen fun
      | .error error =>
        (stopRecordingTool platform).andThen fun _ =>
        (modify fun s => { s with recordingActive := false }).tryThen fun _ => Prog.ret (.error error)
      | .ok disposition => startRecorder platform (disposition = .startedNew) healthy

/-- Pending is recorded before the recorder can create a file. -/
def ownRecorder (s : ComputerUseSession) : Nat × ComputerUseSession :=
  let (recorder, s) := spawnRecorder s
  (recorder, { s.record (.recorderOwned recorder) with localCleanup := { s.localCleanup with recorderPending := true } })

def startOwnedNativeRecorder (owns : Bool) : SessionProg Unit :=
  (ensureLocalCleanupReusable platform).tryThen fun _ =>
  Prog.andThen (Prog.update ownRecorder) fun recorder =>
  askRecorderReady.andThen fun
    | .ok () =>
      modify fun s => { s with showcase := some ⟨recorder, owns⟩, localCleanup := { s.localCleanup with recorderPending := false } }
    | .error error =>
      Prog.update fun s =>
        (.error error, { startupFailed recorder s with localCleanup := { s.localCleanup with recorderPending := false } })

/-- The part of `native_recording_start` between the live source and the result. -/
def prepareNativeRecording (owns : Bool) : SessionProg Unit :=
  (check .nativeRecordingFrame).tryThen fun _ =>
  (startOwnedNativeRecorder platform owns).tryThen fun _ =>
  (check .nativeRecordingPublication).andThen fun
    | .ok () => Prog.ret (.ok ())
    | .error error => finalizeOwnedRecordingVideo.andThen fun _ => Prog.ret (.error error)

def nativeRecordingStart (recordVideo : Bool) : SessionProg Unit :=
  (ensureLocalCleanupReusable platform).tryThen fun _ =>
  if !recordVideo then
    Prog.ret (.error ⟨.invalidAction, "pixels_only recording requires record_video=true; no trajectory is available"⟩)
  else
    (Prog.read fun s =>
      if s.recordingActive ∨ s.showcase.isSome then
        .error ⟨.invalidAction, "native video recording is already active"⟩
      else .ok () : SessionProg Unit).tryThen fun _ =>
    requireObservedExactWindowObservationAvailable.tryThen fun _ =>
    requireObservedTargetAvailable.tryThen fun _ =>
    (ensureLiveObservation platform).tryThen fun disposition =>
    (prepareNativeRecording platform (disposition = .startedNew)).andThen fun
      | .ok () => modify fun s => { s with recordingActive := true }
      | .error error =>
        Prog.andThen (Prog.read fun s => decide (disposition = .startedNew ∧ s.liveObservation.isSome = true)) fun owned =>
        (onlyWhen owned stopLiveObservation).tryThen fun _ => Prog.ret (.error error)

def recordingStart (recordVideo : Bool) : SessionProg Unit :=
  (check .recordingStartRequest).tryThen fun _ =>
  ensureActive.tryThen fun _ =>
  Prog.andThen (Prog.read fun s => s.usesNativeVideoRecording platform) fun native =>
  if native then nativeRecordingStart platform recordVideo
  else
    requireObservedTargetAvailable.tryThen fun _ =>
    (Prog.read fun s =>
      if s.recordingActive then .error ⟨.invalidAction, "showcase recording is already active"⟩ else .ok ()
      : SessionProg Unit).tryThen fun _ => recordingStartAfterTargetValidation platform recordVideo

def nativeRecordingStop : SessionProg Unit :=
  (Prog.read fun s =>
    if !s.recordingActive then .error ⟨.invalidAction, "native video recording is not active"⟩ else .ok ()
    : SessionProg Unit).tryThen fun _ =>
  stopRecordingKeepalive.tryThen fun _ => finalizeOwnedRecordingVideo

/-- The trajectory route takes its recorder without an obligation. -/
def takeRecorder (s : ComputerUseSession) : Option ActiveShowcase × ComputerUseSession :=
  match s.showcase with
  | none => (none, s)
  | some showcase => (some showcase, { s.record (.recorderTaken showcase.recorder) with showcase := none })

/-- The video of the trajectory route. -/
def stopRecorder : Prog ComputerUseSession SessionEvent (Except ComputerUseError Unit) :=
  Prog.andThen (Prog.update takeRecorder) fun
    | none => Prog.ret (.ok ())
    | some showcase =>
      askRecorderStopped.andThen fun answer =>
      (modify fun s => s.record (.recorderStopped showcase.recorder answer.acknowledged)).tryThen fun _ =>
      (onlyWhen showcase.ownsLiveObservation stopLiveObservation).tryThen fun _ => Prog.ret answer.result

/-- The upstream trajectory is stopped only while this session owns it. -/
def stopTrajectory : SessionProg Unit :=
  Prog.tryThen
    (ask fun event => match event with
      | .trajectoryProbed result => some result
      | _ => none)
    fun owned =>
      if owned then
        ask fun event => match event with
          | .toolCalled result => some result
          | _ => none
      else Prog.ret (.ok ())

def recordingStop : SessionProg Unit :=
  Prog.andThen (Prog.read fun s => s.usesNativeVideoRecording platform) fun native =>
  if native then nativeRecordingStop
  else
    ensureActive.tryThen fun _ =>
    (Prog.read fun s =>
      if !s.recordingActive then .error ⟨.invalidAction, "showcase recording is not active"⟩ else .ok ()
      : SessionProg Unit).tryThen fun _ =>
    stopRecordingKeepalive.tryThen fun _ =>
    stopRecorder.andThen fun video =>
    stopTrajectory.andThen fun trajectory =>
    (modify fun s => { s with recordingActive := s.recordingActive && !trajectory.isOk }).tryThen fun _ =>
    (Prog.ret video : SessionProg Unit).tryThen fun _ => Prog.ret trajectory

def localStopResult (s : ComputerUseSession) : ComputerUseSessionStopResult where
  success := s.localCleanup.stopIssues = [] ∧ !s.localCleanup.pending
  cleanupPending := s.localCleanup.pending
  cleanupIssues := s.localCleanup.stopIssues

/-- `end_session` for the session that is still upstream. -/
def endUpstreamSession : SessionProg Unit :=
  Prog.andThen (Prog.read fun s => decide (s.target ≠ none ∧ s.upstreamSessionState = .active)) fun upstream =>
  onlyWhen upstream
    (Prog.andThen
      (ask fun event => match event with
        | .sessionEnded result => some result
        | _ => none)
      fun result => Prog.update fun s => (result, s.record (.upstreamEnded result.isOk)))

def stop : SessionProg ComputerUseSessionStopResult :=
  Prog.andThen (Prog.read fun s => s.recordingActive) fun recording =>
  (onlyWhen recording
    ((recordingStop platform).andThen fun result => modify (rememberFailure .recordingStop result))).tryThen fun _ =>
  stopLiveObservation.tryThen fun _ =>
  Prog.andThen (Prog.read fun s => s.active) fun active =>
  if !active then
    (invalidateLocalSession platform).andThen fun _ => Prog.read fun s => .ok s.localStopResult
  else
    endUpstreamSession.andThen fun result =>
    (invalidateLocalSession platform).andThen fun _ =>
    (Prog.ret result : SessionProg Unit).tryThen fun _ => Prog.read fun s => .ok s.localStopResult

/-! ### The starts of a session -/

end

end ComputerUseSession

/-- The calls that own recorders and sources, or end them. -/
inductive RecordingOperation where
  | recordingStart (recordVideo : Bool)
  | recordingStop
  | startLiveObservation
  | stopLiveObservation
  | stop
  | passes (event : SessionEvent)

namespace ComputerUseSession

/-- A stop that returned, with the state in which it did, or another end of a call. -/
def runRecording (platform : SessionPlatform) (s : ComputerUseSession) (script : List SessionEvent) :
    RecordingOperation → Option ComputerUseSessionStopResult × ComputerUseSession
  | .recordingStart recordVideo => (none, (recordingStart platform recordVideo s script).state)
  | .recordingStop => (none, (recordingStop platform s script).state)
  | .startLiveObservation => (none, (ensureLiveObservation platform s script).state)
  | .stopLiveObservation => (none, (ComputerUseSession.stopLiveObservation s script).state)
  | .stop =>
    match ComputerUseSession.stop platform s script with
    | .done (.ok result) s _ => (some result, s)
    | .done (.error _) s _ => (none, s)
    | .cut s => (none, s)
  | .passes event => (none, s.observe event)

end ComputerUseSession

/-- The output is the result of a `stop` that returned one. -/
def recordingMachine (platform : SessionPlatform) :
    Machine ComputerUseSession (RecordingOperation × List SessionEvent) (Option ComputerUseSessionStopResult) where
  step s input := s.runRecording platform input.2 input.1

end DccCua
