import DccCua.Lib.Runs

/-! # The status of a live observation

`LiveObservationStatus`: the latest frame, the pause with its sequence fence, and the terminal reason. The
timing measurements of a frame, which no operation reads, are left out. -/

namespace DccCua

open Runs

inductive ComputerUseErrorCode where
  | backendUnavailable
  | overlayExclusionUnavailable
  | noAccessibilityProvider
  | browserRefused
  | clipboardRefused
  | recordingRefused
  | missingWindow
  | invalidTarget
  | targetMinimized
  | targetUnavailable
  | targetModalChanged
  | staleObservation
  | userInterrupted
  | invalidAction
  | interactiveDesktopUnavailable
  | inputFailed
  | sessionRefreshRequired
  | completionUnknown
  | captureFailed
  | foregroundActivationRefused
  deriving DecidableEq, Repr

structure ComputerUseError where
  code : ComputerUseErrorCode
  message : String
  deriving DecidableEq, Repr

inductive ComputerUseToolStatus where
  | succeeded
  | rejected
  deriving DecidableEq, Repr

/-- A frame, with the moment it was captured in nanoseconds. -/
structure LiveObservationFrame where
  sequence : Nat
  capturedAt : Nat
  deriving DecidableEq, Repr

structure LiveObservationReason where
  code : ComputerUseErrorCode
  message : String
  lastSequence : Option Nat
  deriving DecidableEq, Repr

structure LiveObservationStatus where
  latest : Option LiveObservationFrame
  framesCaptured : Nat
  framesReplaced : Nat
  captureFailures : Nat
  lastError : Option String
  pauseReason : Option LiveObservationReason
  pauseSequenceFence : Option Nat
  terminalReason : Option LiveObservationReason
  deriving DecidableEq, Repr

/-- `Ord::max` on `Option<u64>`: `None` is below every `Some`. -/
def optionMax : Option Nat → Option Nat → Option Nat
  | none, b => b
  | some a, none => some a
  | some a, some b => some (max a b)

namespace LiveObservationStatus

/-- The status before the first frame. -/
def initial : LiveObservationStatus := ⟨none, 0, 0, 0, none, none, none, none⟩

def latestSequence (s : LiveObservationStatus) : Option Nat := s.latest.map (·.sequence)

def recordError (s : LiveObservationStatus) (message : String) : LiveObservationStatus :=
  { s with captureFailures := s.captureFailures + 1, lastError := some message }

/-- `publish_measured_frame`: whether the frame is published, and the status after. -/
def publish (s : LiveObservationStatus) (frame : LiveObservationFrame) : Bool × LiveObservationStatus :=
  if s.terminalReason.isSome then (false, s)
  else if s.latest.any fun latest => frame.sequence ≤ latest.sequence then
    (false, s.recordError "a stale live frame cannot cross the pause or publication fence")
  else
    (true, { s with
      latest := some frame
      framesCaptured := s.framesCaptured + 1
      framesReplaced := if s.latest.isSome then s.framesReplaced + 1 else s.framesReplaced
      lastError := none
      pauseReason := none })

def reason (s : LiveObservationStatus) (error : ComputerUseError) : LiveObservationReason :=
  ⟨error.code, error.message, s.latestSequence⟩

def recordPaused (s : LiveObservationStatus) (error : ComputerUseError) : LiveObservationStatus :=
  if s.terminalReason.isSome then s
  else
    { s.recordError error.message with
      pauseSequenceFence := optionMax s.pauseSequenceFence s.latestSequence
      pauseReason := some (s.reason error) }

def pauseCaptureError (error : ComputerUseError) : Bool := error.code = .interactiveDesktopUnavailable

def recordTerminal (s : LiveObservationStatus) (error : ComputerUseError) : LiveObservationStatus :=
  if pauseCaptureError error then s.recordPaused error
  else { s.recordError error.message with pauseReason := none, terminalReason := some (s.reason error) }

def asError (reason : LiveObservationReason) : ComputerUseError := ⟨reason.code, reason.message⟩

def validateFrameEligibility (s : LiveObservationStatus) (sequence : Nat) : Except ComputerUseError Unit :=
  match (s.terminalReason.map asError).or (s.pauseReason.map asError) with
  | some error => .error error
  | none =>
    if s.pauseSequenceFence.any fun fence => sequence ≤ fence then
      .error ⟨.staleObservation, "the live frame predates a pause and cannot be reused after resume"⟩
    else if s.latest.all fun frame => frame.sequence < sequence then
      .error ⟨.staleObservation, "the live frame no longer belongs to the active stream"⟩
    else .ok ()

end LiveObservationStatus

inductive LiveObservationCall where
  | publish (frame : LiveObservationFrame)
  | recordError (message : String)
  | recordPaused (error : ComputerUseError)
  | recordTerminal (error : ComputerUseError)
  deriving DecidableEq, Repr

/-- The output is the sequence of the frame that a call publishes. -/
def liveObservationMachine : Machine LiveObservationStatus LiveObservationCall (Option Nat) where
  step s
    | .publish frame => (if (s.publish frame).1 then some frame.sequence else none, (s.publish frame).2)
    | .recordError message => (none, s.recordError message)
    | .recordPaused error => (none, s.recordPaused error)
    | .recordTerminal error => (none, s.recordTerminal error)

end DccCua
