import DccCua.Core.Session
import DccCua.Lib.Checks
import Mathlib.Algebra.Group.Int.Defs
import Mathlib.Algebra.Group.Nat.Defs

/-! # Native window-state tokens

A read of the native state of an exact window may leave two tokens in the session: one for a frame mutation, one
for the dismissal of a menu (`window_commands.rs`, `native_menu_commands.rs` and `session.rs` of the core, with the
sequences of `exact_window_frame.rs` and `native_menu_dismiss`). The session is borrowed for the whole of an
operation, so that what the environment answers to one operation is a record; only the revalidation of the target
is awaited, and where it has no answer the operation was dropped. Instants are in nanoseconds, and the coordinates
of a frame, which the code takes as finite floats, are rationals.

Windows builds only: elsewhere there are no tokens. The other evidence of the session is that of `Core.Session`. -/

namespace DccCua

open Runs Checks Script

/-! ### Native state -/

structure NativeRect where
  x : Int
  y : Int
  width : Int
  height : Int
  deriving DecidableEq, Repr

structure ExactWindowPixelInstanceEvidence where
  processCreationTime : Nat
  windowThreadId : Nat
  windowClassHash : Nat
  ownerWindowHandle : Nat
  deriving DecidableEq, Repr

structure ExactWindowNativeState where
  processId : Nat
  windowHandle : Nat
  bounds : Option NativeRect
  visibleBounds : Option NativeRect
  dpi : Nat
  visible : Bool
  minimized : Bool
  maximized : Bool
  foreground : Bool
  instanceEvidence : ExactWindowPixelInstanceEvidence
  deriving DecidableEq, Repr

structure NativeMenuProof where
  popup : ExactWindowNativeState
  owner : ExactWindowNativeState
  flags : Nat
  activeWindowHandle : Nat
  captureWindowHandle : Nat
  deriving DecidableEq, Repr

inductive UiaError where
  | userInterrupted
  | unsupported
  | invalidTarget (reason : String)
  | targetMinimized (reason : String)
  | staleSnapshot (reason : String)
  | permissionDenied (reason : String)
  | interactiveDesktopUnavailable (stage reason : String)
  | invalidAction (reason : String)
  | noAccessibilityProvider (reason : String)
  | backendUnavailable (reason : String)
  | operationFailed (reason : String)
  | protocolMismatch (message : String)
  | foregroundActivationRefused (reason : String)
  deriving DecidableEq, Repr

namespace UiaError

def display : UiaError → String
  | userInterrupted => "Windows window activation was interrupted"
  | unsupported => "Windows UI Automation fallback is unavailable on this platform"
  | invalidTarget reason => "Windows UI Automation target is invalid: " ++ reason
  | targetMinimized reason => "Windows UI Automation target is minimized: " ++ reason
  | staleSnapshot reason => "Windows UI Automation snapshot is stale: " ++ reason
  | permissionDenied reason => "Windows UI Automation denied the request: " ++ reason
  | interactiveDesktopUnavailable stage reason =>
    "Windows interactive desktop is unavailable during " ++ stage ++ ": " ++ reason
  | invalidAction reason => "Windows UI Automation action is invalid: " ++ reason
  | noAccessibilityProvider reason =>
    "the exact window has no usable Windows UI Automation provider: " ++ reason
  | backendUnavailable reason => "Windows UI Automation backend failed: " ++ reason
  | operationFailed reason => "Windows UI Automation operation failed: " ++ reason
  | protocolMismatch message => message
  | foregroundActivationRefused reason => "Windows refused exact-window foreground activation: " ++ reason

def code : UiaError → ComputerUseErrorCode
  | userInterrupted => .userInterrupted
  | foregroundActivationRefused _ => .foregroundActivationRefused
  | interactiveDesktopUnavailable .. => .interactiveDesktopUnavailable
  | targetMinimized _ => .targetMinimized
  | invalidTarget _ => .targetUnavailable
  | _ => .inputFailed

end UiaError

def mapWindowsWindowMutationError (context : String) (error : UiaError) : ComputerUseError :=
  ⟨error.code, context ++ ": " ++ error.display⟩

def i32Min : Int := -2 ^ 31

def i32Max : Int := 2 ^ 31 - 1

/-- `checked_add` of two `i32` has a value. -/
def addsInI32 (a b : Int) : Bool := i32Min ≤ a + b && a + b ≤ i32Max

def validateExactWindowFrame (frame : NativeRect) : Except UiaError Unit :=
  if frame.width ≤ 0 || frame.height ≤ 0 || !addsInI32 frame.x frame.width || !addsInI32 frame.y frame.height then
    .error (.invalidAction "physical frame has empty or overflowing extents")
  else .ok ()

structure ComputerUseWindowFrameRequest where
  x : Rat
  y : Rat
  width : Rat
  height : Rat
  deriving DecidableEq, Repr

def ComputerUseWindowFrameRequest.validate (request : ComputerUseWindowFrameRequest) : Except ComputerUseError Unit :=
  if request.width < 1 || request.height < 1 then
    .error ⟨.invalidAction, "window frame coordinates must be finite and dimensions must be at least 1"⟩
  else .ok ()

def exactPhysicalWindowFrame (request : ComputerUseWindowFrameRequest) : Except ComputerUseError NativeRect := do
  request.validate
  require ([request.x, request.y, request.width, request.height].all fun v => v.den = 1 && i32Min ≤ v && v ≤ i32Max)
    ⟨.invalidAction, "native physical frame requires exact i32 integers"⟩
  let frame : NativeRect := ⟨request.x.num, request.y.num, request.width.num, request.height.num⟩
  require (addsInI32 frame.x frame.width && addsInI32 frame.y frame.height)
    ⟨.invalidAction, "native physical frame extents overflow"⟩
  .ok frame

/-! ### The session -/

/-- Five seconds. -/
def nativeStateMaxAge : Nat := 5000000000

structure NativeWindowFrameMetadata where
  id : String
  sessionId : String
  readAt : Nat
  state : ExactWindowNativeState
  deriving DecidableEq, Repr

structure NativeMenuMetadata where
  id : String
  sessionId : String
  readAt : Nat
  proof : NativeMenuProof
  deriving DecidableEq, Repr

inductive NativePurpose where
  | frame
  | menu
  deriving DecidableEq, Repr

/-- A window as its process and its instance. -/
structure ExactWindow where
  processId : Nat
  windowHandle : Nat
  instanceEvidence : ExactWindowPixelInstanceEvidence
  deriving DecidableEq, Repr

def ExactWindowNativeState.window (state : ExactWindowNativeState) : ExactWindow :=
  ⟨state.processId, state.windowHandle, state.instanceEvidence⟩

/-- What has happened to the tokens. No operation reads it. -/
inductive NativeEvent where
  | read
  | minted (purpose : NativePurpose) (id sessionId : String) (window : ExactWindow)
  | attempted (purpose : NativePurpose)
  | invalidated
  | preserved
  /-- The native mutation was sent for a token of the age that the last gate found. -/
  | dispatched (purpose : NativePurpose) (id sessionId : String) (window : ExactWindow) (age : Nat)
  deriving DecidableEq, Repr

/-- The part of `ComputerUseSession` that the tokens depend on. -/
structure NativeSession where
  sessionId : String
  /-- `scope.process_id`. -/
  processId : Option Nat
  /-- `scope.window_handle`. -/
  windowHandle : Option Nat
  /-- `pixel_observation_route` is `ExplicitPixelsOnly`. -/
  pixelsOnly : Bool
  frameMetadata : Option NativeWindowFrameMetadata
  menuMetadata : Option NativeMenuMetadata
  /-- The UUIDs drawn so far. -/
  drawn : Nat
  history : List NativeEvent
  deriving DecidableEq, Repr

def staleFrameToken : ComputerUseError :=
  ⟨.staleObservation, "set_window_frame requires the latest exact native window_state_id, at most five seconds old"⟩

def staleMenuToken : ComputerUseError :=
  ⟨.staleObservation, "dismiss_menu requires its latest purpose-bound native menu state token, at most five seconds old"⟩

def NativeWindowFrameMetadata.validate (metadata : NativeWindowFrameMetadata) (id : String) (s : NativeSession)
    (age : Nat) : Except ComputerUseError Unit := do
  let state := metadata.state
  require (!(id.isEmpty || metadata.id ≠ id || metadata.sessionId ≠ s.sessionId || nativeStateMaxAge < age
      || s.processId ≠ some state.processId || s.windowHandle ≠ some state.windowHandle
      || state.instanceEvidence.processCreationTime = 0 || state.instanceEvidence.windowThreadId = 0
      || state.processId = 0 || state.windowHandle = 0 || state.dpi = 0 || state.bounds.isNone
      || state.visibleBounds.isNone || !state.visible || state.minimized)) staleFrameToken
  require (!state.maximized) ⟨.invalidTarget,
    "set_window_frame requires a restored target; issue explicit restore_activate, then read fresh native window state"⟩
  require ([state.bounds, state.visibleBounds].all fun frame =>
      frame.any fun frame => (validateExactWindowFrame frame).isOk)
    ⟨.staleObservation, "native frame metadata requires actual valid Win32 and DWM physical bounds"⟩

def NativeMenuMetadata.validate (metadata : NativeMenuMetadata) (id : String) (s : NativeSession) (age : Nat) :
    Except ComputerUseError Unit :=
  let popup := metadata.proof.popup
  let owner := metadata.proof.owner
  require (!(metadata.id ≠ id || !id.startsWith "native-menu-state-" || metadata.sessionId ≠ s.sessionId
    || nativeStateMaxAge < age || s.processId ≠ some popup.processId || s.windowHandle ≠ some popup.windowHandle
    || popup.processId = 0 || popup.windowHandle = 0 || !popup.visible || popup.minimized
    || popup.instanceEvidence.processCreationTime = 0 || popup.instanceEvidence.windowThreadId = 0
    || popup.instanceEvidence.windowClassHash = 0 || owner.windowHandle = 0
    || owner.windowHandle = popup.windowHandle || owner.processId ≠ popup.processId
    || owner.instanceEvidence.processCreationTime ≠ popup.instanceEvidence.processCreationTime
    || owner.instanceEvidence.windowThreadId ≠ popup.instanceEvidence.windowThreadId
    || owner.instanceEvidence.windowClassHash = 0)) staleMenuToken

namespace NativeSession

def record (event : NativeEvent) (s : NativeSession) : NativeSession := { s with history := event :: s.history }

/-- What `invalidate_action_observations` does to the tokens. -/
def clear (s : NativeSession) : NativeSession := { s with frameMetadata := none, menuMetadata := none }

def invalidateActionObservations (s : NativeSession) : NativeSession := s.clear.record .invalidated

/-- `finish_observation_sensitive_attempt`. -/
def finish {α : Type} (result : Except ComputerUseError α) (s : NativeSession) : NativeSession :=
  match result with
  | .ok _ => s
  | .error error => if ComputerUseSession.evidenceLost error.code then s.invalidateActionObservations else s

end NativeSession

abbrev NativeProg (ε α : Type) := Prog NativeSession Unit (Except ε α)

namespace NativeSession

def attempt {α : Type} (result : Except ComputerUseError α) : NativeProg ComputerUseError α :=
  Prog.update fun s => (result, s.finish result)

/-- `revalidate_observed_target`; without an answer the operation was dropped here. -/
def revalidateObservedTarget (answer : Option (Except ComputerUseError ExactWindowTarget)) :
    NativeProg ComputerUseError ExactWindowTarget :=
  match answer with
  | none => Prog.dropped
  | some result => attempt result

/-! ### Reads -/

/-- What the environment answers to a read. -/
structure ReadAnswers where
  active : Except ComputerUseError Unit
  revalidated : Option (Except ComputerUseError ExactWindowTarget)
  nativeState : Except UiaError ExactWindowNativeState
  readAt : Nat
  menuProof : Except UiaError NativeMenuProof
  menuReadAt : Nat

structure WindowStateReport where
  target : ExactWindowTarget
  native : Option ExactWindowNativeState
  windowStateId : Option String
  menuDismissWindowStateId : Option String
  deriving DecidableEq, Repr

def beginRead (s : NativeSession) : NativeSession := s.clear.record .read

def mintFrame (id : String) (metadata : NativeWindowFrameMetadata) (s : NativeSession) : NativeSession :=
  { s with frameMetadata := some metadata }.record (.minted .frame id s.sessionId metadata.state.window)

def mintMenu (id : String) (metadata : NativeMenuMetadata) (s : NativeSession) : NativeSession :=
  { s with menuMetadata := some metadata }.record (.minted .menu id s.sessionId metadata.proof.popup.window)

def frameStateId (newUuid : Nat → String) (n : Nat) : String := "native-state-" ++ newUuid n

def menuStateId (newUuid : Nat → String) (n : Nat) : String := "native-menu-state-" ++ newUuid n

def rememberNativeFrameMetadata (newUuid : Nat → String) (readAt : Nat) (state : ExactWindowNativeState)
    (s : NativeSession) : Option String × NativeSession :=
  if !s.pixelsOnly then (none, s)
  else
    let id := frameStateId newUuid s.drawn
    let metadata : NativeWindowFrameMetadata := ⟨id, s.sessionId, readAt, state⟩
    let s := { s with drawn := s.drawn + 1 }
    match metadata.validate id s 0 with
    | .error _ => (none, s)
    | .ok _ => (some id, s.mintFrame id metadata)

/-- `exact_window_native_state` of a window says whose state it is. -/
def nativeStateOf (target : ExactWindowTarget) (answer : Except UiaError ExactWindowNativeState) :
    Except UiaError ExactWindowNativeState :=
  answer.map fun state => { state with processId := target.pid, windowHandle := target.windowId }

/-- `window_state_with_frame_metadata` after the tokens are cleared. -/
def windowStateWithFrameMetadata (newUuid : Nat → String) (mintMetadata : Bool) (a : ReadAnswers) :
    NativeProg ComputerUseError WindowStateReport :=
  (Prog.ret a.active).tryThen fun _ =>
  (Prog.read fun s => s.processId.isSome && s.windowHandle.isSome).andThen fun exact =>
  (revalidateObservedTarget a.revalidated).tryThen fun target =>
  if exact then
    (attempt (mapError (mapWindowsWindowMutationError "read exact native window state")
      (nativeStateOf target a.nativeState))).tryThen fun state =>
    Prog.update fun s =>
      let s := if state.minimized || !state.visible then s.invalidateActionObservations else s
      let minted := if mintMetadata then s.rememberNativeFrameMetadata newUuid a.readAt state else (none, s)
      (.ok ⟨target, some state, minted.1, none⟩, minted.2)
  else
    Prog.update fun s =>
      (.ok ⟨target, none, none, none⟩,
        if target.isMinimized || !target.isOnScreen then s.invalidateActionObservations else s)

/-- `window_state`. -/
def windowState (newUuid : Nat → String) (a : ReadAnswers) : NativeProg ComputerUseError WindowStateReport :=
  (Prog.update fun s => ((), s.beginRead)).andThen fun _ => windowStateWithFrameMetadata newUuid false a

/-- `native_window_state_for_frame` after the tokens are cleared. -/
def frameRead (newUuid : Nat → String) (a : ReadAnswers) : NativeProg ComputerUseError WindowStateReport :=
  (Prog.read fun s =>
    require (s.pixelsOnly && s.processId.any (· ≠ 0) && s.windowHandle.any (· ≠ 0))
      ⟨.invalidAction, "native frame metadata requires explicit pixels_only and an exact PID/HWND"⟩).tryThen fun _ =>
  windowStateWithFrameMetadata newUuid true a

def nativeWindowStateForFrame (newUuid : Nat → String) (a : ReadAnswers) :
    NativeProg ComputerUseError WindowStateReport :=
  (Prog.update fun s => ((), s.beginRead)).andThen fun _ => frameRead newUuid a

def rememberNativeMenuMetadata (newUuid : Nat → String) (readAt : Nat) (proof : NativeMenuProof)
    (report : WindowStateReport) (s : NativeSession) : Except ComputerUseError WindowStateReport × NativeSession :=
  let id := menuStateId newUuid s.drawn
  let metadata : NativeMenuMetadata := ⟨id, s.sessionId, readAt, proof⟩
  let s := { s with drawn := s.drawn + 1 }
  match metadata.validate id s 0 with
  | .error error => (.error error, s)
  | .ok _ => (.ok { report with menuDismissWindowStateId := some id }, s.mintMenu id metadata)

/-- The menu proof of a frame read. -/
def menuRead (newUuid : Nat → String) (a : ReadAnswers) (report : WindowStateReport) :
    NativeProg ComputerUseError WindowStateReport :=
  (Prog.ret (mapError (mapWindowsWindowMutationError "read exact active native menu") a.menuProof)).tryThen fun proof =>
  (Prog.ret (require (report.native.any (·.instanceEvidence = proof.popup.instanceEvidence)) ⟨.staleObservation,
    "native popup instance changed during explicit menu state read"⟩)).tryThen fun _ =>
  Prog.update (rememberNativeMenuMetadata newUuid a.menuReadAt proof report)

def nativeWindowStateForMenuDismiss (newUuid : Nat → String) (a : ReadAnswers) :
    NativeProg ComputerUseError WindowStateReport :=
  ((nativeWindowStateForFrame newUuid a).tryThen (menuRead newUuid a)).andThen attempt

/-! ### Invalidations that keep a token -/

/-- A token that is still valid for the id. -/
def retainFreshNativeFrameMetadata (stateId : String) (now : Nat) (s : NativeSession) : Option NativeWindowFrameMetadata :=
  s.frameMetadata.filter fun metadata => (metadata.validate stateId s (now - metadata.readAt)).isOk

def invalidatePreservingNativeState (stateId : String) (now : Nat) (s : NativeSession) : NativeSession :=
  { s.clear.record .preserved with frameMetadata := s.retainFreshNativeFrameMetadata stateId now }

def invalidatePreservingNativeMenuState (menuId : String) (frameId : Option String) (menuNow now : Nat)
    (s : NativeSession) : NativeSession :=
  let menu := s.menuMetadata.filter fun metadata => (metadata.validate menuId s (menuNow - metadata.readAt)).isOk
  let s := { s with menuMetadata := none }
  let s := match frameId with
    | some frameId => s.invalidatePreservingNativeState frameId now
    | none => s.clear.record .preserved
  { s with menuMetadata := menu }

/-! ### Attempts -/

/-- The error of an attempt, and whether the mutation may have been sent. -/
structure NativeAttemptError where
  error : ComputerUseError
  attempted : Bool
  deriving DecidableEq, Repr

def refused (error : ComputerUseError) : NativeAttemptError := ⟨error, false⟩

/-- What a gate finds: the clock, interrupts before and after the desktop check, and that check. -/
structure GateAnswers where
  now : Nat
  lifecycle : Bool
  interrupted : Bool
  activation : Except UiaError Unit
  lifecycleAgain : Bool
  interruptedAgain : Bool

def validatePixelInterrupt (interrupted : Bool) : Except ComputerUseError Unit :=
  require (!interrupted) ⟨.userInterrupted, "pixel input was interrupted before native dispatch"⟩

def frameError (error : UiaError) : ComputerUseError :=
  mapWindowsWindowMutationError "set the exact native instance frame" error

/-- The gate of a frame mutation; it finds the age of the token. -/
def frameGate (metadata : NativeWindowFrameMetadata) (id : String) (g : GateAnswers) (s : NativeSession) :
    Except ComputerUseError Nat := do
  metadata.validate id s (g.now - metadata.readAt)
  validatePixelInterrupt g.interrupted
  mapError frameError g.activation
  validatePixelInterrupt g.interruptedAgain
  .ok (g.now - metadata.readAt)

/-- `validate_instance` of the frame sequence. -/
def validateInstance (target : ExactWindowTarget) (expected : ExactWindowPixelInstanceEvidence)
    (state : ExactWindowNativeState) : Except UiaError Unit :=
  require (!(target.pid = 0 || target.windowId = 0 || expected.processCreationTime = 0 || expected.windowThreadId = 0
    || state.processId ≠ target.pid || state.windowHandle ≠ target.windowId || state.instanceEvidence ≠ expected))
    (.invalidTarget "exact metadata native instance changed")

structure FrameAnswers where
  active : Except ComputerUseError Unit
  now : Nat
  revalidated : Option (Except ComputerUseError ExactWindowTarget)
  dpiScope : Bool
  gate : GateAnswers
  before : Except UiaError ExactWindowNativeState
  lastGate : GateAnswers
  dispatched : Except UiaError Unit
  /-- The readings after the dispatch. -/
  after : Nat → Except UiaError ExactWindowNativeState

/-- The checks of `run_exact_window_frame_sequence` on the state that was read for the token. -/
def checkExpectedFrame (target : ExactWindowTarget) (expected : ExactWindowNativeState) (requested : NativeRect) :
    Except UiaError Unit := do
  validateExactWindowFrame requested
  validateInstance target expected.instanceEvidence expected
  for frame in [expected.bounds, expected.visibleBounds] do
    match frame with
    | none => .error (.invalidTarget "fresh physical metadata is incomplete")
    | some frame => validateExactWindowFrame frame
  require (!expected.maximized) (.invalidTarget
    "set_window_frame requires a restored target; issue explicit restore_activate, then read fresh native window state")

/-- The window is still as it was read. -/
def checkFrameBefore (target : ExactWindowTarget) (expected before : ExactWindowNativeState) : Except UiaError Unit := do
  validateInstance target expected.instanceEvidence before
  require (!before.maximized) (.invalidTarget
    "the exact target became maximized; issue explicit restore_activate before set_window_frame")
  require (!(before.bounds.isNone || before.bounds ≠ expected.bounds || before.visibleBounds ≠ expected.visibleBounds
    || before.dpi = 0 || before.dpi ≠ expected.dpi || !before.visible || before.minimized))
    (.invalidTarget "fresh physical metadata changed, or target is hidden/minimized")

/-- One reading after the dispatch: the state, if the window has the requested frame. -/
def checkFrameAfter (target : ExactWindowTarget) (expected : ExactWindowNativeState) (requested : NativeRect)
    (after : ExactWindowNativeState) : Except UiaError (Option ExactWindowNativeState) := do
  validateInstance target expected.instanceEvidence after
  for frame in [after.bounds, after.visibleBounds] do
    match frame with
    | none => .error (.invalidTarget "physical readback metadata is incomplete")
    | some frame => validateExactWindowFrame frame
  require (!(after.dpi ≠ expected.dpi || !after.visible || after.minimized || after.maximized))
    (.invalidTarget "native frame readback changed DPI or visibility, or became maximized")
  .ok (if after.bounds = some requested then some after else none)

/-- The readback; `left` more readings are allowed. -/
def readbackFrame (target : ExactWindowTarget) (expected : ExactWindowNativeState) (requested : NativeRect)
    (after : Nat → Except UiaError ExactWindowNativeState) : Nat → Nat → Except UiaError ExactWindowNativeState
  | 0, _ => .error (.operationFailed "exact physical frame readback deadline elapsed")
  | left + 1, i => do
    let state ← nativeStateOf target (after i)
    match ← checkFrameAfter target expected requested state with
    | some state => .ok state
    | none => readbackFrame target expected requested after left (i + 1)

/-- Up to the last gate: the window as it was read just before, and the age of the token. -/
def admitFrame (id : String) (request : NativeRect) (metadata : NativeWindowFrameMetadata) (target : ExactWindowTarget)
    (a : FrameAnswers) (s : NativeSession) : Except ComputerUseError (ExactWindowNativeState × Nat) := do
  require (target.pid = metadata.state.processId && target.windowId = metadata.state.windowHandle)
    ⟨.staleObservation, "native metadata target changed before frame mutation"⟩
  require a.dpiScope (frameError (.operationFailed "physical frame coordinate scope unavailable"))
  mapError frameError (checkExpectedFrame target metadata.state request)
  let _ ← frameGate metadata id a.gate s
  let before ← mapError frameError (nativeStateOf target a.before)
  mapError frameError (checkFrameBefore target metadata.state before)
  let age ← frameGate metadata id a.lastGate s
  .ok (before, age)

structure FrameReport where
  requested : NativeRect
  windowStateId : String
  state : ExactWindowNativeState
  deriving DecidableEq, Repr

/-- The single `SetWindowPos`, and its readback. -/
def dispatchFrame (id : String) (requested : NativeRect) (metadata : NativeWindowFrameMetadata) (target : ExactWindowTarget)
    (a : FrameAnswers) (admitted : ExactWindowNativeState × Nat) (s : NativeSession) :
    Except NativeAttemptError FrameReport × NativeSession :=
  (mapError (fun error => ⟨frameError error, true⟩) do
    a.dispatched
    let state ← readbackFrame target metadata.state requested a.after 40 0
    .ok ⟨requested, id, state⟩,
  s.record (.dispatched .frame id s.sessionId admitted.1.window admitted.2))

/-- An attempt takes its token and clears the other one. -/
def takeFrame (s : NativeSession) : Option NativeWindowFrameMetadata × NativeSession :=
  (s.frameMetadata, s.clear.record (.attempted .frame))

def setWindowFrameFromNativeState (id : String) (request : ComputerUseWindowFrameRequest) (a : FrameAnswers) :
    NativeProg NativeAttemptError FrameReport :=
  (Prog.update takeFrame).andThen fun metadata =>
  (Prog.read fun s => mapError refused do
    a.active
    require s.pixelsOnly ⟨.invalidAction, "native metadata frame mutation requires explicit pixels_only mode"⟩
    let requested ← exactPhysicalWindowFrame request
    match metadata with
    | none => .error ⟨.staleObservation, "read fresh native window state before set_window_frame"⟩
    | some metadata => do
      metadata.validate id s (a.now - metadata.readAt)
      .ok (requested, metadata)).tryThen fun (requested, metadata) =>
  ((revalidateObservedTarget a.revalidated).andThen fun result => Prog.ret (mapError refused result)).tryThen fun target =>
  (Prog.read fun s => mapError refused (admitFrame id requested metadata target a s)).tryThen fun admitted =>
  Prog.update (dispatchFrame id requested metadata target a admitted)

def menuError (error : UiaError) : ComputerUseError := mapWindowsWindowMutationError "dismiss exact native menu" error

/-- `menu_attempt_error`. -/
def menuAttemptError (error : ComputerUseError) (attempted : Bool) : NativeAttemptError :=
  ⟨if attempted then { error with code := .completionUnknown } else error, attempted⟩

structure MenuAnswers where
  active : Except ComputerUseError Unit
  now : Nat
  revalidated : Option (Except ComputerUseError ExactWindowTarget)
  banner : Bool
  ownerThread : Bool
  senderStarted : Bool
  gate : GateAnswers
  before : Except UiaError NativeMenuProof
  lastGate : GateAnswers
  sent : Except UiaError Unit
  /-- What the bounded readback finds, its gates included. -/
  confirmed : Except ComputerUseError Unit

/-- The gate of a dismissal before its dispatch; it finds the age of the token. -/
def menuGate (metadata : NativeMenuMetadata) (id : String) (authorizationDeadline : Nat) (g : GateAnswers)
    (s : NativeSession) : Except ComputerUseError Nat := do
  metadata.validate id s (g.now - metadata.readAt)
  require (g.now < authorizationDeadline) ⟨.sessionRefreshRequired, "native menu task authorization expired"⟩
  require g.lifecycle ⟨.userInterrupted, "native menu control session stopped"⟩
  validatePixelInterrupt g.interrupted
  mapError (mapWindowsWindowMutationError "validate native menu desktop") g.activation
  require g.lifecycleAgain ⟨.userInterrupted, "native menu control session stopped after desktop validation"⟩
  validatePixelInterrupt g.interruptedAgain
  .ok (g.now - metadata.readAt)

def menuRefused (reason : String) : ComputerUseError :=
  menuError (.invalidTarget ("native_menu_inactive_or_unproven: " ++ reason))

/-- Up to the last gate: the proof as it was read just before, and the age of the token. -/
def admitMenu (id : String) (authorizationDeadline : Nat) (metadata : NativeMenuMetadata) (target : ExactWindowTarget)
    (a : MenuAnswers) (s : NativeSession) : Except ComputerUseError (NativeMenuProof × Nat) := do
  require (target.pid = metadata.proof.popup.processId && target.windowId = metadata.proof.popup.windowHandle)
    ⟨.staleObservation, "native menu target changed before dismissal"⟩
  require a.banner ⟨.userInterrupted, "native menu dismissal requires its active control session"⟩
  require (!a.ownerThread) (menuRefused "cancellation cannot send from the owner's GUI thread")
  require a.senderStarted (menuRefused "isolated menu sender could not start")
  let _ ← menuGate metadata id authorizationDeadline a.gate s
  let current ← mapError menuError a.before
  require (current = metadata.proof) (menuRefused "native menu authority changed")
  let age ← menuGate metadata id authorizationDeadline a.lastGate s
  .ok (current, age)

structure MenuReport where
  windowStateId : String
  proof : NativeMenuProof
  deriving DecidableEq, Repr

/-- The single `WM_CANCELMODE`, and its confirmation. -/
def dispatchMenu (id : String) (a : MenuAnswers) (admitted : NativeMenuProof × Nat) (s : NativeSession) :
    Except NativeAttemptError MenuReport × NativeSession :=
  (mapError (menuAttemptError · true) do
    mapError menuError a.sent
    a.confirmed
    .ok ⟨id, admitted.1⟩,
  s.record (.dispatched .menu id s.sessionId admitted.1.popup.window admitted.2))

def takeMenu (s : NativeSession) : Option NativeMenuMetadata × NativeSession :=
  (s.menuMetadata, s.clear.record (.attempted .menu))

def dismissNativeMenuFromState (id : String) (authorizationDeadline : Nat) (a : MenuAnswers) :
    NativeProg NativeAttemptError MenuReport :=
  (Prog.update takeMenu).andThen fun metadata =>
  (Prog.read fun s => mapError refused do
    a.active
    require s.pixelsOnly ⟨.invalidAction, "native menu dismissal requires explicit pixels_only mode"⟩
    match metadata with
    | none => .error ⟨.staleObservation, "read fresh native menu state before dismiss_menu"⟩
    | some metadata => do
      metadata.validate id s (a.now - metadata.readAt)
      .ok metadata).tryThen fun metadata =>
  ((revalidateObservedTarget a.revalidated).andThen fun result => Prog.ret (mapError refused result)).tryThen fun target =>
  (Prog.read fun s => mapError refused (admitMenu id authorizationDeadline metadata target a s)).tryThen fun admitted =>
  Prog.update (dispatchMenu id a admitted)

end NativeSession

/-! ### Calls -/

inductive NativeCall where
  | windowState (a : NativeSession.ReadAnswers)
  | stateForFrame (a : NativeSession.ReadAnswers)
  | stateForMenuDismiss (a : NativeSession.ReadAnswers)
  | setWindowFrame (id : String) (request : ComputerUseWindowFrameRequest) (a : NativeSession.FrameAnswers)
  | dismissMenu (id : String) (authorizationDeadline : Nat) (a : NativeSession.MenuAnswers)
  | invalidate
  | invalidatePreservingNativeState (stateId : String) (now : Nat)
  | invalidatePreservingNativeMenuState (menuId : String) (frameId : Option String) (menuNow now : Nat)

inductive NativeOutput where
  | state (result : Except ComputerUseError NativeSession.WindowStateReport)
  | frame (result : Except NativeSession.NativeAttemptError NativeSession.FrameReport)
  | menu (result : Except NativeSession.NativeAttemptError NativeSession.MenuReport)
  | done

namespace NativeSession

/-- The output of a program, and the session it leaves; a program that was dropped has none. -/
def run {α : Type} (f : α → NativeOutput) (p : Prog NativeSession Unit α) (s : NativeSession) :
    Option NativeOutput × NativeSession :=
  match p s [] with
  | .done value s _ => (some (f value), s)
  | .cut s => (none, s)

def serve (newUuid : Nat → String) (s : NativeSession) : NativeCall → Option NativeOutput × NativeSession
  | .windowState a => run .state (windowState newUuid a) s
  | .stateForFrame a => run .state (nativeWindowStateForFrame newUuid a) s
  | .stateForMenuDismiss a => run .state (nativeWindowStateForMenuDismiss newUuid a) s
  | .setWindowFrame id request a => run .frame (setWindowFrameFromNativeState id request a) s
  | .dismissMenu id authorizationDeadline a => run .menu (dismissNativeMenuFromState id authorizationDeadline a) s
  | .invalidate => (some .done, s.invalidateActionObservations)
  | .invalidatePreservingNativeState stateId now => (some .done, s.invalidatePreservingNativeState stateId now)
  | .invalidatePreservingNativeMenuState menuId frameId menuNow now =>
    (some .done, s.invalidatePreservingNativeMenuState menuId frameId menuNow now)

end NativeSession

def nativeSession (newUuid : Nat → String) : Machine NativeSession NativeCall (Option NativeOutput) where
  step s call := s.serve newUuid call

end DccCua
