import DccCua.Windows.ExactWindowFrame

/-! # The command that sets a frame

`set_window_frame_from_native_state` of `window_commands.rs` around the sequence of `Windows.ExactWindowFrame`. Its gate
keeps the error that it has found itself, which takes precedence over the one of the sequence, and the phase becomes the
details of the error that the caller gets. What the command does to the tokens is in `Core.NativeAuthority`. -/

namespace DccCua
namespace WindowFrame

open Calls Checks Script NativeSession

inductive ErrorPhase where
  | preDispatch
  | localMutationDispatch
  deriving DecidableEq, Repr

/-- What the details of an error say of the attempt. -/
structure AttemptDetails where
  phase : Option ErrorPhase
  actionAttempted : Option Bool
  inputSent : Option Bool
  completionKnown : Option Bool
  effectUnknown : Option Bool
  automaticInput : Option Bool
  blindRetry : Option Bool
  freshObservationRequired : Option Bool
  deriving DecidableEq, Repr

def AttemptDetails.default : AttemptDetails := ⟨none, none, none, none, none, none, none, none⟩

structure CommandError where
  error : ComputerUseError
  details : Option AttemptDetails
  deriving DecidableEq, Repr

/-- What says that nothing has been attempted: an error without details, or one from before the dispatch. -/
inductive Unattempted where
  | plain (error : ComputerUseError)
  | preDispatch (error : ComputerUseError)

def Unattempted.toCommandError : Unattempted → CommandError
  | .plain error => ⟨error, none⟩
  | .preDispatch error => ⟨error, some ⟨some .preDispatch, some false, some false, some true, some false, none, some false, some true⟩⟩

def nativeFrameAttemptError (e : CommandError) (attempted : Bool) : CommandError :=
  { e with details := some { e.details.getD AttemptDetails.default with
      phase := some (if attempted then .localMutationDispatch else .preDispatch)
      actionAttempted := some attempted
      inputSent := some false
      completionKnown := some !attempted
      effectUnknown := some attempted
      automaticInput := some false
      blindRetry := some false
      freshObservationRequired := some true } }

/-- What the command asks its environment for; the first four before the native call. -/
structure CommandClosures (ω : Type) where
  active : ω → Except Unattempted Unit × ω
  age : ω → Nat × ω
  revalidated : ω → Except Unattempted ExactWindowTarget × ω
  dpiScope : ω → Bool × ω
  interrupted : ω → Bool × ω
  activation : ω → Except UiaError Unit × ω
  read : ω → Except UiaError ExactWindowNativeState × ω
  dispatch : ω → Except UiaError Unit × ω
  wait : ω → ω

/-- What the closures of the native call capture. -/
structure CommandWorld (ω : Type) where
  outer : ω
  preDispatchError : Option CommandError

abbrev CommandProg (ω α : Type) := CallProg (CommandWorld ω) FrameCall (Except CommandError α)

section Command
variable {ω : Type} (env : CommandClosures ω) (s : NativeSession) (metadata : Option NativeWindowFrameMetadata) (id : String)

def withOuter {α : Type} (closure : ω → α × ω) (world : CommandWorld ω) : α × CommandWorld ω :=
  ((closure world.outer).1, { world with outer := (closure world.outer).2 })

/-- An answer that is no call of the sequence. -/
def ask {α : Type} (closure : ω → α × ω) : CallProg (CommandWorld ω) FrameCall α :=
  Prog.update fun logged => ((withOuter closure logged.world).1, { logged with world := (withOuter closure logged.world).2 })

def tokenExpired : UiaError := .invalidTarget "native metadata expired before frame dispatch"

/-- The gate: the token, an interruption, the desktop, and an interruption again. The desktop's error is not kept. -/
def commandGate (metadata : NativeWindowFrameMetadata) (world : CommandWorld ω) : Except UiaError Unit × CommandWorld ω :=
  let (age, outer) := env.age world.outer
  match metadata.validate id s age with
  | .error error => (.error tokenExpired, ⟨outer, some ⟨error, none⟩⟩)
  | .ok _ =>
    let (interrupted, outer) := env.interrupted outer
    match validatePixelInterrupt interrupted with
    | .error error =>
      (.error (.permissionDenied "exact frame mutation was interrupted"), ⟨outer, some (Unattempted.preDispatch error).toCommandError⟩)
    | .ok _ =>
      let (activation, outer) := env.activation outer
      match activation with
      | .error error => (.error error, { world with outer })
      | .ok _ =>
        let (interrupted, outer) := env.interrupted outer
        match validatePixelInterrupt interrupted with
        | .error error => (.error (.permissionDenied "exact frame mutation was interrupted after availability validation"),
            ⟨outer, some (Unattempted.preDispatch error).toCommandError⟩)
        | .ok _ => (.ok (), { world with outer })

def commandClosures (metadata : NativeWindowFrameMetadata) : FrameClosures (CommandWorld ω) where
  gate := commandGate env s id metadata
  read := withOuter env.read
  dispatch := withOuter env.dispatch
  wait world := { world with outer := env.wait world.outer }

/-- `set_exact_window_frame`: the sequence in the coordinates of the screen. -/
def setExactWindowFrame (closures : FrameClosures (CommandWorld ω)) (target : ExactWindowTarget) (expected : ExactWindowNativeState)
    (requested : NativeRect) : FrameProg (CommandWorld ω) ExactWindowNativeState :=
  (ask env.dpiScope).andThen fun scope =>
  (Prog.ret (require scope (ExactWindowFrameError.beforeDispatch (.operationFailed "physical frame coordinate scope unavailable")))).tryThen
    fun _ => runExactWindowFrameSequence closures target expected requested

/-- The error of the native call as that of the command. -/
def mapFailure (preDispatchError : Option CommandError) (failure : ExactWindowFrameError) : CommandError :=
  match preDispatchError with
  | some error => nativeFrameAttemptError error false
  | none =>
    match failure with
    | .beforeDispatch error => nativeFrameAttemptError ⟨frameError error, none⟩ false
    | .afterDispatch error => nativeFrameAttemptError ⟨frameError error, none⟩ true

def plain {α : Type} (result : Except ComputerUseError α) : Except CommandError α := mapError (fun error => ⟨error, none⟩) result

def unattempted {α : Type} (result : Except Unattempted α) : Except CommandError α := mapError Unattempted.toCommandError result

/-- The body of the command, whose error is not yet that of an attempt. -/
def commandBody (request : ComputerUseWindowFrameRequest) : CommandProg ω FrameReport :=
  ((ask env.active).andThen fun active => Prog.ret (unattempted active)).tryThen fun _ =>
  (Prog.ret (plain (require s.pixelsOnly ⟨.invalidAction, "native metadata frame mutation requires explicit pixels_only mode"⟩))).tryThen fun _ =>
  (Prog.ret (plain (exactPhysicalWindowFrame request))).tryThen fun requested =>
  match metadata with
  | none => Prog.ret (.error ⟨⟨.staleObservation, "read fresh native window state before set_window_frame"⟩, none⟩)
  | some metadata =>
    (ask env.age).andThen fun age =>
    (Prog.ret (plain (metadata.validate id s age))).tryThen fun _ =>
    ((ask env.revalidated).andThen fun target => Prog.ret (unattempted target)).tryThen fun target =>
    (Prog.ret (plain (require (target.pid = metadata.state.processId && target.windowId = metadata.state.windowHandle)
      ⟨.staleObservation, "native metadata target changed before frame mutation"⟩))).tryThen fun _ =>
    ((setExactWindowFrame env (commandClosures env s id metadata) target metadata.state requested).andThen fun outcome =>
      Prog.read fun logged => mapError (mapFailure logged.world.preDispatchError) outcome).tryThen fun state =>
    Prog.ret (.ok ⟨requested, id, state⟩)

/-- What the caller gets of an error that says so or not. -/
def attemptOf (e : CommandError) : CommandError := nativeFrameAttemptError e ((e.details.bind (·.actionAttempted)).getD false)

/-- Nothing has been called. -/
def start (outer : ω) : Logged (CommandWorld ω) FrameCall := ⟨⟨outer, none⟩, []⟩

def setWindowFrameFromNativeState (request : ComputerUseWindowFrameRequest) : CommandProg ω FrameReport :=
  (commandBody env s metadata id request).andThen fun result => Prog.ret (mapError attemptOf result)

end Command

end WindowFrame
end DccCua
