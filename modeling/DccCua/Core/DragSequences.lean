import DccCua.Lib.Calls
import DccCua.Lib.Rounding

/-! # Drag sequences

`drag_sequences.rs`: the separated drag, the combined-down drag, and the fenced path between two points. The sequences
call closures for all that they do; pauses are in milliseconds, and the progress of a path is a rational. -/

namespace DccCua
namespace DragSequences

open Calls Rounding Script

def rawDragPreDownSettle : Nat := 50

def rawDragDropSettle : Nat := 75

def rawDragPostUpSettle : Nat := 50

def Except.err {E α : Type} : Except E α → Option E
  | .ok _ => none
  | .error e => some e

/-! ### The separated drag -/

structure RawDragSequenceOutcome (T E : Type) where
  trace : T
  pathSent : Bool
  primaryError : Option E
  releaseError : Option E

inductive SeparatedCall (T E : Type) where
  | sourceMove (result : Except E Unit)
  | settle (ms : Nat)
  | down (result : Except E Nat)
  | inspectAfterDown (inserted : Nat) (trace : T)
  | allowsDragPath (allowed : Bool)
  | movePath (result : Except E Unit)
  | up (result : Except E Unit)

structure SeparatedClosures (κ T E : Type) where
  sourceMove : κ → Except E Unit × κ
  settle : Nat → κ → κ
  down : κ → Except E Nat × κ
  inspectAfterDown : Nat → κ → T × κ
  allowsDragPath : T → κ → Bool × κ
  movePath : κ → Except E Unit × κ
  up : κ → Except E Unit × κ

section Separated
variable {κ T E : Type} (env : SeparatedClosures κ T E)

abbrev SeparatedProg (κ T E α : Type) := CallProg κ (SeparatedCall T E) α

def settleSeparated (ms : Nat) : SeparatedProg κ T E Unit := note (env.settle ms) (.settle ms)

/-- The release, and the pause after it. -/
def releaseSeparated : SeparatedProg κ T E (Except E Unit) :=
  (call env.up .up).andThen fun result =>
  (if result.isOk then settleSeparated env rawDragPostUpSettle else Prog.ret ()).andThen fun _ => Prog.ret result

def runSeparatedRawDragSequence : SeparatedProg κ T E (Except E (RawDragSequenceOutcome T E)) :=
  (call env.sourceMove .sourceMove).tryThen fun _ =>
  (settleSeparated env rawDragPreDownSettle).andThen fun _ =>
  (call env.down .down).tryThen fun inserted =>
  (call (env.inspectAfterDown inserted) (.inspectAfterDown inserted)).andThen fun trace =>
  (call (env.allowsDragPath trace) .allowsDragPath).andThen fun allowed =>
  if !allowed then
    (releaseSeparated env).andThen fun release => Prog.ret (.ok ⟨trace, false, none, Except.err release⟩)
  else
    (settleSeparated env rawDragPreDownSettle).andThen fun _ =>
    (call env.movePath .movePath).andThen fun path =>
    (if path.isOk then settleSeparated env rawDragDropSettle else Prog.ret ()).andThen fun _ =>
    (releaseSeparated env).andThen fun release => Prog.ret (.ok ⟨trace, path.isOk, Except.err path, Except.err release⟩)

end Separated

/-! ### The combined-down drag -/

structure CombinedDownInjection (E : Type) where
  inserted : Nat
  error : Option E

def CombinedDownInjection.wasAccepted {E : Type} (injection : CombinedDownInjection E) : Bool :=
  injection.inserted = 2 && injection.error.isNone

def CombinedDownInjection.ownsButtonDown {E : Type} (injection : CombinedDownInjection E) : Bool := injection.inserted = 2

structure SingleInputInjection (E : Type) where
  inserted : Nat
  error : Option E

def SingleInputInjection.wasAccepted {E : Type} (injection : SingleInputInjection E) : Bool :=
  injection.inserted = 1 && injection.error.isNone

structure CombinedDownDragSequenceOutcome (T P E : Type) where
  batchInserted : Nat
  preBatch : Option T
  afterDown : Option T
  postUp : Option P
  pathSent : Bool
  pathStarted : Bool
  pathMovesInserted : Nat
  waypointsCompleted : Nat
  totalWaypoints : Nat
  failurePhase : Option String
  failureError : Option E
  releaseAttempted : Bool
  releaseInserted : Option Nat
  releaseError : Option E
  postUpError : Option E
  postUpReleased : Option Bool
  cleanupFailurePhase : Option String

inductive CombinedCall (T P E : Type) where
  | inspectPreBatch (result : Except E T)
  | allowsBatchInjection (allowed : Bool)
  | injectMoveAndLeftDown (injection : CombinedDownInjection E)
  | inspectAfterDown (inserted : Nat) (result : Except E T)
  | allowsDragPath (allowed : Bool)
  | settle (ms : Nat)
  | moveAbsolutePath (result : Except E Unit)
  | leftUp (injection : SingleInputInjection E)
  | inspectPostUp (result : Except E P)
  | postUpAllowsRelease (released : Bool)

structure CombinedClosures (κ T P E : Type) where
  inspectPreBatch : κ → Except E T × κ
  allowsBatchInjection : T → κ → Bool × κ
  injectMoveAndLeftDown : κ → CombinedDownInjection E × κ
  inspectAfterDown : Nat → κ → Except E T × κ
  allowsDragPath : T → κ → Bool × κ
  moveAbsolutePath : κ → Except E Unit × κ
  settle : Nat → κ → κ
  leftUp : κ → SingleInputInjection E × κ
  inspectPostUp : κ → Except E P × κ
  postUpAllowsRelease : P → κ → Bool × κ

section Combined
variable {κ T P E : Type} (env : CombinedClosures κ T P E)

abbrev CombinedProg (κ T P E α : Type) := CallProg κ (CombinedCall T P E) α

def settleCombined (ms : Nat) : CombinedProg κ T P E Unit := note (env.settle ms) (.settle ms)

def CombinedDownDragSequenceOutcome.initial : CombinedDownDragSequenceOutcome T P E where
  batchInserted := 0
  preBatch := none
  afterDown := none
  postUp := none
  pathSent := false
  pathStarted := false
  pathMovesInserted := 0
  waypointsCompleted := 0
  totalWaypoints := 0
  failurePhase := none
  failureError := none
  releaseAttempted := false
  releaseInserted := none
  releaseError := none
  postUpError := none
  postUpReleased := none
  cleanupFailurePhase := none

/-- The outcome after the release. -/
def CombinedDownDragSequenceOutcome.released (outcome : CombinedDownDragSequenceOutcome T P E) (release : SingleInputInjection E) :
    CombinedDownDragSequenceOutcome T P E :=
  { outcome with
    releaseAttempted := true
    releaseInserted := some release.inserted
    releaseError := release.error
    cleanupFailurePhase := if !release.wasAccepted then some "button_up_injection" else outcome.cleanupFailurePhase }

def finishCombinedDownDragWithRelease (outcome : CombinedDownDragSequenceOutcome T P E) :
    CombinedProg κ T P E (CombinedDownDragSequenceOutcome T P E) :=
  (call env.leftUp .leftUp).andThen fun release =>
  (if release.wasAccepted then settleCombined env rawDragPostUpSettle else Prog.ret ()).andThen fun _ =>
  (call env.inspectPostUp .inspectPostUp).andThen fun
    | .ok postUp =>
      (call (env.postUpAllowsRelease postUp) .postUpAllowsRelease).andThen fun released =>
        let outcome := outcome.released release
        Prog.ret { outcome with
          postUp := some postUp
          postUpReleased := some released
          cleanupFailurePhase :=
            if !released && outcome.cleanupFailurePhase.isNone then some "post_button_up_fence" else outcome.cleanupFailurePhase }
    | .error error =>
      let outcome := outcome.released release
      Prog.ret { outcome with
        postUpError := some error
        cleanupFailurePhase := if outcome.cleanupFailurePhase.isNone then some "post_button_up_probe" else outcome.cleanupFailurePhase }

/-- From the accepted press on. -/
def moveCombined (inserted : Nat) (outcome : CombinedDownDragSequenceOutcome T P E) :
    CombinedProg κ T P E (CombinedDownDragSequenceOutcome T P E) :=
  (call (env.inspectAfterDown inserted) (.inspectAfterDown inserted)).andThen fun
    | .error error => finishCombinedDownDragWithRelease env
        { outcome with failurePhase := some "after_button_down_probe", failureError := some error }
    | .ok afterDown =>
      (call (env.allowsDragPath afterDown) .allowsDragPath).andThen fun canMove =>
      let outcome := { outcome with afterDown := some afterDown }
      if !canMove then finishCombinedDownDragWithRelease env { outcome with failurePhase := some "after_button_down_fence" }
      else
        (settleCombined env rawDragPreDownSettle).andThen fun _ =>
        (call env.moveAbsolutePath .moveAbsolutePath).andThen fun
          | .ok _ =>
            (settleCombined env rawDragDropSettle).andThen fun _ =>
            finishCombinedDownDragWithRelease env
              { outcome with pathSent := true, pathStarted := true, pathMovesInserted := 1, waypointsCompleted := 1, totalWaypoints := 1 }
          | .error error => finishCombinedDownDragWithRelease env
              { outcome with failurePhase := some "absolute_path", failureError := some error }

def runCombinedDownDragSequence : CombinedProg κ T P E (CombinedDownDragSequenceOutcome T P E) :=
  let outcome := CombinedDownDragSequenceOutcome.initial
  (call env.inspectPreBatch .inspectPreBatch).andThen fun
    | .error error => Prog.ret { outcome with failurePhase := some "pre_batch_target_fence", failureError := some error }
    | .ok preBatch =>
      (call (env.allowsBatchInjection preBatch) .allowsBatchInjection).andThen fun canInject =>
      let outcome := { outcome with preBatch := some preBatch }
      if !canInject then Prog.ret { outcome with failurePhase := some "pre_batch_fence" }
      else
        (call env.injectMoveAndLeftDown .injectMoveAndLeftDown).andThen fun injection =>
        let outcome := { outcome with batchInserted := injection.inserted }
        if !injection.wasAccepted then
          let outcome := { outcome with failurePhase := some "combined_move_down_batch", failureError := injection.error }
          if injection.ownsButtonDown then finishCombinedDownDragWithRelease env outcome else Prog.ret outcome
        else moveCombined env injection.inserted outcome

end Combined

/-! ### The fenced path -/

structure FencedAbsolutePathOutcome (E : Type) where
  totalWaypoints : Nat
  waypointsCompleted : Nat
  movesInserted : Nat
  error : Option E

inductive PathCall (E : Type) where
  | validate (result : Except E Unit)
  | inject (x y : Int) (result : Except E Unit)
  | settle (ms : Nat)

structure PathClosures (κ E : Type) where
  validate : κ → Except E Unit × κ
  inject : Int → Int → κ → Except E Unit × κ
  settle : Nat → κ → κ

/-- The cast of a rounded number to an `i32`. -/
def toI32Saturating (value : Int) : Int := max (-2 ^ 31) (min value (2 ^ 31 - 1))

/-- The coordinate after some of the steps. -/
def waypoint (source destination : Int) (steps step : Nat) : Int :=
  source + toI32Saturating (roundAway (((destination - source : Int) : Rat) * ((step : Rat) / steps)))

section Path
variable {κ E : Type} (env : PathClosures κ E) (source destination : Int × Int) (steps : Nat) (stepDelay : Nat)

abbrev PathProg (κ E : Type) := CallProg κ (PathCall E) (FencedAbsolutePathOutcome E)

/-- The steps from one on; `left` of them are to be taken. -/
def pathSteps : Nat → Nat → FencedAbsolutePathOutcome E → PathProg κ E
  | 0, _, outcome => Prog.ret outcome
  | left + 1, step, outcome =>
    (call env.validate .validate).andThen fun
      | .error error => Prog.ret { outcome with error := some error }
      | .ok _ =>
        let x := waypoint source.1 destination.1 steps step
        let y := waypoint source.2 destination.2 steps step
        (call (env.inject x y) (.inject x y)).andThen fun
          | .error error => Prog.ret { outcome with error := some error }
          | .ok _ =>
            (if stepDelay ≠ 0 then note (env.settle stepDelay) (.settle stepDelay) else Prog.ret ()).andThen fun _ =>
            pathSteps left (step + 1)
              { outcome with movesInserted := outcome.movesInserted + 1, waypointsCompleted := outcome.waypointsCompleted + 1 }

def runFencedAbsolutePathWithTrace (durationMs : Nat) : PathProg κ E :=
  let steps := max steps 1
  pathSteps env source destination steps (durationMs / steps) steps 1 ⟨steps, 0, 0, none⟩

end Path

end DragSequences
end DccCua
