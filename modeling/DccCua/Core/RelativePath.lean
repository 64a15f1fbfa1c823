import DccCua.Lib.Calls
import Mathlib.Algebra.Group.Int.Defs
import Mathlib.Algebra.Group.Nat.Defs

/-! # Calibrated relative paths

`run_windows_calibrated_relative_path` of `windows_input.rs`: a waypoint is approached by relative moves whose size comes
from the measured position. Integers are unbounded here, and the clamps and saturations of the source are kept. -/

namespace DccCua
namespace RelativePath

open Calls Script

abbrev Point := Int × Int

def relativeDragQuantizedStallTolerancePx : Int := 1

def relativeDragIntermediateTolerancePx : Int := 1

def relativeDragDampingMinEffectiveCommandPx : Int := 2

def relativeDragStagnationEscapeMaxResidualPx : Int := 3

def relativeDragStagnationEscapeMaxCommandPx : Int := 4

/-- The answer to an injected relative move. -/
structure WindowsInputCount where
  requested : Nat
  inserted : Nat
  error : Option String

def WindowsInputCount.accepted : WindowsInputCount := ⟨1, 1, none⟩

def WindowsInputCount.wasAccepted (count : WindowsInputCount) : Bool := count.inserted = count.requested && count.error.isNone

/-! ### Integers -/

def clampI32 (value : Int) : Int := max (-2 ^ 31) (min value (2 ^ 31 - 1))

def saturatingMulI64 (a b : Int) : Int := max (-2 ^ 63) (min (a * b) (2 ^ 63 - 1))

def magnitude (value : Int) : Int := value.natAbs

/-! ### Positions -/

def cursorAxisDistance (actual expected : Int) : Int := magnitude (actual - expected)

def cursorReached (actual expected : Point) (tolerancePx : Int) : Bool :=
  cursorAxisDistance actual.1 expected.1 ≤ max tolerancePx 0 && cursorAxisDistance actual.2 expected.2 ≤ max tolerancePx 0

def cursorMaxErrorPx (actual expected : Point) : Int :=
  max (cursorAxisDistance actual.1 expected.1) (cursorAxisDistance actual.2 expected.2)

inductive CompletionRule where
  | exact
  | configuredTolerance
  | intermediatePhysicalPixel
  | quantizedUnitStall
  deriving DecidableEq, Repr

def CompletionRule.text : CompletionRule → String
  | .exact => "exact"
  | .configuredTolerance => "configured_tolerance"
  | .intermediatePhysicalPixel => "intermediate_physical_pixel"
  | .quantizedUnitStall => "quantized_unit_stall"

def configuredCompletionRule (actual expected : Point) (tolerancePx : Int) : Option CompletionRule :=
  if actual = expected then some .exact
  else if cursorReached actual expected tolerancePx then some .configuredTolerance
  else none

def isUnitRelativeCommand (delta : Point) : Bool := delta ≠ (0, 0) && magnitude delta.1 ≤ 1 && magnitude delta.2 ≤ 1

/-! ### Commands on an axis -/

def relativeCursorDelta (actual expected : Int) : Int := clampI32 (expected - actual)

def residualCrossedTarget (previous : Option Int) (current : Int) : Bool :=
  match previous with
  | none => false
  | some previous => previous ≠ 0 && current ≠ 0 && previous.sign ≠ current.sign

def minimumEffectiveMagnitude (residualMagnitude : Int) : Int :=
  if residualMagnitude > 1 then relativeDragDampingMinEffectiveCommandPx else 1

def relativeCommandForResidual (residual : Int) (damped : Bool) : Int :=
  if !damped then residual
  else clampI32 (residual.sign * max (magnitude residual / 2) (minimumEffectiveMagnitude (magnitude residual)))

/-- The size of a command from the gain that the previous one had. -/
def adaptiveMagnitude (residual : Int) (crossedTarget : Bool) (previousCommand previousMotion : Option Int) : Option Int :=
  match previousCommand, previousMotion with
  | some command, some motion =>
    if crossedTarget && command ≠ 0 && motion ≠ 0 && command.sign = motion.sign &&
        magnitude (relativeCommandForResidual residual crossedTarget) > magnitude command then
      some (min (max (saturatingMulI64 (magnitude residual) (magnitude command) / magnitude motion)
        (min (minimumEffectiveMagnitude (magnitude residual)) (magnitude command))) (magnitude command))
    else none
  | _, _ => none

def boundedRelativeCommandForResidual (residual : Int) (crossedTarget : Bool) (previousCommand previousMotion : Option Int)
    (trustRegionMagnitude : Int) : Int :=
  let legacyMagnitude := magnitude (relativeCommandForResidual residual crossedTarget)
  let commandMagnitude :=
    min ((adaptiveMagnitude residual crossedTarget previousCommand previousMotion).getD legacyMagnitude) (max trustRegionMagnitude 0)
  clampI32 (saturatingMulI64 residual.sign commandMagnitude)

def stagnationEscapeCommand (residual command : Int) (previousCommand : Option Int) (previousAxisMoved : Option Bool) : Int × Bool :=
  match previousCommand with
  | some previous =>
    if residual ≠ 0 && magnitude residual ≤ relativeDragStagnationEscapeMaxResidualPx && previousAxisMoved = some false &&
        previous ≠ 0 && previous.sign = residual.sign then
      let escaped := residual.sign * min (max (magnitude command) (min (magnitude previous + 1) (2 ^ 32 - 1)))
        relativeDragStagnationEscapeMaxCommandPx
      (escaped, escaped ≠ command)
    else (command, false)
  | none => (command, false)

/-! ### The trace -/

structure WindowsRelativeMoveTrace where
  waypointIndex : Nat
  attempt : Nat
  before : Point
  target : Point
  residual : Point
  dampingApplied : Bool × Bool
  stagnationEscapeApplied : Bool × Bool
  delta : Point
  requested : Nat
  inserted : Nat
  after : Option Point
  cursorMoved : Option Bool
  injectionError : Option String

structure WindowsRelativeWaypointCompletion where
  waypointIndex : Nat
  target : Point
  actual : Point
  rule : String
  maxErrorPx : Int
  attemptBudget : Nat
  attemptsUsed : Nat
  remainingAttempts : Nat

structure WindowsRelativeDragPathTrace where
  schemaVersion : Nat
  backend : String
  completionPolicy : String
  tolerancePx : Int
  quantizedStallTolerancePx : Int
  intermediateTolerancePx : Int
  dampingMinEffectiveCommandPx : Int
  stagnationEscapeMaxResidualPx : Int
  stagnationEscapeMaxCommandPx : Int
  maxAttemptsPerWaypoint : Nat
  moveAttemptBudget : Nat
  moveAttemptsUsed : Nat
  waypointCount : Nat
  waypointsReached : Nat
  fenceChecks : Nat
  endpointReached : Bool
  endpointExact : Bool
  allWaypointsExact : Bool
  moves : List WindowsRelativeMoveTrace
  waypointCompletions : List WindowsRelativeWaypointCompletion
  failure : Option String
  failureDetail : Option String

def WindowsRelativeDragPathTrace.initial (waypoints : List Point) (maxAttemptsPerWaypoint : Nat) (tolerancePx : Int) :
    WindowsRelativeDragPathTrace where
  schemaVersion := 4
  backend := "windows_send_input_relative"
  completionPolicy := "configured_tolerance_or_intermediate_physical_pixel_or_observed_unit_stall"
  tolerancePx := tolerancePx
  quantizedStallTolerancePx := relativeDragQuantizedStallTolerancePx
  intermediateTolerancePx := relativeDragIntermediateTolerancePx
  dampingMinEffectiveCommandPx := relativeDragDampingMinEffectiveCommandPx
  stagnationEscapeMaxResidualPx := relativeDragStagnationEscapeMaxResidualPx
  stagnationEscapeMaxCommandPx := relativeDragStagnationEscapeMaxCommandPx
  maxAttemptsPerWaypoint := maxAttemptsPerWaypoint
  moveAttemptBudget := min (waypoints.length * maxAttemptsPerWaypoint) (2 ^ 64 - 1)
  moveAttemptsUsed := 0
  waypointCount := waypoints.length
  waypointsReached := 0
  fenceChecks := 0
  endpointReached := waypoints.isEmpty
  endpointExact := waypoints.isEmpty
  allWaypointsExact := waypoints.isEmpty
  moves := []
  waypointCompletions := []
  failure := none
  failureDetail := none

def WindowsRelativeDragPathTrace.fail (trace : WindowsRelativeDragPathTrace) (failure : String) (detail : Option String) :
    WindowsRelativeDragPathTrace :=
  { trace with failure := some failure, failureDetail := detail }

/-! ### The path -/

inductive RelativeCall where
  | validateTargetFence (result : Except String Unit)
  | cursorPosition (result : Except String Point)
  | sendRelative (dx dy : Int) (injection : WindowsInputCount)
  | settleWaypoint

structure RelativeClosures (κ : Type) where
  validateTargetFence : κ → Except String Unit × κ
  cursorPosition : κ → Except String Point × κ
  sendRelative : Int → Int → κ → WindowsInputCount × κ
  settleWaypoint : κ → κ

/-- What the attempts of a waypoint work on. -/
structure Attempts where
  current : Point
  completionRule : Option CompletionRule
  previousResidual : Option Point
  previousCommand : Option Point
  previousMotion : Option Point
  previousAxisMoved : Option (Bool × Bool)
  trace : WindowsRelativeDragPathTrace

/-- The command of an attempt, and what the trace keeps of it. -/
structure Command where
  residual : Point
  dampingApplied : Bool × Bool
  stagnationEscapeApplied : Bool × Bool
  delta : Point

def Attempts.command (s : Attempts) (target trustRegionMagnitude : Point) : Command :=
  let residual := (relativeCursorDelta s.current.1 target.1, relativeCursorDelta s.current.2 target.2)
  let damping := (residualCrossedTarget (s.previousResidual.map (·.1)) residual.1,
    residualCrossedTarget (s.previousResidual.map (·.2)) residual.2)
  let bounded := (
    boundedRelativeCommandForResidual residual.1 damping.1 (s.previousCommand.map (·.1)) (s.previousMotion.map (·.1))
      trustRegionMagnitude.1,
    boundedRelativeCommandForResidual residual.2 damping.2 (s.previousCommand.map (·.2)) (s.previousMotion.map (·.2))
      trustRegionMagnitude.2)
  let x := stagnationEscapeCommand residual.1 bounded.1 (s.previousCommand.map (·.1)) (s.previousAxisMoved.map (·.1))
  let y := stagnationEscapeCommand residual.2 bounded.2 (s.previousCommand.map (·.2)) (s.previousAxisMoved.map (·.2))
  ⟨residual, damping, (x.2, y.2), (x.1, y.1)⟩

/-- The rule by which a move completes its waypoint. -/
def completionAfterMove (before current target : Point) (delta : Point) (isFinalWaypoint : Bool) (tolerancePx : Int) : Option CompletionRule :=
  (configuredCompletionRule current target tolerancePx).or <|
  (if !isFinalWaypoint && current ≠ before && cursorReached current target relativeDragIntermediateTolerancePx
    then some .intermediatePhysicalPixel else none).or <|
  if current = before && isUnitRelativeCommand delta && cursorReached current target relativeDragQuantizedStallTolerancePx
    then some .quantizedUnitStall else none

/-- What is known over all waypoints. -/
structure Progress where
  current : Point
  allWaypointsExact : Bool
  finalWaypointExact : Bool
  trace : WindowsRelativeDragPathTrace

section
variable {κ : Type} (env : RelativeClosures κ) (waypoints : List Point) (maxAttemptsPerWaypoint : Nat) (tolerancePx : Int)

abbrev RelativeProg (κ α : Type) := CallProg κ RelativeCall (Except WindowsRelativeDragPathTrace α)

/-- The attempts that are left of a waypoint. -/
def attempts (waypointIndex : Nat) (target trustRegionMagnitude : Point) (isFinalWaypoint : Bool) :
    Nat → Nat → Attempts → RelativeProg κ Attempts
  | 0, _, s => Prog.ret (.ok s)
  | left + 1, attempt, s =>
    if s.completionRule.isSome then Prog.ret (.ok s)
    else
      let command := s.command target trustRegionMagnitude
      let trace := { s.trace with fenceChecks := s.trace.fenceChecks + 1 }
      (call env.validateTargetFence .validateTargetFence).andThen fun
        | .error error => Prog.ret (.error (trace.fail "target_fence_lost" (some error)))
        | .ok _ =>
          (call (env.sendRelative command.delta.1 command.delta.2) (.sendRelative command.delta.1 command.delta.2)).andThen fun injection =>
          let trace := { trace with moveAttemptsUsed := trace.moveAttemptsUsed + 1 }
          let moveTrace : WindowsRelativeMoveTrace := {
            waypointIndex := waypointIndex
            attempt := attempt
            before := s.current
            target := target
            residual := command.residual
            dampingApplied := command.dampingApplied
            stagnationEscapeApplied := command.stagnationEscapeApplied
            delta := command.delta
            requested := injection.requested
            inserted := injection.inserted
            after := none
            cursorMoved := none
            injectionError := injection.error }
          if !injection.wasAccepted then
            let trace := trace.fail "send_input_incomplete" injection.error
            Prog.ret (.error { trace with moves := trace.moves ++ [moveTrace] })
          else
            (call env.cursorPosition .cursorPosition).andThen fun
              | .error error =>
                let trace := trace.fail "cursor_position_unavailable" (some error)
                Prog.ret (.error { trace with moves := trace.moves ++ [moveTrace] })
              | .ok current =>
                let moveTrace := { moveTrace with after := some current, cursorMoved := some (decide (current ≠ s.current)) }
                attempts waypointIndex target trustRegionMagnitude isFinalWaypoint left (attempt + 1) {
                  current := current
                  completionRule := completionAfterMove s.current current target command.delta isFinalWaypoint tolerancePx
                  previousResidual := some command.residual
                  previousCommand := some command.delta
                  previousMotion := some (current.1 - s.current.1, current.2 - s.current.2)
                  previousAxisMoved := some (decide (current.1 ≠ s.current.1), decide (current.2 ≠ s.current.2))
                  trace := { trace with moves := trace.moves ++ [moveTrace] } }

/-- The waypoints from one on. -/
def waypointLoop : List Point → Nat → Progress → RelativeProg κ Progress
  | [], _, progress => Prog.ret (.ok progress)
  | target :: rest, waypointIndex, progress =>
    let isFinalWaypoint := decide (waypointIndex + 1 = waypoints.length)
    let moveAttemptStart := progress.trace.moveAttemptsUsed
    let trustRegionMagnitude := (magnitude (relativeCursorDelta progress.current.1 target.1),
      magnitude (relativeCursorDelta progress.current.2 target.2))
    (attempts env tolerancePx waypointIndex target trustRegionMagnitude isFinalWaypoint maxAttemptsPerWaypoint 1
      ⟨progress.current, configuredCompletionRule progress.current target tolerancePx, none, none, none, none, progress.trace⟩).tryThen
      fun s =>
      match s.completionRule with
      | none => Prog.ret (.error { s.trace with failure := some "endpoint_not_reached" })
      | some rule =>
        let attemptsUsed := s.trace.moveAttemptsUsed - moveAttemptStart
        (note env.settleWaypoint .settleWaypoint).andThen fun _ =>
        waypointLoop rest (waypointIndex + 1) {
          current := s.current
          allWaypointsExact := progress.allWaypointsExact && rule = .exact
          finalWaypointExact := if isFinalWaypoint then rule = .exact else progress.finalWaypointExact
          trace := { s.trace with
            waypointsReached := s.trace.waypointsReached + 1
            waypointCompletions := s.trace.waypointCompletions ++ [{
              waypointIndex := waypointIndex
              target := target
              actual := s.current
              rule := rule.text
              maxErrorPx := cursorMaxErrorPx s.current target
              attemptBudget := maxAttemptsPerWaypoint
              attemptsUsed := attemptsUsed
              remainingAttempts := maxAttemptsPerWaypoint - attemptsUsed }] } }

def runCalibratedRelativePath : CallProg κ RelativeCall WindowsRelativeDragPathTrace :=
  let tolerancePx := max tolerancePx 0
  let trace := WindowsRelativeDragPathTrace.initial waypoints maxAttemptsPerWaypoint tolerancePx
  (call env.cursorPosition .cursorPosition).andThen fun
    | .error error => Prog.ret (trace.fail "cursor_position_unavailable" (some error))
    | .ok current =>
      (waypointLoop env waypoints maxAttemptsPerWaypoint tolerancePx waypoints 0 ⟨current, true, waypoints.isEmpty, trace⟩).andThen fun
        | .error trace => Prog.ret trace
        | .ok progress => Prog.ret { progress.trace with
            endpointReached := true
            endpointExact := progress.finalWaypointExact
            allWaypointsExact := progress.allWaypointsExact }

end

end RelativePath
end DccCua
