import DccCua.Core.RelativePath

/-! # Relative paths steer towards their waypoints

A command on an axis is the residual's sign times a size, and the size is between one and the trust region unless one of
them is zero. Over a run the positions that a command depends on are read off its calls. -/

namespace DccCua
namespace RelativePath

open Calls Runs Script

/-! ### Sizes of commands -/

theorem clampI32_sign (v : Int) : (v = 0 ∧ clampI32 v = 0) ∨ (0 < v ∧ 0 < clampI32 v ∧ clampI32 v ≤ v) ∨
    (v < 0 ∧ clampI32 v < 0 ∧ v ≤ clampI32 v) := by
  unfold clampI32
  omega

/-- A command of a size in the residual's direction. -/
structure Sized (residual size command : Int) : Prop where
  zero_iff : command = 0 ↔ residual = 0 ∨ size = 0
  toward : command = 0 ∨ (0 < residual ∧ 0 < command) ∨ (residual < 0 ∧ command < 0)
  le : magnitude command ≤ size

theorem sized_of_sign {residual size : Int} (hsize : 0 ≤ size) :
    Sized residual size (clampI32 (saturatingMulI64 residual.sign size)) := by
  unfold clampI32 saturatingMulI64
  rcases Int.lt_trichotomy residual 0 with hneg | rfl | hpos
  · rw [Int.sign_eq_neg_one_of_neg hneg]
    exact ⟨by omega, by omega, by simp only [magnitude]; omega⟩
  · rw [Int.sign_zero]
    exact ⟨by omega, by omega, by simp only [magnitude]; omega⟩
  · rw [Int.sign_eq_one_of_pos hpos]
    exact ⟨by omega, by omega, by simp only [magnitude]; omega⟩

section Axis
variable {residual trust : Int} {crossedTarget : Bool} {previousCommand previousMotion : Option Int} {previousAxisMoved : Option Bool}

theorem minimumEffectiveMagnitude_pos (m : Int) : 1 ≤ minimumEffectiveMagnitude m := by
  unfold minimumEffectiveMagnitude relativeDragDampingMinEffectiveCommandPx
  split <;> omega

theorem legacy_pos (hresidual : residual ≠ 0) (damped : Bool) : 1 ≤ magnitude (relativeCommandForResidual residual damped) := by
  have hminimum := minimumEffectiveMagnitude_pos (magnitude residual)
  unfold relativeCommandForResidual
  cases damped with
  | false =>
    simp only [Bool.not_false, if_true, magnitude]
    omega
  | true =>
    simp only [Bool.not_true, Bool.false_eq_true, if_false]
    generalize hsize : max (magnitude residual / 2) (minimumEffectiveMagnitude (magnitude residual)) = size
    have hone : 1 ≤ size := by omega
    rcases Int.lt_trichotomy residual 0 with hneg | hzero | hpos
    · rw [Int.sign_eq_neg_one_of_neg hneg]
      simp only [clampI32, magnitude]
      omega
    · exact absurd hzero hresidual
    · rw [Int.sign_eq_one_of_pos hpos]
      simp only [clampI32, magnitude]
      omega

theorem adaptive_pos {size : Int} (h : adaptiveMagnitude residual crossedTarget previousCommand previousMotion = some size) : 1 ≤ size := by
  unfold adaptiveMagnitude at h
  split at h
  · rename_i command motion
    split at h
    · rename_i hgain
      simp only [Bool.and_eq_true, decide_eq_true_eq] at hgain
      have hcommand : command ≠ 0 := by tauto
      have hminimum := minimumEffectiveMagnitude_pos (magnitude residual)
      have hmagnitude : 1 ≤ magnitude command := by
        simp only [magnitude]
        omega
      simp only [Option.some.injEq] at h
      omega
    · cases h
  · cases h

/-- Without an escape the command is zero only when the residual or the trust region is. -/
theorem bounded_sized (htrust : 0 ≤ trust) :
    Sized residual trust (boundedRelativeCommandForResidual residual crossedTarget previousCommand previousMotion trust) := by
  let size := (adaptiveMagnitude residual crossedTarget previousCommand previousMotion).getD
    (magnitude (relativeCommandForResidual residual crossedTarget))
  have hsize : 0 ≤ size ∧ (residual ≠ 0 → 1 ≤ size) := by
    simp only [size]
    cases hadaptive : adaptiveMagnitude residual crossedTarget previousCommand previousMotion with
    | none => exact ⟨Int.natCast_nonneg _, fun hresidual => legacy_pos hresidual crossedTarget⟩
    | some adaptive => exact ⟨Int.le_of_lt (adaptive_pos hadaptive), fun _ => adaptive_pos hadaptive⟩
  have hsized : Sized residual (min size (max trust 0))
      (boundedRelativeCommandForResidual residual crossedTarget previousCommand previousMotion trust) :=
    sized_of_sign (by omega)
  exact ⟨by have := hsized.zero_iff; omega, hsized.toward, by have := hsized.le; omega⟩

/-- A command that points from the position to the target, is no larger than the way from the start or an escape, and is zero
only when one of these ways is. -/
structure Steers (target start actual command : Int) : Prop where
  toward : command = 0 ∨ (actual < target ∧ 0 < command) ∨ (target < actual ∧ command < 0)
  le : magnitude command ≤ max (magnitude (target - start)) relativeDragStagnationEscapeMaxCommandPx
  zero_iff : command = 0 ↔ actual = target ∨ start = target

theorem escape_sized (previousAxisMoved : Option Bool) {command : Int} (h : Sized residual trust command)
    (hprevious : ∀ previous, previousCommand = some previous → trust = 0 → previous = 0) :
    let escaped := (stagnationEscapeCommand residual command previousCommand previousAxisMoved).1
    (escaped = 0 ↔ residual = 0 ∨ trust = 0) ∧ (escaped = 0 ∨ (0 < residual ∧ 0 < escaped) ∨ (residual < 0 ∧ escaped < 0)) ∧
      magnitude escaped ≤ max trust relativeDragStagnationEscapeMaxCommandPx := by
  have hkept : (command = 0 ↔ residual = 0 ∨ trust = 0) ∧ (command = 0 ∨ (0 < residual ∧ 0 < command) ∨ (residual < 0 ∧ command < 0)) ∧
      magnitude command ≤ max trust relativeDragStagnationEscapeMaxCommandPx :=
    ⟨h.zero_iff, h.toward, Int.le_trans h.le (Int.le_max_left _ _)⟩
  intro escaped
  simp only [escaped, stagnationEscapeCommand]
  split
  · rename_i previous
    split
    · rename_i hescape
      simp only [Bool.and_eq_true, decide_eq_true_eq] at hescape
      obtain ⟨⟨⟨⟨hresidual, -⟩, -⟩, hmoved⟩, -⟩ := hescape
      have htrust : trust ≠ 0 := fun hzero => hmoved (hprevious previous rfl hzero)
      simp only [relativeDragStagnationEscapeMaxCommandPx, magnitude]
      rcases Int.lt_trichotomy residual 0 with hneg | hzero | hpos
      · rw [Int.sign_eq_neg_one_of_neg hneg]
        omega
      · exact absurd hzero hresidual
      · rw [Int.sign_eq_one_of_pos hpos]
        omega
    · exact hkept
  · exact hkept

/-- The command of an attempt on an axis. -/
theorem steers_axis {target start actual : Int}
    (hprevious : ∀ previous, previousCommand = some previous → start = target → previous = 0) :
    Steers target start actual (stagnationEscapeCommand (relativeCursorDelta actual target)
      (boundedRelativeCommandForResidual (relativeCursorDelta actual target) crossedTarget previousCommand previousMotion
        (magnitude (relativeCursorDelta start target))) previousCommand previousAxisMoved).1 := by
  have hactual := clampI32_sign (target - actual)
  have hstart := clampI32_sign (target - start)
  have htrust : magnitude (relativeCursorDelta start target) = 0 ↔ start = target := by
    simp only [magnitude, relativeCursorDelta]
    omega
  have hbounded : Sized (relativeCursorDelta actual target) (magnitude (relativeCursorDelta start target))
      (boundedRelativeCommandForResidual (relativeCursorDelta actual target) crossedTarget previousCommand previousMotion
        (magnitude (relativeCursorDelta start target))) := bounded_sized (Int.natCast_nonneg _)
  obtain ⟨hzero, htoward, hle⟩ := escape_sized previousAxisMoved hbounded
    fun previous h htrust' => hprevious previous h (htrust.mp htrust')
  have hregion : magnitude (relativeCursorDelta start target) ≤ magnitude (target - start) := by
    simp only [magnitude, relativeCursorDelta]
    omega
  refine ⟨?_, by omega, ?_⟩
  · simp only [relativeCursorDelta] at htoward ⊢
    omega
  · rw [hzero, htrust]
    simp only [relativeCursorDelta]
    omega

end Axis

/-! ### What the calls show -/

namespace RelativeCall

def failed : RelativeCall → Bool
  | .validateTargetFence (.error _) => true
  | .cursorPosition (.error _) => true
  | .sendRelative _ _ injection => !injection.wasAccepted
  | _ => false

/-- The position that a read measures. -/
def position : RelativeCall → Option Point
  | .cursorPosition (.ok p) => some p
  | _ => none

def isSettle : RelativeCall → Bool
  | .settleWaypoint => true
  | _ => false

end RelativeCall

/-- The last measured position. -/
def measured (calls : List RelativeCall) : Option Point := calls.findSome? RelativeCall.position

/-- How many waypoints are completed. -/
def completed (calls : List RelativeCall) : Nat := calls.countP RelativeCall.isSettle

/-- The position that was measured when the present waypoint was started. -/
def startedAt : List RelativeCall → Option Point
  | [] => none
  | .settleWaypoint :: earlier => measured earlier
  | .cursorPosition (.ok p) :: earlier => (startedAt earlier).or (some p)
  | _ :: earlier => startedAt earlier

/-- The moves that were sent for the present waypoint. -/
def movesSent : List RelativeCall → Nat
  | [] => 0
  | .settleWaypoint :: _ => 0
  | .sendRelative _ _ _ :: earlier => movesSent earlier + 1
  | _ :: earlier => movesSent earlier

/-- The positions at which waypoints were completed, in order. -/
def reachedAt : List RelativeCall → List (Option Point)
  | [] => []
  | .settleWaypoint :: earlier => reachedAt earlier ++ [measured earlier]
  | _ :: earlier => reachedAt earlier

/-- A unit command has not moved the cursor, and it is a pixel off at most. -/
def Stalled (target actual : Point) (earlier : List RelativeCall) : Prop :=
  ∃ dx dy injection fence before, earlier = .cursorPosition (.ok actual) :: .sendRelative dx dy injection :: fence :: before ∧
    measured before = some actual ∧ isUnitRelativeCommand (dx, dy) = true ∧ cursorReached actual target 1 = true

section Paths
variable (waypoints : List Point) (maxAttemptsPerWaypoint : Nat) (tolerancePx : Int)

/-- A move steers from the measured position to the present waypoint. -/
def Steered (dx dy : Int) (earlier : List RelativeCall) : Prop :=
  ∃ target start actual, waypoints[completed earlier]? = some target ∧ startedAt earlier = some start ∧ measured earlier = some actual ∧
    Steers target.1 start.1 actual.1 dx ∧ Steers target.2 start.2 actual.2 dy

/-- The present waypoint is completed: within the tolerance, a pixel off before the last one, or after a stall. -/
def Completes (earlier : List RelativeCall) : Prop :=
  ∃ target actual, waypoints[completed earlier]? = some target ∧ measured earlier = some actual ∧
    (cursorReached actual target tolerancePx = true ∨
      (completed earlier + 1 ≠ waypoints.length ∧ cursorReached actual target 1 = true) ∨ Stalled target actual earlier)

/-- What a call needs. -/
def Permitted (c : RelativeCall) (earlier : List RelativeCall) : Prop :=
  (∀ b ∈ earlier, b.failed = false) ∧
    match c with
    | .sendRelative dx dy _ => earlier.head? = some (.validateTargetFence (.ok ())) ∧ movesSent earlier < maxAttemptsPerWaypoint ∧
        Steered waypoints dx dy earlier
    | .settleWaypoint => Completes waypoints tolerancePx earlier
    | _ => True

/-- What the trace tells of the calls. -/
structure Told (trace : WindowsRelativeDragPathTrace) (calls : List RelativeCall) : Prop where
  permitted : Justified (Permitted waypoints maxAttemptsPerWaypoint tolerancePx) calls
  endpointReached : trace.endpointReached = true ↔ completed calls = waypoints.length
  endpointExact : trace.endpointExact = true ↔ completed calls = waypoints.length ∧ (reachedAt calls).getLast? = some waypoints.getLast?
  allWaypointsExact : trace.allWaypointsExact = true ↔ reachedAt calls = waypoints.map some

end Paths

theorem cursorReached_self (p : Point) (tolerancePx : Int) : cursorReached p p tolerancePx = true := by
  simp [cursorReached, cursorAxisDistance, magnitude, Int.le_max_right]

theorem configuredCompletionRule_eq_some {actual expected : Point} {tolerancePx : Int} {rule : CompletionRule}
    (h : configuredCompletionRule actual expected tolerancePx = some rule) :
    cursorReached actual expected tolerancePx = true ∧ (rule = .exact ↔ actual = expected) := by
  unfold configuredCompletionRule at h
  split at h
  · rename_i hexact
    cases h
    exact ⟨hexact ▸ cursorReached_self actual tolerancePx, iff_of_true rfl hexact⟩
  · rename_i hexact
    split at h
    · rename_i hreached
      cases h
      exact ⟨hreached, iff_of_false nofun hexact⟩
    · cases h

theorem completionAfterMove_eq_some {before current target delta : Point} {isFinalWaypoint : Bool} {tolerancePx : Int}
    {rule : CompletionRule} (h : completionAfterMove before current target delta isFinalWaypoint tolerancePx = some rule) :
    (cursorReached current target tolerancePx = true ∨ (isFinalWaypoint = false ∧ cursorReached current target 1 = true) ∨
      (current = before ∧ isUnitRelativeCommand delta = true ∧ cursorReached current target 1 = true)) ∧
      (rule = .exact ↔ current = target) := by
  unfold completionAfterMove at h
  rcases Option.or_eq_some_iff.mp h with hconfigured | ⟨hnone, h⟩
  · exact (configuredCompletionRule_eq_some hconfigured).imp_left Or.inl
  -- The other rules come after the exact one.
  have hinexact : current ≠ target := by
    rintro rfl
    simp [configuredCompletionRule] at hnone
  rcases Option.or_eq_some_iff.mp h with hpixel | ⟨-, hstall⟩
  · split at hpixel
    · rename_i hmoved
      cases hpixel
      simp only [Bool.and_eq_true, Bool.not_eq_true', decide_eq_true_eq] at hmoved
      exact ⟨Or.inr (Or.inl ⟨hmoved.1.1, hmoved.2⟩), iff_of_false nofun hinexact⟩
    · cases hpixel
  · split at hstall
    · rename_i hstayed
      cases hstall
      simp only [Bool.and_eq_true, decide_eq_true_eq] at hstayed
      exact ⟨Or.inr (Or.inr ⟨hstayed.1.1, hstayed.1.2, hstayed.2⟩), iff_of_false nofun hinexact⟩
    · cases hstall

/-! ### Records -/

@[simp] theorem completed_cons {c : RelativeCall} {calls : List RelativeCall} :
    completed (c :: calls) = completed calls + if c.isSettle then 1 else 0 := List.countP_cons

theorem length_reachedAt : ∀ calls : List RelativeCall, (reachedAt calls).length = completed calls
  | [] => rfl
  | .settleWaypoint :: earlier => by
    rw [reachedAt, List.length_append, length_reachedAt earlier, completed_cons]
    rfl
  | .validateTargetFence _ :: earlier | .cursorPosition _ :: earlier | .sendRelative _ _ _ :: earlier => by
    rw [reachedAt, length_reachedAt earlier, completed_cons]
    · rfl
    · intro h
      cases h

section Invariants
variable {waypoints : List Point} {maxAttemptsPerWaypoint : Nat} {tolerancePx : Int}

/-- The trace tells of no end yet. -/
def Fresh (trace : WindowsRelativeDragPathTrace) : Prop :=
  trace.endpointReached = false ∧ trace.endpointExact = false ∧ trace.allWaypointsExact = false

theorem told_of_fresh {trace : WindowsRelativeDragPathTrace} {calls : List RelativeCall} (hfresh : Fresh trace)
    (hopen : completed calls < waypoints.length) (h : Justified (Permitted waypoints maxAttemptsPerWaypoint tolerancePx) calls) :
    Told waypoints maxAttemptsPerWaypoint tolerancePx trace calls where
  permitted := h
  endpointReached := by
    rw [hfresh.1]
    exact ⟨nofun, fun heq => absurd heq (Nat.ne_of_lt hopen)⟩
  endpointExact := by
    rw [hfresh.2.1]
    exact ⟨nofun, fun heq => absurd heq.1 (Nat.ne_of_lt hopen)⟩
  allWaypointsExact := by
    rw [hfresh.2.2]
    refine ⟨nofun, fun heq => ?_⟩
    have hlength := congrArg List.length heq
    rw [length_reachedAt, List.length_map] at hlength
    exact absurd hlength (Nat.ne_of_lt hopen)

variable (waypoints maxAttemptsPerWaypoint tolerancePx) in
/-- The attempts of a waypoint, with some of them left. -/
structure Walking (target start : Point) (left : Nat) (s : Attempts) (calls : List RelativeCall) : Prop where
  permitted : Justified (Permitted waypoints maxAttemptsPerWaypoint tolerancePx) calls
  calm : ∀ b ∈ calls, b.failed = false
  target_eq : waypoints[completed calls]? = some target
  start_eq : startedAt calls = some start
  current_eq : measured calls = some s.current
  budget : movesSent calls + left = maxAttemptsPerWaypoint
  previous : ∀ previous, s.previousCommand = some previous → (start.1 = target.1 → previous.1 = 0) ∧ (start.2 = target.2 → previous.2 = 0)
  rule : ∀ rule, s.completionRule = some rule → Completes waypoints tolerancePx calls ∧ (rule = .exact ↔ s.current = target)
  fresh : Fresh s.trace

namespace Walking
variable {target start : Point} {left : Nat} {s : Attempts} {calls : List RelativeCall}

theorem lt (h : Walking waypoints maxAttemptsPerWaypoint tolerancePx target start left s calls) : completed calls < waypoints.length :=
  (List.getElem?_eq_some_iff.mp h.target_eq).1

/-- The command of the next attempt. -/
def next (s : Attempts) (target start : Point) : Command :=
  s.command target (magnitude (relativeCursorDelta start.1 target.1), magnitude (relativeCursorDelta start.2 target.2))

theorem steers (h : Walking waypoints maxAttemptsPerWaypoint tolerancePx target start left s calls) :
    Steers target.1 start.1 s.current.1 (next s target start).delta.1 ∧ Steers target.2 start.2 s.current.2 (next s target start).delta.2 := by
  constructor
  · refine steers_axis fun previous hprevious hstart => ?_
    obtain ⟨pair, hpair, rfl⟩ := Option.map_eq_some_iff.mp hprevious
    exact (h.previous pair hpair).1 hstart
  · refine steers_axis fun previous hprevious hstart => ?_
    obtain ⟨pair, hpair, rfl⟩ := Option.map_eq_some_iff.mp hprevious
    exact (h.previous pair hpair).2 hstart

/-- A move that is sent after the check. -/
theorem send (h : Walking waypoints maxAttemptsPerWaypoint tolerancePx target start (left + 1) s calls) (injection : WindowsInputCount) :
    Justified (Permitted waypoints maxAttemptsPerWaypoint tolerancePx)
      (.sendRelative (next s target start).delta.1 (next s target start).delta.2 injection :: .validateTargetFence (.ok ()) :: calls) := by
  have hchecked : Justified (Permitted waypoints maxAttemptsPerWaypoint tolerancePx) (.validateTargetFence (.ok ()) :: calls) :=
    h.permitted.cons ⟨h.calm, trivial⟩
  refine hchecked.cons ⟨List.forall_mem_cons.mpr ⟨rfl, h.calm⟩, rfl, ?_, target, start, s.current, ?_, h.start_eq, h.current_eq, h.steers⟩
  · have hbudget := h.budget
    show movesSent calls < maxAttemptsPerWaypoint
    omega
  · rw [completed_cons]
    exact h.target_eq

/-- The rule that completes a waypoint after a move. -/
theorem completes {current : Point} {rule : CompletionRule} {injection : WindowsInputCount}
    (h : Walking waypoints maxAttemptsPerWaypoint tolerancePx target start left s calls)
    (hrule : completionAfterMove s.current current target (next s target start).delta (decide (completed calls + 1 = waypoints.length))
      tolerancePx = some rule) :
    Completes waypoints tolerancePx (.cursorPosition (.ok current) ::
        .sendRelative (next s target start).delta.1 (next s target start).delta.2 injection :: .validateTargetFence (.ok ()) :: calls) ∧
      (rule = .exact ↔ current = target) := by
  obtain ⟨hreached, hexact⟩ := completionAfterMove_eq_some hrule
  refine ⟨⟨target, current, h.target_eq, rfl, hreached.imp_right fun hpixel => hpixel.imp ?_ ?_⟩, hexact⟩
  · exact fun ⟨hfinal, hnear⟩ => ⟨of_decide_eq_false hfinal, hnear⟩
  · exact fun ⟨hstayed, hunit, hnear⟩ => ⟨_, _, injection, _, calls, rfl, hstayed ▸ h.current_eq, hunit, hnear⟩

/-- The next attempt, when its move and the read after it succeed. -/
theorem moved {current : Point} {injection : WindowsInputCount} {s' : Attempts}
    (h : Walking waypoints maxAttemptsPerWaypoint tolerancePx target start (left + 1) s calls) (haccepted : injection.wasAccepted = true)
    (hcurrent : s'.current = current)
    (hrule : s'.completionRule = completionAfterMove s.current current target (next s target start).delta
      (decide (completed calls + 1 = waypoints.length)) tolerancePx)
    (hprevious : s'.previousCommand = some (next s target start).delta) (hfresh : Fresh s'.trace) :
    Walking waypoints maxAttemptsPerWaypoint tolerancePx target start left s' (.cursorPosition (.ok current) ::
      .sendRelative (next s target start).delta.1 (next s target start).delta.2 injection :: .validateTargetFence (.ok ()) :: calls) where
  permitted := (h.send injection).cons ⟨List.forall_mem_cons.mpr ⟨by simp [RelativeCall.failed, haccepted],
    List.forall_mem_cons.mpr ⟨rfl, h.calm⟩⟩, trivial⟩
  calm := List.forall_mem_cons.mpr ⟨rfl, List.forall_mem_cons.mpr ⟨by simp [RelativeCall.failed, haccepted],
    List.forall_mem_cons.mpr ⟨rfl, h.calm⟩⟩⟩
  target_eq := h.target_eq
  start_eq := by
    show (startedAt calls).or (some current) = some start
    rw [h.start_eq, Option.some_or]
  current_eq := congrArg some hcurrent.symm
  budget := by
    have hbudget := h.budget
    show movesSent calls + 1 + left = maxAttemptsPerWaypoint
    omega
  previous := fun previous hsome => by
    rw [hprevious, Option.some.injEq] at hsome
    obtain ⟨hx, hy⟩ := h.steers
    rw [← hsome]
    exact ⟨fun hstart => hx.zero_iff.mpr (Or.inr hstart), fun hstart => hy.zero_iff.mpr (Or.inr hstart)⟩
  rule := fun rule hsome => by
    rw [hrule] at hsome
    rw [hcurrent]
    exact h.completes hsome
  fresh := hfresh

end Walking

section Attempts
variable {κ : Type} {env : RelativeClosures κ} {target start : Point}

/-- The attempts end with some of them left, or with a trace of what failed. -/
theorem attempts_spec (index : Nat) (points : List (Option Point)) : ∀ (left attempt : Nat) (s : Attempts),
    Does (fun calls => (completed calls = index ∧ reachedAt calls = points) ∧ Walking waypoints maxAttemptsPerWaypoint tolerancePx target start left s calls)
      (attempts env tolerancePx index target
        (magnitude (relativeCursorDelta start.1 target.1), magnitude (relativeCursorDelta start.2 target.2))
        (decide (index + 1 = waypoints.length)) left attempt s)
      (either (fun s calls => ∃ left, (completed calls = index ∧ reachedAt calls = points) ∧ Walking waypoints maxAttemptsPerWaypoint tolerancePx target start left s calls)
        fun trace calls => Told waypoints maxAttemptsPerWaypoint tolerancePx trace calls)
  | 0, _, _ => does_ret fun _ h => ⟨0, h⟩
  | left + 1, attempt, s => by
    rw [attempts]
    split
    · exact does_ret fun _ h => ⟨left + 1, h⟩
    refine does_andThen (R := fun result record => ∃ calls, ((completed calls = index ∧ reachedAt calls = points) ∧
      Walking waypoints maxAttemptsPerWaypoint tolerancePx target start (left + 1) s calls) ∧ record = .validateTargetFence result :: calls)
      (does_call fun calls _ h => ⟨calls, h, rfl⟩) fun result => does_exists fun calls => ?_
    rcases result with error | _
    · refine does_ret fun record ⟨⟨_, h⟩, hrecord⟩ => ?_
      rw [hrecord]
      exact told_of_fresh h.fresh h.lt (h.permitted.cons ⟨h.calm, trivial⟩)
    refine does_andThen (R := fun injection record => ((completed calls = index ∧ reachedAt calls = points) ∧
        Walking waypoints maxAttemptsPerWaypoint tolerancePx target start (left + 1) s calls) ∧
        record = .sendRelative (Walking.next s target start).delta.1 (Walking.next s target start).delta.2 injection ::
          .validateTargetFence (.ok ()) :: calls)
      (does_call fun _ _ ⟨h, hrecord⟩ => ⟨h, by rw [hrecord]; rfl⟩) fun injection => ?_
    cases haccepted : injection.wasAccepted with
    | false =>
      simp only [Bool.not_false, if_true]
      refine does_ret fun record ⟨⟨_, h⟩, hrecord⟩ => ?_
      rw [hrecord]
      exact told_of_fresh h.fresh h.lt (h.send injection)
    | true =>
      simp only [Bool.not_true, Bool.false_eq_true, if_false]
      refine does_andThen (R := fun result record => ((completed calls = index ∧ reachedAt calls = points) ∧
          Walking waypoints maxAttemptsPerWaypoint tolerancePx target start (left + 1) s calls) ∧
          record = .cursorPosition result :: .sendRelative (Walking.next s target start).delta.1
            (Walking.next s target start).delta.2 injection :: .validateTargetFence (.ok ()) :: calls)
        (does_call fun _ _ ⟨h, hrecord⟩ => ⟨h, by rw [hrecord]⟩) fun result => ?_
      rcases result with error | current
      · refine does_ret fun record ⟨⟨_, h⟩, hrecord⟩ => ?_
        rw [hrecord]
        exact told_of_fresh h.fresh h.lt ((h.send injection).cons ⟨List.forall_mem_cons.mpr ⟨by simp [RelativeCall.failed, haccepted],
          List.forall_mem_cons.mpr ⟨rfl, h.calm⟩⟩, trivial⟩)
      · refine does_weaken (attempts_spec index points left (attempt + 1) _) (fun record ⟨⟨hindex, h⟩, hrecord⟩ => ?_) fun _ _ h => h
        rw [hrecord]
        exact ⟨hindex, h.moved haccepted rfl (by rw [hindex.1]; rfl) rfl h.fresh⟩

end Attempts

variable (waypoints maxAttemptsPerWaypoint tolerancePx) in
/-- The waypoints before one are completed. -/
structure Arrived (index : Nat) (progress : Progress) (calls : List RelativeCall) : Prop where
  permitted : Justified (Permitted waypoints maxAttemptsPerWaypoint tolerancePx) calls
  calm : ∀ b ∈ calls, b.failed = false
  index_eq : completed calls = index
  index_le : index ≤ waypoints.length
  start_eq : startedAt calls = some progress.current
  current_eq : measured calls = some progress.current
  unmoved : movesSent calls = 0
  fresh : Fresh progress.trace
  final : progress.finalWaypointExact = true ↔ index = waypoints.length ∧ (reachedAt calls).getLast? = some waypoints.getLast?
  all : progress.allWaypointsExact = true ↔ reachedAt calls = (waypoints.take index).map some

namespace Arrived
variable {index : Nat} {progress : Progress} {calls : List RelativeCall} {target : Point}

/-- The next waypoint, before its first attempt. -/
theorem walking (h : Arrived waypoints maxAttemptsPerWaypoint tolerancePx index progress calls) (htarget : waypoints[index]? = some target) :
    Walking waypoints maxAttemptsPerWaypoint tolerancePx target progress.current maxAttemptsPerWaypoint
      ⟨progress.current, configuredCompletionRule progress.current target tolerancePx, none, none, none, none, progress.trace⟩ calls where
  permitted := h.permitted
  calm := h.calm
  target_eq := h.index_eq ▸ htarget
  start_eq := h.start_eq
  current_eq := h.current_eq
  budget := by rw [h.unmoved, Nat.zero_add]
  previous := nofun
  rule := fun rule hrule => by
    obtain ⟨hreached, hexact⟩ := configuredCompletionRule_eq_some hrule
    exact ⟨⟨target, progress.current, h.index_eq ▸ htarget, h.current_eq, Or.inl hreached⟩, hexact⟩
  fresh := h.fresh

end Arrived

/-- A completed waypoint. -/
theorem Walking.arrived {target start : Point} {left index : Nat} {s : Attempts} {calls : List RelativeCall} {rule : CompletionRule}
    {progress progress' : Progress} (h : Walking waypoints maxAttemptsPerWaypoint tolerancePx target start left s calls)
    (hindex : completed calls = index) (hrule : s.completionRule = some rule)
    (hfinal : index < waypoints.length → progress.finalWaypointExact = false)
    (hall : progress.allWaypointsExact = true ↔ reachedAt calls = (waypoints.take index).map some)
    (hcurrent : progress'.current = s.current) (hfresh : Fresh progress'.trace)
    (hfinal' : progress'.finalWaypointExact =
      if decide (index + 1 = waypoints.length) then decide (rule = .exact) else progress.finalWaypointExact)
    (hall' : progress'.allWaypointsExact = (progress.allWaypointsExact && decide (rule = .exact))) :
    Arrived waypoints maxAttemptsPerWaypoint tolerancePx (index + 1) progress' (.settleWaypoint :: calls) where
  permitted := h.permitted.cons ⟨h.calm, (h.rule rule hrule).1⟩
  calm := List.forall_mem_cons.mpr ⟨rfl, h.calm⟩
  index_eq := by
    rw [completed_cons, hindex]
    rfl
  index_le := hindex ▸ h.lt
  start_eq := h.current_eq.trans (congrArg some hcurrent.symm)
  current_eq := h.current_eq.trans (congrArg some hcurrent.symm)
  unmoved := rfl
  fresh := hfresh
  final := by
    have hlast : (reachedAt (.settleWaypoint :: calls)).getLast? = some (some s.current) := by
      rw [reachedAt, h.current_eq, List.getLast?_concat]
    rw [hfinal', hlast]
    by_cases hend : index + 1 = waypoints.length
    · have htarget : waypoints.getLast? = some target := by
        rw [List.getLast?_eq_getElem?, ← hend, Nat.add_sub_cancel, ← hindex]
        exact h.target_eq
      rw [if_pos (decide_eq_true hend), decide_eq_true_eq, (h.rule rule hrule).2, htarget]
      simp [hend]
    · have hlt : index < waypoints.length := hindex ▸ h.lt
      rw [if_neg (by simp [hend]), hfinal hlt]
      exact iff_of_false nofun fun hall => hend hall.1
  all := by
    have htake : waypoints.take (index + 1) = waypoints.take index ++ [target] := by
      rw [List.take_add_one, ← hindex, h.target_eq]
      rfl
    rw [hall', Bool.and_eq_true, hall, decide_eq_true_eq, (h.rule rule hrule).2, reachedAt, h.current_eq, htake, List.map_append,
      List.map_singleton, List.append_singleton_inj, Option.some.injEq]

theorem waypointLoop_spec {κ : Type} {env : RelativeClosures κ} : ∀ (rest : List Point) (index : Nat) (progress : Progress),
    waypoints.drop index = rest →
    Does (Arrived waypoints maxAttemptsPerWaypoint tolerancePx index progress)
      (waypointLoop env waypoints maxAttemptsPerWaypoint tolerancePx rest index progress)
      (either (Arrived waypoints maxAttemptsPerWaypoint tolerancePx waypoints.length)
        (Told waypoints maxAttemptsPerWaypoint tolerancePx))
  | [], index, progress, hrest => does_ret fun record h => by
    have hlength : index = waypoints.length := Nat.le_antisymm h.index_le (List.drop_eq_nil_iff.mp hrest)
    exact hlength ▸ h
  | target :: rest, index, progress, hrest => by
    have hlt : index < waypoints.length := by
      rw [← Nat.not_le, ← List.drop_eq_nil_iff, hrest]
      exact List.cons_ne_nil target rest
    rw [List.drop_eq_getElem_cons hlt, List.cons.injEq] at hrest
    have htarget : waypoints[index]? = some target := List.getElem?_eq_some_iff.mpr ⟨hlt, hrest.1⟩
    -- What was reached before stays what it is during the attempts.
    refine does_weaken (R := fun record => ∃ points, Arrived waypoints maxAttemptsPerWaypoint tolerancePx index progress record ∧
      reachedAt record = points) (does_exists fun points => ?_) (fun record h => ⟨reachedAt record, h, rfl⟩) fun _ _ h => h
    refine does_weaken (R := fun record => ((completed record = index ∧ reachedAt record = points) ∧
      Walking waypoints maxAttemptsPerWaypoint tolerancePx target progress.current maxAttemptsPerWaypoint
      ⟨progress.current, configuredCompletionRule progress.current target tolerancePx, none, none, none, none, progress.trace⟩ record) ∧
      ((index < waypoints.length → progress.finalWaypointExact = false) ∧
        (progress.allWaypointsExact = true ↔ points = (waypoints.take index).map some)))
      (does_fact fun ⟨hfinal, hall⟩ => ?_) ?_ fun _ _ h => h
    · rw [waypointLoop]
      refine does_tryThen (attempts_spec index points maxAttemptsPerWaypoint 1 _) fun s => ?_
      refine does_exists fun left => ?_
      cases hrule : s.completionRule with
      | none => exact does_ret fun record ⟨_, h⟩ => told_of_fresh h.fresh h.lt h.permitted
      | some rule =>
        refine does_andThen (R := fun _ => Arrived waypoints maxAttemptsPerWaypoint tolerancePx (index + 1) _) (does_note fun record h => ?_)
          fun _ => waypointLoop_spec rest (index + 1) _ hrest.2
        obtain ⟨⟨hindex, hpoints⟩, h⟩ := h
        exact h.arrived hindex hrule hfinal (by rw [hpoints]; exact hall) rfl h.fresh rfl rfl
    · rintro record ⟨h, hpoints⟩
      refine ⟨⟨⟨h.index_eq, hpoints⟩, h.walking htarget⟩, fun _ => ?_, hpoints ▸ h.all⟩
      rw [Bool.eq_false_iff, ne_eq, h.final]
      exact fun hend => Nat.ne_of_lt hlt hend.1

/-- The run with a tolerance that is not negative. -/
theorem run_told_clamped {κ : Type} (env : RelativeClosures κ) (hwaypoints : waypoints ≠ []) :
    Yields (runCalibratedRelativePath env waypoints maxAttemptsPerWaypoint tolerancePx)
      (Told waypoints maxAttemptsPerWaypoint (max tolerancePx 0)) := by
  unfold Yields runCalibratedRelativePath
  have hempty : waypoints.isEmpty = false := List.isEmpty_eq_false_iff.mpr hwaypoints
  have hfresh : Fresh (.initial waypoints maxAttemptsPerWaypoint (max tolerancePx 0)) := ⟨hempty, hempty, hempty⟩
  have hlength : 0 < waypoints.length := List.length_pos_iff.mpr hwaypoints
  refine does_andThen (R := fun result calls => calls = [.cursorPosition result]) (does_call fun _ _ h => by rw [h]) fun result => ?_
  rcases result with error | current
  · refine does_ret fun record h => ?_
    rw [h]
    exact told_of_fresh hfresh hlength (justified_nil.cons ⟨nofun, trivial⟩)
  refine does_andThen (does_weaken (waypointLoop_spec waypoints 0 _ rfl) (fun record h => ?_) fun _ _ h => h) fun result => ?_
  · rw [h]
    refine ⟨justified_nil.cons ⟨nofun, trivial⟩, by simp [RelativeCall.failed], rfl, Nat.zero_le _, rfl, rfl, rfl, hfresh, ?_, ?_⟩
    · rw [hempty]
      exact iff_of_false nofun fun hend => Nat.ne_of_lt hlength hend.1
    · exact iff_of_true rfl rfl
  · rcases result with trace | progress
    · exact does_ret fun _ h => h
    · refine does_ret fun record h => ⟨h.permitted, iff_of_true rfl h.index_eq, ?_, ?_⟩
      · show progress.finalWaypointExact = true ↔ _
        rw [h.final, h.index_eq]
      · show progress.allWaypointsExact = true ↔ _
        rw [h.all, List.take_length]

theorem cursorReached_max {actual expected : Point} :
    cursorReached actual expected (max tolerancePx 0) = cursorReached actual expected tolerancePx := by
  simp [cursorReached]

/-- The trace of a run tells of its calls. -/
theorem run_told {κ : Type} (env : RelativeClosures κ) (hwaypoints : waypoints ≠ []) :
    Yields (runCalibratedRelativePath env waypoints maxAttemptsPerWaypoint tolerancePx)
      (Told waypoints maxAttemptsPerWaypoint tolerancePx) := by
  refine does_weaken (run_told_clamped env hwaypoints) (fun _ h => h) fun trace calls h => { h with permitted := h.permitted.mono ?_ }
  rintro c earlier ⟨hcalm, hcall⟩
  refine ⟨hcalm, ?_⟩
  cases c with
  | settleWaypoint =>
    simp only [Completes, cursorReached_max] at hcall
    exact hcall
  | _ => exact hcall

end Invariants

/-- Moves follow their checks, stop at the first failure, stay within the attempts of their waypoint and steer from the measured
position towards it; the trace tells which waypoints were reached, and which exactly. -/
theorem relative_path_told {κ : Type} (env : RelativeClosures κ) (waypoints : List Point) (maxAttemptsPerWaypoint : Nat) (tolerancePx : Int)
    (hwaypoints : waypoints ≠ []) :
    Yields (runCalibratedRelativePath env waypoints maxAttemptsPerWaypoint tolerancePx)
      (Told waypoints maxAttemptsPerWaypoint tolerancePx) :=
  run_told env hwaypoints

/-- Answers the given positions. -/
def cursorAt : RelativeClosures (List Point) where
  validateTargetFence positions := (.ok (), positions)
  cursorPosition
    | [] => (.error "no position", [])
    | p :: rest => (.ok p, rest)
  sendRelative _ _ positions := (.accepted, positions)
  settleWaypoint positions := positions

theorem relative_path_told_twice : Yields (runCalibratedRelativePath cursorAt [(10, 0), (20, 5)] 2 0) (Told [(10, 0), (20, 5)] 2 0) :=
  relative_path_told cursorAt [(10, 0), (20, 5)] 2 0 (List.cons_ne_nil _ _)

/-! ### Drift across an axis that started level -/

section Drift
variable (waypoints : List Point) (tolerancePx : Int)

/-- The position is off by more than the tolerance. -/
def Off (target actual : Int) : Prop := max tolerancePx 0 < cursorAxisDistance actual target

/-- The command of a move is not zero on an axis on which the measured position is off. -/
def Corrects : RelativeCall → List RelativeCall → Prop
  | .sendRelative dx dy _, earlier => ∀ target actual, waypoints[completed earlier]? = some target → measured earlier = some actual →
      (Off tolerancePx target.1 actual.1 → dx ≠ 0) ∧ (Off tolerancePx target.2 actual.2 → dy ≠ 0)
  | _, _ => True

/-- On an axis the waypoint was started level with it, and the measured position is off. -/
def Drifted (earlier : List RelativeCall) : Prop :=
  ∃ target start actual, waypoints[completed earlier]? = some target ∧ startedAt earlier = some start ∧ measured earlier = some actual ∧
    ((start.1 = target.1 ∧ Off tolerancePx target.1 actual.1) ∨ (start.2 = target.2 ∧ Off tolerancePx target.2 actual.2))

/-- No move is sent after a drift. -/
def Undrifted : RelativeCall → List RelativeCall → Prop
  | .sendRelative _ _ _, earlier => ¬Drifted waypoints tolerancePx earlier
  | _, _ => True

end Drift

section Drifts
variable {waypoints : List Point} {maxAttemptsPerWaypoint : Nat} {tolerancePx : Int}

theorem Steers.corrects_iff {target start actual command : Int} (h : Steers target start actual command) :
    (Off tolerancePx target actual → command ≠ 0) ↔ ¬(start = target ∧ Off tolerancePx target actual) := by
  have hoff : Off tolerancePx target actual → actual ≠ target := by
    unfold Off cursorAxisDistance magnitude
    omega
  rw [ne_eq, h.zero_iff]
  tauto

theorem corrects_iff {c : RelativeCall} {earlier : List RelativeCall}
    (h : Permitted waypoints maxAttemptsPerWaypoint tolerancePx c earlier) :
    Corrects waypoints tolerancePx c earlier ↔ Undrifted waypoints tolerancePx c earlier := by
  cases c with
  | sendRelative dx dy injection =>
    obtain ⟨target, start, actual, htarget, hstart, hactual, hx, hy⟩ := h.2.2.2
    simp only [Corrects, Undrifted, Drifted, htarget, hstart, hactual, Option.some.injEq, exists_and_left, exists_eq_left', not_or]
    rw [← hx.corrects_iff, ← hy.corrects_iff]
    constructor
    · exact fun hcorrects => hcorrects target actual rfl rfl
    · rintro hcorrects _ _ rfl rfl
      exact hcorrects
  | _ => exact Iff.rfl

theorem justified_corrects_iff {calls : List RelativeCall} (h : Justified (Permitted waypoints maxAttemptsPerWaypoint tolerancePx) calls) :
    Justified (Corrects waypoints tolerancePx) calls ↔ Justified (Undrifted waypoints tolerancePx) calls :=
  ⟨fun hcorrects later c earlier hsplit => (corrects_iff (h later c earlier hsplit)).mp (hcorrects later c earlier hsplit),
    fun hundrifted later c earlier hsplit => (corrects_iff (h later c earlier hsplit)).mpr (hundrifted later c earlier hsplit)⟩

/-- Without waypoints nothing is sent. -/
theorem run_empty {κ : Type} (env : RelativeClosures κ) (maxAttemptsPerWaypoint : Nat) (tolerancePx : Int) :
    Yields (runCalibratedRelativePath env [] maxAttemptsPerWaypoint tolerancePx) fun _ calls =>
      ∃ result, calls = [.cursorPosition result] := by
  unfold Yields runCalibratedRelativePath
  refine does_andThen (R := fun result calls => calls = [.cursorPosition result]) (does_call fun _ _ h => by rw [h]) fun result => ?_
  rcases result with error | current
  · exact does_ret fun _ h => ⟨_, h⟩
  · refine does_andThen (R := fun _ calls => calls = [.cursorPosition (.ok current)]) (does_ret fun _ h => h) fun result => ?_
    rcases result with trace | progress <;> exact does_ret fun _ h => ⟨_, h⟩

/-- Every move of a run is one that can correct the measured error exactly when none is sent after the cursor has left, by more
than the tolerance, an axis on which it stood at the waypoint when that was started. -/
theorem moves_correct_iff {κ : Type} (env : RelativeClosures κ) (waypoints : List Point) (maxAttemptsPerWaypoint : Nat) (tolerancePx : Int) :
    Yields (runCalibratedRelativePath env waypoints maxAttemptsPerWaypoint tolerancePx) fun _ calls =>
      Justified (Corrects waypoints tolerancePx) calls ↔ Justified (Undrifted waypoints tolerancePx) calls := by
  by_cases hwaypoints : waypoints = []
  · subst hwaypoints
    refine does_weaken (run_empty env maxAttemptsPerWaypoint tolerancePx) (fun _ h => h) ?_
    rintro _ _ ⟨result, rfl⟩
    exact iff_of_true (justified_nil.cons trivial) (justified_nil.cons trivial)
  · exact does_weaken (run_told env hwaypoints) (fun _ h => h) fun _ _ h => justified_corrects_iff h.permitted

/-- The first move drifts across the axis on which the cursor stood level; the second one leaves it there. -/
theorem drift_not_corrected : ¬Yields (runCalibratedRelativePath cursorAt [(10, 0)] 2 0) fun _ calls =>
    Justified (Corrects [(10, 0)] 0) calls := by
  intro h
  have hran : Justified (Corrects [(10, 0)] 0) [.cursorPosition (.ok (10, 3)), .sendRelative 5 0 .accepted, .validateTargetFence (.ok ()),
      .cursorPosition (.ok (5, 3)), .sendRelative 10 0 .accepted, .validateTargetFence (.ok ()), .cursorPosition (.ok (0, 0))] :=
    h ⟨[(0, 0), (5, 3), (10, 3)], []⟩ [] rfl
  have hoff : Off 0 0 3 := by
    simp [Off, cursorAxisDistance, magnitude]
  exact (hran [_] _ _ rfl (10, 0) (5, 3) rfl rfl).2 hoff rfl

end Drifts

end RelativePath
end DccCua
