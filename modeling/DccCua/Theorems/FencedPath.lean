import DccCua.Core.DragSequences
import Mathlib.Data.List.Chain
import Mathlib.Data.List.Range
import Mathlib.Tactic.Positivity

/-! # Fenced paths reach their destination

The waypoints of a path are rounded parts of the way, and rounding keeps their order. A walk has injected the first
waypoints up to its step, each after a check of its own, and nothing of it has failed. -/

namespace DccCua
namespace DragSequences

open Calls Rounding Runs Script

/-! ### Waypoints -/

/-- The second is on the way from the first to the third. -/
def Between (a b c : Int) : Prop := (a ≤ b ∧ b ≤ c) ∨ (c ≤ b ∧ b ≤ a)

/-- The difference fits 32 bits. -/
def Spans (source destination : Int) : Prop := -2 ^ 31 ≤ destination - source ∧ destination - source ≤ 2 ^ 31 - 1

section Waypoints
variable {source destination : Int} {steps j k : Nat}

/-- The part of the way after some of the steps, rounded. -/
def rounded (d : Int) (steps step : Nat) : Int := roundAway ((d : Rat) * ((step : Rat) / steps))

theorem rounded_zero {d : Int} : rounded d steps 0 = 0 := by
  have h := roundAway_intCast (K := Rat) 0
  simpa [rounded] using h

theorem rounded_steps {d : Int} (hsteps : 0 < steps) : rounded d steps steps = d := by
  have hne : (steps : Rat) ≠ 0 := by exact_mod_cast Nat.ne_of_gt hsteps
  rw [rounded, div_self hne, mul_one, roundAway_intCast]

theorem rounded_mono {d : Int} (hd : 0 ≤ d) (h : j ≤ k) : rounded d steps j ≤ rounded d steps k := by
  refine roundAway_mono (mul_le_mul_of_nonneg_left ?_ (by exact_mod_cast hd))
  gcongr

theorem rounded_anti {d : Int} (hd : d ≤ 0) (h : j ≤ k) : rounded d steps k ≤ rounded d steps j := by
  refine roundAway_mono (mul_le_mul_of_nonpos_left ?_ (by exact_mod_cast hd))
  gcongr

theorem rounded_between {d : Int} (hjk : j ≤ k) (hk : k ≤ steps) (hsteps : 0 < steps) :
    Between (rounded d steps j) (rounded d steps k) d := by
  rcases le_total 0 d with hd | hd
  · exact Or.inl ⟨rounded_mono hd hjk, (rounded_mono hd hk).trans_eq (rounded_steps hsteps)⟩
  · exact Or.inr ⟨(rounded_steps hsteps).symm.trans_le (rounded_anti hd hk), rounded_anti hd hjk⟩

theorem waypoint_eq (hspans : Spans source destination) (hk : k ≤ steps) (hsteps : 0 < steps) :
    waypoint source destination steps k = source + rounded (destination - source) steps k := by
  have hbetween := rounded_between (d := destination - source) (Nat.zero_le k) hk hsteps
  rw [rounded_zero] at hbetween
  obtain ⟨hlow, hhigh⟩ := hspans
  have hcast : toI32Saturating (rounded (destination - source) steps k) = rounded (destination - source) steps k := by
    unfold toI32Saturating
    rcases hbetween with ⟨h₁, h₂⟩ | ⟨h₁, h₂⟩ <;> omega
  rw [← hcast]
  rfl

/-- The waypoints approach the destination. -/
theorem waypoint_between (hspans : Spans source destination) (hjk : j ≤ k) (hk : k ≤ steps) (hsteps : 0 < steps) :
    Between (waypoint source destination steps j) (waypoint source destination steps k) destination := by
  have hbetween := rounded_between (d := destination - source) hjk hk hsteps
  rw [waypoint_eq hspans (hjk.trans hk) hsteps, waypoint_eq hspans hk hsteps]
  rcases hbetween with ⟨h₁, h₂⟩ | ⟨h₁, h₂⟩
  · exact Or.inl ⟨by omega, by omega⟩
  · exact Or.inr ⟨by omega, by omega⟩

theorem waypoint_zero (hspans : Spans source destination) (hsteps : 0 < steps) : waypoint source destination steps 0 = source := by
  rw [waypoint_eq hspans (Nat.zero_le steps) hsteps, rounded_zero, Int.add_zero]

theorem waypoint_steps (hspans : Spans source destination) (hsteps : 0 < steps) :
    waypoint source destination steps steps = destination := by
  rw [waypoint_eq hspans (Nat.le_refl steps) hsteps, rounded_steps hsteps]
  omega

end Waypoints

/-! ### Walks -/

namespace PathCall
variable {E : Type}

def failure : PathCall E → Option E
  | .validate (.error error) => some error
  | .inject _ _ (.error error) => some error
  | _ => none

def position : PathCall E → Option (Int × Int)
  | .inject x y _ => some (x, y)
  | _ => none

/-- The call has injected a move. -/
def moves : PathCall E → Bool
  | .inject _ _ (.ok _) => true
  | _ => false

/-- Nothing has failed before a call, and a move follows a check. -/
def Permitted (c : PathCall E) (earlier : List (PathCall E)) : Prop :=
  (∀ b ∈ earlier, b.failure = none) ∧ (c.position.isSome = true → earlier.head? = some (.validate (.ok ())))

end PathCall

/-- The positions of the moves, in order. -/
def positions {E : Type} (calls : List (PathCall E)) : List (Int × Int) := (calls.filterMap PathCall.position).reverse

section Path
variable {κ E : Type} {source destination : Int × Int} {steps m : Nat} {outcome : FencedAbsolutePathOutcome E} {calls : List (PathCall E)}

/-- On each axis the second is on the way from the first to the destination. -/
def Approaches (destination p q : Int × Int) : Prop := Between p.1 q.1 destination.1 ∧ Between p.2 q.2 destination.2

/-- What the outcome of a path tells of its calls. -/
structure Told (source destination : Int × Int) (steps : Nat) (outcome : FencedAbsolutePathOutcome E) (calls : List (PathCall E)) :
    Prop where
  permitted : Justified PathCall.Permitted calls
  error : outcome.error = calls.head?.bind PathCall.failure
  total : outcome.totalWaypoints = steps
  inserted : outcome.movesInserted = calls.countP PathCall.moves
  completed : outcome.waypointsCompleted = calls.countP PathCall.moves
  between : ∀ p ∈ positions calls, Approaches destination source p
  approach : (source :: positions calls).IsChain (Approaches destination)
  arrives : outcome.error = none → outcome.movesInserted = steps ∧ (positions calls).getLast? = some destination

def waypointAt (source destination : Int × Int) (steps step : Nat) : Int × Int :=
  (waypoint source.1 destination.1 steps step, waypoint source.2 destination.2 steps step)

/-- The positions of the first steps. -/
def firstWaypoints (source destination : Int × Int) (steps m : Nat) : List (Int × Int) :=
  (List.range m).map fun i => waypointAt source destination steps (i + 1)

section Positions
variable (hx : Spans source.1 destination.1) (hy : Spans source.2 destination.2) (hsteps : 0 < steps)
include hx hy hsteps

theorem waypointAt_approaches {j k : Nat} (hjk : j ≤ k) (hk : k ≤ steps) :
    Approaches destination (waypointAt source destination steps j) (waypointAt source destination steps k) :=
  ⟨waypoint_between hx hjk hk hsteps, waypoint_between hy hjk hk hsteps⟩

theorem waypointAt_zero : waypointAt source destination steps 0 = source :=
  Prod.ext (waypoint_zero hx hsteps) (waypoint_zero hy hsteps)

theorem between_of_mem (hm : m ≤ steps) {p : Int × Int} (hp : p ∈ firstWaypoints source destination steps m) :
    Approaches destination source p := by
  obtain ⟨i, hi, rfl⟩ := List.mem_map.mp hp
  have hlt := List.mem_range.mp hi
  have happroaches := waypointAt_approaches hx hy hsteps (Nat.zero_le (i + 1)) (by omega)
  rwa [waypointAt_zero hx hy hsteps] at happroaches

theorem isChain_waypoints (hm : m ≤ steps) : (source :: firstWaypoints source destination steps m).IsChain (Approaches destination) := by
  have hcons : source :: firstWaypoints source destination steps m =
      (List.range (m + 1)).map (waypointAt source destination steps) := by
    rw [List.range_succ_eq_map, List.map_cons, List.map_map, waypointAt_zero hx hy hsteps]
    rfl
  rw [hcons, List.isChain_map, List.isChain_range_succ]
  exact fun i hi => waypointAt_approaches hx hy hsteps (Nat.le_succ i) (by omega)

theorem getLast_waypoints : (firstWaypoints source destination steps steps).getLast? = some destination := by
  obtain ⟨n, rfl⟩ : ∃ n, steps = n + 1 := ⟨steps - 1, by omega⟩
  rw [firstWaypoints, List.range_succ, List.map_append, List.map_singleton, List.getLast?_concat]
  exact congrArg some (Prod.ext (waypoint_steps hx hsteps) (waypoint_steps hy hsteps))

end Positions

/-- So far the first waypoints were injected. -/
structure Walked (source destination : Int × Int) (steps m : Nat) (calls : List (PathCall E)) : Prop where
  permitted : Justified PathCall.Permitted calls
  quiet : ∀ c ∈ calls, c.failure = none
  moved : calls.countP PathCall.moves = m
  places : positions calls = firstWaypoints source destination steps m

theorem Walked.start : Walked source destination steps 0 ([] : List (PathCall E)) :=
  ⟨justified_nil, by simp, rfl, rfl⟩

theorem Walked.validated (h : Walked source destination steps m calls) :
    Walked source destination steps m (.validate (.ok ()) :: calls) where
  permitted := h.permitted.cons ⟨h.quiet, fun hsome => nomatch hsome⟩
  quiet := List.forall_mem_cons.mpr ⟨rfl, h.quiet⟩
  moved := by rw [List.countP_cons_of_neg (by simp [PathCall.moves]), h.moved]
  places := h.places

theorem positions_inject {x y : Int} {result : Except E Unit} : positions (.inject x y result :: calls) = positions calls ++ [(x, y)] := by
  simp [positions, PathCall.position]

theorem firstWaypoints_succ : firstWaypoints source destination steps (m + 1) =
    firstWaypoints source destination steps m ++ [waypointAt source destination steps (m + 1)] := by
  rw [firstWaypoints, List.range_succ, List.map_append, List.map_singleton]
  rfl

theorem Walked.injected (h : Walked source destination steps m calls) (hcheck : calls.head? = some (.validate (.ok ()))) :
    Walked source destination steps (m + 1) (.inject (waypoint source.1 destination.1 steps (m + 1))
      (waypoint source.2 destination.2 steps (m + 1)) (.ok ()) :: calls) where
  permitted := h.permitted.cons ⟨h.quiet, fun _ => hcheck⟩
  quiet := List.forall_mem_cons.mpr ⟨rfl, h.quiet⟩
  moved := by rw [List.countP_cons_of_pos rfl, h.moved]
  places := by
    rw [positions_inject, h.places, firstWaypoints_succ]
    rfl

theorem Walked.settled (h : Walked source destination steps m calls) (ms : Nat) : Walked source destination steps m (.settle ms :: calls) where
  permitted := h.permitted.cons ⟨h.quiet, fun hsome => nomatch hsome⟩
  quiet := List.forall_mem_cons.mpr ⟨rfl, h.quiet⟩
  moved := by rw [List.countP_cons_of_neg (by simp [PathCall.moves]), h.moved]
  places := h.places

section Ends
variable (hx : Spans source.1 destination.1) (hy : Spans source.2 destination.2) (hsteps : 0 < steps)
include hx hy hsteps

/-- The first waypoints are where a path may go, however it ends. -/
theorem told_of_waypoints (hm : m ≤ steps) (hplaces : positions calls = firstWaypoints source destination steps m)
    (hpermitted : Justified PathCall.Permitted calls) (herror : outcome.error = calls.head?.bind PathCall.failure)
    (htotal : outcome.totalWaypoints = steps) (hinserted : outcome.movesInserted = calls.countP PathCall.moves)
    (hcompleted : outcome.waypointsCompleted = calls.countP PathCall.moves)
    (hdone : outcome.error = none → outcome.movesInserted = steps ∧ m = steps) : Told source destination steps outcome calls where
  permitted := hpermitted
  error := herror
  total := htotal
  inserted := hinserted
  completed := hcompleted
  between := fun p hp => between_of_mem hx hy hsteps hm (hplaces ▸ hp)
  approach := by
    rw [hplaces]
    exact isChain_waypoints hx hy hsteps hm
  arrives := fun hnone => by
    obtain ⟨hmoves, rfl⟩ := hdone hnone
    rw [hplaces]
    exact ⟨hmoves, getLast_waypoints hx hy hsteps⟩

theorem Walked.done (h : Walked source destination steps steps calls) : Told source destination steps ⟨steps, steps, steps, none⟩ calls := by
  refine told_of_waypoints hx hy hsteps (Nat.le_refl steps) h.places h.permitted ?_ rfl h.moved.symm h.moved.symm fun _ => ⟨rfl, rfl⟩
  cases calls with
  | nil => rfl
  | cons c calls => exact (h.quiet c List.mem_cons_self).symm

theorem Walked.refused (h : Walked source destination steps m calls) (hm : m ≤ steps) (error : E) :
    Told source destination steps ⟨steps, m, m, some error⟩ (.validate (.error error) :: calls) := by
  have hmoved : (.validate (.error error) :: calls).countP PathCall.moves = m := by
    rw [List.countP_cons_of_neg (by simp [PathCall.moves]), h.moved]
  exact told_of_waypoints hx hy hsteps hm h.places (h.permitted.cons ⟨h.quiet, fun hsome => nomatch hsome⟩) rfl rfl hmoved.symm
    hmoved.symm fun hnone => nomatch hnone

theorem Walked.failed (h : Walked source destination steps m calls) (hcheck : calls.head? = some (.validate (.ok ()))) (hm : m + 1 ≤ steps)
    (error : E) : Told source destination steps ⟨steps, m, m, some error⟩ (.inject (waypoint source.1 destination.1 steps (m + 1))
      (waypoint source.2 destination.2 steps (m + 1)) (.error error) :: calls) := by
  have hmoved : (.inject (waypoint source.1 destination.1 steps (m + 1)) (waypoint source.2 destination.2 steps (m + 1)) (.error error) ::
      calls).countP PathCall.moves = m := by
    rw [List.countP_cons_of_neg (by simp [PathCall.moves]), h.moved]
  refine told_of_waypoints hx hy hsteps hm ?_ (h.permitted.cons ⟨h.quiet, fun _ => hcheck⟩) rfl rfl hmoved.symm hmoved.symm
    fun hnone => nomatch hnone
  rw [positions_inject, h.places, firstWaypoints_succ]
  rfl

/-- The steps that are left, from a walk of those before. -/
theorem pathSteps_spec (env : PathClosures κ E) (delay : Nat) : ∀ (left m : Nat), m + left = steps →
    Does (Walked source destination steps m) (pathSteps env source destination steps delay left (m + 1) ⟨steps, m, m, none⟩)
      (Told source destination steps)
  | 0, m, hleft => by
    obtain rfl : m = steps := hleft
    exact does_ret fun _ h => h.done hx hy hsteps
  | left + 1, m, hleft => by
    refine does_andThen (R := fun result record => ∃ calls, Walked source destination steps m calls ∧ record = .validate result :: calls)
      (does_call fun calls _ h => ⟨calls, h, rfl⟩) fun result => does_exists fun calls => ?_
    rcases result with error | _
    · refine does_ret fun record ⟨h, hrecord⟩ => ?_
      rw [hrecord]
      exact h.refused hx hy hsteps (by omega) error
    refine does_andThen (R := fun result record => ∃ calls, Walked source destination steps m calls ∧
        calls.head? = some (.validate (.ok ())) ∧ record = .inject (waypoint source.1 destination.1 steps (m + 1))
          (waypoint source.2 destination.2 steps (m + 1)) result :: calls)
      (does_call fun record _ ⟨h, hrecord⟩ => ⟨record, hrecord ▸ h.validated, hrecord ▸ rfl, rfl⟩) fun result => does_exists fun calls => ?_
    rcases result with error | _
    · refine does_ret fun record ⟨h, hcheck, hrecord⟩ => ?_
      rw [hrecord]
      exact h.failed hx hy hsteps hcheck (by omega) error
    refine does_andThen (R := fun _ => Walked source destination steps (m + 1)) ?_ fun _ => pathSteps_spec env delay left (m + 1) (by omega)
    split
    · refine does_note fun record ⟨h, hcheck, hrecord⟩ => ?_
      rw [hrecord]
      exact (h.injected hcheck).settled _
    · refine does_ret fun record ⟨h, hcheck, hrecord⟩ => ?_
      rw [hrecord]
      exact h.injected hcheck

end Ends

/-- A path checks its target before each move, stops at the first failure, counts its moves, approaches its destination on
each axis and, when it completes, reaches it. -/
theorem fenced_path_told (env : PathClosures κ E) (source destination : Int × Int) (steps durationMs : Nat)
    (hx : Spans source.1 destination.1) (hy : Spans source.2 destination.2) :
    Yields (runFencedAbsolutePathWithTrace env source destination steps durationMs) (Told source destination (max steps 1)) := by
  have hsteps : 0 < max steps 1 := by omega
  refine does_weaken (pathSteps_spec hx hy hsteps env (durationMs / max steps 1) (max steps 1) 0 (Nat.zero_add _)) ?_ fun _ _ h => h
  intro record hrecord
  rw [hrecord]
  exact Walked.start

/-- A path of three steps to the left and down. -/
theorem fenced_path_told_left : Yields (runFencedAbsolutePathWithTrace
    (⟨fun n => (.ok (), n), fun _ _ n => (.ok (), n + 1), fun _ n => n⟩ : PathClosures Nat String) (10, 0) (-7, 4) 3 30)
    (Told (10, 0) (-7, 4) 3) :=
  fenced_path_told _ (10, 0) (-7, 4) 3 30 ⟨by decide, by decide⟩ ⟨by decide, by decide⟩

end Path

end DragSequences
end DccCua
