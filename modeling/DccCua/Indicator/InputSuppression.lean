import DccCua.Lib.Runs
import Mathlib.Algebra.Group.Int.Defs
import Mathlib.Algebra.Group.Nat.Defs

/-! # The input suppression of a renderer

`owned_input_suppression.rs` with the loop of `run_banner`. Each lock section of `RendererSuppression` is one step, and
so is what the renderer thread does between two of them. A call of `acquire` is named by its caller; it is counted from
its start until the drop of its guard, whether the guard was returned or the call fails. What `valid` says, whether the
deadline has passed, whether the surfaces could be hidden and what the loop presents are part of the steps. A lock that
is poisoned is left out. -/

namespace DccCua

open Runs

/-- `Requests`. -/
structure SuppressionRequests where
  stopped : Bool
  holders : Nat
  hidden : Bool
  deriving DecidableEq, Repr

/-- Where a call of `acquire` is that has counted its guard: it waits, it is about to drop the guard and fail, or it has
    returned the guard. -/
inductive AcquireStep where
  | waiting
  | failing
  | held
  deriving DecidableEq, Repr

/-- Where the renderer thread is: before `hide_if_requested`, in the part of the loop that presents, or out of the loop. -/
inductive RendererStep where
  | looping
  | presenting
  | left
  deriving DecidableEq, Repr

structure InputSuppression where
  requests : SuppressionRequests
  /-- The calls of `acquire` whose guards are counted, in some order. -/
  guards : List (Nat × AcquireStep)
  renderer : RendererStep
  /-- A surface of the renderer is shown. -/
  shown : Bool
  deriving DecidableEq, Repr

/-- `valid` and `recheck` are what `valid` says before the guard is counted and in the loop. -/
inductive SuppressionInput where
  | acquire (call : Nat) (valid recheck expired : Bool)
  | recheck (call : Nat) (valid expired : Bool)
  | drop (call : Nat)
  | hideIfRequested (confirmed shown : Bool)
  | present (shown : Bool)
  | leave
  | stop
  deriving DecidableEq, Repr

/-- What a step of a caller returns. -/
inductive SuppressionOutput where
  | none
  | acquired (call : Nat)
  | failed (call : Nat)
  deriving DecidableEq, Repr

namespace InputSuppression

def usizeMax : Nat := 2 ^ 64 - 1

/-- The renderer shows its surfaces before its loop. -/
def start (shown : Bool) : InputSuppression := ⟨⟨false, 0, false⟩, [], .looping, shown⟩

def step? (s : InputSuppression) (call : Nat) : Option AcquireStep := s.guards.lookup call

def moveTo (s : InputSuppression) (call : Nat) (step : AcquireStep) : InputSuppression :=
  { s with guards := s.guards.map fun guard => if guard.1 = call then (call, step) else guard }

/-- The loop of `acquire_until`, up to its wait. -/
def recheck (s : InputSuppression) (call : Nat) (valid expired : Bool) : SuppressionOutput × InputSuppression :=
  if s.requests.stopped || !valid then (.none, s.moveTo call .failing)
  else if s.requests.hidden then (.acquired call, s.moveTo call .held)
  else if expired then (.none, s.moveTo call .failing)
  else (.none, s)

/-- `acquire_until`, up to its first wait. -/
def acquire (s : InputSuppression) (call : Nat) (valid recheck expired : Bool) : SuppressionOutput × InputSuppression :=
  if (s.step? call).isSome then (.none, s)
  else if s.requests.stopped || !valid then (.failed call, s)
  else if usizeMax ≤ s.requests.holders then (.failed call, s)
  else
    ({ s with
        requests := { s.requests with holders := s.requests.holders + 1 }
        guards := (call, .waiting) :: s.guards } : InputSuppression).recheck call recheck expired

/-- `Guard::drop`; a call that fails returns after it. -/
def dropGuard (s : InputSuppression) (call : Nat) : SuppressionOutput × InputSuppression :=
  let next : InputSuppression :=
    { s with
      requests :=
        { s.requests with
          holders := s.requests.holders - 1
          hidden := if s.requests.holders - 1 = 0 then false else s.requests.hidden }
      guards := s.guards.filter (·.1 ≠ call) }
  match s.step? call with
  | some .held => (.none, next)
  | some .failing => (.failed call, next)
  | _ => (.none, s)

/-- `hide_if_requested` of the renderer thread. An error leaves the loop; what could not be hidden may be shown. -/
def hideIfRequested (s : InputSuppression) (confirmed shown : Bool) : InputSuppression :=
  if s.renderer ≠ .looping then s
  else if s.requests.stopped then { s with renderer := .left }
  else if s.requests.holders = 0 then { s with renderer := .presenting }
  else if confirmed then { s with requests := { s.requests with hidden := true }, shown := false }
  else { s with renderer := .left, shown := shown }

/-- The rest of the loop, when no input lease hides the surfaces. -/
def present (s : InputSuppression) (shown : Bool) : InputSuppression :=
  if s.renderer = .presenting then { s with renderer := .looping, shown := shown } else s

def leave (s : InputSuppression) : InputSuppression := { s with renderer := .left }

def stop (s : InputSuppression) : InputSuppression :=
  { s with requests := { s.requests with stopped := true, hidden := false } }

end InputSuppression

def inputSuppressionMachine : Machine InputSuppression SuppressionInput SuppressionOutput where
  step s
    | .acquire call valid recheck expired => s.acquire call valid recheck expired
    | .recheck call valid expired => if s.step? call = some .waiting then s.recheck call valid expired else (.none, s)
    | .drop call => s.dropGuard call
    | .hideIfRequested confirmed shown => (.none, s.hideIfRequested confirmed shown)
    | .present shown => (.none, s.present shown)
    | .leave => (.none, s.leave)
    | .stop => (.none, s.stop)

end DccCua
