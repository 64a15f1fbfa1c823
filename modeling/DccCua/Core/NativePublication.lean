import DccCua.Lib.Runs

/-! # Native publication

`native_publication.rs`: a handoff of one request at a time to the native owner, and of its result back. An operation holds the
mutex of the slot, and that of its request, over all that it reads and writes, so each is one step; what it drops and the wake come
after both. A request is named by its position among those admitted, which stands for the pointer. Instants are numbers, and
the instant that an operation reads under the mutexes is an input of it. -/

namespace DccCua
namespace NativePublication

inductive NativePublicationPhase where
  | prepare
  | encoded
  deriving DecidableEq, Repr

structure Metadata where
  phase : NativePublicationPhase
  streamId : Nat
  sequence : Nat
  startedGeneration : Nat
  deriving DecidableEq, Repr

inductive Failure where
  | full
  | deadline
  | stopped
  | canceled
  | replyUnavailable
  deriving DecidableEq, Repr

inductive Location where
  | queued
  | inFlight
  | released
  deriving DecidableEq, Repr

inductive Outcome where
  | waiting
  | completed
  | consumed
  | failed (failure : Failure)
  deriving DecidableEq, Repr

/-- A request with its state, and the two handles to it. -/
structure Request (P R : Type) where
  metadata : Metadata
  deadline : Nat
  payload : Option P
  result : Option R
  location : Location
  outcome : Outcome
  /-- `PendingPublication`, until it is dropped: it has finished or not. -/
  pending : Option Bool
  /-- `PublicationWork`, from `take` until `complete` or its drop: the payload that it holds. -/
  work : Option (Option P)

/-- The slot that the handles share, and the requests that were admitted. -/
structure Channel (P R : Type) where
  stopped : Bool
  owner : Option Nat
  requests : List (Request P R)

namespace Channel

variable {P R : Type}

/-- `channel`. -/
def new : Channel P R := ⟨false, none, []⟩

def set (c : Channel P R) (i : Nat) (request : Request P R) : Channel P R := { c with requests := c.requests.set i request }

/-- `live_failure`, where `clock` is the instant that it reads. -/
def liveFailure (c : Channel P R) (request : Request P R) (now clock : Nat) : Option Failure :=
  match request.outcome with
  | .failed failure => some failure
  | _ => if c.stopped then some .stopped else if request.deadline ≤ max now clock then some .deadline else none

/-- The test of `ensure_live` and `complete`. -/
def workFailure (c : Channel P R) (request : Request P R) (now clock : Nat) : Option Failure :=
  (c.liveFailure request now clock).or (if request.outcome = .waiting then none else some .replyUnavailable)

/-- The outcome that `close_failed` leaves, and whether it is new. -/
def failedOutcome (outcome : Outcome) (failure : Failure) : Outcome × Bool :=
  match outcome with
  | .failed existing => (.failed existing, false)
  | _ => (.failed failure, true)

/-- `close_failed`, with `release_owner`: whether the wake is to be called, and the channel. -/
def closeFailed (c : Channel P R) (i : Nat) (request : Request P R) (failure : Failure) (releaseInFlight : Bool) :
    Bool × Channel P R :=
  let (outcome, changed) := failedOutcome request.outcome failure
  let releases := request.location = .queued || releaseInFlight
  let owned := releases && c.owner = some i
  (changed || owned,
    { (c.set i { request with
        payload := none
        result := none
        outcome := outcome
        location := if releases then .released else request.location }) with
      owner := if owned then none else c.owner })

/-- `has_pending`. -/
def hasPending (c : Channel P R) : Bool :=
  !c.stopped && (c.owner.bind (c.requests[·]?)).any fun request => request.location = .queued && request.outcome = .waiting

/-- `submit`: the pending handle of the request that it admits. -/
def submit (c : Channel P R) (payload : P) (metadata : Metadata) (deadline clock : Nat) : Except Failure Nat × Channel P R :=
  if c.stopped then (.error .stopped, c)
  else if deadline ≤ clock then (.error .deadline, c)
  else if c.owner.isSome then (.error .full, c)
  else
    (.ok c.requests.length, { c with
      owner := some c.requests.length
      requests := c.requests ++ [⟨metadata, deadline, some payload, none, .queued, .waiting, some false, none⟩] })

/-- `take`: the request that there is work for. -/
def take (c : Channel P R) (clock : Nat) : Option Nat × Bool × Channel P R :=
  match c.owner with
  | none => (none, false, c)
  | some i =>
    match c.requests[i]? with
    | none => (none, false, c)
    | some request =>
      if request.location ≠ .queued then (none, false, c)
      else
        match c.liveFailure request clock clock with
        | some failure => (none, c.closeFailed i request failure true)
        | none => (some i, false, c.set i { request with location := .inFlight, payload := none, work := some request.payload })

/-- `stop`, which the drop of the inbox calls too. -/
def stop (c : Channel P R) : Bool × Channel P R :=
  if c.stopped then (false, c)
  else
    let c := { c with stopped := true }
    match c.owner with
    | none => (true, c)
    | some i =>
      match c.requests[i]? with
      | none => (true, c)
      | some request => c.closeFailed i request .stopped true

/-- `try_result`. -/
def tryResult (c : Channel P R) (i : Nat) (request : Request P R) (now clock : Nat) :
    Except Failure (Option R) × Bool × Channel P R :=
  let finished := { request with pending := some true }
  match c.liveFailure request now clock with
  | some failure => (.error failure, c.closeFailed i finished failure false)
  | none =>
    match request.outcome with
    | .waiting => (.ok none, false, c)
    | .completed =>
      match request.result with
      | some result => (.ok (some result), false, c.set i { finished with outcome := .consumed, result := none })
      | none => (.error .replyUnavailable, c.closeFailed i finished .replyUnavailable false)
    | _ => (.error .replyUnavailable, false, c.set i finished)

/-- The drop of a pending handle. -/
def dropPending (c : Channel P R) (i : Nat) (request : Request P R) (finished : Bool) : Bool × Channel P R :=
  let dropped := { request with pending := none }
  if finished then (false, c.set i dropped) else c.closeFailed i dropped .canceled false

/-- `ensure_live`. -/
def ensureLive (c : Channel P R) (i : Nat) (request : Request P R) (now clock : Nat) : Except Failure Unit × Bool × Channel P R :=
  match c.workFailure request now clock with
  | some failure => (.error failure, c.closeFailed i request failure false)
  | none => (.ok (), false, c)

/-- `complete`, which consumes the work. -/
def complete (c : Channel P R) (i : Nat) (request : Request P R) (result : R) (now clock : Nat) :
    Except Failure Unit × Bool × Channel P R :=
  let finished := { request with work := none }
  match c.workFailure request now clock with
  | some failure => (.error failure, c.closeFailed i finished failure true)
  | none =>
    (.ok (), true, { (c.set i { finished with
        payload := none
        result := some result
        outcome := .completed
        location := .released }) with
      owner := if c.owner = some i then none else c.owner })

/-- The drop of work that was not completed. -/
def dropWork (c : Channel P R) (i : Nat) (request : Request P R) (clock : Nat) : Bool × Channel P R :=
  c.closeFailed i { request with work := none } ((c.liveFailure request clock clock).getD .replyUnavailable) true

end Channel

/-! ### The machine -/

inductive PublicationCall (P R : Type) where
  | submit (payload : P) (metadata : Metadata) (deadline clock : Nat)
  | hasPending
  | take (clock : Nat)
  | stop
  | tryResult (i now clock : Nat)
  | dropPending (i : Nat)
  | ensureLive (i now clock : Nat)
  | takePayload (i : Nat)
  | complete (i : Nat) (result : R) (now clock : Nat)
  | dropWork (i clock : Nat)

inductive PublicationReply (P R : Type) where
  | submitted (result : Except Failure Nat)
  | isPending (pending : Bool)
  | taken (work : Option Nat)
  | polled (result : Except Failure (Option R))
  | live (result : Except Failure Unit)
  | payload (payload : P)
  | completed (result : Except Failure Unit)
  | done
  /-- `take_payload` panics. -/
  | panicked
  /-- There is no such handle. -/
  | absent

/-- The reply, whether the wake is called, and the channel. -/
abbrev PublicationResult (P R : Type) := (PublicationReply P R × Bool) × Channel P R

namespace Channel

variable {P R : Type}

/-- A step of the holder of a pending handle. -/
def withPending (c : Channel P R) (i : Nat) (f : Request P R → Bool → PublicationResult P R) : PublicationResult P R :=
  match c.requests[i]? with
  | none => ((.absent, false), c)
  | some request =>
    match request.pending with
    | none => ((.absent, false), c)
    | some finished => f request finished

/-- A step of the holder of work. -/
def withWork (c : Channel P R) (i : Nat) (f : Request P R → Option P → PublicationResult P R) : PublicationResult P R :=
  match c.requests[i]? with
  | none => ((.absent, false), c)
  | some request =>
    match request.work with
    | none => ((.absent, false), c)
    | some payload => f request payload

/-- `take_payload`. -/
def takePayload (c : Channel P R) (i : Nat) (request : Request P R) (payload : Option P) : PublicationResult P R :=
  match payload with
  | none => ((.panicked, false), c)
  | some payload => ((.payload payload, false), c.set i { request with work := some none })

end Channel

def publicationMachine (P R : Type) : Runs.Machine (Channel P R) (PublicationCall P R) (PublicationReply P R × Bool) where
  step c
    | .submit payload metadata deadline clock =>
      let (result, next) := c.submit payload metadata deadline clock
      ((.submitted result, result.isOk), next)
    | .hasPending => ((.isPending c.hasPending, false), c)
    | .take clock =>
      let (work, wakes, next) := c.take clock
      ((.taken work, wakes), next)
    | .stop =>
      let (wakes, next) := c.stop
      ((.done, wakes), next)
    | .tryResult i now clock => c.withPending i fun request _ =>
      let (result, wakes, next) := c.tryResult i request now clock
      ((.polled result, wakes), next)
    | .dropPending i => c.withPending i fun request finished =>
      let (wakes, next) := c.dropPending i request finished
      ((.done, wakes), next)
    | .ensureLive i now clock => c.withWork i fun request _ =>
      let (result, wakes, next) := c.ensureLive i request now clock
      ((.live result, wakes), next)
    | .takePayload i => c.withWork i fun request payload => c.takePayload i request payload
    | .complete i result now clock => c.withWork i fun request _ =>
      let (result, wakes, next) := c.complete i request result now clock
      ((.completed result, wakes), next)
    | .dropWork i clock => c.withWork i fun request _ =>
      let (wakes, next) := c.dropWork i request clock
      ((.done, wakes), next)

end NativePublication
end DccCua
