import DccCua.Lib.Runs
import DccCua.Words

/-! # The events of a session

`SessionEventQueue`: the bounded queue of input and target transitions that a client pages through with
a cursor. -/

namespace DccCua

open Runs

inductive ComputerUseInputStatus where
  | ready
  | suspended
  deriving DecidableEq, Repr

structure ComputerUseInputReadiness where
  status : ComputerUseInputStatus
  code : String
  reason : Option String
  deriving DecidableEq, Repr

structure ComputerUseInputTarget where
  sessionId : String
  processId : Nat
  windowHandle : Nat
  deriving DecidableEq, Repr

structure ComputerUseSessionInputState where
  status : ComputerUseInputStatus
  code : String
  reason : Option String
  observedAt : Nat
  sequence : Nat
  target : ComputerUseInputTarget
  deriving DecidableEq, Repr

inductive ComputerUseTargetStatus where
  | available
  | minimized
  | unavailable
  deriving DecidableEq, Repr

structure ComputerUseTargetAvailability where
  status : ComputerUseTargetStatus
  code : String
  visible : Bool
  minimized : Bool
  foreground : Bool
  deriving DecidableEq, Repr

structure ComputerUseSessionTargetState where
  status : ComputerUseTargetStatus
  code : String
  visible : Bool
  minimized : Bool
  foreground : Bool
  observedAt : Nat
  sequence : Nat
  target : ComputerUseInputTarget
  deriving DecidableEq, Repr

inductive ComputerUseSessionEventKind where
  | inputSuspended
  | inputResumed
  deriving DecidableEq, Repr

structure ComputerUseInputResumeRequirements where
  automaticInput : Bool
  exactTargetRevalidation : Bool
  freshObservation : Bool
  foregroundOrExplicitActivation : Bool
  upstreamSessionRefreshMayBeRequired : Bool
  deriving DecidableEq, Repr

def ComputerUseInputResumeRequirements.safeContinuation : ComputerUseInputResumeRequirements where
  automaticInput := false
  exactTargetRevalidation := true
  freshObservation := true
  foregroundOrExplicitActivation := true
  upstreamSessionRefreshMayBeRequired := true

structure ComputerUseSessionEvent where
  kind : ComputerUseSessionEventKind
  sequence : Nat
  previous : ComputerUseSessionInputState
  current : ComputerUseSessionInputState
  resumeRequirements : Option ComputerUseInputResumeRequirements
  deriving DecidableEq, Repr

inductive ComputerUseSessionTargetEventKind where
  | targetMinimized
  | targetRestored
  | targetUnavailable
  | targetAvailable
  deriving DecidableEq, Repr

structure ComputerUseTargetRecoveryRequirements where
  automaticInput : Bool
  explicitRequestRequired : Bool
  operation : String
  exactTargetRevalidation : Bool
  freshObservation : Bool
  foregroundValidation : Bool
  blindRetry : Bool
  deriving DecidableEq, Repr

def ComputerUseTargetRecoveryRequirements.explicitRestoreActivate : ComputerUseTargetRecoveryRequirements where
  automaticInput := false
  explicitRequestRequired := true
  operation := "restore_activate"
  exactTargetRevalidation := true
  freshObservation := true
  foregroundValidation := true
  blindRetry := false

structure ComputerUseSessionTargetEvent where
  kind : ComputerUseSessionTargetEventKind
  sequence : Nat
  previous : ComputerUseSessionTargetState
  current : ComputerUseSessionTargetState
  recoveryRequirements : Option ComputerUseTargetRecoveryRequirements
  continuationRequirements : Option ComputerUseInputResumeRequirements
  deriving DecidableEq, Repr

inductive ComputerUseSessionEventEnvelope where
  | input (event : ComputerUseSessionEvent)
  | target (event : ComputerUseSessionTargetEvent)
  deriving DecidableEq, Repr

namespace ComputerUseSessionEventEnvelope

def sequence : ComputerUseSessionEventEnvelope → Nat
  | input event => event.sequence
  | target event => event.sequence

def input? : ComputerUseSessionEventEnvelope → Option ComputerUseSessionEvent
  | input event => some event
  | target _ => none

def target? : ComputerUseSessionEventEnvelope → Option ComputerUseSessionTargetEvent
  | input _ => none
  | target event => some event

end ComputerUseSessionEventEnvelope

structure ComputerUseSessionEventsPage where
  afterSequence : Nat
  latestSequence : Nat
  oldestAvailableSequence : Option Nat
  resyncRequired : Bool
  timedOut : Bool
  currentState : ComputerUseSessionInputState
  currentTargetState : ComputerUseSessionTargetState
  events : List ComputerUseSessionEventEnvelope
  deriving DecidableEq, Repr

structure SessionEventQueue where
  inputCurrent : ComputerUseSessionInputState
  targetCurrent : ComputerUseSessionTargetState
  events : List ComputerUseSessionEventEnvelope
  latestSequence : Nat
  restoreActivateAvailable : Bool
  capacity : Nat
  deriving DecidableEq, Repr

namespace SessionEventQueue

def withCapacity (target : ComputerUseInputTarget) (readiness : ComputerUseInputReadiness)
    (availability : ComputerUseTargetAvailability) (restoreActivateAvailable : Bool) (observedAt capacity : Nat) :
    SessionEventQueue where
  inputCurrent := ⟨readiness.status, readiness.code, readiness.reason, observedAt, 1, target⟩
  targetCurrent := ⟨availability.status, availability.code, availability.visible, availability.minimized,
    availability.foreground, observedAt, 1, target⟩
  events := []
  latestSequence := 1
  restoreActivateAvailable := restoreActivateAvailable
  capacity := max capacity 1

/-- Events are dropped from the front while there are more than `capacity`. -/
def evict (capacity : Nat) : List ComputerUseSessionEventEnvelope → List ComputerUseSessionEventEnvelope
  | [] => []
  | event :: events => if capacity < events.length + 1 then evict capacity events else event :: events

def observe (q : SessionEventQueue) (readiness : ComputerUseInputReadiness) (observedAt : Nat) :
    Option ComputerUseSessionEventEnvelope × SessionEventQueue :=
  if q.inputCurrent.status = readiness.status then
    (none, { q with inputCurrent :=
      { q.inputCurrent with code := readiness.code, reason := readiness.reason, observedAt := observedAt } })
  else
    let previous := q.inputCurrent
    let sequence := saturatingAdd q.latestSequence 1
    let current : ComputerUseSessionInputState :=
      ⟨readiness.status, readiness.code, readiness.reason, observedAt, sequence, previous.target⟩
    let event : ComputerUseSessionEventEnvelope := .input
      { kind := if current.status = .ready then .inputResumed else .inputSuspended
        sequence := current.sequence
        previous := previous
        current := current
        resumeRequirements := if current.status = .ready then some .safeContinuation else none }
    (some event, { q with
      inputCurrent := current
      latestSequence := sequence
      events := evict q.capacity (q.events ++ [event]) })

def targetEventKind (previous current : ComputerUseTargetStatus) : ComputerUseSessionTargetEventKind :=
  match previous, current with
  | _, .minimized => .targetMinimized
  | .minimized, .available => .targetRestored
  | _, .available => .targetAvailable
  | _, .unavailable => .targetUnavailable

def observeTarget (q : SessionEventQueue) (availability : ComputerUseTargetAvailability) (observedAt : Nat) :
    Option ComputerUseSessionEventEnvelope × SessionEventQueue :=
  if q.targetCurrent.status = availability.status then
    (none, { q with targetCurrent :=
      { q.targetCurrent with
        code := availability.code
        visible := availability.visible
        minimized := availability.minimized
        foreground := availability.foreground
        observedAt := observedAt } })
  else
    let previous := q.targetCurrent
    let sequence := saturatingAdd q.latestSequence 1
    let current : ComputerUseSessionTargetState :=
      ⟨availability.status, availability.code, availability.visible, availability.minimized, availability.foreground,
        observedAt, sequence, previous.target⟩
    let event : ComputerUseSessionEventEnvelope := .target
      { kind := targetEventKind previous.status current.status
        sequence := sequence
        previous := previous
        current := current
        recoveryRequirements :=
          if current.status = .minimized && q.restoreActivateAvailable then some .explicitRestoreActivate else none
        continuationRequirements := if current.status = .available then some .safeContinuation else none }
    (some event, { q with
      targetCurrent := current
      latestSequence := sequence
      events := evict q.capacity (q.events ++ [event]) })

def eventsAfter (q : SessionEventQueue) (sequence : Nat) : List ComputerUseSessionEventEnvelope :=
  q.events.filter fun event => sequence < event.sequence

def pageAfter (q : SessionEventQueue) (afterSequence : Nat) (timedOut : Bool) : ComputerUseSessionEventsPage :=
  let oldestAvailableSequence := q.events.head?.map (·.sequence)
  let resyncRequired := q.latestSequence < afterSequence ||
    oldestAvailableSequence.any fun oldest => saturatingAdd afterSequence 1 < oldest
  { afterSequence := afterSequence
    latestSequence := q.latestSequence
    oldestAvailableSequence := oldestAvailableSequence
    resyncRequired := resyncRequired
    timedOut := timedOut && !resyncRequired
    currentState := q.inputCurrent
    currentTargetState := q.targetCurrent
    events := q.eventsAfter afterSequence }

end SessionEventQueue

inductive Observation where
  | input (readiness : ComputerUseInputReadiness) (observedAt : Nat)
  | target (availability : ComputerUseTargetAvailability) (observedAt : Nat)
  deriving DecidableEq, Repr

def eventQueueMachine : Machine SessionEventQueue Observation (Option ComputerUseSessionEventEnvelope) where
  step q
    | .input readiness observedAt => q.observe readiness observedAt
    | .target availability observedAt => q.observeTarget availability observedAt

end DccCua
