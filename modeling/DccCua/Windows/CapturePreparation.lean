import DccCua.Lib.Runs
import Mathlib.Algebra.Group.Int.Defs
import Mathlib.Algebra.Group.Nat.Defs

/-! # Capture preparation

The reducer of `capture_preparation/state.rs` and the supervisor of `runtime.rs`, which sends its jobs to one worker over a channel
and takes the returns from another, both in order. The worker works on one job at a time, whenever it comes to it, also while a
tick runs; what the windows and the file system answer is part of the input, and so is each clock reading. The worker lives as
long as the supervisor, so a send never fails and the channel of returns is never disconnected. -/

namespace DccCua
namespace CapturePreparation

inductive PreparationPhase where
  | pendingPromotion
  | active
  | restorePending
  | cleanupUnknown
  | restored
  | refused
  deriving DecidableEq, Repr

inductive PreparationFailure where
  | invalidBinding
  | authorizationDenied
  | parentUnavailable
  | supervisorNotIndependent
  | targetUnavailable
  | targetOutsideDesktop
  | identityChanged
  | affectedScopeChanged
  | enumerationIncomplete
  | desktopUnavailable
  | geometryChanged
  | anchorChanged
  | mutationFailed
  | readbackFailed
  | journalFailed
  | gateBusy
  | expired
  | stopped
  | parentDied
  | disconnected
  | workerLost
  | protocolMismatch
  | notActive
  | captureFailed
  deriving DecidableEq, Repr

structure PreparationError where
  reason : PreparationFailure
  osError : Option Int
  deriving DecidableEq, Repr

def PreparationError.new (reason : PreparationFailure) : PreparationError := ⟨reason, none⟩

structure PreparationNativeInstance where
  processCreationTime100ns : Nat
  windowThreadId : Nat
  windowClassHash : Nat
  ownerWindowHandle : Nat
  deriving DecidableEq, Repr

structure PreparationExecutableIdentity where
  canonicalImagePath : String
  volumeSerialNumber : Nat
  fileId : List UInt8
  deriving DecidableEq, Repr

structure PreparationWindowIdentity where
  processId : Nat
  windowHandle : Nat
  nativeInstance : PreparationNativeInstance
  executable : PreparationExecutableIdentity
  deriving DecidableEq, Repr

structure PreparationAnchors where
  above : Option PreparationWindowIdentity
  below : Option PreparationWindowIdentity
  deriving DecidableEq, Repr

/-- The bounds are left, top, right and bottom. -/
structure PreparedWindowState where
  identity : PreparationWindowIdentity
  topmost : Bool
  bounds : Int × Int × Int × Int
  visibleBounds : Int × Int × Int × Int
  dpi : Nat
  visible : Bool
  minimized : Bool
  foreground : Bool
  anchors : PreparationAnchors
  deriving DecidableEq, Repr

inductive PreparationMutationKind where
  | promote
  | restore
  deriving DecidableEq, Repr

structure PreparationNativeCallReceipt where
  windowHandle : Nat
  insertAfter : Int
  apiSuccess : Bool
  osError : Option Int
  returnedAtMs : Nat
  deriving DecidableEq, Repr

structure PreparationMutationReceipt where
  sequence : Nat
  kind : PreparationMutationKind
  returnedAtMs : Nat
  apiSuccess : Bool
  osError : Option Int
  readback : List PreparedWindowState
  failure : Option PreparationError
  nativeCalls : List PreparationNativeCallReceipt
  deriving DecidableEq, Repr

structure CapturePreparationStatus where
  preparationId : List UInt8
  phase : PreparationPhase
  deadlineMs : Nat
  pendingSequence : Option Nat
  captureRevoked : Bool
  cleanupVerified : Bool
  original : List PreparedWindowState
  lastMutation : Option PreparationMutationReceipt
  failure : Option PreparationError
  journalPath : String
  affectedReadback : List PreparedWindowState
  lastCompletedSequence : Option Nat
  deriving DecidableEq, Repr

/-- `geometry_matches`. -/
def geometryMatches (original current : List PreparedWindowState) : Bool :=
  original.length = current.length && original.all fun old => current.any fun now =>
    old.identity = now.identity && old.bounds = now.bounds && old.visibleBounds = now.visibleBounds && old.dpi = now.dpi &&
      old.visible = now.visible && old.minimized = now.minimized

/-- `restored_matches`. -/
def restoredMatches (original current : List PreparedWindowState) : Bool :=
  geometryMatches original current && original.all fun old => current.any fun now =>
    old.identity = now.identity && old.topmost = now.topmost && old.anchors = now.anchors

/-- The readback of a promotion shows the windows where they were, and the target on top. -/
def promotionExact (original : List PreparedWindowState) (target : PreparationWindowIdentity) (readback : List PreparedWindowState) :
    Bool :=
  geometryMatches original readback && (readback.find? (·.identity = target)).any (·.topmost)

/-! ### The reducer -/

structure PreparationState where
  status : CapturePreparationStatus
  promotionReturned : Bool
  deriving DecidableEq, Repr

namespace PreparationState

/-- `new`, with the journal path that `start` sets. -/
def new (id : List UInt8) (deadlineMs : Nat) (journalPath : String) : PreparationState where
  status :=
    { preparationId := id
      phase := .pendingPromotion
      deadlineMs := deadlineMs
      pendingSequence := some 1
      captureRevoked := false
      cleanupVerified := false
      original := []
      lastMutation := none
      failure := none
      journalPath := journalPath
      affectedReadback := []
      lastCompletedSequence := none }
  promotionReturned := false

def revoke (s : PreparationState) (reason : PreparationFailure) : PreparationState :=
  { s with status := { s.status with
      captureRevoked := true
      failure := s.status.failure.or (some (.new reason))
      phase := if s.promotionReturned && s.status.pendingSequence.isNone && !s.status.cleanupVerified then .restorePending
        else s.status.phase } }

def expire (s : PreparationState) (nowMs : Nat) : PreparationState :=
  if s.status.deadlineMs ≤ nowMs then s.revoke .expired else s

def unknown (s : PreparationState) (reason : PreparationFailure) : PreparationState :=
  { s with status := { s.status with
      captureRevoked := true
      cleanupVerified := false
      phase := .cleanupUnknown
      failure := some (.new reason) } }

/-- The status with a receipt. -/
def withReceipt (s : PreparationState) (receipt : PreparationMutationReceipt) : PreparationState :=
  { s with status := { s.status with
      lastMutation := some receipt
      affectedReadback := receipt.readback
      lastCompletedSequence := some receipt.sequence } }

/-- `promotion_completed`, whose result nothing reads. -/
def promotionCompleted (s : PreparationState) (receipt : PreparationMutationReceipt) (nowMs : Nat) : PreparationState :=
  if s.status.pendingSequence ≠ some 1 ∨ receipt.sequence ≠ 1 ∨ receipt.kind ≠ .promote then s.unknown .protocolMismatch
  else
    let s : PreparationState := { s with promotionReturned := true, status := { s.status with pendingSequence := none } }
    let s := s.expire nowMs
    let s := if !receipt.apiSuccess || receipt.failure.isSome then s.revoke .mutationFailed else s
    let s : PreparationState :=
      { s with status := { s.status with phase := if s.status.captureRevoked then .restorePending else .active } }
    s.withReceipt receipt

def maxSequence : Nat := 2 ^ 64 - 1

/-- `dispatch_restore`. -/
def dispatchRestore (s : PreparationState) : Bool × PreparationState :=
  if !s.promotionReturned || s.status.pendingSequence.isSome || s.status.cleanupVerified || !s.status.captureRevoked then (false, s)
  else if maxSequence ≤ s.status.lastCompletedSequence.getD 1 then (false, s.unknown .protocolMismatch)
  else
    (true, { s with status := { s.status with
      pendingSequence := some (s.status.lastCompletedSequence.getD 1 + 1)
      phase := .restorePending } })

def restoreCompleted (s : PreparationState) (receipt : PreparationMutationReceipt) (verified : Bool) : PreparationState :=
  if s.status.pendingSequence ≠ some receipt.sequence ∨ receipt.sequence < 2 ∨ receipt.kind ≠ .restore then
    s.unknown .protocolMismatch
  else
    let returned : PreparationState := { s with status := { s.status with pendingSequence := none } }
    let returned := returned.withReceipt receipt
    if verified && receipt.apiSuccess && receipt.failure.isNone then
      { returned with status := { returned.status with cleanupVerified := true, phase := .restored } }
    else returned.unknown .readbackFailed

/-- `await_settlement`: the status to settle, and the state that waits for it. -/
def awaitSettlement (s : PreparationState) : CapturePreparationStatus × PreparationState :=
  (s.status, { s with status := { s.status with
    cleanupVerified := false
    phase := if s.status.phase = .restored then .restorePending else s.status.phase } })

/-- The test of `persisted_settlement`. -/
def settles (s : PreparationState) (expected actual : CapturePreparationStatus) : Bool :=
  expected = actual && actual.cleanupVerified && actual.captureRevoked && (actual.phase = .restored || actual.phase = .refused) &&
    actual.pendingSequence.isNone && actual.preparationId = s.status.preparationId && actual.original = s.status.original &&
    actual.lastMutation = s.status.lastMutation && actual.deadlineMs = s.status.deadlineMs &&
    actual.journalPath = s.status.journalPath && actual.affectedReadback = s.status.affectedReadback &&
    actual.lastCompletedSequence = s.status.lastCompletedSequence

/-- `persisted_settlement`. -/
def persistedSettlement (s : PreparationState) (expected actual : CapturePreparationStatus) : Bool × PreparationState :=
  if s.settles expected actual then
    (true, { s with status := { s.status with cleanupVerified := true, phase := actual.phase } })
  else (false, s.unknown .journalFailed)

end PreparationState

/-! ### The supervisor -/

inductive Job where
  /-- `Initialize`. -/
  | initializeWorker
  | mutate (sequence : Nat) (kind : PreparationMutationKind)
  | probe
  | settle (status : CapturePreparationStatus)
  deriving DecidableEq, Repr

inductive WorkerReturn where
  | initialized (result : Except PreparationError (List PreparedWindowState))
  | mutated (receipt : PreparationMutationReceipt)
  | probed (result : Except PreparationError (List PreparedWindowState))
  | settled (result : Except PreparationError CapturePreparationStatus)
  | panicked

/-- The supervisor, the two channels, and the record `settled` of the journal. -/
structure Supervisor where
  state : PreparationState
  target : PreparationWindowIdentity
  initialized : Bool
  revokedBeforeInitialization : Bool
  probing : Bool
  nextProbe : Nat
  expectedSettlement : Option CapturePreparationStatus
  settlementPending : Bool
  /-- A tick has begun and not ended. -/
  ticking : Bool
  jobs : List Job
  returns : List WorkerReturn
  settled : Option CapturePreparationStatus

namespace Supervisor

/-- `start` of a preparation whose journal is prepared. `next_probe` is the instant of the start. -/
def start (id : List UInt8) (target : PreparationWindowIdentity) (deadlineMs : Nat) (journalPath : String) (instant : Nat) :
    Supervisor where
  state := .new id deadlineMs journalPath
  target := target
  initialized := false
  revokedBeforeInitialization := false
  probing := false
  nextProbe := instant
  expectedSettlement := none
  settlementPending := false
  ticking := false
  jobs := [.initializeWorker]
  returns := []
  settled := none

def send (s : Supervisor) (job : Job) : Supervisor := { s with jobs := s.jobs ++ [job] }

def revoke (s : Supervisor) (reason : PreparationFailure) : Supervisor :=
  { s with
    revokedBeforeInitialization := s.revokedBeforeInitialization || !s.initialized
    state := s.state.revoke reason }

def dispatchRestore (s : Supervisor) : Supervisor :=
  let (dispatched, state) := s.state.dispatchRestore
  if dispatched then { s with state := state }.send (.mutate (state.status.pendingSequence.getD 0) .restore)
  else { s with state := state }

def beginSettlement (s : Supervisor) : Supervisor :=
  let (fixed, state) := s.state.awaitSettlement
  { s with state := state, expectedSettlement := some fixed, settlementPending := true }.send (.settle fixed)

def settleWithoutWrite (s : Supervisor) : Supervisor :=
  { s with state := { s.state with status := { s.state.status with
      captureRevoked := true
      phase := .refused
      cleanupVerified := true } } }.beginSettlement

/-- The arms of `tick` for a return. `nowMs` is the reading for a promotion. -/
def handle (s : Supervisor) (nowMs : Nat) : WorkerReturn → Supervisor
  | .initialized (.ok original) =>
    let s := { s with
      initialized := true
      state := { s.state with status := { s.state.status with original := original } } }
    if s.revokedBeforeInitialization then
      { s with state := { s.state with status := { s.state.status with pendingSequence := none } } }.settleWithoutWrite
    else s.send (.mutate 1 .promote)
  | .initialized (.error error) =>
    { s with
      initialized := true
      state := { s.state with status := { s.state.status with
        failure := some error
        pendingSequence := none } } }.settleWithoutWrite
  | .mutated receipt =>
    if receipt.kind = .promote then
      let state := if promotionExact s.state.status.original s.target receipt.readback then s.state else s.state.revoke .readbackFailed
      { s with state := state.promotionCompleted receipt nowMs }
    else
      let verified := receipt.apiSuccess && receipt.failure.isNone &&
        restoredMatches s.state.status.original receipt.readback
      let s := { s with state := s.state.restoreCompleted receipt verified }
      if s.state.status.cleanupVerified then s.beginSettlement else s
  | .probed result =>
    let s := { s with probing := false }
    match result with
    | .error _ => s
    | .ok states =>
      if geometryMatches s.state.status.original states then
        { s with state := { s.state with status := { s.state.status with affectedReadback := states } } }.dispatchRestore
      else s
  | .panicked => { s with state := s.state.unknown .workerLost }
  | .settled result =>
    let s := { s with settlementPending := false }
    match result with
    | .error _ => { s with state := s.state.unknown .journalFailed }
    | .ok actual =>
      match s.expectedSettlement with
      | none => { s with state := s.state.unknown .journalFailed }
      | some expected =>
        let (persisted, state) := s.state.persistedSettlement expected actual
        { s with state := state, expectedSettlement := if persisted then none else s.expectedSettlement }

/-- `tick` up to its loop. -/
def beginTick (s : Supervisor) (nowMs : Nat) : Supervisor :=
  let state := s.state.expire nowMs
  { s with
    state := state
    revokedBeforeInitialization := s.revokedBeforeInitialization || !s.initialized && state.status.captureRevoked
    ticking := true }

def probeIntervalMs : Nat := 500

/-- `tick` after its loop: `instant` is the reading that is compared, `later` the one that sets the next probe. -/
def endTick (s : Supervisor) (instant later : Nat) : Supervisor :=
  let s := { s with ticking := false }
  if s.state.status.captureRevoked && s.initialized && !s.state.status.cleanupVerified then
    match s.expectedSettlement with
    | some expected =>
      if !s.settlementPending && s.nextProbe ≤ instant then
        { s with nextProbe := later + probeIntervalMs, settlementPending := true }.send (.settle expected)
      else s
    | none =>
      if s.state.status.phase = .restorePending then s.dispatchRestore
      else if s.state.status.pendingSequence.isNone && !s.probing && s.nextProbe ≤ instant then
        { s with nextProbe := later + probeIntervalMs, probing := true }.send .probe
      else s
  else s

/-- What the worker meets with a job. -/
inductive WorkerOutcome where
  | panics
  /-- The windows, as they are read for `Initialize` or for `Probe`. -/
  | reads (result : Except PreparationError (List PreparedWindowState))
  /-- The receipt of a mutation, its sequence and kind apart. -/
  | mutates (receipt : PreparationMutationReceipt)
  /-- `record` of the settlement fails, or it goes on. -/
  | records (error : Option PreparationError)

/-- The return of the worker for a job, and the `settled` record. `record` writes once, and agrees to what it has written. -/
def workerReturn (settled : Option CapturePreparationStatus) : Job → WorkerOutcome → WorkerReturn × Option CapturePreparationStatus
  | .initializeWorker, .reads result => (.initialized result, settled)
  | .probe, .reads result => (.probed result, settled)
  | .mutate sequence kind, .mutates receipt => (.mutated { receipt with sequence := sequence, kind := kind }, settled)
  | .settle status, .records none =>
    match settled with
    | none => (.settled (.ok status), some status)
    | some written => if written = status then (.settled (.ok status), settled) else (.settled (.error (.new .journalFailed)), settled)
  | .settle _, .records (some error) => (.settled (.error error), settled)
  | _, _ => (.panicked, settled)

/-- One job of the worker. -/
def work (s : Supervisor) (outcome : WorkerOutcome) : Supervisor :=
  match s.jobs with
  | [] => s
  | job :: rest =>
    let (answer, settled) := workerReturn s.settled job outcome
    { s with jobs := rest, returns := s.returns ++ [answer], settled := settled }

end Supervisor

inductive SupervisorInput where
  | revoke (reason : PreparationFailure)
  | beginTick (nowMs : Nat)
  /-- The loop of `tick` takes a return. -/
  | receive (nowMs : Nat)
  /-- The loop finds no return. -/
  | endTick (instant later : Nat)
  | work (outcome : Supervisor.WorkerOutcome)

/-- The output is what the call sends to the worker. A call of the main loop comes in its turn, and is nothing otherwise. -/
def supervisorMachine : Runs.Machine Supervisor SupervisorInput (List Job) where
  step s
    | .revoke reason => if s.ticking then ([], s) else ([], s.revoke reason)
    | .beginTick nowMs => if s.ticking then ([], s) else ([], s.beginTick nowMs)
    | .receive nowMs =>
      match s.ticking, s.returns with
      | true, answer :: rest =>
        let next := { s with returns := rest }.handle nowMs answer
        (next.jobs.drop s.jobs.length, next)
      | _, _ => ([], s)
    | .endTick instant later =>
      match s.ticking, s.returns with
      | true, [] =>
        let next := s.endTick instant later
        (next.jobs.drop s.jobs.length, next)
      | _, _ => ([], s)
    | .work outcome => ([], s.work outcome)

end CapturePreparation
end DccCua
