import DccCua.Windows.CapturePreparation
import Mathlib.Data.List.Forall2

/-! # The runs of a capture preparation

In every run the window is promoted once, before any restore, and restored in sequence; one mutation is outstanding at most. When the
cleanup is reported verified it has been recorded, and nothing is sent any more. The invariant says which jobs can be outstanding
in each stage; that the channels keep their order is what makes it hold. -/

namespace DccCua
namespace CapturePreparation

open Runs

/-! ### Outstanding jobs -/

/-- The return is one for the job. -/
inductive Answers : Job → WorkerReturn → Prop where
  | panicked (job : Job) : Answers job .panicked
  | initialized (result : Except PreparationError (List PreparedWindowState)) : Answers .initializeWorker (.initialized result)
  | mutated (receipt : PreparationMutationReceipt) : Answers (.mutate receipt.sequence receipt.kind) (.mutated receipt)
  | probed (result : Except PreparationError (List PreparedWindowState)) : Answers .probe (.probed result)
  | settled (status : CapturePreparationStatus) : Answers (.settle status) (.settled (.ok status))
  | unsettled (status : CapturePreparationStatus) (error : PreparationError) : Answers (.settle status) (.settled (.error error))

/-- The last mutation restored the windows. -/
def PreparationState.restoreVerified (s : PreparationState) : Prop :=
  ∃ receipt, s.status.lastMutation = some receipt ∧ s.status.lastCompletedSequence = some receipt.sequence ∧ 2 ≤ receipt.sequence ∧
    receipt.kind = .restore ∧ receipt.apiSuccess = true ∧ receipt.failure = none ∧
    restoredMatches s.status.original receipt.readback = true

/-- What a settlement `e` says is so. -/
structure Settlement (s : PreparationState) (e : CapturePreparationStatus) : Prop where
  same : s.settles e e = true
  outcome : s.promotionReturned = false ∧ s.status.lastCompletedSequence = none ∨ s.promotionReturned = true ∧ s.restoreVerified

/-- What the stage of a preparation depends on. -/
structure Control where
  state : PreparationState
  target : PreparationWindowIdentity
  initialized : Bool
  expected : Option CapturePreparationStatus
  settlementPending : Bool
  probing : Bool
  settled : Option CapturePreparationStatus

/-- The mutations in the order in which they are sent. -/
def mutationAt (n : Nat) : Nat × PreparationMutationKind := (n + 1, if n = 0 then .promote else .restore)

def Job.mutation? : Job → Option (Nat × PreparationMutationKind)
  | mutate sequence kind => some (sequence, kind)
  | _ => none

namespace Control

/-- How many mutations have been sent. -/
def mutations (c : Control) : Nat :=
  if c.initialized then c.state.status.pendingSequence.getD (c.state.status.lastCompletedSequence.getD 0) else 0

/-- Before the promotion returns. -/
structure Fresh (c : Control) : Prop where
  returned : c.state.promotionReturned = false
  pending : c.state.status.pendingSequence = some 1
  unverified : c.state.status.cleanupVerified = false
  inactive : c.state.status.phase ≠ .active
  completed : c.state.status.lastCompletedSequence = none
  expected : c.expected = none
  settled : c.settled = none

/-- The promotion left the windows as they were, but for the target on top. -/
def Exact (c : Control) : Prop :=
  ∃ receipt, c.state.status.lastMutation = some receipt ∧ receipt.kind = .promote ∧ receipt.apiSuccess = true ∧
    receipt.failure = none ∧ promotionExact c.state.status.original c.target receipt.readback = true

/-- After the promotion has returned, and before a settlement is expected. -/
structure Promoted (c : Control) (n : Nat) : Prop where
  returned : c.state.promotionReturned = true
  unverified : c.state.status.cleanupVerified = false
  completed : c.state.status.lastCompletedSequence = some (n + 1)
  expected : c.expected = none
  settled : c.settled = none

/-- While the settlement `e` is expected. -/
structure Settling (c : Control) (e : CapturePreparationStatus) : Prop where
  initialized : c.initialized = true
  pending : c.state.status.pendingSequence = none
  revoked : c.state.status.captureRevoked = true
  unverified : c.state.status.cleanupVerified = false
  inactive : c.state.status.phase ≠ .active
  expected : c.expected = some e
  settlement : Settlement c.state e
  settled : c.settled = none ∨ c.settled = some e

/-- Once `e` has been settled. -/
structure Settled (c : Control) (e : CapturePreparationStatus) : Prop where
  initialized : c.initialized = true
  pending : c.state.status.pendingSequence = none
  revoked : c.state.status.captureRevoked = true
  verified : c.state.status.cleanupVerified = true
  phase : c.state.status.phase = e.phase
  expected : c.expected = none
  settlement : Settlement c.state e
  settled : c.settled = some e

/-- The stages of a preparation, each with the jobs that are sent and not yet returned. A job that panicked is not among them. -/
inductive Stage (c : Control) : List Job → Prop where
  | opening {jobs} (fresh : c.Fresh) (initialized : c.initialized = false)
      (outstanding : jobs = [.initializeWorker] ∨ jobs = []) : Stage c jobs
  | promoting {jobs} (fresh : c.Fresh) (initialized : c.initialized = true) (outstanding : jobs = [.mutate 1 .promote] ∨ jobs = []) :
    Stage c jobs
  | resting {jobs n} (promoted : c.Promoted n) (initialized : c.initialized = true) (pending : c.state.status.pendingSequence = none)
      (active : c.state.status.phase = .active → c.state.status.captureRevoked = false ∧ c.Exact)
      (outstanding : jobs = [.probe] ∧ c.probing = true ∨ jobs = []) : Stage c jobs
  | restoring {jobs n} (promoted : c.Promoted n) (initialized : c.initialized = true)
      (pending : c.state.status.pendingSequence = some (n + 2)) (revoked : c.state.status.captureRevoked = true)
      (inactive : c.state.status.phase ≠ .active)
      (outstanding : jobs = [.probe, .mutate (n + 2) .restore] ∨ jobs = [.mutate (n + 2) .restore] ∨ jobs = []) : Stage c jobs
  | settling {jobs e} (settling : c.Settling e) (outstanding : jobs = [.settle e] ∧ c.settlementPending = true ∨ jobs = []) : Stage c jobs
  | settled {e} (settled : c.Settled e) : Stage c []

end Control

/-! ### Changes of the reducer that keep a stage -/

/-- The states agree in what a settlement says. -/
structure SameRecord (s t : PreparationState) : Prop where
  preparationId : t.status.preparationId = s.status.preparationId
  original : t.status.original = s.status.original
  lastMutation : t.status.lastMutation = s.status.lastMutation
  deadlineMs : t.status.deadlineMs = s.status.deadlineMs
  journalPath : t.status.journalPath = s.status.journalPath
  affectedReadback : t.status.affectedReadback = s.status.affectedReadback
  lastCompletedSequence : t.status.lastCompletedSequence = s.status.lastCompletedSequence
  promotionReturned : t.promotionReturned = s.promotionReturned

theorem Settlement.of_same {s t : PreparationState} {e : CapturePreparationStatus} (h : Settlement s e) (hsame : SameRecord s t) :
    Settlement t e where
  same := by
    have := h.same
    unfold PreparationState.settles at this ⊢
    rw [hsame.preparationId, hsame.original, hsame.lastMutation, hsame.deadlineMs, hsame.journalPath, hsame.affectedReadback,
      hsame.lastCompletedSequence]
    exact this
  outcome := by
    rcases h.outcome with ⟨hearly, hnone⟩ | ⟨hreturned, receipt, hlast, hcompleted, hrest⟩
    · exact Or.inl ⟨hsame.promotionReturned.trans hearly, hsame.lastCompletedSequence.trans hnone⟩
    · exact Or.inr ⟨hsame.promotionReturned.trans hreturned, receipt, hsame.lastMutation.trans hlast,
        hsame.lastCompletedSequence.trans hcompleted, hsame.original ▸ hrest⟩

theorem sameRecord_revoke (s : PreparationState) (reason : PreparationFailure) : SameRecord s (s.revoke reason) :=
  ⟨rfl, rfl, rfl, rfl, rfl, rfl, rfl, rfl⟩

theorem sameRecord_unknown (s : PreparationState) (reason : PreparationFailure) : SameRecord s (s.unknown reason) :=
  ⟨rfl, rfl, rfl, rfl, rfl, rfl, rfl, rfl⟩

namespace Control

variable {c : Control} {jobs : List Job} {n : Nat}

/-- The control with another state of the reducer. -/
def withState (c : Control) (state : PreparationState) : Control := { c with state := state }

theorem Fresh.revoke (h : c.Fresh) (reason : PreparationFailure) : (c.withState (c.state.revoke reason)).Fresh where
  returned := h.returned
  pending := h.pending
  unverified := h.unverified
  inactive := by
    have := h.inactive
    simpa [withState, PreparationState.revoke, h.returned] using this
  completed := h.completed
  expected := h.expected
  settled := h.settled

theorem Fresh.unknown (h : c.Fresh) (reason : PreparationFailure) : (c.withState (c.state.unknown reason)).Fresh :=
  ⟨h.returned, h.pending, rfl, fun hphase => (by cases hphase), h.completed, h.expected, h.settled⟩

theorem Promoted.of_same (h : c.Promoted n) {state : PreparationState} (hsame : SameRecord c.state state)
    (hunverified : state.status.cleanupVerified = false) : (c.withState state).Promoted n :=
  ⟨hsame.promotionReturned.trans h.returned, hunverified, hsame.lastCompletedSequence.trans h.completed, h.expected, h.settled⟩

theorem Settling.unknown {e : CapturePreparationStatus} (h : c.Settling e) (reason : PreparationFailure) :
    (c.withState (c.state.unknown reason)).Settling e :=
  ⟨h.initialized, h.pending, rfl, rfl, fun hphase => (by cases hphase), h.expected,
    h.settlement.of_same (sameRecord_unknown c.state reason), h.settled⟩

/-- A revocation keeps the stage. -/
theorem Stage.revoke (h : c.Stage jobs) (reason : PreparationFailure) : (c.withState (c.state.revoke reason)).Stage jobs := by
  have hsame := sameRecord_revoke c.state reason
  cases h with
  | opening fresh initialized outstanding => exact .opening (fresh.revoke reason) initialized outstanding
  | promoting fresh initialized outstanding => exact .promoting (fresh.revoke reason) initialized outstanding
  | resting promoted initialized pending active outstanding =>
    refine .resting (promoted.of_same hsame promoted.unverified) initialized pending (fun hphase => ?_) outstanding
    simp [withState, PreparationState.revoke, promoted.returned, pending, promoted.unverified] at hphase
  | restoring promoted initialized pending revoked inactive outstanding =>
    refine .restoring (promoted.of_same hsame promoted.unverified) initialized pending rfl ?_ outstanding
    simpa [withState, PreparationState.revoke, pending] using inactive
  | settling settling outstanding =>
    refine .settling ⟨settling.initialized, settling.pending, rfl, settling.unverified, ?_, settling.expected,
      settling.settlement.of_same hsame, settling.settled⟩ outstanding
    simp only [withState, PreparationState.revoke]
    split
    · exact fun hphase => (by cases hphase)
    · exact settling.inactive
  | settled settled =>
    refine .settled ⟨settled.initialized, settled.pending, rfl, settled.verified, ?_, settled.expected,
      settled.settlement.of_same hsame, settled.settled⟩
    simpa [withState, PreparationState.revoke, settled.verified] using settled.phase

/-- The settlement that is outstanding may be recorded. -/
theorem Stage.record {e : CapturePreparationStatus} (h : c.Stage jobs) (hmem : .settle e ∈ jobs) :
    ({ c with settled := some e } : Control).Stage jobs := by
  cases h with
  | opening fresh initialized outstanding => rcases outstanding with rfl | rfl <;> simp at hmem
  | promoting fresh initialized outstanding => rcases outstanding with rfl | rfl <;> simp at hmem
  | resting promoted initialized pending active outstanding => rcases outstanding with ⟨rfl, -⟩ | rfl <;> simp at hmem
  | restoring promoted initialized pending revoked inactive outstanding => rcases outstanding with rfl | rfl | rfl <;> simp at hmem
  | settling settling outstanding =>
    rcases outstanding with ⟨rfl, hpending⟩ | rfl
    · obtain rfl : e = _ := by simpa using hmem
      exact .settling ⟨settling.initialized, settling.pending, settling.revoked, settling.unverified, settling.inactive,
        settling.expected, settling.settlement, Or.inr rfl⟩ (Or.inl ⟨rfl, hpending⟩)
    · cases hmem
  | settled settled => cases hmem

theorem Stage.expire (h : c.Stage jobs) (nowMs : Nat) : (c.withState (c.state.expire nowMs)).Stage jobs := by
  unfold PreparationState.expire
  split
  · exact h.revoke .expired
  · exact h

theorem rest_eq_nil {job other : Job} (h : job :: jobs = [other] ∨ job :: jobs = []) : job = other ∧ jobs = [] := by
  rcases h with h | h
  · exact List.cons.inj h
  · cases h

/-- A job that panics. -/
theorem Stage.panicked {job : Job} (h : c.Stage (job :: jobs)) (reason : PreparationFailure) :
    (c.withState (c.state.unknown reason)).Stage jobs := by
  have hsame := sameRecord_unknown c.state reason
  cases h with
  | opening fresh initialized outstanding =>
    exact .opening (fresh.unknown reason) initialized (Or.inr (rest_eq_nil outstanding).2)
  | promoting fresh initialized outstanding =>
    exact .promoting (fresh.unknown reason) initialized (Or.inr (rest_eq_nil outstanding).2)
  | resting promoted initialized pending active outstanding =>
    exact .resting (promoted.of_same hsame rfl) initialized pending (fun hphase => (by cases hphase))
      (Or.inr (rest_eq_nil (outstanding.imp_left And.left)).2)
  | restoring promoted initialized pending revoked inactive outstanding =>
    refine .restoring (promoted.of_same hsame rfl) initialized pending rfl (fun hphase => (by cases hphase)) (Or.inr ?_)
    rcases outstanding with houtstanding | houtstanding
    · exact Or.inl (List.cons.inj houtstanding).2
    · exact Or.inr (rest_eq_nil houtstanding).2
  | settling settling outstanding =>
    exact .settling (settling.unknown reason) (Or.inr (rest_eq_nil (outstanding.imp_left And.left)).2)

/-- What is outstanding tells the stage. -/
theorem Stage.of_initializeWorker (h : c.Stage (.initializeWorker :: jobs)) : c.Fresh ∧ c.initialized = false ∧ jobs = [] := by
  cases h with
  | opening fresh initialized outstanding => exact ⟨fresh, initialized, (rest_eq_nil outstanding).2⟩
  | promoting fresh initialized outstanding => cases (rest_eq_nil outstanding).1
  | resting promoted initialized pending active outstanding => cases (rest_eq_nil (outstanding.imp_left And.left)).1
  | restoring promoted initialized pending revoked inactive outstanding =>
    rcases outstanding with houtstanding | houtstanding
    · cases (List.cons.inj houtstanding).1
    · cases (rest_eq_nil houtstanding).1
  | settling settling outstanding => cases (rest_eq_nil (outstanding.imp_left And.left)).1

theorem Stage.of_settle {e : CapturePreparationStatus} (h : c.Stage (.settle e :: jobs)) : c.Settling e ∧ jobs = [] := by
  cases h with
  | opening fresh initialized outstanding => cases (rest_eq_nil outstanding).1
  | promoting fresh initialized outstanding => cases (rest_eq_nil outstanding).1
  | resting promoted initialized pending active outstanding => cases (rest_eq_nil (outstanding.imp_left And.left)).1
  | restoring promoted initialized pending revoked inactive outstanding =>
    rcases outstanding with houtstanding | houtstanding
    · cases (List.cons.inj houtstanding).1
    · cases (rest_eq_nil houtstanding).1
  | settling settling outstanding =>
    obtain ⟨hjob, hrest⟩ := rest_eq_nil (outstanding.imp_left And.left)
    cases hjob
    exact ⟨settling, hrest⟩

theorem Stage.of_expected {e : CapturePreparationStatus} (h : c.Stage jobs) (hexpected : c.expected = some e)
    (hpending : c.settlementPending = false) : c.Settling e ∧ jobs = [] := by
  have hother : c.expected ≠ none := by simp [hexpected]
  cases h with
  | opening fresh initialized outstanding => exact absurd fresh.expected hother
  | promoting fresh initialized outstanding => exact absurd fresh.expected hother
  | resting promoted initialized pending active outstanding => exact absurd promoted.expected hother
  | restoring promoted initialized pending revoked inactive outstanding => exact absurd promoted.expected hother
  | settling settling outstanding =>
    obtain rfl := Option.some.inj (settling.expected.symm.trans hexpected)
    exact ⟨settling, outstanding.resolve_left fun h => Bool.false_ne_true (hpending.symm.trans h.2)⟩
  | settled settled => exact absurd settled.expected hother

end Control

namespace Supervisor

def control (s : Supervisor) : Control :=
  ⟨s.state, s.target, s.initialized, s.expectedSettlement, s.settlementPending, s.probing, s.settled⟩

theorem control_send (s : Supervisor) (job : Job) : (s.send job).control = s.control := rfl

/-- The jobs sent have the next mutation, or none. -/
def Counts (s t : Supervisor) (sent : List Job) : Prop :=
  (sent.filterMap Job.mutation? = [] ∧ t.control.mutations = s.control.mutations) ∨
    (sent.filterMap Job.mutation? = [mutationAt s.control.mutations] ∧ t.control.mutations = s.control.mutations + 1)

/-- What a step of the main loop does with the stage: it sends jobs, which join those outstanding. -/
structure Advances (s t : Supervisor) (outstanding sent : List Job) : Prop where
  jobs : t.jobs = s.jobs ++ sent
  stage : t.control.Stage (outstanding ++ sent)
  returns : t.returns = s.returns
  settled : t.settled = s.settled
  counts : s.Counts t sent

theorem Advances.quiet {s t : Supervisor} {outstanding : List Job} (hjobs : t.jobs = s.jobs) (hstage : t.control.Stage outstanding)
    (hreturns : t.returns = s.returns) (hsettled : t.settled = s.settled) (hcount : t.control.mutations = s.control.mutations) :
    s.Advances t outstanding [] :=
  ⟨by rw [hjobs, List.append_nil], by rwa [List.append_nil], hreturns, hsettled, Or.inl ⟨rfl, hcount⟩⟩

theorem Advances.after {s s' t : Supervisor} {outstanding sent : List Job} (h : s'.Advances t outstanding sent)
    (hjobs : s'.jobs = s.jobs) (hreturns : s'.returns = s.returns) (hsettled : s'.settled = s.settled)
    (hcount : s'.control.mutations = s.control.mutations) : s.Advances t outstanding sent where
  jobs := hjobs ▸ h.jobs
  stage := h.stage
  returns := h.returns.trans hreturns
  settled := h.settled.trans hsettled
  counts := by
    have := h.counts
    unfold Counts at this ⊢
    rwa [hcount] at this

/-- The restore that `dispatch_restore` sends, if it does. -/
theorem dispatchRestore_cases {n : Nat} (s : Supervisor) (h : s.control.Promoted n)
    (hpending : s.state.status.pendingSequence = none) :
    s.dispatchRestore = s ∨ s.dispatchRestore = { s with state := s.state.unknown .protocolMismatch } ∨
      s.state.status.captureRevoked = true ∧ s.dispatchRestore = { s with
        state := { s.state with status := { s.state.status with pendingSequence := some (n + 2), phase := .restorePending } }
        jobs := s.jobs ++ [.mutate (n + 2) .restore] } := by
  have hreturned : s.state.promotionReturned = true := h.returned
  have hunverified : s.state.status.cleanupVerified = false := h.unverified
  have hcompleted : s.state.status.lastCompletedSequence = some (n + 1) := h.completed
  unfold dispatchRestore PreparationState.dispatchRestore
  by_cases hrevoked : s.state.status.captureRevoked = true
  · rw [if_neg (by simp [hreturned, hpending, hunverified, hrevoked]), hcompleted]
    dsimp only [Option.getD_some]
    split
    · exact Or.inr (Or.inl rfl)
    · refine Or.inr (Or.inr ⟨hrevoked, ?_⟩)
      rw [if_pos rfl]
      rfl
  · rw [if_pos (by simp [hrevoked])]
    exact Or.inl rfl

/-- A restore is not sent while a mutation is pending. -/
theorem dispatchRestore_pending (s : Supervisor) {sequence : Nat} (hpending : s.state.status.pendingSequence = some sequence) :
    s.dispatchRestore = s := by
  unfold dispatchRestore PreparationState.dispatchRestore
  rw [hpending]
  simp

/-- Where a restore may be sent, the stage goes on. -/
theorem advances_dispatch {n : Nat} (s : Supervisor) (h : s.control.Promoted n) (hinitialized : s.initialized = true)
    (hpending : s.state.status.pendingSequence = none)
    (hactive : s.state.status.phase = .active → s.state.status.captureRevoked = false ∧ s.control.Exact)
    {outstanding : List Job} (houtstanding : outstanding = [.probe] ∧ s.probing = true ∨ outstanding = []) :
    ∃ sent, s.Advances s.dispatchRestore outstanding sent := by
  have hcompleted : s.state.status.lastCompletedSequence = some (n + 1) := h.completed
  rcases dispatchRestore_cases s h hpending with heq | heq | ⟨hrevoked, heq⟩
  · rw [heq]
    exact ⟨_, .quiet rfl (.resting h hinitialized hpending hactive houtstanding) rfl rfl rfl⟩
  · rw [heq]
    exact ⟨_, .quiet rfl (.resting (h.of_same (sameRecord_unknown s.state .protocolMismatch) rfl) hinitialized hpending
      (fun hphase => (by cases hphase)) houtstanding) rfl rfl rfl⟩
  · rw [heq]
    have hmutations : s.control.mutations = n + 1 := by simp [Control.mutations, control, hinitialized, hpending, hcompleted]
    refine ⟨[.mutate (n + 2) .restore], rfl, ?_, rfl, rfl, Or.inr ⟨?_, ?_⟩⟩
    · refine .restoring ⟨h.returned, h.unverified, h.completed, h.expected, h.settled⟩ hinitialized rfl hrevoked
        (fun hphase => (by cases hphase)) ?_
      rcases houtstanding with ⟨rfl, -⟩ | rfl
      · exact Or.inl rfl
      · exact Or.inr (Or.inl rfl)
    · rw [hmutations]
      rfl
    · rw [hmutations]
      simp [Control.mutations, control, hinitialized]

/-- Where the cleanup is found verified, it is to be settled. -/
theorem advances_settlement (s : Supervisor) (hinitialized : s.initialized = true) (hpending : s.state.status.pendingSequence = none)
    (hrevoked : s.state.status.captureRevoked = true) (hverified : s.state.status.cleanupVerified = true)
    (hphase : s.state.status.phase = .restored ∨ s.state.status.phase = .refused) (hsettled : s.settled = none)
    (houtcome : s.state.promotionReturned = false ∧ s.state.status.lastCompletedSequence = none ∨
      s.state.promotionReturned = true ∧ s.state.restoreVerified) :
    s.Advances s.beginSettlement [] [.settle s.state.status] := by
  refine ⟨rfl, ?_, rfl, rfl, Or.inl ⟨rfl, rfl⟩⟩
  refine .settling (e := s.state.status) ⟨hinitialized, hpending, hrevoked, rfl, ?_, rfl, ⟨?_, houtcome⟩, Or.inl hsettled⟩
    (Or.inl ⟨rfl, rfl⟩)
  · simp only [control, beginSettlement, send, PreparationState.awaitSettlement]
    rcases hphase with hphase | hphase
    · rw [hphase]
      exact fun h => (by cases h)
    · rw [hphase]
      exact fun h => (by cases h)
  · simp [control, beginSettlement, send, PreparationState.awaitSettlement, PreparationState.settles, hverified, hrevoked, hpending,
      hphase]

/-! ### Returns -/

variable {rest : List Job}

theorem advances_panicked {job : Job} (s : Supervisor) (h : s.control.Stage (job :: rest)) (nowMs : Nat) :
    ∃ sent, s.Advances (s.handle nowMs .panicked) rest sent :=
  ⟨_, .quiet rfl (h.panicked .workerLost) rfl rfl rfl⟩

theorem advances_initialized (s : Supervisor) (h : s.control.Stage (.initializeWorker :: rest)) (nowMs : Nat)
    (result : Except PreparationError (List PreparedWindowState)) :
    ∃ sent, s.Advances (s.handle nowMs (.initialized result)) rest sent := by
  obtain ⟨fresh, initialized, rfl⟩ := h.of_initializeWorker
  have hinitialized : s.initialized = false := initialized
  have hcompleted : s.state.status.lastCompletedSequence = none := fresh.completed
  have hmutations : s.control.mutations = 0 := by simp [Control.mutations, control, hinitialized]
  cases result with
  | error error =>
    have settles := advances_settlement { s with
      initialized := true
      state := { s.state with status := { s.state.status with
        failure := some error
        pendingSequence := none
        captureRevoked := true
        phase := .refused
        cleanupVerified := true } } } rfl rfl rfl rfl (Or.inr rfl) fresh.settled (Or.inl ⟨fresh.returned, fresh.completed⟩)
    exact ⟨_, settles.after rfl rfl rfl (by rw [hmutations]; simp [Control.mutations, control, hcompleted])⟩
  | ok original =>
    simp only [handle]
    split
    · have settles := advances_settlement { s with
        initialized := true
        state := { s.state with status := { s.state.status with
          original := original
          pendingSequence := none
          captureRevoked := true
          phase := .refused
          cleanupVerified := true } } } rfl rfl rfl rfl (Or.inr rfl) fresh.settled (Or.inl ⟨fresh.returned, fresh.completed⟩)
      exact ⟨_, settles.after rfl rfl rfl (by rw [hmutations]; simp [Control.mutations, control, hcompleted])⟩
    · have hpending : s.state.status.pendingSequence = some 1 := fresh.pending
      refine ⟨[.mutate 1 .promote], rfl, ?_, rfl, rfl, Or.inr ⟨by rw [hmutations]; rfl, ?_⟩⟩
      swap
      · rw [hmutations]
        simp [Control.mutations, control, send, hpending]
      exact .promoting ⟨fresh.returned, fresh.pending, fresh.unverified, fresh.inactive, fresh.completed, fresh.expected,
        fresh.settled⟩ rfl (Or.inl rfl)

/-- The state after a promotion has returned. -/
structure PromotionReturned (s t : PreparationState) (receipt : PreparationMutationReceipt) : Prop where
  returned : t.promotionReturned = true
  pending : t.status.pendingSequence = none
  unverified : t.status.cleanupVerified = s.status.cleanupVerified
  completed : t.status.lastCompletedSequence = some 1
  lastMutation : t.status.lastMutation = some receipt
  original : t.status.original = s.status.original
  active : t.status.phase = .active → t.status.captureRevoked = false ∧ s.status.captureRevoked = false ∧
    receipt.apiSuccess = true ∧ receipt.failure = none

theorem promotionReturned (s : PreparationState) {receipt : PreparationMutationReceipt} (hpending : s.status.pendingSequence = some 1)
    (hsequence : receipt.sequence = 1) (hkind : receipt.kind = .promote) (nowMs : Nat) :
    PromotionReturned s (s.promotionCompleted receipt nowMs) receipt := by
  unfold PreparationState.promotionCompleted
  rw [if_neg (by simp [hpending, hsequence, hkind])]
  have hcompleted : some receipt.sequence = some 1 := congrArg some hsequence
  unfold PreparationState.expire
  dsimp only
  split
  · split
    · exact ⟨rfl, rfl, rfl, hcompleted, rfl, rfl, fun hactive => (by cases hactive)⟩
    · exact ⟨rfl, rfl, rfl, hcompleted, rfl, rfl, fun hactive => (by cases hactive)⟩
  · rename_i hgood
    split
    · exact ⟨rfl, rfl, rfl, hcompleted, rfl, rfl, fun hactive => (by cases hactive)⟩
    · refine ⟨rfl, rfl, rfl, hcompleted, rfl, rfl, fun hactive => ?_⟩
      have hlive : s.status.captureRevoked = false := by
        rw [← Bool.not_eq_true]
        intro hrevoked
        simp [PreparationState.withReceipt, hrevoked] at hactive
      rw [Bool.not_eq_true, Bool.or_eq_false_iff, Bool.not_eq_false', Option.isSome_eq_false_iff, Option.isNone_iff_eq_none] at hgood
      exact ⟨hlive, hlive, hgood.1, hgood.2⟩

/-- A restore that returns is verified, or the stage rests again. -/
theorem advances_restored {n : Nat} (s : Supervisor) {receipt : PreparationMutationReceipt} (promoted : s.control.Promoted n)
    (hinitialized : s.initialized = true) (hpending : s.state.status.pendingSequence = some (n + 2))
    (hrevoked : s.state.status.captureRevoked = true) (hsequence : receipt.sequence = n + 2) (hkind : receipt.kind = .restore)
    (nowMs : Nat) : ∃ sent, s.Advances (s.handle nowMs (.mutated receipt)) [] sent := by
  have hopen : ¬(s.state.status.pendingSequence ≠ some receipt.sequence ∨ receipt.sequence < 2 ∨ receipt.kind ≠ .restore) := by
    rw [hpending, hsequence, hkind]
    simp
  have hrestore : ¬receipt.kind = .promote := by
    rw [hkind]
    exact fun h => (by cases h)
  unfold handle PreparationState.restoreCompleted
  dsimp only
  rw [if_neg hrestore, if_neg hopen]
  have hcompleted : some receipt.sequence = some (n + 2) := congrArg some hsequence
  cases hverified : receipt.apiSuccess && receipt.failure.isNone && restoredMatches s.state.status.original receipt.readback &&
      receipt.apiSuccess && receipt.failure.isNone with
  | true =>
    simp only [Bool.and_eq_true, Option.isNone_iff_eq_none] at hverified
    obtain ⟨⟨⟨⟨hsuccess, hfailure⟩, hmatches⟩, -⟩, -⟩ := hverified
    rw [if_pos rfl, if_pos rfl]
    have settles := advances_settlement { s with state := { s.state with status := { s.state.status with
        pendingSequence := none
        lastMutation := some receipt
        affectedReadback := receipt.readback
        lastCompletedSequence := some receipt.sequence
        cleanupVerified := true
        phase := .restored } } } hinitialized rfl hrevoked rfl (Or.inl rfl) promoted.settled
      (Or.inr ⟨promoted.returned, receipt, rfl, rfl, by omega, hkind, hsuccess, hfailure, hmatches⟩)
    exact ⟨_, settles.after rfl rfl rfl (by simp [Control.mutations, control, hinitialized, hpending, hsequence])⟩
  | false =>
    rw [if_neg Bool.false_ne_true, if_neg]
    · refine ⟨_, .quiet rfl (.resting (n := n + 1) ⟨promoted.returned, rfl, hcompleted, promoted.expected, promoted.settled⟩
        hinitialized rfl (fun hphase => (by cases hphase)) (Or.inr rfl)) rfl rfl ?_⟩
      simp [Control.mutations, control, hinitialized, hpending, PreparationState.unknown, PreparationState.withReceipt, hsequence]
    · exact Bool.false_ne_true

theorem advances_mutated (s : Supervisor) (receipt : PreparationMutationReceipt)
    (h : s.control.Stage (.mutate receipt.sequence receipt.kind :: rest)) (nowMs : Nat) :
    ∃ sent, s.Advances (s.handle nowMs (.mutated receipt)) rest sent := by
  cases h with
  | opening fresh initialized outstanding => cases (Control.rest_eq_nil outstanding).1
  | resting promoted initialized pending active outstanding => cases (Control.rest_eq_nil (outstanding.imp_left And.left)).1
  | settling settling outstanding => cases (Control.rest_eq_nil (outstanding.imp_left And.left)).1
  | promoting fresh initialized outstanding =>
    obtain ⟨hjob, rfl⟩ := Control.rest_eq_nil outstanding
    obtain ⟨hsequence, hkind⟩ := Job.mutate.inj hjob
    have hinitialized : s.initialized = true := initialized
    have hpending : s.state.status.pendingSequence = some 1 := fresh.pending
    simp only [handle, hkind, if_true]
    split
    · rename_i hexact
      have returned := promotionReturned s.state fresh.pending hsequence hkind nowMs
      refine ⟨_, .quiet rfl (.resting (n := 0) ⟨returned.returned, returned.unverified.trans fresh.unverified, returned.completed,
        fresh.expected, fresh.settled⟩ initialized returned.pending (fun hactive => ?_) (Or.inr rfl)) rfl rfl ?_⟩
      swap
      · simp [Control.mutations, control, hinitialized, hpending, returned.pending, returned.completed]
      obtain ⟨hlive, -, hsuccess, hfailure⟩ := returned.active hactive
      exact ⟨hlive, receipt, returned.lastMutation, hkind, hsuccess, hfailure, returned.original ▸ hexact⟩
    · have returned := promotionReturned (s.state.revoke .readbackFailed) fresh.pending hsequence hkind nowMs
      refine ⟨_, .quiet rfl (.resting (n := 0) ⟨returned.returned, returned.unverified.trans fresh.unverified, returned.completed,
        fresh.expected, fresh.settled⟩ initialized returned.pending (fun hactive => ?_) (Or.inr rfl)) rfl rfl ?_⟩
      swap
      · simp [Control.mutations, control, hinitialized, hpending, returned.pending, returned.completed]
      cases (returned.active hactive).2.1
  | restoring promoted initialized pending revoked inactive outstanding =>
    rcases outstanding with houtstanding | houtstanding
    · cases (List.cons.inj houtstanding).1
    · obtain ⟨hjob, rfl⟩ := Control.rest_eq_nil houtstanding
      obtain ⟨hsequence, hkind⟩ := Job.mutate.inj hjob
      exact advances_restored s promoted initialized pending revoked hsequence hkind nowMs

theorem advances_probed (s : Supervisor) (h : s.control.Stage (.probe :: rest)) (nowMs : Nat)
    (result : Except PreparationError (List PreparedWindowState)) :
    ∃ sent, s.Advances (s.handle nowMs (.probed result)) rest sent := by
  cases h with
  | opening fresh initialized outstanding => cases (Control.rest_eq_nil outstanding).1
  | promoting fresh initialized outstanding => cases (Control.rest_eq_nil outstanding).1
  | settling settling outstanding => cases (Control.rest_eq_nil (outstanding.imp_left And.left)).1
  | resting promoted initialized pending active outstanding =>
    obtain rfl := (Control.rest_eq_nil (outstanding.imp_left And.left)).2
    have still : s.Advances { s with probing := false } [] [] :=
      .quiet rfl (.resting ⟨promoted.returned, promoted.unverified, promoted.completed, promoted.expected, promoted.settled⟩ initialized
        pending active (Or.inr rfl)) rfl rfl rfl
    cases result with
    | error error => exact ⟨_, still⟩
    | ok states =>
      simp only [handle]
      split
      · obtain ⟨sent, dispatches⟩ := advances_dispatch { s with
          probing := false
          state := { s.state with status := { s.state.status with affectedReadback := states } } }
          ⟨promoted.returned, promoted.unverified, promoted.completed, promoted.expected, promoted.settled⟩ initialized pending active
          (Or.inr rfl)
        exact ⟨sent, dispatches.after rfl rfl rfl rfl⟩
      · exact ⟨_, still⟩
  | restoring promoted initialized pending revoked inactive outstanding =>
    rcases outstanding with houtstanding | houtstanding
    · obtain rfl := (List.cons.inj houtstanding).2
      have still : s.Advances { s with probing := false } [.mutate (_ + 2) .restore] [] :=
        .quiet rfl (.restoring ⟨promoted.returned, promoted.unverified, promoted.completed, promoted.expected, promoted.settled⟩
          initialized pending revoked inactive (Or.inr (Or.inl rfl))) rfl rfl rfl
      cases result with
      | error error => exact ⟨_, still⟩
      | ok states =>
        simp only [handle]
        split
        · rw [dispatchRestore_pending { s with
            probing := false
            state := { s.state with status := { s.state.status with affectedReadback := states } } } pending]
          exact ⟨_, .quiet rfl (.restoring
            ⟨promoted.returned, promoted.unverified, promoted.completed, promoted.expected, promoted.settled⟩ initialized pending
            revoked inactive (Or.inr (Or.inl rfl))) rfl rfl rfl⟩
        · exact ⟨_, still⟩
    · cases (Control.rest_eq_nil houtstanding).1

theorem advances_settled (s : Supervisor) {e : CapturePreparationStatus} (h : s.control.Stage (.settle e :: rest)) (nowMs : Nat)
    (hrecorded : s.settled = some e) : ∃ sent, s.Advances (s.handle nowMs (.settled (.ok e))) rest sent := by
  obtain ⟨settling, rfl⟩ := h.of_settle
  have hexpected : s.expectedSettlement = some e := settling.expected
  have hsettles : s.state.settles e e = true := settling.settlement.same
  simp only [handle, hexpected, PreparationState.persistedSettlement, hsettles, if_true]
  exact ⟨_, .quiet rfl (.settled (e := e) ⟨settling.initialized, settling.pending, settling.revoked, rfl, rfl, rfl,
    settling.settlement.of_same ⟨rfl, rfl, rfl, rfl, rfl, rfl, rfl, rfl⟩, hrecorded⟩) rfl rfl rfl⟩

theorem advances_unsettled (s : Supervisor) {e : CapturePreparationStatus} (h : s.control.Stage (.settle e :: rest)) (nowMs : Nat)
    (error : PreparationError) : ∃ sent, s.Advances (s.handle nowMs (.settled (.error error))) rest sent := by
  obtain ⟨settling, rfl⟩ := h.of_settle
  have unsettled := settling.unknown .journalFailed
  exact ⟨_, .quiet rfl (.settling ⟨unsettled.initialized, unsettled.pending, unsettled.revoked, unsettled.unverified,
    unsettled.inactive, unsettled.expected, unsettled.settlement, unsettled.settled⟩ (Or.inr rfl)) rfl rfl rfl⟩

/-! ### Steps -/

theorem dispatchRestore_early (s : Supervisor) (h : s.state.promotionReturned = false) : s.dispatchRestore = s := by
  unfold dispatchRestore PreparationState.dispatchRestore
  rw [h]
  simp

theorem advances_endTick {outstanding : List Job} (s : Supervisor) (h : s.control.Stage outstanding) (instant later : Nat) :
    ∃ sent, s.Advances (s.endTick instant later) outstanding sent := by
  have still : s.Advances { s with ticking := false } outstanding [] := .quiet rfl h rfl rfl rfl
  unfold endTick
  dsimp only
  split
  · rename_i hguard
    rw [Bool.and_eq_true, Bool.and_eq_true, Bool.not_eq_true'] at hguard
    obtain ⟨⟨hrevoked, hinitialized⟩, hunverified⟩ := hguard
    split
    · rename_i e hexpected
      split
      · rename_i hready
        rw [Bool.and_eq_true, Bool.not_eq_true'] at hready
        obtain ⟨settling, rfl⟩ := h.of_expected hexpected hready.1
        refine ⟨[.settle e], rfl, ?_, rfl, rfl, Or.inl ⟨rfl, rfl⟩⟩
        exact .settling ⟨settling.initialized, settling.pending, settling.revoked, settling.unverified, settling.inactive,
          settling.expected, settling.settlement, settling.settled⟩ (Or.inl ⟨rfl, rfl⟩)
      · exact ⟨_, still⟩
    · rename_i hexpected
      cases h with
      | opening fresh initialized outstanding =>
        rw [show s.initialized = false from initialized] at hinitialized
        cases hinitialized
      | promoting fresh initialized outstanding =>
        have hpending : s.state.status.pendingSequence = some 1 := fresh.pending
        rw [dispatchRestore_early { s with ticking := false } fresh.returned, hpending]
        split
        · exact ⟨_, still⟩
        · exact ⟨_, still⟩
      | resting promoted initialized pending active outstanding =>
        split
        · obtain ⟨sent, dispatches⟩ := advances_dispatch { s with ticking := false } promoted hinitialized pending active outstanding
          exact ⟨sent, dispatches.after rfl rfl rfl rfl⟩
        split
        · rename_i hready
          simp only [Bool.and_eq_true, Bool.not_eq_true'] at hready
          obtain rfl := outstanding.resolve_left fun h => Bool.false_ne_true (hready.1.2.symm.trans h.2)
          exact ⟨[.probe], rfl, .resting ⟨promoted.returned, promoted.unverified, promoted.completed, promoted.expected,
            promoted.settled⟩ initialized pending active (Or.inl ⟨rfl, rfl⟩), rfl, rfl, Or.inl ⟨rfl, rfl⟩⟩
        · exact ⟨_, still⟩
      | restoring promoted initialized pending revoked inactive outstanding =>
        have hpending : s.state.status.pendingSequence = some _ := pending
        rw [dispatchRestore_pending { s with ticking := false } hpending, hpending]
        split
        · exact ⟨_, still⟩
        · exact ⟨_, still⟩
      | settling settling outstanding =>
        rw [show s.expectedSettlement = some _ from settling.expected] at hexpected
        cases hexpected
      | settled settled =>
        rw [show s.state.status.cleanupVerified = true from settled.verified] at hunverified
        cases hunverified
  · exact ⟨_, still⟩

/-- The jobs that were sent are in stage with the supervisor, and what the worker reports as recorded is recorded. -/
structure Sound (s : Supervisor) : Prop where
  stage : ∃ answered, List.Forall₂ Answers answered s.returns ∧ s.control.Stage (answered ++ s.jobs)
  recorded : ∀ status, .settled (.ok status) ∈ s.returns → s.settled = some status

/-- The return of the worker answers its job. What it reports as recorded is recorded, and a record is not written again. -/
theorem workerReturn_cases (settled : Option CapturePreparationStatus) (job : Job) (outcome : WorkerOutcome) :
    Answers job (workerReturn settled job outcome).1 ∧
    ((workerReturn settled job outcome).2 = settled ∨
      settled = none ∧ ∃ e, job = .settle e ∧ (workerReturn settled job outcome).2 = some e) ∧
    ∀ e, (workerReturn settled job outcome).1 = .settled (.ok e) → (workerReturn settled job outcome).2 = some e := by
  unfold workerReturn
  split
  · exact ⟨.initialized _, Or.inl rfl, fun e h => (by cases h)⟩
  · exact ⟨.probed _, Or.inl rfl, fun e h => (by cases h)⟩
  · rename_i sequence kind receipt
    exact ⟨.mutated { receipt with sequence := sequence, kind := kind }, Or.inl rfl, fun e h => (by cases h)⟩
  · rename_i status
    split
    · exact ⟨.settled status, Or.inr ⟨rfl, status, rfl, rfl⟩, fun e h => (by cases h; rfl)⟩
    · rename_i written
      split
      · rename_i hsame
        subst hsame
        exact ⟨.settled written, Or.inl rfl, fun e h => (by cases h; rfl)⟩
      · exact ⟨.unsettled _ _, Or.inl rfl, fun e h => (by cases h)⟩
  · exact ⟨.unsettled _ _, Or.inl rfl, fun e h => (by cases h)⟩
  · exact ⟨.panicked _, Or.inl rfl, fun e h => (by cases h)⟩

theorem sound_start (id : List UInt8) (target : PreparationWindowIdentity) (deadlineMs : Nat) (journalPath : String) (instant : Nat) :
    (start id target deadlineMs journalPath instant).Sound where
  stage := ⟨[], .nil, .opening ⟨rfl, rfl, rfl, fun h => (by cases h), rfl, rfl, rfl⟩ rfl (Or.inl rfl)⟩
  recorded status h := by cases h

theorem sound_work {s : Supervisor} (h : s.Sound) (outcome : WorkerOutcome) : (s.work outcome).Sound := by
  unfold work
  split
  · exact h
  · rename_i job rest hjobs
    obtain ⟨answered, hanswers, hstage⟩ := h.stage
    obtain ⟨hanswer, hsettled, hrecorded⟩ := workerReturn_cases s.settled job outcome
    rw [hjobs] at hstage
    refine ⟨⟨answered ++ [job], List.rel_append hanswers (.cons hanswer .nil), ?_⟩, fun e he => ?_⟩
    · rw [List.append_assoc, List.singleton_append]
      rcases hsettled with hsame | ⟨-, e, rfl, hnew⟩
      · dsimp only [control]
        rw [hsame]
        exact hstage
      · dsimp only [control]
        rw [hnew]
        exact hstage.record (List.mem_append_right _ List.mem_cons_self)
    · rcases List.mem_append.mp he with hold | hnew
      · have hwritten := h.recorded e hold
        rcases hsettled with hsame | ⟨hnone, -⟩
        · exact hsame.trans hwritten
        · rw [hwritten] at hnone
          cases hnone
      · exact hrecorded e (List.mem_singleton.mp hnew).symm

theorem sound_receive {s : Supervisor} (h : s.Sound) (nowMs : Nat) {answer : WorkerReturn} {rest : List WorkerReturn}
    (hreturns : s.returns = answer :: rest) :
    ∃ sent, ({ s with returns := rest }.handle nowMs answer).Sound ∧ s.Counts ({ s with returns := rest }.handle nowMs answer) sent ∧
      ({ s with returns := rest }.handle nowMs answer).jobs = s.jobs ++ sent := by
  obtain ⟨answered, hanswers, hstage⟩ := h.stage
  rw [hreturns] at hanswers
  cases hanswers with
  | cons hanswer hanswers =>
    rename_i job answered
    have hadvances : ∃ sent, Advances { s with returns := rest } ({ s with returns := rest }.handle nowMs answer)
        (answered ++ s.jobs) sent := by
      cases hanswer with
      | panicked => exact advances_panicked { s with returns := rest } hstage nowMs
      | initialized result => exact advances_initialized { s with returns := rest } hstage nowMs result
      | mutated receipt => exact advances_mutated { s with returns := rest } receipt hstage nowMs
      | probed result => exact advances_probed { s with returns := rest } hstage nowMs result
      | settled e =>
        exact advances_settled { s with returns := rest } hstage nowMs (h.recorded e (by rw [hreturns]; exact List.mem_cons_self))
      | unsettled e error => exact advances_unsettled { s with returns := rest } hstage nowMs error
    obtain ⟨sent, advances⟩ := hadvances
    refine ⟨sent, ⟨⟨answered, by rw [advances.returns]; exact hanswers, ?_⟩, fun e he => ?_⟩, advances.counts, advances.jobs⟩
    · rw [advances.jobs, ← List.append_assoc]
      exact advances.stage
    · rw [advances.settled]
      rw [advances.returns] at he
      exact h.recorded e (by rw [hreturns]; exact List.mem_cons_of_mem _ he)

end Supervisor

open Supervisor

/-- What a call does, where it is not out of turn. -/
inductive Takes (s : Supervisor) : SupervisorInput → List Job × Supervisor → Prop where
  | idle (input : SupervisorInput) : Takes s input ([], s)
  | revoke (reason : PreparationFailure) (resting : s.ticking = false) : Takes s (.revoke reason) ([], s.revoke reason)
  | beginTick (nowMs : Nat) (resting : s.ticking = false) : Takes s (.beginTick nowMs) ([], s.beginTick nowMs)
  | receive {answer rest} (nowMs : Nat) (returns : s.returns = answer :: rest) : Takes s (.receive nowMs)
      (({ s with returns := rest }.handle nowMs answer).jobs.drop s.jobs.length, { s with returns := rest }.handle nowMs answer)
  | endTick (instant later : Nat) (returns : s.returns = []) :
    Takes s (.endTick instant later) ((s.endTick instant later).jobs.drop s.jobs.length, s.endTick instant later)
  | work (outcome : WorkerOutcome) : Takes s (.work outcome) ([], s.work outcome)

theorem step_takes (s : Supervisor) (input : SupervisorInput) : Takes s input (supervisorMachine.step s input) := by
  cases input with
  | revoke reason =>
    simp only [supervisorMachine]
    split
    · exact .idle _
    · exact .revoke reason (Bool.eq_false_iff.mpr ‹_›)
  | beginTick nowMs =>
    simp only [supervisorMachine]
    split
    · exact .idle _
    · exact .beginTick nowMs (Bool.eq_false_iff.mpr ‹_›)
  | receive nowMs =>
    simp only [supervisorMachine]
    split
    · rename_i hreturns
      exact .receive nowMs hreturns
    · exact .idle _
  | endTick instant later =>
    simp only [supervisorMachine]
    split
    · rename_i hreturns
      exact .endTick instant later hreturns
    · exact .idle _
  | work outcome => exact .work outcome

/-- One step keeps the stage, and sends the next mutation or none. -/
theorem sound_step {s : Supervisor} (h : s.Sound) (input : SupervisorInput) :
    (supervisorMachine.step s input).2.Sound ∧ s.Counts (supervisorMachine.step s input).2 (supervisorMachine.step s input).1 := by
  have htakes := step_takes s input
  generalize supervisorMachine.step s input = result at htakes ⊢
  obtain ⟨answered, hanswers, hstage⟩ := h.stage
  cases htakes with
  | idle => exact ⟨h, Or.inl ⟨rfl, rfl⟩⟩
  | revoke reason => exact ⟨⟨⟨answered, hanswers, hstage.revoke reason⟩, h.recorded⟩, Or.inl ⟨rfl, rfl⟩⟩
  | beginTick nowMs =>
    refine ⟨⟨⟨answered, hanswers, hstage.expire nowMs⟩, h.recorded⟩, Or.inl ⟨rfl, ?_⟩⟩
    change (s.control.withState (s.state.expire nowMs)).mutations = _
    unfold PreparationState.expire
    split
    · rfl
    · rfl
  | receive nowMs returns =>
    obtain ⟨sent, hsound, hcounts, hjobs⟩ := sound_receive h nowMs returns
    dsimp only
    rw [hjobs, List.drop_left]
    exact ⟨hsound, hcounts⟩
  | endTick instant later returns =>
    obtain ⟨sent, advances⟩ := advances_endTick s hstage instant later
    refine ⟨⟨⟨answered, by rw [advances.returns]; exact hanswers, ?_⟩, fun e he => ?_⟩, ?_⟩
    · dsimp only
      rw [advances.jobs, ← List.append_assoc]
      exact advances.stage
    · dsimp only at he ⊢
      rw [advances.settled]
      rw [advances.returns] at he
      exact h.recorded e he
    · dsimp only
      rw [advances.jobs, List.drop_left]
      exact advances.counts
  | work outcome =>
    refine ⟨sound_work h outcome, Or.inl ⟨rfl, ?_⟩⟩
    simp only [work]
    split
    · rfl
    · rfl

end CapturePreparation
end DccCua
