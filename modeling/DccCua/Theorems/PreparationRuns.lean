import DccCua.Theorems.CapturePreparation

/-! # What a capture preparation keeps to

The results are about every run from `start`: any order of revocations, ticks, returns and jobs, and any answer of the windows and
the journal. -/

namespace DccCua
namespace CapturePreparation

open Runs

/-! ### What is never undone -/

namespace PreparationState

structure Latched (s t : PreparationState) : Prop where
  revoked : s.status.captureRevoked = true → t.status.captureRevoked = true
  returned : s.promotionReturned = true → t.promotionReturned = true

theorem Latched.trans {s t u : PreparationState} (h : s.Latched t) (h' : t.Latched u) : s.Latched u :=
  ⟨h'.revoked ∘ h.revoked, h'.returned ∘ h.returned⟩

variable (s : PreparationState)

theorem latched_refl : s.Latched s := ⟨id, id⟩

theorem latched_revoke (reason : PreparationFailure) : s.Latched (s.revoke reason) := ⟨fun _ => rfl, id⟩

theorem latched_unknown (reason : PreparationFailure) : s.Latched (s.unknown reason) := ⟨fun _ => rfl, id⟩

theorem latched_expire (nowMs : Nat) : s.Latched (s.expire nowMs) := by
  unfold expire
  split
  · exact s.latched_revoke .expired
  · exact s.latched_refl

theorem latched_promotionCompleted (receipt : PreparationMutationReceipt) (nowMs : Nat) :
    s.Latched (s.promotionCompleted receipt nowMs) := by
  unfold promotionCompleted
  split
  · exact s.latched_unknown .protocolMismatch
  · dsimp only
    have returned : s.Latched { s with promotionReturned := true, status := { s.status with pendingSequence := none } } :=
      ⟨id, fun _ => rfl⟩
    have expired := returned.trans (latched_expire _ nowMs)
    split
    · exact expired.trans ⟨fun _ => rfl, id⟩
    · exact expired.trans ⟨id, id⟩

theorem latched_dispatchRestore : s.Latched s.dispatchRestore.2 := by
  unfold dispatchRestore
  split
  · exact s.latched_refl
  split
  · exact s.latched_unknown .protocolMismatch
  · exact ⟨id, id⟩

theorem latched_restoreCompleted (receipt : PreparationMutationReceipt) (verified : Bool) :
    s.Latched (s.restoreCompleted receipt verified) := by
  unfold restoreCompleted
  split
  · exact s.latched_unknown .protocolMismatch
  · dsimp only
    split
    · exact ⟨id, id⟩
    · exact ⟨fun _ => rfl, id⟩

theorem latched_persistedSettlement (expected actual : CapturePreparationStatus) :
    s.Latched (s.persistedSettlement expected actual).2 := by
  unfold persistedSettlement
  split
  · exact ⟨id, id⟩
  · exact s.latched_unknown .journalFailed

end PreparationState

namespace Supervisor

structure Latched (s t : Supervisor) : Prop where
  state : s.state.Latched t.state
  initialized : s.initialized = true → t.initialized = true
  early : s.revokedBeforeInitialization = true → t.revokedBeforeInitialization = true

theorem Latched.of_state {s t : Supervisor} (hstate : s.state.Latched t.state) (hinitialized : t.initialized = s.initialized)
    (hearly : t.revokedBeforeInitialization = s.revokedBeforeInitialization) : s.Latched t :=
  ⟨hstate, fun h => hinitialized.trans h, fun h => hearly.trans h⟩

variable (s : Supervisor)

theorem latched_refl : s.Latched s := ⟨s.state.latched_refl, id, id⟩

theorem latched_dispatchRestore : s.Latched s.dispatchRestore := by
  unfold dispatchRestore
  dsimp only
  split
  · exact .of_state s.state.latched_dispatchRestore rfl rfl
  · exact .of_state s.state.latched_dispatchRestore rfl rfl

theorem latched_handle (nowMs : Nat) (answer : WorkerReturn) : s.Latched (s.handle nowMs answer) := by
  cases answer with
  | initialized result =>
    cases result with
    | error error => exact ⟨⟨fun _ => rfl, id⟩, fun _ => rfl, id⟩
    | ok original =>
      simp only [handle]
      split
      · exact ⟨⟨fun _ => rfl, id⟩, fun _ => rfl, id⟩
      · exact ⟨⟨id, id⟩, fun _ => rfl, id⟩
  | mutated receipt =>
    simp only [handle]
    split
    · split
      · exact .of_state (s.state.latched_promotionCompleted receipt nowMs) rfl rfl
      · exact .of_state ((s.state.latched_revoke .readbackFailed).trans (PreparationState.latched_promotionCompleted _ receipt nowMs))
          rfl rfl
    · split
      · exact .of_state ((s.state.latched_restoreCompleted receipt _).trans ⟨id, id⟩) rfl rfl
      · exact .of_state (s.state.latched_restoreCompleted receipt _) rfl rfl
  | probed result =>
    cases result with
    | error error => exact .of_state s.state.latched_refl rfl rfl
    | ok states =>
      simp only [handle]
      split
      · have latched := latched_dispatchRestore { s with
          probing := false
          state := { s.state with status := { s.state.status with affectedReadback := states } } }
        exact ⟨⟨latched.state.revoked, latched.state.returned⟩, latched.initialized, latched.early⟩
      · exact .of_state s.state.latched_refl rfl rfl
  | panicked => exact .of_state (s.state.latched_unknown .workerLost) rfl rfl
  | settled result =>
    simp only [handle]
    split
    · exact .of_state (s.state.latched_unknown .journalFailed) rfl rfl
    · split
      · exact .of_state (s.state.latched_unknown .journalFailed) rfl rfl
      · exact .of_state (s.state.latched_persistedSettlement _ _) rfl rfl

theorem latched_endTick (instant later : Nat) : s.Latched (s.endTick instant later) := by
  unfold endTick
  dsimp only
  split
  · split
    · split
      · exact .of_state s.state.latched_refl rfl rfl
      · exact .of_state s.state.latched_refl rfl rfl
    · split
      · have latched := latched_dispatchRestore { s with ticking := false }
        exact ⟨latched.state, latched.initialized, latched.early⟩
      split
      · exact .of_state s.state.latched_refl rfl rfl
      · exact .of_state s.state.latched_refl rfl rfl
  · exact .of_state s.state.latched_refl rfl rfl

theorem latched_work (outcome : WorkerOutcome) : s.Latched (s.work outcome) := by
  unfold work
  split
  · exact s.latched_refl
  · exact .of_state s.state.latched_refl rfl rfl

end Supervisor

open Supervisor

theorem latched_step (s : Supervisor) (input : SupervisorInput) : s.Latched (supervisorMachine.step s input).2 := by
  have htakes := step_takes s input
  generalize supervisorMachine.step s input = result at htakes ⊢
  cases htakes with
  | idle => exact s.latched_refl
  | revoke reason => exact ⟨s.state.latched_revoke reason, id, fun h => (by simp [Supervisor.revoke, h])⟩
  | beginTick nowMs => exact ⟨s.state.latched_expire nowMs, id, fun h => (by simp [beginTick, h])⟩
  | receive nowMs returns =>
    rename_i answer rest
    have latched := latched_handle { s with returns := rest } nowMs answer
    exact ⟨latched.state, latched.initialized, latched.early⟩
  | endTick instant later => exact s.latched_endTick instant later
  | work outcome => exact s.latched_work outcome

/-! ### Why a mutation is sent -/

inductive MutationCause (s : Supervisor) : SupervisorInput → Prop where
  | initialized {nowMs original rest} (returned : s.returns = .initialized (.ok original) :: rest)
      (live : s.revokedBeforeInitialization = false) : MutationCause s (.receive nowMs)
  | probed {nowMs states rest} (returned : s.returns = .probed (.ok states) :: rest)
      (unmoved : geometryMatches s.state.status.original states = true) (promoted : s.state.promotionReturned = true) :
      MutationCause s (.receive nowMs)
  | pending {instant later} (phase : s.state.status.phase = .restorePending) (idle : s.state.status.pendingSequence = none)
      (promoted : s.state.promotionReturned = true) (unsettled : s.expectedSettlement = none) : MutationCause s (.endTick instant later)

namespace Supervisor

theorem dispatchRestore_jobs (s : Supervisor) :
    s.dispatchRestore.jobs = s.jobs ∨ s.state.promotionReturned = true ∧ s.state.status.pendingSequence = none := by
  unfold dispatchRestore PreparationState.dispatchRestore
  dsimp only
  split
  · split
    · rename_i h
      cases h
    · exact Or.inl rfl
  · rename_i hopen
    simp only [Bool.or_eq_true, Bool.not_eq_true', not_or, Bool.not_eq_false, Option.isSome_iff_ne_none, ne_eq, not_not] at hopen
    exact Or.inr ⟨hopen.1.1.1, hopen.1.1.2⟩

theorem sends_none {before after : List Job} (h : after = before) : (after.drop before.length).filterMap Job.mutation? = [] := by
  rw [h, List.drop_length]
  rfl

theorem sends_other {before after : List Job} {job : Job} (h : after = before ++ [job]) (hjob : job.mutation? = none) :
    (after.drop before.length).filterMap Job.mutation? = [] := by
  rw [h, List.drop_left, List.filterMap_cons, hjob]
  rfl

/-- Only the answers to `Initialize` and to a probe make the supervisor send a mutation. -/
theorem handle_cause (s : Supervisor) (nowMs : Nat) {answer : WorkerReturn} {rest : List WorkerReturn}
    (hreturns : s.returns = answer :: rest) :
    (({ s with returns := rest }.handle nowMs answer).jobs.drop s.jobs.length).filterMap Job.mutation? = [] ∨
      MutationCause s (.receive nowMs) := by
  cases answer with
  | initialized result =>
    cases result with
    | error error => exact Or.inl (sends_other rfl rfl)
    | ok original =>
      simp only [handle]
      split
      · exact Or.inl (sends_other rfl rfl)
      · rename_i hlive
        exact Or.inr (.initialized hreturns (Bool.eq_false_iff.mpr hlive))
  | mutated receipt =>
    simp only [handle]
    split
    · exact Or.inl (sends_none rfl)
    · split
      · exact Or.inl (sends_other rfl rfl)
      · exact Or.inl (sends_none rfl)
  | probed result =>
    cases result with
    | error error => exact Or.inl (sends_none rfl)
    | ok states =>
      simp only [handle]
      split
      · rename_i hunmoved
        rcases dispatchRestore_jobs { s with
            returns := rest
            probing := false
            state := { s.state with status := { s.state.status with affectedReadback := states } } } with hjobs | hpromoted
        · exact Or.inl (sends_none hjobs)
        · exact Or.inr (.probed hreturns hunmoved hpromoted.1)
      · exact Or.inl (sends_none rfl)
  | panicked => exact Or.inl (sends_none rfl)
  | settled result =>
    simp only [handle]
    split
    · exact Or.inl (sends_none rfl)
    · split
      · exact Or.inl (sends_none rfl)
      · exact Or.inl (sends_none rfl)

theorem endTick_cause (s : Supervisor) (instant later : Nat) :
    ((s.endTick instant later).jobs.drop s.jobs.length).filterMap Job.mutation? = [] ∨ MutationCause s (.endTick instant later) := by
  unfold endTick
  dsimp only
  split
  · split
    · split
      · exact Or.inl (sends_other rfl rfl)
      · exact Or.inl (sends_none rfl)
    · rename_i hexpected
      split
      · rename_i hphase
        rcases dispatchRestore_jobs { s with ticking := false } with hjobs | ⟨hpromoted, hidle⟩
        · exact Or.inl (sends_none hjobs)
        · exact Or.inr (.pending hphase hidle hpromoted hexpected)
      split
      · exact Or.inl (sends_other rfl rfl)
      · exact Or.inl (sends_none rfl)
  · exact Or.inl (sends_none rfl)

end Supervisor

theorem mutation_cause (s : Supervisor) (input : SupervisorInput) :
    (supervisorMachine.step s input).1.filterMap Job.mutation? = [] ∨ MutationCause s input := by
  have htakes := step_takes s input
  generalize supervisorMachine.step s input = result at htakes ⊢
  cases htakes with
  | idle => exact Or.inl rfl
  | revoke reason => exact Or.inl rfl
  | beginTick nowMs => exact Or.inl rfl
  | receive nowMs returns => exact handle_cause s nowMs returns
  | endTick instant later => exact endTick_cause s instant later
  | work outcome => exact Or.inl rfl

/-! ### Stages -/

namespace Control

variable {c : Control} {jobs : List Job}

theorem Stage.mutations_le (h : c.Stage jobs) : (jobs.filterMap Job.mutation?).length ≤ 1 := by
  cases h with
  | opening fresh initialized outstanding =>
    rcases outstanding with rfl | rfl
    · exact Nat.zero_le 1
    · exact Nat.zero_le 1
  | promoting fresh initialized outstanding =>
    rcases outstanding with rfl | rfl
    · exact Nat.le_refl 1
    · exact Nat.zero_le 1
  | resting promoted initialized pending active outstanding =>
    rcases outstanding with ⟨rfl, -⟩ | rfl
    · exact Nat.zero_le 1
    · exact Nat.zero_le 1
  | restoring promoted initialized pending revoked inactive outstanding =>
    rcases outstanding with rfl | rfl | rfl
    · exact Nat.le_refl 1
    · exact Nat.le_refl 1
    · exact Nat.zero_le 1
  | settling settling outstanding =>
    rcases outstanding with ⟨rfl, -⟩ | rfl
    · exact Nat.zero_le 1
    · exact Nat.zero_le 1
  | settled settled => exact Nat.zero_le 1

/-- A settlement is for the last of the mutations. -/
theorem mutations_settlement {e : CapturePreparationStatus} (h : Settlement c.state e) (hinitialized : c.initialized = true)
    (hpending : c.state.status.pendingSequence = none) :
    c.state.promotionReturned = false ∧ c.mutations = 0 ∨
      ∃ receipt, c.state.status.lastMutation = some receipt ∧ c.mutations = receipt.sequence ∧ 2 ≤ receipt.sequence ∧
        receipt.kind = .restore ∧ receipt.apiSuccess = true ∧ receipt.failure = none ∧
        restoredMatches c.state.status.original receipt.readback = true := by
  rcases h.outcome with ⟨hearly, hnone⟩ | ⟨-, receipt, hlast, hcompleted, hrest⟩
  · exact Or.inl ⟨hearly, by simp [mutations, hinitialized, hpending, hnone]⟩
  · exact Or.inr ⟨receipt, hlast, by simp [mutations, hinitialized, hpending, hcompleted], hrest⟩

theorem Stage.mutations_pos (h : c.Stage jobs) (hreturned : c.state.promotionReturned = true) : 0 < c.mutations := by
  have settlement {e : CapturePreparationStatus} (hsettlement : Settlement c.state e) (hinitialized : c.initialized = true)
      (hpending : c.state.status.pendingSequence = none) : 0 < c.mutations := by
    rcases mutations_settlement hsettlement hinitialized hpending with ⟨hearly, -⟩ | ⟨receipt, -, hmutations, hsequence, -⟩
    · rw [hreturned] at hearly
      cases hearly
    · omega
  cases h with
  | opening fresh initialized outstanding => exact absurd hreturned (by simp [fresh.returned])
  | promoting fresh initialized outstanding => exact absurd hreturned (by simp [fresh.returned])
  | resting promoted initialized pending active outstanding => simp [mutations, initialized, pending, promoted.completed]
  | restoring promoted initialized pending revoked inactive outstanding => simp [mutations, initialized, pending]
  | settling settling outstanding => exact settlement settling.settlement settling.initialized settling.pending
  | settled settled => exact settlement settled.settlement settled.initialized settled.pending

theorem Stage.of_uninitialized (h : c.Stage jobs) (hinitialized : c.initialized = false) :
    c.Fresh ∧ (jobs = [.initializeWorker] ∨ jobs = []) := by
  cases h with
  | opening fresh initialized outstanding => exact ⟨fresh, outstanding⟩
  | promoting fresh initialized outstanding => exact absurd initialized (by simp [hinitialized])
  | resting promoted initialized pending active outstanding => exact absurd initialized (by simp [hinitialized])
  | restoring promoted initialized pending revoked inactive outstanding => exact absurd initialized (by simp [hinitialized])
  | settling settling outstanding => exact absurd settling.initialized (by simp [hinitialized])
  | settled settled => exact absurd settled.initialized (by simp [hinitialized])

end Control

def WorkerReturn.receipt? : WorkerReturn → Option PreparationMutationReceipt
  | mutated receipt => some receipt
  | _ => none

theorem receipts_le {jobs : List Job} {returns : List WorkerReturn} (h : List.Forall₂ Answers jobs returns) :
    (returns.filterMap WorkerReturn.receipt?).length ≤ (jobs.filterMap Job.mutation?).length := by
  induction h with
  | nil => exact Nat.le_refl 0
  | cons hanswer _ ih =>
    cases hanswer with
    | panicked => exact Nat.le_trans ih ((List.sublist_cons_self _ _).filterMap Job.mutation?).length_le
    | mutated receipt => exact Nat.succ_le_succ ih
    | initialized result => exact ih
    | probed result => exact ih
    | settled status => exact ih
    | unsettled status error => exact ih

namespace Supervisor

/-- The mutations that are sent and not yet received back. -/
def mutationsOutstanding (s : Supervisor) : Nat :=
  (s.jobs.filterMap Job.mutation?).length + (s.returns.filterMap WorkerReturn.receipt?).length

theorem Sound.mutationsOutstanding_le {s : Supervisor} (h : s.Sound) : s.mutationsOutstanding ≤ 1 := by
  obtain ⟨answered, hanswers, hstage⟩ := h.stage
  have hle := hstage.mutations_le
  rw [List.filterMap_append, List.length_append] at hle
  have hreceipts := receipts_le hanswers
  unfold mutationsOutstanding
  omega

/-- The job that the next return answers. -/
theorem Sound.next {s : Supervisor} (h : s.Sound) {answer : WorkerReturn} {rest : List WorkerReturn}
    (hreturns : s.returns = answer :: rest) :
    ∃ job answered, Answers job answer ∧ List.Forall₂ Answers answered rest ∧ s.control.Stage (job :: (answered ++ s.jobs)) := by
  obtain ⟨answered, hanswers, hstage⟩ := h.stage
  rw [hreturns] at hanswers
  cases hanswers with
  | cons hanswer hanswers => exact ⟨_, _, hanswer, hanswers, hstage⟩

/-! ### A revocation before the worker has answered -/

/-- The capture is refused before the worker has answered: its answer will be met with no mutation, or none will come. -/
def Refused (s : Supervisor) : Prop :=
  s.revokedBeforeInitialization = true ∨ s.jobs = [] ∧ s.returns = []

theorem initialized_handle (s : Supervisor) (nowMs : Nat) (result : Except PreparationError (List PreparedWindowState)) :
    (s.handle nowMs (.initialized result)).initialized = true := by
  cases result with
  | error error => rfl
  | ok original =>
    simp only [handle]
    split
    · rfl
    · rfl

theorem endTick_uninitialized (s : Supervisor) (h : s.initialized = false) (instant later : Nat) :
    s.endTick instant later = { s with ticking := false } := by
  simp [endTick, h]

end Supervisor

theorem refused_step {s : Supervisor} (h : s.Refused) (hinitialized : s.initialized = false) (input : SupervisorInput) :
    (supervisorMachine.step s input).2.Refused := by
  rcases h with hearly | ⟨hjobs, hreturns⟩
  · exact Or.inl ((latched_step s input).early hearly)
  have htakes := step_takes s input
  generalize supervisorMachine.step s input = result at htakes ⊢
  cases htakes with
  | idle => exact Or.inr ⟨hjobs, hreturns⟩
  | revoke reason => exact Or.inr ⟨hjobs, hreturns⟩
  | beginTick nowMs => exact Or.inr ⟨hjobs, hreturns⟩
  | receive nowMs returns =>
    rw [hreturns] at returns
    cases returns
  | endTick instant later =>
    rw [endTick_uninitialized s hinitialized]
    exact Or.inr ⟨hjobs, hreturns⟩
  | work outcome =>
    unfold work
    rw [hjobs]
    exact Or.inr ⟨hjobs, hreturns⟩

/-- While the worker has not answered, a revoked capture is refused. -/
def Supervisor.Announced (s : Supervisor) : Prop :=
  s.state.status.captureRevoked = true → s.initialized = false → s.Refused

theorem announced_step {s : Supervisor} (hs : s.Sound) (h : s.Announced) (input : SupervisorInput) :
    (supervisorMachine.step s input).2.Announced := by
  intro hrevoked hnext
  have hinitialized : s.initialized = false := by
    rw [← Bool.not_eq_true]
    intro hinitialized
    rw [(latched_step s input).initialized hinitialized] at hnext
    cases hnext
  by_cases hbefore : s.state.status.captureRevoked = true
  · exact refused_step (h hbefore hinitialized) hinitialized input
  have htakes := step_takes s input
  generalize supervisorMachine.step s input = result at htakes hrevoked hnext ⊢
  cases htakes with
  | idle => exact absurd hrevoked hbefore
  | revoke reason => exact Or.inl (by simp [Supervisor.revoke, hinitialized])
  | beginTick nowMs => exact Or.inl (by simpa [beginTick, hinitialized] using Or.inr hrevoked)
  | receive nowMs returns =>
    obtain ⟨job, answered, hanswer, hanswers, hstage⟩ := hs.next returns
    obtain ⟨rfl, hempty⟩ := Control.rest_eq_nil (hstage.of_uninitialized hinitialized).2
    obtain ⟨rfl, hjobs⟩ := List.append_eq_nil_iff.mp hempty
    cases hanswers
    cases hanswer with
    | panicked => exact Or.inr ⟨hjobs, rfl⟩
    | initialized result =>
      rw [initialized_handle] at hnext
      cases hnext
  | endTick instant later =>
    rw [endTick_uninitialized s hinitialized] at hrevoked
    exact absurd hrevoked hbefore
  | work outcome =>
    simp only [work] at hrevoked
    split at hrevoked
    · exact absurd hrevoked hbefore
    · exact absurd hrevoked hbefore

/-- No mutation has been sent, and none will be. -/
structure Supervisor.Refusing (s : Supervisor) : Prop where
  mutations : s.control.mutations = 0
  early : s.state.promotionReturned = false
  refused : s.initialized = false → s.Refused

theorem refusing_silent {s : Supervisor} (hs : s.Sound) (h : s.Refusing) (input : SupervisorInput) :
    (supervisorMachine.step s input).1.filterMap Job.mutation? = [] := by
  refine (mutation_cause s input).resolve_right fun cause => ?_
  have unpromoted : ¬s.state.promotionReturned = true := by simp [h.early]
  cases cause with
  | initialized returned live =>
    obtain ⟨job, answered, hanswer, hanswers, hstage⟩ := hs.next returned
    cases hanswer
    have hinitialized : s.initialized = false := hstage.of_initializeWorker.2.1
    rcases h.refused hinitialized with hearly | ⟨-, hreturns⟩
    · rw [live] at hearly
      cases hearly
    · rw [returned] at hreturns
      cases hreturns
  | probed returned unmoved promoted => exact unpromoted promoted
  | pending phase idle promoted unsettled => exact unpromoted promoted

theorem refusing_step {s : Supervisor} (hs : s.Sound) (h : s.Refusing) (input : SupervisorInput) :
    (supervisorMachine.step s input).2.Refusing := by
  obtain ⟨hnext, hcounts⟩ := sound_step hs input
  have hmutations : (supervisorMachine.step s input).2.control.mutations = 0 := by
    rcases hcounts with ⟨-, hsame⟩ | ⟨hsent, -⟩
    · exact hsame.trans h.mutations
    · rw [refusing_silent hs h input] at hsent
      cases hsent
  refine ⟨hmutations, ?_, fun hinitialized => ?_⟩
  · rw [← Bool.not_eq_true]
    intro hreturned
    obtain ⟨answered, -, hstage⟩ := hnext.stage
    have := hstage.mutations_pos hreturned
    omega
  · refine refused_step (h.refused ?_) ?_ input
    all_goals
      rw [← Bool.not_eq_true]
      intro hbefore
      rw [(latched_step s input).initialized hbefore] at hinitialized
      cases hinitialized

/-! ### The cleanup -/

/-- Where the cleanup is verified, nothing is left to be done, and what is reported has been recorded. -/
structure Supervisor.Cleaned (s : Supervisor) (sent : List (Nat × PreparationMutationKind)) : Prop where
  idle : s.jobs = [] ∧ s.returns = []
  recorded : ∃ e, s.settled = some e ∧ s.state.status = { e with failure := s.state.status.failure }
  reported : s.state.status.captureRevoked = true ∧ s.state.status.pendingSequence = none ∧
    (s.state.status.phase = .restored ∨ s.state.status.phase = .refused)
  restored : sent = [] ∨ ∃ receipt, s.state.status.lastMutation = some receipt ∧
    sent.getLast? = some (receipt.sequence, .restore) ∧ receipt.apiSuccess = true ∧ receipt.failure = none ∧
      restoredMatches s.state.status.original receipt.readback = true

/-- Nothing is outstanding once the cleanup is verified. -/
theorem Supervisor.Sound.settled {s : Supervisor} (h : s.Sound) (hverified : s.state.status.cleanupVerified = true) :
    s.jobs = [] ∧ s.returns = [] ∧ ∃ e, s.control.Settled e := by
  obtain ⟨answered, hanswers, hstage⟩ := h.stage
  have verified : ¬s.state.status.cleanupVerified = false := by simp [hverified]
  generalize hjobs : answered ++ s.jobs = jobs at hstage
  cases hstage with
  | opening fresh initialized outstanding => exact absurd fresh.unverified verified
  | promoting fresh initialized outstanding => exact absurd fresh.unverified verified
  | resting promoted initialized pending active outstanding => exact absurd promoted.unverified verified
  | restoring promoted initialized pending revoked inactive outstanding => exact absurd promoted.unverified verified
  | settling settling outstanding => exact absurd settling.unverified verified
  | settled settled =>
    obtain ⟨rfl, hidle⟩ := List.append_eq_nil_iff.mp hjobs
    exact ⟨hidle, List.forall₂_nil_left_iff.mp hanswers, _, settled⟩

theorem verified_step {s : Supervisor} (hs : s.Sound) (hverified : s.state.status.cleanupVerified = true) (input : SupervisorInput) :
    (supervisorMachine.step s input).2.state.status.cleanupVerified = true ∧ (supervisorMachine.step s input).1 = [] := by
  obtain ⟨hjobs, hreturns, -⟩ := hs.settled hverified
  have htakes := step_takes s input
  generalize supervisorMachine.step s input = result at htakes ⊢
  cases htakes with
  | idle => exact ⟨hverified, rfl⟩
  | revoke reason => exact ⟨hverified, rfl⟩
  | beginTick nowMs =>
    refine ⟨?_, rfl⟩
    simp only [beginTick, PreparationState.expire]
    split
    · exact hverified
    · exact hverified
  | receive nowMs returns =>
    rw [hreturns] at returns
    cases returns
  | endTick instant later =>
    have hsame : s.endTick instant later = { s with ticking := false } := by simp [endTick, hverified]
    rw [hsame]
    exact ⟨hverified, List.drop_length⟩
  | work outcome =>
    unfold work
    rw [hjobs]
    exact ⟨hverified, rfl⟩

theorem Settlement.record {s : PreparationState} {e : CapturePreparationStatus} (h : Settlement s e)
    (hpending : s.status.pendingSequence = none) (hrevoked : s.status.captureRevoked = true)
    (hverified : s.status.cleanupVerified = true) (hphase : s.status.phase = e.phase) :
    s.status = { e with failure := s.status.failure } ∧ (s.status.phase = .restored ∨ s.status.phase = .refused) := by
  have hsame := h.same
  simp only [PreparationState.settles, Bool.and_eq_true, Bool.or_eq_true, decide_eq_true_eq, Option.isNone_iff_eq_none] at hsame
  obtain ⟨⟨⟨⟨⟨⟨⟨⟨⟨⟨⟨-, hverified'⟩, hrevoked'⟩, hphase'⟩, hpending'⟩, hid⟩, horiginal⟩, hlast⟩, hdeadline⟩, hpath⟩, hreadback⟩,
    hcompleted⟩ := hsame
  refine ⟨?_, by rwa [hphase]⟩
  rcases s with ⟨⟨⟩, _⟩
  rcases e with ⟨⟩
  simp_all

theorem Supervisor.Sound.cleaned {s : Supervisor} (h : s.Sound) (hverified : s.state.status.cleanupVerified = true) :
    s.Cleaned ((List.range s.control.mutations).map mutationAt) := by
  obtain ⟨hjobs, hreturns, e, settled⟩ := h.settled hverified
  obtain ⟨hrecord, hphase⟩ := settled.settlement.record settled.pending settled.revoked settled.verified settled.phase
  refine ⟨⟨hjobs, hreturns⟩, ⟨e, settled.settled, hrecord⟩, ⟨settled.revoked, settled.pending, hphase⟩, ?_⟩
  rcases Control.mutations_settlement settled.settlement settled.initialized settled.pending with
    ⟨-, hmutations⟩ | ⟨receipt, hlast, hmutations, hsequence, -, hsuccess, hfailure, hmatches⟩
  · rw [hmutations]
    exact Or.inl rfl
  · refine Or.inr ⟨receipt, hlast, ?_, hsuccess, hfailure, hmatches⟩
    obtain ⟨n, hn⟩ := Nat.exists_eq_add_of_le' hsequence
    rw [hmutations, hn, List.range_succ, List.map_append, List.map_singleton, List.getLast?_concat]
    rfl

/-- While the preparation is active, the promotion left the windows as they were, and nothing else has been sent. -/
theorem Supervisor.Sound.active {s : Supervisor} (h : s.Sound) (hactive : s.state.status.phase = .active) :
    s.state.status.captureRevoked = false ∧ s.control.Exact := by
  obtain ⟨answered, -, hstage⟩ := h.stage
  generalize answered ++ s.jobs = jobs at hstage
  cases hstage with
  | opening fresh initialized outstanding => exact absurd hactive fresh.inactive
  | promoting fresh initialized outstanding => exact absurd hactive fresh.inactive
  | resting promoted initialized pending active outstanding => exact active hactive
  | restoring promoted initialized pending revoked inactive outstanding => exact absurd hactive inactive
  | settling settling outstanding => exact absurd hactive settling.inactive
  | settled settled =>
    have hphase := (settled.settlement.record settled.pending settled.revoked settled.verified settled.phase).2
    rw [show s.control.state.status.phase = .active from hactive] at hphase
    rcases hphase with h | h <;> cases h

/-! ### The gate of a probe -/

namespace Supervisor

end Supervisor

/-- A restore can be sent, once the phase allows it. -/
structure Supervisor.Idle (s : Supervisor) (k : Nat) : Prop where
  promoted : s.state.promotionReturned = true
  initialized : s.initialized = true
  unverified : s.state.status.cleanupVerified = false
  unsettled : s.expectedSettlement = none
  pending : s.state.status.pendingSequence = none
  completed : s.state.status.lastCompletedSequence = some k
  more : k < PreparationState.maxSequence
  returns : s.returns = []

/-- A state in which the end of a tick sends a restore. -/
structure Supervisor.Ready (s : Supervisor) (k : Nat) : Prop where
  idle : s.Idle k
  revoked : s.state.status.captureRevoked = true
  phase : s.state.status.phase = .restorePending

theorem Supervisor.Sound.idle {s : Supervisor} (hs : s.Sound) (hpromoted : s.state.promotionReturned = true)
    (hunknown : s.state.status.phase = .cleanupUnknown) (hunsettled : s.expectedSettlement = none)
    (hpending : s.state.status.pendingSequence = none) (hreturns : s.returns = []) {k : Nat}
    (hcompleted : s.state.status.lastCompletedSequence = some k) (hmore : k < PreparationState.maxSequence) : s.Idle k := by
  obtain ⟨answered, -, hstage⟩ := hs.stage
  generalize answered ++ s.jobs = jobs at hstage
  have promoted : ¬s.control.state.promotionReturned = false := by simpa [Supervisor.control] using hpromoted
  cases hstage with
  | opening fresh initialized outstanding => exact absurd fresh.returned promoted
  | promoting fresh initialized outstanding => exact absurd fresh.returned promoted
  | resting resting initialized pending active outstanding =>
    exact ⟨hpromoted, initialized, resting.unverified, hunsettled, hpending, hcompleted, hmore, hreturns⟩
  | restoring _ initialized pending revoked inactive outstanding =>
    rw [show s.control.state.status.pendingSequence = none from hpending] at pending
    cases pending
  | settling settling outstanding =>
    have hexpected := settling.expected
    rw [show s.control.expected = none from hunsettled] at hexpected
    cases hexpected
  | settled settled =>
    have hphase := (settled.settlement.record settled.pending settled.revoked settled.verified settled.phase).2
    rw [show s.control.state.status.phase = .cleanupUnknown from hunknown] at hphase
    rcases hphase with h | h <;> cases h

theorem Supervisor.Idle.revoke {s : Supervisor} {k : Nat} (h : s.Idle k) (reason : PreparationFailure) {t : Supervisor}
    (hstate : t.state = s.state.revoke reason) (hinitialized : t.initialized = s.initialized)
    (hexpected : t.expectedSettlement = s.expectedSettlement) (hreturns : t.returns = s.returns) : t.Ready k := by
  refine ⟨⟨?_, hinitialized.trans h.initialized, ?_, hexpected.trans h.unsettled, ?_, ?_, h.more, hreturns.trans h.returns⟩, ?_, ?_⟩
  all_goals rw [hstate]
  · exact h.promoted
  · exact h.unverified
  · exact h.pending
  · exact h.completed
  · rfl
  · simp [PreparationState.revoke, h.promoted, h.pending, h.unverified]

/-- The mutations that the calls send to the worker. -/
def mutationsSent (calls : List (Call Supervisor SupervisorInput (List Job))) : List (Nat × PreparationMutationKind) :=
  calls.flatMap fun call => call.output.filterMap Job.mutation?

theorem Supervisor.Ready.beginTick {s : Supervisor} {k : Nat} (h : s.Ready k) (nowMs : Nat) : (s.beginTick nowMs).Ready k := by
  by_cases hexpired : s.state.status.deadlineMs ≤ nowMs
  · exact h.idle.revoke .expired (t := s.beginTick nowMs) (if_pos hexpired) rfl rfl rfl
  · have hsame : s.state.expire nowMs = s.state := if_neg hexpired
    unfold Supervisor.beginTick
    rw [hsame]
    exact ⟨⟨h.idle.promoted, h.idle.initialized, h.idle.unverified, h.idle.unsettled, h.idle.pending, h.idle.completed, h.idle.more,
      h.idle.returns⟩, h.revoked, h.phase⟩

section
variable (id : List UInt8) (target : PreparationWindowIdentity) (deadlineMs : Nat) (journalPath : String) (instant : Nat)
  (inputs : List SupervisorInput)

theorem sound_final : (supervisorMachine.final (start id target deadlineMs journalPath instant) inputs).Sound :=
  Machine.inv_final (I := Supervisor.Sound) (fun _ i h => (sound_step h i).1) inputs
    (sound_start id target deadlineMs journalPath instant)

theorem mutationsSent_run : mutationsSent (supervisorMachine.trace (start id target deadlineMs journalPath instant) inputs) =
    (List.range (supervisorMachine.final (start id target deadlineMs journalPath instant) inputs).control.mutations).map
      mutationAt := by
  refine (Machine.inv_history (fun s past => s.Sound ∧ mutationsSent past = (List.range s.control.mutations).map mutationAt)
    (fun _ => True) (fun s input past h _ => ?_) ⟨sound_start id target deadlineMs journalPath instant, rfl⟩ inputs
    fun _ _ => trivial).2
  obtain ⟨hs, hpast⟩ := h
  obtain ⟨hnext, hcounts⟩ := sound_step hs input
  refine ⟨hnext, ?_⟩
  have happend : mutationsSent (past ++ [supervisorMachine.call s input]) =
      mutationsSent past ++ (supervisorMachine.step s input).1.filterMap Job.mutation? := by
    simp [mutationsSent]
  rw [happend, hpast]
  rcases hcounts with ⟨hsent, hsame⟩ | ⟨hsent, hmore⟩
  · rw [hsent, hsame, List.append_nil]
  · rw [hsent, hmore, List.range_succ, List.map_append]
    rfl

/-- A run promotes once and then restores, each mutation with the next sequence, and never has two mutations outstanding. Where the
    capture is revoked before the worker has answered `Initialize`, no mutation is ever sent. -/
theorem mutations_in_order :
    (∃ n, mutationsSent (supervisorMachine.trace (start id target deadlineMs journalPath instant) inputs) =
      (List.range n).map mutationAt) ∧
    (supervisorMachine.final (start id target deadlineMs journalPath instant) inputs).mutationsOutstanding ≤ 1 ∧
    (supervisorMachine.trace (start id target deadlineMs journalPath instant) inputs).Pairwise fun a b =>
      a.after.state.status.captureRevoked = true ∧ a.after.initialized = false → b.output.filterMap Job.mutation? = [] := by
  refine ⟨⟨_, mutationsSent_run id target deadlineMs journalPath instant inputs⟩,
    (sound_final id target deadlineMs journalPath instant inputs).mutationsOutstanding_le, ?_⟩
  have never := Machine.never_after (m := supervisorMachine) (I := fun s => s.Sound ∧ s.Announced) (P := Supervisor.Refusing)
    (A := fun a => a.after.state.status.captureRevoked = true ∧ a.after.initialized = false)
    (B := fun b => b.output.filterMap Job.mutation? ≠ [])
    (fun s i h => ⟨(sound_step h.1 i).1, announced_step h.1 h.2 i⟩)
    (fun s i h ha => ?_) (fun s i h hp => refusing_step h.1 hp i)
    (fun s i h hp hb => hb (refusing_silent h.1 hp i)) inputs
    (s := start id target deadlineMs journalPath instant)
    ⟨sound_start id target deadlineMs journalPath instant, fun h => (by cases h)⟩
  · exact never.imp fun h ha => not_not.mp (h ha)
  · obtain ⟨hrevoked, hinitialized⟩ := ha
    have hnext := (sound_step h.1 i).1
    obtain ⟨answered, -, hstage⟩ := hnext.stage
    have hfresh := (hstage.of_uninitialized hinitialized).1
    refine ⟨?_, hfresh.returned, announced_step h.1 h.2 i hrevoked⟩
    simp only [Machine.call_after] at hinitialized
    simp [Control.mutations, Supervisor.control, hinitialized]

/-- A revoked capture stays revoked, and the preparation is active only before. The cleanup is reported verified only where it is
    done and recorded; it stays so, and nothing is sent to the worker any more. -/
theorem cleanup_contract :
    ((supervisorMachine.trace (start id target deadlineMs journalPath instant) inputs).Pairwise fun a b =>
      a.after.state.status.captureRevoked = true → b.after.state.status.captureRevoked = true) ∧
    ((supervisorMachine.final (start id target deadlineMs journalPath instant) inputs).state.status.phase = .active →
      (supervisorMachine.final (start id target deadlineMs journalPath instant) inputs).state.status.captureRevoked = false ∧
      (supervisorMachine.final (start id target deadlineMs journalPath instant) inputs).control.Exact) ∧
    ((supervisorMachine.final (start id target deadlineMs journalPath instant) inputs).state.status.cleanupVerified = true →
      (supervisorMachine.final (start id target deadlineMs journalPath instant) inputs).Cleaned
        (mutationsSent (supervisorMachine.trace (start id target deadlineMs journalPath instant) inputs))) ∧
    ((supervisorMachine.trace (start id target deadlineMs journalPath instant) inputs).Pairwise fun a b =>
      a.after.state.status.cleanupVerified = true → b.after.state.status.cleanupVerified = true ∧ b.output = []) := by
  have hfinal := sound_final id target deadlineMs journalPath instant inputs
  refine ⟨?_, hfinal.active, fun hverified => ?_, ?_⟩
  · have never := Machine.never_after (m := supervisorMachine) (I := fun _ => True)
      (P := fun s => s.state.status.captureRevoked = true) (A := fun a => a.after.state.status.captureRevoked = true)
      (B := fun b => ¬b.after.state.status.captureRevoked = true)
      (fun _ _ _ => trivial) (fun _ _ _ ha => ha) (fun s i _ hp => (latched_step s i).state.revoked hp)
      (fun s i _ hp hb => hb ((latched_step s i).state.revoked hp)) inputs
      (s := start id target deadlineMs journalPath instant) trivial
    exact never.imp fun h ha => not_not.mp (h ha)
  · rw [mutationsSent_run]
    exact hfinal.cleaned hverified
  · have never := Machine.never_after (m := supervisorMachine) (I := Supervisor.Sound)
      (P := fun s => s.state.status.cleanupVerified = true) (A := fun a => a.after.state.status.cleanupVerified = true)
      (B := fun b => ¬(b.after.state.status.cleanupVerified = true ∧ b.output = []))
      (fun _ i h => (sound_step h i).1) (fun _ _ _ ha => ha) (fun s i h hp => (verified_step h hp i).1)
      (fun s i h hp hb => hb (verified_step h hp i)) inputs
      (s := start id target deadlineMs journalPath instant) (sound_start id target deadlineMs journalPath instant)
    exact never.imp fun h ha => not_not.mp (h ha)

end

/-! A promotion whose readback does not show the target, and a restore that fails. -/

def sampleTarget : PreparationWindowIdentity := ⟨40, 7, ⟨1, 2, 3, 0⟩, ⟨"C:/app.exe", 5, []⟩⟩

end CapturePreparation
end DccCua
