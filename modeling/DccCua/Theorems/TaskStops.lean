import DccCua.Theorems.TaskSafety

/-! # Stopping a task

A task that the connection still holds is stopped exactly when it has been stopped before or the broker still keeps
the record of its lease. The broker drops the records that have expired when another lease is issued, the connection
keeps a task as long as its session is open: a task that has expired can no longer be stopped once another one has
started. -/

namespace DccCua

open Runs Checks Script

namespace TaskStep

/-- `stop_task` of the task `id` has been answered; the connection held the task as `proposal`. -/
structure AnswersStop (c : TaskStep) (id : String) (proposal : TaskProposal) : Prop where
  request : ∃ call, c.input = .call call ∧ call.request = .stopTask id
  held : c.before.task? id = some proposal
  answered : c.output.isSome = true

/-- The task is left revoked, and the session that it had was handed to its cleanup. -/
def LeavesStopped (c : TaskStep) (id : String) (proposal : TaskProposal) : Prop :=
  ∃ stopped, c.after.task? id = some stopped ∧ stopped.revoked = true ∧ stopped.session = none ∧
    (proposal.session.isSome = true →
      ∃ later, stopped.history = later ++ proposal.history ∧ .stopRequested ∈ later)

end TaskStep

namespace TaskServer
variable {env : Env} {uuid newUuid : Nat → String} {server : TaskServer}

theorem StopAnswer.leavesStopped {start : TaskServer} {id : String} {proposal : TaskProposal} {payload : TaskPayload}
    (h : StopAnswer env uuid newUuid start id proposal payload server) :
    ∃ stopped, server.task? id = some stopped ∧ stopped.revoked = true ∧ stopped.session = none ∧
      (proposal.session.isSome = true → ∃ later, stopped.history = later ++ proposal.history ∧ .stopRequested ∈ later) := by
  obtain ⟨-, stopped, hat, hstops, -⟩ := h
  obtain ⟨later, hhistory, hhanded⟩ := hstops.handed
  exact ⟨stopped, hat.2, hstops.revoked, hstops.session, fun hsome => ⟨later, hhistory, hhanded hsome⟩⟩

/-- Stopping fails only where nothing has been done. -/
theorem step_leavesStopped_iff (huuid : Function.Injective uuid) (hnew : Function.Injective newUuid)
    (hinv : server.Inv uuid newUuid) (env : Env) (input : TaskInput) {id : String} {proposal : TaskProposal}
    (h : TaskStep.AnswersStop ((taskServer env uuid newUuid).call server input) id proposal) :
    TaskStep.LeavesStopped ((taskServer env uuid newUuid).call server input) id proposal ↔
      proposal.revoked = true ∨ server.Registered proposal := by
  obtain ⟨⟨call, hinput, hrequest⟩, hheld, hanswered⟩ := h
  obtain rfl : input = .call call := hinput
  have hran := triple_revokeTask (t := call.first) env huuid hnew hinv ⟨.refl, hheld⟩ server call.script rfl
  unfold TaskStep.LeavesStopped
  simp only [Machine.call_output, Machine.call_after, taskServer, hrequest, serve, output, Prog.tryThen, Prog.andThen]
    at hanswered ⊢
  cases hrun : revokeTask env uuid id call.first server call.script with
  | cut next =>
    rw [hrun] at hanswered
    cases hanswered
  | done result next rest =>
    rw [hrun] at hran
    cases result with
    | ok payload => exact iff_of_true hran.2.leavesStopped hran.1
    | error e =>
      obtain ⟨rfl, -, hopen, habsent⟩ := hran
      refine iff_of_false ?_ ?_
      · rintro ⟨stopped, htask, hrevoked, -⟩
        obtain rfl := Option.some.inj (hheld.symm.trans htask)
        rw [hopen] at hrevoked
        cases hrevoked
      · rintro (hrevoked | hpresent)
        · rw [hopen] at hrevoked
          cases hrevoked
        · exact habsent hpresent

end TaskServer

/-- In every run, stopping a task that the connection holds leaves it stopped exactly when it was stopped before or
    the broker keeps the record of its lease. -/
theorem stop_task_leaves_stopped_iff (env : Env) {uuid newUuid : Nat → String} (huuid : Function.Injective uuid)
    (hnew : Function.Injective newUuid) (brokerDrawn drawn : Nat) (inputs : List TaskInput) :
    ∀ c ∈ (taskServer env uuid newUuid).trace (TaskServer.initial brokerDrawn drawn) inputs, ∀ id proposal,
      TaskStep.AnswersStop c id proposal →
        (TaskStep.LeavesStopped c id proposal ↔ proposal.revoked = true ∨ c.before.Registered proposal) := by
  intro c hc id proposal h
  have hinit : (TaskServer.initial brokerDrawn drawn).Inv uuid newUuid := TaskServer.initial_inv brokerDrawn drawn
  have keep : ∀ s i, s.Inv uuid newUuid → ((taskServer env uuid newUuid).step s i).2.Inv uuid newUuid :=
    fun s i hinv => TaskServer.step_inv huuid hnew hinv env i
  have hinv := Machine.inv_before keep hinit hc
  rw [Machine.eq_call_of_mem hc] at h ⊢
  exact TaskServer.step_leavesStopped_iff huuid hnew hinv env c.input h

/-! ### A task that has expired -/

namespace TaskSample

/-- The first task expires, another one is started, and the first one is stopped. -/
def expiredStop : List TaskInput :=
  [call 1000 0 (.startTask input), call 70000 2 (.startTask input), call 71000 0 (.stopTask (taskId 0))]

/-- The step is a stop of the first task, is answered with an error, and leaves the session of the task open. -/
def refusesStop (c : TaskStep) : Bool :=
  (match c.input with
    | .call call => call.request = .stopTask (taskId 0)
    | .host _ => false) &&
  (match c.output with
    | some (.error _) => true
    | _ => false) &&
  (c.before.task? (taskId 0)).isSome &&
  (c.after.task? (taskId 0)).all fun proposal => !proposal.revoked && proposal.session.isSome

end TaskSample

theorem stop_task_leaves_stopped_iff_run :
    ((TaskSample.server.trace (TaskServer.initial 0 0)
        [TaskSample.call 1000 0 (.startTask TaskSample.input), TaskSample.call 2000 0 (.stopTask (TaskSample.taskId 0))]).map
      fun c => (c.after.task? (TaskSample.taskId 0)).map fun proposal => (proposal.revoked, proposal.session.isSome)) =
        [some (false, true), some (true, false)] ∧
    ∀ c ∈ TaskSample.server.trace (TaskServer.initial 0 0)
        [TaskSample.call 1000 0 (.startTask TaskSample.input), TaskSample.call 2000 0 (.stopTask (TaskSample.taskId 0))],
      ∀ id proposal, TaskStep.AnswersStop c id proposal →
        (TaskStep.LeavesStopped c id proposal ↔ proposal.revoked = true ∨ c.before.Registered proposal) :=
  ⟨by decide,
    stop_task_leaves_stopped_iff BrokerSample.env BrokerSample.uuid_injective BrokerSample.uuid_injective 0 0 _⟩

/-- The task that has expired is not stopped, and its session stays open. -/
theorem expired_task_not_stopped : ∃ c ∈ TaskSample.server.trace (TaskServer.initial 0 0) TaskSample.expiredStop,
    ∃ proposal, TaskStep.AnswersStop c (TaskSample.taskId 0) proposal ∧ ¬TaskStep.LeavesStopped c (TaskSample.taskId 0) proposal := by
  obtain ⟨c, hc, hrefuses⟩ : ∃ c ∈ TaskSample.server.trace (TaskServer.initial 0 0) TaskSample.expiredStop,
      TaskSample.refusesStop c = true := by decide +kernel
  simp only [TaskSample.refusesStop, Bool.and_eq_true] at hrefuses
  obtain ⟨⟨⟨hrequest, herror⟩, hheld⟩, hopen⟩ := hrefuses
  obtain ⟨proposal, hproposal⟩ := Option.isSome_iff_exists.mp hheld
  refine ⟨c, hc, proposal, ⟨?_, hproposal, ?_⟩, ?_⟩
  · split at hrequest
    · rename_i call hinput
      exact ⟨call, hinput, of_decide_eq_true hrequest⟩
    · cases hrequest
  · split at herror
    · rename_i houtput
      rw [houtput]
      rfl
    · cases herror
  · rintro ⟨stopped, htask, hrevoked, -⟩
    simp only [htask, Option.all_some, hrevoked, Bool.not_true, Bool.false_and, Bool.false_eq_true] at hopen

end DccCua
