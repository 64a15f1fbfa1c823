import DccCua.Theorems.TaskRequests

/-! # Stopped tasks

A task is reported as stopped only when nothing of it is left: its leases have been revoked, and what was opened or
spawned for it has ended cleanly. And no call is forwarded to a task that was stopped or paused. -/

namespace DccCua

open Runs Checks Script

/-- A request of a run, or what a Host asks between two requests. -/
abbrev TaskStep := Call TaskServer TaskInput (Option (Except TaskError TaskOutput))

namespace TaskStep

/-- The payloads that the answer shows. -/
def reports (c : TaskStep) : List TaskPayload := (c.output.map answerReports).getD []

/-- `stop_task` has answered that the task is stopped, or what is left to do. -/
def Stops (c : TaskStep) (id : String) : Prop :=
  ∃ call payload, c.input = .call call ∧ call.request = .stopTask id ∧ c.output = some (.ok (.payload payload))

/-- `require_user_action` has paused the task. -/
def Pauses (c : TaskStep) (id : String) : Prop :=
  ∃ call reason payload, c.input = .call call ∧ call.request = .requireUserAction id reason ∧
    c.output = some (.ok (.payload payload))

/-- A call was forwarded to the Host session of the task. -/
def Forwards (c : TaskStep) (id : String) : Prop :=
  ∃ proposal, c.after.task? id = some proposal ∧ (c.before.task? id).elim 0 (·.forwards) < proposal.forwards

end TaskStep

/-- Nothing of the task is left: every lease that was issued for it has been revoked at the broker and has ended
    there, every session that was opened or attempted has been acknowledged as stopped, and every Host connection
    that was spawned has ended with success. -/
structure TaskProposal.Over (uuid : Nat → String) (broker : BrokerState) (proposal : TaskProposal) : Prop where
  revoked : ∀ authorizationId, .issued authorizationId ∈ proposal.history →
    .leaseRevoked authorizationId ∈ proposal.history ∧ BrokerState.EndedIn uuid broker authorizationId
  settled : ∀ later e earlier, proposal.history = later ++ e :: earlier → e.waits = true →
    ∃ answer ∈ later, TaskEvent.settles answer e = true

theorem TaskProposal.Sound.over {uuid : Nat → String} {broker : BrokerState} {proposal : TaskProposal}
    (h : proposal.Sound uuid broker) (hrevoked : proposal.revoked = true)
    (hstopped : stoppedTaskStatus proposal.cleanup = .stopped) : proposal.Over uuid broker where
  revoked := fun authorizationId hissued => (h.issued authorizationId hissued).resolve_right fun hopen => by
    rw [hopen.1] at hrevoked
    cases hrevoked
  settled := TaskEvent.settled_of_outstanding (h.settled hstopped)

namespace TaskServer
variable {env : Env} {uuid newUuid : Nat → String} {server : TaskServer}

section Steps
variable (huuid : Function.Injective uuid) (hnew : Function.Injective newUuid) (hinv : server.Inv uuid newUuid)
include huuid hnew hinv

/-- One step of a run is a sequence of moves, and what it reports is true where it ends. -/
theorem step_reach (env : Env) (input : TaskInput) :
    Reach env uuid newUuid server server ((taskServer env uuid newUuid).step server input).2 ∧
      ∀ payload ∈ TaskStep.reports ((taskServer env uuid newUuid).call server input),
        ((taskServer env uuid newUuid).step server input).2.Reported payload := by
  cases input with
  | host call => exact ⟨.single (.host server call), fun payload hmem => by cases hmem⟩
  | call call =>
    have hran := triple_serve huuid hnew hinv env call.first call.request server call.script rfl
    unfold TaskStep.reports
    simp only [Machine.call_output, taskServer]
    cases hserve : serve env uuid newUuid call.first call.request server call.script with
    | done result next rest =>
      rw [hserve] at hran
      exact hran
    | cut next =>
      rw [hserve] at hran
      exact ⟨hran, fun payload hmem => by cases hmem⟩

theorem step_inv (env : Env) (input : TaskInput) : ((taskServer env uuid newUuid).step server input).2.Inv uuid newUuid :=
  Reach.inv huuid hnew (step_reach huuid hnew hinv env input).1 hinv

end Steps

/-- `id` names a task that was stopped or paused. -/
def ClosedTask (newUuid : Nat → String) (id : String) (server : TaskServer) : Prop :=
  (∃ k < server.drawn, id = "task-" ++ newUuid k) ∧ ∀ proposal, server.task? id = some proposal → proposal.Closed

theorem ClosedTask.silent {id : String} (h : ClosedTask newUuid id server) :
    Silent newUuid id ((server.task? id).elim 0 (·.forwards)) server where
  drawn := h.1
  closed := fun proposal htask => ⟨h.2 proposal htask, by rw [htask]; exact Nat.le_refl _⟩

theorem ClosedTask.not_usable {id : String} (h : ClosedTask newUuid id server) : ¬Usable server id := by
  rintro ⟨proposal, htask, hopen, hpaused⟩
  rcases h.2 proposal htask with hrevoked | hsome
  · rw [hopen] at hrevoked
    cases hrevoked
  · rw [hpaused] at hsome
    cases hsome

section Closing
variable (huuid : Function.Injective uuid) (hnew : Function.Injective newUuid)
include huuid hnew

/-- A closed task stays closed, and no step forwards a call to it. -/
theorem ClosedTask.step {id : String} (hinv : server.Inv uuid newUuid) (h : ClosedTask newUuid id server) (input : TaskInput) :
    ClosedTask newUuid id ((taskServer env uuid newUuid).step server input).2 ∧
      ¬TaskStep.Forwards ((taskServer env uuid newUuid).call server input) id := by
  have hsilent := Reach.silent huuid hnew h.not_usable (step_reach huuid hnew hinv env input).1 hinv h.silent
  refine ⟨⟨hsilent.drawn, fun proposal htask => (hsilent.closed proposal htask).1⟩, ?_⟩
  rintro ⟨proposal, htask, hlt⟩
  exact absurd hlt (Nat.not_lt.mpr (hsilent.closed proposal htask).2)

/-- What `stop_task` and `require_user_action` leave when they answer with a payload. -/
theorem closes (env : Env) (hinv : server.Inv uuid newUuid) {t : TaskTurn} {request : TaskRequest} {id : String}
    (hrequest : request = .stopTask id ∨ ∃ reason, request = .requireUserAction id reason) :
    Triple (fun s _ => s = server) (serve env uuid newUuid t request)
      (fun result s _ => ∀ output, result = .ok output → ∃ proposal, s.task? id = some proposal ∧ proposal.Closed)
      fun _ => True := by
  rcases hrequest with rfl | ⟨reason, rfl⟩
  · refine triple_tryThen (R := fun _ s _ => ∃ proposal, s.task? id = some proposal ∧ proposal.Closed) ?_ fun payload =>
      triple_ret fun s _ h _ _ => h
    intro s script hs
    subst hs
    cases htask : s.task? id with
    | none =>
      have hnone : revokeTask env uuid id t s script = .done (.error (.refused taskNotFound)) s script := by
        simp only [revokeTask, Prog.andThen, Prog.read, Prog.update, htask, Prog.ret]
      rw [hnone]
      exact fun output h => by cases h
    | some proposal =>
      refine triple_cut (triple_weaken (triple_revokeTask env huuid hnew hinv ⟨.refl, htask⟩) (fun _ _ h => h)
        fun result s' _ h => ?_) (fun _ _ => trivial) s script rfl
      cases result with
      | ok payload =>
        obtain ⟨-, -, stopped, hat, hstops, -⟩ := h
        exact ⟨stopped, hat.2, Or.inl hstops.revoked⟩
      | error e => exact fun output h => by cases h
  · have hpause : Triple (fun s _ => Reach env uuid newUuid server server s) (Prog.update (requireUserAction id reason t))
        _ fun _ => True := triple_requireUserAction
    refine triple_tryThen (R := fun _ (s : TaskServer) _ => ∃ proposal, s.task? id = some proposal ∧ proposal.Closed)
      (triple_weaken hpause (fun s _ (hs : s = server) => hs ▸ .refl) fun result s _ h => ?_) fun payload => triple_ret fun s _ h _ _ => h
    cases result with
    | ok payload => exact h.2.2
    | error e => exact fun output h => by cases h

/-- A request that stops or pauses a task closes it. -/
theorem closed_of_closing (env : Env) (hinv : server.Inv uuid newUuid) (input : TaskInput) {id : String}
    (h : TaskStep.Stops ((taskServer env uuid newUuid).call server input) id ∨
      TaskStep.Pauses ((taskServer env uuid newUuid).call server input) id) :
    ClosedTask newUuid id ((taskServer env uuid newUuid).step server input).2 := by
  have hnext := step_inv huuid hnew hinv env input
  obtain ⟨call, payload, rfl, hrequest, houtput⟩ : ∃ call payload, input = .call call ∧
      (call.request = .stopTask id ∨ ∃ reason, call.request = .requireUserAction id reason) ∧
      ((taskServer env uuid newUuid).step server input).1 = some (.ok (.payload payload)) := by
    rcases h with ⟨call, payload, hinput, hrequest, houtput⟩ | ⟨call, reason, payload, hinput, hrequest, houtput⟩
    · exact ⟨call, payload, hinput, Or.inl hrequest, houtput⟩
    · exact ⟨call, payload, hinput, Or.inr ⟨reason, hrequest⟩, houtput⟩
  have hran := closes huuid hnew env hinv (t := call.first) hrequest server call.script rfl
  simp only [taskServer] at houtput hnext ⊢
  cases hserve : serve env uuid newUuid call.first call.request server call.script with
  | cut next =>
    rw [hserve] at houtput
    cases houtput
  | done result next rest =>
    rw [hserve] at houtput hran hnext
    obtain ⟨proposal, htask, hclosed⟩ := hran _ (Option.some.inj houtput)
    refine ⟨hnext.named id (mem_ids htask), fun found hfound => ?_⟩
    obtain rfl := Option.some.inj (htask.symm.trans hfound)
    exact hclosed

end Closing
end TaskServer

/-- In every run a task is reported as stopped only when nothing of it is left, and no call is forwarded to a task
    after it was stopped or paused. -/
theorem stopped_tasks_over (env : Env) {uuid newUuid : Nat → String} (huuid : Function.Injective uuid)
    (hnew : Function.Injective newUuid) (brokerDrawn drawn : Nat) (inputs : List TaskInput) :
    (∀ c ∈ (taskServer env uuid newUuid).trace (TaskServer.initial brokerDrawn drawn) inputs,
      ∀ payload ∈ TaskStep.reports c, payload.status = .stopped →
        ∃ proposal, c.after.task? payload.taskId = some proposal ∧ proposal.Over uuid c.after.broker) ∧
    ∀ id, ((taskServer env uuid newUuid).trace (TaskServer.initial brokerDrawn drawn) inputs).Pairwise fun a b =>
      TaskStep.Stops a id ∨ TaskStep.Pauses a id → ¬TaskStep.Forwards b id := by
  have hinit : (TaskServer.initial brokerDrawn drawn).Inv uuid newUuid := TaskServer.initial_inv brokerDrawn drawn
  have keep : ∀ s i, s.Inv uuid newUuid → ((taskServer env uuid newUuid).step s i).2.Inv uuid newUuid :=
    fun s i hinv => TaskServer.step_inv huuid hnew hinv env i
  constructor
  · intro c hc payload hmem hstopped
    have hinv := Machine.inv_before keep hinit hc
    rw [Machine.eq_call_of_mem hc] at hmem ⊢
    obtain ⟨proposal, htask, hrevoked, hstatus⟩ :=
      (TaskServer.step_reach huuid hnew hinv env c.input).2 payload hmem hstopped
    exact ⟨proposal, htask, ((keep _ c.input hinv).sound _ proposal htask).over hrevoked hstatus⟩
  · intro id
    refine Machine.never_after keep (P := TaskServer.ClosedTask newUuid id) (fun s i hinv h => ?_) (fun s i hinv h => ?_)
      (fun s i hinv h => ?_) inputs hinit
    · exact TaskServer.closed_of_closing huuid hnew env hinv i h
    · exact (h.step huuid hnew hinv i).1
    · exact (h.step huuid hnew hinv i).2

/-! ### A task from its start to its end -/

namespace TaskSample

def input : PrepareTaskInput where
  applicationLabel := "Editor"
  targetProcessId := some 7
  targetWindowHandle := some 9
  ownedBrowserLaunch := none
  surface := .window
  observationMode := .semantic
  allowedMethods := ["snapshot"]
  allowedActions := []
  allowRecording := false
  allowCapturePreparation := false
  allowNativeCapturePopupKeyboard := false
  allowedBrowserOrigins := []
  ttlMinutes := 1

/-- Everything goes well while all clocks show `now`; a session that is stopped answers for the task `n`. -/
def turn (now n : Nat) : TaskTurn where
  unixMs := now
  processScope := .ok ()
  startChecks := .ok []
  recipeScope := .ok ()
  workflowStarted := .ok "workflow"
  preparedMs := now
  capacityMs := now
  validateMs := now
  revalidateMs := now
  capturePreparation := .error "not configured"
  recordingDirectory := .error "not configured"
  authorizationDeadline := .ok (10 ^ 15)
  policyExpiresAtUnixMs := some (10 ^ 12)
  fs := fun _ => none
  register := ⟨now, now, ⟨now, now⟩, ⟨now, now⟩⟩
  driver := .ok ()
  extension := .ok ()
  hello := .ok ()
  opened := .ok (7, 9)
  stopped := .ok ⟨some "session_stopped", some ("mcp-task-" ++ BrokerSample.uuid n), some true, some false, some false⟩
  hostEnded := some true
  methodParams := .ok ()
  callCeilings := .ok ()
  recordingRequest := .ok ()
  response := .ok ()
  window := .ok (7, 11)
  processId := .ok 7
  workflowStatus := .error "not needed"
  workflowCancelled := .error "not needed"

def taskId (n : Nat) : String := "task-" ++ BrokerSample.uuid n

def server : Machine TaskServer TaskInput (Option (Except TaskError TaskOutput)) :=
  taskServer BrokerSample.env BrokerSample.uuid BrokerSample.uuid

/-- A request that is answered while all clocks show `now`. -/
def call (now n : Nat) (request : TaskRequest) : TaskInput :=
  .call ⟨request, turn now n, List.replicate 4 (.turn (turn now n))⟩

end TaskSample

/-- A task is started, called and stopped; the last answer is that it is stopped. -/
theorem stopped_tasks_over_run :
    ((TaskSample.server.trace (TaskServer.initial 0 0)
        [TaskSample.call 1000 0 (.startTask TaskSample.input),
          TaskSample.call 2000 0 (.taskCall (TaskSample.taskId 0) "snapshot"),
          TaskSample.call 3000 0 (.stopTask (TaskSample.taskId 0))]).map fun c =>
      (TaskStep.reports c).map (·.status)) = [[], [], [.stopped]] ∧
    ∀ id, (TaskSample.server.trace (TaskServer.initial 0 0)
        [TaskSample.call 1000 0 (.startTask TaskSample.input),
          TaskSample.call 2000 0 (.taskCall (TaskSample.taskId 0) "snapshot"),
          TaskSample.call 3000 0 (.stopTask (TaskSample.taskId 0))]).Pairwise fun a b =>
      TaskStep.Stops a id ∨ TaskStep.Pauses a id → ¬TaskStep.Forwards b id :=
  ⟨by decide, (stopped_tasks_over BrokerSample.env BrokerSample.uuid_injective BrokerSample.uuid_injective 0 0 _).2⟩

end DccCua
