import DccCua.Theorems.TaskStops

/-! # Rebinding a workflow task

`workflow_rebind` stops the session of the old window, issues a lease for the new one and starts the task again. The
Host connection of the old session stays in the task, and a task that owns a Host connection is not started: no task is
ever rebound. What a rebinding does right is to fail before the new lease is issued. -/

namespace DccCua

open Runs Checks Script

namespace TaskServer

/-! ### Waits -/

section Waits
variable (env : Env) (uuid : Nat → String)

/-- What a wait ends with: the first turn of the script, the broker as the Hosts leave it, the rest of the script. -/
def awaited (broker : BrokerState) : List TaskAnswer → Option (TaskTurn × BrokerState × List TaskAnswer)
  | [] => none
  | .host call :: rest => awaited ((brokerMachine env uuid).step broker call.brokerCall).2 rest
  | .turn t :: rest => some (t, broker, rest)

end Waits

variable {env : Env} {uuid newUuid : Nat → String} {server : TaskServer} {broker broker' : BrokerState}
  {script rest : List TaskAnswer} {t : TaskTurn} {id : String} {proposal : TaskProposal}

theorem turn_done (server : TaskServer) (h : awaited env uuid server.broker script = some (t, broker', rest)) :
    turn env uuid server script = .done t { server with broker := broker' } rest := by
  induction script generalizing server with
  | nil => cases h
  | cons answer script ih =>
    cases answer with
    | host call => exact ih (server.hostCall env uuid call) h
    | turn t =>
      cases h
      rfl

theorem turn_cut (server : TaskServer) (h : awaited env uuid server.broker script = none) : ∃ next, turn env uuid server script = .cut next := by
  induction script generalizing server with
  | nil => exact ⟨server, rfl⟩
  | cons answer script ih =>
    cases answer with
    | host call => exact ih (server.hostCall env uuid call) h
    | turn t => cases h

/-- The server holds the task `id` as `proposal`, and `broker` is the state of its broker. -/
structure Has (server : TaskServer) (id : String) (proposal : TaskProposal) (broker : BrokerState) : Prop where
  task : server.task? id = some proposal
  broker : server.broker = broker

theorem Has.modify (h : server.Has id proposal broker) (f : TaskProposal → TaskProposal) :
    (server.modifyTask id f).Has id (f proposal) broker := by
  refine ⟨?_, h.broker⟩
  rw [task?_modifyTask, if_pos rfl, h.task]
  rfl

theorem onTask_andThen {α : Type} (f : TaskProposal → TaskProposal) (g : Unit → Prog TaskServer TaskAnswer α) :
    (onTask id f).andThen g server script = g () (server.modifyTask id f) script := rfl

theorem Has.withBroker (h : server.Has id proposal broker) (broker' : BrokerState) :
    ({ server with broker := broker' } : TaskServer).Has id proposal broker' := ⟨h.task, rfl⟩

/-! ### The old session -/

/-- The Host has acknowledged the end of the session with success, and its connection has ended with success. -/
def confirms (sessionId : String) (stopped ended : TaskTurn) : Bool :=
  (match stopped.stopped with
    | .ok reply => TaskProposal.acknowledges sessionId reply && reply.success == some true
    | .error _ => false) && ended.hostEnded == some true

/-- What is known of the Host connection of a session that has been stopped. -/
def endHost (ended : TaskTurn) (proposal : TaskProposal) : TaskProposal :=
  ended.hostEnded.elim proposal fun success => proposal.completeHost success

/-- The task once its session has been stopped. -/
def stoppedTask (authorizationId sessionId : String) (stopped ended : TaskTurn) (proposal : TaskProposal) : TaskProposal :=
  endHost ended ((proposal.revoke authorizationId).recordStop sessionId stopped.stopped).beginFinish

theorem stoppedTask_stopsTo {stopped ended : TaskTurn} (authorizationId sessionId : String)
    (hhost : proposal.hostTask = some ⟨none⟩) :
    proposal.StopsTo (stoppedTask authorizationId sessionId stopped ended proposal) := by
  have hstops := ((TaskProposal.StopsTo.ofRevoke proposal authorizationId).recordStop sessionId stopped.stopped).beginFinish
  unfold stoppedTask endHost
  cases ended.hostEnded with
  | none => exact hstops
  | some success => exact { hstops.note (.hostEnded success) with hostTask := by rw [hhost]; rfl }

theorem hostTask_recordStop (authorizationId sessionId : String) (reply : Except String StopReply) (proposal : TaskProposal) :
    ((proposal.revoke authorizationId).recordStop sessionId reply).hostTask = proposal.hostTask := by
  unfold TaskProposal.recordStop TaskProposal.revoke TaskProposal.takeSession
  dsimp only
  split <;> split <;> rfl

theorem hostTask_beginFinish (proposal : TaskProposal) : proposal.beginFinish.hostTask = proposal.hostTask := by
  unfold TaskProposal.beginFinish
  split <;> rfl

/-- The cleanup of the session is confirmed exactly when the Host has said so. -/
theorem stoppedTask_status {stopped ended : TaskTurn} {sessionId : String} (authorizationId : String)
    (hhost : proposal.hostTask = some ⟨none⟩) :
    (stoppedTaskStatus (stoppedTask authorizationId sessionId stopped ended proposal).cleanup = .stopped) ↔
      confirms sessionId stopped ended = true := by
  have hbegun : ((proposal.revoke authorizationId).recordStop sessionId stopped.stopped).beginFinish.cleanup =
      some { TaskProposal.stopOwnedTaskSession sessionId stopped.stopped with hostConnectionCompletion := some ⟨false, false⟩ } := by
    unfold TaskProposal.beginFinish
    rw [hostTask_recordStop, hhost]
    rfl
  unfold stoppedTask endHost confirms
  generalize ((proposal.revoke authorizationId).recordStop sessionId stopped.stopped).beginFinish = begun at hbegun ⊢
  cases ended.hostEnded with
  | none => simp [hbegun, stoppedTaskStatus]
  | some success =>
    have hended : (begun.completeHost success).cleanup = some
        { TaskProposal.stopOwnedTaskSession sessionId stopped.stopped with hostConnectionCompletion := some ⟨true, success⟩ } := by
      unfold TaskProposal.completeHost TaskProposal.publish TaskProposal.note
      rw [hbegun]
      rfl
    rw [show (some success).elim begun (fun success => begun.completeHost success) = begun.completeHost success from rfl, hended]
    unfold TaskProposal.stopOwnedTaskSession
    cases success with
    | false => simp [stoppedTaskStatus]
    | true =>
      cases stopped.stopped with
      | error message => simp [stoppedTaskStatus]
      | ok reply => cases hreply : TaskProposal.acknowledges sessionId reply <;> simp [stoppedTaskStatus, hreply]

theorem finishOwnedHostTask_pending (env : Env) (uuid : Nat → String) (script : List TaskAnswer)
    {record : TaskProposal → TaskProposal} (h : server.Has id proposal broker)
    (hhost : (record proposal).beginFinish.hostTask = some ⟨none⟩) :
    match awaited env uuid broker script with
    | none => ∃ next, finishOwnedHostTask env uuid id record server script = .cut next
    | some (t, broker', rest) => ∃ next, finishOwnedHostTask env uuid id record server script = .done () next rest ∧
        next.Has id (endHost t (record proposal).beginFinish) broker' := by
  have hrecorded := h.modify fun proposal => (record proposal).beginFinish
  have hpending : (((server.modifyTask id fun proposal => (record proposal).beginFinish).task? id).bind
      (·.hostTask)).any (·.isPending) = true := by
    rw [hrecorded.task, Option.bind_some, hhost]
    rfl
  unfold finishOwnedHostTask
  rw [onTask_andThen, Prog.andThen_read, hpending, if_pos rfl]
  rw [← hrecorded.broker]
  cases hawaited : awaited env uuid (server.modifyTask id fun proposal => (record proposal).beginFinish).broker script with
  | none =>
    obtain ⟨next, hcut⟩ := turn_cut _ hawaited
    exact ⟨next, Prog.andThen_cut hcut⟩
  | some answer =>
    obtain ⟨t, broker', rest⟩ := answer
    dsimp only
    rw [Prog.andThen_done (turn_done _ hawaited)]
    unfold endHost
    cases t.hostEnded with
    | none => exact ⟨_, rfl, hrecorded.withBroker broker'⟩
    | some success => exact ⟨_, rfl, (hrecorded.withBroker broker').modify _⟩

/-! ### The old window -/

theorem revokeTask_open (h : server.Has id proposal broker) (hopen : proposal.revoked = false) :
    revokeTask env uuid id t server script = ((Prog.update (revokeLease id proposal)).tryThen fun _ =>
      (stopSession env uuid proposal.session).andThen fun record =>
      (finishOwnedHostTask env uuid id record).andThen fun _ =>
      Prog.read (stoppedPayload id (proposal.workflowId.map fun _ => t.workflowCancelled.toOption))) server script := by
  unfold revokeTask
  rw [Prog.andThen_read, h.task]
  dsimp only
  rw [hopen, if_neg (by simp)]

/-- A lease whose record the broker no longer keeps is not revoked, and nothing else is done. -/
theorem revokeTask_absent {receipt : TrustedTaskAuthorizationReceipt} (h : server.Has id proposal broker)
    (hopen : proposal.revoked = false) (hreceipt : proposal.receipt = some receipt)
    {e : TrustedTaskAuthorizationBrokerError} (hrevoke : broker.revoke receipt.authorizationId = (.error e, broker')) :
    revokeTask env uuid id t server script = .done (.error (.broker e)) { server with broker := broker' } script := by
  rw [revokeTask_open h hopen]
  refine Prog.tryThen_error ?_
  unfold Prog.update revokeLease
  rw [hreceipt]
  dsimp only
  rw [h.broker, hrevoke]

/-- A lease that is revoked leaves the task stopped. -/
theorem revokeTask_leased (env : Env) (uuid : Nat → String) (script : List TaskAnswer) (t : TaskTurn)
    {receipt : TrustedTaskAuthorizationReceipt} {session : LogicalTaskSession}
    (h : server.Has id proposal broker) (hopen : proposal.revoked = false) (hreceipt : proposal.receipt = some receipt)
    (hsession : proposal.session = some session) (hhost : proposal.hostTask = some ⟨none⟩)
    (hrevoke : broker.revoke receipt.authorizationId = (.ok (), broker')) :
    match awaited env uuid broker' script with
    | none => ∃ next, revokeTask env uuid id t server script = .cut next
    | some (stopped, broker, rest) => match awaited env uuid broker rest with
      | none => ∃ next, revokeTask env uuid id t server script = .cut next
      | some (ended, broker, rest) => ∃ payload next, revokeTask env uuid id t server script = .done (.ok payload) next rest ∧
          next.Has id (stoppedTask receipt.authorizationId session.sessionId stopped ended proposal) broker ∧
          payload.status = stoppedTaskStatus
            (stoppedTask receipt.authorizationId session.sessionId stopped ended proposal).cleanup := by
  have hleased : Prog.update (revokeLease id proposal) server script = Ran.done (.ok ())
      (({ server with broker := broker' } : TaskServer).modifyTask id (TaskProposal.revoke receipt.authorizationId)) script := by
    unfold Prog.update revokeLease
    rw [hreceipt]
    dsimp only
    rw [h.broker, hrevoke]
  have hrevoked := (h.withBroker broker').modify (TaskProposal.revoke receipt.authorizationId)
  rw [revokeTask_open h hopen, Prog.tryThen_ok hleased, hsession]
  generalize ({ server with broker := broker' } : TaskServer).modifyTask id (TaskProposal.revoke receipt.authorizationId) =
    revoked at hrevoked
  unfold stopSession
  dsimp only
  rw [Prog.andThen_assoc, ← hrevoked.broker]
  cases hstopped : awaited env uuid revoked.broker script with
  | none =>
    obtain ⟨next, hcut⟩ := turn_cut _ hstopped
    exact ⟨next, Prog.andThen_cut hcut⟩
  | some answer =>
    obtain ⟨stopped, broker₁, rest₁⟩ := answer
    dsimp only
    rw [Prog.andThen_done (turn_done _ hstopped)]
    have hbegun : ((proposal.revoke receipt.authorizationId).recordStop session.sessionId stopped.stopped).beginFinish.hostTask =
        some ⟨none⟩ := by
      rw [hostTask_beginFinish, hostTask_recordStop, hhost]
    have hfinish := finishOwnedHostTask_pending env uuid rest₁ (hrevoked.withBroker broker₁) hbegun
    rw [Prog.andThen_ret]
    cases hended : awaited env uuid broker₁ rest₁ with
    | none =>
      rw [hended] at hfinish
      obtain ⟨next, hcut⟩ := hfinish
      exact ⟨next, Prog.andThen_cut hcut⟩
    | some answer =>
      obtain ⟨ended, broker₂, rest₂⟩ := answer
      rw [hended] at hfinish
      obtain ⟨next, hdone, hnext⟩ := hfinish
      dsimp only
      rw [Prog.andThen_done hdone]
      unfold Prog.read Prog.update stoppedPayload
      dsimp only
      rw [hnext.task]
      exact ⟨_, next, rfl, hnext, rfl⟩

theorem leaveWindow_eq (workflowId : Option String) :
    leaveWindow env uuid id workflowId t server script = ((revokeTask env uuid id t).andThen fun stopped =>
      (onTask id (TaskProposal.bindWorkflow workflowId)).andThen fun _ => Prog.ret (match stopped with
        | .error e => .error e
        | .ok payload =>
          if payload.status = .stopped then .ok ()
          else .error (.refused "previous workflow window cleanup is unconfirmed")))
      (server.modifyTask id (TaskProposal.bindWorkflow none)) script := rfl

/-- The old window is left when the cleanup of its session is confirmed. -/
theorem leaveWindow_leased (env : Env) (uuid : Nat → String) (script : List TaskAnswer) (t : TaskTurn)
    {receipt : TrustedTaskAuthorizationReceipt} {session : LogicalTaskSession}
    (workflowId : Option String) (h : server.Has id proposal broker) (hopen : proposal.revoked = false)
    (hreceipt : proposal.receipt = some receipt) (hsession : proposal.session = some session)
    (hhost : proposal.hostTask = some ⟨none⟩) (hrevoke : broker.revoke receipt.authorizationId = (.ok (), broker')) :
    match awaited env uuid broker' script with
    | none => ∃ next, leaveWindow env uuid id workflowId t server script = .cut next
    | some (stopped, broker, rest) => match awaited env uuid broker rest with
      | none => ∃ next, leaveWindow env uuid id workflowId t server script = .cut next
      | some (ended, broker, rest) => ∃ result next left,
          leaveWindow env uuid id workflowId t server script = .done result next rest ∧ next.Has id left broker ∧
          (proposal.bindWorkflow workflowId).StopsTo left ∧
          (result = .ok () ↔ confirms session.sessionId stopped ended = true) := by
  have hbound := h.modify (TaskProposal.bindWorkflow none)
  have hrun := revokeTask_leased env uuid script t hbound hopen hreceipt hsession hhost hrevoke
  rw [leaveWindow_eq]
  cases hstopped : awaited env uuid broker' script with
  | none =>
    rw [hstopped] at hrun
    obtain ⟨next, hcut⟩ := hrun
    exact ⟨next, Prog.andThen_cut hcut⟩
  | some answer =>
    obtain ⟨stopped, broker₁, rest₁⟩ := answer
    rw [hstopped] at hrun
    dsimp only at hrun ⊢
    cases hended : awaited env uuid broker₁ rest₁ with
    | none =>
      rw [hended] at hrun
      obtain ⟨next, hcut⟩ := hrun
      exact ⟨next, Prog.andThen_cut hcut⟩
    | some answer =>
      obtain ⟨ended, broker₂, rest₂⟩ := answer
      rw [hended] at hrun
      obtain ⟨payload, next, hdone, hnext, hstatus⟩ := hrun
      dsimp only
      rw [Prog.andThen_done hdone, onTask_andThen]
      refine ⟨_, _, _, rfl, hnext.modify _, ?_, ?_⟩
      · have hstops : (proposal.bindWorkflow none).StopsTo (stoppedTask receipt.authorizationId session.sessionId stopped ended
            (proposal.bindWorkflow none)) := stoppedTask_stopsTo _ _ hhost
        exact { hstops with workflowId := rfl }
      · rw [← stoppedTask_status receipt.authorizationId (show (proposal.bindWorkflow none).hostTask = some ⟨none⟩ from hhost),
          ← hstatus]
        dsimp only
        split <;> simp_all

/-! ### The new window -/

/-- The lease of the new window is issued: the process is still that of the workflow, and the broker registers it. -/
def Issues (env : Env) (uuid : Nat → String) (registration : TrustedTaskAuthorizationRegistration)
    (target : TrustedTaskAuthorizationTarget) (t : TaskTurn) (broker : BrokerState) : Prop :=
  t.processScope = .ok () ∧ ∃ deadline receipt, t.authorizationDeadline = .ok deadline ∧
    (broker.register env uuid t.fs { registration with target := target } (some deadline) t.register).1 = .ok receipt

theorem rebindLease_cases (env : Env) (uuid : Nat → String) (target : TrustedTaskAuthorizationTarget) (t : TaskTurn)
    (h : server.Has id proposal broker) :
    (Issues env uuid proposal.registration target t broker ∧ ∃ next renewed broker',
      rebindLease env uuid id target t server = (.ok (), next) ∧ next.Has id renewed broker' ∧ renewed.revoked = false ∧
      renewed.session = proposal.session ∧ renewed.hostTask = proposal.hostTask) ∨
    (¬Issues env uuid proposal.registration target t broker ∧ ∃ e next kept broker',
      rebindLease env uuid id target t server = (.error e, next) ∧ next.Has id kept broker' ∧
      kept.revoked = proposal.revoked ∧ kept.session = proposal.session) := by
  unfold rebindLease Issues
  cases hscope : t.processScope with
  | error message =>
    refine Or.inr ⟨fun hissues => ?_, _, server, proposal, broker, rfl, h, rfl, rfl⟩
    cases hissues.1
  | ok u =>
    cases hdeadline : t.authorizationDeadline with
    | error message =>
      refine Or.inr ⟨fun hissues => ?_, _, server, proposal, broker, rfl, h, rfl, rfl⟩
      obtain ⟨-, deadline, receipt, hok, -⟩ := hissues
      cases hok
    | ok deadline =>
      have hretargeted := h.modify (TaskProposal.retarget target)
      dsimp only [bind, Except.bind]
      generalize server.modifyTask id (TaskProposal.retarget target) = moved at hretargeted
      rw [hretargeted.task, hretargeted.broker]
      dsimp only
      cases hregister : broker.register env uuid t.fs (proposal.retarget target).registration (some deadline) t.register with
      | mk result broker' =>
        have hfirst : (broker.register env uuid t.fs { proposal.registration with target := target } (some deadline)
            t.register).1 = result := congrArg Prod.fst hregister
        cases result with
        | error e =>
          refine Or.inr ⟨fun hissues => ?_, _, _, _, broker', rfl, hretargeted.withBroker broker', rfl, rfl⟩
          obtain ⟨-, deadline', receipt, hsame, hok⟩ := hissues
          cases hsame
          rw [hfirst] at hok
          cases hok
        | ok receipt =>
          exact Or.inl ⟨⟨rfl, deadline, receipt, rfl, hfirst⟩, _, _, broker', rfl, (hretargeted.withBroker broker').modify _,
            rfl, rfl, rfl⟩

/-- A task that has no session but owns a Host connection is not started, and stays as it is. -/
theorem startTask_owned (env : Env) (uuid : Nat → String) (script : List TaskAnswer) (t : TaskTurn)
    (h : server.Has id proposal broker) (hsession : proposal.session = none) (hhost : proposal.hostTask.isSome = true) :
    ∃ e, startTask env uuid id t server script = .done (.error e) server script := by
  cases hchecks : startChecks id t server with
  | error e => exact ⟨e, Prog.tryThen_read_error hchecks script⟩
  | ok found =>
    obtain ⟨htask, -, -, hfree⟩ := startChecks_eq_ok hchecks
    obtain rfl := Option.some.inj (h.task.symm.trans htask)
    rcases hfree with hsome | hnone
    · rw [hsession] at hsome
      cases hsome
    · rw [hnone] at hhost
      cases hhost

end TaskServer

/-! ### Rebinding -/

/-- A rebinding: the task as it was, and what there is when the window of its workflow has been derived. -/
structure Rebinding where
  id : String
  call : TaskCall
  proposal : TaskProposal
  session : LogicalTaskSession
  receipt : TrustedTaskAuthorizationReceipt
  window : Nat × Nat
  derived : TaskTurn
  broker : BrokerState
  rest : List TaskAnswer

namespace Rebinding

/-- The waits of a rebinding after the old lease was revoked: for the session, for its Host connection, for the
    lease of the new window. -/
structure Waits where
  stopped : TaskTurn
  ended : TaskTurn
  leased : TaskTurn
  broker : BrokerState
  rest : List TaskAnswer

variable (env : Env) (uuid : Nat → String) (r : Rebinding)

def waits : Option Waits := do
  let (stopped, broker, rest) ← TaskServer.awaited env uuid (r.broker.revoke r.receipt.authorizationId).2 r.rest
  let (ended, broker, rest) ← TaskServer.awaited env uuid broker rest
  let (leased, broker, rest) ← TaskServer.awaited env uuid broker rest
  some ⟨stopped, ended, leased, broker, rest⟩

def target : TrustedTaskAuthorizationTarget := .exactWindow r.window.1 r.window.2

/-- The broker keeps the record of the old lease. -/
def Kept : Prop := r.broker.authorizations[r.receipt.authorizationId]?.isSome = true

/-- The cleanup of the old session is confirmed, and the lease of the new window is issued. -/
def Reissues : Prop := ∃ w, r.waits env uuid = some w ∧
  TaskServer.confirms r.session.sessionId w.stopped w.ended = true ∧
  TaskServer.Issues env uuid r.proposal.registration r.target w.leased w.broker

/-- The turns of a script. -/
def turns (script : List TaskAnswer) : List TaskTurn := script.filterMap fun
  | .turn t => some t
  | .host _ => none

/-- The Host is able to open a session for the new window. -/
def Opens (w : Waits) : Prop :=
  w.leased.unixMs < r.proposal.registration.expiresAtUnixMs ∧ w.leased.driver = .ok () ∧
    ∃ extension hello opened later, turns w.rest = extension :: hello :: opened :: later ∧
      extension.extension = .ok () ∧ hello.hello = .ok () ∧ opened.opened = .ok r.window

/-- Nothing is in the way of the rebinding. -/
def Able : Prop := ∃ w, r.waits env uuid = some w ∧
  TaskServer.confirms r.session.sessionId w.stopped w.ended = true ∧
  TaskServer.Issues env uuid r.proposal.registration r.target w.leased w.broker ∧ r.Opens w

end Rebinding

namespace TaskStep
variable (env : Env) (uuid : Nat → String)

/-- The step rebinds a task that is started, neither expired nor revoked, and whose process shows another window than
    the one that it is bound to. -/
structure Rebinds (c : TaskStep) (r : Rebinding) : Prop where
  input : c.input = .call r.call
  request : r.call.request = .workflowCall r.id "workflow_rebind"
  checked : TaskServer.workflowCallChecks r.id r.call.first c.before = .ok r.proposal
  session : r.proposal.session = some r.session
  receipt : r.proposal.receipt = some r.receipt
  derived : TaskServer.awaited env uuid c.before.broker r.call.script = some (r.derived, r.broker, r.rest)
  window : r.derived.window = .ok r.window
  moved : r.proposal.registration.target ≠ r.target

/-- The task is started again, for the new window and as before in all else; its old lease is revoked. -/
def Rebound (c : TaskStep) (r : Rebinding) : Prop :=
  ∃ started rebound session, c.output = some (.ok (.workflow (.rebound started))) ∧
    c.after.task? r.id = some rebound ∧ rebound.revoked = false ∧ rebound.session = some session ∧
    (session.processId, session.windowHandle) = r.window ∧ rebound.allowedMethods = r.proposal.allowedMethods ∧
    rebound.registration = { r.proposal.registration with target := r.target } ∧
    ∀ record, c.after.broker.authorizations[r.receipt.authorizationId]? = some record → record.revoked = true

/-- What a rebinding promises: it succeeds where nothing is in its way, and where it fails the task is stopped. -/
structure RebindsCorrectly (c : TaskStep) (r : Rebinding) : Prop where
  succeeds : r.Able env uuid → c.Rebound r
  stopped : ∀ e, c.output = some (.error e) →
    ∃ stopped, c.after.task? r.id = some stopped ∧ stopped.revoked = true ∧ stopped.session = none

end TaskStep

namespace TaskServer
variable {env : Env} {uuid newUuid : Nat → String} {server : TaskServer} {r : Rebinding}

/-- The rebinding ends with an error that leaves the task `Left`. -/
def Fails (id : String) (Left : TaskProposal → Prop) : Ran TaskServer TaskAnswer (Except TaskError WorkflowResult) → Prop
  | .done result next _ => (∃ e, result = .error e) ∧ ∃ proposal, next.task? id = some proposal ∧ Left proposal
  | .cut _ => False

theorem Rebinding.not_reissues_of_none (h : r.waits env uuid = none) : ¬r.Reissues env uuid := by
  rintro ⟨w, hw, -⟩
  rw [h] at hw
  cases hw

section Window
variable (h : server.Has r.id r.proposal r.broker) (hopen : r.proposal.revoked = false)
  (hreceipt : r.proposal.receipt = some r.receipt) (hmoved : r.proposal.registration.target ≠ r.target)
include h hopen hreceipt hmoved

/-- Without the record of the old lease the task is not even stopped. -/
theorem rebindWindow_absent (hkept : ¬r.Kept) :
    Fails r.id (·.revoked = false) (rebindWindow env uuid r.id r.proposal r.target r.derived server r.rest) := by
  have hrevoke : r.broker.revoke r.receipt.authorizationId = (.error .notFound, r.broker) := by
    unfold BrokerState.revoke
    rw [Option.not_isSome_iff_eq_none.mp hkept]
  have hbound := h.modify (TaskProposal.bindWorkflow none)
  unfold rebindWindow
  rw [if_neg hmoved]
  have hleft : leaveWindow env uuid r.id r.proposal.workflowId r.derived server r.rest = .done (.error (.broker .notFound))
      (({ server.modifyTask r.id (TaskProposal.bindWorkflow none) with broker := r.broker } : TaskServer).modifyTask r.id
        (TaskProposal.bindWorkflow r.proposal.workflowId)) r.rest := by
    rw [leaveWindow_eq, Prog.andThen_done (revokeTask_absent hbound hopen hreceipt hrevoke)]
    rfl
  rw [Prog.tryThen_error hleft]
  exact ⟨⟨_, rfl⟩, _, ((hbound.withBroker r.broker).modify _).task, hopen⟩

/-- With it the task is stopped, and it is left stopped unless the new lease is issued. -/
theorem rebindWindow_kept (hsession : r.proposal.session = some r.session) (hhost : r.proposal.hostTask = some ⟨none⟩)
    (hkept : r.Kept) :
    (r.Reissues env uuid ∧
      Fails r.id (·.revoked = false) (rebindWindow env uuid r.id r.proposal r.target r.derived server r.rest)) ∨
    (¬r.Reissues env uuid ∧
      ((∃ next, rebindWindow env uuid r.id r.proposal r.target r.derived server r.rest = .cut next) ∨
        Fails r.id (fun proposal => proposal.revoked = true ∧ proposal.session = none)
          (rebindWindow env uuid r.id r.proposal r.target r.derived server r.rest))) := by
  obtain ⟨record, hrecord⟩ := Option.isSome_iff_exists.mp hkept
  obtain ⟨broker, hrevoke⟩ : ∃ broker, r.broker.revoke r.receipt.authorizationId = (.ok (), broker) := by
    unfold BrokerState.revoke
    rw [hrecord]
    exact ⟨_, rfl⟩
  have hleave := leaveWindow_leased env uuid r.rest r.derived r.proposal.workflowId h hopen hreceipt hsession hhost hrevoke
  unfold rebindWindow
  rw [if_neg hmoved]
  cases hstopped : awaited env uuid broker r.rest with
  | none =>
    rw [hstopped] at hleave
    obtain ⟨next, hcut⟩ := hleave
    refine Or.inr ⟨Rebinding.not_reissues_of_none ?_, Or.inl ⟨next, Prog.tryThen_cut hcut⟩⟩
    simp only [Rebinding.waits, hrevoke, hstopped, Option.bind_eq_bind, Option.bind_none]
  | some answer =>
    obtain ⟨stopped, broker₁, rest₁⟩ := answer
    rw [hstopped] at hleave
    dsimp only at hleave
    cases hended : awaited env uuid broker₁ rest₁ with
    | none =>
      rw [hended] at hleave
      obtain ⟨next, hcut⟩ := hleave
      refine Or.inr ⟨Rebinding.not_reissues_of_none ?_, Or.inl ⟨next, Prog.tryThen_cut hcut⟩⟩
      simp only [Rebinding.waits, hrevoke, hstopped, hended, Option.bind_eq_bind, Option.bind_none, Option.bind_some]
    | some answer =>
      obtain ⟨ended, broker₂, rest₂⟩ := answer
      rw [hended] at hleave
      obtain ⟨result, next, left, hdone, hleft, hstops, hconfirmed⟩ := hleave
      have hwaits : r.waits env uuid = (awaited env uuid broker₂ rest₂).bind fun answer =>
          some ⟨stopped, ended, answer.1, answer.2.1, answer.2.2⟩ := by
        simp only [Rebinding.waits, hrevoke, hstopped, hended, Option.bind_eq_bind, Option.bind_some]
      cases result with
      | error e =>
        refine Or.inr ⟨?_, Or.inr ?_⟩
        · rintro ⟨w, hw, hconfirms, -⟩
          rw [hwaits, Option.bind_eq_some_iff] at hw
          obtain ⟨answer, -, hw⟩ := hw
          cases hw
          cases hconfirmed.mpr hconfirms
        · rw [Prog.tryThen_error hdone]
          exact ⟨⟨e, rfl⟩, left, hleft.task, hstops.revoked, hstops.session⟩
      | ok u =>
        rw [Prog.tryThen_ok hdone]
        cases hleased : awaited env uuid broker₂ rest₂ with
        | none =>
          obtain ⟨last, hcut⟩ := turn_cut _ (hleft.broker.symm ▸ hleased)
          exact Or.inr ⟨Rebinding.not_reissues_of_none (by rw [hwaits, hleased]; rfl), Or.inl ⟨last, Prog.andThen_cut hcut⟩⟩
        | some answer =>
          obtain ⟨leased, broker₃, rest₃⟩ := answer
          rw [hleased] at hwaits
          rw [Prog.andThen_done (turn_done _ (hleft.broker.symm ▸ hleased))]
          have hregistration : left.registration = r.proposal.registration := hstops.registration
          rcases rebindLease_cases env uuid r.target leased (hleft.withBroker broker₃) with
            ⟨hissues, renewed, task, last, hlease, hrenewed, hopened, hnone, howned⟩ |
            ⟨hrefused, e, kept, task, last, hlease, htask, hclosed, hnone⟩
          · rw [hregistration] at hissues
            refine Or.inl ⟨⟨_, hwaits, hconfirmed.mp rfl, hissues⟩, ?_⟩
            obtain ⟨e, hstart⟩ := startTask_owned env uuid rest₃ leased hrenewed (hnone.trans hstops.session)
              (by rw [howned, hstops.hostTask]; exact hhost ▸ rfl)
            rw [Prog.tryThen_ok (Prog.update_done hlease rest₃), Prog.tryThen_error hstart]
            exact ⟨⟨e, rfl⟩, task, hrenewed.task, hopened⟩
          · rw [hregistration] at hrefused
            refine Or.inr ⟨?_, Or.inr ?_⟩
            · rintro ⟨w, hw, -, hissues⟩
              cases hwaits.symm.trans hw
              exact hrefused hissues
            · rw [Prog.tryThen_error (Prog.update_done hlease rest₃)]
              exact ⟨⟨e, rfl⟩, task, htask.task, hclosed.trans hstops.revoked, hnone.trans hstops.session⟩

end Window

/-- The part of `workflow_rebind` before the window is compared. -/
theorem workflowCall_rebinds {c : TaskStep} (h : c.Rebinds env uuid r) :
    workflowCall env uuid r.id "workflow_rebind" r.call.first c.before r.call.script =
      rebindWindow env uuid r.id r.proposal r.target r.derived { c.before with broker := r.broker } r.rest := by
  have htask : ({ c.before with broker := r.broker } : TaskServer).task? r.id = some r.proposal :=
    (workflowCallChecks_eq_ok h.checked).1
  have hwindow : Prog.ret (mapError TaskError.refused (.ok r.window)) { c.before with broker := r.broker } r.rest =
      Ran.done (.ok r.window) { c.before with broker := r.broker } r.rest := rfl
  unfold workflowCall
  rw [Prog.tryThen_read_ok h.checked, if_neg (by decide), if_neg (by decide), if_pos rfl,
    Prog.andThen_done (turn_done _ h.derived), h.window, Prog.tryThen_ok hwindow]
  refine Prog.tryThen_read_ok ?_ r.rest
  rw [htask]

/-- How a rebinding is answered. -/
theorem rebinds_answer {c : TaskStep} (hcall : c = (taskServer env uuid newUuid).call c.before c.input)
    (h : c.Rebinds env uuid r) :
    match rebindWindow env uuid r.id r.proposal r.target r.derived { c.before with broker := r.broker } r.rest with
    | .done result next _ => c.output = some (result.map .workflow) ∧ c.after = next
    | .cut next => c.output = none ∧ c.after = next := by
  have hserve : serve env uuid newUuid r.call.first r.call.request c.before r.call.script =
      TaskServer.output .workflow (workflowCall env uuid r.id "workflow_rebind" r.call.first) c.before r.call.script := by
    rw [h.request]
    rfl
  rw [hcall]
  simp only [Machine.call_output, Machine.call_after, Machine.call_before]
  rw [h.input]
  unfold taskServer
  dsimp only
  rw [hserve]
  unfold TaskServer.output Prog.tryThen Prog.andThen
  rw [workflowCall_rebinds h]
  cases rebindWindow env uuid r.id r.proposal r.target r.derived { c.before with broker := r.broker } r.rest with
  | cut next => exact ⟨rfl, rfl⟩
  | done result next rest => cases result <;> exact ⟨rfl, rfl⟩

theorem Fails.answer {c : TaskStep} {Left : TaskProposal → Prop} (hcall : c = (taskServer env uuid newUuid).call c.before c.input)
    (h : c.Rebinds env uuid r)
    (hfails : Fails r.id Left (rebindWindow env uuid r.id r.proposal r.target r.derived { c.before with broker := r.broker } r.rest)) :
    (∃ e, c.output = some (.error e)) ∧ ∃ proposal, c.after.task? r.id = some proposal ∧ Left proposal := by
  have hanswer := rebinds_answer hcall h
  cases hrun : rebindWindow env uuid r.id r.proposal r.target r.derived { c.before with broker := r.broker } r.rest with
  | cut next =>
    rw [hrun] at hfails
    exact hfails.elim
  | done result next rest =>
    rw [hrun] at hfails hanswer
    obtain ⟨⟨e, rfl⟩, hleft⟩ := hfails
    obtain ⟨houtput, rfl⟩ := hanswer
    exact ⟨⟨e, houtput⟩, hleft⟩

/-- A task that is still usable after an error is what the contract excludes. -/
theorem Fails.not_correct {c : TaskStep} (hcall : c = (taskServer env uuid newUuid).call c.before c.input)
    (h : c.Rebinds env uuid r) (hfails : Fails r.id (·.revoked = false)
      (rebindWindow env uuid r.id r.proposal r.target r.derived { c.before with broker := r.broker } r.rest)) :
    ¬c.RebindsCorrectly env uuid r := by
  intro hcorrect
  obtain ⟨⟨e, houtput⟩, proposal, htask, hopen⟩ := hfails.answer hcall h
  obtain ⟨stopped, hstopped, hrevoked, -⟩ := hcorrect.stopped e houtput
  obtain rfl := Option.some.inj (htask.symm.trans hstopped)
  cases hopen.symm.trans hrevoked

/-- In a server that keeps its invariants, rebinding does what it promises exactly when the record of the old lease
    is kept and no new lease is issued. -/
theorem rebindsCorrectly_iff {c : TaskStep} (hcall : c = (taskServer env uuid newUuid).call c.before c.input)
    (hinv : c.before.Inv uuid newUuid) (h : c.Rebinds env uuid r) :
    c.RebindsCorrectly env uuid r ↔ r.Kept ∧ ¬r.Reissues env uuid := by
  obtain ⟨htask, hopen, -⟩ := workflowCallChecks_eq_ok h.checked
  have hhost := ((hinv.sound r.id r.proposal htask).owned (by rw [h.session]; rfl)).1
  have hhas : ({ c.before with broker := r.broker } : TaskServer).Has r.id r.proposal r.broker := ⟨htask, rfl⟩
  by_cases hkept : r.Kept
  · rcases rebindWindow_kept hhas hopen h.receipt h.moved h.session hhost hkept with
      ⟨hreissues, hfails⟩ | ⟨hnever, hended⟩
    · exact iff_of_false (hfails.not_correct hcall h) fun hboth => hboth.2 hreissues
    · refine iff_of_true ⟨fun hable => ?_, fun e houtput => ?_⟩ ⟨hkept, hnever⟩
      · obtain ⟨w, hw, hconfirms, hissues, -⟩ := hable
        exact absurd ⟨w, hw, hconfirms, hissues⟩ hnever
      · rcases hended with ⟨next, hcut⟩ | hfails
        · have hanswer := rebinds_answer hcall h
          rw [hcut] at hanswer
          rw [hanswer.1] at houtput
          cases houtput
        · exact (hfails.answer hcall h).2
  · exact iff_of_false ((rebindWindow_absent hhas hopen h.receipt h.moved hkept).not_correct hcall h) fun hboth => hkept hboth.1

end TaskServer

/-- In every run, rebinding a task does what it promises exactly when the broker keeps the record of the old lease and
    the rebinding does not get as far as a lease for the new window. -/
theorem rebinds_correctly_iff (env : Env) {uuid newUuid : Nat → String} (huuid : Function.Injective uuid)
    (hnew : Function.Injective newUuid) (brokerDrawn drawn : Nat) (inputs : List TaskInput) :
    ∀ c ∈ (taskServer env uuid newUuid).trace (TaskServer.initial brokerDrawn drawn) inputs, ∀ r,
      TaskStep.Rebinds env uuid c r → (TaskStep.RebindsCorrectly env uuid c r ↔ r.Kept ∧ ¬r.Reissues env uuid) := by
  intro c hc r h
  have hinit : (TaskServer.initial brokerDrawn drawn).Inv uuid newUuid := TaskServer.initial_inv brokerDrawn drawn
  have keep : ∀ s i, s.Inv uuid newUuid → ((taskServer env uuid newUuid).step s i).2.Inv uuid newUuid :=
    fun s i hinv => TaskServer.step_inv huuid hnew hinv env i
  exact TaskServer.rebindsCorrectly_iff (Machine.eq_call_of_mem hc) (Machine.inv_before keep hinit hc) h

/-! ### A window that is replaced -/

namespace TaskSample

def workflowInput : PrepareTaskInput := { input with targetProcessId := none, targetWindowHandle := none }

/-- Everything goes well while all clocks show `now`, and the process of the workflow shows the window `window`. -/
def windowTurn (now window : Nat) : TaskTurn :=
  { turn now 0 with
    window := .ok (7, window)
    opened := .ok (7, window)
    workflowStatus := .ok ⟨"workflow", "recipe", .install, .running, none, 7, none, false, false, false⟩ }

def startWorkflow : TaskInput :=
  .call ⟨.startWorkflowTask workflowInput, windowTurn 1000 11, List.replicate 4 (.turn (windowTurn 1000 11))⟩

/-- The window 11 has given way to the window 13. -/
def rebindCall : TaskCall :=
  ⟨.workflowCall (taskId 0) "workflow_rebind", windowTurn 2000 13, List.replicate 7 (.turn (windowTurn 2000 13))⟩

/-- The server once the task has been started. -/
def started : TaskServer := (server.step (TaskServer.initial 0 0) startWorkflow).2

def workflowReceipt : TrustedTaskAuthorizationReceipt :=
  ⟨BrokerState.authorizationId BrokerSample.uuid 0, BrokerState.windowCapability BrokerSample.uuid 1, 61000⟩

def workflowTask : TaskProposal where
  workflowId := some "workflow"
  userActionRequired := none
  surface := .window
  observationMode := .semantic
  allowedMethods := ["snapshot"]
  registration :=
    { BrokerSample.registration with
      taskGrantId := "task-grant-" ++ BrokerSample.uuid 1
      target := .exactWindow 7 11
      expiresAtUnixMs := 61000 }
  receipt := some workflowReceipt
  session := some ⟨"mcp-" ++ taskId 0, 7, 11⟩
  sessionOpenAttempted := true
  hostTask := some ⟨none⟩
  revoked := false
  cleanup := none
  history := [.sessionOpened, .hostSpawned, .openAttempted, .issued workflowReceipt.authorizationId]

theorem started_task : started.task? (taskId 0) = some workflowTask := by decide +kernel

def replaced : Rebinding where
  id := taskId 0
  call := rebindCall
  proposal := workflowTask
  session := ⟨"mcp-" ++ taskId 0, 7, 11⟩
  receipt := workflowReceipt
  window := (7, 13)
  derived := windowTurn 2000 13
  broker := started.broker
  rest := List.replicate 6 (.turn (windowTurn 2000 13))

theorem replaced_checked : TaskServer.workflowCallChecks (taskId 0) rebindCall.first started = .ok workflowTask := by
  unfold TaskServer.workflowCallChecks
  rw [started_task]
  rfl

theorem replaced_able : replaced.Able BrokerSample.env BrokerSample.uuid := by
  refine ⟨⟨windowTurn 2000 13, windowTurn 2000 13, windowTurn 2000 13, (started.broker.revoke workflowReceipt.authorizationId).2,
    List.replicate 3 (.turn (windowTurn 2000 13))⟩, rfl, by decide, ⟨rfl, 10 ^ 15, ?_⟩, by decide, rfl,
    windowTurn 2000 13, windowTurn 2000 13, windowTurn 2000 13, [], rfl, rfl, rfl, rfl⟩
  have hissued : ((started.broker.revoke workflowReceipt.authorizationId).2.register BrokerSample.env BrokerSample.uuid
      (windowTurn 2000 13).fs { workflowTask.registration with target := replaced.target } (some (10 ^ 15))
      (windowTurn 2000 13).register).1.isOk = true := by decide +kernel
  cases hregister : ((started.broker.revoke workflowReceipt.authorizationId).2.register BrokerSample.env BrokerSample.uuid
      (windowTurn 2000 13).fs { workflowTask.registration with target := replaced.target } (some (10 ^ 15))
      (windowTurn 2000 13).register).1 with
  | ok receipt => exact ⟨receipt, rfl, hregister⟩
  | error e =>
    rw [hregister] at hissued
    cases hissued

/-- The step is answered with an error, and the task is left without a session but not revoked. -/
def leavesUsable (c : TaskStep) : Bool :=
  (match c.output with
    | some (.error _) => true
    | _ => false) &&
  (c.after.task? (taskId 0)).any fun proposal => !proposal.revoked && proposal.session.isNone

end TaskSample

/-- A task is started, and its process replaces the window. -/
theorem rebinds_correctly_iff_run :
    ((TaskSample.server.trace (TaskServer.initial 0 0) [TaskSample.startWorkflow, .call TaskSample.rebindCall]).map
      TaskSample.leavesUsable) = [false, true] ∧
    ∀ c ∈ TaskSample.server.trace (TaskServer.initial 0 0) [TaskSample.startWorkflow, .call TaskSample.rebindCall], ∀ r,
      TaskStep.Rebinds BrokerSample.env BrokerSample.uuid c r →
        (TaskStep.RebindsCorrectly BrokerSample.env BrokerSample.uuid c r ↔
          r.Kept ∧ ¬r.Reissues BrokerSample.env BrokerSample.uuid) :=
  ⟨by decide +kernel, rebinds_correctly_iff BrokerSample.env BrokerSample.uuid_injective BrokerSample.uuid_injective 0 0 _⟩

/-- Nothing is in the way of the rebinding; it fails, and leaves the task unrevoked, with a new lease and no session. -/
theorem able_task_not_rebound : ∃ c ∈ TaskSample.server.trace (TaskServer.initial 0 0)
      [TaskSample.startWorkflow, .call TaskSample.rebindCall], ∃ r,
    TaskStep.Rebinds BrokerSample.env BrokerSample.uuid c r ∧ r.Able BrokerSample.env BrokerSample.uuid ∧
      ¬TaskStep.RebindsCorrectly BrokerSample.env BrokerSample.uuid c r := by
  refine ⟨TaskSample.server.call TaskSample.started (.call TaskSample.rebindCall), List.mem_cons_of_mem _ List.mem_cons_self,
    TaskSample.replaced, ?_, TaskSample.replaced_able, fun hcorrect => ?_⟩
  · exact
      { input := rfl
        request := rfl
        checked := TaskSample.replaced_checked
        session := rfl
        receipt := rfl
        derived := rfl
        window := rfl
        moved := by decide }
  · have husable : TaskSample.leavesUsable (TaskSample.server.call TaskSample.started (.call TaskSample.rebindCall)) = true := by
      decide +kernel
    simp only [TaskSample.leavesUsable, Bool.and_eq_true, Option.any_eq_true] at husable
    obtain ⟨herror, proposal, htask, hopen, -⟩ := husable
    split at herror
    · rename_i e houtput
      obtain ⟨stopped, hstopped, hrevoked, -⟩ := hcorrect.stopped e houtput
      obtain rfl := Option.some.inj (htask.symm.trans hstopped)
      rw [hrevoked] at hopen
      cases hopen
    · cases herror

end DccCua
