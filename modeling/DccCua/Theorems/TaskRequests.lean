import DccCua.Theorems.TaskMoves

/-! # The requests of a task server

Each request, whatever its environment says, goes from the state in which it is taken up to its end, or to where it
is cut, by moves. What it returns is described beside that. -/

namespace DccCua

open Runs Checks Script

/-! ### Reports -/

/-- The payloads that an error shows. -/
def TaskError.reports : TaskError → List TaskPayload
  | .refused _ | .capacity | .broker _ => []
  | .startupCleanup error cleanup => cleanup :: error.reports
  | .startupCleanupFailed error cleanup => error.reports ++ cleanup.reports
  | .processUnauthorized cleanup => cleanup.toList
  | .workflowCleanup error _ => error.reports

/-- A limit has refused the request. -/
def TaskError.refusesCapacity : TaskError → Bool
  | .refused _ | .processUnauthorized _ => false
  | .capacity => true
  | .broker error => error = .unavailable
  | .startupCleanup error _ | .workflowCleanup error _ => error.refusesCapacity
  | .startupCleanupFailed error cleanup => error.refusesCapacity || cleanup.refusesCapacity

def TaskOutput.reports : TaskOutput → List TaskPayload
  | .payload shown | .workflow (.unchanged shown) => [shown]
  | .started _ | .workflow _ | .answered => []

/-- The payloads in an answer. -/
def answerReports : Except TaskError TaskOutput → List TaskPayload
  | .ok output => output.reports
  | .error error => error.reports

namespace TaskServer

/-- A task that a payload reports as stopped has been stopped, and its cleanup is confirmed. -/
def Reported (server : TaskServer) (payload : TaskPayload) : Prop :=
  payload.status = .stopped → ∃ proposal, server.task? payload.taskId = some proposal ∧ proposal.revoked = true ∧
    stoppedTaskStatus proposal.cleanup = .stopped

/-- The broker keeps the record of the task's lease. -/
def Registered (server : TaskServer) (proposal : TaskProposal) : Prop :=
  ∃ receipt record, proposal.receipt = some receipt ∧ server.broker.authorizations[receipt.authorizationId]? = some record

end TaskServer

/-- What stopping leaves of a task. -/
structure TaskProposal.StopsTo (proposal stopped : TaskProposal) : Prop where
  revoked : stopped.revoked = true
  session : stopped.session = none
  paused : stopped.userActionRequired = proposal.userActionRequired
  registration : stopped.registration = proposal.registration
  allowedMethods : stopped.allowedMethods = proposal.allowedMethods
  receipt : stopped.receipt = proposal.receipt
  workflowId : stopped.workflowId = proposal.workflowId
  hostTask : stopped.hostTask.isSome = proposal.hostTask.isSome
  /-- A session that it had was handed to its cleanup. -/
  handed : ∃ later, stopped.history = later ++ proposal.history ∧ (proposal.session.isSome = true → .stopRequested ∈ later)

namespace TaskProposal.StopsTo
variable {proposal stopped : TaskProposal}

theorem refl (hrevoked : proposal.revoked = true) (hsession : proposal.session = none) : proposal.StopsTo proposal :=
  ⟨hrevoked, hsession, rfl, rfl, rfl, rfl, rfl, rfl, [], rfl, fun hsome => by rw [hsession] at hsome; cases hsome⟩

theorem note (h : proposal.StopsTo stopped) (event : TaskEvent) : proposal.StopsTo (stopped.note event) := by
  obtain ⟨later, hhistory, hhanded⟩ := h.handed
  exact { h with handed := ⟨event :: later, congrArg (event :: ·) hhistory, fun hsome => List.mem_cons_of_mem _ (hhanded hsome)⟩ }

theorem ofRevoke (proposal : TaskProposal) (authorizationId : String) :
    proposal.StopsTo (proposal.revoke authorizationId) := by
  unfold TaskProposal.revoke TaskProposal.takeSession
  cases hsession : (proposal.note (.leaseRevoked authorizationId)).session with
  | none =>
    refine ⟨rfl, hsession, rfl, rfl, rfl, rfl, rfl, rfl, [.leaseRevoked authorizationId], rfl, fun hsome => ?_⟩
    rw [show proposal.session = none from hsession] at hsome
    cases hsome
  | some session =>
    exact ⟨rfl, rfl, rfl, rfl, rfl, rfl, rfl, rfl, [.stopRequested, .leaseRevoked authorizationId], rfl, fun _ => List.mem_cons_self⟩

theorem beginFinish (h : proposal.StopsTo stopped) : proposal.StopsTo stopped.beginFinish := by
  unfold TaskProposal.beginFinish
  cases hhost : stopped.hostTask with
  | none => exact h
  | some host => exact { h with }

theorem recordStop (h : proposal.StopsTo stopped) (sessionId : String) (reply : Except String StopReply) :
    proposal.StopsTo (stopped.recordStop sessionId reply) := by
  unfold TaskProposal.recordStop
  dsimp only
  split
  · exact { h.note .stopAcknowledged with }
  · exact { h with }

theorem recordNoSession (h : proposal.StopsTo stopped) : proposal.StopsTo stopped.recordNoSession := { h with }

theorem trans {ended : TaskProposal} (h : proposal.StopsTo stopped) (h' : stopped.StopsTo ended) : proposal.StopsTo ended where
  revoked := h'.revoked
  session := h'.session
  paused := h'.paused.trans h.paused
  registration := h'.registration.trans h.registration
  allowedMethods := h'.allowedMethods.trans h.allowedMethods
  receipt := h'.receipt.trans h.receipt
  workflowId := h'.workflowId.trans h.workflowId
  hostTask := h'.hostTask.trans h.hostTask
  handed := by
    obtain ⟨later, hhistory, hhanded⟩ := h.handed
    obtain ⟨later', hhistory', -⟩ := h'.handed
    refine ⟨later' ++ later, ?_, fun hsome => List.mem_append_right _ (hhanded hsome)⟩
    rw [hhistory', hhistory, List.append_assoc]

end TaskProposal.StopsTo

namespace TaskServer
variable {env : Env} {uuid newUuid : Nat → String} {start : TaskServer}

/-- The task `id` is `proposal` in a state that the request has reached. -/
def At (env : Env) (uuid newUuid : Nat → String) (start : TaskServer) (id : String) (proposal : TaskProposal)
    (server : TaskServer) : Prop := Reach env uuid newUuid start start server ∧ server.task? id = some proposal

section Steps
variable {id : String} {proposal : TaskProposal}

theorem triple_turn {P : TaskServer → Prop} (hhost : ∀ server call, P server → P (server.hostCall env uuid call)) :
    Keeps P (turn env uuid) := by
  refine keeps_await fun answer server h => ?_
  cases answer with
  | host call => exact hhost server call h
  | turn t => exact h

theorem reach_host (server : TaskServer) (call : HostCall) (h : Reach env uuid newUuid start start server) :
    Reach env uuid newUuid start start (server.hostCall env uuid call) := h.tail (.host server call)

theorem keeps_turn_reach : Keeps (Reach env uuid newUuid start start) (turn env uuid) := triple_turn reach_host

theorem triple_turn_at : Triple (fun s _ => At env uuid newUuid start id proposal s) (turn env uuid)
    (fun _ s _ => At env uuid newUuid start id proposal s) (Reach env uuid newUuid start start) :=
  triple_cut (triple_turn fun server call h => ⟨reach_host server call h.1, h.2⟩) fun _ h => h.1

theorem At.change {server : TaskServer} {f : TaskProposal → TaskProposal} (h : At env uuid newUuid start id proposal server)
    (hchange : proposal.Change (f proposal)) : At env uuid newUuid start id (f proposal) (server.modifyTask id f) := by
  refine ⟨h.1.tail (.change server id proposal f h.2 hchange), ?_⟩
  rw [task?_modifyTask, if_pos rfl, h.2]
  rfl

theorem triple_onTask {f : TaskProposal → TaskProposal} {C : TaskServer → Prop} (hchange : proposal.Change (f proposal)) :
    Triple (fun s _ => At env uuid newUuid start id proposal s) (onTask id f)
      (fun _ s _ => At env uuid newUuid start id (f proposal) s) C :=
  triple_update fun _ _ h => h.change hchange

/-- What `finish_owned_host_task` leaves of a revoked task. -/
theorem triple_finish {record : TaskProposal → TaskProposal} {stopped : TaskProposal}
    (hchange : proposal.Change (record proposal).beginFinish) (hstops : stopped.StopsTo (record proposal).beginFinish) :
    Triple (fun s _ => At env uuid newUuid start id proposal s) (finishOwnedHostTask env uuid id record)
      (fun _ s _ => ∃ ended, At env uuid newUuid start id ended s ∧ stopped.StopsTo ended)
      (Reach env uuid newUuid start start) := by
  refine triple_andThen (triple_onTask hchange) fun _ => ?_
  refine triple_andThen (R := fun pending s _ => At env uuid newUuid start id (record proposal).beginFinish s ∧
    (record proposal).beginFinish.hostTask.any (·.isPending) = pending) (triple_read fun s _ h => ⟨h, ?_⟩) fun pending =>
    triple_fact fun hpending => ?_
  · rw [h.2]
    rfl
  · cases pending with
    | false => exact triple_ret fun s _ h => ⟨_, h, hstops⟩
    | true =>
      have hhost : (record proposal).beginFinish.hostTask = some ⟨none⟩ := by
        cases hhost : (record proposal).beginFinish.hostTask with
        | none => simp [hhost] at hpending
        | some host =>
          obtain ⟨completion⟩ := host
          cases completion with
          | none => rfl
          | some completion => simp [hhost, OwnedHostTask.isPending] at hpending
      refine triple_andThen triple_turn_at fun t => ?_
      cases t.hostEnded with
      | none => exact triple_ret fun s _ h => ⟨_, h, hstops⟩
      | some success =>
        refine triple_weaken (triple_onTask (.completeHost _ success hstops.revoked hhost)) (fun _ _ h => h)
          fun _ s _ h => ⟨_, h, ?_⟩
        exact { hstops.note (.hostEnded success) with hostTask := by rw [← hstops.hostTask, hhost]; rfl }

end Steps

/-! ### Stopping -/

section Stopping
variable {id : String} {proposal : TaskProposal} {server : TaskServer} {t : TaskTurn}

/-- A task of the server in a state that was reached. -/
theorem At.sound (h : At env uuid newUuid start id proposal server) (huuid : Function.Injective uuid)
    (hnew : Function.Injective newUuid) (hinv : start.Inv uuid newUuid) : proposal.Sound uuid server.broker :=
  (Reach.inv huuid hnew h.1 hinv).sound id proposal h.2

/-- What `stop_task` answers of a task that it has stopped. -/
def StopAnswer (env : Env) (uuid newUuid : Nat → String) (start : TaskServer) (id : String) (proposal : TaskProposal)
    (payload : TaskPayload) (server : TaskServer) : Prop :=
  payload.taskId = id ∧ ∃ stopped, At env uuid newUuid start id stopped server ∧ proposal.StopsTo stopped ∧
    payload.status = stoppedTaskStatus stopped.cleanup

theorem triple_stoppedPayload {workflow : Option (Option RunReport)} {C : TaskServer → Prop} :
    Triple (fun s _ => ∃ stopped, At env uuid newUuid start id stopped s ∧ proposal.StopsTo stopped)
      (Prog.read (stoppedPayload id workflow) : TaskProg TaskPayload)
      (fun result s _ => ∃ payload, result = .ok payload ∧ StopAnswer env uuid newUuid start id proposal payload s) C := by
  refine triple_read fun s _ h => ?_
  obtain ⟨stopped, hat, hstops⟩ := h
  unfold stoppedPayload
  rw [hat.2]
  exact ⟨_, rfl, rfl, stopped, hat, hstops, rfl⟩

/-- The lease is revoked exactly when the broker keeps its record. -/
theorem revoke_cases (server : TaskServer) {receipt : TrustedTaskAuthorizationReceipt} (hreceipt : proposal.receipt = some receipt) :
    (server.broker.revoke receipt.authorizationId = (.error .notFound, server.broker) ∧ ¬server.Registered proposal) ∨
    (∃ broker, server.broker.revoke receipt.authorizationId = (.ok (), broker) ∧ server.Registered proposal) := by
  unfold BrokerState.revoke
  cases hrecord : server.broker.authorizations[receipt.authorizationId]? with
  | none =>
    refine Or.inl ⟨rfl, ?_⟩
    rintro ⟨receipt', record, hreceipt', hrecord'⟩
    obtain rfl := Option.some.inj (hreceipt.symm.trans hreceipt')
    rw [hrecord] at hrecord'
    cases hrecord'
  | some record => exact Or.inr ⟨_, rfl, receipt, record, hreceipt, hrecord⟩

/-- The old session is stopped, and what the Host says of it recorded. -/
theorem triple_stop (authorizationId : String) (hopened : proposal.session.isSome = true → .openAttempted ∉ TaskEvent.outstanding proposal.history) :
    Triple (fun s _ => At env uuid newUuid start id (proposal.revoke authorizationId) s)
      ((stopSession env uuid proposal.session).andThen (finishOwnedHostTask env uuid id))
      (fun _ s _ => ∃ ended, At env uuid newUuid start id ended s ∧ proposal.StopsTo ended)
      (Reach env uuid newUuid start start) := by
  have hstops := TaskProposal.StopsTo.ofRevoke proposal authorizationId
  unfold stopSession
  cases hsession : proposal.session with
  | none =>
    refine triple_andThen (R := fun record s _ => At env uuid newUuid start id (proposal.revoke authorizationId) s ∧
      record = TaskProposal.recordNoSession) (triple_ret fun s _ h => ⟨h, rfl⟩) fun record => triple_fact fun hrecord => ?_
    subst hrecord
    exact triple_finish (.recordNoSession _ hstops.revoked) hstops.recordNoSession.beginFinish
  | some session =>
    have hopened := hopened (by rw [hsession]; rfl)
    have hnone : .openAttempted ∉ TaskEvent.outstanding (proposal.revoke authorizationId).history := by
      unfold TaskProposal.revoke TaskProposal.takeSession
      rw [show (proposal.note (.leaseRevoked authorizationId)).session = some session from hsession]
      intro he
      have he' := (TaskEvent.mem_outstanding_note rfl fun old => by cases old <;> rfl).mp he
      exact hopened ((TaskEvent.mem_outstanding_note rfl fun old => by cases old <;> rfl).mp he')
    refine triple_andThen (triple_andThen triple_turn_at fun t => triple_ret (Q := fun record s _ =>
      At env uuid newUuid start id (proposal.revoke authorizationId) s ∧
        ∃ reply, record = TaskProposal.recordStop session.sessionId reply) fun s _ h => ⟨h, t.stopped, rfl⟩)
      fun record => triple_fact fun hrecord => ?_
    obtain ⟨reply, rfl⟩ := hrecord
    exact triple_finish (.recordStop _ session.sessionId reply hstops.revoked hnone)
      (hstops.recordStop session.sessionId reply).beginFinish

theorem triple_revokeTask (env : Env) (huuid : Function.Injective uuid) (hnew : Function.Injective newUuid)
    (hinv : start.Inv uuid newUuid) (hat : At env uuid newUuid start id proposal server) :
    Triple (fun s _ => s = server) (revokeTask env uuid id t)
      (orError (fun payload s _ => (proposal.revoked = true ∨ server.Registered proposal) ∧
          StopAnswer env uuid newUuid start id proposal payload s)
        fun e s _ => s = server ∧ e = .broker .notFound ∧ proposal.revoked = false ∧ ¬server.Registered proposal)
      (Reach env uuid newUuid start start) := by
  have hsound := hat.sound huuid hnew hinv
  refine triple_andThen (R := fun found s _ => s = server ∧ found = some proposal)
    (triple_read fun s _ hs => ⟨hs, hs ▸ hat.2⟩) fun found => triple_fact fun hfound => ?_
  subst hfound
  dsimp only
  cases hrevoked : proposal.revoked with
  | true =>
    rw [if_pos rfl]
    have hstops := TaskProposal.StopsTo.refl hrevoked (hsound.closed hrevoked)
    refine triple_weaken (triple_andThen (triple_finish (.finishAgain proposal hrevoked) hstops.beginFinish) fun _ =>
      triple_stoppedPayload) (fun s _ hs => hs ▸ hat) fun result s _ h => ?_
    obtain ⟨payload, rfl, hanswer⟩ := h
    exact ⟨Or.inl rfl, hanswer⟩
  | false =>
    rw [if_neg (by simp)]
    obtain ⟨receipt, hreceipt⟩ := Option.isSome_iff_exists.mp hsound.leased
    rcases revoke_cases server hreceipt with ⟨hrevoke, habsent⟩ | ⟨broker, hrevoke, hpresent⟩
    · refine triple_tryThen (R := fun _ _ _ => False) (triple_update fun s _ hs => ?_) fun _ s _ h => h.elim
      unfold revokeLease
      rw [hs, hreceipt]
      dsimp only
      rw [hrevoke]
      exact ⟨rfl, rfl, rfl, habsent⟩
    · have hmoved : At env uuid newUuid start id (proposal.revoke receipt.authorizationId)
          (({ server with broker := broker } : TaskServer).modifyTask id (.revoke receipt.authorizationId)) := by
        refine ⟨hat.1.tail (.revoke server id proposal receipt broker hat.2 hrevoked hreceipt hrevoke), ?_⟩
        rw [task?_modifyTask, if_pos rfl, show ({ server with broker := broker } : TaskServer).task? id = some proposal
          from hat.2]
        rfl
      refine triple_tryThen (R := fun _ s _ => At env uuid newUuid start id (proposal.revoke receipt.authorizationId) s) (triple_update fun s _ hs => ?_)
        fun _ => ?_
      · unfold revokeLease
        rw [hs, hreceipt]
        dsimp only
        rw [hrevoke]
        exact hmoved
      · rw [← Prog.andThen_assoc]
        refine triple_weaken (triple_andThen (triple_stop receipt.authorizationId hsound.opened) fun _ => triple_stoppedPayload) (fun _ _ h => h)
          fun result s _ h => ?_
        obtain ⟨payload, rfl, hanswer⟩ := h
        exact ⟨Or.inr hpresent, hanswer⟩

end Stopping
/-! ### Starting -/

section Starting
variable {id : String} {proposal : TaskProposal} {server : TaskServer} {t : TaskTurn}

/-- A text of the server or of its environment. -/
def Refusal (e : TaskError) : Prop := ∃ message, e = .refused message

theorem mapError_refusal {α : Type} {x : Except String α} {e : TaskError} (h : mapError TaskError.refused x = .error e) :
    Refusal e := by
  cases x with
  | ok a => cases h
  | error message =>
    cases h
    exact ⟨message, rfl⟩

/-- The task is held in a state that was reached. -/
def Held (env : Env) (uuid newUuid : Nat → String) (start : TaskServer) (id : String) (server : TaskServer) : Prop :=
  ∃ proposal, At env uuid newUuid start id proposal server

/-- An answer that is an error ends the program. -/
theorem triple_answer {α : Type} {P : TaskServer → Prop} {C : TaskServer → Prop} (x : Except String α)
    (hheld : ∀ s, P s → Held env uuid newUuid start id s) :
    Triple (fun s _ => P s) (Prog.ret (mapError TaskError.refused x) : TaskProg α)
      (orError (fun _ s _ => P s) fun e s _ => Refusal e ∧ Held env uuid newUuid start id s) C := by
  refine triple_ret fun s _ h => ?_
  cases hx : mapError TaskError.refused x with
  | ok a => exact h
  | error e => exact ⟨mapError_refusal hx, hheld s h⟩

theorem triple_openTaskSession (hopen : proposal.revoked = false) (hsession : proposal.session = none)
    (hhost : proposal.hostTask = none) :
    Triple (fun s _ => At env uuid newUuid start id proposal s) (openTaskSession env uuid id t)
      (orError (fun _ s _ => ∃ opened, At env uuid newUuid start id opened s ∧ opened.session.isSome = true)
        fun e s _ => Refusal e ∧ Held env uuid newUuid start id s) (Reach env uuid newUuid start start) := by
  have held : ∀ {p : TaskProposal} s, At env uuid newUuid start id p s → Held env uuid newUuid start id s :=
    fun s h => ⟨_, h⟩
  refine triple_andThen (triple_onTask (.attemptOpen proposal hopen hsession hhost)) fun _ => ?_
  refine triple_tryThen (triple_answer t.driver held) fun _ => triple_andThen triple_turn_at fun t => ?_
  refine triple_tryThen (triple_answer t.extension held) fun _ => ?_
  refine triple_andThen (triple_onTask (.spawnHost _ hopen hsession hhost rfl)) fun _ => triple_andThen triple_turn_at fun t => ?_
  refine triple_tryThen (triple_answer t.hello held) fun _ => triple_andThen triple_turn_at fun t => ?_
  refine triple_tryThen (triple_answer t.opened held) fun window => ?_
  refine triple_andThen (triple_onTask (.openSession _ ⟨"mcp-" ++ id, window.1, window.2⟩ hopen hsession rfl rfl)) fun _ => ?_
  exact triple_ret fun s _ h => ⟨_, h, rfl⟩

/-- What the checks of `start_task` let through. -/
theorem startChecks_eq_ok (h : startChecks id t server = .ok proposal) : server.task? id = some proposal ∧
    proposal.revoked = false ∧ proposal.userActionRequired = none ∧
    (proposal.session.isSome = true ∨ proposal.hostTask = none) := by
  unfold startChecks at h
  split at h
  · cases h
  · rename_i found hfound
    simp only [bind_eq_ok, require_eq_ok, Except.ok.injEq, Bool.not_eq_true', Option.isNone_iff_eq_none,
      Bool.or_eq_true] at h
    obtain ⟨-, hrevoked, -, hpaused, -, -, -, -, -, hhost, rfl⟩ := h
    exact ⟨hfound, hrevoked, hpaused, hhost⟩

theorem startChecks_refusal {e : TaskError} (h : startChecks id t server = .error e) : Refusal e := by
  unfold startChecks at h
  split at h
  · cases h
    exact ⟨_, rfl⟩
  · refine error_of_bind (error_of_require ⟨_, rfl⟩) (fun _ => ?_) e h
    refine error_of_bind (error_of_require ⟨_, rfl⟩) fun _ => ?_
    refine error_of_bind (error_of_require ⟨_, rfl⟩) fun _ => ?_
    refine error_of_bind (error_of_require ⟨_, rfl⟩) fun _ => ?_
    exact error_of_bind (error_of_require ⟨_, rfl⟩) fun _ e h => by cases h

/-- A task that has no session but owns a Host connection is not started. -/
theorem triple_startTask : Triple (fun s _ => At env uuid newUuid start id proposal s) (startTask env uuid id t)
      (orError (fun _ s _ => (proposal.session.isSome = true ∨ proposal.hostTask = none) ∧
          ∃ opened, At env uuid newUuid start id opened s ∧ opened.session.isSome = true)
        fun e s _ => Refusal e ∧ Held env uuid newUuid start id s) (Reach env uuid newUuid start start) := by
  refine triple_tryThen (R := fun found s _ => At env uuid newUuid start id proposal s ∧ found = proposal ∧
    proposal.revoked = false ∧ (proposal.session.isSome = true ∨ proposal.hostTask = none)) (triple_read fun s _ h => ?_)
    fun found => triple_fact fun hfound => ?_
  · cases hchecks : startChecks id t s with
    | error e => exact ⟨startChecks_refusal hchecks, _, h⟩
    | ok found =>
      obtain ⟨htask, hrevoked, -, hhost⟩ := startChecks_eq_ok hchecks
      obtain rfl := Option.some.inj (htask.symm.trans h.2)
      exact ⟨h, rfl, hrevoked, hhost⟩
  · obtain ⟨rfl, hopen, hhost⟩ := hfound
    refine triple_tryThen (R := fun _ s _ => ∃ opened, At env uuid newUuid start id opened s ∧ opened.session.isSome = true)
      ?_ fun _ => triple_read fun s _ h => ?_
    · cases hsession : found.session with
      | none =>
        have hnone := hhost.resolve_left (by simp [hsession])
        refine triple_weaken (triple_openTaskSession hopen hsession hnone) (fun _ _ h => h) fun result s rest h => ?_
        cases result <;> exact h
      | some session => exact triple_ret fun s _ h => ⟨found, h, by rw [hsession]; rfl⟩
    · obtain ⟨opened, hat, hsome⟩ := h
      obtain ⟨session, hsession⟩ := Option.isSome_iff_exists.mp hsome
      unfold startedTask
      rw [hat.2]
      dsimp only
      rw [hsession]
      exact ⟨hhost, opened, hat, hsome⟩

theorem triple_startTask_any : Triple (fun s _ => Held env uuid newUuid start id s) (startTask env uuid id t)
    (orError (fun _ s _ => Held env uuid newUuid start id s) fun e s _ => Refusal e ∧ Held env uuid newUuid start id s)
    (Reach env uuid newUuid start start) := by
  refine triple_exists fun proposal => triple_weaken triple_startTask (fun _ _ h => h) fun result s _ h => ?_
  cases result with
  | ok started => exact h.2.elim fun opened h => ⟨opened, h.1⟩
  | error e => exact h

end Starting

/-! ### Preparation -/

section Preparation
variable {input : PrepareTaskInput} {ownedWorkflow : Bool} {t : TaskTurn} {server : TaskServer}

/-- An error that shows no task and is no limit's. -/
def Other (e : TaskError) : Prop := e.reports = [] ∧ e.refusesCapacity = false

theorem Refusal.other {e : TaskError} (h : Refusal e) : Other e := by
  obtain ⟨message, rfl⟩ := h
  exact ⟨rfl, rfl⟩

theorem validateRegistration_invalid {fs : FileSystem} {now : Nat} {registration : TrustedTaskAuthorizationRegistration}
    {e : TrustedTaskAuthorizationBrokerError} (h : Broker.validateRegistration env fs now registration = .error e) :
    ∃ reason, e = .invalidRegistration reason := by
  have identity : ∀ (value : Option String) (bound : Nat) (field : String) (e : TrustedTaskAuthorizationBrokerError),
      value.elim (.ok ()) (Broker.validateIdentity · bound field) = .error e → ∃ reason, e = .invalidRegistration reason := by
    intro value bound field e he
    cases value with
    | none => cases he
    | some value => exact error_of_require (P := fun e => ∃ reason, e = .invalidRegistration reason) ⟨_, rfl⟩ e he
  refine error_of_bind (identity _ _ _) (fun _ => ?_) e h
  refine error_of_bind (identity _ _ _) fun _ => ?_
  refine error_of_bind (error_of_require ⟨_, rfl⟩) fun _ => ?_
  refine error_of_bind (error_of_require ⟨_, rfl⟩) fun _ => ?_
  refine error_of_bind (error_of_require ⟨_, rfl⟩) fun _ => ?_
  refine error_of_bind (error_of_require ⟨_, rfl⟩) fun _ => ?_
  refine error_of_bind (error_of_require ⟨_, rfl⟩) fun _ => ?_
  refine error_of_bind (error_of_require ⟨_, rfl⟩) fun _ => ?_
  refine error_of_bind (error_of_require ⟨_, rfl⟩) fun _ => ?_
  refine error_of_bind (error_of_require ⟨_, rfl⟩) fun _ => ?_
  refine error_of_bind (error_of_require ⟨_, rfl⟩) fun _ => ?_
  exact error_of_bind (error_of_require ⟨_, rfl⟩) fun _ => error_of_require ⟨_, rfl⟩

theorem mapError_validation {fs : FileSystem} {now : Nat} {registration : TrustedTaskAuthorizationRegistration}
    (e : TaskError) (h : mapError TaskError.broker (Broker.validateRegistration env fs now registration) = .error e) :
    Other e := by
  cases hx : Broker.validateRegistration env fs now registration with
  | ok a =>
    rw [hx] at h
    cases h
  | error e' =>
    rw [hx] at h
    cases h
    obtain ⟨reason, rfl⟩ := validateRegistration_invalid hx
    exact ⟨rfl, rfl⟩

theorem newRegistration_other {origins : List String} {target : TrustedTaskAuthorizationTarget} {grantId : String}
    {e : TaskError} (h : newRegistration env input ownedWorkflow origins target grantId t = .error e) : Other e := by
  refine error_of_bind (fun e he => (mapError_refusal he).other) (fun _ => ?_) e h
  refine error_of_bind (fun e he => (mapError_refusal he).other) fun _ => ?_
  refine error_of_bind (fun e he => ?_) fun _ => ?_
  · unfold taskExpiry at he
    dsimp only at he
    split at he
    · split at he
      · cases he
        exact ⟨rfl, rfl⟩
      · cases he
    · cases he
  refine error_of_bind mapError_validation fun _ => ?_
  refine error_of_bind (fun e he => ?_) fun _ e he => by cases he
  unfold withRecording at he
  split at he
  · refine error_of_bind (fun e he => (mapError_refusal he).other) (fun _ => ?_) e he
    exact error_of_bind mapError_validation fun _ e he => by cases he
  · cases he

theorem register_error {broker : BrokerState} {fs : FileSystem} {registration : TrustedTaskAuthorizationRegistration}
    {deadline : Option Nat} {readings : BrokerState.RegisterReadings} {e : TrustedTaskAuthorizationBrokerError}
    (h : (broker.register env uuid fs registration deadline readings).1 = .error e) :
    e = .unavailable ∨ ∃ reason, e = .invalidRegistration reason := by
  unfold BrokerState.register at h
  split at h
  · rename_i e' hinvalid
    obtain rfl := Except.error.inj h
    exact Or.inr (validateRegistration_invalid hinvalid)
  · dsimp only at h
    split at h
    · exact Or.inl (Except.error.inj h).symm
    · split at h
      · exact Or.inl (Except.error.inj h).symm
      · split at h
        · exact Or.inr ⟨_, (Except.error.inj h).symm⟩
        · cases h

/-- What becomes of a request to prepare a task: another refusal, a limit's, or the task. -/
inductive Prepared (env : Env) (uuid newUuid : Nat → String) (start : TaskServer) :
    Except TaskError String × TaskServer → Prop where
  | other (e : TaskError) (server : TaskServer) : Other e → Reach env uuid newUuid start start server →
      Prepared env uuid newUuid start (.error e, server)
  | capacity (server : TaskServer) : Reach env uuid newUuid start start server →
      Prepared env uuid newUuid start (.error .capacity, server)
  | broker (server : TaskServer) : Reach env uuid newUuid start start server →
      Prepared env uuid newUuid start (.error (.broker .unavailable), server)
  | task (id : String) (server : TaskServer) : Held env uuid newUuid start id server →
      Prepared env uuid newUuid start (.ok id, server)

theorem prepared (hreach : Reach env uuid newUuid start start server) :
    Prepared env uuid newUuid start (prepareScopedTask env uuid newUuid input ownedWorkflow t server) := by
  unfold prepareScopedTask
  split
  · exact .other _ _ ⟨rfl, rfl⟩ hreach
  · unfold admitTask ensureTaskCapacity
    have hretained := hreach.tail (.retain server t.capacityMs)
    generalize server.retainTasks t.capacityMs = retained at hretained
    dsimp only
    split
    · rename_i e he
      split at he
      · cases he
        exact .capacity _ hretained
      · cases he
    · have hdrawn := hretained.tail (.draw _)
      split
      · rename_i e he
        exact .other _ _ (newRegistration_other he) hdrawn
      · rename_i registration deadline _
        have hregistered := hdrawn.tail (.unregistered _ t.fs registration deadline t.register)
        cases hregister : retained.broker.register env uuid t.fs registration deadline t.register with
        | mk result broker =>
          dsimp only at hregistered
          rw [hregister] at hregistered
          cases result with
          | error e =>
            rcases register_error (by rw [hregister]) with rfl | ⟨reason, rfl⟩
            · exact .broker _ hregistered
            · exact .other _ _ ⟨rfl, rfl⟩ hregistered
          | ok receipt =>
            refine .task _ _ ⟨newProposal input registration receipt, hretained.tail (.enter retained input t.fs registration
              deadline t.register receipt broker hregister), ?_⟩
            rw [task?_insertTask, if_pos rfl]

theorem triple_prepare {C : TaskServer → Prop} : Triple (fun s _ => Reach env uuid newUuid start start s)
    (Prog.update (prepareScopedTask env uuid newUuid input ownedWorkflow t) : TaskProg String)
    (orError (fun id s _ => Held env uuid newUuid start id s)
      fun e s _ => e.reports = [] ∧ Reach env uuid newUuid start start s) C := by
  refine triple_update fun s _ hs => ?_
  have hprepared : Prepared env uuid newUuid start (prepareScopedTask env uuid newUuid input ownedWorkflow t s) := prepared hs
  generalize prepareScopedTask env uuid newUuid input ownedWorkflow t s = outcome at hprepared
  cases hprepared with
  | other e s' hother hreach => exact ⟨hother.1, hreach⟩
  | capacity s' hreach | broker s' hreach => exact ⟨rfl, hreach⟩
  | task id s' hheld => exact hheld

end Preparation

/-! ### Requests -/

section Requests
variable {id : String} {t : TaskTurn}

theorem StopAnswer.reported {proposal : TaskProposal} {payload : TaskPayload} {server : TaskServer}
    (h : StopAnswer env uuid newUuid start id proposal payload server) : server.Reported payload := by
  obtain ⟨rfl, stopped, hat, hstops, hstatus⟩ := h
  exact fun hstopped => ⟨stopped, hat.2, hstops.revoked, hstatus ▸ hstopped⟩

/-- Every report in an error is true. -/
def ErrorReported (env : Env) (uuid newUuid : Nat → String) (start : TaskServer) (e : TaskError) (server : TaskServer) :
    Prop := Reach env uuid newUuid start start server ∧ ∀ payload ∈ e.reports, server.Reported payload

theorem errorReported_of_none {e : TaskError} {server : TaskServer} (hnone : e.reports = [])
    (h : Reach env uuid newUuid start start server) : ErrorReported env uuid newUuid start e server :=
  ⟨h, fun payload hmem => by rw [hnone] at hmem; cases hmem⟩

variable (huuid : Function.Injective uuid) (hnew : Function.Injective newUuid) (hinv : start.Inv uuid newUuid)
include huuid hnew hinv

/-- `revoke_task` in any state that was reached. -/
theorem triple_revokeTask_any : Triple (fun s _ => Reach env uuid newUuid start start s) (revokeTask env uuid id t)
    (orError (fun payload s _ => Reach env uuid newUuid start start s ∧ s.Reported payload)
      fun e s _ => Other e ∧ Reach env uuid newUuid start start s) (Reach env uuid newUuid start start) := by
  intro s script hs
  cases htask : s.task? id with
  | none =>
    have hnone : revokeTask env uuid id t s script = .done (.error (.refused taskNotFound)) s script := by
      simp only [revokeTask, Prog.andThen, Prog.read, Prog.update, htask, Prog.ret]
    rw [hnone]
    exact ⟨⟨rfl, rfl⟩, hs⟩
  | some proposal =>
    refine triple_weaken (triple_revokeTask env huuid hnew hinv ⟨hs, htask⟩) (fun _ _ h => h) (fun result s' _ h => ?_) s
      script rfl
    cases result with
    | ok payload =>
      have hreported := h.2.reported
      obtain ⟨-, -, stopped, hat, -⟩ := h
      exact ⟨hat.1, hreported⟩
    | error e =>
      obtain ⟨rfl, rfl, -⟩ := h
      exact ⟨⟨rfl, rfl⟩, hs⟩

theorem triple_startExactTask (input : PrepareTaskInput) : Triple (fun s _ => Reach env uuid newUuid start start s)
    (startExactTask env uuid newUuid input t)
    (orError (fun _ s _ => Reach env uuid newUuid start start s) fun e s _ => ErrorReported env uuid newUuid start e s)
    (Reach env uuid newUuid start start) := by
  refine triple_tryThen (R := fun id s _ => Held env uuid newUuid start id s)
    (triple_weaken triple_prepare (fun _ _ h => h) fun result s _ h => ?_) fun id => ?_
  · cases result with
    | ok id => exact h
    | error e => exact errorReported_of_none h.1 h.2
  · refine triple_andThen triple_startTask_any fun result => ?_
    cases result with
    | ok started => exact triple_ret fun s _ h => h.elim fun _ h => h.1
    | error e =>
      refine triple_weaken (triple_fact fun hrefusal => ?_) (fun s _ h => ⟨h.2.elim fun _ h => h.1, h.1⟩) fun _ _ _ h => h
      refine triple_andThen (triple_revokeTask_any huuid hnew hinv) fun result => ?_
      cases result with
      | ok cleanup =>
        refine triple_ret fun s _ h => ⟨h.1, fun payload hmem => ?_⟩
        split at hmem
        · rw [hrefusal.other.1] at hmem
          cases hmem
        · rcases List.mem_cons.mp hmem with rfl | hmem
          · exact h.2
          · rw [hrefusal.other.1] at hmem
            cases hmem
      | error cleanup =>
        refine triple_ret fun s _ h => errorReported_of_none ?_ h.2
        simp only [TaskError.reports, hrefusal.other.1, h.1.1, List.append_nil]

omit huuid hnew hinv

/-- A check of the arguments or of the environment. -/
theorem triple_check {α : Type} {C : TaskServer → Prop} {x : Except TaskError α}
    (hx : ∀ e, x = .error e → e.reports = []) :
    Triple (fun s _ => Reach env uuid newUuid start start s) (Prog.ret x : TaskProg α)
      (orError (fun _ s _ => Reach env uuid newUuid start start s)
        fun e s _ => ErrorReported env uuid newUuid start e s) C := by
  refine triple_ret fun s _ h => ?_
  cases hcase : x with
  | ok a => exact h
  | error e => exact errorReported_of_none (hx e hcase) h

theorem mapError_reports {α : Type} {x : Except String α} (e : TaskError) (h : mapError TaskError.refused x = .error e) :
    e.reports = [] := (mapError_refusal h).other.1

theorem workflowChecks_reports {input : PrepareTaskInput} (e : TaskError) (h : workflowChecks input t = .error e) :
    e.reports = [] := by
  refine error_of_bind (P := fun e => e.reports = []) (error_of_require rfl) (fun _ => ?_) e h
  exact error_of_bind mapError_reports fun _ e he => by cases he

theorem triple_ensureTaskCapacity {now : Nat} {C : TaskServer → Prop} :
    Triple (fun s _ => Reach env uuid newUuid start start s) (Prog.update (ensureTaskCapacity now) : TaskProg Unit)
      (orError (fun _ s _ => Reach env uuid newUuid start start s)
        fun e s _ => ErrorReported env uuid newUuid start e s) C := by
  refine triple_update fun s _ h => ?_
  have hretained := h.tail (.retain s now)
  unfold ensureTaskCapacity
  dsimp only
  split
  · exact errorReported_of_none rfl hretained
  · exact hretained

include huuid hnew hinv

theorem triple_startOwnedWindow (input : PrepareTaskInput) (workflowId : String) :
    Triple (fun s _ => Reach env uuid newUuid start start s) (startOwnedWindow env uuid newUuid input workflowId t)
      (orError (fun _ s _ => Reach env uuid newUuid start start s)
        fun e s _ => ErrorReported env uuid newUuid start e s) (Reach env uuid newUuid start start) := by
  refine triple_tryThen (triple_check mapError_reports) fun window => ?_
  refine triple_tryThen (R := fun id s _ => Held env uuid newUuid start id s)
    (triple_weaken triple_prepare (fun _ _ h => h) fun result s _ h => ?_) fun id => ?_
  · cases result with
    | ok id => exact h
    | error e => exact errorReported_of_none h.1 h.2
  · refine triple_andThen (R := fun _ s _ => Held env uuid newUuid start id s) (triple_exists fun proposal =>
      triple_weaken (triple_onTask (.bindWorkflow proposal (some workflowId))) (fun _ _ h => h) fun _ _ _ h => ⟨_, h⟩)
      fun _ => triple_andThen triple_startTask_any fun result => ?_
    cases result with
    | error e =>
      refine triple_weaken (triple_fact fun hrefusal => ?_) (fun s _ h => ⟨h.2.elim fun _ h => h.1, h.1⟩) fun _ _ _ h => h
      refine triple_andThen (triple_revokeTask_any huuid hnew hinv) fun result => ?_
      refine triple_ret fun s _ h => errorReported_of_none hrefusal.other.1 ?_
      cases result with
      | ok payload => exact h.1
      | error e' => exact h.2
    | ok started =>
      exact triple_weaken (triple_check mapError_reports) (fun s _ h => h.elim fun _ h => h.1) fun _ _ _ h => h

theorem triple_startWorkflowTask (input : PrepareTaskInput) :
    Triple (fun s _ => Reach env uuid newUuid start start s) (startWorkflowTask env uuid newUuid input t)
      (orError (fun _ s _ => Reach env uuid newUuid start start s)
        fun e s _ => ErrorReported env uuid newUuid start e s) (Reach env uuid newUuid start start) := by
  refine triple_tryThen (triple_check workflowChecks_reports) fun _ => ?_
  refine triple_tryThen triple_ensureTaskCapacity fun _ => ?_
  refine triple_tryThen (triple_check mapError_reports) fun _ => triple_tryThen (triple_check mapError_reports) fun workflowId => ?_
  refine triple_andThen keeps_turn_reach fun t => triple_andThen (triple_startOwnedWindow huuid hnew hinv input workflowId)
    fun result => ?_
  cases result with
  | ok started => exact triple_ret fun s _ h => h
  | error e => exact triple_ret fun s _ h => h

omit huuid hnew hinv

theorem userActionChecks_eq_ok {reason : String} {server : TaskServer} {proposal : TaskProposal}
    (h : userActionChecks id reason t server = .ok proposal) :
    server.task? id = some proposal ∧ proposal.revoked = false := by
  simp only [userActionChecks, bind_eq_ok, require_eq_ok] at h
  obtain ⟨-, -, h⟩ := h
  split at h
  · cases h
  · rename_i found hfound
    simp only [bind_eq_ok, require_eq_ok, Bool.not_eq_true', Bool.or_eq_false_iff, Except.ok.injEq] at h
    obtain ⟨-, ⟨hopen, -⟩, rfl⟩ := h
    exact ⟨hfound, hopen⟩

theorem userActionChecks_reports {reason : String} {server : TaskServer} (e : TaskError)
    (h : userActionChecks id reason t server = .error e) : e.reports = [] := by
  refine error_of_bind (P := fun e => e.reports = []) (error_of_require rfl) (fun _ e h => ?_) e h
  split at h
  · cases h
    rfl
  · exact error_of_bind (P := fun e => e.reports = []) (error_of_require rfl) (fun _ e h => by cases h) e h

/-- A task that was paused: its lease has been revoked. -/
theorem triple_requireUserAction {reason : String} {C : TaskServer → Prop} :
    Triple (fun s _ => Reach env uuid newUuid start start s) (Prog.update (requireUserAction id reason t) : TaskProg TaskPayload)
      (orError (fun payload s _ => Reach env uuid newUuid start start s ∧ payload.status = .needsUserAction ∧
          ∃ proposal, s.task? id = some proposal ∧ proposal.Closed)
        fun e s _ => ErrorReported env uuid newUuid start e s) C := by
  refine triple_update fun s _ hs => ?_
  unfold requireUserAction
  cases hchecks : userActionChecks id reason t s with
  | error e => exact errorReported_of_none (userActionChecks_reports e hchecks) hs
  | ok proposal =>
    obtain ⟨htask, hopen⟩ := userActionChecks_eq_ok hchecks
    dsimp only
    cases hreceipt : proposal.receipt with
    | none =>
      dsimp only
      exact errorReported_of_none rfl hs
    | some receipt =>
      dsimp only
      rcases revoke_cases s hreceipt with ⟨hrevoke, -⟩ | ⟨broker, hrevoke, -⟩
      · rw [hrevoke]
        exact errorReported_of_none rfl hs
      · rw [hrevoke]
        refine ⟨hs.tail (.pause s id reason proposal receipt broker htask hopen hreceipt hrevoke), rfl,
          proposal.pause receipt.authorizationId reason, ?_, Or.inr rfl⟩
        rw [task?_modifyTask, if_pos rfl, show ({ s with broker := broker } : TaskServer).task? id = some proposal from htask]
        rfl

include huuid hnew hinv

theorem triple_validateWorkflowProcess : Triple (fun s _ => Reach env uuid newUuid start start s)
    (validateWorkflowProcess env uuid id t)
    (orError (fun _ s _ => Reach env uuid newUuid start start s)
      fun e s _ => ErrorReported env uuid newUuid start e s) (Reach env uuid newUuid start start) := by
  refine triple_andThen keeps_read fun found => ?_
  cases found with
  | none => exact triple_ret fun s _ h => h
  | some proposal =>
    dsimp only
    split
    · exact triple_ret fun s _ h => h
    · exact triple_ret fun s _ h => errorReported_of_none rfl h
    · split
      · exact triple_ret fun s _ h => h
      · refine triple_andThen (triple_revokeTask_any huuid hnew hinv) fun result => triple_ret fun s _ h => ?_
        cases result with
        | ok payload =>
          refine ⟨h.1, fun shown hmem => ?_⟩
          obtain rfl := List.mem_singleton.mp hmem
          exact h.2
        | error e => exact errorReported_of_none rfl h.2

omit huuid hnew hinv

/-- What the checks of `task_call` let through. -/
theorem callChecks_eq_ok {method : String} {server : TaskServer} {u : Unit} (h : callChecks id method t server = .ok u) :
    ∃ proposal, server.task? id = some proposal ∧ proposal.revoked = false ∧ proposal.userActionRequired = none ∧
      proposal.session.isSome = true := by
  unfold callChecks at h
  split at h
  · cases h
  · rename_i proposal htask
    simp only [bind_eq_ok, require_eq_ok, mapError_eq_ok, Bool.not_eq_true', Option.isNone_iff_eq_none] at h
    obtain ⟨-, hopen, -, hpaused, -, -, -, -, -, -, -, -, -, hsession, -⟩ := h
    exact ⟨proposal, htask, hopen, hpaused, hsession⟩

theorem callChecks_reports {method : String} {server : TaskServer} (e : TaskError)
    (h : callChecks id method t server = .error e) : e.reports = [] := by
  unfold callChecks at h
  split at h
  · cases h
    rfl
  · have required : ∀ {c : Bool} {message : String} (e : TaskError), require c (.refused message) = .error e → e.reports = [] :=
      fun e h => error_of_require (P := fun e => e.reports = []) rfl e h
    refine error_of_bind (P := fun e => e.reports = []) required (fun _ => ?_) e h
    refine error_of_bind required fun _ => error_of_bind required fun _ => error_of_bind required fun _ => ?_
    refine error_of_bind required fun _ => error_of_bind mapError_reports fun _ => error_of_bind required fun _ => ?_
    intro e h
    split at h
    · exact mapError_reports e h
    · cases h

include huuid hnew hinv

theorem triple_taskCall {method : String} : Triple (fun s _ => Reach env uuid newUuid start start s)
    (taskCall env uuid id method t)
    (orError (fun _ s _ => Reach env uuid newUuid start start s)
      fun e s _ => ErrorReported env uuid newUuid start e s) (Reach env uuid newUuid start start) := by
  refine triple_tryThen (triple_check mapError_reports) fun _ => ?_
  refine triple_tryThen (triple_validateWorkflowProcess huuid hnew hinv) fun _ => ?_
  refine triple_tryThen (R := fun _ s _ => ∃ proposal, At env uuid newUuid start id proposal s ∧
    (proposal.revoked = false ∧ proposal.userActionRequired = none ∧ proposal.session.isSome = true))
    (triple_read fun s _ h => ?_) fun _ => triple_exists fun proposal => triple_fact fun hproposal => ?_
  · cases hchecks : callChecks id method t s with
    | error e => exact errorReported_of_none (callChecks_reports e hchecks) h
    | ok u =>
      obtain ⟨proposal, htask, hrest⟩ := callChecks_eq_ok hchecks
      exact ⟨proposal, ⟨h, htask⟩, hrest⟩
  · obtain ⟨hopen, hpaused, hsession⟩ := hproposal
    refine triple_andThen (triple_onTask (.forward proposal method hopen hpaused hsession)) fun _ => ?_
    refine triple_weaken (triple_andThen keeps_turn_reach fun t => triple_check mapError_reports) (fun s _ h => h.1)
      fun _ _ _ h => h

end Requests

/-! ### Workflow calls -/

/-- The payloads in the result of a workflow call. -/
def WorkflowResult.reports : WorkflowResult → List TaskPayload
  | .unchanged shown => [shown]
  | .report _ | .rebound _ => []

section Rebinding
variable {id : String} {t : TaskTurn} {target : TrustedTaskAuthorizationTarget} {proposal : TaskProposal}

/-- The lease of the new window: the old one has been stopped. -/
theorem triple_rebindLease {stopped : TaskProposal} (husable : Usable start id) (hrevoked : stopped.revoked = true)
    (hstopped : stoppedTaskStatus stopped.cleanup = .stopped) {C : TaskServer → Prop} :
    Triple (fun s _ => At env uuid newUuid start id stopped s) (Prog.update (rebindLease env uuid id target t) : TaskProg Unit)
      (orError (fun _ s _ => ∃ renewed, At env uuid newUuid start id renewed s ∧ renewed.session = stopped.session ∧
          renewed.hostTask = stopped.hostTask)
        fun e s _ => ErrorReported env uuid newUuid start e s) C := by
  refine triple_update fun s _ hs => ?_
  unfold rebindLease
  dsimp only
  split
  · exact errorReported_of_none rfl hs.1
  · rename_i deadline _
    have hretargeted := hs.change (.retarget stopped target hrevoked)
    generalize s.modifyTask id (TaskProposal.retarget target) = server at hretargeted
    rw [hretargeted.2]
    dsimp only
    have hregistered := hretargeted.1.tail (.unregistered server t.fs (stopped.retarget target).registration (some deadline)
      t.register)
    cases hregister : server.broker.register env uuid t.fs (stopped.retarget target).registration (some deadline)
        t.register with
    | mk result broker =>
      rw [hregister] at hregistered
      cases result with
      | error e => exact errorReported_of_none rfl hregistered
      | ok receipt =>
        refine ⟨(stopped.retarget target).renew receipt, ⟨hretargeted.1.tail (.renew server id (stopped.retarget target) t.fs
          (some deadline) t.register receipt broker hretargeted.2 hrevoked hstopped husable hregister), ?_⟩, rfl, rfl⟩
        rw [task?_modifyTask, if_pos rfl, show ({ server with broker := broker } : TaskServer).task? id = _ from
          hretargeted.2]
        rfl

variable (huuid : Function.Injective uuid) (hnew : Function.Injective newUuid) (hinv : start.Inv uuid newUuid)
include huuid hnew hinv

/-- What stopping the old window leaves. -/
def StoppedWindow (proposal current : TaskProposal) : Except TaskError TaskPayload → Prop
  | .ok payload => (proposal.bindWorkflow none).StopsTo current ∧ payload.status = stoppedTaskStatus current.cleanup
  | .error e => e.reports = []

theorem triple_leaveWindow {workflowId : Option String} : Triple (fun s _ => At env uuid newUuid start id proposal s)
    (leaveWindow env uuid id workflowId t)
    (orError (fun _ s _ => ∃ stopped, At env uuid newUuid start id stopped s ∧ (stopped.revoked = true ∧
        stoppedTaskStatus stopped.cleanup = .stopped ∧ stopped.session = none ∧
        stopped.hostTask.isSome = proposal.hostTask.isSome))
      fun e s _ => ErrorReported env uuid newUuid start e s) (Reach env uuid newUuid start start) := by
  refine triple_andThen (triple_onTask (.bindWorkflow proposal none)) fun _ => ?_
  -- What is known of the task whatever the old window says.
  refine triple_andThen (R := fun result s _ => ∃ current, At env uuid newUuid start id current s ∧
    StoppedWindow proposal current result) ?_ fun result => triple_exists fun current => triple_fact fun hcurrent => ?_
  · intro s script hs
    refine triple_weaken (triple_revokeTask env huuid hnew hinv hs) (fun _ _ h => h) (fun result s' _ h => ?_) s script rfl
    cases result with
    | ok payload =>
      obtain ⟨-, -, stopped, hat, hstops, hstatus⟩ := h
      exact ⟨stopped, hat, hstops, hstatus⟩
    | error e =>
      obtain ⟨rfl, rfl, -⟩ := h
      exact ⟨_, hs, rfl⟩
  · refine triple_andThen (triple_onTask (.bindWorkflow current workflowId)) fun _ => triple_ret fun s _ h => ?_
    cases result with
    | error e => exact errorReported_of_none hcurrent h.1
    | ok payload =>
      obtain ⟨hstops, hstatus⟩ := hcurrent
      dsimp only
      split
      · rename_i hstopped
        exact ⟨_, h, hstops.revoked, hstatus ▸ hstopped, hstops.session, hstops.hostTask⟩
      · exact errorReported_of_none rfl h.1

/-- A task that owns a Host connection is not rebound. -/
theorem triple_rebindWindow (husable : Usable start id) : Triple (fun s _ => At env uuid newUuid start id proposal s)
    (rebindWindow env uuid id proposal target t)
    (orError (fun result s _ => Reach env uuid newUuid start start s ∧ (∀ payload ∈ result.reports, s.Reported payload) ∧
        ∀ started, result = .rebound started → proposal.hostTask = none)
      fun e s _ => ErrorReported env uuid newUuid start e s) (Reach env uuid newUuid start start) := by
  unfold rebindWindow
  split
  · refine triple_ret fun s _ h => ⟨h.1, fun payload hmem hstopped => ?_, fun started heq => by cases heq⟩
    obtain rfl := List.mem_singleton.mp hmem
    cases hstopped
  · refine triple_tryThen (triple_leaveWindow huuid hnew hinv) fun _ => triple_exists fun stopped => triple_fact fun hstopped => ?_
    obtain ⟨hrevoked, hstatus, hsession, hhost⟩ := hstopped
    refine triple_andThen triple_turn_at fun t => ?_
    refine triple_tryThen (triple_rebindLease husable hrevoked hstatus) fun _ => triple_exists fun renewed => ?_
    refine triple_fact fun hrenewed => triple_tryThen (R := fun _ s _ => Reach env uuid newUuid start start s ∧
      proposal.hostTask = none) (triple_weaken triple_startTask (fun _ _ h => h) fun result s _ h => ?_) fun started => ?_
    · cases result with
      | error e => exact errorReported_of_none h.1.other.1 (h.2.elim fun _ h => h.1)
      | ok started =>
        obtain ⟨hfree, opened, hat, -⟩ := h
        refine ⟨hat.1, ?_⟩
        rw [hrenewed.1, hrenewed.2, hsession] at hfree
        have hnone := hfree.resolve_left (by simp)
        rw [hnone] at hhost
        exact Option.not_isSome_iff_eq_none.mp (by rw [← hhost]; simp)
    · exact triple_ret fun s _ h => ⟨h.1, fun payload hmem => absurd hmem List.not_mem_nil, fun _ _ => h.2⟩

omit huuid hnew hinv

theorem workflowCallChecks_eq_ok {server : TaskServer} (h : workflowCallChecks id t server = .ok proposal) :
    server.task? id = some proposal ∧ proposal.revoked = false ∧ proposal.userActionRequired = none := by
  unfold workflowCallChecks at h
  split at h
  · cases h
  · rename_i found hfound
    simp only [bind_eq_ok, require_eq_ok, Bool.not_eq_true', Bool.or_eq_false_iff, Option.isSome_eq_false_iff,
      Option.isNone_iff_eq_none, Except.ok.injEq] at h
    obtain ⟨-, ⟨⟨hopen, hpaused⟩, -⟩, -, -, rfl⟩ := h
    exact ⟨hfound, hopen, hpaused⟩

theorem workflowCallChecks_reports {server : TaskServer} (e : TaskError)
    (h : workflowCallChecks id t server = .error e) : e.reports = [] := by
  unfold workflowCallChecks at h
  split at h
  · cases h
    rfl
  · refine error_of_bind (P := fun e => e.reports = []) (error_of_require rfl) (fun _ => ?_) e h
    exact error_of_bind (P := fun e : TaskError => e.reports = []) (error_of_require rfl) fun _ _ h => by cases h

theorem Usable.of_checks {server : TaskServer} (h : workflowCallChecks id t server = .ok proposal) : Usable server id := by
  obtain ⟨htask, hopen, hpaused⟩ := workflowCallChecks_eq_ok h
  exact ⟨proposal, htask, hopen, hpaused⟩

/-- What a workflow call returns, from the state in which it is taken up. -/
def WorkflowAnswered (env : Env) (uuid newUuid : Nat → String) (start : TaskServer) (result : WorkflowResult)
    (server : TaskServer) : Prop :=
  Reach env uuid newUuid start start server ∧ ∀ payload ∈ result.reports, server.Reported payload

theorem workflowAnswered_report {report : RunReport} {server : TaskServer} (h : Reach env uuid newUuid start start server) :
    WorkflowAnswered env uuid newUuid start (.report report) server :=
  ⟨h, fun _ hmem => absurd hmem List.not_mem_nil⟩

include huuid hnew hinv

theorem triple_workflowCall {method : String} : Triple (fun s _ => s = start) (workflowCall env uuid id method t)
    (orError (fun result s _ => WorkflowAnswered env uuid newUuid start result s)
      fun e s _ => ErrorReported env uuid newUuid start e s) (Reach env uuid newUuid start start) := by
  refine triple_tryThen (R := fun _ s _ => Reach env uuid newUuid start start s ∧ Usable start id)
    (triple_read fun s _ hs => ?_) fun _ => triple_fact fun husable => ?_
  · subst hs
    cases hchecks : workflowCallChecks id t s with
    | error e => exact errorReported_of_none (workflowCallChecks_reports e hchecks) .refl
    | ok proposal => exact ⟨.refl, Usable.of_checks hchecks⟩
  · split
    · refine triple_ret fun s _ h => ?_
      cases t.workflowStatus with
      | ok report => exact workflowAnswered_report h
      | error message => exact errorReported_of_none rfl h
    · split
      · refine triple_tryThen (triple_check mapError_reports) fun report => ?_
        refine triple_tryThen (R := fun _ s _ => Reach env uuid newUuid start start s)
          (triple_weaken (triple_revokeTask_any huuid hnew hinv) (fun _ _ h => h) fun result s _ h => ?_) fun _ =>
          triple_ret fun s _ h => workflowAnswered_report h
        cases result with
        | ok payload => exact h.1
        | error e => exact errorReported_of_none h.1.1 h.2
      · split
        · refine triple_andThen keeps_turn_reach fun t => triple_tryThen (triple_check mapError_reports) fun window => ?_
          refine triple_tryThen (R := fun proposal s _ => At env uuid newUuid start id proposal s) (triple_read fun s _ h => ?_)
            fun proposal => ?_
          · cases htask : s.task? id with
            | none => exact errorReported_of_none rfl h
            | some proposal => exact ⟨h, htask⟩
          · refine triple_weaken (triple_rebindWindow huuid hnew hinv husable) (fun _ _ h => h) fun result s _ h => ?_
            cases result with
            | ok result => exact ⟨h.1, h.2.1⟩
            | error e => exact h
        · exact triple_ret fun s _ h => errorReported_of_none rfl h

end Rebinding

/-! ### Every request -/

/-- Only a revoked task is said to be stopped. -/
theorem stopped_of_status {proposal : TaskProposal} {now : Nat} (h : proposal.status now = .stopped) :
    proposal.revoked = true ∧ stoppedTaskStatus proposal.cleanup = .stopped := by
  unfold TaskProposal.status at h
  split at h
  · cases h
  split at h
  · rename_i hrevoked
    exact ⟨hrevoked, h⟩
  · repeat' split at h
    all_goals cases h

theorem taskStatus_reported {id : String} {t : TaskTurn} {server : TaskServer} {payload : TaskPayload}
    (h : taskStatus id t server = .ok payload) : server.Reported payload := by
  unfold taskStatus at h
  split at h
  · cases h
  · rename_i proposal htask
    have hpayload : payload.taskId = id ∧ payload.status = proposal.status t.unixMs := by
      dsimp only at h
      split at h
      · cases h
        exact ⟨rfl, rfl⟩
      · cases hreport : t.workflowStatus with
        | error message =>
          rw [hreport] at h
          cases h
        | ok report =>
          rw [hreport] at h
          cases h
          exact ⟨rfl, rfl⟩
    obtain ⟨rfl, hstatus⟩ := hpayload
    exact fun hstopped => ⟨proposal, htask, stopped_of_status (hstatus ▸ hstopped)⟩

theorem taskStatus_reports {id : String} {t : TaskTurn} {server : TaskServer} (e : TaskError)
    (h : taskStatus id t server = .error e) : e.reports = [] := by
  unfold taskStatus at h
  split at h
  · cases h
    rfl
  · dsimp only at h
    split at h
    · cases h
    · exact mapError_reports e h

section Serving
variable (huuid : Function.Injective uuid) (hnew : Function.Injective newUuid) (hinv : start.Inv uuid newUuid)
include huuid hnew hinv

/-- A request is answered in a state that was reached, and its reports are true there. -/
theorem triple_serve (env : Env) (t : TaskTurn) (request : TaskRequest) : Triple (fun s _ => s = start)
    (serve env uuid newUuid t request)
    (fun result s _ => Reach env uuid newUuid start start s ∧ ∀ payload ∈ answerReports result, s.Reported payload)
    (Reach env uuid newUuid start start) := by
  have output : ∀ {α : Type} {f : α → TaskOutput} {p : TaskProg α} {P : TaskServer → Prop}
      (hp : Triple (fun s _ => P s) p (orError (fun a s _ => Reach env uuid newUuid start start s ∧
          ∀ payload ∈ (f a).reports, s.Reported payload) fun e s _ => ErrorReported env uuid newUuid start e s)
        (Reach env uuid newUuid start start)),
      Triple (fun s _ => P s) (output f p) (fun result s _ => Reach env uuid newUuid start start s ∧
        ∀ payload ∈ answerReports result, s.Reported payload) (Reach env uuid newUuid start start) :=
    fun hp => triple_tryThen hp fun a => triple_ret fun s _ h => h
  have started : ∀ {α : Type} {f : α → TaskOutput} {p : TaskProg α} (hf : ∀ a, (f a).reports = [])
      (hp : Triple (fun s _ => Reach env uuid newUuid start start s) p
        (orError (fun _ s _ => Reach env uuid newUuid start start s)
          fun e s _ => ErrorReported env uuid newUuid start e s) (Reach env uuid newUuid start start)),
      Triple (fun s _ => s = start) (TaskServer.output f p) (fun result s _ => Reach env uuid newUuid start start s ∧
        ∀ payload ∈ answerReports result, s.Reported payload) (Reach env uuid newUuid start start) := by
    intro α f p hf hp
    refine output (triple_weaken hp (fun s _ hs => hs ▸ Relation.ReflTransGen.refl) fun result s _ h => ?_)
    cases result with
    | ok a => exact ⟨h, fun payload hmem => by rw [hf a] at hmem; cases hmem⟩
    | error e => exact h
  cases request with
  | startTask input => exact started (fun _ => rfl) (triple_startExactTask huuid hnew hinv input)
  | startWorkflowTask input => exact started (fun _ => rfl) (triple_startWorkflowTask huuid hnew hinv input)
  | stopTask id =>
    refine output (P := fun s => s = start) (triple_weaken (triple_revokeTask_any huuid hnew hinv) (fun s _ hs => hs ▸ Relation.ReflTransGen.refl) fun result s _ h => ?_)
    cases result with
    | ok payload =>
      refine ⟨h.1, fun shown hmem => ?_⟩
      obtain rfl := List.mem_singleton.mp hmem
      exact h.2
    | error e => exact errorReported_of_none h.1.1 h.2
  | taskStatus id =>
    refine output (triple_read fun s _ hs => ?_)
    subst hs
    cases hstatus : taskStatus id t s with
    | ok payload =>
      refine ⟨.refl, fun shown hmem => ?_⟩
      obtain rfl := List.mem_singleton.mp hmem
      exact taskStatus_reported hstatus
    | error e => exact errorReported_of_none (taskStatus_reports e hstatus) .refl
  | requireUserAction id reason =>
    have hreach : ∀ s (_ : List TaskAnswer), s = start → Reach env uuid newUuid start start s := fun s _ hs => hs ▸ .refl
    refine output (P := fun s => s = start) (triple_weaken triple_requireUserAction hreach fun result s _ h => ?_)
    cases result with
    | ok payload =>
      refine ⟨h.1, fun shown hmem hstopped => ?_⟩
      obtain rfl := List.mem_singleton.mp hmem
      rw [h.2.1] at hstopped
      cases hstopped
    | error e => exact h
  | workflowCall id method =>
    refine output (triple_weaken (triple_workflowCall huuid hnew hinv) (fun _ _ h => h) fun result s _ h => ?_)
    cases result with
    | ok result => cases result <;> exact h
    | error e => exact h
  | taskCall id method => exact started (fun _ => rfl) (triple_taskCall huuid hnew hinv)

end Serving
end TaskServer
end DccCua
