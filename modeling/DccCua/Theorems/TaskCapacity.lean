import DccCua.Theorems.Lease
import DccCua.Theorems.TaskRebind

/-! # The capacity for tasks

A task that is stopped stays in the map until it expires, and so does its lease at the broker: both limits count the
tasks that have been stopped as well as those that are live. A start is refused for capacity although few tasks are live
exactly when the tasks that linger so fill one of the two maps. -/

namespace DccCua

open Runs Checks Script

namespace TaskProposal

/-- The task was stopped, and its cleanup is confirmed. -/
def settled (proposal : TaskProposal) : Bool := proposal.revoked && stoppedTaskStatus proposal.cleanup = .stopped

/-- The task was neither stopped with a confirmed cleanup nor has it expired with nothing left of it to clean up. -/
def live (now : Nat) (proposal : TaskProposal) : Bool := proposal.retained now && !proposal.settled

/-- The task is counted although it was stopped, and its cleanup confirmed. -/
def lingers (now : Nat) (proposal : TaskProposal) : Bool := proposal.retained now && proposal.settled

end TaskProposal

/-- The leases that the broker counts: a lease that was revoked is one of them until it expires. -/
def BrokerState.leases (now : Nat) (broker : BrokerState) : Nat := (broker.prune now).authorizations.size

namespace TaskServer

def liveTasks (now : Nat) (server : TaskServer) : Nat := server.proposals.countP (·.2.live now)

def lingeringTasks (now : Nat) (server : TaskServer) : Nat := server.proposals.countP (·.2.lingers now)

theorem length_retainTasks (now : Nat) (server : TaskServer) :
    (server.retainTasks now).proposals.length = server.liveTasks now + server.lingeringTasks now := by
  unfold retainTasks liveTasks lingeringTasks
  dsimp only
  induction server.proposals with
  | nil => rfl
  | cons entry entries ih =>
    have hlive : entry.2.live now = (entry.2.retained now && !entry.2.settled) := rfl
    have hlingers : entry.2.lingers now = (entry.2.retained now && entry.2.settled) := rfl
    rw [List.filter_cons, List.countP_cons, List.countP_cons, hlive, hlingers]
    cases entry.2.retained now with
    | false => simpa using ih
    | true =>
      rw [if_pos rfl, List.length_cons, ih]
      cases entry.2.settled <;> simp <;> omega

/-! ### Room for a task -/

/-- There is room for the task, if the request gets as far as to ask for it. -/
def Roomy (env : Env) (newUuid : Nat → String) (input : PrepareTaskInput) (ownedWorkflow : Bool) (t : TaskTurn)
    (server : TaskServer) : Prop :=
  ∀ origins target, input.scope t = .ok (origins, target) →
    server.liveTasks t.capacityMs + server.lingeringTasks t.capacityMs < maxPendingTasks ∧
    ∀ registration deadline, newRegistration env input ownedWorkflow origins target
        ("task-grant-" ++ newUuid (server.drawn + 1)) t = .ok (registration, deadline) →
      Broker.validateRegistration env t.fs t.register.validateNow registration = .ok () →
      server.broker.leases t.register.now < Broker.maxBrokerAuthorizations

/-- The server when the process of an owned workflow has been launched, and what it is told then. -/
def launched (env : Env) (uuid : Nat → String) (t : TaskTurn) (server : TaskServer) (script : List TaskAnswer) :
    Option (TaskTurn × TaskServer) :=
  (awaited env uuid server.broker script).map fun answer => (answer.1, { server.retainTasks t.capacityMs with broker := answer.2.1 })

/-- There is room for the task of an owned workflow, before its process is launched and after it. -/
def RoomyWorkflow (env : Env) (uuid newUuid : Nat → String) (input : PrepareTaskInput) (t : TaskTurn) (server : TaskServer)
    (script : List TaskAnswer) : Prop :=
  workflowChecks input t = .ok () →
    server.liveTasks t.capacityMs + server.lingeringTasks t.capacityMs < maxPendingTasks ∧
    ∀ workflowId later next window, t.recipeScope = .ok () → t.workflowStarted = .ok workflowId →
      launched env uuid t server script = some (later, next) → later.window = .ok window →
      Roomy env newUuid { input with targetProcessId := some window.1, targetWindowHandle := some window.2 } true later next

variable {env : Env} {uuid newUuid : Nat → String} {start server : TaskServer} {t : TaskTurn} {input : PrepareTaskInput}
  {ownedWorkflow : Bool} {script : List TaskAnswer}

/-- The broker refuses a valid registration as unavailable exactly when its map is full. -/
theorem register_unavailable_iff (huuid : Function.Injective uuid) {broker : BrokerState} (hkeys : BrokerState.KeysDrawn uuid broker)
    {fs : FileSystem} {registration : TrustedTaskAuthorizationRegistration} {deadline : Option Nat}
    {readings : BrokerState.RegisterReadings} :
    (broker.register env uuid fs registration deadline readings).1 = .error .unavailable ↔
      Broker.validateRegistration env fs readings.validateNow registration = .ok () ∧
        Broker.maxBrokerAuthorizations ≤ broker.leases readings.now := by
  have hfresh : (broker.prune readings.now).authorizations.contains (BrokerState.authorizationId uuid broker.drawn) = false := by
    rw [← Bool.not_eq_true, Std.TreeMap.contains_eq_isSome_getElem?, Option.isSome_iff_exists]
    rintro ⟨record, hrecord⟩
    obtain ⟨n, hn, hid⟩ := hkeys _ _ (BrokerState.get_prune_eq_some.mp hrecord).1
    obtain rfl := BrokerState.authorizationId_inj huuid hid
    exact Nat.lt_irrefl _ hn
  unfold BrokerState.register
  cases hvalid : Broker.validateRegistration env fs readings.validateNow registration with
  | error e =>
    obtain ⟨reason, rfl⟩ := validateRegistration_invalid hvalid
    refine iff_of_false (fun h => ?_) fun h => ?_
    · cases h
    · cases h.1
  | ok u =>
    dsimp only
    unfold BrokerState.leases
    split
    · rename_i hfull
      exact iff_of_true rfl ⟨rfl, hfull⟩
    · rename_i hroom
      rw [BrokerState.drawn_prune, BrokerState.freshAuthorizationId_of_not_contains hfresh]
      dsimp only
      refine iff_of_false (fun h => ?_) fun h => hroom h.2
      split at h <;> cases h

/-- What becomes of a request to prepare a task, by the room that there is for it. -/
def Placed (env : Env) (uuid newUuid : Nat → String) (start : TaskServer) (room : Prop) :
    Except TaskError String × TaskServer → Prop
  | (.error e, _) => e.refusesCapacity = true ↔ ¬room
  | (.ok id, next) => Held env uuid newUuid start id next ∧ room

theorem prepare_placed (huuid : Function.Injective uuid) (hkeys : BrokerState.KeysDrawn uuid server.broker)
    (hreach : Reach env uuid newUuid start start server) :
    Placed env uuid newUuid start (Roomy env newUuid input ownedWorkflow t server)
      (prepareScopedTask env uuid newUuid input ownedWorkflow t server) := by
  have hprepared : Prepared env uuid newUuid start (prepareScopedTask env uuid newUuid input ownedWorkflow t server) := prepared hreach
  unfold prepareScopedTask at hprepared ⊢
  cases hscope : input.scope t with
  | error message =>
    refine iff_of_false Bool.false_ne_true fun hfull => hfull fun origins target hok => ?_
    rw [hscope] at hok
    cases hok
  | ok pair =>
    obtain ⟨origins, target⟩ := pair
    rw [hscope] at hprepared
    have hcount := length_retainTasks t.capacityMs server
    have hmap : (server.retainTasks t.capacityMs).broker = server.broker := rfl
    have hdrawn : (server.retainTasks t.capacityMs).drawn = server.drawn := rfl
    dsimp only at hprepared ⊢
    unfold admitTask ensureTaskCapacity at hprepared ⊢
    dsimp only at hprepared ⊢
    generalize server.retainTasks t.capacityMs = retained at hprepared hcount hmap hdrawn ⊢
    rw [hmap, hdrawn] at hprepared ⊢
    by_cases hfull : maxPendingTasks ≤ retained.proposals.length
    · rw [if_pos hfull]
      exact iff_of_true rfl fun hroomy => Nat.not_lt.mpr hfull (hcount ▸ (hroomy origins target hscope).1)
    · rw [if_neg hfull] at hprepared ⊢
      dsimp only at hprepared ⊢
      have hlow : server.liveTasks t.capacityMs + server.lingeringTasks t.capacityMs < maxPendingTasks := hcount ▸ Nat.not_le.mp hfull
      have hroomy : ∀ registration deadline, newRegistration env input ownedWorkflow origins target
            ("task-grant-" ++ newUuid (server.drawn + 1)) t = .ok (registration, deadline) →
          (Roomy env newUuid input ownedWorkflow t server ↔
            (Broker.validateRegistration env t.fs t.register.validateNow registration = .ok () →
              server.broker.leases t.register.now < Broker.maxBrokerAuthorizations)) := by
        intro registration deadline hnew
        refine ⟨fun h => (h origins target hscope).2 registration deadline hnew, fun h origins' target' hscope' => ?_⟩
        cases hscope.symm.trans hscope'
        refine ⟨hlow, fun registration' deadline' hnew' => ?_⟩
        cases hnew.symm.trans hnew'
        exact h
      cases hnew : newRegistration env input ownedWorkflow origins target ("task-grant-" ++ newUuid (server.drawn + 1)) t with
      | error e =>
        refine iff_of_false (by rw [(newRegistration_other hnew).2]; exact Bool.false_ne_true) fun hfull =>
          hfull fun origins' target' hscope' => ?_
        cases hscope.symm.trans hscope'
        refine ⟨hlow, fun registration deadline hok => ?_⟩
        rw [hnew] at hok
        cases hok
      | ok pair =>
        obtain ⟨registration, deadline⟩ := pair
        rw [hnew] at hprepared
        have hunavailable : (server.broker.register env uuid t.fs registration deadline t.register).1 = .error .unavailable ↔ _ :=
          register_unavailable_iff huuid hkeys
        dsimp only at hprepared ⊢
        cases hregister : server.broker.register env uuid t.fs registration deadline t.register with
        | mk result broker =>
          rw [hregister] at hprepared hunavailable
          dsimp only at hprepared hunavailable ⊢
          cases result with
          | error e =>
            dsimp only
            have hsame : e = .unavailable ↔ Broker.validateRegistration env t.fs t.register.validateNow registration = .ok () ∧
                Broker.maxBrokerAuthorizations ≤ server.broker.leases t.register.now := by
              rw [← hunavailable, Except.error.injEq]
            unfold Placed
            rw [hroomy registration deadline hnew, Classical.not_imp, Nat.not_lt, ← hsame]
            exact decide_eq_true_iff
          | ok receipt =>
            dsimp only at hprepared ⊢
            refine ⟨?_, (hroomy registration deadline hnew).mpr fun hvalid => Nat.not_le.mp fun hfull => ?_⟩
            · cases hprepared with
              | task id next hheld => exact hheld
            · cases hunavailable.mpr ⟨hvalid, hfull⟩

/-! ### Starts -/

/-- The program ends with a refusal for capacity. -/
def Refuses {α : Type} : Ran TaskServer TaskAnswer (Except TaskError α) → Prop
  | .done (.error e) _ _ => e.refusesCapacity = true
  | _ => False

/-- Whatever happens, the errors of the program are no limit's. -/
abbrev Quiet {α : Type} (P : TaskServer → Prop) (prog : TaskProg α) : Prop :=
  Triple (fun s _ => P s) prog (orError (fun _ _ _ => True) fun e _ _ => e.refusesCapacity = false) fun _ => True

theorem Quiet.not_refuses {α : Type} {P : TaskServer → Prop} {prog : TaskProg α} (h : Quiet P prog) (hserver : P server) :
    ¬Refuses (prog server script) := by
  have hran := h server script hserver
  intro hrefuses
  cases hrun : prog server script with
  | cut next =>
    rw [hrun] at hrefuses
    exact hrefuses
  | done result next rest =>
    rw [hrun] at hran hrefuses
    cases result with
    | ok a => exact hrefuses
    | error e => cases hran.symm.trans hrefuses

theorem refuses_update {α β : Type} {f : TaskServer → Except TaskError α × TaskServer} {k : α → TaskProg β} :
    Refuses ((Prog.update f : TaskProg α).tryThen k server script) ↔ match f server with
      | (.error e, _) => e.refusesCapacity = true
      | (.ok a, next) => Refuses (k a next script) := by
  unfold Prog.tryThen Prog.andThen Prog.update
  dsimp only
  cases f server with
  | mk result next => cases result <;> rfl

/-- A check of the arguments or of the environment refuses nothing for capacity. -/
theorem refuses_check {α β : Type} {x : Except TaskError α} {k : α → TaskProg β}
    (hx : ∀ e, x = .error e → e.refusesCapacity = false) :
    Refuses ((Prog.ret x : TaskProg α).tryThen k server script) ↔ ∃ a, x = .ok a ∧ Refuses (k a server script) := by
  cases x with
  | ok a => exact ⟨fun h => ⟨a, rfl, h⟩, fun ⟨a', heq, h⟩ => by cases heq; exact h⟩
  | error e =>
    refine iff_of_false (fun h => ?_) fun ⟨a, heq, _⟩ => by cases heq
    cases (hx e rfl).symm.trans h

theorem workflowChecks_unlimited (e : TaskError) (h : workflowChecks input t = .error e) : e.refusesCapacity = false := by
  refine error_of_bind (P := fun e => e.refusesCapacity = false) (error_of_require rfl) (fun _ => ?_) e h
  exact error_of_bind (fun e he => (mapError_refusal he).other.2) fun _ e he => by cases he

section Starting
variable (huuid : Function.Injective uuid) (hnew : Function.Injective newUuid) (hinv : start.Inv uuid newUuid)
include huuid hnew hinv

/-- What follows once the task is in the map is refused by no limit. -/
theorem quiet_startPrepared {α : Type} (env : Env) (id : String) (t : TaskTurn) (f : StartedTask → Except TaskError α)
    (k : TaskError → Except TaskError TaskPayload → TaskProg α) (hf : ∀ started e, f started = .error e → e.refusesCapacity = false)
    (hk : ∀ e result, e.refusesCapacity = false → (∀ e', result = .error e' → e'.refusesCapacity = false) →
      Quiet (fun _ => True) (k e result)) :
    Quiet (Held env uuid newUuid start id) ((startTask env uuid id t).andThen fun
      | .ok started => Prog.ret (f started)
      | .error e => (revokeTask env uuid id t).andThen (k e)) := by
  refine triple_andThen (triple_cut triple_startTask_any fun _ _ => trivial) fun result => ?_
  cases result with
  | ok started =>
    refine triple_ret fun s _ _ => ?_
    cases hresult : f started with
    | ok a => trivial
    | error e => exact hf started e hresult
  | error e =>
    refine triple_weaken (triple_fact fun hrefusal => ?_) (fun s _ h => ⟨h.2.elim fun _ h => h.1, h.1⟩) fun _ _ _ h => h
    refine triple_andThen (triple_cut (triple_revokeTask_any huuid hnew hinv) fun _ _ => trivial) fun cleanup => ?_
    intro s script h
    refine hk e cleanup hrefusal.other.2 (fun e' he' => ?_) s script trivial
    subst he'
    exact h.1.2

/-- A task that was to be prepared is refused for capacity exactly when there is no room for it. -/
theorem refuses_prepare {β : Type} {k : String → TaskProg β} (hreach : Reach env uuid newUuid start start server)
    (hk : ∀ id, Quiet (Held env uuid newUuid start id) (k id)) :
    Refuses ((Prog.update (prepareScopedTask env uuid newUuid input ownedWorkflow t)).tryThen k server script) ↔
      ¬Roomy env newUuid input ownedWorkflow t server := by
  have hplaced : Placed env uuid newUuid start (Roomy env newUuid input ownedWorkflow t server)
      (prepareScopedTask env uuid newUuid input ownedWorkflow t server) :=
    prepare_placed huuid (Reach.inv huuid hnew hreach hinv).keys hreach
  rw [refuses_update]
  cases hrun : prepareScopedTask env uuid newUuid input ownedWorkflow t server with
  | mk result next =>
    rw [hrun] at hplaced
    cases result with
    | error e => exact hplaced
    | ok id => exact iff_of_false ((hk id).not_refuses hplaced.1) fun hfull => hfull hplaced.2

theorem refuses_startExactTask (hreach : Reach env uuid newUuid start start server) :
    Refuses (startExactTask env uuid newUuid input t server script) ↔ ¬Roomy env newUuid input false t server := by
  refine refuses_prepare huuid hnew hinv hreach fun id => ?_
  refine quiet_startPrepared huuid hnew hinv env id t .ok _ (fun _ _ h => by cases h) fun e result he hresult => ?_
  cases result with
  | ok cleanup =>
    refine triple_ret fun _ _ _ => ?_
    split
    · exact he
    · exact he
  | error cleanup => exact triple_ret fun _ _ _ => Bool.or_eq_false_iff.mpr ⟨he, hresult cleanup rfl⟩

/-- The window of an owned workflow. -/
theorem refuses_startOwnedWindow {workflowId : String} (hreach : Reach env uuid newUuid start start server) :
    Refuses (startOwnedWindow env uuid newUuid input workflowId t server script) ↔ ∃ window, t.window = .ok window ∧
      ¬Roomy env newUuid { input with targetProcessId := some window.1, targetWindowHandle := some window.2 } true t server := by
  refine (refuses_check fun e he => (mapError_refusal he).other.2).trans (exists_congr fun window => ?_)
  rw [mapError_eq_ok]
  refine and_congr_right fun _ => refuses_prepare huuid hnew hinv hreach fun id => ?_
  refine triple_andThen (R := fun _ s _ => Held env uuid newUuid start id s) (triple_exists fun proposal =>
    triple_weaken (triple_onTask (.bindWorkflow proposal (some workflowId))) (fun _ _ h => h) fun _ _ _ h => ⟨_, h⟩) fun _ => ?_
  have hquiet := quiet_startPrepared huuid hnew hinv env id t
    (fun started => mapError .refused (t.workflowStatus.map fun report => { started with workflow := some report }))
    (fun e _ => Prog.ret (.error e)) (fun _ e he => (mapError_refusal he).other.2)
    fun e result he _ => triple_ret fun _ _ _ => he
  intro s script hs
  have hran := hquiet s script hs
  unfold Prog.andThen at hran ⊢
  cases hstart : startTask env uuid id t s script with
  | cut next => trivial
  | done result next rest =>
    rw [hstart] at hran
    cases result <;> exact hran

/-- An owned workflow whose process is to be launched: the capacity has been asked for once. -/
theorem refuses_launched {workflowId : String} :
    Refuses (((turn env uuid).andThen fun later => (startOwnedWindow env uuid newUuid input workflowId later).andThen fun
        | .ok started => Prog.ret (.ok started)
        | .error e => Prog.ret (.error (.workflowCleanup e later.workflowCancelled.toOption)))
      (start.retainTasks t.capacityMs) script) ↔
    ∃ later next window, launched env uuid t start script = some (later, next) ∧ later.window = .ok window ∧
      ¬Roomy env newUuid { input with targetProcessId := some window.1, targetWindowHandle := some window.2 } true later next := by
  cases hawaited : awaited env uuid start.broker script with
  | none =>
    obtain ⟨last, hcut⟩ := turn_cut (start.retainTasks t.capacityMs) hawaited
    rw [Prog.andThen_cut hcut]
    refine iff_of_false id ?_
    rintro ⟨later, next, window, hlaunched, -⟩
    rw [launched, hawaited] at hlaunched
    cases hlaunched
  | some answer =>
    obtain ⟨later, broker, rest⟩ := answer
    have hturn := turn_done (start.retainTasks t.capacityMs) hawaited
    have hreach : Reach env uuid newUuid start start { start.retainTasks t.capacityMs with broker := broker } := by
      have hkeeps : Keeps (Reach env uuid newUuid start start) (turn env uuid) := keeps_turn_reach
      have hran := hkeeps (start.retainTasks t.capacityMs) script (.tail .refl (.retain start t.capacityMs))
      rw [hturn] at hran
      exact hran
    rw [Prog.andThen_done hturn]
    have hlaunched : launched env uuid t start script = some (later, { start.retainTasks t.capacityMs with broker := broker }) := by
      rw [launched, hawaited]
      rfl
    generalize ({ start.retainTasks t.capacityMs with broker := broker } : TaskServer) = next at hlaunched hreach
    have hwrapped : Refuses (((startOwnedWindow env uuid newUuid input workflowId later).andThen fun
        | .ok started => Prog.ret (.ok started)
        | .error e => Prog.ret (.error (.workflowCleanup e later.workflowCancelled.toOption))) next rest) ↔
        Refuses (startOwnedWindow env uuid newUuid input workflowId later next rest) := by
      unfold Prog.andThen
      cases startOwnedWindow env uuid newUuid input workflowId later next rest with
      | cut last => exact Iff.rfl
      | done result last rest => cases result <;> exact Iff.rfl
    rw [hwrapped, refuses_startOwnedWindow huuid hnew hinv hreach]
    refine ⟨fun ⟨window, hwindow, hfull⟩ => ⟨later, next, window, hlaunched, hwindow, hfull⟩, ?_⟩
    rintro ⟨later', next', window, hlaunched', hwindow, hfull⟩
    cases hlaunched.symm.trans hlaunched'
    exact ⟨window, hwindow, hfull⟩

/-- An owned workflow is refused for capacity exactly when there is no room for its task. -/
theorem refuses_startWorkflowTask :
    Refuses (startWorkflowTask env uuid newUuid input t start script) ↔ ¬RoomyWorkflow env uuid newUuid input t start script := by
  have hrefusal : ∀ {α : Type} {x : Except String α} (e : TaskError), mapError TaskError.refused x = .error e →
      e.refusesCapacity = false := fun e he => (mapError_refusal he).other.2
  refine (refuses_check workflowChecks_unlimited).trans ?_
  unfold RoomyWorkflow
  rw [Classical.not_imp]
  refine (Unique.exists_iff).trans (and_congr_right fun _ => ?_)
  rw [refuses_update]
  unfold ensureTaskCapacity
  dsimp only
  rw [← length_retainTasks]
  by_cases hfull : maxPendingTasks ≤ (start.retainTasks t.capacityMs).proposals.length
  · rw [if_pos hfull]
    exact iff_of_true rfl fun hroomy => Nat.not_lt.mpr hfull hroomy.1
  · rw [if_neg hfull]
    dsimp only
    refine (refuses_check hrefusal).trans ⟨?_, fun hnot => ?_⟩
    · rintro ⟨u, hrecipe, hrefuses⟩ hroomy
      obtain ⟨workflowId, hstarted, hrefuses⟩ := (refuses_check hrefusal).mp hrefuses
      obtain ⟨later, next, window, hlaunched, hwindow, hcrowded⟩ := (refuses_launched huuid hnew hinv).mp hrefuses
      exact hcrowded (hroomy.2 workflowId later next window (mapError_eq_ok.mp hrecipe) (mapError_eq_ok.mp hstarted) hlaunched hwindow)
    · by_contra hquiet
      refine hnot ⟨Nat.not_le.mp hfull, fun workflowId later next window hrecipe hstarted hlaunched hwindow => ?_⟩
      by_contra hcrowded
      exact hquiet ⟨(), mapError_eq_ok.mpr hrecipe, (refuses_check hrefusal).mpr ⟨workflowId, mapError_eq_ok.mpr hstarted,
        (refuses_launched huuid hnew hinv).mpr ⟨later, next, window, hlaunched, hwindow, hcrowded⟩⟩⟩

end Starting

/-- At each of its capacity checks fewer tasks are live than there may be. -/
def FewLive (env : Env) (uuid : Nat → String) (server : TaskServer) (call : TaskCall) : Prop :=
  server.liveTasks call.first.capacityMs < maxPendingTasks ∧
    ∀ input later next, call.request = .startWorkflowTask input →
      launched env uuid call.first server call.script = some (later, next) → next.liveTasks later.capacityMs < maxPendingTasks

/-- There is room for the task that the request starts. -/
def RoomyStart (env : Env) (uuid newUuid : Nat → String) (server : TaskServer) (call : TaskCall) : Prop :=
  (∀ input, call.request = .startTask input → Roomy env newUuid input false call.first server) ∧
    ∀ input, call.request = .startWorkflowTask input → RoomyWorkflow env uuid newUuid input call.first server call.script

end TaskServer

namespace TaskStep

/-- `start_task`, for a target of the caller or for an owned workflow. -/
def Starts (c : TaskStep) (call : TaskCall) : Prop :=
  c.input = .call call ∧ ((∃ input, call.request = .startTask input) ∨ ∃ input, call.request = .startWorkflowTask input)

/-- A limit has refused the request. -/
def RefusedCapacity (c : TaskStep) : Prop := ∃ e, c.output = some (.error e) ∧ e.refusesCapacity = true

/-- A start is not refused for capacity while few tasks are live. -/
def AdmitsStart (env : Env) (uuid : Nat → String) (c : TaskStep) (call : TaskCall) : Prop :=
  c.before.FewLive env uuid call → ¬c.RefusedCapacity

end TaskStep

namespace TaskServer
variable {env : Env} {uuid newUuid : Nat → String}

/-- The step of a request is refused for capacity exactly when its program is. -/
theorem refusedCapacity_iff {c : TaskStep} {call : TaskCall} (hcall : c = (taskServer env uuid newUuid).call c.before c.input)
    (hinput : c.input = .call call) :
    c.RefusedCapacity ↔ Refuses (serve env uuid newUuid call.first call.request c.before call.script) := by
  unfold TaskStep.RefusedCapacity
  rw [hcall, hinput]
  simp only [Machine.call_output, Machine.call_before, taskServer]
  cases serve env uuid newUuid call.first call.request c.before call.script with
  | cut next =>
    refine iff_of_false (fun hrefused => ?_) id
    obtain ⟨e, houtput, -⟩ := hrefused
    cases houtput
  | done result next rest =>
    cases result with
    | ok a =>
      refine iff_of_false (fun hrefused => ?_) id
      obtain ⟨e, houtput, -⟩ := hrefused
      cases houtput
    | error e =>
      refine ⟨fun hrefused => ?_, fun hrefuses => ⟨e, rfl, hrefuses⟩⟩
      obtain ⟨e', houtput, hrefuses⟩ := hrefused
      cases houtput
      exact hrefuses

theorem refuses_output {α : Type} {f : α → TaskOutput} {p : TaskProg α} {server : TaskServer} {script : List TaskAnswer} :
    Refuses (output f p server script) ↔ Refuses (p server script) := by
  unfold output Prog.tryThen Prog.andThen
  cases p server script with
  | cut next => exact Iff.rfl
  | done result next rest => cases result <;> exact Iff.rfl

/-- A start is refused for capacity exactly when there is no room for its task. -/
theorem refusedCapacity_starts (huuid : Function.Injective uuid) (hnew : Function.Injective newUuid) {c : TaskStep}
    {call : TaskCall} (hcall : c = (taskServer env uuid newUuid).call c.before c.input) (hinv : c.before.Inv uuid newUuid)
    (h : TaskStep.Starts c call) : c.RefusedCapacity ↔ ¬RoomyStart env uuid newUuid c.before call := by
  obtain ⟨hinput, hrequest⟩ := h
  rw [refusedCapacity_iff hcall hinput]
  unfold RoomyStart
  rcases hrequest with ⟨input, hrequest⟩ | ⟨input, hrequest⟩
  · rw [hrequest]
    refine (refuses_output.trans (refuses_startExactTask huuid hnew hinv .refl)).trans (not_congr ?_)
    refine ⟨fun hroomy => ⟨fun input' h => ?_, fun input' h => ?_⟩, fun hroomy => hroomy.1 input rfl⟩
    · cases h
      exact hroomy
    · cases h
  · rw [hrequest]
    refine (refuses_output.trans (refuses_startWorkflowTask huuid hnew hinv)).trans (not_congr ?_)
    refine ⟨fun hroomy => ⟨fun input' h => ?_, fun input' h => ?_⟩, fun hroomy => hroomy.2 input rfl⟩
    · cases h
    · cases h
      exact hroomy

end TaskServer

/-- In every run, a start is not refused for capacity while few tasks are live exactly when not few are, or there is room
    also for those that linger: the tasks that were stopped, and their leases. -/
theorem starts_admitted_iff (env : Env) {uuid newUuid : Nat → String} (huuid : Function.Injective uuid)
    (hnew : Function.Injective newUuid) (brokerDrawn drawn : Nat) (inputs : List TaskInput) :
    ∀ c ∈ (taskServer env uuid newUuid).trace (TaskServer.initial brokerDrawn drawn) inputs, ∀ call,
      TaskStep.Starts c call → (TaskStep.AdmitsStart env uuid c call ↔
        ¬c.before.FewLive env uuid call ∨ TaskServer.RoomyStart env uuid newUuid c.before call) := by
  intro c hc call h
  have hinit : (TaskServer.initial brokerDrawn drawn).Inv uuid newUuid := TaskServer.initial_inv brokerDrawn drawn
  have keep : ∀ s i, s.Inv uuid newUuid → ((taskServer env uuid newUuid).step s i).2.Inv uuid newUuid :=
    fun s i hinv => TaskServer.step_inv huuid hnew hinv env i
  have hrefused := TaskServer.refusedCapacity_starts huuid hnew (Machine.eq_call_of_mem hc) (Machine.inv_before keep hinit hc) h
  unfold TaskStep.AdmitsStart
  rw [hrefused, not_not, imp_iff_not_or]

/-! ### Tasks that are stopped -/

namespace TaskServer

section Newest
variable {env : Env} {uuid : Nat → String} {broker : BrokerState} {id : String} {p : TaskProposal}
  {rest : List (String × TaskProposal)} {drawn : Nat} {t : TaskTurn} {script : List TaskAnswer}

theorem turn_answered {α : Type} {k : TaskTurn → Prog TaskServer TaskAnswer α} {s : TaskServer} :
    (turn env uuid).andThen k s (.turn t :: script) = k t s script := rfl

theorem task?_head : (TaskServer.mk broker ((id, p) :: rest) drawn).task? id = some p := List.lookup_cons_self

/-- A change of the newest task: no other task has its id. -/
theorem modifyTask_head (hrest : ∀ entry ∈ rest, entry.1 ≠ id) (f : TaskProposal → TaskProposal) :
    (TaskServer.mk broker ((id, p) :: rest) drawn).modifyTask id f = ⟨broker, (id, f p) :: rest, drawn⟩ := by
  unfold TaskServer.modifyTask
  rw [List.map_cons, if_pos rfl]
  refine congrArg (fun tasks => TaskServer.mk broker ((id, f p) :: tasks) drawn) ?_
  conv => rhs; rw [← List.map_id rest]
  exact List.map_congr_left fun entry hentry => if_neg (hrest entry hentry)

theorem onTask_done (hrest : ∀ entry ∈ rest, entry.1 ≠ id) {f : TaskProposal → TaskProposal} :
    onTask id f ⟨broker, (id, p) :: rest, drawn⟩ script = .done () ⟨broker, (id, f p) :: rest, drawn⟩ script := by
  unfold onTask
  exact Prog.update_done (congrArg (Prod.mk ()) (modifyTask_head hrest f)) script

theorem onTask_head {α : Type} (hrest : ∀ entry ∈ rest, entry.1 ≠ id) {f : TaskProposal → TaskProposal}
    {k : Unit → Prog TaskServer TaskAnswer α} :
    (onTask id f).andThen k ⟨broker, (id, p) :: rest, drawn⟩ script = k () ⟨broker, (id, f p) :: rest, drawn⟩ script :=
  Prog.andThen_done (onTask_done hrest)

/-- The Host opens a session for `window`. -/
structure Willing (t : TaskTurn) (window : Nat × Nat) : Prop where
  driver : t.driver = .ok ()
  extension : t.extension = .ok ()
  hello : t.hello = .ok ()
  opened : t.opened = .ok window

/-- A task that nothing has been done with. -/
structure Fresh (t : TaskTurn) (p : TaskProposal) : Prop where
  revoked : p.revoked = false
  user : p.userActionRequired = none
  unexpired : t.unixMs < p.registration.expiresAtUnixMs
  receipt : p.receipt.isSome
  session : p.session = none
  host : p.hostTask = none

/-- The task once its session is open. -/
def openedTask (id : String) (window : Nat × Nat) (p : TaskProposal) : TaskProposal :=
  p.attemptOpen.spawnHost.openSession ⟨"mcp-" ++ id, window.1, window.2⟩

theorem openTaskSession_head (hrest : ∀ entry ∈ rest, entry.1 ≠ id) {window : Nat × Nat} (ht : Willing t window) :
    openTaskSession env uuid id t ⟨broker, (id, p) :: rest, drawn⟩ (.turn t :: .turn t :: .turn t :: script) =
      .done (.ok ()) ⟨broker, (id, openedTask id window p) :: rest, drawn⟩ script := by
  unfold openTaskSession
  refine (onTask_head hrest).trans ?_
  refine (Prog.tryThen_ret (congrArg (mapError TaskError.refused) ht.driver)).trans (turn_answered.trans ?_)
  refine (Prog.tryThen_ret (congrArg (mapError TaskError.refused) ht.extension)).trans ?_
  refine (onTask_head hrest).trans (turn_answered.trans ?_)
  refine (Prog.tryThen_ret (congrArg (mapError TaskError.refused) ht.hello)).trans (turn_answered.trans ?_)
  refine (Prog.tryThen_ret (congrArg (mapError TaskError.refused) ht.opened)).trans ?_
  exact onTask_head hrest

theorem startChecks_head (hp : Fresh t p) : startChecks id t ⟨broker, (id, p) :: rest, drawn⟩ = .ok p := by
  unfold startChecks
  rw [task?_head]
  dsimp only
  rw [hp.revoked, hp.user, hp.receipt, hp.session, hp.host, decide_eq_true hp.unexpired]
  rfl

theorem startTask_head (env : Env) (uuid : Nat → String) (broker : BrokerState) (drawn : Nat) (script : List TaskAnswer)
    (hrest : ∀ entry ∈ rest, entry.1 ≠ id) {window : Nat × Nat} (ht : Willing t window) (hp : Fresh t p) :
    ∃ started, startTask env uuid id t ⟨broker, (id, p) :: rest, drawn⟩ (.turn t :: .turn t :: .turn t :: script) =
      .done (.ok started) ⟨broker, (id, openedTask id window p) :: rest, drawn⟩ script := by
  unfold startTask
  rw [Prog.tryThen_read_ok (startChecks_head hp), if_neg (by rw [hp.session]; exact Bool.false_ne_true),
    Prog.tryThen_ok (openTaskSession_head hrest ht)]
  unfold Prog.read Prog.update startedTask
  dsimp only
  rw [task?_head]
  exact ⟨_, rfl⟩

theorem finishOwnedHostTask_head (hrest : ∀ entry ∈ rest, entry.1 ≠ id) {record : TaskProposal → TaskProposal}
    (hhost : (record p).beginFinish.hostTask = some ⟨none⟩) (hended : t.hostEnded = some true) :
    finishOwnedHostTask env uuid id record ⟨broker, (id, p) :: rest, drawn⟩ (.turn t :: script) =
      .done () ⟨broker, (id, endHost t (record p).beginFinish) :: rest, drawn⟩ script := by
  have hpending : (some (⟨none⟩ : OwnedHostTask)).any (·.isPending) = true := rfl
  unfold finishOwnedHostTask endHost
  rw [onTask_head hrest, Prog.andThen_read, task?_head, Option.bind_some, hhost, hpending, if_pos rfl, turn_answered, hended]
  exact onTask_done hrest

/-- The newest task is stopped: its lease is revoked, and its session and its Host connection are ended. -/
theorem revokeTask_head (env : Env) (uuid : Nat → String) (drawn : Nat) (script : List TaskAnswer)
    (hrest : ∀ entry ∈ rest, entry.1 ≠ id) {receipt : TrustedTaskAuthorizationReceipt} {session : LogicalTaskSession}
    {revoked : BrokerState} (hopen : p.revoked = false) (hreceipt : p.receipt = some receipt) (hsession : p.session = some session)
    (hhost : p.hostTask = some ⟨none⟩) (hrevoke : broker.revoke receipt.authorizationId = (.ok (), revoked))
    (hended : t.hostEnded = some true) :
    ∃ payload, revokeTask env uuid id t ⟨broker, (id, p) :: rest, drawn⟩ (.turn t :: .turn t :: script) =
      .done (.ok payload) ⟨revoked, (id, stoppedTask receipt.authorizationId session.sessionId t t p) :: rest, drawn⟩ script := by
  have hlease : revokeLease id p ⟨broker, (id, p) :: rest, drawn⟩ =
      (Except.ok (), ⟨revoked, (id, p.revoke receipt.authorizationId) :: rest, drawn⟩) := by
    unfold revokeLease
    rw [hreceipt]
    dsimp only
    rw [hrevoke]
    exact congrArg (Prod.mk (Except.ok ())) (modifyTask_head hrest _)
  have hbegun : ((p.revoke receipt.authorizationId).recordStop session.sessionId t.stopped).beginFinish.hostTask = some ⟨none⟩ := by
    rw [hostTask_beginFinish, hostTask_recordStop, hhost]
  rw [revokeTask_open ⟨task?_head, rfl⟩ hopen, Prog.tryThen_ok (Prog.update_done hlease _), hsession]
  unfold stopSession
  dsimp only
  rw [Prog.andThen_assoc, turn_answered, Prog.andThen_ret, Prog.andThen_done (finishOwnedHostTask_head hrest hbegun hended)]
  unfold Prog.read Prog.update stoppedPayload
  dsimp only
  rw [task?_head]
  exact ⟨_, rfl⟩

theorem output_done {α : Type} {f : α → TaskOutput} {prog : TaskProg α} {s next : TaskServer} {script later : List TaskAnswer} {a : α}
    (h : prog s script = .done (.ok a) next later) : output f prog s script = .done (.ok (f a)) next later := by
  unfold output
  rw [Prog.tryThen_ok h]
  rfl

/-- A broker that has room takes a valid registration. -/
theorem register_room {registration : TrustedTaskAuthorizationRegistration} {fs : FileSystem} {deadline : Option Nat}
    (readings : BrokerState.RegisterReadings)
    (hvalid : Broker.validateRegistration env fs readings.validateNow registration = .ok ())
    (hroom : broker.authorizations.size < Broker.maxBrokerAuthorizations)
    (hfresh : broker.authorizations.contains (BrokerState.authorizationId uuid broker.drawn) = false)
    (hadmitted : ((BrokerState.newFence env registration.expiresAtUnixMs deadline readings.fence).admitAt readings.admission).1 = true) :
    ∃ receipt record next, broker.register env uuid fs registration deadline readings = (.ok receipt, next) ∧
      next.drawn = broker.drawn + 2 ∧ next.authorizations[receipt.authorizationId]? = some record ∧
      next.authorizations.size ≤ broker.authorizations.size + 1 := by
  have hsize : (broker.prune readings.now).authorizations.size ≤ broker.authorizations.size := Std.TreeMap.size_filter_le_size
  have habsent : (broker.prune readings.now).authorizations.contains (BrokerState.authorizationId uuid broker.drawn) = false := by
    rw [← Bool.not_eq_true, Std.TreeMap.contains_eq_isSome_getElem?, Option.isSome_iff_exists] at hfresh ⊢
    exact fun ⟨record, hrecord⟩ => hfresh ⟨record, (BrokerState.get_prune_eq_some.mp hrecord).1⟩
  unfold BrokerState.register
  rw [hvalid]
  dsimp only
  rw [if_neg (Nat.not_le.mpr (Nat.lt_of_le_of_lt hsize hroom)), BrokerState.drawn_prune,
    BrokerState.freshAuthorizationId_of_not_contains habsent]
  dsimp only
  rw [hadmitted]
  refine ⟨_, _, _, rfl, rfl, (BrokerState.get_set _ _ _ _).trans (if_pos rfl), ?_⟩
  exact Nat.le_trans Std.TreeMap.size_insert_le (Nat.succ_le_succ hsize)

/-- A lease whose record the broker keeps is revoked. -/
theorem revoke_kept {authorizationId : String} {record : BrokerRecord} (hrecord : broker.authorizations[authorizationId]? = some record) :
    ∃ next, broker.revoke authorizationId = (.ok (), next) ∧ next.drawn = broker.drawn ∧
      next.authorizations.size ≤ broker.authorizations.size + 1 := by
  unfold BrokerState.revoke
  rw [hrecord]
  exact ⟨_, rfl, rfl, Std.TreeMap.size_insert_le⟩

end Newest

end TaskServer

namespace TaskSample

open TaskServer

/-- Identities of two hexadecimal digits. -/
def shortUuid (n : Nat) : String := String.ofList [Nat.digitChar (n / 16), Nat.digitChar (n % 16)]

def shortServer : Machine TaskServer TaskInput (Option (Except TaskError TaskOutput)) :=
  taskServer BrokerSample.env shortUuid shortUuid

/-- A request that is answered at once while all clocks show 1000; a session that is stopped is that of the task `n`. -/
def shortCall (n : Nat) (request : TaskRequest) : TaskCall :=
  let reply : StopReply := ⟨some "session_stopped", some ("mcp-task-" ++ shortUuid n), some true, some false, some false⟩
  let t := { turn 1000 0 with stopped := .ok reply }
  ⟨request, t, List.replicate 4 (.turn t)⟩

/-- `n` tasks, each stopped before the next one is started. -/
def cycles : Nat → List TaskInput
  | 0 => []
  | n + 1 => cycles n ++ [.call (shortCall (2 * n) (.startTask input)),
      .call (shortCall (2 * n) (.stopTask ("task-" ++ shortUuid (2 * n))))]

def nextStart : TaskCall := shortCall 128 (.startTask input)

/-- What the environment says to the requests on the task `n`. -/
def shortTurn (n : Nat) : TaskTurn :=
  { turn 1000 0 with stopped := .ok ⟨some "session_stopped", some ("mcp-task-" ++ shortUuid n), some true, some false, some false⟩ }

theorem shortCall_eq (n : Nat) (request : TaskRequest) :
    shortCall n request = ⟨request, shortTurn n, List.replicate 4 (.turn (shortTurn n))⟩ := rfl

theorem digitChar_inj : ∀ m < 16, ∀ n < 16, Nat.digitChar m = Nat.digitChar n → m = n := by decide

theorem shortUuid_inj {m n : Nat} (hm : m < 256) (hn : n < 256) (h : shortUuid m = shortUuid n) : m = n := by
  have hdigits := String.ofList_injective h
  rw [List.cons.injEq, List.cons.injEq] at hdigits
  have hhigh := digitChar_inj _ (Nat.div_lt_of_lt_mul hm) _ (Nat.div_lt_of_lt_mul hn) hdigits.1
  have hlow := digitChar_inj _ (Nat.mod_lt m (by decide)) _ (Nat.mod_lt n (by decide)) hdigits.2.1
  omega

theorem printable_shortGrant {n : Nat} (hn : n < 256) : Text.printable ("task-grant-" ++ shortUuid n) maxTaskGrantIdChars = true := by
  have hdigit : ∀ d < 16, Text.plainChar (Nat.digitChar d) = true := by decide
  have hchars : ("task-grant-" ++ shortUuid n).toList =
      "task-grant-".toList ++ [Nat.digitChar (n / 16), Nat.digitChar (n % 16)] := by
    rw [String.toList_append, shortUuid]
    exact congrArg _ String.toList_ofList
  have hlength : ("task-grant-" ++ shortUuid n).length = 13 := by
    rw [← String.length_toList, hchars]
    rfl
  refine Text.printable_of_plain ?_ (fun hempty => ?_) (hlength ▸ by decide)
  · rw [hchars, List.all_append, List.all_cons, List.all_cons, hdigit _ (Nat.div_lt_of_lt_mul hn), hdigit _ (Nat.mod_lt n (by decide))]
    decide
  · rw [hempty] at hlength
    cases hlength

/-- The registration of a task, under its grant. -/
def shortRegistration (grantId : String) : TrustedTaskAuthorizationRegistration where
  connectionId := none
  taskId := none
  taskGrantId := grantId
  applicationLabel := "Editor"
  target := .exactWindow 7 9
  allowedHostMethods := ["snapshot"]
  allowedActions := []
  allowedBrowserOrigins := []
  browserScope := none
  recordingOutputDir := none
  capturePreparation := none
  expiresAtUnixMs := 61000

theorem shortRegistration_valid {grantId : String} (h : Text.printable grantId maxTaskGrantIdChars = true) (fs : FileSystem) :
    Broker.validateRegistration BrokerSample.env fs 1000 (shortRegistration grantId) = .ok () :=
  Broker.validateRegistration_eq_ok.mpr
    { connectionId := nofun
      taskId := nofun
      taskGrantId := h
      applicationLabel := show Text.printable "Editor" maxApplicationLabelChars = true by decide
      target := rfl
      unexpired := show 1000 < 61000 by decide
      ttl := show 61000 - 1000 ≤ maxTaskAuthorizationTtlMs by decide
      actions := rfl
      methods := show methodsClosed ["snapshot"] = true by decide
      preparationMethods := show preparationRequested ["snapshot"] = false by decide
      preparationActions := rfl
      preparation := rfl
      recording := rfl
      origins := rfl
      browserScope := rfl }

theorem newRegistration_short {grantId : String} (h : Text.printable grantId maxTaskGrantIdChars = true) (n : Nat) :
    newRegistration BrokerSample.env input false [] (.exactWindow 7 9) grantId (shortTurn n) =
      .ok (shortRegistration grantId, none) := by
  have hvalid : Broker.validateRegistration BrokerSample.env (shortTurn n).fs (shortTurn n).validateMs (shortRegistration grantId) = .ok () :=
    shortRegistration_valid h _
  have hexpiry : taskExpiry input false (shortTurn n) = .ok 61000 := congrArg Except.ok (show min (1000 + 1 * 60000) (2 ^ 64 - 1) = 61000 by decide)
  unfold newRegistration
  simp only [bind_eq_ok]
  exact ⟨none, rfl, none, rfl, 61000, hexpiry, (), congrArg (mapError TaskError.broker) hvalid, shortRegistration grantId, rfl, rfl⟩

structure Worn (n : Nat) (s : TaskServer) : Prop where
  count : s.proposals.length = n
  settled : ∀ entry ∈ s.proposals, entry.2.settled = true ∧ entry.2.retained 1000 = true
  drawn : s.drawn = 2 * n
  ids : ∀ entry ∈ s.proposals, ∃ k < 2 * n, entry.1 = "task-" ++ shortUuid k
  keys : s.broker.KeysDrawn shortUuid
  brokerDrawn : s.broker.drawn = 2 * n
  leases : s.broker.authorizations.size ≤ 2 * n

theorem Worn.retain {n : Nat} {s : TaskServer} (h : Worn n s) : s.retainTasks 1000 = s := by
  have hall : s.proposals.filter (·.2.retained 1000) = s.proposals := List.filter_eq_self.mpr fun entry hentry => (h.settled entry hentry).2
  unfold retainTasks
  rw [hall]

theorem Worn.fresh {n : Nat} {s : TaskServer} (h : Worn n s) (hn : n < 64) :
    ∀ entry ∈ s.proposals, entry.1 ≠ "task-" ++ shortUuid (2 * n) := by
  intro entry hentry hsame
  obtain ⟨k, hk, hid⟩ := h.ids entry hentry
  have hequal := shortUuid_inj (by omega) (by omega) (String.append_right_inj _ |>.mp (hid.symm.trans hsame))
  omega

/-- The lease of a task: it is registered, and revoked. -/
theorem Worn.register {n : Nat} {s : TaskServer} (h : Worn n s) (hn : n < 64) {fs : FileSystem} {registration : TrustedTaskAuthorizationRegistration}
    (hvalid : Broker.validateRegistration BrokerSample.env fs 1000 registration = .ok ()) (hexpiry : registration.expiresAtUnixMs = 61000) :
    ∃ receipt broker revoked, s.broker.register BrokerSample.env shortUuid fs registration none ⟨1000, 1000, ⟨1000, 1000⟩, ⟨1000, 1000⟩⟩ =
        (.ok receipt, broker) ∧
      broker.revoke receipt.authorizationId = (.ok (), revoked) ∧ revoked.KeysDrawn shortUuid ∧ revoked.drawn = 2 * (n + 1) ∧
      revoked.authorizations.size ≤ 2 * (n + 1) := by
  have hfresh : s.broker.authorizations.contains (BrokerState.authorizationId shortUuid s.broker.drawn) = false := by
    rw [← Bool.not_eq_true, Std.TreeMap.contains_eq_isSome_getElem?, Option.isSome_iff_exists]
    rintro ⟨record, hrecord⟩
    obtain ⟨k, hk, hid⟩ := h.keys _ _ hrecord
    rw [h.brokerDrawn] at hk hid
    have hequal := shortUuid_inj (by omega) (by omega) (String.append_right_inj _ |>.mp hid)
    omega
  have hroom : s.broker.authorizations.size < Broker.maxBrokerAuthorizations :=
    Nat.lt_of_le_of_lt h.leases (Nat.lt_of_lt_of_le (show 2 * n < 128 by omega) (by decide))
  have hadmitted : ((BrokerState.newFence BrokerSample.env registration.expiresAtUnixMs none ⟨1000, 1000⟩).admitAt ⟨1000, 1000⟩).1 = true := by
    rw [hexpiry]
    decide
  obtain ⟨receipt, record, broker, hregister, hdrawn, hrecord, hsize⟩ :=
    register_room ⟨1000, 1000, ⟨1000, 1000⟩, ⟨1000, 1000⟩⟩ hvalid hroom hfresh hadmitted
  obtain ⟨revoked, hrevoke, hsame, hsmall⟩ := revoke_kept hrecord
  have hregistered : ((brokerMachine BrokerSample.env shortUuid).step s.broker (.register fs registration none
      ⟨1000, 1000, ⟨1000, 1000⟩, ⟨1000, 1000⟩⟩)).2 = broker := congrArg Prod.snd hregister
  have hrevoked : ((brokerMachine BrokerSample.env shortUuid).step broker (.revoke receipt.authorizationId)).2 = revoked :=
    congrArg Prod.snd hrevoke
  refine ⟨receipt, broker, revoked, hregister, hrevoke, hrevoked ▸ (hregistered ▸ h.keys.step _).step _, ?_, ?_⟩
  · rw [hsame, hdrawn, h.brokerDrawn, Nat.mul_succ]
  · have hleases := h.leases
    omega

/-- The next task is prepared. -/
theorem Worn.prepare {n : Nat} {s : TaskServer} (h : Worn n s) (hn : n < 64) :
    ∃ receipt broker revoked, prepareScopedTask BrokerSample.env shortUuid shortUuid input false (shortTurn (2 * n)) s =
        (.ok ("task-" ++ shortUuid (2 * n)), ⟨broker, ("task-" ++ shortUuid (2 * n), newProposal input
          (shortRegistration ("task-grant-" ++ shortUuid (2 * n + 1))) receipt) :: s.proposals, 2 * (n + 1)⟩) ∧
      broker.revoke receipt.authorizationId = (.ok (), revoked) ∧ revoked.KeysDrawn shortUuid ∧ revoked.drawn = 2 * (n + 1) ∧
      revoked.authorizations.size ≤ 2 * (n + 1) := by
  have hgrant := printable_shortGrant (show 2 * n + 1 < 256 by omega)
  obtain ⟨receipt, broker, revoked, hregister, hlater⟩ := h.register hn (shortRegistration_valid hgrant (shortTurn (2 * n)).fs) rfl
  refine ⟨receipt, broker, revoked, ?_, hlater⟩
  have hscope : input.scope (shortTurn (2 * n)) = .ok ([], .exactWindow 7 9) := rfl
  have hroom : ensureTaskCapacity (shortTurn (2 * n)).capacityMs s = (.ok (), s) := by
    unfold ensureTaskCapacity
    rw [show (shortTurn (2 * n)).capacityMs = 1000 from rfl, h.retain]
    dsimp only
    rw [if_neg (by rw [h.count]; exact Nat.not_le.mpr hn)]
  have hother : s.proposals.filter (·.1 ≠ "task-" ++ shortUuid (2 * n)) = s.proposals :=
    List.filter_eq_self.mpr fun entry hentry => decide_eq_true (h.fresh hn entry hentry)
  unfold prepareScopedTask admitTask
  rw [hscope]
  dsimp only
  rw [hroom]
  dsimp only
  rw [h.drawn, newRegistration_short hgrant]
  dsimp only
  rw [show (shortTurn (2 * n)).register = ⟨1000, 1000, ⟨1000, 1000⟩, ⟨1000, 1000⟩⟩ from rfl, hregister]
  dsimp only
  unfold insertTask
  dsimp only
  rw [hother, Nat.mul_succ]

/-- The task that is prepared, once its session is open. -/
def shortOpened (n : Nat) (receipt : TrustedTaskAuthorizationReceipt) : TaskProposal :=
  openedTask ("task-" ++ shortUuid n) (7, 9) (newProposal input (shortRegistration ("task-grant-" ++ shortUuid (n + 1))) receipt)

/-- The task once it is stopped. -/
def shortStopped (n : Nat) (receipt : TrustedTaskAuthorizationReceipt) : TaskProposal :=
  stoppedTask receipt.authorizationId ("mcp-" ++ ("task-" ++ shortUuid n)) (shortTurn n) (shortTurn n) (shortOpened n receipt)

/-- Its cleanup is confirmed. -/
theorem shortStopped_settled (n : Nat) (receipt : TrustedTaskAuthorizationReceipt) : (shortStopped n receipt).settled = true := by
  have hhost : (shortOpened n receipt).hostTask = some ⟨none⟩ := rfl
  have hstops : (shortOpened n receipt).StopsTo (shortStopped n receipt) := stoppedTask_stopsTo _ _ hhost
  have hsession : "mcp-task-" ++ shortUuid n = "mcp-" ++ ("task-" ++ shortUuid n) := by
    rw [← String.append_assoc]
    rfl
  have hconfirms : confirms ("mcp-" ++ ("task-" ++ shortUuid n)) (shortTurn n) (shortTurn n) = true := by
    simp [confirms, shortTurn, turn, TaskProposal.acknowledges, hsession]
  have hstatus : stoppedTaskStatus (shortStopped n receipt).cleanup = .stopped := (stoppedTask_status _ hhost).mpr hconfirms
  unfold TaskProposal.settled
  rw [hstops.revoked, hstatus]
  rfl

/-- It is kept until it expires. -/
theorem shortStopped_retained (n : Nat) (receipt : TrustedTaskAuthorizationReceipt) : (shortStopped n receipt).retained 1000 = true := by
  have hstops : (shortOpened n receipt).StopsTo (shortStopped n receipt) := stoppedTask_stopsTo _ _ rfl
  have hexpiry : (shortOpened n receipt).registration.expiresAtUnixMs = 61000 := rfl
  unfold TaskProposal.retained
  rw [hstops.registration, hexpiry]
  simp

theorem shortServer_step {s next : TaskServer} {call : TaskCall} {result : Except TaskError TaskOutput} {rest : List TaskAnswer}
    (h : serve BrokerSample.env shortUuid shortUuid call.first call.request s call.script = .done result next rest) :
    (shortServer.step s (.call call)).2 = next := by
  unfold shortServer taskServer
  dsimp only
  rw [h]

/-- The next task is started. -/
theorem Worn.start {n : Nat} {s : TaskServer} (h : Worn n s) (hn : n < 64) :
    ∃ receipt broker revoked, (shortServer.step s (.call (shortCall (2 * n) (.startTask input)))).2 =
        ⟨broker, ("task-" ++ shortUuid (2 * n), shortOpened (2 * n) receipt) :: s.proposals, 2 * (n + 1)⟩ ∧
      broker.revoke receipt.authorizationId = (.ok (), revoked) ∧ revoked.KeysDrawn shortUuid ∧ revoked.drawn = 2 * (n + 1) ∧
      revoked.authorizations.size ≤ 2 * (n + 1) := by
  obtain ⟨receipt, broker, revoked, hprepare, hlater⟩ := h.prepare hn
  refine ⟨receipt, broker, revoked, ?_, hlater⟩
  have hfresh : TaskServer.Fresh (shortTurn (2 * n)) (newProposal input (shortRegistration ("task-grant-" ++ shortUuid (2 * n + 1))) receipt) :=
    ⟨rfl, rfl, show 1000 < 61000 by decide, rfl, rfl, rfl⟩
  have hwilling : Willing (shortTurn (2 * n)) (7, 9) := ⟨rfl, rfl, rfl, rfl⟩
  obtain ⟨started, hstart⟩ := startTask_head BrokerSample.env shortUuid broker (2 * (n + 1)) [.turn (shortTurn (2 * n))]
    (h.fresh hn) hwilling hfresh
  have hdone : startExactTask BrokerSample.env shortUuid shortUuid input (shortTurn (2 * n)) s
      (List.replicate 4 (.turn (shortTurn (2 * n)))) = .done (.ok started)
        ⟨broker, ("task-" ++ shortUuid (2 * n), shortOpened (2 * n) receipt) :: s.proposals, 2 * (n + 1)⟩ [.turn (shortTurn (2 * n))] := by
    unfold startExactTask
    rw [Prog.tryThen_ok (Prog.update_done hprepare _)]
    exact Prog.andThen_done hstart
  exact shortServer_step (output_done hdone)

/-- The task is stopped. -/
theorem Worn.stop {n : Nat} {s : TaskServer} (h : Worn n s) (hn : n < 64) {receipt : TrustedTaskAuthorizationReceipt} {broker revoked : BrokerState}
    (hrevoke : broker.revoke receipt.authorizationId = (.ok (), revoked)) :
    (shortServer.step ⟨broker, ("task-" ++ shortUuid (2 * n), shortOpened (2 * n) receipt) :: s.proposals, 2 * (n + 1)⟩
      (.call (shortCall (2 * n) (.stopTask ("task-" ++ shortUuid (2 * n)))))).2 =
    ⟨revoked, ("task-" ++ shortUuid (2 * n), shortStopped (2 * n) receipt) :: s.proposals, 2 * (n + 1)⟩ := by
  have hreceipt : (shortOpened (2 * n) receipt).receipt = some receipt := rfl
  have hsession : (shortOpened (2 * n) receipt).session = some ⟨"mcp-" ++ ("task-" ++ shortUuid (2 * n)), 7, 9⟩ := rfl
  have hended : (shortTurn (2 * n)).hostEnded = some true := rfl
  obtain ⟨payload, hstop⟩ := revokeTask_head BrokerSample.env shortUuid (2 * (n + 1)) (List.replicate 2 (.turn (shortTurn (2 * n))))
    (h.fresh hn) rfl hreceipt hsession rfl hrevoke hended
  exact shortServer_step (output_done hstop)

theorem Worn.cycle {n : Nat} {s : TaskServer} (h : Worn n s) (hn : n < 64) :
    Worn (n + 1) (shortServer.final s [.call (shortCall (2 * n) (.startTask input)),
      .call (shortCall (2 * n) (.stopTask ("task-" ++ shortUuid (2 * n))))]) := by
  obtain ⟨receipt, broker, revoked, hstart, hrevoke, hkeys, hdrawn, hsize⟩ := h.start hn
  rw [Machine.final_cons, hstart, Machine.final_cons, h.stop hn hrevoke, Machine.final_nil]
  exact
    { count := by rw [List.length_cons, h.count]
      settled := List.forall_mem_cons.mpr ⟨⟨shortStopped_settled _ _, shortStopped_retained _ _⟩, h.settled⟩
      drawn := rfl
      ids := List.forall_mem_cons.mpr ⟨⟨2 * n, by omega, rfl⟩, fun entry hentry =>
        (h.ids entry hentry).imp fun k hk => ⟨by omega, hk.2⟩⟩
      keys := hkeys
      brokerDrawn := hdrawn
      leases := hsize }

theorem worn_initial : Worn 0 (TaskServer.initial 0 0) :=
  { count := rfl
    settled := fun entry hentry => by cases hentry
    drawn := rfl
    ids := fun entry hentry => by cases hentry
    keys := BrokerState.initial_keysDrawn 0
    brokerDrawn := rfl
    leases := Nat.le_refl 0 }

theorem worn_cycles : ∀ n ≤ 64, Worn n (shortServer.final (TaskServer.initial 0 0) (cycles n))
  | 0, _ => worn_initial
  | n + 1, hn => by
    rw [cycles, Machine.final_append]
    exact (worn_cycles n (Nat.le_of_succ_le hn)).cycle hn

/-- When 64 tasks have been stopped, none of them is live. -/
theorem Worn.none_live {n : Nat} {s : TaskServer} (h : Worn n s) : s.liveTasks 1000 = 0 := by
  refine List.countP_eq_zero.mpr fun entry hentry hlive => ?_
  unfold TaskProposal.live at hlive
  rw [(h.settled entry hentry).1, Bool.not_true, Bool.and_false] at hlive
  cases hlive

/-- And the next start is refused for capacity. -/
theorem Worn.refused {s : TaskServer} (h : Worn 64 s) : (shortServer.step s (.call nextStart)).1 = some (.error .capacity) := by
  have hcapacity : ensureTaskCapacity nextStart.first.capacityMs s = (.error .capacity, s) := by
    unfold ensureTaskCapacity
    rw [show nextStart.first.capacityMs = 1000 from rfl, h.retain]
    dsimp only
    rw [if_pos (show maxPendingTasks ≤ s.proposals.length from Nat.le_of_eq h.count.symm)]
  have hprepare : prepareScopedTask BrokerSample.env shortUuid shortUuid input false nextStart.first s = (.error .capacity, s) := by
    have hscope : input.scope nextStart.first = .ok ([], .exactWindow 7 9) := rfl
    unfold prepareScopedTask admitTask
    rw [hscope]
    dsimp only
    rw [hcapacity]
  have hdone : startExactTask BrokerSample.env shortUuid shortUuid input nextStart.first s nextStart.script =
      .done (.error .capacity) s nextStart.script := Prog.tryThen_error (Prog.update_done hprepare _)
  have hserve : serve BrokerSample.env shortUuid shortUuid nextStart.first nextStart.request s nextStart.script =
      .done (.error .capacity) s nextStart.script := Prog.tryThen_error hdone
  unfold shortServer taskServer
  dsimp only
  rw [hserve]

end TaskSample

/-- A task is started while there is room for it. -/
theorem starts_admitted_iff_run :
    ((TaskSample.server.trace (TaskServer.initial 0 0) [TaskSample.call 1000 0 (.startTask TaskSample.input)]).map fun c =>
      (c.before.proposals.length, c.after.liveTasks 1000)) = [(0, 1)] ∧
    ∀ c ∈ TaskSample.server.trace (TaskServer.initial 0 0) [TaskSample.call 1000 0 (.startTask TaskSample.input)], ∀ call,
      TaskStep.Starts c call → (TaskStep.AdmitsStart BrokerSample.env BrokerSample.uuid c call ↔
        ¬c.before.FewLive BrokerSample.env BrokerSample.uuid call ∨
          TaskServer.RoomyStart BrokerSample.env BrokerSample.uuid BrokerSample.uuid c.before call) :=
  ⟨by decide, starts_admitted_iff BrokerSample.env BrokerSample.uuid_injective BrokerSample.uuid_injective 0 0 _⟩

/-- After 64 tasks that were started and stopped within one lifetime the next start is refused, though no task is live. -/
theorem stopped_tasks_refuse_start : ∃ c ∈ TaskSample.shortServer.trace (TaskServer.initial 0 0)
      (TaskSample.cycles 64 ++ [.call TaskSample.nextStart]), ∃ call,
    TaskStep.Starts c call ∧ ¬TaskStep.AdmitsStart BrokerSample.env TaskSample.shortUuid c call := by
  have hworn := TaskSample.worn_cycles 64 (Nat.le_refl 64)
  rw [Machine.trace_append]
  generalize TaskSample.shortServer.trace (TaskServer.initial 0 0) (TaskSample.cycles 64) = earlier
  generalize TaskSample.shortServer.final (TaskServer.initial 0 0) (TaskSample.cycles 64) = server at hworn
  refine ⟨TaskSample.shortServer.call server (.call TaskSample.nextStart), ?_, TaskSample.nextStart,
    ⟨rfl, Or.inl ⟨TaskSample.input, rfl⟩⟩, fun hadmits => ?_⟩
  · exact List.mem_append_right _ List.mem_cons_self
  · have hfew : server.FewLive BrokerSample.env TaskSample.shortUuid TaskSample.nextStart := by
      refine ⟨?_, fun input later next hrequest => by cases hrequest⟩
      rw [show TaskSample.nextStart.first.capacityMs = 1000 from rfl, hworn.none_live]
      decide
    have hrefused : (TaskSample.shortServer.call server (.call TaskSample.nextStart)).output = some (.error .capacity) :=
      (Machine.call_output _ _ _).trans hworn.refused
    exact hadmits hfew ⟨.capacity, hrefused, rfl⟩

end DccCua
