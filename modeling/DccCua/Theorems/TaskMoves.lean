import DccCua.Cli.TaskServer
import DccCua.Theorems.BrokerRuns
import Mathlib.Logic.Relation

/-! # The moves of a task server

Whatever a request does to the server is a sequence of moves: each of them changes one task, or the broker. What a
move keeps holds in every state that the server reaches. The requests themselves are gone through once, in
`Theorems.TaskRequests`. -/

namespace DccCua

open Runs Checks Script

/-! ### What a task waits for -/

namespace TaskEvent

/-- The later event `answer` settles the event `e`. -/
def settles : (answer e : TaskEvent) → Bool
  | .sessionOpened, .openAttempted => true
  | .stopAcknowledged, .sessionOpened => true
  | .hostEnded true, .hostSpawned => true
  | _, _ => false

/-- The event has to be settled. -/
def waits : TaskEvent → Bool
  | .openAttempted | .sessionOpened | .hostSpawned => true
  | _ => false

/-- The events of a history, the last first, that nothing has settled. -/
def outstanding : List TaskEvent → List TaskEvent
  | [] => []
  | e :: earlier =>
    let rest := (outstanding earlier).filter fun old => !settles e old
    if e.waits then e :: rest else rest

theorem mem_outstanding_cons {e old : TaskEvent} {earlier : List TaskEvent} :
    old ∈ outstanding (e :: earlier) ↔
      (e.waits = true ∧ old = e) ∨ (old ∈ outstanding earlier ∧ settles e old = false) := by
  rw [outstanding]
  split <;> rename_i h <;> simp [h]

theorem waits_of_outstanding {old : TaskEvent} : ∀ {history : List TaskEvent}, old ∈ outstanding history → old.waits = true
  | [], h => by cases h
  | e :: earlier, h => by
    rcases mem_outstanding_cons.mp h with ⟨hwaits, rfl⟩ | ⟨h, -⟩
    · exact hwaits
    · exact waits_of_outstanding h

/-- An event that neither waits nor settles. -/
theorem mem_outstanding_note {e event : TaskEvent} {history : List TaskEvent} (hwaits : event.waits = false)
    (hsettles : ∀ old, settles event old = false) : e ∈ outstanding (event :: history) ↔ e ∈ outstanding history := by
  rw [mem_outstanding_cons, hwaits, hsettles e]
  simp

/-- Nothing is outstanding when every event that has to be settled is settled by a later one. -/
theorem settled_of_outstanding : ∀ {history : List TaskEvent}, (∀ e, e ∉ outstanding history) →
    ∀ later e earlier, history = later ++ e :: earlier → e.waits = true → ∃ answer ∈ later, settles answer e = true
  | [], _, later, e, earlier, h, _ => by simp at h
  | a :: rest, hnone, later, e, earlier, h, he => by
    -- The event is outstanding in its own tail; somewhere later it is settled.
    by_contra hnot
    push Not at hnot
    have hall : ∀ later', (∀ answer ∈ later', settles answer e ≠ true) → e ∈ outstanding (later' ++ e :: earlier) := by
      intro later' hlater
      induction later' with
      | nil => exact mem_outstanding_cons.mpr (Or.inl ⟨he, rfl⟩)
      | cons b later' ih =>
        refine mem_outstanding_cons.mpr (Or.inr ⟨ih fun answer ha => hlater answer (List.mem_cons_of_mem _ ha), ?_⟩)
        exact Bool.eq_false_iff.mpr (hlater b List.mem_cons_self)
    exact hnone e (h ▸ hall later hnot)

end TaskEvent

/-! ### Moves -/

/-- What a request does to one task at once. -/
inductive TaskProposal.Change : TaskProposal → TaskProposal → Prop where
  | bindWorkflow (proposal : TaskProposal) (workflowId : Option String) :
      Change proposal (proposal.bindWorkflow workflowId)
  | attemptOpen (proposal : TaskProposal) : proposal.revoked = false → proposal.session = none →
      proposal.hostTask = none → Change proposal proposal.attemptOpen
  | spawnHost (proposal : TaskProposal) : proposal.revoked = false → proposal.session = none →
      proposal.hostTask = none → proposal.sessionOpenAttempted = true → Change proposal proposal.spawnHost
  | openSession (proposal : TaskProposal) (session : LogicalTaskSession) : proposal.revoked = false →
      proposal.session = none → proposal.hostTask = some ⟨none⟩ → proposal.sessionOpenAttempted = true →
      Change proposal (proposal.openSession session)
  | finishAgain (proposal : TaskProposal) : proposal.revoked = true → Change proposal proposal.beginFinish
  | recordStop (proposal : TaskProposal) (sessionId : String) (reply : Except String StopReply) :
      proposal.revoked = true → .openAttempted ∉ TaskEvent.outstanding proposal.history →
      Change proposal (proposal.recordStop sessionId reply).beginFinish
  | recordNoSession (proposal : TaskProposal) : proposal.revoked = true → Change proposal proposal.recordNoSession.beginFinish
  | completeHost (proposal : TaskProposal) (success : Bool) : proposal.revoked = true →
      proposal.hostTask = some ⟨none⟩ → Change proposal (proposal.completeHost success)
  | retarget (proposal : TaskProposal) (target : TrustedTaskAuthorizationTarget) : proposal.revoked = true →
      Change proposal (proposal.retarget target)
  | forward (proposal : TaskProposal) (method : String) : proposal.revoked = false →
      proposal.userActionRequired = none → proposal.session.isSome = true → Change proposal (proposal.note (.forwarded method))

namespace TaskServer

/-- The task can still be used: it was neither stopped nor paused. -/
def Usable (server : TaskServer) (id : String) : Prop :=
  ∃ proposal, server.task? id = some proposal ∧ proposal.revoked = false ∧ proposal.userActionRequired = none

/-- What the server does at once, in a request that it has taken up in the state `start`. -/
inductive Move (env : Env) (uuid newUuid : Nat → String) (start : TaskServer) : TaskServer → TaskServer → Prop where
  | host (server : TaskServer) (call : HostCall) : Move env uuid newUuid start server (server.hostCall env uuid call)
  | retain (server : TaskServer) (now : Nat) : Move env uuid newUuid start server (server.retainTasks now)
  | draw (server : TaskServer) : Move env uuid newUuid start server { server with drawn := server.drawn + 2 }
  | unregistered (server : TaskServer) (fs : FileSystem) (registration : TrustedTaskAuthorizationRegistration)
      (deadline : Option Nat) (readings : BrokerState.RegisterReadings) :
      Move env uuid newUuid start server
        { server with broker := (server.broker.register env uuid fs registration deadline readings).2 }
  | enter (server : TaskServer) (input : PrepareTaskInput) (fs : FileSystem)
      (registration : TrustedTaskAuthorizationRegistration) (deadline : Option Nat)
      (readings : BrokerState.RegisterReadings) (receipt : TrustedTaskAuthorizationReceipt) (broker : BrokerState) :
      server.broker.register env uuid fs registration deadline readings = (.ok receipt, broker) →
      Move env uuid newUuid start server ({ server with drawn := server.drawn + 2, broker := broker }.insertTask
        ("task-" ++ newUuid server.drawn) (newProposal input registration receipt))
  | change (server : TaskServer) (id : String) (proposal : TaskProposal) (f : TaskProposal → TaskProposal) :
      server.task? id = some proposal → proposal.Change (f proposal) → Move env uuid newUuid start server (server.modifyTask id f)
  | revoke (server : TaskServer) (id : String) (proposal : TaskProposal) (receipt : TrustedTaskAuthorizationReceipt)
      (broker : BrokerState) : server.task? id = some proposal → proposal.revoked = false → proposal.receipt = some receipt →
      server.broker.revoke receipt.authorizationId = (.ok (), broker) →
      Move env uuid newUuid start server ({ server with broker := broker }.modifyTask id (TaskProposal.revoke receipt.authorizationId))
  | pause (server : TaskServer) (id reason : String) (proposal : TaskProposal) (receipt : TrustedTaskAuthorizationReceipt)
      (broker : BrokerState) : server.task? id = some proposal → proposal.revoked = false → proposal.receipt = some receipt →
      server.broker.revoke receipt.authorizationId = (.ok (), broker) →
      Move env uuid newUuid start server ({ server with broker := broker }.modifyTask id (TaskProposal.pause receipt.authorizationId reason))
  | renew (server : TaskServer) (id : String) (proposal : TaskProposal) (fs : FileSystem)
      (deadline : Option Nat) (readings : BrokerState.RegisterReadings) (receipt : TrustedTaskAuthorizationReceipt)
      (broker : BrokerState) : server.task? id = some proposal → proposal.revoked = true →
      stoppedTaskStatus proposal.cleanup = .stopped → Usable start id →
      server.broker.register env uuid fs proposal.registration deadline readings = (.ok receipt, broker) →
      Move env uuid newUuid start server ({ server with broker := broker }.modifyTask id (TaskProposal.renew receipt))

abbrev Reach (env : Env) (uuid newUuid : Nat → String) (start : TaskServer) : TaskServer → TaskServer → Prop :=
  Relation.ReflTransGen (Move env uuid newUuid start)

/-! ### Tasks in the map -/

theorem lookup_map {id id' : String} {f : TaskProposal → TaskProposal} : ∀ entries : List (String × TaskProposal),
    (entries.map fun entry => if entry.1 = id then (entry.1, f entry.2) else entry).lookup id' =
      if id' = id then (entries.lookup id').map f else entries.lookup id'
  | [] => by simp
  | (key, proposal) :: entries => by
    rw [List.map_cons, List.lookup_cons, List.lookup_cons, lookup_map entries]
    by_cases hkey : id' = key
    · subst hkey
      by_cases hid : id' = id
      · simp [hid]
      · simp [hid]
    · have hne : (id' == key) = false := by simpa using hkey
      have hne' : (id' == (if key = id then (key, f proposal) else (key, proposal)).1) = false := by
        split <;> exact hne
      rw [hne, hne']

theorem task?_modifyTask (server : TaskServer) (id id' : String) (f : TaskProposal → TaskProposal) :
    (server.modifyTask id f).task? id' = if id' = id then (server.task? id').map f else server.task? id' :=
  lookup_map server.proposals

theorem ids_modifyTask (server : TaskServer) (id : String) (f : TaskProposal → TaskProposal) :
    (server.modifyTask id f).ids = server.ids := by
  unfold ids modifyTask
  rw [List.map_map]
  refine List.map_congr_left fun entry _ => ?_
  simp only [Function.comp_apply]
  split <;> rfl

theorem task?_insertTask (server : TaskServer) (id id' : String) (proposal : TaskProposal) :
    (server.insertTask id proposal).task? id' = if id' = id then some proposal else server.task? id' := by
  unfold task? insertTask
  rw [List.lookup_cons]
  split
  · rename_i h
    rw [if_pos (by simpa using h)]
  · rename_i h
    have hne : id' ≠ id := by simpa using h
    rw [if_neg hne]
    induction server.proposals with
    | nil => rfl
    | cons entry entries ih =>
      obtain ⟨key, old⟩ := entry
      by_cases hkey : key = id
      · have hne' : (id' == key) = false := by simpa [hkey] using hne
        simp only [hkey, ne_eq, not_true_eq_false, decide_false, Bool.false_eq_true, not_false_eq_true,
          List.filter_cons_of_neg, List.lookup_cons, ih]
        rw [show (id' == id) = false by simpa using hne]
      · rw [List.filter_cons_of_pos (by simpa using hkey), List.lookup_cons, List.lookup_cons, ih]

theorem mem_of_task? {server : TaskServer} {id : String} {proposal : TaskProposal} (h : server.task? id = some proposal) :
    (id, proposal) ∈ server.proposals := by
  obtain ⟨l₁, l₂, heq, -⟩ := List.lookup_eq_some_iff.mp h
  rw [heq]
  exact List.mem_append_right _ List.mem_cons_self

theorem task?_of_mem {server : TaskServer} {id : String} {proposal : TaskProposal} (hnodup : server.ids.Nodup)
    (h : (id, proposal) ∈ server.proposals) : server.task? id = some proposal := by
  unfold ids at hnodup
  unfold task?
  generalize server.proposals = entries at hnodup h ⊢
  induction entries with
  | nil => cases h
  | cons entry entries ih =>
    rw [List.map_cons, List.nodup_cons] at hnodup
    rw [List.lookup_cons]
    rcases List.mem_cons.mp h with rfl | h
    · simp
    · have hne : (id == entry.1) = false := by
        refine beq_eq_false_iff_ne.mpr ?_
        rintro rfl
        exact hnodup.1 (List.mem_map.mpr ⟨_, h, rfl⟩)
      rw [hne]
      exact ih hnodup.2 h

theorem mem_ids {server : TaskServer} {id : String} {proposal : TaskProposal} (h : server.task? id = some proposal) :
    id ∈ server.ids := List.mem_map_of_mem (mem_of_task? h)

theorem task?_eq_none {server : TaskServer} {id : String} (h : id ∉ server.ids) : server.task? id = none := by
  cases htask : server.task? id with
  | none => rfl
  | some proposal => exact absurd (mem_ids htask) h

/-- Whatever a change of one task was, it is found in the task of that id or in the task as it was. -/
theorem task?_modified (server : TaskServer) {id id' : String} {f : TaskProposal → TaskProposal}
    {proposal changed : TaskProposal} (htask : server.task? id = some proposal)
    (h : (server.modifyTask id f).task? id' = some changed) :
    (id' = id ∧ changed = f proposal) ∨ (id' ≠ id ∧ server.task? id' = some changed) := by
  rw [task?_modifyTask] at h
  by_cases hid : id' = id
  · subst hid
    rw [if_pos rfl, htask] at h
    exact Or.inl ⟨rfl, (Option.some.inj h).symm⟩
  · rw [if_neg hid] at h
    exact Or.inr ⟨hid, h⟩

end TaskServer

/-! ### Invariants of a task -/

open BrokerState TaskEvent

/-- The invariants that hold also while a cleanup is being recorded. -/
structure TaskProposal.Recorded (uuid : Nat → String) (broker : BrokerState) (proposal : TaskProposal) : Prop where
  leased : proposal.receipt.isSome = true
  closed : proposal.revoked = true → proposal.session = none
  owned : proposal.session.isSome = true → proposal.hostTask = some ⟨none⟩ ∧ proposal.sessionOpenAttempted = true
  uncleaned : proposal.revoked = false → proposal.cleanup = none
  /-- Every lease of the task has ended, but for that of a task that is not revoked. -/
  issued : ∀ authorizationId, .issued authorizationId ∈ proposal.history →
    .leaseRevoked authorizationId ∈ proposal.history ∧ EndedIn uuid broker authorizationId ∨
    proposal.revoked = false ∧ ∃ receipt, proposal.receipt = some receipt ∧ receipt.authorizationId = authorizationId
  unattempted : proposal.sessionOpenAttempted = false → ∀ e ∈ outstanding proposal.history, e = .hostSpawned
  opened : proposal.session.isSome = true → .openAttempted ∉ outstanding proposal.history
  acknowledged : ∀ cleanup, proposal.cleanup = some cleanup → cleanup.clean = true →
    ∀ e ∈ outstanding proposal.history, e = .hostSpawned
  spawned : .hostSpawned ∈ outstanding proposal.history →
    ∃ host, proposal.hostTask = some host ∧ host.completion ≠ some ⟨true, true⟩

structure TaskProposal.Sound (uuid : Nat → String) (broker : BrokerState) (proposal : TaskProposal) : Prop
    extends proposal.Recorded uuid broker where
  /-- The cleanup record shows no more of the Host connection than is known. -/
  published : ∀ cleanup host, proposal.cleanup = some cleanup → proposal.hostTask = some host →
    ∃ completion, cleanup.hostConnectionCompletion = some completion ∧
      (completion = ⟨true, true⟩ → host.completion = some ⟨true, true⟩)

namespace TaskProposal
variable {uuid : Nat → String} {broker broker' : BrokerState} {proposal changed : TaskProposal}

/-- What the broker does otherwise does not matter. -/
theorem Sound.mono (h : proposal.Sound uuid broker) (hmono : ∀ id, EndedIn uuid broker id → EndedIn uuid broker' id) :
    proposal.Sound uuid broker' :=
  { h with issued := fun authorizationId hissued => (h.issued authorizationId hissued).imp (And.imp_right (hmono _)) id }

theorem Recorded.issued_note (h : proposal.Recorded uuid broker) {event : TaskEvent}
    (hevent : ∀ authorizationId, event ≠ .issued authorizationId) (authorizationId : String)
    (hissued : .issued authorizationId ∈ (proposal.note event).history) :
    .leaseRevoked authorizationId ∈ (proposal.note event).history ∧ EndedIn uuid broker authorizationId ∨
      proposal.revoked = false ∧ ∃ receipt, proposal.receipt = some receipt ∧ receipt.authorizationId = authorizationId := by
  rcases List.mem_cons.mp hissued with heq | hmem
  · exact absurd heq.symm (hevent authorizationId)
  · exact (h.issued authorizationId hmem).imp_left (And.imp_left (List.mem_cons_of_mem _))

/-- The record of the Host connection is brought up to date. -/
theorem Recorded.beginFinish (h : proposal.Recorded uuid broker) (hrevoked : proposal.revoked = true) :
    proposal.beginFinish.Sound uuid broker := by
  unfold TaskProposal.beginFinish
  cases hhost : proposal.hostTask with
  | none => exact { h with published := fun cleanup host _ hsome => by simp [hhost] at hsome }
  | some host =>
    refine { h with uncleaned := fun hopen => ?_, acknowledged := ?_, published := ?_ }
    · rw [show proposal.revoked = false from hopen] at hrevoked
      cases hrevoked
    · intro cleanup hcleanup hclean e he
      cases hrecord : proposal.cleanup with
      | none =>
        simp only [publish, hrecord, Option.getD_none, Option.some.injEq] at hcleanup
        subst hcleanup
        cases hclean
      | some record =>
        simp only [publish, hrecord, Option.getD_some, Option.some.injEq] at hcleanup
        subst hcleanup
        exact h.acknowledged record hrecord hclean e he
    · intro cleanup host' hcleanup hhost'
      obtain rfl : host = host' := Option.some.inj (hhost.symm.trans hhost')
      obtain rfl := Option.some.inj hcleanup
      refine ⟨_, rfl, fun hdone => ?_⟩
      cases hcompletion : host.completion with
      | none =>
        rw [hcompletion] at hdone
        cases hdone
      | some completion =>
        rw [hcompletion] at hdone
        exact congrArg some hdone

/-- A clean record is one of an acknowledgement with success. -/
theorem acknowledged_of_clean {sessionId : String} {reply : Except String StopReply}
    (h : (stopOwnedTaskSession sessionId reply).clean = true) :
    ∃ answer, reply = .ok answer ∧ acknowledges sessionId answer = true ∧ answer.success = some true := by
  unfold stopOwnedTaskSession at h
  split at h
  · rename_i answer
    split at h
    · rename_i hack
      simp only [TaskCleanup.clean, Bool.and_eq_true, beq_iff_eq] at h
      exact ⟨answer, rfl, hack, h.1.1⟩
    · cases h
  · cases h

theorem Recorded.recordStop (h : proposal.Recorded uuid broker) (hrevoked : proposal.revoked = true)
    (hopened : .openAttempted ∉ outstanding proposal.history) (sessionId : String) (reply : Except String StopReply) :
    (proposal.recordStop sessionId reply).Recorded uuid broker := by
  have hsession := h.closed hrevoked
  unfold TaskProposal.recordStop
  dsimp only
  split
  · rename_i hclean
    -- The acknowledgement settles the session.
    have hsettled : ∀ e ∈ outstanding (.stopAcknowledged :: proposal.history), e = .hostSpawned := by
      intro e he
      rcases mem_outstanding_cons.mp he with ⟨hwaits, -⟩ | ⟨he, hsettles⟩
      · cases hwaits
      · have hwaits : e.waits = true := waits_of_outstanding he
        cases e with
        | hostSpawned => rfl
        | sessionOpened => cases hsettles
        | openAttempted => exact absurd he hopened
        | _ => cases hwaits
    exact
      { leased := h.leased
        closed := h.closed
        owned := h.owned
        uncleaned := fun hopen => by rw [show proposal.revoked = false from hopen] at hrevoked; cases hrevoked
        issued := h.issued_note nofun
        unattempted := fun _ => hsettled
        opened := fun hsome => by simp [note, hsession] at hsome
        acknowledged := fun _ _ _ => hsettled
        spawned := fun hspawned => h.spawned (by
          rcases mem_outstanding_cons.mp hspawned with ⟨hwaits, -⟩ | ⟨he, -⟩
          · cases hwaits
          · exact he) }
  · rename_i hclean
    refine { h with uncleaned := fun hopen => ?_, acknowledged := fun cleanup hcleanup hclean' => ?_ }
    · rw [show proposal.revoked = false from hopen] at hrevoked
      cases hrevoked
    · obtain rfl := Option.some.inj hcleanup
      exact absurd hclean' hclean

theorem Recorded.recordNoSession (h : proposal.Recorded uuid broker) (hrevoked : proposal.revoked = true) :
    proposal.recordNoSession.Recorded uuid broker := by
  refine { h with uncleaned := fun hopen => ?_, acknowledged := fun cleanup hcleanup hclean e he => ?_ }
  · rw [show proposal.revoked = false from hopen] at hrevoked
    cases hrevoked
  · obtain rfl := Option.some.inj hcleanup
    cases hattempted : proposal.sessionOpenAttempted with
    | false => exact h.unattempted hattempted e he
    | true =>
      rw [hattempted] at hclean
      cases hclean

/-- A task that is reported as stopped has nothing outstanding. -/
theorem Sound.settled (h : proposal.Sound uuid broker) (hstopped : stoppedTaskStatus proposal.cleanup = .stopped) :
    ∀ e, e ∉ outstanding proposal.history := by
  intro e he
  unfold stoppedTaskStatus at hstopped
  split at hstopped
  · cases hstopped
  · rename_i cleanup hcleanup
    split at hstopped
    · cases hstopped
    · rename_i hcompleted
      split at hstopped
      · cases hstopped
      · rename_i hsuccess
        split at hstopped
        · rename_i hclean
          split at hstopped
          · rename_i hok
            simp only [Bool.and_eq_true, Bool.not_eq_true', beq_iff_eq] at hclean hok
            have hcleanAll : cleanup.clean = true := by simp [TaskCleanup.clean, hclean.1, hclean.2, hok]
            obtain rfl := h.acknowledged cleanup hcleanup hcleanAll e he
            obtain ⟨host, hhost, hpending⟩ := h.spawned he
            obtain ⟨completion, hcompletion, hdone⟩ := h.published cleanup host hcleanup hhost
            rw [hcompletion] at hcompleted hsuccess
            refine hpending (hdone ?_)
            obtain ⟨completed, success⟩ := completion
            simp only [Option.any_some, Bool.not_eq_true', Bool.not_eq_false] at hcompleted hsuccess
            rw [hcompleted, hsuccess]
          · cases hstopped
        · cases hstopped

/-- Every change of a task keeps its invariants. -/
theorem Change.sound (h : proposal.Change changed) (hsound : proposal.Sound uuid broker) : changed.Sound uuid broker := by
  have contradict : ∀ {P : Prop}, proposal.revoked = false → proposal.revoked = true → P := fun hf ht => by
    rw [hf] at ht
    cases ht
  cases h with
  | bindWorkflow workflowId => exact { hsound with }
  | attemptOpen hopen hsession hhost =>
    have hnone := hsound.uncleaned hopen
    exact
      { leased := hsound.leased
        closed := fun hrevoked => contradict hopen hrevoked
        owned := fun hsome => by simp [TaskProposal.attemptOpen, note, hsession] at hsome
        uncleaned := hsound.uncleaned
        issued := hsound.issued_note nofun
        unattempted := fun hfalse => by cases hfalse
        opened := fun hsome => by simp [TaskProposal.attemptOpen, note, hsession] at hsome
        acknowledged := fun cleanup hcleanup => by simp [TaskProposal.attemptOpen, note, hnone] at hcleanup
        spawned := fun hspawned => by
          rcases mem_outstanding_cons.mp hspawned with ⟨-, heq⟩ | ⟨he, -⟩
          · cases heq
          · exact hsound.spawned he
        published := hsound.published }
  | spawnHost hopen hsession hhost hattempted =>
    have hnone := hsound.uncleaned hopen
    exact
      { leased := hsound.leased
        closed := fun hrevoked => contradict hopen hrevoked
        owned := fun hsome => by simp [TaskProposal.spawnHost, note, hsession] at hsome
        uncleaned := hsound.uncleaned
        issued := hsound.issued_note nofun
        unattempted := fun hfalse => by
          rw [show proposal.sessionOpenAttempted = false from hfalse] at hattempted
          cases hattempted
        opened := fun hsome => by simp [TaskProposal.spawnHost, note, hsession] at hsome
        acknowledged := fun cleanup hcleanup => by simp [TaskProposal.spawnHost, note, hnone] at hcleanup
        spawned := fun _ => ⟨⟨none⟩, rfl, nofun⟩
        published := fun cleanup host hcleanup => by simp [TaskProposal.spawnHost, note, hnone] at hcleanup }
  | openSession session hopen hsession hhost hattempted =>
    have hnone := hsound.uncleaned hopen
    exact
      { leased := hsound.leased
        closed := fun hrevoked => contradict hopen hrevoked
        owned := fun _ => ⟨hhost, hattempted⟩
        uncleaned := hsound.uncleaned
        issued := hsound.issued_note nofun
        unattempted := fun hfalse => by
          rw [show proposal.sessionOpenAttempted = false from hfalse] at hattempted
          cases hattempted
        opened := fun _ he => by
          rcases mem_outstanding_cons.mp he with ⟨-, heq⟩ | ⟨-, hsettles⟩
          · cases heq
          · cases hsettles
        acknowledged := fun cleanup hcleanup => by simp [TaskProposal.openSession, note, hnone] at hcleanup
        spawned := fun _ => ⟨⟨none⟩, hhost, nofun⟩
        published := fun cleanup host hcleanup => by simp [TaskProposal.openSession, note, hnone] at hcleanup }
  | finishAgain hrevoked => exact hsound.beginFinish hrevoked
  | recordStop sessionId reply hrevoked hopened =>
    refine (hsound.recordStop hrevoked hopened sessionId reply).beginFinish ?_
    unfold TaskProposal.recordStop
    dsimp only
    split <;> exact hrevoked
  | recordNoSession hrevoked => exact (hsound.recordNoSession hrevoked).beginFinish hrevoked
  | completeHost success hrevoked hhost =>
    have hsession := hsound.closed hrevoked
    have hmem : ∀ e ∈ outstanding (.hostEnded success :: proposal.history), e ∈ outstanding proposal.history := by
      intro e he
      rcases mem_outstanding_cons.mp he with ⟨hwaits, -⟩ | ⟨he, -⟩
      · cases hwaits
      · exact he
    exact
      { leased := hsound.leased
        closed := hsound.closed
        owned := fun hsome => by simp [TaskProposal.completeHost, publish, note, hsession] at hsome
        uncleaned := fun hopen => contradict hopen hrevoked
        issued := hsound.issued_note nofun
        unattempted := fun hfalse e he => hsound.unattempted hfalse e (hmem e he)
        opened := fun hsome => by simp [TaskProposal.completeHost, publish, note, hsession] at hsome
        acknowledged := fun cleanup hcleanup hclean e he => by
          obtain rfl := Option.some.inj hcleanup
          cases hrecord : proposal.cleanup with
          | none =>
            simp only [note, hrecord, Option.getD_none] at hclean
            cases hclean
          | some record =>
            simp only [note, hrecord, Option.getD_some] at hclean
            exact hsound.acknowledged record hrecord hclean e (hmem e he)
        spawned := fun hspawned => by
          rcases mem_outstanding_cons.mp hspawned with ⟨hwaits, -⟩ | ⟨-, hsettles⟩
          · cases hwaits
          · cases success with
            | true => cases hsettles
            | false => exact ⟨⟨some ⟨true, false⟩⟩, rfl, by decide⟩
        published := fun cleanup host hcleanup hhost' => by
          obtain rfl := Option.some.inj hcleanup
          obtain rfl := Option.some.inj hhost'
          exact ⟨_, rfl, fun hdone => congrArg some hdone⟩ }
  | retarget target hrevoked => exact { hsound with }
  | forward method hopen hpaused hsession =>
    have hmem : ∀ e, e ∈ outstanding (.forwarded method :: proposal.history) ↔ e ∈ outstanding proposal.history :=
      fun e => mem_outstanding_note rfl fun old => by cases old <;> rfl
    exact
      { leased := hsound.leased
        closed := hsound.closed
        owned := hsound.owned
        uncleaned := hsound.uncleaned
        issued := hsound.issued_note nofun
        unattempted := fun hfalse e he => hsound.unattempted hfalse e ((hmem e).mp he)
        opened := fun hsome he => hsound.opened hsome ((hmem _).mp he)
        acknowledged := fun cleanup hcleanup hclean e he => hsound.acknowledged cleanup hcleanup hclean e ((hmem e).mp he)
        spawned := fun he => hsound.spawned ((hmem _).mp he)
        published := hsound.published }

/-- A revocation of the current lease has ended every lease of the task. -/
theorem Sound.issued_revoked (h : proposal.Sound uuid broker) {receipt : TrustedTaskAuthorizationReceipt}
    (hreceipt : proposal.receipt = some receipt) (hended : EndedIn uuid broker receipt.authorizationId)
    {authorizationId : String} (hmem : .issued authorizationId ∈ proposal.history) :
    .leaseRevoked authorizationId ∈ (proposal.note (.leaseRevoked receipt.authorizationId)).history ∧
      EndedIn uuid broker authorizationId := by
  rcases h.issued authorizationId hmem with ⟨hrevoked, hdone⟩ | ⟨-, receipt', hreceipt', rfl⟩
  · exact ⟨List.mem_cons_of_mem _ hrevoked, hdone⟩
  · obtain rfl := Option.some.inj (hreceipt.symm.trans hreceipt')
    exact ⟨List.mem_cons_self, hended⟩

/-- The lease of the task has been revoked, and nothing else has changed. -/
theorem Sound.noteRevoked (h : proposal.Sound uuid broker) {receipt : TrustedTaskAuthorizationReceipt}
    (hreceipt : proposal.receipt = some receipt) (hended : EndedIn uuid broker receipt.authorizationId) :
    (proposal.note (.leaseRevoked receipt.authorizationId)).Sound uuid broker := by
  have hmem : ∀ e, e ∈ outstanding (.leaseRevoked receipt.authorizationId :: proposal.history) ↔
      e ∈ outstanding proposal.history := fun e => mem_outstanding_note rfl fun old => by cases old <;> rfl
  exact
    { leased := h.leased
      closed := h.closed
      owned := h.owned
      uncleaned := h.uncleaned
      issued := fun authorizationId hissued => Or.inl (h.issued_revoked hreceipt hended (by simpa [note] using hissued))
      unattempted := fun hfalse e he => h.unattempted hfalse e ((hmem e).mp he)
      opened := fun hsome he => h.opened hsome ((hmem _).mp he)
      acknowledged := fun cleanup hcleanup hclean e he => h.acknowledged cleanup hcleanup hclean e ((hmem e).mp he)
      spawned := fun he => h.spawned ((hmem _).mp he)
      published := h.published }

theorem Sound.revoke (h : proposal.Sound uuid broker) (hopen : proposal.revoked = false)
    {receipt : TrustedTaskAuthorizationReceipt} (hreceipt : proposal.receipt = some receipt)
    (hended : EndedIn uuid broker receipt.authorizationId) :
    (proposal.revoke receipt.authorizationId).Sound uuid broker := by
  have hnone := h.uncleaned hopen
  have hnoted := h.noteRevoked hreceipt hended
  have hissued : ∀ authorizationId, .issued authorizationId ∈ proposal.history → _ :=
    fun _ hmem => h.issued_revoked hreceipt hended hmem
  unfold TaskProposal.revoke TaskProposal.takeSession
  cases hsession : (proposal.note (.leaseRevoked receipt.authorizationId)).session with
  | none =>
    exact
      { hnoted with
        closed := fun _ => hsession
        uncleaned := nofun
        issued := fun authorizationId hmem => Or.inl (hissued authorizationId (by simpa [note] using hmem)) }
  | some session =>
    have hmem : ∀ e, e ∈ outstanding (.stopRequested :: .leaseRevoked receipt.authorizationId :: proposal.history) ↔
        e ∈ outstanding (.leaseRevoked receipt.authorizationId :: proposal.history) :=
      fun e => mem_outstanding_note rfl fun old => by cases old <;> rfl
    exact
      { leased := h.leased
        closed := fun _ => rfl
        owned := nofun
        uncleaned := nofun
        issued := fun authorizationId hmem => by
          obtain ⟨hrevoked, hdone⟩ := hissued authorizationId (by simpa [note] using hmem)
          exact Or.inl ⟨List.mem_cons_of_mem _ hrevoked, hdone⟩
        unattempted := fun hfalse e he => hnoted.unattempted hfalse e ((hmem e).mp he)
        opened := nofun
        acknowledged := fun cleanup hcleanup => by simp [note, hnone] at hcleanup
        spawned := fun he => hnoted.spawned ((hmem _).mp he)
        published := fun cleanup host hcleanup => by simp [note, hnone] at hcleanup }

theorem Sound.renew (h : proposal.Sound uuid broker) (hrevoked : proposal.revoked = true)
    (hstopped : stoppedTaskStatus proposal.cleanup = .stopped) (receipt : TrustedTaskAuthorizationReceipt) :
    (proposal.renew receipt).Sound uuid broker := by
  have hsession := h.closed hrevoked
  have hsettled : ∀ e, e ∉ outstanding (.issued receipt.authorizationId :: proposal.history) := fun e he =>
    h.settled hstopped e ((mem_outstanding_note rfl fun old => by cases old <;> rfl).mp he)
  exact
    { leased := rfl
      closed := nofun
      owned := fun hsome => by simp [TaskProposal.renew, note, hsession] at hsome
      uncleaned := fun _ => rfl
      issued := fun authorizationId hmem => by
        rcases List.mem_cons.mp hmem with heq | hmem
        · exact Or.inr ⟨rfl, receipt, rfl, (TaskEvent.issued.inj heq).symm⟩
        · rcases h.issued authorizationId hmem with hdone | ⟨hopen, -⟩
          · exact Or.inl ⟨List.mem_cons_of_mem _ hdone.1, hdone.2⟩
          · rw [hopen] at hrevoked
            cases hrevoked
      unattempted := fun _ e he => absurd he (hsettled e)
      opened := fun _ => hsettled _
      acknowledged := nofun
      spawned := fun he => absurd he (hsettled _)
      published := nofun }

end TaskProposal

/-! ### Invariants of the server -/

namespace TaskServer
variable {env : Env} {uuid newUuid : Nat → String} {start server next : TaskServer}

structure Inv (uuid newUuid : Nat → String) (server : TaskServer) : Prop where
  keys : KeysDrawn uuid server.broker
  nodup : server.ids.Nodup
  named : ∀ id ∈ server.ids, ∃ n < server.drawn, id = "task-" ++ newUuid n
  sound : ∀ id proposal, server.task? id = some proposal → proposal.Sound uuid server.broker

/-- A server that has handled no request yet. -/
def initial (brokerDrawn drawn : Nat) : TaskServer := ⟨BrokerState.initial brokerDrawn, [], drawn⟩

theorem initial_inv (brokerDrawn drawn : Nat) : (initial brokerDrawn drawn).Inv uuid newUuid where
  keys := initial_keysDrawn brokerDrawn
  nodup := List.nodup_nil
  named := fun id h => by cases h
  sound := fun id proposal h => by cases h

/-- A call on the broker that leaves the tasks as they are. -/
theorem Inv.brokerCall (env : Env) (h : server.Inv uuid newUuid) (huuid : Function.Injective uuid) (call : BrokerCall) :
    ({ server with broker := ((brokerMachine env uuid).step server.broker call).2 } : TaskServer).Inv uuid newUuid where
  keys := h.keys.step call
  nodup := h.nodup
  named := h.named
  sound := fun id proposal htask => (h.sound id proposal htask).mono fun _ hended => hended.step huuid call

/-- A new state of one task, once the broker's state is the one that it belongs to. -/
theorem Inv.modify {broker : BrokerState} {id : String} {proposal : TaskProposal} {f : TaskProposal → TaskProposal}
    (h : ({ server with broker := broker } : TaskServer).Inv uuid newUuid) (htask : server.task? id = some proposal)
    (hsound : (f proposal).Sound uuid broker) :
    (({ server with broker := broker } : TaskServer).modifyTask id f).Inv uuid newUuid where
  keys := h.keys
  nodup := (ids_modifyTask _ id f).symm ▸ h.nodup
  named := (ids_modifyTask _ id f).symm ▸ h.named
  sound := fun id' changed hchanged => by
    rcases task?_modified { server with broker := broker } htask hchanged with ⟨-, rfl⟩ | ⟨-, hold⟩
    · exact hsound
    · exact h.sound id' changed hold

theorem ended_of_revoke {broker broker' : BrokerState} {id : String} (hkeys : KeysDrawn uuid broker)
    (h : broker.revoke id = (.ok (), broker')) : EndedIn uuid broker' id := by
  have hrevokes : BrokerStep.Revokes ((brokerMachine ⟨.unix, fun _ => none, 0⟩ uuid).call broker (.revoke id)) id :=
    ⟨rfl, by simp [Machine.call_output, brokerMachine, h]⟩
  have hended := ended_of_revokes hkeys hrevokes
  rw [show ((brokerMachine ⟨.unix, fun _ => none, 0⟩ uuid).step broker (.revoke id)).2 = broker' by
    simp [brokerMachine, h]] at hended
  exact hended

theorem Inv.brokerRevoke {broker : BrokerState} {id : String} (h : server.Inv uuid newUuid)
    (huuid : Function.Injective uuid) (hrevoke : server.broker.revoke id = (.ok (), broker)) :
    ({ server with broker := broker } : TaskServer).Inv uuid newUuid := by
  have hbroker := h.brokerCall ⟨.unix, fun _ => none, 0⟩ huuid (.revoke id)
  rwa [show ((brokerMachine ⟨.unix, fun _ => none, 0⟩ uuid).step server.broker (.revoke id)).2 = broker by
    simp [brokerMachine, hrevoke]] at hbroker

theorem Move.inv (huuid : Function.Injective uuid) (hnew : Function.Injective newUuid)
    (h : Move env uuid newUuid start server next) (hinv : server.Inv uuid newUuid) : next.Inv uuid newUuid := by
  cases h with
  | host call => exact hinv.brokerCall env huuid call.brokerCall
  | retain now =>
    have hsub : List.Sublist (server.retainTasks now).ids server.ids := List.filter_sublist.map _
    exact
      { keys := hinv.keys
        nodup := hinv.nodup.sublist hsub
        named := fun id hid => hinv.named id (hsub.subset hid)
        sound := fun id proposal htask => by
          refine hinv.sound id proposal (task?_of_mem hinv.nodup ?_)
          exact (List.mem_filter.mp (mem_of_task? htask)).1 }
  | draw =>
    refine { hinv with named := fun id hid => ?_ }
    obtain ⟨n, hn, heq⟩ := hinv.named id hid
    exact ⟨n, Nat.lt_add_right 2 hn, heq⟩
  | unregistered fs registration deadline readings =>
    exact hinv.brokerCall env huuid (.register fs registration deadline readings)
  | enter input fs registration deadline readings receipt broker hregister =>
    have hbroker := hinv.brokerCall env huuid (.register fs registration deadline readings)
    rw [show ((brokerMachine env uuid).step server.broker (.register fs registration deadline readings)).2 = broker by
      simp [brokerMachine, hregister]] at hbroker
    have hfresh : "task-" ++ newUuid server.drawn ∉ server.ids := by
      intro hmem
      obtain ⟨n, hn, heq⟩ := hinv.named _ hmem
      obtain rfl := hnew ((String.append_right_inj _).mp heq)
      exact Nat.lt_irrefl _ hn
    have hids : (({ server with drawn := server.drawn + 2, broker := broker } : TaskServer).insertTask
        ("task-" ++ newUuid server.drawn) (newProposal input registration receipt)).ids =
        ("task-" ++ newUuid server.drawn) :: server.ids := by
      unfold ids insertTask
      rw [List.map_cons, List.filter_eq_self.mpr]
      intro entry hentry
      refine decide_eq_true fun heq => hfresh ?_
      exact heq ▸ List.mem_map_of_mem hentry
    exact
      { keys := hbroker.keys
        nodup := hids ▸ List.nodup_cons.mpr ⟨hfresh, hinv.nodup⟩
        named := fun id hid => by
          rw [hids] at hid
          rcases List.mem_cons.mp hid with rfl | hid
          · exact ⟨server.drawn, Nat.lt_add_of_pos_right (Nat.zero_lt_two), rfl⟩
          · obtain ⟨n, hn, heq⟩ := hinv.named id hid
            exact ⟨n, Nat.lt_add_right 2 hn, heq⟩
        sound := fun id proposal htask => by
          rw [task?_insertTask] at htask
          split at htask
          · obtain rfl := Option.some.inj htask
            exact
              { leased := rfl
                closed := fun hrevoked => by cases hrevoked
                owned := fun hsession => by cases hsession
                uncleaned := fun _ => rfl
                issued := fun authorizationId hissued => Or.inr ⟨rfl, receipt, rfl, by
                  simpa [newProposal, eq_comm] using hissued⟩
                unattempted := fun _ e he => by cases he
                opened := fun hsession => by cases hsession
                acknowledged := fun cleanup hcleanup => by cases hcleanup
                spawned := fun hspawned => by cases hspawned
                published := fun cleanup host hcleanup => by cases hcleanup }
          · exact hbroker.sound id proposal htask }
  | change id proposal f htask hchange => exact hinv.modify htask (hchange.sound (hinv.sound id proposal htask))
  | revoke id proposal receipt broker htask hopen hreceipt hrevoke =>
    have hbroker := hinv.brokerRevoke huuid hrevoke
    have hended := ended_of_revoke hinv.keys hrevoke
    exact hbroker.modify htask ((hbroker.sound id proposal htask).revoke hopen hreceipt hended)
  | pause id reason proposal receipt broker htask hopen hreceipt hrevoke =>
    have hbroker := hinv.brokerRevoke huuid hrevoke
    have hended := ended_of_revoke hinv.keys hrevoke
    exact hbroker.modify htask { (hbroker.sound id proposal htask).noteRevoked hreceipt hended with }
  | renew id proposal fs deadline readings receipt broker htask hrevoked hstopped husable hregister =>
    have hbroker := hinv.brokerCall env huuid (.register fs proposal.registration deadline readings)
    rw [show ((brokerMachine env uuid).step server.broker (.register fs proposal.registration deadline readings)).2 = broker by
      simp [brokerMachine, hregister]] at hbroker
    exact hbroker.modify htask ((hbroker.sound id proposal htask).renew hrevoked hstopped receipt)

theorem Reach.inv (huuid : Function.Injective uuid) (hnew : Function.Injective newUuid)
    (h : Reach env uuid newUuid start server next) (hinv : server.Inv uuid newUuid) : next.Inv uuid newUuid := by
  induction h with
  | refl => exact hinv
  | tail _ hmove ih => exact hmove.inv huuid hnew ih

/-! ### Calls to the Host of a task -/

end TaskServer

/-- The calls that were forwarded to the Host session of a task. -/
def TaskProposal.forwards (proposal : TaskProposal) : Nat :=
  proposal.history.countP fun
    | .forwarded _ => true
    | _ => false

/-- The task was stopped or paused. -/
def TaskProposal.Closed (proposal : TaskProposal) : Prop :=
  proposal.revoked = true ∨ proposal.userActionRequired.isSome = true

/-- A change forwards no call of a closed task, and leaves it closed. -/
theorem TaskProposal.Change.silent {proposal changed : TaskProposal} (h : proposal.Change changed)
    (hclosed : proposal.Closed) : changed.Closed ∧ changed.forwards = proposal.forwards := by
  have publish : ∀ (current : TaskProposal), current.beginFinish.revoked = current.revoked ∧
      current.beginFinish.userActionRequired = current.userActionRequired ∧ current.beginFinish.history = current.history := by
    intro current
    unfold TaskProposal.beginFinish
    cases current.hostTask <;> exact ⟨rfl, rfl, rfl⟩
  have finish : ∀ {current : TaskProposal}, current.Closed → current.beginFinish.Closed ∧
      current.beginFinish.forwards = current.forwards := by
    intro current hcurrent
    obtain ⟨hrevoked, hpaused, hhistory⟩ := publish current
    unfold TaskProposal.Closed TaskProposal.forwards at *
    rw [hrevoked, hpaused, hhistory]
    exact ⟨hcurrent, rfl⟩
  cases h with
  | finishAgain hrevoked => exact finish hclosed
  | recordStop sessionId reply hrevoked hopened =>
    have hrecorded : (proposal.recordStop sessionId reply).Closed ∧
        (proposal.recordStop sessionId reply).forwards = proposal.forwards := by
      unfold TaskProposal.recordStop
      dsimp only
      split
      · exact ⟨hclosed, List.countP_cons_of_neg (by simp)⟩
      · exact ⟨hclosed, rfl⟩
    exact ⟨(finish hrecorded.1).1, (finish hrecorded.1).2.trans hrecorded.2⟩
  | recordNoSession hrevoked => exact @finish proposal.recordNoSession hclosed
  | forward method hopen hpaused hsession =>
    rcases hclosed with hrevoked | hsome
    · rw [hopen] at hrevoked
      cases hrevoked
    · rw [hpaused] at hsome
      cases hsome
  | bindWorkflow workflowId => exact ⟨hclosed, rfl⟩
  | retarget target hrevoked => exact ⟨hclosed, rfl⟩
  | attemptOpen | spawnHost | openSession | completeHost => exact ⟨hclosed, List.countP_cons_of_neg (by simp)⟩

theorem TaskProposal.revoke_silent (proposal : TaskProposal) (authorizationId : String) :
    (proposal.revoke authorizationId).Closed ∧ (proposal.revoke authorizationId).forwards = proposal.forwards := by
  have hnoted : (proposal.note (.leaseRevoked authorizationId)).forwards = proposal.forwards :=
    List.countP_cons_of_neg (by simp)
  unfold TaskProposal.revoke TaskProposal.takeSession
  cases (proposal.note (.leaseRevoked authorizationId)).session with
  | none => exact ⟨Or.inl rfl, hnoted⟩
  | some session => exact ⟨Or.inl rfl, (List.countP_cons_of_neg (by simp)).trans hnoted⟩

namespace TaskServer
variable {env : Env} {uuid newUuid : Nat → String} {start server next : TaskServer}

/-- `id` names a task that is closed or gone, and to which at most `n` calls were forwarded. -/
structure Silent (newUuid : Nat → String) (id : String) (n : Nat) (server : TaskServer) : Prop where
  drawn : ∃ k < server.drawn, id = "task-" ++ newUuid k
  closed : ∀ proposal, server.task? id = some proposal → proposal.Closed ∧ proposal.forwards ≤ n

/-- A change of one task, as far as the task `id` is concerned. -/
theorem Silent.modify {id changed : String} {n : Nat} {broker : BrokerState} {proposal : TaskProposal}
    {f : TaskProposal → TaskProposal} (h : Silent newUuid id n server) (htask : server.task? changed = some proposal)
    (hf : changed = id → (f proposal).Closed ∧ (f proposal).forwards = proposal.forwards) :
    Silent newUuid id n (({ server with broker := broker } : TaskServer).modifyTask changed f) where
  drawn := h.drawn
  closed := fun current hcurrent => by
    rcases task?_modified { server with broker := broker } htask hcurrent with ⟨heq, rfl⟩ | ⟨-, hold⟩
    · obtain ⟨hclosed, hforwards⟩ := hf heq.symm
      rw [hforwards]
      exact ⟨hclosed, (h.closed proposal (heq ▸ htask)).2⟩
    · exact h.closed current hold

theorem Move.silent (hnew : Function.Injective newUuid) {id : String} {n : Nat} (husable : ¬Usable start id)
    (h : Move env uuid newUuid start server next) (hinv : server.Inv uuid newUuid) (hsilent : Silent newUuid id n server) :
    Silent newUuid id n next := by
  obtain ⟨k, hk, rfl⟩ := hsilent.drawn
  cases h with
  | host call => exact ⟨⟨k, hk, rfl⟩, hsilent.closed⟩
  | retain now =>
    refine ⟨⟨k, hk, rfl⟩, fun proposal htask => hsilent.closed proposal (task?_of_mem hinv.nodup ?_)⟩
    exact (List.mem_filter.mp (mem_of_task? htask)).1
  | draw => exact ⟨⟨k, Nat.lt_add_right 2 hk, rfl⟩, hsilent.closed⟩
  | unregistered fs registration deadline readings => exact ⟨⟨k, hk, rfl⟩, hsilent.closed⟩
  | enter input fs registration deadline readings receipt broker hregister =>
    refine ⟨⟨k, Nat.lt_add_right 2 hk, rfl⟩, fun proposal htask => ?_⟩
    rw [task?_insertTask] at htask
    split at htask
    · rename_i heq
      obtain rfl := hnew ((String.append_right_inj _).mp heq)
      exact absurd hk (Nat.lt_irrefl _)
    · exact hsilent.closed proposal htask
  | change id proposal f htask hchange =>
    refine hsilent.modify htask fun heq => hchange.silent (hsilent.closed proposal (heq ▸ htask)).1
  | revoke id proposal receipt broker htask hopen hreceipt hrevoke =>
    exact hsilent.modify htask fun _ => proposal.revoke_silent receipt.authorizationId
  | pause id reason proposal receipt broker htask hopen hreceipt hrevoke =>
    exact hsilent.modify htask fun _ => ⟨Or.inr rfl, List.countP_cons_of_neg (by simp)⟩
  | renew id proposal fs deadline readings receipt broker htask hrevoked hstopped husable' hregister =>
    exact hsilent.modify htask fun heq => absurd (heq ▸ husable') husable

theorem Reach.silent (huuid : Function.Injective uuid) (hnew : Function.Injective newUuid) {id : String} {n : Nat}
    (husable : ¬Usable start id) (h : Reach env uuid newUuid start server next) (hinv : server.Inv uuid newUuid)
    (hsilent : Silent newUuid id n server) : Silent newUuid id n next := by
  induction h with
  | refl => exact hsilent
  | tail hreach hmove ih => exact hmove.silent hnew husable (Reach.inv huuid hnew hreach hinv) ih

end TaskServer
end DccCua
