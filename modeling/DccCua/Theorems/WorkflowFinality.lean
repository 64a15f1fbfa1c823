import DccCua.Theorems.WorkflowLimits

/-! # Outcomes that stay

A run with an observed exit keeps its outcome. One whose outcome is unknown while the child is alive is still refreshed:
a failing `try_wait` puts its own reason in the place of the reported one, and an exit that follows a kill puts the
reason of the kill in the place of the outcome. -/

namespace DccCua

open Runs

def WorkflowState.Terminal (state : WorkflowState) : Prop := state ≠ .running ∧ state ≠ .verifying

namespace RunState

/-- A kill gives one of three reasons, and before the exit the child runs or its outcome is unknown. -/
structure Steady (run : RunState) : Prop where
  stopped : ∀ s, run.terminationReason = some s → s = .expired ∨ s = .timedOut ∨ s = .cancelled
  alive : run.exitObserved = false → (run.state = .running ∨ run.state = .outcomeUnknown) ∧ run.verification = none

variable {run : RunState}

theorem steady_newRun (recipe : Recipe) (childId expiry deadline instant : Nat) :
    (WorkflowManager.newRun recipe childId expiry deadline instant).Steady :=
  ⟨nofun, fun _ => ⟨Or.inl rfl, rfl⟩⟩

/-- After the exit only the reason of a kill is looked at again. -/
theorem steady_of_exited {run' : RunState} (h : run.Steady) (hreason : run'.terminationReason = run.terminationReason)
    (hexited : run'.exitObserved = true) : run'.Steady := by
  refine ⟨fun s hs => h.stopped s (hreason ▸ hs), fun halive => ?_⟩
  rw [hexited] at halive
  cases halive

theorem Steady.unknown (h : run.Steady) (reason : String) : (run.unknown reason).Steady :=
  ⟨h.stopped, fun halive => ⟨Or.inr rfl, (h.alive halive).2⟩⟩

theorem observeExit_exited (o : RunObservation) (code : Option Int) (run : RunState) :
    (run.observeExit o code).exitObserved = true ∧ (run.observeExit o code).terminationReason = run.terminationReason := by
  unfold observeExit
  dsimp only
  repeat' split
  all_goals exact ⟨rfl, rfl⟩

theorem Steady.enforceLimits (h : run.Steady) (o : RunObservation) : (run.enforceLimits o).Steady := by
  unfold RunState.enforceLimits
  dsimp only
  split
  · exact h
  · split
    · split
      · exact h.unknown _
      · split
        · refine ⟨fun s hs => ?_, h.alive⟩
          obtain rfl := Option.some.inj hs
          split
          · exact Or.inl rfl
          · split
            · exact Or.inr (Or.inl rfl)
            · exact Or.inr (Or.inr rfl)
        · exact @Steady.unknown (run.note .killed) ⟨h.stopped, h.alive⟩ _
    · exact h

theorem Steady.refreshProcess (h : run.Steady) (o : RunObservation) : (run.refreshProcess o).Steady := by
  unfold RunState.refreshProcess
  split
  · exact h
  · cases o.waited with
    | exited code => exact steady_of_exited h (observeExit_exited o code run).2 (observeExit_exited o code run).1
    | unavailable => exact h.unknown _
    | alive => exact h.enforceLimits o

theorem readVerification_reason (o : RunObservation) (run : RunState) :
    (run.readVerification o).terminationReason = run.terminationReason := by
  unfold readVerification
  split
  · rfl
  · split
    · rfl
    · split <;> rfl

theorem Steady.exited_of_verifying (h : run.Steady) (hstate : run.state = .verifying) : run.exitObserved = true := by
  by_contra hopen
  rcases (h.alive (Bool.not_eq_true _ |>.mp hopen)).1 with hother | hother <;> rw [hstate] at hother <;> cases hother

theorem Steady.refreshState (h : run.Steady) (o : RunObservation) : (run.refreshState o).Steady := by
  unfold RunState.refreshState
  split
  · rename_i hverifying
    refine steady_of_exited h (readVerification_reason o run) ?_
    rw [(readVerification_keeps o run).2]
    exact h.exited_of_verifying hverifying
  · split
    · exact h.refreshProcess o
    · split
      · exact h
      · exact @Steady.refreshProcess { run with verification := none } ⟨h.stopped, fun halive => ⟨(h.alive halive).1, rfl⟩⟩ o

theorem Steady.refresh (h : run.Steady) (o : RunObservation) : (run.refresh o).Steady := by
  have hnext := h.refreshState o
  unfold RunState.refresh
  dsimp only
  split
  · exact ⟨hnext.stopped, hnext.alive⟩
  · exact hnext

theorem Steady.cancelRun (h : run.Steady) (id : String) (t : Turn) : (WorkflowManager.cancelRun id t run).2.Steady := by
  have hfirst := h.refresh t.observation
  unfold WorkflowManager.cancelRun
  dsimp only
  split
  · split
    · exact hfirst
    · exact @Steady.refresh { run.refresh t.observation with cancellationRequested := true } ⟨hfirst.stopped, hfirst.alive⟩ t.again
  · exact hfirst

theorem Steady.superviseRun (h : run.Steady) (t : Turn) : (WorkflowManager.superviseRun t run).Steady := by
  unfold WorkflowManager.superviseRun
  split
  · have hearly : ∀ (early : List RunObservation) {run : RunState}, run.Steady → (early.foldl (fun run o => run.refresh o) run).Steady := by
      intro early
      induction early with
      | nil => exact fun h => h
      | cons o early ih => exact fun h => ih (h.refresh o)
    exact hearly t.early h
  · have hunknown := h.unknown "deadline_supervisor_unavailable"
    dsimp only
    split
    · exact @Steady.refresh ((run.unknown "deadline_supervisor_unavailable").note .killed) ⟨hunknown.stopped, hunknown.alive⟩ t.observation
    · exact hunknown

/-! ### A refresh after the outcome -/

/-- What the next look at the child puts in the place of an outcome: the reason of a failing look, or that of a kill. -/
def Overrides (o : RunObservation) (run : RunState) : Prop :=
  run.exitObserved = false ∧
    (o.waited = .unavailable ∧ run.reason ≠ some "process_state_unavailable" ∨
      (∃ code, o.waited = .exited code) ∧ run.terminationReason.isSome = true)

theorem refresh_outcome (o : RunObservation) (run : RunState) :
    (run.refresh o).state = (run.refreshState o).state ∧ (run.refresh o).reason = (run.refreshState o).reason := by
  unfold RunState.refresh
  dsimp only
  split <;> exact ⟨rfl, rfl⟩

theorem refreshState_exited (o : RunObservation) (hexited : run.exitObserved = true) (hstate : run.state ≠ .verifying) :
    (run.refreshState o).state = run.state ∧ (run.refreshState o).reason = run.reason := by
  unfold RunState.refreshState
  rw [if_neg hstate]
  split
  · rw [refreshProcess_exited hexited]
    exact ⟨rfl, rfl⟩
  · split
    · exact ⟨rfl, rfl⟩
    · rw [@refreshProcess_exited o { run with verification := none } hexited]
      exact ⟨rfl, rfl⟩

theorem refreshProcess_unknown (h : run.Steady) (o : RunObservation) (halive : run.exitObserved = false)
    (hstate : run.state = .outcomeUnknown) :
    (run.refreshProcess o).state = run.state ∧ (run.refreshProcess o).reason = run.reason ↔ ¬run.Overrides o := by
  unfold RunState.refreshProcess Overrides
  rw [if_neg (by simp [halive])]
  cases o.waited with
  | unavailable =>
    simp only [unknown, halive, hstate, true_and, reduceCtorEq, exists_false, false_and, or_false, not_not, ne_eq]
    exact eq_comm
  | alive => simp [enforceLimits, hstate]
  | exited code =>
    unfold RunState.observeExit
    dsimp only
    cases hreason : run.terminationReason with
    | none => simp [note, hstate, hreason]
    | some reason =>
      have hother : reason ≠ .outcomeUnknown := by
        rcases h.stopped reason hreason with rfl | rfl | rfl <;> decide
      simp [note, hstate, hreason, halive, hother]

theorem Steady.unknown_of_alive (h : run.Steady) (hterminal : run.state.Terminal) (halive : run.exitObserved = false) (o : RunObservation) :
    run.state = .outcomeUnknown ∧ run.refreshState o = run.refreshProcess o := by
  obtain ⟨hstates, hnone⟩ := h.alive halive
  refine ⟨hstates.resolve_left hterminal.1, ?_⟩
  unfold RunState.refreshState
  rw [if_neg hterminal.2, hnone]
  rfl

/-- An outcome is overridden by an outcome only. -/
theorem Steady.refresh_not_running (h : run.Steady) (o : RunObservation) (hterminal : run.state.Terminal) :
    (run.refresh o).state ≠ .running := by
  rw [(refresh_outcome o run).1]
  cases hexited : run.exitObserved with
  | true =>
    rw [(refreshState_exited o hexited hterminal.2).1]
    exact hterminal.1
  | false =>
    obtain ⟨hstate, hprocess⟩ := h.unknown_of_alive hterminal hexited o
    rw [hprocess]
    unfold RunState.refreshProcess
    rw [if_neg (by simp [hexited])]
    cases o.waited with
    | unavailable => simp [RunState.unknown]
    | alive => simp [RunState.enforceLimits, hstate]
    | exited code =>
      unfold RunState.observeExit
      dsimp only
      cases hreason : run.terminationReason with
      | none => simp [note, hstate, hreason]
      | some reason =>
        have hother : reason ≠ .running := by
          rcases h.stopped reason hreason with rfl | rfl | rfl <;> decide
        simp [note, hreason, hother]

/-- A refresh keeps the outcome exactly when what it sees does not override it. -/
theorem Steady.refresh_terminal (h : run.Steady) (o : RunObservation) (hterminal : run.state.Terminal) :
    (run.refresh o).state = run.state ∧ (run.refresh o).reason = run.reason ↔ ¬run.Overrides o := by
  rw [(refresh_outcome o run).1, (refresh_outcome o run).2]
  cases hexited : run.exitObserved with
  | true => simp [refreshState_exited o hexited hterminal.2, Overrides, hexited]
  | false =>
    obtain ⟨hstate, hprocess⟩ := h.unknown_of_alive hterminal hexited o
    rw [hprocess]
    exact refreshProcess_unknown h o hexited hstate

end RunState

/-! ### The turns of a run -/

/-- What is done with a run under its lock: `refresh` stands for the supervisor, `process_id` and the wait of `stop_all`. -/
inductive RunTurn where
  | refresh (o : RunObservation)
  | status (o : RunObservation)
  | cancel (t : Turn)

/-- What the first refresh of the turn sees. -/
def RunTurn.observation : RunTurn → RunObservation
  | .refresh o => o
  | .status o => o
  | .cancel t => t.observation

def runMachine (id : String) : Machine RunState RunTurn (Option RunReport) where
  step run
    | .refresh o => (none, run.refresh o)
    | .status o => (some (report id (run.refresh o)), run.refresh o)
    | .cancel t => ((WorkflowManager.cancelRun id t run).1.toOption, (WorkflowManager.cancelRun id t run).2)

abbrev RunCall := Call RunState RunTurn (Option RunReport)

/-- The call reports a terminal state. -/
def RunCall.Concludes (c : RunCall) (r : RunReport) : Prop := c.output = some r ∧ r.state.Terminal

/-- The call leaves the run as it was reported, and reports the same if it reports. -/
structure RunCall.Repeats (c : RunCall) (r : RunReport) : Prop where
  state : c.after.state = r.state
  reason : c.after.reason = r.reason
  reports : ∀ r', c.output = some r' → r'.state = r.state ∧ r'.reason = r.reason

section Turns
variable {id : String} {run : RunState}

theorem output_eq {i : RunTurn} {r : RunReport} (h : ((runMachine id).step run i).1 = some r) :
    r.state = ((runMachine id).step run i).2.state ∧ r.reason = ((runMachine id).step run i).2.reason := by
  cases i with
  | refresh o => cases h
  | status o =>
    cases h
    exact ⟨rfl, rfl⟩
  | cancel t =>
    simp only [runMachine, WorkflowManager.cancelRun] at h ⊢
    split at h
    · split at h
      · cases h
      · rename_i hrunning hallowed
        rw [if_pos hrunning, if_neg hallowed]
        cases h
        exact ⟨rfl, rfl⟩
    · rename_i hrunning
      rw [if_neg hrunning]
      cases h
      exact ⟨rfl, rfl⟩

theorem steady_step (h : run.Steady) (i : RunTurn) : ((runMachine id).step run i).2.Steady := by
  cases i with
  | refresh o => exact h.refresh o
  | status o => exact h.refresh o
  | cancel t => exact h.cancelRun id t

/-- A turn of a run with an outcome is one refresh: `cancel` goes on only when the run is running. -/
theorem step_terminal (h : run.Steady) (hterminal : run.state.Terminal) (i : RunTurn) :
    ((runMachine id).step run i).2.state = run.state ∧ ((runMachine id).step run i).2.reason = run.reason ↔
      ¬run.Overrides i.observation := by
  rw [← h.refresh_terminal i.observation hterminal]
  cases i with
  | refresh o => exact Iff.rfl
  | status o => exact Iff.rfl
  | cancel t =>
    simp only [runMachine, WorkflowManager.cancelRun, RunTurn.observation]
    rw [if_neg (h.refresh_not_running t.observation hterminal)]

theorem repeats_iff (h : run.Steady) {r : RunReport} (hterminal : r.state.Terminal) (hstate : run.state = r.state)
    (hreason : run.reason = r.reason) (i : RunTurn) :
    RunCall.Repeats ((runMachine id).call run i) r ↔ ¬run.Overrides i.observation := by
  rw [← @step_terminal id _ h (hstate ▸ hterminal) i, hstate, hreason]
  constructor
  · exact fun hrepeats => ⟨hrepeats.state, hrepeats.reason⟩
  · rintro ⟨hsame, hwhy⟩
    refine ⟨hsame, hwhy, fun r' hr' => ?_⟩
    obtain ⟨hstate', hreason'⟩ := output_eq hr'
    exact ⟨hstate'.trans hsame, hreason'.trans hwhy⟩

/-- After a report the calls repeat it exactly when none of them sees what overrides it. -/
theorem repeat_iff {r : RunReport} (hterminal : r.state.Terminal) : ∀ (turns : List RunTurn) {run : RunState}, run.Steady →
    run.state = r.state → run.reason = r.reason →
    ((∀ c ∈ (runMachine id).trace run turns, RunCall.Repeats c r) ↔
      ∀ c ∈ (runMachine id).trace run turns, ¬c.before.Overrides c.input.observation)
  | [], _, _, _, _ => by simp
  | i :: turns, run, h, hstate, hreason => by
    have hfirst := @repeats_iff id _ h _ hterminal hstate hreason i
    rw [Machine.trace_cons, List.forall_mem_cons, List.forall_mem_cons, hfirst]
    refine and_congr_right fun hcalm => ?_
    have hrepeats := hfirst.mpr hcalm
    exact repeat_iff hterminal turns (steady_step h i) hrepeats.state hrepeats.reason

theorem pairwise_iff : ∀ (turns : List RunTurn) {run : RunState}, run.Steady →
    (((runMachine id).trace run turns).Pairwise (fun a b => ∀ r, RunCall.Concludes a r → RunCall.Repeats b r) ↔
      ((runMachine id).trace run turns).Pairwise fun a b => ∀ r, RunCall.Concludes a r → ¬b.before.Overrides b.input.observation)
  | [], _, _ => by simp
  | i :: turns, run, h => by
    rw [Machine.trace_cons, List.pairwise_cons, List.pairwise_cons, pairwise_iff turns (steady_step h i)]
    refine and_congr_left fun _ => ?_
    have hafter : ∀ r, RunCall.Concludes ((runMachine id).call run i) r →
        ((∀ c ∈ (runMachine id).trace ((runMachine id).step run i).2 turns, RunCall.Repeats c r) ↔
          ∀ c ∈ (runMachine id).trace ((runMachine id).step run i).2 turns, ¬c.before.Overrides c.input.observation) := by
      rintro r ⟨hreports, hterminal⟩
      obtain ⟨hstate, hreason⟩ := output_eq hreports
      exact repeat_iff hterminal turns (steady_step h i) hstate.symm hreason.symm
    constructor
    · exact fun hall c hc r hr => (hafter r hr).mp (fun c hc => hall c hc r hr) c hc
    · exact fun hall c hc r hr => (hafter r hr).mpr (fun c hc => hall c hc r hr) c hc

end Turns

/-- In every sequence of turns of a run: the outcomes that are reported stay exactly when no turn after such a report
    sees what overrides it. -/
theorem outcomes_stay_iff (id : String) (recipe : Recipe) (childId expiry deadline instant : Nat) (t : Turn) (turns : List RunTurn) :
    let trace := (runMachine id).trace (WorkflowManager.superviseRun t (WorkflowManager.newRun recipe childId expiry deadline instant)) turns
    trace.Pairwise (fun a b => ∀ r, RunCall.Concludes a r → RunCall.Repeats b r) ↔
      trace.Pairwise fun a b => ∀ r, RunCall.Concludes a r → ¬b.before.Overrides b.input.observation :=
  pairwise_iff turns ((RunState.steady_newRun recipe childId expiry deadline instant).superviseRun t)

/-! ### A look at the child that fails after a kill -/

namespace WorkflowSample

def editorTurn (waited : Waited) : Turn :=
  ⟨.ok (), .ok (), 10, 10, true, some 7, 10, true, [], observation waited, observation waited⟩

def editor : RunState := WorkflowManager.newRun ⟨"remove-editor", .uninstall, [0], 60000, true⟩ 7 1000 1000 10

end WorkflowSample

open WorkflowSample in
/-- The child is killed and its exit is seen; a look that fails afterwards is not made. -/
theorem outcomes_stay_cancelled : ((runMachine "workflow").trace (WorkflowManager.superviseRun (editorTurn .alive) editor)
      [.cancel (editorTurn .alive), .status (observation (.exited none)), .status (observation .unavailable)]).Pairwise
    fun a b => ∀ r, RunCall.Concludes a r → RunCall.Repeats b r := by
  refine (outcomes_stay_iff "workflow" _ 7 1000 1000 10 (editorTurn .alive) _).mpr ?_
  refine List.Pairwise.cons (fun b hb r hr => ?_) (List.Pairwise.cons (fun b hb r hr => ?_) (List.pairwise_singleton _ _))
  · exact absurd hr.2 (by cases hr.1; exact fun h => h.1 rfl)
  · obtain rfl := List.mem_singleton.mp hb
    exact fun h => nomatch h.1

open WorkflowSample in
/-- The outcome is reported as unknown while the killed child is alive, and as cancelled after its exit. -/
theorem unknown_then_cancelled : ¬ ((runMachine "workflow").trace (WorkflowManager.superviseRun (editorTurn .alive) editor)
      [.cancel (editorTurn .alive), .status (observation .unavailable), .status (observation (.exited none))]).Pairwise
    fun a b => ∀ r, RunCall.Concludes a r → RunCall.Repeats b r := by
  intro hstay
  have hlater := (List.pairwise_cons.mp (List.pairwise_cons.mp hstay).2).1 _ (List.mem_singleton_self _) _
    ⟨rfl, by decide, by decide⟩
  cases hlater.state

end DccCua
