import DccCua.Cli.Workflow

/-! # What a successful run rests on

A refresh moves a run forward: it keeps the recipe and the limits of the run, never takes back an observed exit,
and a run that waits for its result check, or has succeeded, has exited with an allowed code and was not killed. -/

namespace DccCua

open Runs Checks Script

namespace RunState

/-- The child was seen to exit with a code that the recipe allows. -/
def ExitAllowed (run : RunState) : Prop :=
  ∃ code ∈ run.recipe.allowedExitCodes, .exited (some code) ∈ run.history

/-- The result check said yes, read while neither the run nor the policy had reached its end. -/
def VerifiedInTime (run : RunState) : Prop :=
  ∃ instant unixMs, .verified instant unixMs ∈ run.history ∧ instant < run.deadline ∧ instant < run.policyDeadline ∧
    unixMs < run.policyExpiry

/-- The run awaits its result or has it. -/
def Passing (run : RunState) : Prop := run.state = .verifying ∨ run.state = .succeeded

structure Sound (run : RunState) : Prop where
  verified : run.resultVerified = true ↔ run.state = .succeeded
  passing : run.Passing → run.exitObserved = true ∧ run.ExitAllowed ∧ .killed ∉ run.history
  deadline : ∀ v, run.verification = some v → v.deadline = min run.deadline run.policyDeadline
  killed : .killed ∈ run.history → run.state = .outcomeUnknown ∨ run.terminationReason.isSome = true
  reason : ∀ s, run.terminationReason = some s → s ≠ .verifying ∧ s ≠ .succeeded
  inTime : run.state = .succeeded → run.VerifiedInTime

theorem sound_newRun (recipe : Recipe) (childId expiry deadline instant : Nat) :
    (WorkflowManager.newRun recipe childId expiry deadline instant).Sound where
  verified := by simp [WorkflowManager.newRun]
  passing := by simp [WorkflowManager.newRun, Passing]
  deadline := by simp [WorkflowManager.newRun]
  killed := by simp [WorkflowManager.newRun]
  reason := by simp [WorkflowManager.newRun]
  inTime := by simp [WorkflowManager.newRun]

variable {run : RunState}

theorem Sound.not_passing (h : run.Sound) (hopen : run.exitObserved = false) : ¬run.Passing := by
  intro hpassing
  have hexited := (h.passing hpassing).1
  rw [hopen] at hexited
  cases hexited

theorem Sound.not_verified (h : run.Sound) (hpassing : ¬run.Passing) : run.resultVerified = false := by
  cases hverified : run.resultVerified with
  | false => rfl
  | true => exact absurd (Or.inr (h.verified.mp hverified)) hpassing

/-- What has no good outcome is sound whatever has happened. -/
theorem sound_of_bad {run' : RunState} (hverified : run'.resultVerified = false)
    (hpassing : ¬run'.Passing) (hdeadline : ∀ v, run'.verification = some v → v.deadline = min run'.deadline run'.policyDeadline)
    (hkilled : .killed ∈ run'.history → run'.state = .outcomeUnknown ∨ run'.terminationReason.isSome = true)
    (hreason : ∀ s, run'.terminationReason = some s → s ≠ .verifying ∧ s ≠ .succeeded) : run'.Sound where
  verified := by
    rw [hverified]
    exact ⟨fun hfalse => (nomatch hfalse), fun hsucceeded => absurd (Or.inr hsucceeded) hpassing⟩
  passing := fun h => absurd h hpassing
  deadline := hdeadline
  killed := hkilled
  reason := hreason
  inTime := fun hsucceeded => absurd (Or.inr hsucceeded) hpassing

theorem Sound.unknown (h : run.Sound) (hverified : run.resultVerified = false) (reason : String) :
    (run.unknown reason).Sound := by
  refine sound_of_bad hverified ?_ h.deadline (fun _ => Or.inl rfl) h.reason
  rintro (hstate | hstate) <;> cases hstate

theorem Sound.withoutVerification (h : run.Sound) : ({ run with verification := none } : RunState).Sound :=
  ⟨h.verified, h.passing, fun _ hv => (nomatch hv), h.killed, h.reason, h.inTime⟩

theorem Sound.requestCancellation (h : run.Sound) : ({ run with cancellationRequested := true } : RunState).Sound :=
  ⟨h.verified, h.passing, h.deadline, h.killed, h.reason, h.inTime⟩

theorem Sound.readVerification (h : run.Sound) (hverifying : run.state = .verifying) (o : RunObservation) :
    (run.readVerification o).Sound := by
  have hverified : run.resultVerified = false := by
    cases hresult : run.resultVerified with
    | false => rfl
    | true => exact absurd (h.verified.mp hresult) (by rw [hverifying]; decide)
  obtain ⟨hexited, hallowed, hkilled⟩ := h.passing (Or.inl hverifying)
  unfold RunState.readVerification
  cases hcheck : run.verification with
  | none => exact h.unknown hverified _
  | some v =>
    dsimp only
    split
    · exact h.unknown hverified _
    · rename_i hintime
      simp only [Bool.or_eq_true, decide_eq_true_eq, not_or, Nat.not_le] at hintime
      split
      · -- the one way to succeed
        have hdeadline := h.deadline v hcheck
        refine ⟨⟨fun _ => rfl, fun _ => rfl⟩, fun _ => ⟨hexited, ?_, ?_⟩, fun _ hv => (nomatch hv), ?_, h.reason, fun _ => ?_⟩
        · obtain ⟨code, hcode, hmem⟩ := hallowed
          exact ⟨code, hcode, List.mem_cons_of_mem _ hmem⟩
        · simpa [note] using hkilled
        · intro hmem
          simp only [note, List.mem_cons, reduceCtorEq, false_or] at hmem
          exact absurd hmem hkilled
        · refine ⟨o.instant, o.unixMs, List.mem_cons_self, ?_, ?_, hintime.2⟩
          · show o.instant < run.deadline
            omega
          · show o.instant < run.policyDeadline
            omega
      · refine sound_of_bad hverified ?_ (fun _ hv => (nomatch hv)) (fun hmem => absurd hmem hkilled) h.reason
        rintro (hstate | hstate) <;> cases hstate
      · exact (h.unknown hverified _).withoutVerification
      · exact (h.unknown hverified _).withoutVerification
      · exact h

theorem Sound.observeExit (h : run.Sound) (hopen : run.exitObserved = false) (o : RunObservation) (code : Option Int) :
    (run.observeExit o code).Sound := by
  have hpassing := h.not_passing hopen
  have hverified := h.not_verified hpassing
  have hkilled : ∀ event, .killed ∈ RunEvent.exited event :: run.history → .killed ∈ run.history := by
    intro event hmem
    simpa using hmem
  -- the exit alone changes nothing about the outcome
  have hexited : ({ run.note (.exited code) with exitObserved := true, exitCode := code } : RunState).Sound :=
    sound_of_bad hverified hpassing h.deadline (fun hmem => h.killed (hkilled _ hmem)) h.reason
  unfold RunState.observeExit
  dsimp only
  split
  · rename_i reason hreason
    have hbad := h.reason reason hreason
    refine sound_of_bad hverified ?_ h.deadline (fun _ => Or.inr ?_) h.reason
    · rintro (hstate | hstate)
      · exact hbad.1 hstate
      · exact hbad.2 hstate
    · show run.terminationReason.isSome = true
      rw [show run.terminationReason = some reason from hreason]
      rfl
  · rename_i hreason
    have hreason : run.terminationReason = none := hreason
    split
    · exact hexited
    · rename_i hknown
      have hclean : .killed ∉ run.history := by
        intro hmem
        rcases h.killed hmem with hstate | hsome
        · exact hknown hstate
        · rw [hreason] at hsome
          cases hsome
      have hstill : .killed ∉ RunEvent.exited code :: run.history := fun hmem => hclean (hkilled _ hmem)
      split
      · refine sound_of_bad hverified ?_ h.deadline (fun hmem => absurd hmem hstill) h.reason
        rintro (hstate | hstate) <;> cases hstate
      · rename_i hcode
        split
        · exact hexited.unknown hverified _
        · split
          · exact hexited.unknown hverified _
          · refine ⟨⟨fun htrue => ?_, fun hstate => (nomatch hstate)⟩, fun _ => ⟨rfl, ?_, hstill⟩, ?_,
              fun hmem => absurd hmem hstill, h.reason, fun hstate => (nomatch hstate)⟩
            · rw [show run.resultVerified = true from htrue] at hverified
              cases hverified
            · cases code with
              | none => simp at hcode
              | some code => exact ⟨code, by simpa [note] using hcode, List.mem_cons_self⟩
            · intro v hv
              cases hv
              rfl

theorem Sound.enforceLimits (h : run.Sound) (hopen : run.exitObserved = false) (o : RunObservation) :
    (run.enforceLimits o).Sound := by
  have hpassing := h.not_passing hopen
  have hverified := h.not_verified hpassing
  unfold RunState.enforceLimits
  dsimp only
  split
  · exact h
  · split
    · split
      · exact h.unknown hverified _
      · split
        · refine sound_of_bad hverified hpassing h.deadline (fun _ => Or.inr rfl) ?_
          intro s hs
          cases hs
          split
          · exact ⟨by decide, by decide⟩
          · split <;> exact ⟨by decide, by decide⟩
        · refine sound_of_bad hverified ?_ h.deadline (fun _ => Or.inl rfl) h.reason
          rintro (hstate | hstate) <;> cases hstate
    · exact h

theorem Sound.refreshProcess (h : run.Sound) (o : RunObservation) : (run.refreshProcess o).Sound := by
  unfold RunState.refreshProcess
  cases hexited : run.exitObserved with
  | true => exact h
  | false =>
    cases o.waited with
    | exited code => exact h.observeExit hexited o code
    | alive => exact h.enforceLimits hexited o
    | unavailable => exact h.unknown (h.not_verified (h.not_passing hexited)) _

theorem Sound.refreshState (h : run.Sound) (o : RunObservation) : (run.refreshState o).Sound := by
  unfold RunState.refreshState
  split
  · rename_i hverifying
    exact h.readVerification hverifying o
  · split
    · exact h.refreshProcess o
    · split
      · exact h
      · exact h.withoutVerification.refreshProcess o

theorem Sound.refresh (h : run.Sound) (o : RunObservation) : (run.refresh o).Sound := by
  have hnext := h.refreshState o
  unfold RunState.refresh
  dsimp only
  split
  · exact ⟨hnext.verified, hnext.passing, hnext.deadline, hnext.killed, hnext.reason, hnext.inTime⟩
  · exact hnext

/-! ### How a run goes on -/

/-- Nothing of `run` is lost in `run'`. -/
structure Continues (run run' : RunState) : Prop where
  recipe : run'.recipe = run.recipe
  exited : run.exitObserved = true → run'.exitObserved = true
  sound : run.Sound → run'.Sound
  succeeded : run.Sound → run.state = .succeeded → run'.state = .succeeded

theorem Continues.refl (run : RunState) : run.Continues run := ⟨rfl, id, id, fun _ h => h⟩

theorem Continues.trans {run run' run'' : RunState} (h : run.Continues run') (h' : run'.Continues run'') :
    run.Continues run'' :=
  ⟨h'.recipe.trans h.recipe, h'.exited ∘ h.exited, h'.sound ∘ h.sound,
    fun hsound hstate => h'.succeeded (h.sound hsound) (h.succeeded hsound hstate)⟩

theorem continues_requestCancellation (run : RunState) :
    run.Continues { run with cancellationRequested := true } :=
  ⟨rfl, id, Sound.requestCancellation, fun _ h => h⟩

theorem refreshProcess_exited {o : RunObservation} {run : RunState} (h : run.exitObserved = true) :
    run.refreshProcess o = run := if_pos h

/-- Nothing takes a success back: the exit was seen, and no result is waited for. -/
theorem Sound.refreshState_succeeded {run : RunState} (h : run.Sound) (hstate : run.state = .succeeded) (o : RunObservation) :
    (run.refreshState o).state = .succeeded := by
  have hexited := (h.passing (Or.inr hstate)).1
  unfold RunState.refreshState
  rw [if_neg (by rw [hstate]; decide)]
  split
  · rw [refreshProcess_exited hexited]
    exact hstate
  · split
    · exact hstate
    · rw [@refreshProcess_exited o { run with verification := none } hexited]
      exact hstate

theorem refreshProcess_keeps (o : RunObservation) (run : RunState) :
    (run.refreshProcess o).recipe = run.recipe ∧ (run.exitObserved = true → (run.refreshProcess o).exitObserved = true) := by
  unfold RunState.refreshProcess
  split
  · exact ⟨rfl, id⟩
  · rename_i hopen
    refine ⟨?_, fun hexited => absurd hexited hopen⟩
    cases o.waited with
    | unavailable => rfl
    | exited code =>
      unfold RunState.observeExit
      dsimp only
      repeat' split
      all_goals rfl
    | alive =>
      unfold RunState.enforceLimits
      dsimp only
      repeat' split
      all_goals rfl

theorem readVerification_keeps (o : RunObservation) (run : RunState) :
    (run.readVerification o).recipe = run.recipe ∧ (run.readVerification o).exitObserved = run.exitObserved := by
  unfold RunState.readVerification
  split
  · exact ⟨rfl, rfl⟩
  · split
    · exact ⟨rfl, rfl⟩
    · split <;> exact ⟨rfl, rfl⟩

theorem refreshState_keeps (o : RunObservation) (run : RunState) :
    (run.refreshState o).recipe = run.recipe ∧ (run.exitObserved = true → (run.refreshState o).exitObserved = true) := by
  unfold RunState.refreshState
  split
  · have hkeeps := readVerification_keeps o run
    exact ⟨hkeeps.1, fun hexited => hkeeps.2.trans hexited⟩
  · split
    · exact refreshProcess_keeps o run
    · split
      · exact ⟨rfl, id⟩
      · exact refreshProcess_keeps o _

theorem continues_refresh (o : RunObservation) (run : RunState) : run.Continues (run.refresh o) := by
  have hkeeps := refreshState_keeps o run
  refine ⟨?_, fun hexited => ?_, fun h => h.refresh o, fun h hstate => ?_⟩
  · unfold RunState.refresh
    dsimp only
    split <;> exact hkeeps.1
  · unfold RunState.refresh
    dsimp only
    split <;> exact hkeeps.2 hexited
  · have hnext := h.refreshState_succeeded hstate o
    unfold RunState.refresh
    dsimp only
    split <;> exact hnext

theorem continues_cancelRun (id : String) (t : Turn) (run : RunState) :
    run.Continues (WorkflowManager.cancelRun id t run).2 := by
  have hfirst := continues_refresh t.observation run
  unfold WorkflowManager.cancelRun
  dsimp only
  split
  · split
    · exact hfirst
    · exact (hfirst.trans (continues_requestCancellation _)).trans (continues_refresh t.again _)
  · exact hfirst

/-- The new run is sound when the manager takes it in. -/
theorem Sound.superviseRun {t : Turn} (h : run.Sound) (hnew : run.exitObserved = false) :
    (WorkflowManager.superviseRun t run).Sound ∧ (WorkflowManager.superviseRun t run).recipe = run.recipe := by
  unfold WorkflowManager.superviseRun
  split
  · have hearly : ∀ early : List RunObservation, ∀ run : RunState,
        run.Continues (early.foldl (fun run o => run.refresh o) run) := by
      intro early
      induction early with
      | nil => exact Continues.refl
      | cons o early ih => exact fun run => (continues_refresh o run).trans (ih _)
    exact ⟨(hearly t.early run).sound h, (hearly t.early run).recipe⟩
  · have hunknown := h.unknown (h.not_verified (h.not_passing hnew)) "deadline_supervisor_unavailable"
    dsimp only
    split
    · have hkilled : ((run.unknown "deadline_supervisor_unavailable").note .killed).Sound :=
        sound_of_bad (h.not_verified (h.not_passing hnew)) (by rintro (hstate | hstate) <;> cases hstate)
          h.deadline (fun _ => Or.inl rfl) h.reason
      exact ⟨hkilled.refresh _, (continues_refresh _ _).recipe⟩
    · exact ⟨hunknown, rfl⟩

end RunState

/-! ### What the calls of a manager keep -/

namespace WorkflowManager

variable {I : WorkflowManager → Prop}

/-- `I` is kept whatever its holder makes of a run. -/
def Runwise (I : WorkflowManager → Prop) : Prop :=
  ∀ manager id f, (∀ run : RunState, run.Continues (f run)) → I manager → I (manager.modifyRun id f)

theorem keeps_turn (hI : Runwise I) : Keeps I turn := by
  refine keeps_await fun answer manager h => ?_
  cases answer with
  | supervisor id o => exact hI manager id _ (RunState.continues_refresh o) h
  | turn t => exact h

theorem keeps_withRun {α : Type} (hI : Runwise I) (id : String) {f : Turn → RunState → Except String α × RunState}
    (hf : ∀ t (run : RunState), run.Continues (f t run).2) : Keeps I (withRun id f) := by
  refine keeps_andThen (keeps_turn hI) fun t => keeps_update fun manager h => ?_
  cases manager.run? id with
  | none => exact h
  | some run => exact hI manager id _ (hf t) h

theorem keeps_status (hI : Runwise I) (id : String) : Keeps I (status id) :=
  keeps_withRun hI id fun t run => RunState.continues_refresh t.observation run

theorem keeps_cancel (hI : Runwise I) (id : String) : Keeps I (cancel id) :=
  keeps_withRun hI id (RunState.continues_cancelRun id)

theorem keeps_processId (hI : Runwise I) (id : String) : Keeps I (processId id) :=
  keeps_withRun hI id fun t run => RunState.continues_refresh t.observation run

theorem keeps_countActive (hI : Runwise I) : ∀ (ids : List String) (count : Nat), Keeps I (countActive ids count)
  | [], _ => keeps_ret _
  | _ :: ids, _ => keeps_andThen (keeps_turn hI) fun _ => keeps_andThen keeps_read fun _ => keeps_countActive hI ids _

theorem keeps_anyActive (hI : Runwise I) (recipeId : String) : ∀ ids : List String, Keeps I (anyActive recipeId ids)
  | [] => keeps_ret _
  | _ :: ids => keeps_andThen (keeps_turn hI) fun _ => keeps_andThen keeps_read fun active => by
    cases active with
    | true => exact keeps_ret _
    | false => exact keeps_anyActive hI recipeId ids

theorem keeps_cancelEach (hI : Runwise I) : ∀ ids : List String, Keeps I (cancelEach ids)
  | [] => keeps_ret _
  | id :: ids => keeps_andThen (keeps_cancel hI id) fun _ => keeps_cancelEach hI ids

theorem keeps_anyUnfinished (hI : Runwise I) : ∀ ids : List String, Keeps I (anyUnfinished ids)
  | [] => keeps_ret _
  | id :: ids => keeps_andThen (keeps_withRun hI id fun t run => RunState.continues_refresh t.observation run) fun
    | .ok false => keeps_anyUnfinished hI ids
    | .ok true => keeps_ret _
    | .error _ => keeps_ret _

theorem keeps_stopRound (hI : Runwise I) (deadline : Nat) (ids : List String) : Keeps I (stopRound deadline ids) := by
  refine keeps_andThen (keeps_anyUnfinished hI ids) fun unfinished => ?_
  cases unfinished with
  | true => exact keeps_andThen (keeps_turn hI) fun _ => keeps_ret _
  | false => exact keeps_ret _

theorem keeps_statusEach (hI : Runwise I) : ∀ ids : List String, Keeps I (statusEach ids)
  | [] => keeps_ret _
  | id :: ids => keeps_andThen (keeps_status hI id) fun _ => keeps_andThen (keeps_statusEach hI ids) fun _ => keeps_ret _

theorem keeps_allFinished (hI : Runwise I) : ∀ ids : List String, Keeps I (allFinished ids)
  | [] => keeps_ret _
  | _ :: ids => keeps_andThen (keeps_turn hI) fun _ => keeps_andThen keeps_read fun finished => by
    cases finished with
    | true => exact keeps_allFinished hI ids
    | false => exact keeps_ret _

theorem keeps_stopAll (hI : Runwise I)
    (hclose : ∀ manager, I manager → I { manager with policy := none, policyDeadline := none }) : Keeps I stopAll :=
  keeps_andThen keeps_read fun ids => keeps_andThen (keeps_cancelEach hI ids) fun _ =>
  keeps_andThen (keeps_turn hI) fun _ => keeps_andThen (keeps_roundsUntil (keeps_stopRound hI _ ids)) fun _ =>
  keeps_andThen (keeps_statusEach hI ids) fun _ => keeps_andThen (keeps_allFinished hI ids) fun _ =>
  keeps_update hclose

theorem keeps_output {α : Type} {f : α → WorkflowOutput} {p : WorkflowProg α} (h : Keeps I p) : Keeps I (output f p) :=
  keeps_tryThen h fun _ => keeps_ret _

/-- Every run of the manager is sound. -/
def AllSound (manager : WorkflowManager) : Prop := ∀ entry ∈ manager.runs, entry.2.Sound

theorem mem_modifyRun {manager : WorkflowManager} {id : String} {f : RunState → RunState} {entry : String × RunState} :
    entry ∈ (manager.modifyRun id f).runs ↔
      ∃ before ∈ manager.runs, entry = if before.1 = id then (before.1, f before.2) else before := by
  simp only [modifyRun, List.mem_map]
  exact ⟨fun ⟨a, ha, heq⟩ => ⟨a, ha, heq.symm⟩, fun ⟨a, ha, heq⟩ => ⟨a, ha, heq.symm⟩⟩

theorem runwise_allSound : Runwise AllSound := by
  intro manager id f hf h entry hentry
  obtain ⟨before, hbefore, rfl⟩ := mem_modifyRun.mp hentry
  split
  · exact (hf before.2).sound (h before hbefore)
  · exact h before hbefore

theorem run?_mem {manager : WorkflowManager} {id : String} {run : RunState} (h : manager.run? id = some run) :
    (id, run) ∈ manager.runs := by
  obtain ⟨before, after, hruns, -⟩ := List.lookup_eq_some_iff.mp h
  rw [hruns]
  exact List.mem_append_right _ List.mem_cons_self

theorem AllSound.insertRun {manager : WorkflowManager} (h : manager.AllSound) {id : String} {run : RunState}
    (hrun : run.Sound) : (manager.insertRun id run).AllSound := by
  intro entry hentry
  rcases List.mem_cons.mp hentry with rfl | hentry
  · exact hrun
  · exact h entry (List.mem_filter.mp hentry).1

theorem AllSound.launch {manager : WorkflowManager} (h : manager.AllSound) (newUuid : Nat → String) (recipeId : String)
    (recipe : Recipe) (t : Turn) : (launch newUuid recipeId recipe t manager).2.AllSound := by
  unfold WorkflowManager.launch
  split
  · exact h
  · exact h
  · exact h
  · split
    · exact h
    · split
      · exact h
      · split
        · exact h
        · exact AllSound.insertRun h (RunState.Sound.superviseRun (RunState.sound_newRun ..) rfl).1

end WorkflowManager

/-- What a success rests on. -/
structure RunState.Verified (run : RunState) : Prop where
  succeeded : run.state = .succeeded
  exited : run.exitObserved = true
  exitAllowed : run.ExitAllowed
  notKilled : .killed ∉ run.history
  inTime : run.VerifiedInTime

theorem RunState.Sound.verifiedRun {run : RunState} (h : run.Sound) (hstate : run.state = .succeeded) : run.Verified :=
  have hpassing := h.passing (Or.inr hstate)
  ⟨hstate, hpassing.1, hpassing.2.1, hpassing.2.2, h.inTime hstate⟩

namespace WorkflowManager

/-- A report of a success, or of a verified result, is one of a run that the manager has verified. -/
def Backed (r : RunReport) (manager : WorkflowManager) : Prop :=
  (r.resultVerified = true ↔ r.state = .succeeded) ∧
    (r.state = .succeeded → ∃ run, (r.workflowId, run) ∈ manager.runs ∧ run.Verified)

theorem runwise_backed (r : RunReport) : Runwise fun manager => AllSound manager ∧ Backed r manager := by
  rintro manager id f hf ⟨hsound, hiff, hbacked⟩
  refine ⟨runwise_allSound manager id f hf hsound, hiff, fun hstate => ?_⟩
  obtain ⟨run, hmem, hverified⟩ := hbacked hstate
  have hnext := (@mem_modifyRun manager id f _).mpr ⟨_, hmem, rfl⟩
  by_cases hid : r.workflowId = id
  · rw [if_pos hid] at hnext
    have hrun := hsound _ hmem
    exact ⟨f run, hnext, ((hf run).sound hrun).verifiedRun ((hf run).succeeded hrun hverified.succeeded)⟩
  · rw [if_neg hid] at hnext
    exact ⟨run, hnext, hverified⟩

theorem backed_report {manager : WorkflowManager} {id : String} {run : RunState} (hmem : (id, run) ∈ manager.runs)
    (hsound : run.Sound) : Backed (report id run) manager :=
  ⟨hsound.verified, fun hstate => ⟨run, hmem, hsound.verifiedRun hstate⟩⟩

/-- A call that answers with the report of the run it leaves. -/
theorem triple_reporting (id : String) {f : Turn → RunState → Except String RunReport × RunState}
    (hf : ∀ t (run : RunState), run.Continues (f t run).2)
    (hreport : ∀ t run r, (f t run).1 = .ok r → r = report id (f t run).2) :
    Triple (fun s _ => AllSound s) (withRun id f)
      (fun result s _ => AllSound s ∧ ∀ r, result = .ok r → Backed r s) AllSound := by
  refine triple_andThen (keeps_turn runwise_allSound) fun t => triple_update fun manager rest h => ?_
  cases hrun : manager.run? id with
  | none => exact ⟨h, fun r hr => (nomatch hr)⟩
  | some run =>
    have hnext := runwise_allSound manager id (fun run => (f t run).2) (hf t) h
    refine ⟨hnext, fun r hr => ?_⟩
    have hmem : (id, (f t run).2) ∈ (manager.modifyRun id fun run => (f t run).2).runs :=
      mem_modifyRun.mpr ⟨(id, run), run?_mem hrun, by rw [if_pos rfl]⟩
    rw [hreport t run r hr]
    exact backed_report hmem (hnext _ hmem)

theorem triple_status (id : String) : Triple (fun s _ => AllSound s) (status id)
    (fun result s _ => AllSound s ∧ ∀ r, result = .ok r → Backed r s) AllSound :=
  triple_reporting id (fun t run => RunState.continues_refresh t.observation run) fun t run r hr => by
    cases hr
    rfl

theorem triple_cancel (id : String) : Triple (fun s _ => AllSound s) (cancel id)
    (fun result s _ => AllSound s ∧ ∀ r, result = .ok r → Backed r s) AllSound := by
  refine triple_reporting id (RunState.continues_cancelRun id) fun t run r hr => ?_
  unfold cancelRun at hr ⊢
  dsimp only at hr ⊢
  split at hr
  · split at hr
    · cases hr
    · rename_i hrunning hallowed
      cases hr
      rw [if_pos hrunning, if_neg hallowed]
  · rename_i hended
    cases hr
    rw [if_neg hended]

theorem triple_start (newUuid : Nat → String) (windows : Bool) (recipeId : String) :
    Triple (fun s _ => AllSound s) (start newUuid windows recipeId)
      (fun result s _ => AllSound s ∧ ∀ r, result = .ok r → Backed r s) AllSound := by
  have herror : ∀ message : String, Triple (fun s _ => AllSound s) (Prog.ret (.error message) : WorkflowProg RunReport)
      (fun result s _ => AllSound s ∧ ∀ r, result = .ok r → Backed r s) AllSound :=
    fun message => triple_ret fun s _ h => ⟨h, fun r hr => (nomatch hr)⟩
  refine triple_andThen (keeps_turn runwise_allSound) fun t => ?_
  refine triple_tryThen (R := fun _ s _ => AllSound s) (triple_read fun manager _ h => ?_) fun recipe => ?_
  · show orError _ _ (startChecks windows recipeId t manager) _ _
    cases startChecks windows recipeId t manager with
    | ok recipe => exact h
    | error message => exact ⟨h, fun r hr => (nomatch hr)⟩
  refine triple_andThen (R := fun _ s _ => AllSound s) keeps_read fun ids => ?_
  refine triple_andThen (keeps_countActive runwise_allSound ids 0) fun active => ?_
  split
  · exact herror _
  · refine triple_andThen (keeps_anyActive runwise_allSound recipeId ids) fun running => ?_
    cases running with
    | true => exact herror _
    | false =>
      refine triple_andThen (keeps_turn runwise_allSound) fun t => ?_
      refine triple_tryThen (R := fun _ s _ => AllSound s) (triple_update fun manager _ h => ?_) triple_status
      have hnext := h.launch newUuid recipeId recipe t
      cases hresult : (launch newUuid recipeId recipe t manager).1 with
      | ok id => exact hnext
      | error message => exact ⟨hnext, fun r hr => (nomatch hr)⟩

/-- The reports of a stop. -/
def StopResult.Backed (manager : WorkflowManager) : StopResult → Prop
  | .report r => WorkflowManager.Backed r manager
  | .unconfirmed _ => True

theorem runwise_stopResult (result : StopResult) :
    Runwise fun manager => AllSound manager ∧ result.Backed manager := by
  cases result with
  | report r => exact runwise_backed r
  | unconfirmed id => exact fun manager id f hf h => ⟨runwise_allSound manager id f hf h.1, trivial⟩

theorem runwise_stopResults (results : List StopResult) :
    Runwise fun manager => AllSound manager ∧ ∀ result ∈ results, result.Backed manager :=
  fun manager id f hf h => ⟨runwise_allSound manager id f hf h.1,
    fun result hmem => (runwise_stopResult result manager id f hf ⟨h.1, h.2 result hmem⟩).2⟩

theorem triple_statusEach : ∀ ids : List String, Triple (fun s _ => AllSound s) (statusEach ids)
    (fun results s _ => AllSound s ∧ ∀ result ∈ results, result.Backed s) AllSound
  | [] => triple_ret fun s _ h => ⟨h, fun result hmem => (nomatch hmem)⟩
  | id :: ids => by
    refine triple_andThen (triple_status id) fun answer => ?_
    have hrest : ∀ first : StopResult, Triple (fun s _ => AllSound s ∧ first.Backed s)
        ((statusEach ids).andThen fun results => Prog.ret (first :: results))
        (fun results s _ => AllSound s ∧ ∀ result ∈ results, result.Backed s) AllSound := by
      intro first
      have hkept := triple_keeping (triple_statusEach ids)
        (triple_cut (keeps_statusEach (runwise_stopResult first) ids) fun s h => h)
      refine triple_andThen (triple_weaken hkept (fun s _ h => ⟨h.1, h⟩) fun _ _ _ h => h) fun results => ?_
      refine triple_ret fun s _ h => ⟨h.1.1, fun result hmem => ?_⟩
      rcases List.mem_cons.mp hmem with rfl | hmem
      · exact h.2.2
      · exact h.1.2 result hmem
    cases answer with
    | ok r => exact triple_weaken (hrest (.report r)) (fun s _ h => ⟨h.1, h.2 r rfl⟩) fun _ _ _ h => h
    | error message => exact triple_weaken (hrest (.unconfirmed id)) (fun s _ h => ⟨h.1, trivial⟩) fun _ _ _ h => h

theorem triple_stopAll : Triple (fun s _ => AllSound s) stopAll
    (fun result s _ => AllSound s ∧ ∀ r, result = .ok r → ∀ x ∈ r.workflows, x.Backed s) AllSound := by
  refine triple_andThen (R := fun _ s _ => AllSound s) keeps_read fun ids => ?_
  refine triple_andThen (keeps_cancelEach runwise_allSound ids) fun _ => ?_
  refine triple_andThen (keeps_turn runwise_allSound) fun t => ?_
  refine triple_andThen (keeps_roundsUntil (keeps_stopRound runwise_allSound _ ids)) fun _ => ?_
  refine triple_andThen (triple_statusEach ids) fun results => ?_
  refine triple_andThen (triple_cut (keeps_allFinished (runwise_stopResults results) ids) fun s h => h.1) fun success => ?_
  refine triple_update fun s _ h => ⟨h.1, fun r hr => ?_⟩
  cases hr
  exact h.2

end WorkflowManager

/-- The reports in an output. -/
def WorkflowOutput.reports : WorkflowOutput → List RunReport
  | .report r => [r]
  | .processId _ => []
  | .stopped r => r.workflows.filterMap fun
    | .report r => some r
    | .unconfirmed _ => none

namespace WorkflowManager

theorem triple_output {α : Type} {f : α → WorkflowOutput} {p : WorkflowProg α}
    (h : Triple (fun s _ => AllSound s) p (fun result s _ => AllSound s ∧ ∀ a, result = .ok a → ∀ r ∈ (f a).reports, Backed r s)
      AllSound) :
    Triple (fun s _ => AllSound s) (output f p)
      (fun result s _ => AllSound s ∧ ∀ out, result = .ok out → ∀ r ∈ out.reports, Backed r s) AllSound := by
  refine triple_tryThen (R := fun a s _ => AllSound s ∧ ∀ r ∈ (f a).reports, Backed r s)
    (triple_weaken h (fun _ _ hs => hs) fun result s _ hs => ?_) fun a => triple_ret fun s _ hs => ⟨hs.1, fun out hout => ?_⟩
  · cases result with
    | ok a => exact ⟨hs.1, hs.2 a rfl⟩
    | error message => exact ⟨hs.1, fun out hout => (nomatch hout)⟩
  · cases hout
    exact hs.2

theorem triple_output_report {p : WorkflowProg RunReport}
    (h : Triple (fun s _ => AllSound s) p (fun result s _ => AllSound s ∧ ∀ r, result = .ok r → Backed r s) AllSound) :
    Triple (fun s _ => AllSound s) (output .report p)
      (fun result s _ => AllSound s ∧ ∀ out, result = .ok out → ∀ r ∈ out.reports, Backed r s) AllSound :=
  triple_output (triple_weaken h (fun _ _ hs => hs) fun result s _ hs => ⟨hs.1, fun a ha r hr => by
    rw [List.mem_singleton.mp hr]
    exact hs.2 a ha⟩)

theorem triple_serve (newUuid : Nat → String) (windows : Bool) (request : WorkflowRequest) :
    Triple (fun s _ => AllSound s) (serve newUuid windows request)
      (fun result s _ => AllSound s ∧ ∀ out, result = .ok out → ∀ r ∈ out.reports, Backed r s) AllSound := by
  cases request with
  | start recipeId => exact triple_output_report (triple_start newUuid windows recipeId)
  | status id => exact triple_output_report (triple_status id)
  | cancel id => exact triple_output_report (triple_cancel id)
  | processId id =>
    exact triple_output (triple_weaken (keeps_processId runwise_allSound id) (fun _ _ hs => hs)
      fun result s _ hs => ⟨hs, fun a ha r hr => (nomatch hr)⟩)
  | stopAll =>
    refine triple_output (triple_weaken triple_stopAll (fun _ _ hs => hs) fun result s _ hs => ⟨hs.1, fun a ha r hr => ?_⟩)
    obtain ⟨x, hx, hr⟩ := List.mem_filterMap.mp hr
    have hbacked := hs.2 a ha x hx
    cases x with
    | report r' =>
      cases hr
      exact hbacked
    | unconfirmed id => cases hr

end WorkflowManager

theorem step_allSound (newUuid : Nat → String) (windows : Bool) (manager : WorkflowManager) (call : WorkflowCall)
    (h : manager.AllSound) : ((workflowManager newUuid windows).step manager call).2.AllSound ∧
      ∀ out, ((workflowManager newUuid windows).step manager call).1 = some (.ok out) → ∀ r ∈ out.reports,
        WorkflowManager.Backed r ((workflowManager newUuid windows).step manager call).2 := by
  have hran := WorkflowManager.triple_serve newUuid windows call.request manager call.script h
  unfold workflowManager
  dsimp only
  cases hserve : WorkflowManager.serve newUuid windows call.request manager call.script with
  | done value manager' rest =>
    rw [hserve] at hran
    exact ⟨hran.1, fun out hout => hran.2 out (Option.some.inj hout)⟩
  | cut manager' =>
    rw [hserve] at hran
    exact ⟨hran, fun out hout => (nomatch hout)⟩

/-- Whatever calls the manager gets, and whatever its supervisors, the clocks, the child processes and the result
    checks do meanwhile: a run has succeeded exactly if its result is verified, and then its child was seen to exit
    with an allowed code, nothing had killed it, and the result check said yes in time. So it is with every success
    that a call reports. -/
theorem success_is_verified (newUuid : Nat → String) (windows : Bool) (policy : WorkflowPolicy) (policyDeadline : Nat)
    (calls : List WorkflowCall) :
    (∀ entry ∈ ((workflowManager newUuid windows).final (.configured policy policyDeadline) calls).runs,
      (entry.2.resultVerified = true ↔ entry.2.state = .succeeded) ∧ (entry.2.state = .succeeded → entry.2.Verified)) ∧
    ∀ c ∈ (workflowManager newUuid windows).trace (.configured policy policyDeadline) calls, ∀ out,
      c.output = some (.ok out) → ∀ r ∈ out.reports, WorkflowManager.Backed r c.after := by
  have hstart : (WorkflowManager.configured policy policyDeadline).AllSound := fun entry hmem => (nomatch hmem)
  have hkeep := fun manager call h => (step_allSound newUuid windows manager call h).1
  constructor
  · intro entry hmem
    have hsound := Machine.inv_final hkeep calls hstart entry hmem
    exact ⟨hsound.verified, hsound.verifiedRun⟩
  · intro c hc out hout
    have hbefore := Machine.inv_before hkeep hstart hc
    rw [Machine.eq_call_of_mem hc] at hout ⊢
    exact (step_allSound newUuid windows c.before c.input hbefore).2 out hout

end DccCua
