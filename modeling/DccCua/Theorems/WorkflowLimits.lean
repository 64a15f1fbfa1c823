import DccCua.Uuid
import DccCua.Theorems.WorkflowRuns

/-! # The limits of a workflow manager

The checks of `start` look at one run after another, each under its own lock, while the supervisors go on. An exit
that was seen stays seen, and only `start` adds runs, so that what a check has found holds still when the process
is launched. -/

namespace DccCua

open Runs Checks Script

namespace WorkflowManager

/-- The runs that have not been seen to exit. -/
def activeRuns (manager : WorkflowManager) : Nat := manager.runs.countP (!·.2.exitObserved)

/-- Every run of the recipe was seen to exit. -/
def Quiet (recipeId : String) (manager : WorkflowManager) : Prop :=
  ∀ entry ∈ manager.runs, entry.2.recipe.id = recipeId → entry.2.exitObserved = true

/-- The recipes that were launched to uninstall. -/
def uninstalls (manager : WorkflowManager) : List String :=
  (manager.launched.filter (·.2 = .uninstall)).map (·.1)

structure Limits (newUuid : Nat → String) (manager : WorkflowManager) : Prop where
  named : ∀ id ∈ manager.ids, ∃ n < manager.drawn, id = "workflow-" ++ newUuid n
  nodup : manager.ids.Nodup
  /-- No launched process is lost. -/
  kept : manager.runs.map (·.2.recipe.id) = manager.launched.map (·.1)
  total : manager.runs.length ≤ maxRuns
  active : manager.activeRuns ≤ maxActiveRuns
  single : manager.runs.Pairwise fun a b =>
    a.2.recipe.id = b.2.recipe.id → a.2.exitObserved = true ∨ b.2.exitObserved = true
  once : manager.uninstalls.Nodup
  consumed : ∀ id ∈ manager.uninstalls, id ∈ manager.consumedUninstall

/-! ### What the supervisors leave -/

variable {newUuid : Nat → String} {recipeId : String}

theorem Runwise.and {I J : WorkflowManager → Prop} (hI : Runwise I) (hJ : Runwise J) :
    Runwise fun manager => I manager ∧ J manager :=
  fun manager id f hf h => ⟨hI manager id f hf h.1, hJ manager id f hf h.2⟩

theorem ids_modifyRun (manager : WorkflowManager) (id : String) (f : RunState → RunState) :
    (manager.modifyRun id f).ids = manager.ids := by
  unfold ids modifyRun
  rw [List.map_map]
  refine List.map_congr_left fun entry _ => ?_
  simp only [Function.comp_apply]
  split <;> rfl

theorem length_modifyRun (manager : WorkflowManager) (id : String) (f : RunState → RunState) :
    (manager.modifyRun id f).runs.length = manager.runs.length := List.length_map _

/-- An entry of the map goes on, under its id. -/
theorem entry_continues {id : String} {f : RunState → RunState} (hf : ∀ run : RunState, run.Continues (f run))
    (entry : String × RunState) : entry.2.Continues (if entry.1 = id then (entry.1, f entry.2) else entry).2 := by
  split
  · exact hf entry.2
  · exact RunState.Continues.refl entry.2

theorem recipes_modifyRun {manager : WorkflowManager} {id : String} {f : RunState → RunState}
    (hf : ∀ run : RunState, run.Continues (f run)) :
    (manager.modifyRun id f).runs.map (·.2.recipe.id) = manager.runs.map (·.2.recipe.id) := by
  unfold modifyRun
  rw [List.map_map]
  refine List.map_congr_left fun entry _ => ?_
  rw [Function.comp_apply, (entry_continues hf entry).recipe]

theorem activeRuns_modifyRun {manager : WorkflowManager} {id : String} {f : RunState → RunState}
    (hf : ∀ run : RunState, run.Continues (f run)) : (manager.modifyRun id f).activeRuns ≤ manager.activeRuns := by
  unfold activeRuns modifyRun
  rw [List.countP_map]
  refine List.countP_mono_left fun entry _ hactive => ?_
  simp only [Function.comp_apply, Bool.not_eq_true'] at hactive ⊢
  cases hexited : entry.2.exitObserved with
  | false => rfl
  | true =>
    rw [(entry_continues hf entry).exited hexited] at hactive
    cases hactive

theorem runwise_limits : Runwise (Limits newUuid) := by
  intro manager id f hf h
  refine ⟨?_, ?_, ?_, ?_, Nat.le_trans (activeRuns_modifyRun hf) h.active, ?_, h.once, h.consumed⟩
  · rw [ids_modifyRun]
    exact h.named
  · rw [ids_modifyRun]
    exact h.nodup
  · rw [recipes_modifyRun hf]
    exact h.kept
  · rw [length_modifyRun]
    exact h.total
  · refine List.pairwise_map.mpr (h.single.imp fun {a b} hab hrecipe => ?_)
    rw [(entry_continues hf a).recipe, (entry_continues hf b).recipe] at hrecipe
    rcases hab hrecipe with hexited | hexited
    · exact Or.inl ((entry_continues hf a).exited hexited)
    · exact Or.inr ((entry_continues hf b).exited hexited)

theorem runwise_quiet : Runwise (Quiet recipeId) := by
  intro manager id f hf h entry hentry hrecipe
  obtain ⟨before, hbefore, rfl⟩ := mem_modifyRun.mp hentry
  rw [(entry_continues hf before).recipe] at hrecipe
  exact (entry_continues hf before).exited (h before hbefore hrecipe)

/-- The facts that the first checks of `start` leave. -/
structure Admitted (newUuid : Nat → String) (recipeId : String) (manager : WorkflowManager) : Prop where
  limits : Limits newUuid manager
  notConsumed : recipeId ∉ manager.consumedUninstall
  room : manager.runs.length < maxRuns

theorem runwise_admitted : Runwise (Admitted newUuid recipeId) := by
  intro manager id f hf h
  refine ⟨runwise_limits manager id f hf h.limits, h.notConsumed, ?_⟩
  rw [length_modifyRun]
  exact h.room

theorem runwise_activeBelow (n : Nat) : Runwise fun manager => manager.activeRuns < n :=
  fun _ _ _ hf h => Nat.lt_of_le_of_lt (activeRuns_modifyRun hf) h

theorem run?_modifyRun (manager : WorkflowManager) (id key : String) (f : RunState → RunState) :
    (manager.modifyRun id f).run? key = (manager.run? key).map fun run => if key = id then f run else run := by
  unfold run? modifyRun
  dsimp only
  induction manager.runs with
  | nil => rfl
  | cons entry runs ih =>
    rw [List.map_cons]
    by_cases hkey : key = entry.1
    · subst hkey
      by_cases hid : entry.1 = id
      · rw [if_pos hid, List.lookup_cons_self, ← Prod.eta entry, List.lookup_cons_self, Option.map_some, if_pos hid]
      · rw [if_neg hid, ← Prod.eta entry, List.lookup_cons_self, List.lookup_cons_self, Option.map_some, if_neg hid]
    · have hbeq : (key == entry.1) = false := beq_eq_false_iff_ne.mpr hkey
      have hskip : ∀ run : RunState, ∀ rest : List (String × RunState),
          ((entry.1, run) :: rest).lookup key = rest.lookup key := by
        intro run rest
        rw [List.lookup_cons, hbeq]
      rw [← Prod.eta entry, hskip, ← ih]
      dsimp only
      split <;> exact hskip _ _

theorem run?_of_mem {manager : WorkflowManager} (hnodup : manager.ids.Nodup) {entry : String × RunState}
    (hmem : entry ∈ manager.runs) : manager.run? entry.1 = some entry.2 := by
  unfold ids at hnodup
  unfold run?
  generalize manager.runs = runs at hnodup hmem ⊢
  induction runs with
  | nil => cases hmem
  | cons first runs ih =>
    rw [List.map_cons, List.nodup_cons] at hnodup
    rcases List.mem_cons.mp hmem with rfl | hmem
    · exact List.lookup_cons_self
    · have hne : (entry.1 == first.1) = false := by
        refine beq_eq_false_iff_ne.mpr fun heq => hnodup.1 ?_
        rw [← heq]
        exact List.mem_map_of_mem hmem
      rw [← Prod.eta first, List.lookup_cons, hne]
      exact ih hnodup.2 hmem

theorem activeRun_modifyRun {manager : WorkflowManager} {id key : String} {f : RunState → RunState}
    (hf : ∀ run : RunState, run.Continues (f run)) (h : activeRun key (manager.modifyRun id f) = true) :
    activeRun key manager = true := by
  unfold activeRun at h ⊢
  rw [run?_modifyRun] at h
  cases hrun : manager.run? key with
  | none =>
    rw [hrun] at h
    cases h
  | some run =>
    rw [hrun] at h
    simp only [Option.map_some, Option.any_some, Bool.not_eq_true'] at h ⊢
    cases hexited : run.exitObserved with
    | false => rfl
    | true =>
      split at h
      · rw [(hf run).exited hexited] at h
        cases h
      · rw [hexited] at h
        cases h

/-! ### The checks of `start` -/

/-- The runs of `done` have been looked at, those of `todo` not yet. -/
def Counted (finished todo : List String) (count : Nat) (manager : WorkflowManager) : Prop :=
  manager.ids = finished ++ todo ∧ finished.countP (activeRun · manager) ≤ count

theorem runwise_counted (finished todo : List String) (count : Nat) : Runwise (Counted finished todo count) := by
  intro manager id f hf h
  refine ⟨(ids_modifyRun manager id f).trans h.1, Nat.le_trans (List.countP_mono_left fun key _ hactive => ?_) h.2⟩
  exact activeRun_modifyRun hf hactive

theorem triple_countActive {J : WorkflowManager → Prop} (hJ : Runwise J) : ∀ (todo finished : List String) (count : Nat),
    Triple (fun s _ => J s ∧ Counted finished todo count s) (countActive todo count)
      (fun n s _ => J s ∧ s.ids.countP (activeRun · s) ≤ n) J
  | [], finished, count => triple_ret fun s _ h => by
    obtain ⟨hJ, hids, hcount⟩ := h
    rw [List.append_nil] at hids
    rw [hids]
    exact ⟨hJ, hcount⟩
  | id :: todo, finished, count => by
    have hkeep := hJ.and (runwise_counted finished (id :: todo) count)
    refine triple_andThen (triple_cut (keeps_turn hkeep) fun s h => h.1) fun _ => ?_
    refine triple_andThen (R := fun active s _ => J s ∧ Counted (finished ++ [id]) todo (if active then count + 1 else count) s)
      (triple_read fun s _ h => ⟨h.1, ?_, ?_⟩) fun active => triple_countActive hJ todo (finished ++ [id]) _
    · rw [h.2.1, List.append_assoc]
      rfl
    · have hcount := h.2.2
      rw [List.countP_append, List.countP_singleton]
      cases activeRun id s with
      | true => exact Nat.succ_le_succ hcount
      | false => exact hcount

/-- The count of `start` is not below the number of the runs that have not exited. -/
theorem countP_ids {manager : WorkflowManager} (hnodup : manager.ids.Nodup) :
    manager.ids.countP (activeRun · manager) = manager.activeRuns := by
  unfold ids activeRuns
  rw [List.countP_map]
  refine List.countP_congr fun entry hmem => ?_
  rw [Function.comp_apply, activeRun, run?_of_mem hnodup hmem, Option.any_some]

/-- The recipe has no run under `finished` that has not exited. -/
def Passed (recipeId : String) (finished todo : List String) (manager : WorkflowManager) : Prop :=
  manager.ids = finished ++ todo ∧
    ∀ entry ∈ manager.runs, entry.1 ∈ finished → entry.2.recipe.id = recipeId → entry.2.exitObserved = true

theorem runwise_passed (recipeId : String) (finished todo : List String) : Runwise (Passed recipeId finished todo) := by
  intro manager id f hf h
  refine ⟨(ids_modifyRun manager id f).trans h.1, fun entry hentry hmem hrecipe => ?_⟩
  obtain ⟨before, hbefore, rfl⟩ := mem_modifyRun.mp hentry
  rw [(entry_continues hf before).recipe] at hrecipe
  refine (entry_continues hf before).exited (h.2 before hbefore ?_ hrecipe)
  revert hmem
  split <;> exact fun hmem => hmem

theorem triple_anyActive {J : WorkflowManager → Prop} (hJ : Runwise J) (hnodup : ∀ s, J s → s.ids.Nodup)
    (recipeId : String) : ∀ todo finished : List String,
    Triple (fun s _ => J s ∧ Passed recipeId finished todo s) (anyActive recipeId todo)
      (fun active s _ => J s ∧ (active = false → Quiet recipeId s)) J
  | [], finished => triple_ret fun s _ h => ⟨h.1, fun _ entry hmem => h.2.2 entry hmem (by
      have hid : entry.1 ∈ s.ids := List.mem_map_of_mem hmem
      rw [h.2.1, List.append_nil] at hid
      exact hid)⟩
  | id :: todo, finished => by
    have hkeep := hJ.and (runwise_passed recipeId finished (id :: todo))
    refine triple_andThen (triple_cut (keeps_turn hkeep) fun s h => h.1) fun _ => ?_
    refine triple_andThen (R := fun active s _ => J s ∧ (active = false → Passed recipeId (finished ++ [id]) todo s))
      (triple_read fun s _ h => ⟨h.1, fun hidle => ⟨?_, ?_⟩⟩) fun active => ?_
    · rw [h.2.1, List.append_assoc]
      rfl
    · intro entry hmem hfinished hrecipe
      rcases List.mem_append.mp hfinished with hbefore | hnow
      · exact h.2.2 entry hmem hbefore hrecipe
      · have hrun := run?_of_mem (hnodup s h.1) hmem
        rw [List.mem_singleton.mp hnow] at hrun
        rw [hrun, Option.any_some, hrecipe] at hidle
        simpa using hidle
    · cases active with
      | true => exact triple_ret fun s _ h => ⟨h.1, fun hfalse => (nomatch hfalse)⟩
      | false =>
        exact triple_weaken (triple_anyActive hJ hnodup recipeId todo (finished ++ [id]))
          (fun s _ h => ⟨h.1, h.2 rfl⟩) fun _ _ _ h => h

/-! ### The launch -/

theorem insertRun_fresh {manager : WorkflowManager} {id : String} (h : id ∉ manager.ids) (run : RunState) :
    manager.insertRun id run = { manager with runs := (id, run) :: manager.runs } := by
  unfold insertRun
  rw [List.filter_eq_self.mpr]
  intro entry hmem
  refine decide_eq_true fun heq => h ?_
  rw [← heq]
  exact List.mem_map_of_mem hmem

/-- The next id is new. -/
theorem Limits.fresh {manager : WorkflowManager} (h : Limits newUuid manager) (hunique : Function.Injective newUuid) :
    "workflow-" ++ newUuid manager.drawn ∉ manager.ids := by
  intro hmem
  obtain ⟨n, hn, heq⟩ := h.named _ hmem
  have hsame : newUuid manager.drawn = newUuid n := String.append_right_inj "workflow-" |>.mp heq
  exact absurd (hunique hsame) (Nat.ne_of_gt hn)

/-- What the launch of a process makes of the manager. -/
def launched' (recipeId : String) (kind : WorkflowKind) (id : String) (run : RunState) (manager : WorkflowManager) :
    WorkflowManager :=
  { manager with
    drawn := manager.drawn + 1
    launched := (recipeId, kind) :: manager.launched
    consumedUninstall := if kind = .uninstall then recipeId :: manager.consumedUninstall else manager.consumedUninstall
    runs := (id, run) :: manager.runs }

theorem Admitted.launched {manager : WorkflowManager} (h : Admitted newUuid recipeId manager)
    (hunique : Function.Injective newUuid) (hbelow : manager.activeRuns < maxActiveRuns)
    (hquiet : Quiet recipeId manager) {run : RunState} (hrun : run.recipe.id = recipeId) (kind : WorkflowKind) :
    Limits newUuid (launched' recipeId kind ("workflow-" ++ newUuid manager.drawn) run manager) := by
  obtain ⟨hlimits, hconsumed, hroom⟩ := h
  refine ⟨?_, List.nodup_cons.mpr ⟨hlimits.fresh hunique, hlimits.nodup⟩, ?_, hroom, ?_, ?_, ?_, ?_⟩
  · intro id hid
    rcases List.mem_cons.mp hid with rfl | hid
    · exact ⟨manager.drawn, Nat.lt_succ_self _, rfl⟩
    · obtain ⟨n, hn, heq⟩ := hlimits.named id hid
      exact ⟨n, Nat.lt_succ_of_lt hn, heq⟩
  · show run.recipe.id :: manager.runs.map (·.2.recipe.id) = recipeId :: manager.launched.map (·.1)
    rw [hrun, hlimits.kept]
  · show List.countP _ (_ :: manager.runs) ≤ maxActiveRuns
    rw [List.countP_cons]
    have hcount : manager.runs.countP (!·.2.exitObserved) < maxActiveRuns := hbelow
    split <;> omega
  · refine List.pairwise_cons.mpr ⟨fun entry hmem hrecipe => Or.inr (hquiet entry hmem ?_), hlimits.single⟩
    exact hrecipe.symm.trans hrun
  · cases kind with
    | install => exact hlimits.once
    | uninstall => exact List.nodup_cons.mpr ⟨fun hmem => hconsumed (hlimits.consumed _ hmem), hlimits.once⟩
  · cases kind with
    | install => exact hlimits.consumed
    | uninstall =>
      intro id hid
      rcases List.mem_cons.mp hid with rfl | hid
      · exact List.mem_cons_self
      · exact List.mem_cons_of_mem _ (hlimits.consumed id hid)

/-- A launch that fails changes nothing. -/
theorem launch_cases (newUuid : Nat → String) (recipeId : String) (recipe : Recipe) (t : Turn) (manager : WorkflowManager) :
    (∃ message, launch newUuid recipeId recipe t manager = (.error message, manager)) ∨
    ∃ run : RunState, run.recipe = recipe ∧ ∃ id, id = "workflow-" ++ newUuid manager.drawn ∧
      (id ∉ manager.ids → launch newUuid recipeId recipe t manager =
        (.ok id, launched' recipeId recipe.kind id run manager)) := by
  unfold launch
  split
  · exact Or.inl ⟨_, rfl⟩
  · exact Or.inl ⟨_, rfl⟩
  · exact Or.inl ⟨_, rfl⟩
  · rename_i policy policyDeadline _ _ _
    split
    · exact Or.inl ⟨_, rfl⟩
    · split
      · exact Or.inl ⟨_, rfl⟩
      · cases t.child with
        | none => exact Or.inl ⟨_, rfl⟩
        | some childId =>
          refine Or.inr ⟨_, (RunState.Sound.superviseRun (t := t)
            (RunState.sound_newRun recipe childId policy.expiresAtUnixMs policyDeadline t.launchInstant) rfl).2,
            _, rfl, fun hfresh => ?_⟩
          refine congrArg (Prod.mk (Except.ok _)) (insertRun_fresh ?_ _)
          exact hfresh

/-! ### The calls -/

theorem startChecks_eq_ok {windows : Bool} {t : Turn} {manager : WorkflowManager} {recipe : Recipe}
    (h : startChecks windows recipeId t manager = .ok recipe) :
    recipeId ∉ manager.consumedUninstall ∧ manager.runs.length < maxRuns ∧ recipe.id = recipeId ∧
      manager.policy.isSome = true := by
  simp only [startChecks, bind_eq_ok, require_eq_ok] at h
  obtain ⟨-, -, -, -, found, hfound, -, hconsumed, -, hroom, hrecipe⟩ := h
  cases hrecipe
  refine ⟨by simpa using hconsumed, by simpa using hroom, ?_⟩
  unfold WorkflowManager.recipe at hfound
  split at hfound
  · cases hfound
  · rename_i policy hpolicy
    simp only [bind_eq_ok, require_eq_ok] at hfound
    obtain ⟨-, -, hfind⟩ := hfound
    split at hfind
    · cases hfind
    · rename_i recipe' hmatch
      cases hfind
      refine ⟨by simpa using List.find?_some hmatch, ?_⟩
      rw [hpolicy]
      rfl

theorem keeps_start (hunique : Function.Injective newUuid) (windows : Bool) (recipeId : String) :
    Keeps (Limits newUuid) (start newUuid windows recipeId) := by
  have herror : ∀ (J : WorkflowManager → Prop) (message : String), (∀ s, J s → Limits newUuid s) →
      Triple (fun s _ => J s) (Prog.ret (.error message) : WorkflowProg RunReport) (fun _ s _ => Limits newUuid s)
        (Limits newUuid) :=
    fun J message h => triple_ret fun s _ hs => h s hs
  refine triple_andThen (keeps_turn runwise_limits) fun t => ?_
  refine triple_tryThen (R := fun recipe s _ => Admitted newUuid recipeId s ∧ recipe.id = recipeId)
    (triple_read fun manager _ h => ?_) fun recipe => ?_
  · show orError _ _ (startChecks windows recipeId t manager) _ _
    cases hchecks : startChecks windows recipeId t manager with
    | ok recipe =>
      obtain ⟨hconsumed, hroom, hrecipe, -⟩ := startChecks_eq_ok hchecks
      exact ⟨⟨h, hconsumed, hroom⟩, hrecipe⟩
    | error message => exact h
  by_cases hrecipe : recipe.id = recipeId
  case neg => exact fun s script hs => absurd hs.2 hrecipe
  refine triple_andThen (R := fun ids s _ => Admitted newUuid recipeId s ∧ s.ids = ids)
    (triple_read fun s _ h => ⟨h.1, rfl⟩) fun ids => ?_
  refine triple_andThen (R := fun n s _ => (Admitted newUuid recipeId s ∧ s.ids = ids) ∧ s.activeRuns ≤ n) ?_ fun active => ?_
  · have hrunwise : Runwise fun s => Admitted newUuid recipeId s ∧ s.ids = ids :=
      runwise_admitted.and fun manager id f _ h => (ids_modifyRun manager id f).trans h
    refine triple_cut (triple_weaken (triple_countActive hrunwise ids [] 0)
      (fun s _ h => ⟨h, h.2, Nat.le_refl _⟩) fun n s _ h => ⟨h.1, ?_⟩) fun s h => h.1.limits
    rw [← countP_ids h.1.1.limits.nodup]
    exact h.2
  · split
    · exact triple_ret fun s _ h => h.1.1.limits
    · rename_i hbelow
      have hready : Runwise fun s => Admitted newUuid recipeId s ∧ s.activeRuns < maxActiveRuns :=
        runwise_admitted.and (runwise_activeBelow _)
      refine triple_andThen (triple_cut (triple_weaken
        (triple_anyActive hready (fun s h => h.1.limits.nodup) recipeId ids [])
        (fun s _ h => ⟨⟨h.1.1, by omega⟩, h.1.2, fun entry _ hnone => (nomatch hnone)⟩) fun _ _ _ h => h)
        fun s h => h.1.limits) fun running => ?_
      cases running with
      | true => exact triple_ret fun s _ h => h.1.1.limits
      | false =>
        refine triple_andThen (triple_cut (triple_weaken (keeps_turn (hready.and runwise_quiet))
          (fun s _ h => ⟨h.1, h.2 rfl⟩) fun _ _ _ h => h) fun s h => h.1.1.limits) fun t => ?_
        refine triple_tryThen (R := fun _ s _ => Limits newUuid s) (triple_update fun manager _ h => ?_)
          fun id => keeps_status runwise_limits id
        have hnext : Limits newUuid (launch newUuid recipeId recipe t manager).2 := by
          rcases launch_cases newUuid recipeId recipe t manager with ⟨message, hlaunch⟩ | ⟨run, hrun, id, rfl, hlaunch⟩
          · rw [hlaunch]
            exact h.1.1.limits
          · rw [hlaunch (h.1.1.limits.fresh hunique)]
            exact h.1.1.launched hunique h.1.2 h.2 (by rw [hrun, hrecipe]) recipe.kind
        cases (launch newUuid recipeId recipe t manager).1 with
        | ok id => exact hnext
        | error message => exact hnext

theorem keeps_serve (hunique : Function.Injective newUuid) (windows : Bool) (request : WorkflowRequest) :
    Keeps (Limits newUuid) (serve newUuid windows request) := by
  cases request with
  | start recipeId => exact keeps_output (keeps_start hunique windows recipeId)
  | status id => exact keeps_output (keeps_status runwise_limits id)
  | cancel id => exact keeps_output (keeps_cancel runwise_limits id)
  | processId id => exact keeps_output (keeps_processId runwise_limits id)
  | stopAll =>
    exact keeps_output (keeps_stopAll runwise_limits fun manager h =>
      ⟨h.named, h.nodup, h.kept, h.total, h.active, h.single, h.once, h.consumed⟩)

/-! ### After a stop -/

/-- The manager is closed: it has no policy, and has launched what it has launched. -/
def Closed (launched : List (String × WorkflowKind)) (manager : WorkflowManager) : Prop :=
  manager.policy = none ∧ manager.launched = launched

variable {launched : List (String × WorkflowKind)}

theorem runwise_closed : Runwise (Closed launched) := fun _ _ _ _ h => h

theorem triple_stopAll_closes : Triple (fun _ _ => True) stopAll (fun _ s _ => s.policy = none) fun _ => True :=
  triple_andThen (triple_true _) fun _ => triple_andThen (triple_true _) fun _ => triple_andThen (triple_true _) fun _ =>
  triple_andThen (triple_true _) fun _ => triple_andThen (triple_true _) fun _ => triple_andThen (triple_true _) fun _ =>
  triple_update fun _ _ _ => rfl

theorem triple_serve_stopAll (newUuid : Nat → String) (windows : Bool) :
    Triple (fun _ _ => True) (serve newUuid windows .stopAll) (fun _ s _ => s.policy = none) fun _ => True := by
  refine triple_tryThen (R := fun _ s _ => s.policy = none) (triple_weaken triple_stopAll_closes (fun _ _ h => h)
    fun result s _ h => ?_) fun r => triple_ret fun _ _ h => h
  cases result with
  | ok r => exact h
  | error message => exact h

/-- No start goes beyond its first checks. -/
theorem triple_start_closed (newUuid : Nat → String) (windows : Bool) (recipeId : String) :
    Triple (fun s _ => Closed launched s) (start newUuid windows recipeId)
      (fun result s _ => Closed launched s ∧ ∀ r, result ≠ .ok r) (Closed launched) := by
  refine triple_andThen (keeps_turn runwise_closed) fun t => ?_
  refine triple_tryThen (R := fun _ _ _ => False) (triple_read fun manager _ h => ?_)
    fun _ => fun s script hfalse => hfalse.elim
  show orError _ _ (startChecks windows recipeId t manager) _ _
  cases hchecks : startChecks windows recipeId t manager with
  | ok recipe =>
    have hsome := (startChecks_eq_ok hchecks).2.2.2
    rw [h.1] at hsome
    cases hsome
  | error message => exact ⟨h, fun r hr => (nomatch hr)⟩

theorem triple_serve_start (newUuid : Nat → String) (windows : Bool) (recipeId : String) :
    Triple (fun s _ => Closed launched s) (serve newUuid windows (.start recipeId))
      (fun result _ _ => ∀ out, result ≠ .ok out) fun _ => True := by
  refine triple_tryThen (R := fun _ _ _ => False) (triple_cut (triple_weaken
    (triple_start_closed newUuid windows recipeId) (fun _ _ h => h) fun result s _ h => ?_) fun _ _ => trivial)
    fun _ => fun s script hfalse => hfalse.elim
  cases result with
  | ok r => exact h.2 r rfl
  | error message => exact fun out hout => (nomatch hout)

theorem keeps_serve_closed (newUuid : Nat → String) (windows : Bool) (request : WorkflowRequest) :
    Keeps (Closed launched) (serve newUuid windows request) := by
  cases request with
  | start recipeId =>
    exact keeps_output (triple_weaken (triple_start_closed newUuid windows recipeId) (fun _ _ h => h) fun _ _ _ h => h.1)
  | status id => exact keeps_output (keeps_status runwise_closed id)
  | cancel id => exact keeps_output (keeps_cancel runwise_closed id)
  | processId id => exact keeps_output (keeps_processId runwise_closed id)
  | stopAll => exact keeps_output (keeps_stopAll runwise_closed fun manager h => ⟨rfl, h.2⟩)

end WorkflowManager

variable {newUuid : Nat → String}

/-- A property that every request keeps is kept by the calls. -/
theorem step_keeps {I : WorkflowManager → Prop} {windows : Bool}
    (h : ∀ request, Keeps I (WorkflowManager.serve newUuid windows request)) (manager : WorkflowManager) (call : WorkflowCall)
    (hI : I manager) : I ((workflowManager newUuid windows).step manager call).2 := by
  have hran := (h call.request).state hI call.script
  unfold workflowManager
  dsimp only
  cases hserve : WorkflowManager.serve newUuid windows call.request manager call.script with
  | done value manager' rest =>
    rw [hserve] at hran
    exact hran
  | cut manager' =>
    rw [hserve] at hran
    exact hran

/-- A finished `stop_all`. -/
def StopsAll (c : Call WorkflowManager WorkflowCall (Option (Except String WorkflowOutput))) : Prop :=
  c.input.request = .stopAll ∧ c.output.isSome = true

/-- A `start` that succeeds, or launches a process. -/
def Starts (c : Call WorkflowManager WorkflowCall (Option (Except String WorkflowOutput))) : Prop :=
  ∃ recipeId, c.input.request = .start recipeId ∧
    ((∃ out, c.output = some (.ok out)) ∨ c.after.launched ≠ c.before.launched)

/-- Under any calls, and whatever the supervisors do between the steps of a call: the runs that have not been seen
    to exit are at most `maxActiveRuns`, and at most one for each recipe; there are at most `maxRuns` runs, one for
    each process launched; no uninstall recipe is launched twice; and once a `stop_all` has returned, no start
    succeeds or launches a process. -/
theorem manager_limits (newUuid : Nat → String) (hunique : Function.Injective newUuid) (windows : Bool)
    (policy : WorkflowPolicy) (policyDeadline : Nat) (calls : List WorkflowCall) :
    let final := (workflowManager newUuid windows).final (.configured policy policyDeadline) calls
    final.activeRuns ≤ maxActiveRuns ∧
    (final.runs.Pairwise fun a b => a.2.recipe.id = b.2.recipe.id → a.2.exitObserved = true ∨ b.2.exitObserved = true) ∧
    final.runs.length ≤ maxRuns ∧ final.runs.map (·.2.recipe.id) = final.launched.map (·.1) ∧ final.uninstalls.Nodup ∧
    ((workflowManager newUuid windows).trace (.configured policy policyDeadline) calls).Pairwise
      fun a b => StopsAll a → ¬Starts b := by
  intro final
  have hstart : WorkflowManager.Limits newUuid (.configured policy policyDeadline) :=
    ⟨fun id hid => (nomatch hid), List.nodup_nil, rfl, Nat.zero_le _, Nat.zero_le _, List.Pairwise.nil, List.nodup_nil,
      fun id hid => (nomatch hid)⟩
  have hlimits : WorkflowManager.Limits newUuid final :=
    Machine.inv_final (step_keeps (WorkflowManager.keeps_serve hunique windows)) calls hstart
  refine ⟨hlimits.active, hlimits.single, hlimits.total, hlimits.kept, hlimits.once, ?_⟩
  have hany : ∀ (manager : WorkflowManager) (call : WorkflowCall), True →
      (fun _ : WorkflowManager => True) ((workflowManager newUuid windows).step manager call).2 := fun _ _ h => h
  refine Machine.never_after (P := fun manager => manager.policy = none) hany ?_ ?_ ?_ calls trivial
  · rintro manager ⟨request, script⟩ _ ⟨hrequest, hdone⟩
    have hrequest : request = .stopAll := hrequest
    subst hrequest
    have hran := WorkflowManager.triple_serve_stopAll newUuid windows manager script trivial
    rw [Machine.call_output] at hdone
    unfold workflowManager at hdone ⊢
    dsimp only at hdone ⊢
    cases hserve : WorkflowManager.serve newUuid windows .stopAll manager script with
    | done value manager' rest =>
      rw [hserve] at hran
      exact hran
    | cut manager' =>
      rw [hserve] at hdone
      cases hdone
  · intro manager call _ hclosed
    exact (step_keeps (I := WorkflowManager.Closed manager.launched)
      (WorkflowManager.keeps_serve_closed newUuid windows) manager call ⟨hclosed, rfl⟩).1
  · rintro manager ⟨request, script⟩ _ hclosed ⟨recipeId, hrequest, hstarts⟩
    have hrequest : request = .start recipeId := hrequest
    subst hrequest
    have hsame := step_keeps (WorkflowManager.keeps_serve_closed newUuid windows) manager ⟨.start recipeId, script⟩ ⟨hclosed, rfl⟩
    rcases hstarts with ⟨out, hout⟩ | hlaunched
    · have hran := WorkflowManager.triple_serve_start newUuid windows recipeId manager script ⟨hclosed, rfl⟩
      rw [Machine.call_output] at hout
      unfold workflowManager at hout
      dsimp only at hout
      cases hserve : WorkflowManager.serve newUuid windows (.start recipeId) manager script with
      | done value manager' rest =>
        rw [hserve] at hran hout
        exact hran out (Option.some.inj hout)
      | cut manager' =>
        rw [hserve] at hout
        cases hout
    · exact hlaunched hsame.2

/-! ### One uninstall -/

namespace WorkflowSample

def policy : WorkflowPolicy := ⟨1000, [⟨"remove-editor", .uninstall, [0], 60000, true⟩]⟩

def observation (waited : Waited) : RunObservation := ⟨.empty, waited, 10, 10, 10, true, true⟩

/-- The child lives until its run is refreshed a second time. -/
def turn (waited : Waited) : WorkflowAnswer :=
  .turn ⟨.ok (), .ok (), 10, 10, true, some 7, 10, true, [], observation waited, observation waited⟩

/-- The recipe is started, its process exits, and everything is stopped before it is started again. -/
def calls : List WorkflowCall :=
  [⟨.start "remove-editor", [turn .alive, turn .alive, turn .alive]⟩, ⟨.status "workflow-0f8fad5b-d9cb-469f-a165-708677289500",
      [turn (.exited (some 1))]⟩, ⟨.stopAll, List.replicate 5 (turn .alive)⟩, ⟨.start "remove-editor", [turn .alive]⟩]

end WorkflowSample

theorem manager_limits_uninstall :
    let m := workflowManager BrokerSample.uuid true
    let final := m.final (.configured WorkflowSample.policy 1000) WorkflowSample.calls
    final.launched = [("remove-editor", .uninstall)] ∧ final.policy = none ∧ final.activeRuns ≤ maxActiveRuns ∧
    final.runs.length ≤ maxRuns ∧ final.uninstalls.Nodup ∧
    (m.trace (.configured WorkflowSample.policy 1000) WorkflowSample.calls).Pairwise fun a b => StopsAll a → ¬Starts b := by
  intro m final
  obtain ⟨hactive, -, htotal, -, honce, hstopped⟩ := manager_limits BrokerSample.uuid BrokerSample.uuid_injective true
    WorkflowSample.policy 1000 WorkflowSample.calls
  exact ⟨by decide, by decide, hactive, htotal, honce, hstopped⟩

end DccCua
