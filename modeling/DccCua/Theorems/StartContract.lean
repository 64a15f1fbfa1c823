import DccCua.Cli.StartContract
import DccCua.Theorems.Lease
import DccCua.Theorems.TaskSafety

/-! # A launched task is within its scope

Three validators look at the scope of an owned workflow: the one of the policy at startup looks at the ceiling of a
recipe, the one before the launch at the request, and the one of the broker at the registration that comes of it. What
passes the first two passes the third, which is then left with times only. -/

namespace DccCua

open Checks

/-! ### Sets -/

theorem dedup_length_iff {α : Type} [DecidableEq α] {l : List α} : l.dedup.length = l.length ↔ l.Nodup := by
  constructor
  · intro hlength
    rw [← List.dedup_eq_self]
    exact (List.dedup_sublist l).eq_of_length hlength
  · intro hnodup
    rw [hnodup.dedup]

theorem actionsClosed_iff {env : Env} {actions : List TrustedTaskActionScope} :
    actionsClosed env actions = true ↔ actions.Nodup ∧ actions.length ≤ maxTaskAuthorizationActions ∧
      ∀ scope ∈ actions, scope.validate env = true := by
  simp only [actionsClosed, Bool.and_eq_true, beq_iff_eq, decide_eq_true_iff, List.all_eq_true, List.mem_dedup, dedup_length_iff, and_assoc]
  refine and_congr_right fun hnodup => ?_
  rw [hnodup.dedup]

theorem methodsClosed_iff {methods : List String} :
    methodsClosed methods = true ↔ methods ≠ [] ∧ methods.Nodup ∧ methods.length ≤ 64 ∧
      ∀ method ∈ methods, isTaskAuthorizableHostMethod method = true := by
  simp only [methodsClosed, Bool.and_eq_true, Bool.not_eq_true', beq_iff_eq, decide_eq_true_iff, List.all_eq_true, List.mem_dedup,
    dedup_length_iff, List.isEmpty_eq_false_iff, and_assoc]
  rw [and_left_comm, and_left_comm (a := methods ≠ [])]
  refine and_congr_right fun hnodup => ?_
  rw [hnodup.dedup]

theorem originsClosed_iff {env : Env} {origins : List String} :
    originsClosed env origins = true ↔ origins.Nodup ∧ origins.length ≤ maxTaskAuthorizationActions ∧
      ∀ origin ∈ origins, validBrowserOrigin env origin = true := by
  simp only [originsClosed, Bool.and_eq_true, beq_iff_eq, decide_eq_true_iff, List.all_eq_true, List.mem_dedup, dedup_length_iff, and_assoc]
  refine and_congr_right fun hnodup => ?_
  rw [hnodup.dedup]

/-- The origin of a closed action is exact. -/
theorem origin_of_validate {env : Env} {scope : TrustedTaskActionScope} (h : scope.validate env = true) :
    ∀ origin, scope.browserOrigin = some origin → validBrowserOrigin env origin = true := by
  intro origin horigin
  unfold TrustedTaskActionScope.validate at h
  split at h
  · simp [TrustedTaskActionScope.isWindowMinimize, TrustedTaskActionScope.isNativeCapturePopupKeyboard,
      TrustedTaskActionScope.isWindowFrame, TrustedTaskActionScope.isNativeMenuDismiss, TrustedTaskActionScope.isCapturePreparation,
      TrustedTaskActionScope.isWindowState, horigin] at h
  · simpa [horigin] using (Bool.and_eq_true_iff.mp h).2
  · simp [horigin] at h
  · simp [horigin] at h
  · simp [horigin] at h
  · cases h

/-! ### The policy -/

namespace WorkflowPolicyFile

variable {env : Env} {policy : WorkflowPolicyFile} {recipe : PolicyRecipe}

/-- What the broker's validator says of the ceiling of a recipe. -/
structure Closed (env : Env) (recipe : PolicyRecipe) : Prop where
  methods : ∀ method ∈ recipe.allowedMethods, isTaskAuthorizableHostMethod method = true
  actions : ∀ scope ∈ recipe.allowedActions, scope.validate env = true

theorem closed_of_validate {r : RecipeReading} {u : Unit} (h : recipe.validate env r = .ok u) : Closed env recipe := by
  simp only [PolicyRecipe.validate, bind_eq_ok, mapError_eq_ok] at h
  obtain ⟨_, hregistration, -⟩ := h
  have hregistrable := Broker.validateRegistration_eq_ok.mp hregistration
  exact ⟨(methodsClosed_iff.mp hregistrable.methods).2.2.2, (actionsClosed_iff.mp hregistrable.actions).2.2⟩

theorem closed_of_validateRecipes {readings : Nat → RecipeReading} {u : Unit} : ∀ {recipes : List PolicyRecipe} {position : Nat}
    {seen : List String}, validateRecipes env readings position seen recipes = .ok u → ∀ recipe ∈ recipes, Closed env recipe
  | [], _, _, _, _, hmem => by cases hmem
  | recipe :: rest, position, seen, h, _, hmem => by
    simp only [validateRecipes, bind_eq_ok] at h
    obtain ⟨_, hvalid, _, -, hrest⟩ := h
    rcases List.mem_cons.mp hmem with rfl | hmem
    · exact closed_of_validate hvalid
    · exact closed_of_validateRecipes hrest _ hmem

theorem closed_of_accept {environmentId sessionId : String} {loading : Loading} {deadline : Nat}
    (h : policy.accept env environmentId sessionId loading = .ok deadline) : ∀ recipe ∈ policy.recipes, Closed env recipe := by
  simp only [accept, bind_eq_ok] at h
  obtain ⟨_, -, _, hrecipes, -⟩ := h
  exact closed_of_validateRecipes hrecipes

/-- A recipe authorizes what is in its ceiling. -/
theorem within_of_authorizes {deadline : Nat} {id : String} {methods : List String} {actions : List TrustedTaskActionScope}
    {clocks later : Clocks} {u : Unit} (h : policy.guiRecipeAuthorizes deadline id methods actions clocks later = .ok u) :
    ∃ recipe ∈ policy.recipes, (∀ method ∈ methods, method ∈ recipe.allowedMethods) ∧
      ∀ scope ∈ actions, scope ∈ recipe.allowedActions := by
  simp only [guiRecipeAuthorizes, recipeAuthorizes, bind_eq_ok, require_eq_ok, Bool.and_eq_true, List.all_eq_true,
    List.contains_iff_mem] at h
  obtain ⟨_, ⟨recipe, hfound, hwithin⟩, -⟩ := h
  refine ⟨recipe, ?_, hwithin⟩
  unfold WorkflowPolicyFile.recipe at hfound
  split at hfound
  · cases hfound
  · split at hfound
    · cases hfound
    · cases hfound
      exact List.mem_of_find?_eq_some ‹_›

end WorkflowPolicyFile

/-! ### The request -/

namespace PrepareTaskInput

variable {input : PrepareTaskInput}

/-- The target that the Host derives is put in the place of the caller's. -/
def derived (input : PrepareTaskInput) (processId windowHandle : Nat) : PrepareTaskInput :=
  { input with targetProcessId := some processId, targetWindowHandle := some windowHandle }

/-- What is looked at before the launch for a target that is to be derived is what is looked at afterwards. -/
theorem validateTaskStart_derived {processId windowHandle : Nat} (hprocess : processId ≠ 0) (hwindow : windowHandle ≠ 0) :
    (input.derived processId windowHandle).validateTaskStart false = input.validateTaskStart true := by
  have hpixels : (input.derived processId windowHandle).validatePixels false = input.validatePixels true := by
    have hnamed : (false || (namesTarget (some processId) && namesTarget (some windowHandle))) = true := by
      simp [namesTarget, hprocess, hwindow]
    unfold validatePixels derived
    dsimp only
    rw [hnamed, Bool.true_or]
  unfold validateTaskStart
  rw [hpixels]
  rfl

/-- What of a start the broker's validator asks for again. -/
structure Startable (input : PrepareTaskInput) : Prop where
  label : Text.printable input.applicationLabel maxApplicationLabelChars = true
  actionsNodup : input.allowedActions.Nodup
  actionsBound : input.allowedActions.length ≤ maxTaskAuthorizationActions
  methods : input.allowedMethods ≠ []
  methodsNodup : input.allowedMethods.Nodup
  methodsBound : input.allowedMethods.length ≤ maxAllowedMethods
  preparation : input.allowCapturePreparation = preparationRequested input.allowedMethods
  preparationActions : input.allowCapturePreparation = input.allowedActions.any (·.isCapturePreparation)

theorem startable_of_validate {hostDerivedTarget : Bool} {origins : List String}
    (h : input.validateTaskStart hostDerivedTarget = .ok origins) : input.Startable ∧ origins = input.browserOrigins := by
  simp only [validateTaskStart, validateAllowedMethods, validatePreparation, bind_eq_ok, require_eq_ok, Bool.not_eq_true',
    Bool.or_eq_false_iff, Bool.and_eq_true, decide_eq_true_iff, decide_eq_false_iff_not, not_not, Nat.not_lt, dedup_length_iff,
    List.isEmpty_eq_false_iff] at h
  obtain ⟨_, hlabel, _, ⟨hactions, hbound⟩, _, -, _, ⟨_, hcount, _, hmethods, -⟩, _, -, _, -, _, ⟨⟨hpreparation, hprepares⟩, -⟩,
    _, -, _, -, _, -, horigins⟩ := h
  rw [hactions.dedup] at hbound
  refine ⟨⟨?_, hactions, hbound, hcount.1, hmethods, hcount.2, hpreparation, hprepares⟩, (Except.ok.inj horigins).symm⟩
  simpa [Text.printable, and_assoc] using hlabel

theorem mem_browserOrigins (hnone : input.allowedBrowserOrigins = []) {origin : String} :
    origin ∈ input.browserOrigins ↔ ∃ scope ∈ input.allowedActions, scope.browserOrigin = some origin := by
  rw [browserOrigins, hnone, List.mem_mergeSort, List.mem_dedup, List.nil_append, List.mem_filterMap]

theorem nodup_browserOrigins : input.browserOrigins.Nodup :=
  (List.mergeSort_perm _ _).nodup_iff.mpr (List.nodup_dedup _)

theorem length_browserOrigins (hnone : input.allowedBrowserOrigins = []) : input.browserOrigins.length ≤ input.allowedActions.length := by
  rw [browserOrigins, hnone, List.length_mergeSort, List.nil_append]
  exact Nat.le_trans (List.dedup_sublist _).length_le (List.length_filterMap_le _ _)

end PrepareTaskInput

/-! ### The registration -/

/-- The time that the broker leaves to a registration. -/
def Timely (now expiresAtUnixMs : Nat) : Prop := now < expiresAtUnixMs ∧ expiresAtUnixMs - now ≤ maxTaskAuthorizationTtlMs

def expiryRefusal : TrustedTaskAuthorizationBrokerError :=
  .invalidRegistration "expiry must be in the future and no more than 24 hours away"

/-- After the identities the validator looks at the times. -/
theorem validateRegistration_late {env : Env} {fs : FileSystem} {now : Nat} {registration : TrustedTaskAuthorizationRegistration}
    (hconnection : registration.connectionId = none) (htask : registration.taskId = none)
    (hgrant : Text.printable registration.taskGrantId maxTaskGrantIdChars = true)
    (hlabel : Text.printable registration.applicationLabel maxApplicationLabelChars = true)
    (htarget : registration.target.isNonzero = true) (hlate : ¬Timely now registration.expiresAtUnixMs) :
    Broker.validateRegistration env fs now registration = .error expiryRefusal := by
  have htime : (!(registration.expiresAtUnixMs ≤ now || maxTaskAuthorizationTtlMs < registration.expiresAtUnixMs - now)) = false := by
    unfold Timely at hlate
    simp only [Bool.not_eq_false', Bool.or_eq_true, decide_eq_true_iff]
    omega
  unfold Broker.validateRegistration Broker.validateIdentity
  rw [hconnection, htask, hgrant, hlabel, htarget, htime]
  rfl

/-- The registration of a launched task. -/
def launchedRegistration (input : PrepareTaskInput) (processId windowHandle : Nat) (grantId : String) (expiresAtUnixMs : Nat) :
    TrustedTaskAuthorizationRegistration where
  connectionId := none
  taskId := none
  taskGrantId := grantId
  applicationLabel := input.applicationLabel
  target := .exactWindow processId windowHandle
  allowedHostMethods := input.allowedMethods
  allowedActions := input.allowedActions
  allowedBrowserOrigins := input.browserOrigins
  browserScope := none
  recordingOutputDir := none
  capturePreparation := none
  expiresAtUnixMs := expiresAtUnixMs

/-- What has been checked of a request before its process is launched. -/
structure Cleared (env : Env) (input : PrepareTaskInput) : Prop where
  request : input.isWorkflowRequest = true
  startable : input.Startable
  methods : ∀ method ∈ input.allowedMethods, isTaskAuthorizableHostMethod method = true
  actions : ∀ scope ∈ input.allowedActions, scope.validate env = true

section Launched
variable {env : Env} {input : PrepareTaskInput} {processId windowHandle now expiresAtUnixMs : Nat} {fs : FileSystem} {grantId : String}

theorem Cleared.noOrigins (h : Cleared env input) : input.allowedBrowserOrigins = [] := by
  have hrequest := h.request
  simp only [PrepareTaskInput.isWorkflowRequest, Bool.and_eq_true, List.isEmpty_iff] at hrequest
  exact hrequest.1.1.1.1.1.2

theorem Cleared.permissions (h : Cleared env input) : input.allowRecording = false ∧ input.allowCapturePreparation = false ∧
    input.allowNativeCapturePopupKeyboard = false ∧ input.ownedBrowserLaunch = none := by
  have hrequest := h.request
  simp only [PrepareTaskInput.isWorkflowRequest, Bool.and_eq_true, Bool.not_eq_true', Option.isNone_iff_eq_none] at hrequest
  obtain ⟨⟨⟨⟨⟨⟨⟨_, hlaunch⟩, _⟩, hrecording⟩, hpreparation⟩, hpopup⟩, -⟩, -⟩ := hrequest
  exact ⟨hrecording, hpreparation, hpopup, hlaunch⟩

theorem Cleared.origins (h : Cleared env input) : originsClosed env input.browserOrigins = true := by
  refine originsClosed_iff.mpr ⟨PrepareTaskInput.nodup_browserOrigins, ?_, fun origin horigin => ?_⟩
  · exact Nat.le_trans (PrepareTaskInput.length_browserOrigins h.noOrigins) h.startable.actionsBound
  · obtain ⟨scope, hscope, hsome⟩ := (PrepareTaskInput.mem_browserOrigins h.noOrigins).mp horigin
    exact origin_of_validate (h.actions scope hscope) origin hsome

/-- The registration of a cleared request is accepted in time. -/
theorem Cleared.registrable (h : Cleared env input) (hprocess : processId ≠ 0) (hwindow : windowHandle ≠ 0)
    (hgrant : Text.printable grantId maxTaskGrantIdChars = true) (htimely : Timely now expiresAtUnixMs) :
    Broker.Registrable env fs now (launchedRegistration input processId windowHandle grantId expiresAtUnixMs) where
  connectionId := nofun
  taskId := nofun
  taskGrantId := hgrant
  applicationLabel := h.startable.label
  target := by simp [launchedRegistration, TrustedTaskAuthorizationTarget.isNonzero, hprocess, hwindow]
  unexpired := htimely.1
  ttl := htimely.2
  actions := actionsClosed_iff.mpr ⟨h.startable.actionsNodup, h.startable.actionsBound, h.actions⟩
  methods := methodsClosed_iff.mpr
    ⟨h.startable.methods, h.startable.methodsNodup, Nat.le_trans h.startable.methodsBound (by decide), h.methods⟩
  preparationMethods := h.startable.preparation.symm.trans h.permissions.2.1
  preparationActions := h.startable.preparationActions.symm.trans h.permissions.2.1
  preparation := rfl
  recording := rfl
  origins := h.origins
  browserScope := rfl

/-- The broker's validator is left with the times. -/
theorem Cleared.validated (h : Cleared env input) (hprocess : processId ≠ 0) (hwindow : windowHandle ≠ 0)
    (hgrant : Text.printable grantId maxTaskGrantIdChars = true) {e : TrustedTaskAuthorizationBrokerError}
    (hrefused : Broker.validateRegistration env fs now (launchedRegistration input processId windowHandle grantId expiresAtUnixMs) = .error e) :
    e = expiryRefusal ∧ ¬Timely now expiresAtUnixMs := by
  have hlate : ¬Timely now expiresAtUnixMs := by
    intro htimely
    rw [Broker.validateRegistration_eq_ok.mpr (h.registrable hprocess hwindow hgrant htimely)] at hrefused
    cases hrefused
  refine ⟨?_, hlate⟩
  rw [validateRegistration_late rfl rfl hgrant h.startable.label
    (by simp [launchedRegistration, TrustedTaskAuthorizationTarget.isNonzero, hprocess, hwindow]) hlate] at hrefused
  exact (Except.error.inj hrefused).symm

end Launched

/-! ### The task -/

namespace BrokerState

variable {uuid : Nat → String} {authorizations : Std.TreeMap String BrokerRecord}

theorem contains_of_freshAuthorizationId : ∀ {fuel drawn : Nat}, freshAuthorizationId uuid authorizations fuel drawn = none →
    ∀ i < fuel, authorizations.contains (authorizationId uuid (drawn + i)) = true
  | 0, _, _, _, hi => absurd hi (Nat.not_lt_zero _)
  | fuel + 1, drawn, h, i, hi => by
    unfold freshAuthorizationId at h
    split at h
    · rename_i hcontains
      cases i with
      | zero => exact hcontains
      | succ i =>
        have hlater := contains_of_freshAuthorizationId h i (Nat.lt_of_succ_lt_succ hi)
        rwa [Nat.succ_add_eq_add_succ] at hlater
    · cases h

/-- One draw more than the map has entries finds an identity. -/
theorem freshAuthorizationId_ne_none (huuid : Function.Injective uuid) (drawn : Nat) :
    freshAuthorizationId uuid authorizations (authorizations.size + 1) drawn ≠ none := by
  intro hnone
  have hcontains := contains_of_freshAuthorizationId hnone
  let drawnIds := (List.range (authorizations.size + 1)).map fun i => authorizationId uuid (drawn + i)
  have hnodup : drawnIds.Nodup := by
    refine List.Nodup.map (fun i j hij => ?_) List.nodup_range
    have hsame := authorizationId_inj huuid hij
    omega
  have hkeys : drawnIds ⊆ authorizations.keys := by
    intro id hid
    obtain ⟨i, hi, rfl⟩ := List.mem_map.mp hid
    exact Std.TreeMap.mem_keys.mpr (hcontains i (List.mem_range.mp hi))
  have hlength := hnodup.length_le_of_subset hkeys
  rw [List.length_map, List.length_range, Std.TreeMap.length_keys] at hlength
  omega

end BrokerState

/-- `Uuid::new_v4`, displayed. -/
def IsUuid (text : String) : Prop := text.toList.length = 36 ∧ ∀ c ∈ text.toList, c ∈ "0123456789abcdef-".toList

theorem uuid_plain {c : Char} (h : c ∈ "0123456789abcdef-".toList) : Text.plainChar c = true :=
  List.all_eq_true.mp (show "0123456789abcdef-".toList.all Text.plainChar = true by decide) c h

/-- The id of a grant is bounded printable text. -/
theorem printable_grantId {text : String} (h : IsUuid text) : Text.printable ("task-grant-" ++ text) maxTaskGrantIdChars = true := by
  have hlength : ("task-grant-" ++ text).length = 47 := by
    rw [← String.length_toList, String.toList_append, List.length_append, h.1]
    rfl
  refine Text.printable_of_plain ?_ (fun hempty => ?_) (by rw [hlength]; decide)
  · rw [String.toList_append, List.all_append, Bool.and_eq_true]
    exact ⟨by decide, List.all_eq_true.mpr fun c hc => uuid_plain (h.2 c hc)⟩
  · rw [hempty] at hlength
    cases hlength

/-- The end of a launched task: that of the request, or of the policy. -/
def launchedExpiry (policy : WorkflowPolicyFile) (input : PrepareTaskInput) (t : TaskTurn) : Nat :=
  min (min (t.preparedMs + input.ttlMinutes * 60000) (2 ^ 64 - 1)) policy.expiresAtUnixMs

/-- The refusals of a launched task that its scope has no part in. -/
inductive Unscoped (env : Env) (policy : WorkflowPolicyFile) (input : PrepareTaskInput) (t : TaskTurn) (server : TaskServer) :
    TaskError → Prop where
  /-- The process is no longer that of the workflow. -/
  | process (message : String) : t.processScope = .error message → Unscoped env policy input t server (.refused message)
  | capacity : maxPendingTasks ≤ (server.retainTasks t.capacityMs).proposals.length → Unscoped env policy input t server .capacity
  | deadline (message : String) : t.authorizationDeadline = .error message → Unscoped env policy input t server (.refused message)
  | expired (now : Nat) : (now = t.validateMs ∨ now = t.register.validateNow) → ¬Timely now (launchedExpiry policy input t) →
      Unscoped env policy input t server (.broker expiryRefusal)
  | retained (deadline : Nat) : t.authorizationDeadline = .ok deadline →
      ((BrokerState.newFence env (launchedExpiry policy input t) (some deadline) t.register.fence).admitAt t.register.admission).1 = false →
      Unscoped env policy input t server (.broker (.invalidRegistration "the retained task deadline has expired"))
  | room : Broker.maxBrokerAuthorizations ≤ (server.broker.prune t.register.now).authorizations.size →
      Unscoped env policy input t server (.broker .unavailable)

section Preparation
variable {env : Env} {uuid newUuid : Nat → String} {policy : WorkflowPolicyFile} {input : PrepareTaskInput} {t : TaskTurn}
  {server : TaskServer} {processId windowHandle : Nat} {e : TaskError}

/-- For a cleared request the optional permissions drop out of the registration. -/
theorem Cleared.newRegistration_eq (h : Cleared env input) {grantId : String} (hpolicy : t.policyExpiresAtUnixMs = some policy.expiresAtUnixMs) :
    TaskServer.newRegistration env (input.derived processId windowHandle) true input.browserOrigins
        (.exactWindow processId windowHandle) grantId t =
      (do
        let deadline ← mapError .refused t.authorizationDeadline
        mapError .broker (Broker.validateRegistration env t.fs t.validateMs
          (launchedRegistration input processId windowHandle grantId (launchedExpiry policy input t)))
        .ok (launchedRegistration input processId windowHandle grantId (launchedExpiry policy input t), some deadline)) := by
  obtain ⟨hrecording, hpreparation, hpopup, -⟩ := h.permissions
  have hactions : (input.derived processId windowHandle).actions = input.allowedActions := if_neg (by simp [PrepareTaskInput.derived, hpopup])
  have hexpiry : TaskServer.taskExpiry (input.derived processId windowHandle) true t = .ok (launchedExpiry policy input t) := by
    unfold TaskServer.taskExpiry
    rw [hpolicy]
    rfl
  have hdirectory : ∀ registration, TaskServer.withRecording env (input.derived processId windowHandle) registration t = .ok registration :=
    fun registration => if_neg (by simp [PrepareTaskInput.derived, hrecording])
  have hjournal : (input.derived processId windowHandle).allowCapturePreparation = false := hpreparation
  unfold TaskServer.newRegistration
  rw [hactions, hexpiry, hjournal]
  simp only [hdirectory]
  cases t.authorizationDeadline <;> rfl

theorem Cleared.registered (h : Cleared env input) (huuid : Function.Injective uuid) (hprocess : processId ≠ 0) (hwindow : windowHandle ≠ 0)
    {grantId : String} (hgrant : Text.printable grantId maxTaskGrantIdChars = true) {deadline : Nat} (hdeadline : t.authorizationDeadline = .ok deadline)
    {refusal : TrustedTaskAuthorizationBrokerError} (hrefused : (server.broker.register env uuid t.fs
      (launchedRegistration input processId windowHandle grantId (launchedExpiry policy input t)) (some deadline) t.register).1 = .error refusal) :
    Unscoped env policy input t server (.broker refusal) := by
  unfold BrokerState.register at hrefused
  split at hrefused
  · rename_i refusal' hinvalid
    obtain rfl := Except.error.inj hrefused
    obtain ⟨rfl, hlate⟩ := h.validated hprocess hwindow hgrant hinvalid
    exact .expired t.register.validateNow (Or.inr rfl) hlate
  · dsimp only at hrefused
    split at hrefused
    · rename_i hfull
      obtain rfl := Except.error.inj hrefused
      exact .room hfull
    · split at hrefused
      · rename_i hnone
        exact absurd hnone (BrokerState.freshAuthorizationId_ne_none huuid _)
      · split at hrefused
        · rename_i hinactive
          obtain rfl := Except.error.inj hrefused
          rw [Bool.not_eq_true'] at hinactive
          exact .retained deadline hdeadline hinactive
        · cases hrefused

/-- What a cleared request is refused for is not its scope. -/
theorem Cleared.prepared (h : Cleared env input) (huuid : Function.Injective uuid) (hids : ∀ n, IsUuid (newUuid n))
    (hprocess : processId ≠ 0) (hwindow : windowHandle ≠ 0) (hpolicy : t.policyExpiresAtUnixMs = some policy.expiresAtUnixMs)
    (hchecks : t.startChecks = .ok input.browserOrigins) (hrefused : (TaskServer.prepareScopedTask env uuid newUuid
      (input.derived processId windowHandle) true t server).1 = .error e) : Unscoped env policy input t server e := by
  have hlaunch := h.permissions.2.2.2
  have htarget : (input.derived processId windowHandle).target input.browserOrigins = .ok (.exactWindow processId windowHandle) := by
    unfold PrepareTaskInput.target PrepareTaskInput.derived
    dsimp only
    rw [hlaunch]
  have hscope : (input.derived processId windowHandle).scope t =
      t.processScope.map fun _ => (input.browserOrigins, .exactWindow processId windowHandle) := by
    unfold PrepareTaskInput.scope
    rw [hchecks]
    simp only [PrepareTaskInput.derived, Option.isSome_some, if_true]
    cases t.processScope with
    | error _ => rfl
    | ok _ =>
      show (do
        let target ← (input.derived processId windowHandle).target input.browserOrigins
        Except.ok (input.browserOrigins, target)) = _
      rw [htarget]
      rfl
  unfold TaskServer.prepareScopedTask at hrefused
  rw [hscope] at hrefused
  cases hprocessScope : t.processScope with
  | error message =>
    rw [hprocessScope] at hrefused
    obtain rfl := Except.error.inj hrefused
    exact .process message hprocessScope
  | ok _ =>
    rw [hprocessScope] at hrefused
    simp only [Except.map, TaskServer.admitTask, TaskServer.ensureTaskCapacity] at hrefused
    by_cases hcapacity : maxPendingTasks ≤ (server.retainTasks t.capacityMs).proposals.length
    · rw [if_pos hcapacity] at hrefused
      obtain rfl := Except.error.inj hrefused
      exact .capacity hcapacity
    · have hgrant := printable_grantId (hids ((server.retainTasks t.capacityMs).drawn + 1))
      rw [if_neg hcapacity] at hrefused
      dsimp only at hrefused
      rw [h.newRegistration_eq hpolicy] at hrefused
      cases hdeadline : t.authorizationDeadline with
      | error message =>
        rw [hdeadline] at hrefused
        obtain rfl := Except.error.inj hrefused
        exact .deadline message hdeadline
      | ok deadline =>
        rw [hdeadline] at hrefused
        cases hvalid : Broker.validateRegistration env t.fs t.validateMs (launchedRegistration input processId windowHandle
            ("task-grant-" ++ newUuid ((server.retainTasks t.capacityMs).drawn + 1)) (launchedExpiry policy input t)) with
        | error refusal =>
          obtain ⟨rfl, hlate⟩ := h.validated hprocess hwindow hgrant hvalid
          rw [hvalid] at hrefused
          obtain rfl := Except.error.inj hrefused
          exact .expired t.validateMs (Or.inl rfl) hlate
        | ok _ =>
          rw [hvalid] at hrefused
          dsimp only [mapError, bind, Except.bind] at hrefused
          split at hrefused
          · rename_i refusal hregister
            obtain rfl := Except.error.inj hrefused
            exact h.registered huuid hprocess hwindow hgrant hdeadline hregister
          · cases hrefused

end Preparation

/-- What passes the checks before the launch is not refused for its scope after it: the policy as it was accepted at
    startup, the request and the recipe's ceiling are looked at, a process is launched, and its task is prepared for the
    window that was found. -/
theorem launched_scope_holds (env : Env) (uuid newUuid : Nat → String) (huuid : Function.Injective uuid) (hids : ∀ n, IsUuid (newUuid n))
    (policy : WorkflowPolicyFile) (environmentId sessionId : String) (loading : WorkflowPolicyFile.Loading) (policyDeadline : Nat)
    (haccepted : policy.accept env environmentId sessionId loading = .ok policyDeadline)
    (input : PrepareTaskInput) (recipeId : String) (before : TaskTurn) (clocks later : WorkflowPolicyFile.Clocks)
    (hchecks : TaskServer.workflowChecks input { before with startChecks := input.validateTaskStart true } = .ok ())
    (hrecipe : policy.guiRecipeAuthorizes policyDeadline recipeId input.allowedMethods input.allowedActions clocks later = .ok ())
    (processId windowHandle : Nat) (hprocess : processId ≠ 0) (hwindow : windowHandle ≠ 0) (t : TaskTurn) (server : TaskServer) (e : TaskError)
    (hrefused : (TaskServer.prepareScopedTask env uuid newUuid (input.derived processId windowHandle) true { t with
      startChecks := (input.derived processId windowHandle).validateTaskStart false
      policyExpiresAtUnixMs := some policy.expiresAtUnixMs } server).1 = .error e) :
    Unscoped env policy input t server e := by
  simp only [TaskServer.workflowChecks, bind_eq_ok, require_eq_ok, mapError_eq_ok] at hchecks
  obtain ⟨_, hrequest, origins, hstart, -⟩ := hchecks
  obtain ⟨hstartable, rfl⟩ := PrepareTaskInput.startable_of_validate hstart
  obtain ⟨recipe, hmem, hmethods, hactions⟩ := WorkflowPolicyFile.within_of_authorizes hrecipe
  have hclosed := WorkflowPolicyFile.closed_of_accept haccepted recipe hmem
  have hcleared : Cleared env input := ⟨hrequest, hstartable, fun method hmethod => hclosed.methods method (hmethods method hmethod),
    fun scope hscope => hclosed.actions scope (hactions scope hscope)⟩
  rw [PrepareTaskInput.validateTaskStart_derived hprocess hwindow, hstart] at hrefused
  have hunscoped := hcleared.prepared huuid hids hprocess hwindow rfl rfl hrefused
  cases hunscoped with
  | process message h => exact .process message h
  | capacity h => exact .capacity h
  | deadline message h => exact .deadline message h
  | expired now hnow h => exact .expired now hnow h
  | retained deadline hdeadline h => exact .retained deadline hdeadline h
  | room h => exact .room h

/-- While the clock of the task stands before its ends, and the policy has not expired, the broker leaves it its time. -/
theorem timely_launched {policy : WorkflowPolicyFile} {input : PrepareTaskInput} {t : TaskTurn} {now : Nat}
    (hminutes : 1 ≤ input.ttlMinutes ∧ input.ttlMinutes ≤ maxTtlMinutes) (hafter : t.preparedMs ≤ now)
    (hwithin : now < t.preparedMs + 60000) (hmax : now < 2 ^ 64 - 1) (hpolicy : now < policy.expiresAtUnixMs) :
    Timely now (launchedExpiry policy input t) := by
  unfold Timely launchedExpiry maxTaskAuthorizationTtlMs
  unfold maxTtlMinutes at hminutes
  omega

/-! ### A policy that expires while its process starts -/

namespace StartSample

def policy : WorkflowPolicyFile where
  version := 1
  environmentId := "lab"
  sessionId := "host"
  expiresAtUnixMs := 2000
  recipes := [{
    id := "install-editor"
    kind := .install
    allowedExitCodes := [0]
    timeoutMs := 60000
    allowCancel := true
    executableSha256 := String.ofList (List.replicate 64 'a')
    arguments := []
    result := ⟨true, none⟩
    gui := true
    allowedMethods := ["snapshot", "find"]
    allowedActions := [] }]

def loading : WorkflowPolicyFile.Loading := ⟨1000, 1000, fun _ => ⟨1000, BrokerSample.fs, .ok ()⟩, 1000, 1000⟩

def input : PrepareTaskInput := { TaskSample.input with targetProcessId := none, targetWindowHandle := none }

theorem isUuid_sample : IsUuid (BrokerSample.uuid 0) := by
  have hchars : (BrokerSample.uuid 0).toList.all (· ∈ "0123456789abcdef-".toList) = true := by decide
  exact ⟨by decide, fun c hc => of_decide_eq_true (List.all_eq_true.mp hchars c hc)⟩

end StartSample

theorem launched_scope_holds_expired : Unscoped BrokerSample.env StartSample.policy StartSample.input (TaskSample.turn 3000 0)
    (TaskServer.initial 0 0) (.broker expiryRefusal) :=
  launched_scope_holds BrokerSample.env BrokerSample.uuid (fun _ => BrokerSample.uuid 0) BrokerSample.uuid_injective
    (fun _ => StartSample.isUuid_sample) StartSample.policy "lab" "host" StartSample.loading 1000001000 (by decide)
    StartSample.input "install-editor" (TaskSample.turn 1000 0) ⟨1000, 1000⟩ ⟨1000, 1000⟩ rfl (by decide) 7 9 (by decide)
    (by decide) (TaskSample.turn 3000 0) (TaskServer.initial 0 0) _ rfl

end DccCua
