import DccCua.Lib.Checks
import DccCua.Lib.Runs
import DccCua.Lib.Script

/-! # Workflow runs

`workflow.rs` of `dcc-cua-cli`: the manager of the recipes that the owner of the Host has pinned, and the runs of
their child processes. A run is shared with its supervisor thread; both hold its lock while they refresh it. What
a thread reads while it holds the lock (the clocks, the child, the channel of the result check) is an answer of
the environment, and between two locks of the manager the supervisors refresh their runs as often as they like.
Instants are in nanoseconds. No code panics under a lock, so that no mutex is poisoned.

The pins of the files that a recipe names, the environment of the child and the result check itself are answers:
the manager goes by whether they succeed. -/

namespace DccCua

open Runs Checks Script

def maxRuns : Nat := 128

def maxActiveRuns : Nat := 32

inductive WorkflowKind where
  | install
  | uninstall
  deriving DecidableEq, Repr

/-- The fields of a recipe that the manager reads after its file has been validated. -/
structure Recipe where
  id : String
  kind : WorkflowKind
  allowedExitCodes : List Int
  timeoutMs : Nat
  allowCancel : Bool
  deriving DecidableEq, Repr

structure WorkflowPolicy where
  expiresAtUnixMs : Nat
  recipes : List Recipe
  deriving DecidableEq, Repr

inductive WorkflowState where
  | running
  | verifying
  | succeeded
  | failed
  | outcomeUnknown
  | expired
  | timedOut
  | cancelled
  deriving DecidableEq, Repr

/-- The receiver of the result check is live as long as this is there. -/
structure Verification where
  deadline : Nat
  deriving DecidableEq, Repr

/-- What has happened to a run. No function reads it. -/
inductive RunEvent where
  | exited (code : Option Int)
  /-- `child.kill()` was called. -/
  | killed
  /-- The result check said that the result holds; the clocks were read just before. -/
  | verified (instant unixMs : Nat)
  deriving DecidableEq, Repr

structure RunState where
  childId : Nat
  /-- `_directories`. -/
  directories : Bool
  recipe : Recipe
  deadline : Nat
  policyExpiry : Nat
  policyDeadline : Nat
  state : WorkflowState
  reason : Option String
  exitCode : Option Int
  exitObserved : Bool
  resultVerified : Bool
  cancellationRequested : Bool
  terminationReason : Option WorkflowState
  verification : Option Verification
  history : List RunEvent
  deriving DecidableEq, Repr

/-! ### Refresh -/

/-- An answer of `try_recv`. -/
inductive Received where
  | result (outcome : Except String Bool)
  | empty
  | disconnected

/-- An answer of `try_wait`. -/
inductive Waited where
  | exited (code : Option Int)
  | alive
  | unavailable
  deriving DecidableEq, Repr

/-- What the environment says during one refresh. The monotonic clock is read up to twice. -/
structure RunObservation where
  received : Received
  waited : Waited
  unixMs : Nat
  instant : Nat
  instantAgain : Nat
  checkStarted : Bool
  killed : Bool

namespace RunState

def note (event : RunEvent) (run : RunState) : RunState := { run with history := event :: run.history }

def unknown (reason : String) (run : RunState) : RunState :=
  { run with state := .outcomeUnknown, reason := some reason }

/-- The state `verifying`. -/
def readVerification (o : RunObservation) (run : RunState) : RunState :=
  match run.verification with
  | none => run.unknown "result_verification_unavailable"
  | some verification =>
    if verification.deadline ≤ o.instant || run.policyExpiry ≤ o.unixMs then
      run.unknown "result_verification_deadline_elapsed"
    else match o.received with
      | .result (.ok true) =>
        { run.note (.verified o.instant o.unixMs) with
          state := .succeeded, resultVerified := true, verification := none }
      | .result (.ok false) =>
        { run with state := .failed, reason := some "result_verification_failed", verification := none }
      | .result (.error _) | .disconnected =>
        { run.unknown "result_verification_unavailable" with verification := none }
      | .empty => run

/-- The child has exited. -/
def observeExit (o : RunObservation) (code : Option Int) (run : RunState) : RunState :=
  let run := { run.note (.exited code) with exitObserved := true, exitCode := code }
  match run.terminationReason with
  | some reason => { run with state := reason }
  | none =>
    if run.state = .outcomeUnknown then run
    else if !code.any (run.recipe.allowedExitCodes.contains ·) then
      { run with state := .failed, reason := some "unexpected_process_exit" }
    else if !run.directories then run.unknown "result_verification_directory_guards_unavailable"
    else if !o.checkStarted then run.unknown "result_verification_unavailable"
    else { run with state := .verifying, verification := some ⟨min run.deadline run.policyDeadline⟩ }

/-- The child is alive. -/
def enforceLimits (o : RunObservation) (run : RunState) : RunState :=
  if run.state = .outcomeUnknown then run
  else
    let expiry : Bool := run.policyExpiry ≤ o.unixMs || run.policyDeadline ≤ o.instant
    let timeout : Bool := run.deadline ≤ o.instantAgain
    if (expiry || timeout || run.cancellationRequested) && run.terminationReason.isNone then
      if !run.recipe.allowCancel then
        run.unknown (if expiry then "authorization_expired_process_still_running"
          else "deadline_elapsed_process_still_running")
      else if o.killed then
        { run.note .killed with
          terminationReason := some (if expiry then .expired else if timeout then .timedOut else .cancelled) }
      else (run.note .killed).unknown "owned_process_termination_unconfirmed"
    else run

/-- `refresh_state` once no result check is waited for. -/
def refreshProcess (o : RunObservation) (run : RunState) : RunState :=
  if run.exitObserved then run
  else match o.waited with
    | .exited code => run.observeExit o code
    | .unavailable => run.unknown "process_state_unavailable"
    | .alive => run.enforceLimits o

def refreshState (o : RunObservation) (run : RunState) : RunState :=
  if run.state = .verifying then run.readVerification o
  else if run.verification.isNone then run.refreshProcess o
  else match o.received with
    | .empty => run
    -- A late result confirms that the check has ended, and leaves the outcome as it is.
    | _ => { run with verification := none }.refreshProcess o

def refresh (o : RunObservation) (run : RunState) : RunState :=
  let run := run.refreshState o
  if run.exitObserved && run.state ≠ .verifying then { run with directories := false } else run

end RunState

/-- The fields of `report` that depend on the run; `rollback_verified` is always `false`. -/
structure RunReport where
  workflowId : String
  recipeId : String
  kind : WorkflowKind
  state : WorkflowState
  reason : Option String
  processId : Nat
  exitCode : Option Int
  resultVerified : Bool
  processExited : Bool
  cancellationRequested : Bool
  deriving DecidableEq, Repr

def report (id : String) (run : RunState) : RunReport where
  workflowId := id
  recipeId := run.recipe.id
  kind := run.recipe.kind
  state := run.state
  reason := run.reason
  processId := run.childId
  exitCode := run.exitCode
  resultVerified := run.resultVerified
  processExited := run.exitObserved
  cancellationRequested := run.cancellationRequested

/-! ### The manager -/

structure WorkflowManager where
  policy : Option WorkflowPolicy
  policyDeadline : Option Nat
  /-- By id, in some order. -/
  runs : List (String × RunState)
  consumedUninstall : List String
  /-- The UUIDs drawn so far. -/
  drawn : Nat
  /-- The recipes whose process was launched. No function reads it. -/
  launched : List (String × WorkflowKind)
  deriving DecidableEq, Repr

/-- What the environment says while the manager takes one step. -/
structure Turn where
  standardUser : Except String Unit
  pins : Except String Unit
  unixMs : Nat
  instant : Nat
  supervisorStarted : Bool
  /-- The process id, if the process is launched. -/
  child : Option Nat
  launchInstant : Nat
  /-- The supervisor takes the run. -/
  supervised : Bool
  /-- What the supervisor sees of a new run before the manager has it in its map. -/
  early : List RunObservation
  observation : RunObservation
  again : RunObservation

inductive WorkflowAnswer where
  | supervisor (id : String) (o : RunObservation)
  | turn (t : Turn)

abbrev WorkflowProg (α : Type) := Prog WorkflowManager WorkflowAnswer (Except String α)

namespace WorkflowManager

/-- `WorkflowManager::disabled`. -/
def disabled : WorkflowManager := ⟨none, none, [], [], 0, []⟩

/-- What `from_policy_file` returns for a policy file that it accepts. -/
def configured (policy : WorkflowPolicy) (policyDeadline : Nat) : WorkflowManager :=
  ⟨some policy, some policyDeadline, [], [], 0, []⟩

/-- `runs.get`. -/
def run? (manager : WorkflowManager) (id : String) : Option RunState := manager.runs.lookup id

def ids (manager : WorkflowManager) : List String := manager.runs.map (·.1)

/-- Whatever the holder of the lock of `id` makes of the run. -/
def modifyRun (id : String) (f : RunState → RunState) (manager : WorkflowManager) : WorkflowManager :=
  { manager with runs := manager.runs.map fun entry => if entry.1 = id then (entry.1, f entry.2) else entry }

/-- `runs.insert`. -/
def insertRun (id : String) (run : RunState) (manager : WorkflowManager) : WorkflowManager :=
  { manager with runs := (id, run) :: manager.runs.filter (·.1 ≠ id) }

/-- The next step of the manager; before it the supervisors refresh their runs. -/
def turn : Prog WorkflowManager WorkflowAnswer Turn := Prog.await fun
  | .supervisor id o, manager => (none, manager.modifyRun id (RunState.refresh o))
  | .turn t, manager => (some t, manager)

/-- `WorkflowManager::recipe`. -/
def recipe (manager : WorkflowManager) (id : String) (t : Turn) : Except String Recipe :=
  match manager.policy with
  | none => .error "workflow policy is not configured"
  | some policy => do
    require (!(policy.expiresAtUnixMs ≤ t.unixMs || manager.policyDeadline.all (· ≤ t.instant)))
      "workflow policy has expired"
    match policy.recipes.find? (·.id = id) with
    | none => .error "workflow recipe is not authorized"
    | some recipe => .ok recipe

/-- The checks of `start` up to the run capacity. -/
def startChecks (windows : Bool) (recipeId : String) (t : Turn) (manager : WorkflowManager) : Except String Recipe := do
  require windows "pinned native workflow launch is unsupported on this platform"
  t.standardUser
  let recipe ← manager.recipe recipeId t
  require (!manager.consumedUninstall.contains recipeId) "the normal uninstall recipe has already been consumed"
  require (!(maxRuns ≤ manager.runs.length)) "workflow connection run capacity is exhausted"
  .ok recipe

def activeRun (id : String) (manager : WorkflowManager) : Bool := (manager.run? id).any (!·.exitObserved)

/-- The number of the runs that have not exited, one lock after another. -/
def countActive : List String → Nat → Prog WorkflowManager WorkflowAnswer Nat
  | [], count => Prog.ret count
  | id :: ids, count => turn.andThen fun _ =>
    (Prog.read (activeRun id)).andThen fun active => countActive ids (if active then count + 1 else count)

/-- Some run of the recipe has not exited. -/
def anyActive (recipeId : String) : List String → Prog WorkflowManager WorkflowAnswer Bool
  | [] => Prog.ret false
  | id :: ids => turn.andThen fun _ =>
    (Prog.read fun manager => (manager.run? id).any fun run => run.recipe.id = recipeId && !run.exitObserved).andThen
      fun active => if active then Prog.ret true else anyActive recipeId ids

/-- The new run of a launched process. -/
def newRun (recipe : Recipe) (childId policyExpiry policyDeadline instant : Nat) : RunState where
  childId := childId
  directories := true
  deadline := instant + recipe.timeoutMs * 1000000
  policyExpiry := policyExpiry
  policyDeadline := policyDeadline
  state := .running
  reason := none
  exitCode := none
  exitObserved := false
  resultVerified := false
  cancellationRequested := false
  terminationReason := none
  verification := none
  recipe := recipe
  history := []

/-- What has become of the new run when it enters the map. -/
def superviseRun (t : Turn) (run : RunState) : RunState :=
  if t.supervised then t.early.foldl (fun run o => run.refresh o) run
  else
    let run := run.unknown "deadline_supervisor_unavailable"
    if run.recipe.allowCancel then (run.note .killed).refresh t.observation else run

/-- `start` from the pins to the insertion of the run, whose id it returns. -/
def launch (newUuid : Nat → String) (recipeId : String) (recipe : Recipe) (t : Turn) (manager : WorkflowManager) :
    Except String String × WorkflowManager :=
  match t.pins, manager.policy, manager.policyDeadline with
  | .error message, _, _ => (.error message, manager)
  -- `expect("validated policy")`: the policy that gave the recipe is there still.
  | .ok _, none, _ => (.error "validated policy", manager)
  | .ok _, some _, none => (.error "workflow policy has expired", manager)
  | .ok _, some policy, some policyDeadline =>
    if policy.expiresAtUnixMs ≤ t.unixMs || policyDeadline ≤ t.instant then
      (.error "workflow policy has expired", manager)
    else if !t.supervisorStarted then (.error "workflow deadline supervisor could not be started", manager)
    else match t.child with
      | none => (.error "workflow process could not be launched", manager)
      | some childId =>
        let id := "workflow-" ++ newUuid manager.drawn
        let run := newRun recipe childId policy.expiresAtUnixMs policyDeadline t.launchInstant
        let manager := { manager with
          drawn := manager.drawn + 1
          launched := (recipeId, recipe.kind) :: manager.launched
          consumedUninstall :=
            if recipe.kind = WorkflowKind.uninstall then recipeId :: manager.consumedUninstall else manager.consumedUninstall }
        (.ok id, manager.insertRun id (superviseRun t run))

/-- The run of `id`, refreshed under its lock and read by `f`. -/
def withRun (id : String) (f : Turn → RunState → Except String α × RunState) : WorkflowProg α :=
  turn.andThen fun t => Prog.update fun manager =>
    match manager.run? id with
    | none => (.error "workflow is not owned by this connection", manager)
    | some run => ((f t run).1, manager.modifyRun id fun run => (f t run).2)

def status (id : String) : WorkflowProg RunReport :=
  withRun id fun t run => (.ok (report id (run.refresh t.observation)), run.refresh t.observation)

/-- What `cancel` makes of a run. -/
def cancelRun (id : String) (t : Turn) (run : RunState) : Except String RunReport × RunState :=
  let run := run.refresh t.observation
  if run.state = .running then
    if !run.recipe.allowCancel then (.error "owned workflow process cancellation is not authorized", run)
    else
      let run := { run with cancellationRequested := true }.refresh t.again
      (.ok (report id run), run)
  else (.ok (report id run), run)

def cancel (id : String) : WorkflowProg RunReport := withRun id (cancelRun id)

def processId (id : String) : WorkflowProg Nat :=
  withRun id fun t run =>
    let run := run.refresh t.observation
    (if run.state ≠ .running || run.terminationReason.isSome then .error "workflow process is not active"
      else .ok run.childId, run)

def start (newUuid : Nat → String) (windows : Bool) (recipeId : String) : WorkflowProg RunReport :=
  turn.andThen fun t => (Prog.read (startChecks windows recipeId t)).tryThen fun recipe =>
  (Prog.read ids).andThen fun ids => (countActive ids 0).andThen fun active =>
  if maxActiveRuns ≤ active then Prog.ret (.error "workflow active run capacity is exhausted")
  else (anyActive recipeId ids).andThen fun running =>
    if running then Prog.ret (.error "workflow recipe already has an active run")
    else turn.andThen fun t => (Prog.update (launch newUuid recipeId recipe t)).tryThen status

/-- `cancel` on each run; the answers are not read. -/
def cancelEach : List String → Prog WorkflowManager WorkflowAnswer Unit
  | [] => Prog.ret ()
  | id :: ids => (cancel id).andThen fun _ => cancelEach ids

/-- Some run, refreshed, has not exited or waits for its result check still. -/
def anyUnfinished : List String → Prog WorkflowManager WorkflowAnswer Bool
  | [] => Prog.ret false
  | id :: ids =>
    (withRun id fun t run =>
      let run := run.refresh t.observation
      (.ok (!run.exitObserved || run.verification.isSome), run)).andThen fun
      | .ok false => anyUnfinished ids
      | .ok true | .error _ => Prog.ret true

/-- One round of the wait of `stop_all`. -/
def stopRound (deadline : Nat) (ids : List String) : Prog WorkflowManager WorkflowAnswer (Option Unit) :=
  (anyUnfinished ids).andThen fun unfinished =>
    if unfinished then turn.andThen fun t => Prog.ret (if t.instant < deadline then none else some ())
    else Prog.ret (some ())

/-- The report of a run that `status` does not find. -/
inductive StopResult where
  | report (r : RunReport)
  | unconfirmed (id : String)
  deriving DecidableEq, Repr

def statusEach : List String → Prog WorkflowManager WorkflowAnswer (List StopResult)
  | [] => Prog.ret []
  | id :: ids => (status id).andThen fun answer => (statusEach ids).andThen fun results =>
    Prog.ret ((match answer with
      | .ok r => .report r
      | .error _ => .unconfirmed id) :: results)

def allFinished : List String → Prog WorkflowManager WorkflowAnswer Bool
  | [] => Prog.ret true
  | id :: ids => turn.andThen fun _ =>
    (Prog.read fun manager => (manager.run? id).any fun run => run.exitObserved && run.verification.isNone).andThen
      fun finished => if finished then allFinished ids else Prog.ret false

structure StopReport where
  success : Bool
  workflows : List StopResult
  deriving DecidableEq, Repr

def stopAll : WorkflowProg StopReport :=
  (Prog.read ids).andThen fun ids => (cancelEach ids).andThen fun _ => turn.andThen fun t =>
  (Prog.roundsUntil (stopRound (t.instant + 1000000000) ids)).andThen fun _ =>
  (statusEach ids).andThen fun results => (allFinished ids).andThen fun success =>
  Prog.update fun manager =>
    (.ok ⟨success, results⟩, { manager with policy := none, policyDeadline := none })

end WorkflowManager

/-! ### Calls -/

inductive WorkflowRequest where
  | start (recipeId : String)
  | status (id : String)
  | cancel (id : String)
  | processId (id : String)
  | stopAll
  deriving DecidableEq, Repr

/-- A call on the manager, with what the environment says meanwhile. -/
structure WorkflowCall where
  request : WorkflowRequest
  script : List WorkflowAnswer

inductive WorkflowOutput where
  | report (r : RunReport)
  | processId (id : Nat)
  | stopped (r : WorkflowManager.StopReport)
  deriving DecidableEq, Repr

namespace WorkflowManager

/-- An output in the place of a value. -/
def output (f : α → WorkflowOutput) (p : WorkflowProg α) : WorkflowProg WorkflowOutput :=
  p.tryThen fun a => Prog.ret (.ok (f a))

def serve (newUuid : Nat → String) (windows : Bool) : WorkflowRequest → WorkflowProg WorkflowOutput
  | .start recipeId => output .report (start newUuid windows recipeId)
  | .status id => output .report (status id)
  | .cancel id => output .report (cancel id)
  | .processId id => output .processId (processId id)
  | .stopAll => output .stopped stopAll

end WorkflowManager

/-- The manager under its calls; a call that has not ended has no output. -/
def workflowManager (newUuid : Nat → String) (windows : Bool) :
    Machine WorkflowManager WorkflowCall (Option (Except String WorkflowOutput)) where
  step manager call := match WorkflowManager.serve newUuid windows call.request manager call.script with
    | .done value manager _ => (some value, manager)
    | .cut manager => (none, manager)

end DccCua
