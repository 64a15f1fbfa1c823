import DccCua.Cli.TaskServer
import DccCua.Host.WindowRequests
import DccCua.Lib.Unicode

/-! # What a task may ask for

`validate_task_start` of `start_contract.rs`, which looks at the arguments of a start alone, and the policy file of the
owned workflows in `workflow.rs`: what is accepted of it at startup, and what it then authorizes. The paths of a recipe
and the file that is to result from it are one answer. -/

namespace DccCua

open Checks Unicode

/-! ### Arguments -/

def maxAllowedMethods : Nat := 32

def maxTtlMinutes : Nat := 24 * 60

def commonMethods : List String :=
  ["get_window_state", "change_window_state", "minimize_window", "snapshot", "accessibility_snapshot", "verify_state", "find",
    "wait_for", "execute_action", "get_session_state", "get_input_state", "session_health", "poll_session_events",
    "clipboard_capture_secret", "live_observation_start", "live_observation_state", "live_observation_stop", "recording_start",
    "recording_state", "recording_stop"]

/-- The methods of one surface besides the common ones. -/
def surfaceMethods : TaskSurface → List String
  | .window =>
    ["set_window_frame", "capture_preparation_begin", "capture_preparation_state", "capture_preparation_stop",
      "capture_preparation_snapshot"]
  | .browser =>
    ["browser_snapshot", "browser_extension_status", "browser_extension_call", "browser_prepare", "browser_navigate",
      "browser_click", "browser_type", "browser_pointer", "browser_set_input_files", "browser_download", "browser_dialog"]

def TaskSurface.asStr : TaskSurface → String
  | .window => "window"
  | .browser => "browser"

def methodAllowed (surface : TaskSurface) (method : String) : Bool :=
  commonMethods.contains method || (surfaceMethods surface).contains method

def validateAllowedMethods (surface : TaskSurface) (methods : List String) : Except String Unit := do
  require (!(methods.isEmpty || maxAllowedMethods < methods.length)) "allowed_methods must contain 1..=32 Host methods"
  require (methods.dedup.length = methods.length) "allowed_methods must not contain duplicates"
  require (methods.all (methodAllowed surface))
    ("Host method " ++ reprStr ((methods.find? fun method => !methodAllowed surface method).getD "") ++ " is outside the closed " ++
      surface.asStr ++ " task bridge")

/-- Who grants the first method of the group grants all of it. -/
def groupComplete (methods : List String) (group : List String) : Bool :=
  !group.head?.any methods.contains || grantsAll methods group

def validateNativeLifecycleMethods (methods : List String) : Except String Unit := do
  require (!preparationRequested methods || grantsAll methods capturePreparationMethods)
    "capture preparation requires get_window_state and complete begin/state/stop methods"
  require ([recordingMethods, ["live_observation_start", "live_observation_state", "live_observation_stop"]].all
      (groupComplete methods))
    "recording/live start requires its state and stop methods in the same immutable task scope"

namespace PrepareTaskInput

/-- `capture_popup::validate_start`. -/
def validateCapturePopup (input : PrepareTaskInput) : Except String Unit :=
  require (!input.allowNativeCapturePopupKeyboard || (input.surface = .window && input.observationMode = .pixelsOnly &&
      grantsAll input.allowedMethods ["snapshot", "get_window_state", "execute_action"] &&
      input.allowedActions.any fun scope => HostSession.isPixelsInput scope &&
        ["keypress", "keyboard_shortcut", "type", "type_chars"].contains scope.action))
    ("native capture popup keyboard requires an explicit pixels_only exact-window task, snapshot/state/action methods and " ++
      "an independently granted raw keyboard action")

def validatePreparation (input : PrepareTaskInput) : Except String Unit :=
  require (input.allowCapturePreparation = preparationRequested input.allowedMethods &&
      input.allowCapturePreparation = input.allowedActions.any (·.isCapturePreparation) &&
      (!input.allowCapturePreparation || (input.surface = .window && input.observationMode = .pixelsOnly &&
        grantsAll input.allowedMethods capturePreparationMethods)))
    ("capture preparation requires explicit allow_capture_preparation=true, pixels_only exact window, get_window_state, " ++
      "complete begin/state/stop and its closed action scope")

def validateRecording (input : PrepareTaskInput) : Except String Unit :=
  require (input.allowRecording = input.allowedMethods.any (Text.startsWith · "recording_") &&
      (!input.allowRecording || (input.observationMode = .pixelsOnly && input.surface = .window &&
        grantsAll input.allowedMethods recordingMethods)))
    "recording methods require explicit allow_recording=true on a pixels_only window task"

/-- A target that is named and not zero. -/
def namesTarget (target : Option Nat) : Bool := target.any (· ≠ 0)

def isPixelsScope (scope : TrustedTaskActionScope) : Bool :=
  scope.isWindowMinimize || scope.isWindowFrame || scope.isNativeMenuDismiss || scope.isCapturePreparation ||
    HostSession.isPixelsInput scope

/-- The part for `pixels_only`. -/
def validatePixels (input : PrepareTaskInput) (hostDerivedTarget : Bool) : Except String Unit := do
  require (input.surface = .window && (hostDerivedTarget || (namesTarget input.targetProcessId && namesTarget input.targetWindowHandle)) &&
      input.ownedBrowserLaunch.isNone && input.allowedBrowserOrigins.isEmpty)
    "pixels_only requires the window surface with an exact PID/HWND"
  require (input.allowedMethods.all input.observationMode.permitsMethod && input.allowedActions.all isPixelsScope)
    ("pixels_only permits only closed native window_state or covered raw_input scopes, without semantic/browser methods or " ++
      "secrets")
  require (!input.allowedMethods.contains "execute_action" || input.allowedActions.any HostSession.isPixelsInput)
    "pixels_only execute_action requires an actual supported raw_input action scope"

/-- The window-state changes that need more than their method. -/
def validateWindowChanges (input : PrepareTaskInput) : Except String Unit := do
  require (!input.allowedActions.any (·.isNativeMenuDismiss) || (input.observationMode = .pixelsOnly && input.surface = .window &&
      grantsAll input.allowedMethods ["get_window_state", "change_window_state"]))
    ("dismiss_menu requires explicit pixels_only exact window, get_window_state, change_window_state and its independent " ++
      "window_state action scope")
  require (!input.allowedMethods.contains "set_window_frame" || (input.observationMode = .pixelsOnly &&
      input.allowedActions.any (·.isWindowFrame) && input.allowedMethods.contains "get_window_state"))
    "set_window_frame requires explicit pixels_only, get_window_state, and its closed window_state action scope"
  require (!input.allowedMethods.contains "minimize_window" || input.allowedActions.any (·.isWindowMinimize))
    "minimize_window requires the closed window_state/minimize_window action scope"

/-- The origins of the request and those of its actions, in a set. -/
def browserOrigins (input : PrepareTaskInput) : List String :=
  ((input.allowedBrowserOrigins ++ input.allowedActions.filterMap (·.browserOrigin)).dedup).mergeSort (· ≤ ·)

/-- `validate_task_start`. -/
def validateTaskStart (input : PrepareTaskInput) (hostDerivedTarget : Bool) : Except String (List String) := do
  require (!(input.applicationLabel == "" || input.applicationLabel != Text.trim input.applicationLabel ||
      maxApplicationLabelChars < input.applicationLabel.length || input.applicationLabel.toList.any Text.isControl))
    "application_label must be bounded printable text without surrounding whitespace"
  require (!(input.allowedActions.dedup.length ≠ input.allowedActions.length || 32 < input.allowedActions.dedup.length))
    "allowed actions must be unique and bounded"
  require (1 ≤ input.ttlMinutes && input.ttlMinutes ≤ maxTtlMinutes) "ttl_minutes must be between 1 and 1440"
  validateAllowedMethods input.surface input.allowedMethods
  validateNativeLifecycleMethods input.allowedMethods
  input.validateCapturePopup
  input.validatePreparation
  input.validateRecording
  onlyIf (input.observationMode = .pixelsOnly) (input.validatePixels hostDerivedTarget)
  input.validateWindowChanges
  .ok input.browserOrigins

end PrepareTaskInput

/-! ### The policy file -/

structure ArtifactResult where
  present : Bool
  sha256 : Option String
  deriving DecidableEq, Repr

/-- A recipe of the policy file, without its paths. -/
structure PolicyRecipe extends Recipe where
  executableSha256 : String
  arguments : List String
  result : ArtifactResult
  gui : Bool
  allowedMethods : List String
  allowedActions : List TrustedTaskActionScope
  deriving DecidableEq, Repr

structure WorkflowPolicyFile where
  version : Nat
  environmentId : String
  sessionId : String
  expiresAtUnixMs : Nat
  recipes : List PolicyRecipe
  deriving DecidableEq, Repr

def maxRecipes : Nat := 32

def validHash (value : String) : Bool :=
  utf8Length value = 64 && value.toList.all fun c => ('0' ≤ c && c ≤ '9') || ('a' ≤ c && c ≤ 'f') || ('A' ≤ c && c ≤ 'F')

def validId (value : String) : Bool :=
  value ≠ "" && utf8Length value ≤ 128 && value.toList.all fun c =>
    ('a' ≤ c && c ≤ 'z') || ('A' ≤ c && c ≤ 'Z') || ('0' ≤ c && c ≤ '9') || c = '-' || c = '_' || c = '.'

/-- What is read while one recipe is validated: the clock, the file system of the broker's checks, and whether the paths
    and the result location are permitted. -/
structure RecipeReading where
  nowMs : Nat
  fs : FileSystem
  files : Except String Unit

variable (env : Env)

/-- The registration that stands for the ceiling of a recipe. -/
def PolicyRecipe.registration (recipe : PolicyRecipe) (nowMs : Nat) : TrustedTaskAuthorizationRegistration where
  connectionId := none
  taskId := none
  taskGrantId := "workflow-policy-validation"
  applicationLabel := "Workflow recipe validation"
  target := .exactWindow 1 1
  allowedHostMethods := recipe.allowedMethods
  allowedActions := recipe.allowedActions
  allowedBrowserOrigins := []
  browserScope := none
  recordingOutputDir := none
  capturePreparation := none
  expiresAtUnixMs := saturatingAdd nowMs 60000

/-- `validate_recipe`. -/
def PolicyRecipe.validate (recipe : PolicyRecipe) (r : RecipeReading) : Except String Unit := do
  mapError (fun _ => "workflow recipe method or action ceiling is invalid")
    (Broker.validateRegistration env r.fs r.nowMs (recipe.registration r.nowMs))
  require (validId recipe.id && recipe.arguments.length ≤ 32 &&
      (recipe.arguments.all fun argument => utf8Length argument ≤ 4096 && !argument.toList.contains (Char.ofNat 0)) &&
      1 ≤ recipe.timeoutMs && recipe.timeoutMs ≤ 24 * 60 * 60 * 1000 &&
      !recipe.allowedExitCodes.isEmpty && recipe.allowedExitCodes.length ≤ 32 &&
      !recipe.allowedMethods.isEmpty && recipe.allowedMethods.length ≤ 32 && recipe.allowedMethods.all validId &&
      recipe.allowedActions.length ≤ 32 && validHash recipe.executableSha256 && recipe.result.sha256.all validHash &&
      (recipe.result.present || recipe.result.sha256.isNone) && decide (recipe.kind = .install) = recipe.result.present)
    "workflow recipe does not satisfy its bounded contract"
  r.files

namespace WorkflowPolicyFile

/-- The recipes of the policy from the given position on; their ids are all different. -/
def validateRecipes (readings : Nat → RecipeReading) : Nat → List String → List PolicyRecipe → Except String Unit
  | _, _, [] => .ok ()
  | position, seen, recipe :: rest => do
    recipe.validate env (readings position)
    require (!seen.contains recipe.id) "workflow policy recipe ids must be unique"
    validateRecipes readings (position + 1) (recipe.id :: seen) rest

/-- What is read while the policy is loaded. -/
structure Loading where
  unixMs : Nat
  instant : Nat
  /-- By position. -/
  recipes : Nat → RecipeReading
  laterMs : Nat
  laterInstant : Nat

/-- `from_policy_file` for a file of the closed schema: the deadline of the policy. -/
def accept (policy : WorkflowPolicyFile) (environmentId sessionId : String) (loading : Loading) : Except String Nat := do
  require (policy.version = 1 && validId policy.environmentId && validId policy.sessionId &&
      policy.environmentId = environmentId && policy.sessionId = sessionId && loading.unixMs < policy.expiresAtUnixMs &&
      policy.expiresAtUnixMs - loading.unixMs ≤ 24 * 60 * 60 * 1000 && !policy.recipes.isEmpty &&
      policy.recipes.length ≤ maxRecipes)
    "workflow policy binding, expiry, or bounds are invalid"
  validateRecipes env loading.recipes 0 [] policy.recipes
  let deadline := loading.instant + (policy.expiresAtUnixMs - loading.unixMs) * 1000000
  require (loading.laterInstant < deadline && loading.laterMs < policy.expiresAtUnixMs) "workflow policy has expired"
  .ok deadline

/-- A reading of both clocks. -/
structure Clocks where
  unixMs : Nat
  instant : Nat

/-- `WorkflowManager::recipe`, with what the file says of the recipe. -/
def recipe (policy : WorkflowPolicyFile) (deadline : Nat) (id : String) (clocks : Clocks) : Except String PolicyRecipe :=
  if policy.expiresAtUnixMs ≤ clocks.unixMs || deadline ≤ clocks.instant then .error "workflow policy has expired"
  else match policy.recipes.find? (·.id = id) with
    | none => .error "workflow recipe is not authorized"
    | some recipe => .ok recipe

def recipeAuthorizes (policy : WorkflowPolicyFile) (deadline : Nat) (id : String) (methods : List String)
    (actions : List TrustedTaskActionScope) (clocks : Clocks) : Except String Unit := do
  let recipe ← policy.recipe deadline id clocks
  require (methods.all recipe.allowedMethods.contains && actions.all recipe.allowedActions.contains)
    "workflow request exceeds its trusted recipe scope"

def guiRecipeAuthorizes (policy : WorkflowPolicyFile) (deadline : Nat) (id : String) (methods : List String)
    (actions : List TrustedTaskActionScope) (clocks later : Clocks) : Except String Unit := do
  policy.recipeAuthorizes deadline id methods actions clocks
  let recipe ← policy.recipe deadline id later
  require recipe.gui "MCP owned window tasks require a GUI recipe"

end WorkflowPolicyFile

end DccCua
