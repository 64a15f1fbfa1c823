import DccCua.Paths
import Mathlib.Data.List.Dedup

/-! # Trusted task authorization

The data of `task_authorization.rs` and the Host's own checks of it: action scopes, browser origins,
the Host methods a task may be granted, and the validator of a lease. Definitions carry the names of
the source in camel case. -/

namespace DccCua

def trustedTaskAuthorizationSchema : String := "dcc-cua-trusted-task-authorization-v1"
def trustedTaskAuthorizationValidationSchema : String := "dcc-cua-trusted-task-authorization-validation-v1"
def trustedTaskAuthorizationLeaseValidationSchema : String :=
  "dcc-cua-trusted-task-authorization-lease-validation-v1"
def maxTaskAuthorizationActions : Nat := 32
def maxTaskAuthorizationTtlMs : Nat := 24 * 60 * 60 * 1000
def maxApplicationLabelChars : Nat := 80
def maxTaskGrantIdChars : Nat := 128
def maxPreparationLifetimeMs : Nat := 30000

/-- What `url::Url` gives for a parsed URL, as far as `valid_browser_origin` reads it. -/
structure Url where
  scheme : String
  host : Option String
  username : String
  password : Option String
  path : String
  query : Option String
  fragment : Option String
  originAsciiSerialization : String
  deriving DecidableEq, Repr

/-- What the Host takes from outside: the path rules of its platform, the URL parser, and the largest
    `Instant` (in nanoseconds) past which `checked_add` overflows. -/
structure Env where
  platform : Platform
  parseUrl : String → Option Url
  instantMax : Nat

variable (env : Env)

def validBrowserOrigin (value : String) : Bool :=
  if value == "" || 2048 < value.utf8ByteSize then false
  else match env.parseUrl value with
    | none => false
    | some origin =>
      (origin.scheme == "http" || origin.scheme == "https") && origin.host.isSome && origin.username == "" &&
        origin.password.isNone && origin.path == "/" && origin.query.isNone && origin.fragment.isNone &&
        origin.originAsciiSerialization == value

structure TrustedTaskActionScope where
  action : String
  inputKind : String
  secretInput : Bool
  authorizationCategory : String
  browserOrigin : Option String
  deriving DecidableEq, Repr

namespace TrustedTaskActionScope

/-- The window-state scopes differ only in their action. -/
def isWindowState (scope : TrustedTaskActionScope) (action : String) : Bool :=
  scope.action == action && scope.inputKind == "window_state" && !scope.secretInput &&
    scope.authorizationCategory == "window_state" && scope.browserOrigin.isNone

def isNativeCapturePopupKeyboard (scope : TrustedTaskActionScope) : Bool :=
  scope.isWindowState "native_capture_popup_keyboard"
def isWindowMinimize (scope : TrustedTaskActionScope) : Bool := scope.isWindowState "minimize_window"
def isWindowFrame (scope : TrustedTaskActionScope) : Bool := scope.isWindowState "set_window_frame"
def isNativeMenuDismiss (scope : TrustedTaskActionScope) : Bool := scope.isWindowState "dismiss_menu"
def isCapturePreparation (scope : TrustedTaskActionScope) : Bool := scope.isWindowState "capture_preparation_begin"

def nativeActions : List String :=
  ["move", "scroll", "click", "double_click", "right_click", "toggle", "drag", "type", "type_chars", "set_text",
    "set_value", "set_checked", "keypress", "press", "press_key", "keyboard_shortcut", "hotkey"]

def rawInputCategories : List String := ["raw_input", "credential"]

def semanticCategories : List String :=
  ["task_grant", "account_access", "account_security", "content_change", "credential", "destructive",
    "destructive_write", "external_effect", "payment", "publishing"]

def validate (scope : TrustedTaskActionScope) : Bool :=
  match scope.inputKind with
  | "window_state" =>
    scope.isWindowMinimize || scope.isNativeCapturePopupKeyboard || scope.isWindowFrame ||
      scope.isNativeMenuDismiss || scope.isCapturePreparation
  | "browser" =>
    (scope.action == "browser_type" && scope.secretInput && scope.authorizationCategory == "credential" ||
      scope.action == "browser_extension_navigate" && !scope.secretInput &&
        scope.authorizationCategory == "external_effect") &&
      scope.browserOrigin.any (validBrowserOrigin env)
  | "clipboard" =>
    scope.action == "clipboard_capture_secret" && scope.secretInput &&
      scope.authorizationCategory == "credential" && scope.browserOrigin.isNone
  | "raw_input" =>
    nativeActions.contains scope.action && rawInputCategories.contains scope.authorizationCategory &&
      scope.browserOrigin.isNone
  | "semantic" =>
    nativeActions.contains scope.action && semanticCategories.contains scope.authorizationCategory &&
      (scope.authorizationCategory != "task_grant" || !scope.secretInput) && scope.browserOrigin.isNone
  | _ => false

end TrustedTaskActionScope

structure TrustedTaskAuthorizationBrowserScope where
  hostTargetId : String
  tabId : String
  documentGeneration : String
  origin : String
  deriving DecidableEq, Repr

def TrustedTaskAuthorizationBrowserScope.validate (scope : TrustedTaskAuthorizationBrowserScope) : Bool :=
  [scope.hostTargetId, scope.tabId, scope.documentGeneration].all (Text.printable · 256) &&
    validBrowserOrigin env scope.origin

/-- The methods that `is_task_authorizable_host_method` accepts. -/
def taskAuthorizableHostMethods : List String :=
  ["browser_extension_status", "browser_extension_call", "terminate_app", "clipboard_read",
    "clipboard_capture_secret", "clipboard_write", "recording_start", "recording_stop", "recording_state",
    "capture_preparation_begin", "capture_preparation_state", "capture_preparation_stop",
    "capture_preparation_snapshot", "live_observation_start", "live_observation_state", "live_observation_stop",
    "get_window_state", "change_window_state", "minimize_window", "set_window_frame", "invoke_menu", "snapshot",
    "zoom", "accessibility_snapshot", "verify_state", "call_tool", "browser_snapshot", "browser_prepare",
    "browser_navigate", "browser_click", "browser_type", "browser_pointer", "browser_set_input_files",
    "browser_download", "browser_dialog", "find", "wait_for", "execute_action", "resume_session",
    "get_session_state", "get_input_state", "session_health", "poll_session_events", "cursor_tool",
    "escalate_session"]

def isTaskAuthorizableHostMethod (method : String) : Bool := taskAuthorizableHostMethods.contains method

structure CapturePreparationAuthorization where
  journalDirectory : String
  maxLifetimeMs : Nat
  deriving DecidableEq, Repr

/-! ### Scopes

The registration validator and the lease validator read a scope through the same tests. -/

/-- The actions are distinct, at most `maxTaskAuthorizationActions` and each of them closed. The source
    collects them into a `BTreeSet`, whose size is that of the list without repetitions. -/
def actionsClosed (actions : List TrustedTaskActionScope) : Bool :=
  actions.dedup.length == actions.length && actions.dedup.length ≤ maxTaskAuthorizationActions &&
    actions.dedup.all (·.validate env)

/-- The methods are distinct, between 1 and 64, and each of them may be granted to a task. -/
def methodsClosed (methods : List String) : Bool :=
  !methods.dedup.isEmpty && methods.dedup.length == methods.length && methods.dedup.length ≤ 64 &&
    methods.dedup.all isTaskAuthorizableHostMethod

/-- The origins are distinct, at most `maxTaskAuthorizationActions` and each of them exact. -/
def originsClosed (origins : List String) : Bool :=
  origins.dedup.length == origins.length && origins.dedup.length ≤ maxTaskAuthorizationActions &&
    origins.dedup.all (validBrowserOrigin env)

/-- Some method belongs to capture preparation. -/
def preparationRequested (methods : List String) : Bool :=
  methods.any (Text.startsWith · "capture_preparation_")

def recordingMethods : List String := ["recording_start", "recording_state", "recording_stop"]

def capturePreparationMethods : List String :=
  ["get_window_state", "capture_preparation_begin", "capture_preparation_state", "capture_preparation_stop"]

/-- Every required method is among the granted ones. -/
def grantsAll (methods required : List String) : Bool := required.all methods.contains

/-! ### Requests and leases -/

structure TrustedTaskAuthorizationRequest where
  schema : String
  requestId : String
  connectionId : String
  authorizationId : String
  sessionId : String
  taskGrantId : String
  applicationLabel : String
  windowCapability : String
  targetProcessId : Nat
  targetWindowHandle : Nat
  requestDigest : String
  deriving DecidableEq, Repr

structure TrustedTaskAuthorizationLease where
  connectionId : String
  authorizationId : String
  sessionId : String
  taskGrantId : String
  applicationLabel : String
  windowCapability : String
  targetProcessId : Nat
  targetWindowHandle : Nat
  allowedHostMethods : List String
  allowedActions : List TrustedTaskActionScope
  allowedBrowserOrigins : List String
  browserScope : Option TrustedTaskAuthorizationBrowserScope
  recordingOutputDir : Option String
  capturePreparation : Option CapturePreparationAuthorization
  issuedAtUnixMs : Nat
  expiresAtUnixMs : Nat
  requestDigest : String
  deriving DecidableEq, Repr

structure TrustedTaskAuthorizationValidationRequest where
  schema : String
  requestId : String
  connectionId : String
  authorizationId : String
  sessionId : String
  taskGrantId : String
  applicationLabel : String
  windowCapability : String
  targetProcessId : Nat
  targetWindowHandle : Nat
  actionScope : TrustedTaskActionScope
  actionRequestDigest : String
  leaseRequestDigest : String
  requestDigest : String
  deriving DecidableEq, Repr

structure TrustedTaskAuthorizationLeaseValidationRequest where
  schema : String
  requestId : String
  connectionId : String
  authorizationId : String
  sessionId : String
  taskGrantId : String
  applicationLabel : String
  windowCapability : String
  targetProcessId : Nat
  targetWindowHandle : Nat
  leaseRequestDigest : String
  requestDigest : String
  deriving DecidableEq, Repr

inductive TrustedTaskAuthorizationStatus where
  | active | revoked
  deriving DecidableEq, Repr

structure TrustedTaskAuthorizationValidationDecision where
  status : TrustedTaskAuthorizationStatus
  requestDigest : String
  deriving DecidableEq, Repr

inductive TrustedTaskAuthorizationHostError where
  | denied
  | unavailable (reason : String)
  deriving DecidableEq, Repr

/-! ### The lease validator of the Host -/

def taskAuthorizationRequired (message : String) : HostError := .codedProtocol .taskAuthorizationRequired message

namespace TrustedTaskAuthorizationLease

/-- `fields_match` of `validate_lease`. -/
def fieldsMatch (lease : TrustedTaskAuthorizationLease) (request : TrustedTaskAuthorizationRequest) : Bool :=
  lease.authorizationId == request.authorizationId && lease.connectionId == request.connectionId &&
    lease.sessionId == request.sessionId && lease.taskGrantId == request.taskGrantId &&
    lease.applicationLabel == request.applicationLabel && lease.windowCapability == request.windowCapability &&
    lease.targetProcessId == request.targetProcessId && lease.targetWindowHandle == request.targetWindowHandle &&
    lease.requestDigest == request.requestDigest

/-- `valid_time`. The subtraction saturates, as that of `Nat` does. -/
def validTime (lease : TrustedTaskAuthorizationLease) (now : Nat) : Bool :=
  lease.issuedAtUnixMs ≤ now && now < lease.expiresAtUnixMs &&
    lease.expiresAtUnixMs - lease.issuedAtUnixMs ≤ maxTaskAuthorizationTtlMs

def validBrowserScope (lease : TrustedTaskAuthorizationLease) : Bool :=
  lease.browserScope.all fun scope => scope.validate env && lease.allowedBrowserOrigins == [scope.origin]

/-- `valid_recording_scope`: the directory is checked by its text only. -/
def validRecordingScope (lease : TrustedTaskAuthorizationLease) : Bool :=
  lease.recordingOutputDir.all fun directory =>
    decide (validateRecordingOutputDir env.platform directory = .ok ()) &&
      grantsAll lease.allowedHostMethods recordingMethods

def validPreparationScope (fs : FileSystem) (lease : TrustedTaskAuthorizationLease) : Bool :=
  preparationRequested lease.allowedHostMethods == lease.capturePreparation.isSome &&
    lease.allowedActions.any (·.isCapturePreparation) == lease.capturePreparation.isSome &&
    lease.capturePreparation.all fun authorization =>
      0 < authorization.maxLifetimeMs && authorization.maxLifetimeMs ≤ maxPreparationLifetimeMs &&
        decide (validateRecordingOutputLocation env.platform fs authorization.journalDirectory = .ok ()) &&
        lease.recordingOutputDir != some authorization.journalDirectory && lease.browserScope.isNone &&
        lease.allowedBrowserOrigins.isEmpty && grantsAll lease.allowedHostMethods capturePreparationMethods

end TrustedTaskAuthorizationLease

/-- `validate_lease` of `task_authorization.rs`, at the clock reading `now`. -/
def validateLease (fs : FileSystem) (now : Nat) (request : TrustedTaskAuthorizationRequest)
    (lease : TrustedTaskAuthorizationLease) : Except HostError Unit :=
  if !lease.fieldsMatch request || !lease.validTime now || !methodsClosed lease.allowedHostMethods ||
      !actionsClosed env lease.allowedActions || !originsClosed env lease.allowedBrowserOrigins ||
      !lease.validBrowserScope env || !lease.validRecordingScope env || !lease.validPreparationScope env fs then
    .error (taskAuthorizationRequired "the trusted task authorization lease is invalid or out of scope")
  else .ok ()

end DccCua
