import DccCua.Host.ExtensionMessages
import DccCua.Words

/-! # Calls of a browser extension

A task calls the extension of a paired tab through the Host. `browser_extension.rs` and `extension_input.rs`
check the request against the session, the provider and the last snapshot of the task, and build the command
that is queued to the provider; `relay.rs` takes its private fields off again. Instants are in nanoseconds. What
the code reads from its surroundings (the window, the confirmation of the user, the clocks, the URL parser and
the hash) is a parameter. -/

namespace DccCua
namespace BrowserExtension

open Checks Unicode

def maxExtensionCallTimeoutMs : Nat := 30000

/-- What the code reads of a `url::Url`; `origin` is its ASCII serialization. -/
structure HostUrl where
  scheme : String
  username : String
  password : Option String
  origin : String
  deriving DecidableEq, Repr

/-- A registered provider. Its identity and its pairing are those of a hello that was accepted. -/
structure Provider where
  owner : Option String
  secret : String
  invocationOrigin : String
  browserProcessId : Nat
  nativeWindow : Option Nat
  hello : ExtensionHello
  accepted : ∃ message, parseExtensionHello message invocationOrigin = .ok hello

def Provider.pairing (provider : Provider) : ExtensionPairing := provider.hello.pairing

/-- The provider that `register_with_window` makes of a hello. -/
def registerWithWindow (message : Json) (invocationOrigin : String) (browserProcessId : Nat) (nativeWindow : Option Nat)
    (taskOwner : Option String) (secret : String) : Except String Provider :=
  if browserProcessId = 0 then .error "browser extension registration requires the browser process id"
  else
    match h : parseExtensionHello message invocationOrigin with
    | .error error => .error error
    | .ok hello => .ok ⟨taskOwner, secret, invocationOrigin, browserProcessId, nativeWindow, hello, message, h⟩

/-! ### The snapshot of a task -/

/-- Both values are strings, and the same. -/
def sameStr (a b : Json) : Bool := a.asStr.isSome && a.asStr = b.asStr

/-- The value is a string of 1 to `maximum` bytes. -/
def isBounded (value : Json) (maximum : Nat) : Bool :=
  match value.asStr with
  | some text => text ≠ "" && utf8Length text ≤ maximum
  | none => false

/-- The refs of a snapshot are bounded and distinct; `ids` are those already seen. -/
def checkRefs : List Json → List String → Except String Unit
  | [], _ => .ok ()
  | node :: nodes, ids =>
    match (node.get "ref").asStr with
    | none => .error "invalid extension ref"
    | some id => do
      require (id ≠ "" && utf8Length id ≤ 128) "invalid extension ref"
      require (decide (id ∉ ids)) "duplicate extension ref"
      checkRefs nodes (id :: ids)

def checkSnapshot (origin : String) (snapshot : Json) : Except String Unit :=
  match (snapshot.get "refs").asArray with
  | none => .error "extension snapshot omitted refs"
  | some refs => do
    require (refs.length ≤ 300 && ((snapshot.get "document").get "origin").asStr = some origin &&
      isBounded (snapshot.get "snapshot_id") 128 &&
      ((snapshot.get "document").get "id").asStr.any (· ≠ "")) "invalid extension snapshot identity"
    checkRefs refs []

structure ExtensionObservation where
  providerId : String
  origin : String
  snapshot : Json
  observedAt : Nat
  checked : checkSnapshot origin snapshot = .ok ()

def ExtensionObservation.new (providerId origin : String) (snapshot : Json) (now : Nat) :
    Except String ExtensionObservation :=
  match h : checkSnapshot origin snapshot with
  | .error error => .error error
  | .ok () => .ok ⟨providerId, origin, snapshot, now, h⟩

section
variable (parseUrl : String → Option HostUrl) (sha256 : String → String)

/-- `action` for a navigation. -/
def navigateAction (provider origin : String) (params : Json) : Except String Json :=
  match params with
  | .obj fields =>
    if fields.length = 2 then
      match (params.get "url").asStr with
      | some target =>
        if target ≠ "" ∧ utf8Length target ≤ 2048 then
          match parseUrl target with
          | none => .error "navigation requires an absolute URL"
          | some url => do
            require ((url.scheme = "http" || url.scheme = "https") && url.username = "" && url.password.isNone &&
              url.origin = origin) "navigation must remain in the exact allowed origin without credentials"
            .ok (.obj [("action", .str "browser_extension_navigate"), ("input_kind", .str "browser"),
              ("authorization_category", .str "external_effect"), ("browser_origin", .str origin),
              ("snapshot_id", params.get "snapshot_id"), ("provider_id", .str provider),
              ("target_url_sha256", .str (sha256 target))])
        else .error "navigation requires a bounded URL"
      | none => .error "navigation requires a bounded URL"
    else .error "navigation accepts only snapshot_id and url"
  | _ => .error "navigation accepts only snapshot_id and url"

/-- `action` for a click or a `type`, on the node that the snapshot has under the ref. -/
def nodeAction (snapshot : Json) (provider origin method : String) (params : Json) : Except String Json :=
  match ((snapshot.get "refs").asArray.getD []).find? fun node => sameStr (node.get "ref") (params.get "ref") with
  | none => .error "extension ref was not observed by this task"
  | some node => do
    require (((node.get "actions").asArray.getD []).any (·.asStr = some method) &&
      (node.get "visibility").asStr = some "in_viewport" && ((node.get "states").get "disabled").asBool = some false)
      "extension control is not actionable"
    require (method ≠ "type" || (((node.get "states").get "sensitive").asBool = some false &&
      (params.get "replace").asBool = some true && (params.get "text").asStr.any (·.length ≤ 4096)))
      "extension typing requires an explicitly non-sensitive control and bounded text"
    .ok (.obj [("action", .str method), ("input_kind", .str "semantic"),
      ("authorization_category", .str (if method = "click" then "external_effect" else "content_change")),
      ("ref", params.get "ref"), ("snapshot_id", params.get "snapshot_id"), ("provider_id", .str provider),
      ("browser_origin", .str origin),
      ("text_sha256", ((params.get "text").asStr.map fun text => Json.str (sha256 text)).getD .null)])

def ExtensionObservation.action (observation : ExtensionObservation) (now : Nat) (provider origin method : String)
    (params : Json) : Except String Json := do
  require (observation.providerId = provider && observation.origin = origin &&
    now - observation.observedAt ≤ 30 * 10 ^ 9 &&
    sameStr (params.get "snapshot_id") (observation.snapshot.get "snapshot_id"))
    "stale extension observation; take a fresh snapshot"
  if method = "navigate" then navigateAction parseUrl sha256 provider origin params
  else nodeAction sha256 observation.snapshot provider origin method params

end

/-! ### The command of a call -/

def forbiddenParams : List String :=
  ["schema", "request_id", "method", "session_nonce", "tab_id", "_dcc_task_owner", "_dcc_deadline_unix_ms",
    "deadline_unix_ms"]

/-- The fields that the Host binds, in the order in which `call` inserts them. -/
def boundFields (sha256 : String → String) (provider : Provider) (method requestId : String) (deadline : Nat) :
    List (String × Json) :=
  [("schema", .str extensionSchema), ("request_id", .str requestId), ("method", .str method),
    ("session_nonce", .str provider.pairing.sessionNonce), ("tab_id", .int provider.pairing.tabId),
    ("_dcc_deadline_unix_ms", .int deadline)] ++
  (if method = "navigate" then [("deadline_unix_ms", .int deadline)] else []) ++
  (match provider.owner with
    | some owner => [("_dcc_task_owner", .str (sha256 owner))]
    | none => [])

/-- The command that `call` builds from the params. -/
def callCommand (sha256 : String → String) (provider : Provider) (method : String) (params : Json) (requestId : String)
    (deadline : Nat) : Except String Json :=
  match params with
  | .obj fields =>
    match forbiddenParams.find? fun name => (Json.keys fields).contains name with
    | some name => .error ("browser extension call params cannot override " ++ name)
    | none => .ok (.obj (Json.insertAll (boundFields sha256 provider method requestId deadline) fields))
  | _ => .error "browser extension call params must be a JSON object"

/-- The checks of `call` before the command is built. -/
def checkCall (provider : Provider) (expectedOrigin : String) (expectedProcessId : Nat) (method : String)
    (timeoutMs : Nat) : Except String Unit := do
  require (0 < timeoutMs && timeoutMs ≤ maxExtensionCallTimeoutMs)
    "browser extension call timeout must be between 1 and 30000 ms"
  require (provider.browserProcessId = expectedProcessId)
    "browser extension provider process does not match the exact window session"
  require (provider.pairing.origin = expectedOrigin)
    "browser extension provider origin does not match the requested origin"
  require (method ∈ ["snapshot", "click", "type", "navigate", "unpair"])
    ("unsupported browser extension method: " ++ method)
  require (method ≠ "navigate" || provider.hello.capabilities.contains "tab_navigation_v1")
    "navigation_unsupported: paired extension lacks tab_navigation_v1"

/-! ### The request of a task -/

/-- What the code reads of the lease of a task. -/
structure TaskLease where
  allowedHostMethods : List String
  expiresAtUnixMs : Nat
  deriving DecidableEq, Repr

/-- What a call reads of a session. -/
structure HostSession where
  capability : String
  targetProcessId : Nat
  targetWindowHandle : Nat
  allowBrowserInput : Bool
  taskAuthorization : Option TaskLease
  allowedBrowserOrigins : List String
  extensionObservation : Option ExtensionObservation

structure BrowserExtensionCall where
  providerId : String
  expectedOrigin : String
  method : String
  params : Json
  timeoutMs : Nat

/-- What a call meets: whether the session of the request is authorized, the window is in front and ready, the
    browser evidence is current, what the user answers to an action, and the clocks. -/
structure Surroundings where
  authorizedSession : Except String Unit
  inputReady : Except String Unit
  evidenceEpoch : Except String Unit
  authorize : Json → Except String Unit
  now : Nat
  nowUnixMs : Nat

def requireTaskAuthorizedMethod (host : HostSession) (method : String) : Except String Unit :=
  require (host.taskAuthorization.all (·.allowedHostMethods.contains method))
    ("Host method " ++ method ++ " is outside the trusted task authorization")

def requireAllowedBrowserOrigin (host : HostSession) (origin : String) : Except String Unit :=
  require (host.taskAuthorization.isNone || host.allowedBrowserOrigins.contains origin)
    "the browser origin is outside the task authorization"

def requireNavigationCapability (provider : Provider) : Except String Unit :=
  require (provider.hello.capabilities.contains "tab_navigation_v1")
    "navigation_unsupported: paired extension lacks tab_navigation_v1"

/-- The task takes the provider; the provider keeps the owner it has. -/
def claim (provider : Provider) (pid hwnd : Nat) (origin taskCapability : String) : Except String Provider := do
  require (provider.browserProcessId = pid && provider.nativeWindow = some hwnd && provider.pairing.origin = origin)
    "extension pairing target mismatch"
  require (provider.owner.all (· = taskCapability)) "pairing is owned by another task; pair the tab again"
  .ok { provider with owner := some (provider.owner.getD taskCapability) }

section
variable (parseUrl : String → Option HostUrl) (sha256 : String → String)

/-- What the Host requires before an action on the page. -/
def authorizeInput (host : HostSession) (around : Surroundings) (request : BrowserExtensionCall) : Except String Unit := do
  around.inputReady
  around.evidenceEpoch
  match host.extensionObservation with
  | none => .error "take a fresh task-owned extension snapshot"
  | some observation => do
    let action ← observation.action parseUrl sha256 around.now request.providerId request.expectedOrigin request.method
      request.params
    around.authorize action

/-- The time that a call has: at most what is left of the lease. -/
def callTimeout (host : HostSession) (around : Surroundings) (request : BrowserExtensionCall) : Nat :=
  match host.taskAuthorization with
  | some lease => min request.timeoutMs (lease.expiresAtUnixMs - around.nowUnixMs)
  | none => request.timeoutMs

/-- The deadline of the command. -/
def callDeadline (host : HostSession) (around : Surroundings) (request : BrowserExtensionCall) : Nat :=
  saturatingAdd around.nowUnixMs (callTimeout host around request)

/-- The command that a call queues to the provider, with all checks on its way. -/
def queuedCommand (host : HostSession) (around : Surroundings) (provider : Provider) (request : BrowserExtensionCall)
    (requestId : String) : Except String Json := do
  around.authorizedSession
  requireTaskAuthorizedMethod host "browser_extension_call"
  requireAllowedBrowserOrigin host request.expectedOrigin
  require (request.method ∈ ["snapshot", "click", "type", "navigate"]) "unsupported task extension method"
  require (request.method ∉ ["click", "type", "navigate", "unpair"] || host.allowBrowserInput)
    "browser input is not granted for the logical task session"
  let provider ← claim provider host.targetProcessId host.targetWindowHandle request.expectedOrigin host.capability
  onlyIf (request.method = "navigate") (requireNavigationCapability provider)
  onlyIf (request.method ≠ "snapshot") (authorizeInput parseUrl sha256 host around request)
  checkCall provider request.expectedOrigin host.targetProcessId request.method (callTimeout host around request)
  callCommand sha256 provider request.method request.params requestId (callDeadline host around request)

end

/-- What the relay sends to the extension: the command without its private fields. -/
def relayBody (command : Json) : Option Json :=
  match command with
  | .obj fields =>
    match (command.get "_dcc_task_owner").asStr, (command.get "_dcc_deadline_unix_ms").asU64 with
    | some _, some _ => some (.obj (Json.remove "_dcc_deadline_unix_ms" (Json.remove "_dcc_task_owner" fields)))
    | _, _ => none
  | _ => none

end BrowserExtension
end DccCua
