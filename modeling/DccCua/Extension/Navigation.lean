import DccCua.Extension.TabBridge
import DccCua.Host.ExtensionCalls
import DccCua.Lib.Script

/-! # Navigation of a paired tab

`navigatePairedTab` of `navigation.ts`, the operations that `background.ts` gives it, and what the Host makes of the
answer (`call` and `navigation_provider_must_revoke` of `browser_extension.rs`). The program keeps a list of the
operations that it has called, with their answers. A failure of the browser's own functions has a text and no code. -/

namespace DccCua
namespace Extension

open Script Checks

/-- What JavaScript code throws: an `Error`, with a `code` if it was given one. -/
structure JsError where
  code : Option String
  message : String
  deriving DecidableEq, Repr

def refused (code : String) : JsError := ⟨some code, code⟩

structure NavigationRequest where
  base : PairedRequestBase
  snapshotId : String
  url : String
  deadlineUnixMs : Nat
  deriving DecidableEq, Repr

/-- The operations, by their answers; `isCurrent` and `now` are asked several times. -/
structure NavigationOperations where
  isCurrent : Nat → Bool
  now : Nat → Nat
  requirePairing : Except JsError Unit
  foreground : Except JsError Bool
  invalidateDocument : Except JsError Unit
  revokePairing : Except JsError Unit
  updateTab : Nat → String → Except JsError Unit

inductive NavigationCall where
  | isCurrent (answer : Bool)
  | now (answer : Nat)
  | requirePairing (answer : Except JsError Unit)
  | foreground (answer : Except JsError Bool)
  | invalidateDocument (answer : Except JsError Unit)
  | revokePairing (answer : Except JsError Unit)
  | updateTab (tabId : Nat) (url : String) (answer : Except JsError Unit)

abbrev NavigationProg (α : Type) := Prog (List NavigationCall) Empty (Except JsError α)

namespace Navigation

def call {α : Type} (entry : NavigationCall) (answer : Except JsError α) : NavigationProg α :=
  Prog.update fun calls => (answer, calls ++ [entry])

/-- A `try` whose `catch` throws `code`. -/
def orRefused {α : Type} (code : String) (prog : NavigationProg α) : NavigationProg α :=
  prog.andThen fun
    | .ok a => Prog.ret (.ok a)
    | .error _ => Prog.ret (.error (refused code))

def receipt : Json :=
  .obj [("phase", .str "dispatched"), ("navigation_requested", .bool true), ("completion_known", .bool false),
    ("effect", .str "unverified"), ("pairing_required", .bool true), ("fresh_observation_required", .bool true)]

section
variable (parseUrl : String → Option Url) (request : NavigationRequest) (pairing : Pairing) (operations : NavigationOperations)

/-- Whether the port is current before the deadline, at the `check`th look. -/
def checkCurrent (check : Nat) (cancelled expired : String) : NavigationProg Unit :=
  (call (.isCurrent (operations.isCurrent check)) (require (operations.isCurrent check) (refused cancelled))).tryThen fun _ =>
    call (.now (operations.now check)) (require (operations.now check < request.deadlineUnixMs) (refused expired))

def beforeDispatch (check : Nat) : NavigationProg Unit :=
  checkCurrent request operations check "navigation_cancelled" "command_expired"

/-- The URL of the request, checked. -/
def target : Except JsError Url :=
  match parseUrl request.url with
  | none => .error ⟨none, "Invalid URL"⟩
  | some url => do
    require ((url.protocol = "http:" || url.protocol = "https:") && url.username = "" && url.password = "" &&
      url.origin = pairing.origin && request.base.tabId = pairing.tabId &&
      request.base.sessionNonce = pairing.sessionNonce) (refused "navigation_target_refused")
    .ok url

def navigatePairedTab : NavigationProg Json :=
  (beforeDispatch request operations 0).tryThen fun _ =>
  (Prog.ret (target parseUrl request pairing)).tryThen fun url =>
  (call (.requirePairing operations.requirePairing) operations.requirePairing).tryThen fun _ =>
  (call (.foreground operations.foreground) operations.foreground).tryThen fun foreground =>
  (Prog.ret (require foreground (refused "target_not_foreground"))).tryThen fun _ =>
  (beforeDispatch request operations 1).tryThen fun _ =>
  (call (.invalidateDocument operations.invalidateDocument) operations.invalidateDocument).tryThen fun _ =>
  (orRefused "navigation_pairing_required" ((beforeDispatch request operations 2).tryThen fun _ =>
    (call (.revokePairing operations.revokePairing) operations.revokePairing).tryThen fun _ =>
    beforeDispatch request operations 3)).tryThen fun _ =>
  (orRefused "navigation_outcome_unknown" (call (.updateTab pairing.tabId url.href
    (operations.updateTab pairing.tabId url.href)) (operations.updateTab pairing.tabId url.href))).tryThen fun _ =>
  (checkCurrent request operations 4 "navigation_outcome_unknown" "navigation_outcome_unknown").tryThen fun _ =>
  Prog.ret (.ok receipt)

end

/-- How a run ends, with the operations that it has called. -/
def outcome (run : Ran (List NavigationCall) Empty (Except JsError Json)) : Except JsError Json × List NavigationCall :=
  match run with
  | .done result calls _ => (result, calls)
  | .cut calls => (.error ⟨none, ""⟩, calls)

end Navigation

/-! ### The background page -/

/-- `requireMatch` on what the storage holds. -/
def requireMatch (loaded : Except String (Option Pairing)) (base : PairedRequestBase) : Except JsError Pairing :=
  match loaded with
  | .error message => .error ⟨none, message⟩
  | .ok stored =>
    match stored.filter fun pairing => pairing.sessionNonce = base.sessionNonce && pairing.tabId = base.tabId with
    | some pairing => .ok pairing
    | none => .error ⟨some "pairing_mismatch", "request does not match the explicitly paired tab"⟩

/-- How `tabs.sendMessage` ends. -/
inductive Delivery where
  | undelivered (error : String)
  /-- The tab has handled the message, and its answer does not arrive. -/
  | lost (error : String)
  | answered
  deriving DecidableEq, Repr

/-- What a navigation meets in the browser. -/
structure NavigationSurroundings (Element : Type) where
  isCurrent : Nat → Bool
  now : Nat → Nat
  loaded : Nat → Except String (Option Pairing)
  windowFocused : Except String Bool
  /-- Whether the tab is active, and its window. -/
  tab : Except String (Bool × Nat)
  contentScript : Except String Unit
  delivery : Delivery
  page : Page Element
  randomUUID : String
  bridge : BridgeState Element
  portReplaced : Bool
  cleared : Except String Unit
  badge : Except String Unit
  updated : Except String Unit

def browserError {α : Type} : Except String α → Except JsError α := mapError fun message => ⟨none, message⟩

/-- `tabResponse`, on the answer of the bridge. -/
def tabResponse {Element : Type} (reply : Option (BridgeReply Element)) : Except JsError BridgeResult :=
  match reply with
  | none => .error ⟨some "tab_command_failed", "paired tab did not return a valid response"⟩
  | some reply => mapError (fun e => ⟨some e.code, e.message⟩) reply.result

namespace NavigationSurroundings

variable {Element : Type} (toLowerCase : String → String) (s : NavigationSurroundings Element)

/-- The bridge handles the command. -/
def handled (command : Json) : Option (BridgeReply Element) × BridgeState Element :=
  Bridge.onMessage toLowerCase ⟨.obj [("type", .str "dcc_cua_command"), ("command", command)], s.page, s.randomUUID⟩ s.bridge

/-- `sendTabCommand`, with the bridge afterwards. -/
def sendTabCommand (command : Json) : Except JsError BridgeResult × BridgeState Element :=
  match s.contentScript, s.delivery with
  | .error message, _ => (.error ⟨none, message⟩, s.bridge)
  | .ok (), .undelivered message => (.error ⟨none, message⟩, s.bridge)
  | .ok (), .lost message => (.error ⟨none, message⟩, (s.handled toLowerCase command).2)
  | .ok (), .answered => (tabResponse (s.handled toLowerCase command).1, (s.handled toLowerCase command).2)

def navigateRequest (request : NavigationRequest) : NativeRequest :=
  .navigate request.base request.snapshotId request.url request.deadlineUnixMs

def invalidateDocument (request : NavigationRequest) : Except JsError Unit × BridgeState Element :=
  match contentValueFromNative (navigateRequest request) with
  | none => (.error ⟨none, ""⟩, s.bridge)
  | some command =>
    match validateContentCommand command with
    | .error message => (.error ⟨some "invalid_request", message⟩, s.bridge)
    | .ok _ =>
      let (result, bridge) := s.sendTabCommand toLowerCase command
      (match result with
        | .error e => .error e
        | .ok .invalidated => .ok ()
        | .ok _ => .error ⟨some "stale_observation", "document invalidation was not confirmed"⟩, bridge)

def foreground (pairing : Pairing) : Except JsError Bool := do
  let focused ← browserError s.windowFocused
  let (active, windowId) ← browserError s.tab
  .ok (focused && active && windowId = pairing.windowId)

def revokePairing (request : NavigationRequest) : Except JsError Unit := do
  require (!s.portReplaced) ⟨none, "pairing replaced"⟩
  let _ ← requireMatch (s.loaded 2) request.base
  browserError s.cleared
  browserError s.badge

/-- The operations of `handleNativeMessage`. -/
def operations (request : NavigationRequest) (pairing : Pairing) : NavigationOperations where
  isCurrent := s.isCurrent
  now := s.now
  requirePairing := (requireMatch (s.loaded 1) request.base).map fun _ => ()
  foreground := s.foreground pairing
  invalidateDocument := (s.invalidateDocument toLowerCase request).1
  revokePairing := s.revokePairing request
  updateTab _ _ := browserError s.updated

end NavigationSurroundings

open Navigation in
/-- `handleNativeMessage` for a navigation: how it ends, the operations that it calls and the bridge of the tab
    afterwards. -/
def handleNavigation {Element : Type} (parseUrl : String → Option Url) (toLowerCase : String → String)
    (request : NavigationRequest) (s : NavigationSurroundings Element) :
    Except JsError Json × List NavigationCall × BridgeState Element :=
  match requireMatch (s.loaded 0) request.base with
  | .error e => (.error e, [], s.bridge)
  | .ok pairing =>
    let operations := s.operations toLowerCase request pairing
    let (result, calls) := outcome (navigatePairedTab parseUrl request pairing operations [] [])
    (result, calls, if calls.any (fun | .invalidateDocument _ => true | _ => false) then
      (s.invalidateDocument toLowerCase request).2 else s.bridge)

/-- The message that the background page posts, unless `errorResponse` throws and the port is closed. -/
def navigationResponse (request : NavigationRequest) (result : Except JsError Json) : Except String Json :=
  match result with
  | .ok result => .ok (successResponse request.base.requestId result)
  | .error e => errorResponse (.str request.base.requestId) (e.code.getD "invalid_request") e.message

end Extension

namespace BrowserExtension

/-! ### The Host -/

/-- What `call` gets from the extension. -/
inductive CallAnswer where
  | response (value : Json)
  | dropped
  | timedOut

/-- The rest of `call` once the command is queued. -/
def callResult (providerId : String) (provider : Provider) (method : String) (answer : CallAnswer) : Except String Json :=
  match answer with
  | .dropped => .error "browser extension provider dropped the pending call"
  | .timedOut =>
    .error (if method = "navigate" then
      "navigation_outcome_unknown: navigation may have been dispatched; re-pair before further work"
      else "browser extension call timed out")
  | .response response =>
    let result := response.get "result"
    if (response.get "schema").asStr ≠ some extensionSchema ∨ (response.get "type").asStr ≠ some "response" then
      .error "browser extension returned an invalid response envelope"
    else if (response.get "ok").asBool = some false then
      .error ((((response.get "error").get "code").asStr.getD "browser_extension_error") ++ ": " ++
        (((response.get "error").get "message").asStr.getD "browser extension call failed"))
    else if method = "snapshot" ∧ provider.owner.isSome ∧
        ((result.get "document").get "id").asStr ≠ some provider.pairing.documentId then
      .error "extension document changed; pair the tab again"
    else if method = "navigate" ∧ ((result.get "phase").asStr ≠ some "dispatched" ∨
        (result.get "navigation_requested").asBool ≠ some true ∨ (result.get "completion_known").asBool ≠ some false ∨
        (result.get "effect").asStr ≠ some "unverified" ∨ (result.get "pairing_required").asBool ≠ some true ∨
        (result.get "fresh_observation_required").asBool ≠ some true) then
      .error "navigation_outcome_unknown: invalid navigation receipt"
    else
      .ok (.obj [("type", .str "browser_extension_result"), ("provider_id", .str providerId),
        ("origin", .str provider.pairing.origin), ("method", .str method), ("result", result)])

/-- The text before the first colon. -/
def errorCodeOf (message : String) : String := String.ofList (message.toList.takeWhile (· ≠ ':'))

/-- The codes of failures that leave the document alone. -/
def reusableCodes : List String :=
  ["navigation_unsupported", "target_not_foreground", "stale_observation", "command_expired", "navigation_target_refused",
    "navigation_cancelled"]

def navigationProviderMustRevoke (result : Except String Json) : Bool :=
  match result with
  | .error message => !reusableCodes.contains (errorCodeOf message)
  | .ok _ => true

end BrowserExtension
end DccCua
