import DccCua.Core.LiveObservation
import DccCua.Host.TaskAuthorization
import DccCua.Lib.Checks
import DccCua.Lib.Json

/-! # The browser session

The binding of a session to a browser target and the evidence of its last snapshot, the requests that read or
use them, and what a snapshot response has to look like. The calls themselves, which go through the native
session, are programs of the Host. The contents of files and the images of a response are left out. -/

namespace DccCua

open Checks

def maxBrowserUrlChars : Nat := 4096
def maxBrowserTextChars : Nat := 4096
def maxUploadFiles : Nat := 32

def invalidBrowserRequest (message : String) : ComputerUseError := ⟨.invalidAction, message⟩
def browserUnavailable (message : String) : ComputerUseError := ⟨.backendUnavailable, message⟩

structure PendingAncestorContinuation where
  token : String
  targetId : String
  tabId : String
  snapshotId : String
  anchor : Json

structure BrowserSession where
  targetId : Option String
  mutationAllowed : Bool
  latestSnapshotId : Option String
  latestTabId : Option String
  latestOrigin : Option String
  pendingAncestorContinuation : Option PendingAncestorContinuation

/-! ### Requests -/

structure BrowserSnapshotRequest where
  targetId : Option String
  tabId : Option String
  snapshotFormat : String
  scopeRef : Option String
  scopeAncestorRole : Option String
  query : Option String
  continuation : Option String
  includeScreenshot : Bool

structure BrowserPrepareRequest where
  approvalToken : Option String
  allowLaunch : Bool
  profile : Option Json
  strategy : Option Json

structure BrowserNavigateRequest where
  targetId : String
  tabId : String
  url : String
  deliveryMode : Option String

/-- Coordinates are numbers of JSON. -/
structure BrowserClickRequest where
  targetId : String
  tabId : String
  snapshotId : String
  elementRef : Option String
  x : Option Rat
  y : Option Rat
  inputRoute : Option String

structure BrowserTypeRequest where
  targetId : String
  tabId : String
  snapshotId : String
  elementRef : String
  text : Option String
  secretHandle : Option String
  mode : Option String
  replace : Bool

structure BrowserPointerRequest where
  targetId : String
  tabId : String
  snapshotId : String
  elementRef : Option String
  destinationRef : Option String
  action : String
  inputRoute : Option String
  deltaX : Option Rat
  deltaY : Option Rat
  x : Option Rat
  y : Option Rat

structure BrowserSetInputFilesRequest where
  targetId : String
  tabId : String
  snapshotId : String
  elementRef : String
  files : List String

structure BrowserDownloadRequest where
  targetId : String
  tabId : String
  snapshotId : String
  elementRef : String
  destinationRoot : String

structure BrowserDialogRequest where
  targetId : String
  tabId : String
  action : String
  dialogId : Option String
  promptText : Option String
  deliveryMode : Option String

def validateRoute (route : Option String) : Except ComputerUseError String :=
  let route := route.getD "trusted"
  if route ≠ "trusted" ∧ route ≠ "dom_event" then .error (invalidBrowserRequest "input_route must be trusted or dom_event")
  else .ok route

def validateUrl (url : String) : Except ComputerUseError Unit := do
  require (url.length ≤ maxBrowserUrlChars) (invalidBrowserRequest "browser URL exceeds the 4096-character limit")
  let lower := Text.toAsciiLowercase url
  require (["http://", "https://", "about:"].any (Text.startsWith lower))
    (invalidBrowserRequest "browser_navigate accepts only http, https, and about URLs")

def validateNavigateRequest (request : BrowserNavigateRequest) : Except ComputerUseError Unit := do
  validateUrl request.url
  require (request.deliveryMode.all fun mode => mode = "background" || mode = "foreground")
    (invalidBrowserRequest "browser_navigate delivery_mode must be background or foreground")

/-- The checks of `click` after its target; the route goes on. -/
def validateClickRequest (request : BrowserClickRequest) : Except ComputerUseError String := do
  let route ← validateRoute request.inputRoute
  require (request.elementRef.isSome || request.x.isSome) (invalidBrowserRequest "browser_click requires ref or x/y coordinates")
  require (request.x.isSome == request.y.isSome) (invalidBrowserRequest "browser_click coordinates require both x and y")
  require (route ≠ "dom_event" || request.elementRef.isSome) (invalidBrowserRequest "dom_event browser_click requires ref")
  .ok route

def validateTypeMode (elementRef : String) (mode : Option String) : Except ComputerUseError String := do
  require (Text.trim elementRef ≠ "") (invalidBrowserRequest "browser_type ref must not be empty")
  let mode := mode.getD "insert_text"
  require (mode = "insert_text" || mode = "keystrokes")
    (invalidBrowserRequest "browser_type mode must be insert_text or keystrokes")
  .ok mode

/-- `validate_source`; `handleValid` is the test of a secret handle. -/
def validateSource (handleValid : String → Bool) (request : BrowserTypeRequest) : Except ComputerUseError Unit :=
  match request.text, request.secretHandle with
  | some text, none =>
    require (text.length ≤ maxBrowserTextChars) (invalidBrowserRequest "browser_type text exceeds the 4096-character limit")
  | none, some handle => require (handleValid handle) (invalidBrowserRequest "browser_type secret_handle is invalid")
  | some _, some _ => .error (invalidBrowserRequest "browser_type text and secret_handle are mutually exclusive")
  | none, none => .error (invalidBrowserRequest "browser_type requires exactly one of text or secret_handle")

/-- `resolve` with the secret that was looked up, if there was one to look up. -/
def resolveText (handleValid : String → Bool) (request : BrowserTypeRequest) (secret : Option String) :
    Except ComputerUseError String := do
  validateSource handleValid request
  let text ← match request.text, request.secretHandle, secret with
    | some text, none, none => .ok text
    | none, some _, some secret => .ok secret
    | _, _, _ => .error (invalidBrowserRequest "browser_type secret resolution does not match its input")
  require (text.length ≤ maxBrowserTextChars) (invalidBrowserRequest "browser_type text exceeds the 4096-character limit")
  .ok text

def validatePointerRequest (request : BrowserPointerRequest) : Except ComputerUseError String := do
  require (request.action ∈ ["hover", "right_click", "double_click", "scroll", "drag"])
    (invalidBrowserRequest "unsupported browser_pointer action")
  let route ← validateRoute request.inputRoute
  require (route ≠ "dom_event" || request.elementRef.isSome) (invalidBrowserRequest "dom_event browser_pointer requires ref")
  require (request.action ≠ "drag" || request.destinationRef.isSome)
    (invalidBrowserRequest "browser drag requires destination_ref")
  .ok route

def validateRef (value field : String) : Except ComputerUseError Unit :=
  require (Text.trim value ≠ "") (invalidBrowserRequest (field ++ " must not be empty"))

def validateDialogRequest (request : BrowserDialogRequest) : Except ComputerUseError Unit := do
  require (request.action ∈ ["inspect", "accept", "dismiss"])
    (invalidBrowserRequest "browser_dialog action must be inspect, accept, or dismiss")
  require (request.action = "inspect" || request.dialogId.isSome)
    (invalidBrowserRequest "browser_dialog accept/dismiss requires dialog_id")
  request.promptText.elim (.ok ()) fun promptText => do
    require (request.action = "accept") (invalidBrowserRequest "browser_dialog prompt_text is valid only for accept")
    require (promptText.length ≤ maxBrowserTextChars)
      (invalidBrowserRequest "browser_dialog prompt_text exceeds the 4096-character limit")
  require (request.deliveryMode.all fun mode => mode = "background" || mode = "foreground")
    (invalidBrowserRequest "browser_dialog delivery_mode must be background or foreground")

/-- Optional fields of the arguments of a call. -/
def setOptional (args : Json) : List (String × Option Json) → Json
  | [] => args
  | (name, some value) :: rest => setOptional (args.set name value) rest
  | (_, none) :: rest => setOptional args rest

/-! ### Responses -/

def structuredContent (value : Json) : Except ComputerUseError Json :=
  match value.get "structuredContent" with
  | .obj fields => .ok (.obj fields)
  | _ => .error (browserUnavailable "CUA browser tool omitted structuredContent")

def browserSnapshotId (value : Json) : Option String :=
  ((value.get "structuredContent").get "snapshot_id").asStr.or (((value.get "structuredContent").get "snapshot").get "id").asStr

section
variable (parseUrl : String → Option Url)

def validOrigin (value : String) : Bool :=
  (parseUrl value).any fun url =>
    (url.scheme = "http" || url.scheme = "https") && url.originAsciiSerialization = value && url.path = "/" &&
      url.query.isNone && url.fragment.isNone

/-- The URL of the snapshot of a tab. -/
def snapshotUrl (structured : Json) (tabId : String) : Option String :=
  (structured.get "url").asStr.or
    (((structured.get "snapshot").get "url").asStr.or
      ((if (structured.get "tab_id").asStr = some tabId then ((structured.get "page").get "url").asStr else none).or
        ((((structured.get "tabs").asArray.getD []).find? fun tab => (tab.get "tab_id").asStr = some tabId).bind fun tab =>
          (tab.get "url").asStr)))

def browserSnapshotOrigin (value : Json) (tabId : String) : Option String :=
  let structured := value.get "structuredContent"
  match (structured.get "origin").asStr.filter (validOrigin parseUrl) with
  | some origin => some origin
  | none =>
    ((snapshotUrl structured tabId).bind parseUrl).bind fun url =>
      if url.scheme = "http" ∨ url.scheme = "https" then some url.originAsciiSerialization else none

end

def isNull : Json → Bool
  | .null => true
  | _ => false

def publishesSnapshotEvidence (value : Json) : Bool :=
  match structuredContent value with
  | .ok structured =>
    (structured.get "status").asStr = some "ok" && (structured.get "mode").asStr = some "snapshot" &&
      isNull (structured.get "refusal") && (browserSnapshotId value).isSome
  | .error _ => false

def browserResultIsStructuredRefusal (value : Json) : Except ComputerUseError Bool := do
  let structured ← structuredContent value
  .ok ((structured.get "status").asStr = some "refused" || !isNull (structured.get "refusal"))

/-! ### Ancestor scopes -/

inductive AncestorScopeExpectation where
  | initial (requestedRef role targetId tabId : String)
  | continuation (pending : PendingAncestorContinuation)
  | untrackedContinuation (targetId tabId : String)

structure ValidatedAncestorScope where
  snapshotId : String
  anchor : Json
  continuation : Option String

def isRoleChar (c : Char) : Bool := c.isAlphanum || c = '_' || c = '-'

def validateAncestorScopeRequest (request : BrowserSnapshotRequest) : Except ComputerUseError Unit :=
  match request.scopeAncestorRole with
  | none => .ok ()
  | some role => do
    require (request.snapshotFormat = "semantic_v2")
      (invalidBrowserRequest "scope_ancestor_role requires snapshot_format semantic_v2")
    require (request.targetId.any (· ≠ "") && request.tabId.any (· ≠ ""))
      (invalidBrowserRequest "scope_ancestor_role requires both target_id and tab_id")
    require (request.scopeRef.any (· ≠ "") && request.query.isSome)
      (invalidBrowserRequest "scope_ancestor_role requires both scope_ref and query")
    require request.continuation.isNone (invalidBrowserRequest "scope_ancestor_role cannot be combined with continuation")
    require (role.toList.head?.any Char.isAlpha && role.length ≤ 128 && role.toList.all isRoleChar)
      (invalidBrowserRequest "scope_ancestor_role must be an ASCII accessibility role of 1 to 128 bytes")

def browserSnapshotArgs (request : BrowserSnapshotRequest) : Except ComputerUseError Json := do
  validateAncestorScopeRequest request
  .ok (setOptional (.obj [("snapshot_format", .str request.snapshotFormat), ("include_screenshot", .bool request.includeScreenshot)])
    [("scope_ref", request.scopeRef.map .str), ("scope_ancestor_role", request.scopeAncestorRole.map .str),
      ("query", request.query.map .str), ("continuation", request.continuation.map .str)])

def AncestorScopeExpectation.target : AncestorScopeExpectation → String × String
  | .initial _ _ targetId tabId => (targetId, tabId)
  | .untrackedContinuation targetId tabId => (targetId, tabId)
  | .continuation pending => (pending.targetId, pending.tabId)

/-- The anchor of a continuation that this session does not track. -/
def validateUntrackedContinuation (snapshot : Json) : Except ComputerUseError Unit :=
  if (snapshot.get "scope").asStr ≠ some "continuation" then
    .error (browserUnavailable "CUA untracked continuation returned inconsistent scope evidence")
  else match snapshot.field? "scope_anchor" with
    | none => .error (browserUnavailable "CUA untracked continuation omitted scope anchor evidence")
    | some .null => .ok ()
    | some anchor =>
      match (anchor.get "distance").asU64 with
      | some 0 => .ok ()
      | some _ => .error ⟨.staleObservation, "ancestor-scoped continuation is no longer tracked by this Host session"⟩
      | none => .error (browserUnavailable "CUA continuation returned malformed scope anchor evidence")

/-- The scope evidence of a snapshot is what was asked for. -/
def ancestorEvidenceMatches (expected : AncestorScopeExpectation) (snapshot anchor : Json) (snapshotId : String) : Bool :=
  match expected with
  | .initial requestedRef role _ _ =>
    (snapshot.get "scope").asStr = some "ancestor_subtree" && (anchor.get "requested_ref").asStr = some requestedRef &&
      (anchor.get "role").asStr = some role &&
      (anchor.get "frame").asStr.any (fun frame => frame ∈ ["main", "iframe", "oopif"]) &&
      (anchor.get "distance").asU64.any (0 < ·)
  | .continuation pending =>
    (snapshot.get "scope").asStr = some "continuation" && snapshotId = pending.snapshotId && Json.same anchor pending.anchor
  | .untrackedContinuation _ _ => false

def validateContinuation (expected : AncestorScopeExpectation) (snapshot : Json) : Except ComputerUseError (Option String) := do
  let continuation ← match snapshot.field? "continuation" with
    | none | some .null => .ok none
    | some (.str token) =>
      if token ≠ "" then .ok (some token)
      else .error (browserUnavailable "CUA ancestor-scoped snapshot returned an invalid continuation token")
    | some _ => .error (browserUnavailable "CUA ancestor-scoped snapshot returned an invalid continuation token")
  require (match expected with
    | .continuation pending => continuation ≠ some pending.token
    | _ => true) (browserUnavailable "CUA ancestor-scoped continuation token was not rotated")
  require (continuation.isNone || (snapshot.get "complete").asBool = some false)
    (browserUnavailable "CUA ancestor-scoped snapshot returned a continuation for a complete page")
  .ok continuation

/-- `validate_ancestor_scope_response` for a response that has an expectation. -/
def validateExpectedAncestorScope (value : Json) (expected : AncestorScopeExpectation) :
    Except ComputerUseError (Option ValidatedAncestorScope) := do
  let structured ← structuredContent value
  require ((structured.get "status").asStr = some "ok" && isNull (structured.get "refusal"))
    (browserUnavailable "CUA ancestor-scoped snapshot omitted a successful status")
  let snapshot := structured.get "snapshot"
  require snapshot.asObject.isSome (browserUnavailable "CUA ancestor-scoped snapshot omitted snapshot evidence")
  require ((structured.get "target_id").asStr = some expected.target.1 && (structured.get "tab_id").asStr = some expected.target.2 &&
    (snapshot.get "format").asStr = some "semantic_v2")
    (browserUnavailable "CUA ancestor-scoped snapshot returned inconsistent target, tab, or format evidence")
  match (snapshot.get "id").asStr.filter (· ≠ "") with
  | none => .error (browserUnavailable "CUA ancestor-scoped snapshot omitted its snapshot id")
  | some snapshotId => do
    require (isNull (structured.get "snapshot_id") || (structured.get "snapshot_id").asStr = some snapshotId)
      (browserUnavailable "CUA ancestor-scoped snapshot returned conflicting snapshot ids")
    match expected with
    | .untrackedContinuation _ _ => do
      validateUntrackedContinuation snapshot
      .ok none
    | expected => do
      let anchor := snapshot.get "scope_anchor"
      require anchor.asObject.isSome (browserUnavailable "CUA ancestor-scoped snapshot omitted scope_anchor evidence")
      require (ancestorEvidenceMatches expected snapshot anchor snapshotId)
        (browserUnavailable "CUA ancestor-scoped snapshot returned inconsistent scope evidence")
      let continuation ← validateContinuation expected snapshot
      .ok (some ⟨snapshotId, anchor, continuation⟩)

def validateAncestorScopeResponse (value : Json) (expected : Option AncestorScopeExpectation) :
    Except ComputerUseError (Option ValidatedAncestorScope) :=
  match expected with
  | none => .ok none
  | some expected => validateExpectedAncestorScope value expected

namespace BrowserSession

def clearSnapshot (b : BrowserSession) : BrowserSession :=
  { b with latestSnapshotId := none, latestTabId := none, latestOrigin := none, pendingAncestorContinuation := none }

/-- `BrowserSession::default`. -/
def empty : BrowserSession := ⟨none, false, none, none, none, none⟩

/-- `bind_authorized_exact_target` of a fresh session; the target was checked with the lease. -/
def exact (targetId : String) : BrowserSession := ⟨some targetId, true, none, none, none, none⟩

def bindAuthorizedExactTarget (b : BrowserSession) (targetId : String) : Except ComputerUseError BrowserSession := do
  require (Text.printable targetId 256) (invalidBrowserRequest "authorized browser target_id is invalid")
  require (b.targetId.all (· = targetId))
    ⟨.staleObservation, "authorized browser target does not match the existing Host binding"⟩
  .ok { b.clearSnapshot with targetId := some targetId, mutationAllowed := true }

def requireBoundTarget (b : BrowserSession) (targetId : String) : Except ComputerUseError Unit :=
  require (b.targetId = some targetId) ⟨.staleObservation, "browser target is not bound to this Host session"⟩

def requireExactTarget (b : BrowserSession) (targetId : String) : Except ComputerUseError Unit := do
  b.requireBoundTarget targetId
  require b.mutationAllowed ⟨.browserRefused, "browser binding is not exact and is read-only"⟩

def requireMutationTarget (b : BrowserSession) (targetId tabId snapshotId : String) : Except ComputerUseError Unit := do
  b.requireExactTarget targetId
  require (b.latestSnapshotId.isSome && b.latestTabId = some tabId)
    ⟨.staleObservation, "take a fresh browser snapshot before mutating the tab"⟩
  require (b.latestSnapshotId = some snapshotId)
    ⟨.staleObservation, "browser snapshot_id does not match the latest browser snapshot"⟩

def ancestorScopeExpectation (b : BrowserSession) (request : BrowserSnapshotRequest) :
    Except ComputerUseError (Option AncestorScopeExpectation) :=
  match request.scopeAncestorRole with
  | some role =>
    .ok (some (.initial (request.scopeRef.getD "") (Text.toAsciiLowercase role) (request.targetId.getD "") (request.tabId.getD "")))
  | none =>
    match request.continuation with
    | none => .ok none
    | some token =>
      match b.pendingAncestorContinuation with
      | none =>
        match request.targetId, request.tabId with
        | some targetId, some tabId => .ok (some (.untrackedContinuation targetId tabId))
        | _, _ => .ok none
      | some pending =>
        if token = pending.token ∧ request.targetId = some pending.targetId ∧ request.tabId = some pending.tabId then
          if request.snapshotFormat ≠ "semantic_v2" ∨ request.scopeRef.isSome ∨ request.query.isSome then
            .error (invalidBrowserRequest "tracked ancestor continuation requires semantic_v2 and cannot include scope_ref or query")
          else .ok (some (.continuation pending))
        else .error ⟨.staleObservation, "ancestor-scoped continuation does not match the latest exact tab evidence"⟩

/-- The binding of a response that names a target. -/
def storeBinding (b : BrowserSession) (value : Json) : Except ComputerUseError BrowserSession := do
  let structured ← structuredContent value
  match structured.get "refusal" with
  | .obj refusal =>
    .error ⟨.browserRefused, ((Json.obj refusal).get "code").asStr.getD "browser_refused" ++ ": " ++
      ((Json.obj refusal).get "message").asStr.getD "CUA refused the browser binding"⟩
  | _ =>
    match (structured.get "target_id").asStr.filter (· ≠ "") with
    | none => .error (invalidBrowserRequest "browser bind omitted target_id")
    | some targetId =>
      .ok { b.clearSnapshot with
        targetId := some targetId
        mutationAllowed := (structured.get "binding_quality").asStr = some "exact" && (structured.get "mutation_allowed").asBool = some true }

/-- The evidence of a snapshot of a tab. -/
def storeSnapshot (parseUrl : String → Option Url) (b : BrowserSession) (targetId tabId : String) (value : Json)
    (validated : Option ValidatedAncestorScope) : BrowserSession :=
  { b with
    latestSnapshotId := (validated.map ValidatedAncestorScope.snapshotId).or (browserSnapshotId value)
    latestTabId := some tabId
    latestOrigin := browserSnapshotOrigin parseUrl value tabId
    pendingAncestorContinuation := validated.bind fun scope =>
      scope.continuation.map fun token => ⟨token, targetId, tabId, scope.snapshotId, scope.anchor⟩ }

end BrowserSession
end DccCua
