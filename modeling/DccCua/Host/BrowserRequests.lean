import DccCua.Host.WindowSession

/-! # Browser requests

The calls of the browser session, which all go through the native session, and the requests of a task that make
them, together with the calls of a browser extension. The result of a call stands for what is read from it, its
images included. -/

namespace DccCua

open Checks Script Window

/-- The URL parsers, the hash and the test of a secret handle. -/
structure WindowEnv where
  parseUrl : String → Option Url
  parseHostUrl : String → Option BrowserExtension.HostUrl
  sha256 : String → String
  handleValid : String → Bool

abbrev CoreProg := Prog Window WindowEvent (Except ComputerUseError Json)

namespace BrowserSession

/-- The arguments that name the tab of a call. -/
def tabArgs (targetId tabId : String) : List (String × Json) := [("target_id", .str targetId), ("tab_id", .str tabId)]

def prepareArgs (request : BrowserPrepareRequest) : Except ComputerUseError Json := do
  require (request.approvalToken.all (·.length ≤ maxBrowserTextChars))
    (invalidBrowserRequest "browser approval_token exceeds the 4096-character limit")
  .ok (setOptional (.obj [("allow_launch", .bool request.allowLaunch)])
    [("approval_token", request.approvalToken.map .str), ("profile", request.profile), ("strategy", request.strategy)])

def navigateArgs (request : BrowserNavigateRequest) : Except ComputerUseError Json := do
  validateNavigateRequest request
  .ok (.obj (tabArgs request.targetId request.tabId ++
    [("url", .str request.url), ("delivery_mode", .str (request.deliveryMode.getD "background"))]))

def clickArgs (request : BrowserClickRequest) : Except ComputerUseError Json := do
  let route ← validateClickRequest request
  .ok (setOptional (.obj (tabArgs request.targetId request.tabId ++ [("input_route", .str route)]))
    [("ref", request.elementRef.map .str), ("x", request.x.map .real), ("y", request.y.map .real)])

def typeArgs (request : BrowserTypeRequest) (text : String) : Except ComputerUseError Json := do
  let mode ← validateTypeMode request.elementRef request.mode
  .ok (.obj (tabArgs request.targetId request.tabId ++
    [("ref", .str request.elementRef), ("text", .str text), ("mode", .str mode), ("replace", .bool request.replace)]))

def pointerArgs (request : BrowserPointerRequest) : Except ComputerUseError Json := do
  let route ← validatePointerRequest request
  .ok (setOptional (.obj (tabArgs request.targetId request.tabId ++
      [("action", .str request.action), ("input_route", .str route)]))
    [("ref", request.elementRef.map .str), ("destination_ref", request.destinationRef.map .str),
      ("delta_x", request.deltaX.map .real), ("delta_y", request.deltaY.map .real), ("x", request.x.map .real),
      ("y", request.y.map .real)])

/-- `files` are the paths that the file system gives for those of the request. -/
def setInputFilesArgs (request : BrowserSetInputFilesRequest) (files : Json) : Json :=
  .obj (tabArgs request.targetId request.tabId ++ [("ref", .str request.elementRef), ("files", files)])

def downloadArgs (request : BrowserDownloadRequest) (destinationRoot : Json) : Json :=
  .obj (tabArgs request.targetId request.tabId ++
    [("ref", .str request.elementRef), ("destination_root", destinationRoot)])

def dialogArgs (request : BrowserDialogRequest) : Except ComputerUseError Json := do
  validateDialogRequest request
  .ok (setOptional (.obj (tabArgs request.targetId request.tabId ++
      [("action", .str request.action), ("delivery_mode", .str (request.deliveryMode.getD "background"))]))
    [("dialog_id", request.dialogId.map .str), ("prompt_text", request.promptText.map .str)])

/-- A check of the browser session. -/
def check {α : Type} (f : BrowserSession → Except ComputerUseError α) : Prog Window WindowEvent (Except ComputerUseError α) :=
  Prog.read fun w => f w.host.browser

/-- `begin_snapshot_sensitive_native_attempt`, and the call goes out. -/
def beginCall (w : Window) (name : String) (args : Json) (snapshotId : Option String) : Window :=
  let b := w.host.browser
  { w with host := { w.host with browser := b.clearSnapshot } }.note
    (.browserCalled ⟨name, args, snapshotId, if b.mutationAllowed then b.targetId else none⟩)

def callBrowserTool (name : String) (args : Json) (snapshotId : Option String) : CoreProg :=
  (Prog.update fun w => ((), beginCall w name args snapshotId)).andThen fun _ => coreCall

def prepare (request : BrowserPrepareRequest) : CoreProg :=
  (check fun _ => prepareArgs request).tryThen fun args => callBrowserTool "browser_prepare" args none

def navigate (request : BrowserNavigateRequest) : CoreProg :=
  (check fun b => do b.requireExactTarget request.targetId; navigateArgs request).tryThen fun args =>
    callBrowserTool "browser_navigate" args none

def dialog (request : BrowserDialogRequest) : CoreProg :=
  (check fun b => do b.requireExactTarget request.targetId; dialogArgs request).tryThen fun args =>
    callBrowserTool "browser_dialog" args none

/-- A mutation of the tab of the last snapshot. Its arguments come after the check of the tab. -/
def mutate (name targetId tabId snapshotId : String) (args : CoreProg) : CoreProg :=
  (check fun b => b.requireMutationTarget targetId tabId snapshotId).tryThen fun _ => args.tryThen fun args =>
    callBrowserTool name args (some snapshotId)

def click (request : BrowserClickRequest) : CoreProg :=
  mutate "browser_click" request.targetId request.tabId request.snapshotId (Prog.ret (clickArgs request))

/-- `type_text` with the text of the resolved request. -/
def typeText (request : BrowserTypeRequest) (text : String) : CoreProg :=
  mutate "browser_type" request.targetId request.tabId request.snapshotId (Prog.ret (typeArgs request text))

def pointer (request : BrowserPointerRequest) : CoreProg :=
  mutate "browser_pointer" request.targetId request.tabId request.snapshotId (Prog.ret (pointerArgs request))

/-- What the file system says of a path. -/
def validatePaths : CoreProg := asking fun
  | .core _ result => some result
  | _ => none

def setInputFiles (request : BrowserSetInputFilesRequest) : CoreProg :=
  mutate "browser_set_input_files" request.targetId request.tabId request.snapshotId <|
    (Prog.ret (validateRef request.elementRef "browser_set_input_files ref")).tryThen fun _ =>
      validatePaths.tryThen fun files => Prog.ret (.ok (setInputFilesArgs request files))

def download (request : BrowserDownloadRequest) : CoreProg :=
  mutate "browser_download" request.targetId request.tabId request.snapshotId <|
    (Prog.ret (validateRef request.elementRef "browser_download ref")).tryThen fun _ =>
      validatePaths.tryThen fun root => Prog.ret (.ok (downloadArgs request root))

/-- `validate_type_request`. -/
def validateTypeRequest (handleValid : String → Bool) (b : BrowserSession) (request : BrowserTypeRequest) :
    Except ComputerUseError Unit := do
  validateSource handleValid request
  b.requireMutationTarget request.targetId request.tabId request.snapshotId
  let _ ← validateTypeMode request.elementRef request.mode
  .ok ()

/-- The response of a snapshot without a target binds the session. -/
def receiveBinding (expected : Option AncestorScopeExpectation) (response : Json) (b : BrowserSession) :
    Except ComputerUseError BrowserSession := do
  let validated ← validateAncestorScopeResponse response expected
  require validated.isNone (browserUnavailable "CUA ancestor-scoped snapshot omitted its exact target and tab")
  b.storeBinding response

/-- The response of a snapshot of a tab; a structured refusal is handed on and stores nothing. -/
def receiveSnapshot (env : WindowEnv) (targetId tabId : String) (expected : Option AncestorScopeExpectation) (response : Json)
    (b : BrowserSession) : Except ComputerUseError BrowserSession := do
  if ← browserResultIsStructuredRefusal response then .ok b
  else
    let validated ← validateAncestorScopeResponse response expected
    .ok (b.storeSnapshot env.parseUrl targetId tabId response validated)

/-- Take in the response of a snapshot; what is stored was taken in the present epoch. -/
def receive (f : Json → BrowserSession → Except ComputerUseError BrowserSession) (response : Json) : CoreProg :=
  Prog.update fun w =>
    match f response w.host.browser with
    | .error error => (.error error, w)
    | .ok browser =>
      (.ok response, { w with host := { w.host with
        browser := browser
        takenAt := { w.host.takenAt with browser := w.host.evidenceEpoch } } })

def snapshotFormats : List String := ["dom_refs_v1", "semantic_v2"]

def bindTarget (request : BrowserSnapshotRequest) (args : Json) (expected : Option AncestorScopeExpectation) : CoreProg :=
  (check fun _ => require request.tabId.isNone (invalidBrowserRequest "tab_id requires target_id")).tryThen fun _ =>
    (callBrowserTool "get_browser_state" args none).tryThen (receive (receiveBinding expected))

/-- The tab of a snapshot request. -/
def snapshotTab (request : BrowserSnapshotRequest) : Except ComputerUseError String :=
  match request.tabId with
  | none => .error (invalidBrowserRequest "tab_id is required for browser snapshot mode")
  | some tabId => do
    require (Text.trim tabId ≠ "") (invalidBrowserRequest "tab_id must not be empty")
    .ok tabId

def snapshotTarget (env : WindowEnv) (request : BrowserSnapshotRequest) (args : Json) (targetId : String)
    (expected : Option AncestorScopeExpectation) : CoreProg :=
  (check fun b => do b.requireBoundTarget targetId; snapshotTab request).tryThen fun tabId =>
    (callBrowserTool "get_browser_state" ((args.set "target_id" (.str targetId)).set "tab_id" (.str tabId)) none).tryThen
      (receive (receiveSnapshot env targetId tabId expected))

def snapshot (env : WindowEnv) (request : BrowserSnapshotRequest) : CoreProg :=
  (check fun b => do
    require (request.snapshotFormat ∈ snapshotFormats)
      (invalidBrowserRequest "snapshot_format must be dom_refs_v1 or semantic_v2")
    let args ← browserSnapshotArgs request
    let expected ← b.ancestorScopeExpectation request
    .ok (args, expected)).tryThen fun (args, expected) =>
  match request.targetId with
  | none => bindTarget request args expected
  | some targetId => snapshotTarget env request args targetId expected

end BrowserSession

namespace Window

/-- What an extension or the vault answers. -/
def answer : WindowProg Json := asking fun
  | .answered result => some result
  | _ => none

/-- A call of the browser session as a request makes it. -/
def browserAttempt (call : CoreProg) : WindowProg Json :=
  (finished call).andThen fun result => (lift result).tryThen withImages

def browserSnapshot (env : WindowEnv) (request : BrowserSnapshotRequest) : WindowProg Json :=
  (BrowserSession.snapshot env request).andThen fun result =>
    (Prog.update fun w => w.finishBrowserSnapshotAttempt result).tryThen withImages

def browserPrepare (request : BrowserPrepareRequest) : WindowProg Json :=
  (permitted (·.browserPrepare) (denied .browserPrepareNotGranted "browser preparation")).tryThen fun _ =>
    browserAttempt (BrowserSession.prepare request)

def browserInputPermitted : WindowProg Unit :=
  permitted (·.browserInput) (denied .browserInputNotGranted "browser input")

/-- `exact_http_origin`. -/
def exactHttpOrigin (env : WindowEnv) (url : String) : Except RequestError String :=
  match env.parseUrl url with
  | none => .error (.protocol "browser URL must be absolute")
  | some url => do
    require (url.scheme = "http" || url.scheme = "https")
      (.protocol "authorized browser navigation requires an HTTP(S) URL")
    .ok url.originAsciiSerialization

def browserNavigate (env : WindowEnv) (request : BrowserNavigateRequest) : WindowProg Json :=
  browserInputPermitted.tryThen fun _ =>
    (check fun host => do host.requireAllowedBrowserOrigin (← exactHttpOrigin env request.url)).tryThen fun _ =>
      browserAttempt (BrowserSession.navigate request)

def browserDialog (request : BrowserDialogRequest) : WindowProg Json :=
  browserInputPermitted.tryThen fun _ =>
    (check (·.requireCurrentAllowedBrowserOrigin)).tryThen fun _ => browserAttempt (BrowserSession.dialog request)

/-- What every mutation passes before its own call. -/
def browserMutation (granted : WindowProg Unit) (mutation : WindowProg Json) : WindowProg Json :=
  granted.tryThen fun _ =>
    (Prog.update requireCurrentBrowserEvidenceEpoch).tryThen fun _ =>
      (check (·.requireCurrentAllowedBrowserOrigin)).tryThen fun _ => mutation

def browserClick (request : BrowserClickRequest) : WindowProg Json :=
  browserMutation browserInputPermitted (browserAttempt (BrowserSession.click request))

/-- `resolve_browser_type_request`, where a secret is confirmed by the user and looked up in the vault: the text, or
    nothing if the confirmation is refused. -/
def resolveBrowserTypeRequest (env : WindowEnv) (request : BrowserTypeRequest) : WindowProg (Option String) :=
  ((BrowserSession.check fun b => BrowserSession.validateTypeRequest env.handleValid b request).andThen lift).tryThen fun _ =>
    match request.secretHandle with
    | none => (lift (resolveText env.handleValid request none)).tryThen fun text => Prog.ret (.ok (some text))
    | some _ => choice.andThen fun allowed =>
      if allowed then answer.tryThen fun secret =>
        (lift (resolveText env.handleValid request secret.asStr)).tryThen fun text => Prog.ret (.ok (some text))
      else Prog.ret (.ok none)

def browserType (env : WindowEnv) (request : BrowserTypeRequest) : WindowProg Json :=
  browserMutation browserInputPermitted <|
    (resolveBrowserTypeRequest env request).tryThen fun
      | some text => browserAttempt (BrowserSession.typeText request text)
      | none => Prog.ret (.ok .null)

def browserPointer (request : BrowserPointerRequest) : WindowProg Json :=
  browserMutation browserInputPermitted (browserAttempt (BrowserSession.pointer request))

def browserSetInputFiles (request : BrowserSetInputFilesRequest) : WindowProg Json :=
  browserMutation browserInputPermitted (browserAttempt (BrowserSession.setInputFiles request))

def browserDownload (request : BrowserDownloadRequest) : WindowProg Json :=
  browserMutation (permitted (·.browserDownload) (denied .browserDownloadNotGranted "browser download"))
    (browserAttempt (BrowserSession.download request))

/-! ### Browser extensions -/

/-- The error of a check gives up what is retained. -/
def orInvalidate {α : Type} (p : WindowProg α) : WindowProg α :=
  p.andThen fun
    | .ok a => Prog.ret (.ok a)
    | .error error => (modify invalidateObservations).tryThen fun _ => Prog.ret (.error error)

def extensionInputReady (availability : ComputerUseTargetAvailability) (host : HostSession) : Except RequestError Unit :=
  require (availability.foreground && availability.status = .available && host.inputEvents.inputCurrent.status = .ready)
    (.protocol "extension input requires a foreground ready exact window")

/-- The action that an input through the extension is. -/
def extensionAction (env : WindowEnv) (request : BrowserExtension.BrowserExtensionCall) (w : Window) : Except RequestError Json :=
  match w.host.extensionObservation with
  | none => .error (.protocol "take a fresh task-owned extension snapshot")
  | some observation => mapError .protocol (observation.action env.parseHostUrl env.sha256 (w.now * 10 ^ 6) request.providerId
      request.expectedOrigin request.method request.params)

def authorizeExtensionInput (env : WindowEnv) (request : BrowserExtension.BrowserExtensionCall) : WindowProg Unit :=
  (coreCall.andThen lift).tryThen fun state =>
    (modify fun w => w.observeTargetState state).tryThen fun _ =>
      readinessSample.andThen fun readiness =>
        (modify fun w => w.observeInputReadiness readiness).tryThen fun _ =>
          (check (extensionInputReady (availabilityOfState state))).tryThen fun _ =>
            (Prog.update requireCurrentBrowserEvidenceEpoch).tryThen fun _ =>
              (Prog.read (extensionAction env request)).tryThen fun _ => decision

/-- A snapshot of the extension is published as evidence, and retained. -/
def publishExtension (w : Window) (observation : BrowserExtension.ExtensionObservation) : Window :=
  let w := (w.note .extensionPublished).synchronizeActionEvidenceEpochWith .browserSnapshot
  { w with host := { w.host with
      extensionObservation := some observation
      takenAt := { w.host.takenAt with extension := w.host.evidenceEpoch } } }

def finishExtensionCall (request : BrowserExtension.BrowserExtensionCall) (response : Json) : WindowProg Json :=
  if request.method = "snapshot" then
    Prog.update fun w =>
      match BrowserExtension.ExtensionObservation.new request.providerId request.expectedOrigin (response.get "result")
          (w.now * 10 ^ 6) with
      | .error message => (.error (.protocol message), w)
      | .ok observation => (.ok response, w.publishExtension observation)
  else (modify invalidateObservations).tryThen fun _ => Prog.ret (.ok response)

/-- What the session requires of a call before the provider is claimed. -/
def extensionCallGranted (request : BrowserExtension.BrowserExtensionCall) (host : HostSession) : Except RequestError Unit := do
  host.requireTaskAuthorizedMethod "browser_extension_call"
  host.requireAllowedBrowserOrigin request.expectedOrigin
  require (request.method ∈ ["snapshot", "click", "type", "navigate"]) (.protocol "unsupported task extension method")
  require (request.method ∉ ["click", "type", "navigate", "unpair"] || host.permissions.browserInput)
    (.codedProtocol .browserInputNotGranted "browser input is not granted for the logical task session")

/-- The provider is claimed outside of the session, and must have the capability to navigate. -/
def browserExtensionCall (env : WindowEnv) (request : BrowserExtension.BrowserExtensionCall) : WindowProg Json :=
  (check (extensionCallGranted request)).tryThen fun _ =>
    decision.tryThen fun _ =>
      (if request.method = "snapshot" then Prog.ret (.ok ()) else orInvalidate (authorizeExtensionInput env request)).tryThen fun _ =>
        (modify invalidateObservations).tryThen fun _ => answer.tryThen (finishExtensionCall request)

def browserExtensionStatus : WindowProg Json :=
  (check (·.requireTaskAuthorizedMethod "browser_extension_status")).tryThen fun _ => Prog.ret (.ok .null)

end Window
end DccCua
