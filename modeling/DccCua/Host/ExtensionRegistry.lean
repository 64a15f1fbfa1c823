import DccCua.Extension.Navigation
import DccCua.Lib.Runs

/-! # The registry of extension providers

`BrowserExtensionRegistry` of `browser_extension.rs`, with all requests that use it at one time: registrations, claims, polls,
completions, unregistrations and calls. Between two of its awaits a request is one step. A request keeps the provider that it
has found, also when the provider leaves the registry meanwhile, and a drawn UUID is a new one. When time runs out, and which
providers `prune_stale` finds stale, is part of the input; `ExtensionPolls` says more of the latter. -/

namespace DccCua
namespace BrowserExtension

open Checks Runs

/-- `PROVIDER_QUEUE_CAPACITY`. -/
def providerQueueCapacity : Nat := 16

/-- A provider that has been registered, with its `commands` channel and the ids of its `pending` calls. -/
structure HeldProvider where
  provider : Provider
  queue : List Json
  pending : List String

/-- A `claim` between the look at the provider and the look at its owner. -/
structure ClaimRun where
  providerId : String
  taskCapability : String
  done : Bool
  deriving DecidableEq, Repr

inductive PollStage where
  | waiting
  /-- It holds `commands_rx`. -/
  | receiving
  | done
  deriving DecidableEq, Repr

structure PollRun where
  providerId : String
  stage : PollStage
  deriving DecidableEq, Repr

inductive CompletionStage where
  | authorized
  /-- It has taken the sender of a call from `pending`. -/
  | took (requestId : String)
  | done
  deriving DecidableEq, Repr

structure CompletionRun where
  providerId : String
  secret : String
  response : Json
  stage : CompletionStage

inductive UnregisterStage where
  | authorized
  | removed
  | done
  deriving DecidableEq, Repr

structure UnregisterRun where
  providerId : String
  stage : UnregisterStage
  deriving DecidableEq, Repr

inductive CallStage where
  | found
  | ready
  | built (command : Json)
  /-- Its sender is pending; the command waits for room in the queue. -/
  | sending (command : Json)
  | waiting
  | received (response : Json)
  /-- Its receiver is dropped; the command was not sent. -/
  | unsent
  /-- Its receiver is dropped. -/
  | unanswered (answer : CallAnswer)
  | done

/-- The receiver of the response exists. -/
def CallStage.receives : CallStage → Bool
  | .sending _ | .waiting => true
  | _ => false

structure CallRun where
  providerId : String
  method : String
  params : Json
  timeoutMs : Nat
  requestId : Option String
  stage : CallStage

/-- `held` are all providers that were ever registered, `registered` the ids of those that are; `sent` is what was sent to the
    receiver of a call. -/
structure ExtensionRegistry where
  drawn : List String
  registered : List String
  held : String → Option HeldProvider
  sent : String → Option Json
  claims : List ClaimRun
  polls : List PollRun
  completions : List CompletionRun
  unregisters : List UnregisterRun
  calls : List CallRun

inductive RegistryStep where
  | register (hello : Json) (invocationOrigin : String) (browserProcessId : Nat) (nativeWindow : Option Nat)
      (taskOwner : Option String) (providerId secret : String)
  /-- What `prune_stale` removes, or a navigation that needs a new pairing. -/
  | remove (providerIds : List String)
  | startClaim (providerId : String) (pid hwnd : Nat) (origin taskCapability : String)
  | takeOwner (claim : Nat)
  | startPoll (providerId secret : String) (timeoutMs : Nat)
  | lockQueue (poll : Nat)
  | receiveCommand (poll : Nat)
  | pollTimesOut (poll : Nat)
  | startCompletion (providerId secret : String) (response : Json)
  | takeSender (completion : Nat)
  | sendResponse (completion : Nat)
  | startUnregister (providerId secret : String)
  | removeProvider (unregister : Nat)
  | clearPending (unregister : Nat)
  | startCall (providerId expectedOrigin : String) (expectedProcessId : Nat) (method : String) (params : Json) (timeoutMs : Nat)
  | checkNavigation (call : Nat)
  | buildCommand (call : Nat) (requestId : String) (nowUnixMs : Nat)
  | insertPending (call : Nat)
  | sendCommand (call : Nat)
  | sendTimesOut (call : Nat)
  /-- The receiver is looked at; `expired` says that the time is up. -/
  | pollReceiver (call : Nat) (expired : Bool)
  | removePending (call : Nat)
  | finishCall (call : Nat)

/-- What a step does for the request that it belongs to: a poll gets a command or none, a call gets its response, or a request
    returns. -/
inductive RegistryOutput where
  | nothing
  | handed (providerId : String) (command : Option Json)
  | answered (call : Nat) (response : Json)
  | returned (result : Except String Json)

def setAt {α : Type} (f : String → Option α) (name : String) (value : α) : String → Option α :=
  fun other => if other = name then some value else f other

/-- The checks of `call` on the provider that it has found. -/
def checkCallTarget (provider : Provider) (expectedOrigin : String) (expectedProcessId : Nat) (method : String) :
    Except String Unit := do
  require (provider.browserProcessId = expectedProcessId)
    "browser extension provider process does not match the exact window session"
  require (provider.pairing.origin = expectedOrigin)
    "browser extension provider origin does not match the requested origin"
  require (method ∈ ["snapshot", "click", "type", "navigate", "unpair"])
    ("unsupported browser extension method: " ++ method)

namespace ExtensionRegistry

def empty : ExtensionRegistry := ⟨[], [], fun _ => none, fun _ => none, [], [], [], [], []⟩

def lookup (s : ExtensionRegistry) (providerId : String) : Except String HeldProvider :=
  match s.held providerId with
  | some held => if s.registered.contains providerId then .ok held else .error "browser extension provider not found"
  | none => .error "browser extension provider not found"

def authorizedProvider (s : ExtensionRegistry) (providerId secret : String) : Except String HeldProvider := do
  let held ← s.lookup providerId
  require (held.provider.secret = secret) "browser extension provider secret mismatch"
  .ok held

def hold (s : ExtensionRegistry) (providerId : String) (held : HeldProvider) : ExtensionRegistry :=
  { s with held := setAt s.held providerId held }

def setCall (s : ExtensionRegistry) (call : Nat) (run : CallRun) : ExtensionRegistry := { s with calls := s.calls.set call run }

def fail (s : ExtensionRegistry) (error : String) : RegistryOutput × ExtensionRegistry := (.returned (.error error), s)

def register (s : ExtensionRegistry) (hello : Json) (invocationOrigin : String) (browserProcessId : Nat)
    (nativeWindow : Option Nat) (taskOwner : Option String) (providerId secret : String) : RegistryOutput × ExtensionRegistry :=
  match registerWithWindow hello invocationOrigin browserProcessId nativeWindow taskOwner secret with
  | .error error => s.fail error
  | .ok provider =>
    if s.drawn.contains providerId then (.nothing, s)
    else
      (.returned (.ok (.obj [("type", .str "browser_extension_registered"), ("provider_id", .str providerId),
          ("provider_secret", .str secret), ("poll_timeout_ms", .int 5000)])),
        { s.hold providerId ⟨provider, [], []⟩ with
          drawn := providerId :: s.drawn, registered := providerId :: s.registered })

def remove (s : ExtensionRegistry) (providerIds : List String) : ExtensionRegistry :=
  { s with registered := s.registered.filter fun id => !providerIds.contains id }

/-! ### Claims -/

def startClaim (s : ExtensionRegistry) (providerId : String) (pid hwnd : Nat) (origin taskCapability : String) :
    RegistryOutput × ExtensionRegistry :=
  match s.lookup providerId with
  | .error error => s.fail error
  | .ok held =>
    if held.provider.browserProcessId ≠ pid ∨ held.provider.nativeWindow ≠ some hwnd ∨ held.provider.pairing.origin ≠ origin then
      s.fail "extension pairing target mismatch"
    else (.nothing, { s with claims := s.claims ++ [⟨providerId, taskCapability, false⟩] })

def takeOwner (s : ExtensionRegistry) (claim : Nat) : RegistryOutput × ExtensionRegistry :=
  match s.claims[claim]? with
  | some ⟨providerId, taskCapability, false⟩ =>
    match s.held providerId with
    | some held =>
      let s := { s with claims := s.claims.set claim ⟨providerId, taskCapability, true⟩ }
      if held.provider.owner.any (· ≠ taskCapability) then s.fail "pairing is owned by another task; pair the tab again"
      else
        (.returned (.ok .null), s.hold providerId
          { held with provider := { held.provider with owner := some (held.provider.owner.getD taskCapability) } })
    | none => (.nothing, s)
  | _ => (.nothing, s)

/-! ### Polls -/

def startPoll (s : ExtensionRegistry) (providerId secret : String) (timeoutMs : Nat) : RegistryOutput × ExtensionRegistry :=
  if maxExtensionCallTimeoutMs < timeoutMs then s.fail "browser extension poll timeout must be at most 30000 ms"
  else
    match s.authorizedProvider providerId secret with
    | .error error => s.fail error
    | .ok _ => (.nothing, { s with polls := s.polls ++ [⟨providerId, .waiting⟩] })

def lockQueue (s : ExtensionRegistry) (poll : Nat) : ExtensionRegistry :=
  match s.polls[poll]? with
  | some ⟨providerId, .waiting⟩ =>
    if s.polls.any fun other => other.providerId = providerId && other.stage = .receiving then s
    else { s with polls := s.polls.set poll ⟨providerId, .receiving⟩ }
  | _ => s

def receiveCommand (s : ExtensionRegistry) (poll : Nat) : RegistryOutput × ExtensionRegistry :=
  match s.polls[poll]? with
  | some ⟨providerId, .receiving⟩ =>
    match s.held providerId with
    | some ⟨provider, command :: queue, pending⟩ =>
      (.handed providerId (some command),
        { s.hold providerId ⟨provider, queue, pending⟩ with polls := s.polls.set poll ⟨providerId, .done⟩ })
    | _ => (.nothing, s)
  | _ => (.nothing, s)

/-- The time of a poll starts when it holds the queue. -/
def pollTimesOut (s : ExtensionRegistry) (poll : Nat) : RegistryOutput × ExtensionRegistry :=
  match s.polls[poll]? with
  | some ⟨providerId, .receiving⟩ =>
    (.handed providerId none, { s with polls := s.polls.set poll ⟨providerId, .done⟩ })
  | _ => (.nothing, s)

/-! ### Completions -/

def startCompletion (s : ExtensionRegistry) (providerId secret : String) (response : Json) : RegistryOutput × ExtensionRegistry :=
  match s.authorizedProvider providerId secret with
  | .error error => s.fail error
  | .ok _ => (.nothing, { s with completions := s.completions ++ [⟨providerId, secret, response, .authorized⟩] })

/-- `validate_extension_response`, and the id of the response. -/
def responseId (response : Json) : Except String String := do
  validateExtensionResponse response
  boundedString response "request_id" maxRequestIdChars

def setCompletion (s : ExtensionRegistry) (completion : Nat) (run : CompletionRun) (stage : CompletionStage) : ExtensionRegistry :=
  { s with completions := s.completions.set completion { run with stage := stage } }

def takeSender (s : ExtensionRegistry) (completion : Nat) : RegistryOutput × ExtensionRegistry :=
  match s.completions[completion]? with
  | some run =>
    match run.stage, s.held run.providerId with
    | .authorized, some held =>
      match responseId run.response with
      | .error error => (s.setCompletion completion run .done).fail error
      | .ok requestId =>
        if held.pending.contains requestId then
          (.nothing, (s.setCompletion completion run (.took requestId)).hold run.providerId
            { held with pending := held.pending.filter (· ≠ requestId) })
        else (s.setCompletion completion run .done).fail "browser extension response does not match a pending request"
    | _, _ => (.nothing, s)
  | none => (.nothing, s)

/-- The receiver of the call with the id exists. -/
def receiverAlive (s : ExtensionRegistry) (requestId : String) : Bool :=
  s.calls.any fun run => run.requestId = some requestId && run.stage.receives

def sendResponse (s : ExtensionRegistry) (completion : Nat) : RegistryOutput × ExtensionRegistry :=
  match s.completions[completion]? with
  | some run =>
    match run.stage with
    | .took requestId =>
      let s := s.setCompletion completion run .done
      if s.receiverAlive requestId then
        (.returned (.ok (.obj [("type", .str "browser_extension_completion_accepted"), ("provider_id", .str run.providerId),
          ("request_id", .str requestId)])), { s with sent := setAt s.sent requestId run.response })
      else s.fail "browser extension caller disconnected before completion"
    | _ => (.nothing, s)
  | none => (.nothing, s)

/-! ### Unregistrations -/

def startUnregister (s : ExtensionRegistry) (providerId secret : String) : RegistryOutput × ExtensionRegistry :=
  match s.authorizedProvider providerId secret with
  | .error error => s.fail error
  | .ok _ => (.nothing, { s with unregisters := s.unregisters ++ [⟨providerId, .authorized⟩] })

def removeProvider (s : ExtensionRegistry) (unregister : Nat) : ExtensionRegistry :=
  match s.unregisters[unregister]? with
  | some ⟨providerId, .authorized⟩ =>
    { s.remove [providerId] with unregisters := s.unregisters.set unregister ⟨providerId, .removed⟩ }
  | _ => s

def clearPending (s : ExtensionRegistry) (unregister : Nat) : RegistryOutput × ExtensionRegistry :=
  match s.unregisters[unregister]? with
  | some ⟨providerId, .removed⟩ =>
    match s.held providerId with
    | some held =>
      (.returned (.ok (.obj [("type", .str "browser_extension_unregistered"), ("provider_id", .str providerId)])),
        { s.hold providerId { held with pending := [] } with
          unregisters := s.unregisters.set unregister ⟨providerId, .done⟩ })
    | none => (.nothing, s)
  | _ => (.nothing, s)

/-! ### Calls -/

def startCall (s : ExtensionRegistry) (providerId expectedOrigin : String) (expectedProcessId : Nat) (method : String)
    (params : Json) (timeoutMs : Nat) : RegistryOutput × ExtensionRegistry :=
  if timeoutMs = 0 ∨ maxExtensionCallTimeoutMs < timeoutMs then
    s.fail "browser extension call timeout must be between 1 and 30000 ms"
  else
    match s.lookup providerId with
    | .error error => s.fail error
    | .ok held =>
      match checkCallTarget held.provider expectedOrigin expectedProcessId method with
      | .error error => s.fail error
      | .ok () =>
        (.nothing, { s with calls := s.calls ++
          [⟨providerId, method, params, timeoutMs, none, if method = "navigate" then .found else .ready⟩] })

/-- The call ends with the error. -/
def endCall (s : ExtensionRegistry) (call : Nat) (run : CallRun) (error : String) : RegistryOutput × ExtensionRegistry :=
  (s.setCall call { run with stage := .done }).fail error

/-- `require_navigation_capability` looks for the provider once more. -/
def checkNavigation (s : ExtensionRegistry) (call : Nat) : RegistryOutput × ExtensionRegistry :=
  match s.calls[call]? with
  | some run =>
    match run.stage with
    | .found =>
      match s.lookup run.providerId >>= fun held => requireNavigationCapability held.provider with
      | .error error => s.endCall call run error
      | .ok () => (.nothing, s.setCall call { run with stage := .ready })
    | _ => (.nothing, s)
  | none => (.nothing, s)

def buildCommand (sha256 : String → String) (s : ExtensionRegistry) (call : Nat) (requestId : String) (nowUnixMs : Nat) :
    RegistryOutput × ExtensionRegistry :=
  match s.calls[call]? with
  | some run =>
    match run.stage, s.held run.providerId with
    | .ready, some held =>
      if s.drawn.contains requestId then (.nothing, s)
      else
        match callCommand sha256 held.provider run.method run.params requestId (saturatingAdd nowUnixMs run.timeoutMs) with
        | .error error => s.endCall call run error
        | .ok command =>
          (.nothing, { s.setCall call { run with requestId := some requestId, stage := .built command } with
            drawn := requestId :: s.drawn })
    | _, _ => (.nothing, s)
  | none => (.nothing, s)

def insertPending (s : ExtensionRegistry) (call : Nat) : ExtensionRegistry :=
  match s.calls[call]? with
  | some run =>
    match run.stage, run.requestId, s.held run.providerId with
    | .built command, some requestId, some held =>
      (s.setCall call { run with stage := .sending command }).hold run.providerId
        { held with pending := requestId :: held.pending }
    | _, _, _ => s
  | none => s

/-- The queue takes the command. It is not closed: the call holds the provider, and with it the receiver. -/
def sendCommand (s : ExtensionRegistry) (call : Nat) : ExtensionRegistry :=
  match s.calls[call]? with
  | some run =>
    match run.stage, s.held run.providerId with
    | .sending command, some held =>
      if held.queue.length < providerQueueCapacity then
        (s.setCall call { run with stage := .waiting }).hold run.providerId { held with queue := held.queue ++ [command] }
      else s
    | _, _ => s
  | none => s

def sendTimesOut (s : ExtensionRegistry) (call : Nat) : ExtensionRegistry :=
  match s.calls[call]? with
  | some run =>
    match run.stage with
    | .sending _ => s.setCall call { run with stage := .unsent }
    | _ => s
  | none => s

/-- The sender of the call exists: it is pending, or a completion has it. -/
def senderAlive (s : ExtensionRegistry) (providerId requestId : String) : Bool :=
  ((s.held providerId).any fun held => held.pending.contains requestId) ||
    s.completions.any fun run => run.stage = .took requestId

/-- A response that is there is taken, also when the time is up. -/
def pollReceiver (s : ExtensionRegistry) (call : Nat) (expired : Bool) : RegistryOutput × ExtensionRegistry :=
  match s.calls[call]? with
  | some run =>
    match run.stage, run.requestId with
    | .waiting, some requestId =>
      match s.sent requestId with
      | some response => (.answered call response, s.setCall call { run with stage := .received response })
      | none =>
        if !s.senderAlive run.providerId requestId then
          (.nothing, s.setCall call { run with stage := .unanswered .dropped })
        else if expired then (.nothing, s.setCall call { run with stage := .unanswered .timedOut })
        else (.nothing, s)
    | _, _ => (.nothing, s)
  | none => (.nothing, s)

/-- What a call without a response returns. -/
def withoutResponse (providerId : String) (provider : Provider) (method : String) : CallStage → Option (Except String Json)
  | .unsent => some (.error "browser extension provider disconnected")
  | .unanswered answer => some (callResult providerId provider method answer)
  | _ => none

def removePending (s : ExtensionRegistry) (call : Nat) : RegistryOutput × ExtensionRegistry :=
  match s.calls[call]? with
  | some run =>
    match run.requestId, s.held run.providerId with
    | some requestId, some held =>
      match withoutResponse run.providerId held.provider run.method run.stage with
      | some result =>
        (.returned result,
          (s.hold run.providerId { held with pending := held.pending.filter (· ≠ requestId) }).setCall call
            { run with stage := .done })
      | none => (.nothing, s)
    | _, _ => (.nothing, s)
  | none => (.nothing, s)

def finishCall (s : ExtensionRegistry) (call : Nat) : RegistryOutput × ExtensionRegistry :=
  match s.calls[call]? with
  | some run =>
    match run.stage, s.held run.providerId with
    | .received response, some held =>
      (.returned (callResult run.providerId held.provider run.method (.response response)), s.setCall call { run with stage := .done })
    | _, _ => (.nothing, s)
  | none => (.nothing, s)

end ExtensionRegistry

open ExtensionRegistry in
def extensionRegistryMachine (sha256 : String → String) : Machine ExtensionRegistry RegistryStep RegistryOutput where
  step s
    | .register hello invocationOrigin pid window owner providerId secret =>
      s.register hello invocationOrigin pid window owner providerId secret
    | .remove providerIds => (.nothing, s.remove providerIds)
    | .startClaim providerId pid hwnd origin capability => s.startClaim providerId pid hwnd origin capability
    | .takeOwner claim => s.takeOwner claim
    | .startPoll providerId secret timeoutMs => s.startPoll providerId secret timeoutMs
    | .lockQueue poll => (.nothing, s.lockQueue poll)
    | .receiveCommand poll => s.receiveCommand poll
    | .pollTimesOut poll => s.pollTimesOut poll
    | .startCompletion providerId secret response => s.startCompletion providerId secret response
    | .takeSender completion => s.takeSender completion
    | .sendResponse completion => s.sendResponse completion
    | .startUnregister providerId secret => s.startUnregister providerId secret
    | .removeProvider unregister => (.nothing, s.removeProvider unregister)
    | .clearPending unregister => s.clearPending unregister
    | .startCall providerId origin pid method params timeoutMs => s.startCall providerId origin pid method params timeoutMs
    | .checkNavigation call => s.checkNavigation call
    | .buildCommand call requestId nowUnixMs => s.buildCommand sha256 call requestId nowUnixMs
    | .insertPending call => (.nothing, s.insertPending call)
    | .sendCommand call => (.nothing, s.sendCommand call)
    | .sendTimesOut call => (.nothing, s.sendTimesOut call)
    | .pollReceiver call expired => s.pollReceiver call expired
    | .removePending call => s.removePending call
    | .finishCall call => s.finishCall call

end BrowserExtension
end DccCua
