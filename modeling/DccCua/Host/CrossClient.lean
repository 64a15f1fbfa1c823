import DccCua.Host.Broker

/-! # Cross-client task authorization

`cross_client_task_authorization.rs`: a verifier prepares challenges, which a person approves or denies at another client, and
consumes the signed decisions; a decision that allows becomes a registration at a broker. The Host that comes with the verifier
asks it before it asks the broker. JSON canonicalization, SHA-256, base64 and ed25519 are given functions, and so are the URL
parser and the path rules. Clock readings, what is seen of the target and the file system are inputs of the call that reads
them. `Uuid::new_v4` is a stream of displayed UUIDs here as in the broker, with the number of draws in the state. The mutexes
are never poisoned: no code under them panics. -/

namespace DccCua
namespace CrossClient

open Checks (require onlyIf)

def challengeSchema : String := "dcc-cua.task-authorization-challenge.v2"
def receiptSchema : String := "dcc-cua.task-authorization-receipt.v2"
/-- `SIGNING_DOMAIN`. -/
def signingDomain : List UInt8 := receiptSchema.toUTF8.data.toList
def provider : String := "dcc-cua"
def maxPendingChallenges : Nat := 256
def maxPendingTtlMs : Nat := 5 * 60 * 1000
def maxSafeJsonInteger : Nat := 9007199254740991
def maxIdentityChars : Nat := 256
def maxLabelChars : Nat := 512
def maxHostMethods : Nat := 64
def maxSignedReceiptBytes : Nat := 16 * 1024

structure Audience where
  clientId : String
  tenantId : String
  userId : String
  deriving DecidableEq, Repr

structure Runtime where
  runtimeVersion : String
  runtimeInstanceId : String
  bootGeneration : Nat
  deriving DecidableEq, Repr

inductive SecretPolicy where
  | forbidden
  | namedHandlesOnly
  deriving DecidableEq, Repr

inductive Target where
  | exactWindow (processId : Nat) (processCreationIdentity : String) (windowHandle : Nat)
  | exactBrowser (processId : Nat) (processCreationIdentity : String) (windowHandle : Nat)
      (scope : TrustedTaskAuthorizationBrowserScope)
  | browserBootstrapExactWindow (processId : Nat) (processCreationIdentity : String) (windowHandle : Nat)
  | browserBootstrapOwned (browser : ComputerUseOwnedBrowserFamily) (profile : ComputerUseOwnedBrowserProfile)
  deriving DecidableEq, Repr

namespace Target

def isBootstrap : Target → Bool
  | browserBootstrapExactWindow _ _ _ | browserBootstrapOwned _ _ => true
  | _ => false

/-- The process and the window of a target that is no bootstrap, with the identity of the process. -/
def exactWindow? : Target → Option (Nat × Nat × String)
  | exactWindow processId identity windowHandle | exactBrowser processId identity windowHandle _ =>
    some (processId, windowHandle, identity)
  | _ => none

/-- The process, the window and the identity that `validate_live_target` compares. -/
def binding? : Target → Option (Nat × Nat × String)
  | exactWindow processId identity windowHandle | exactBrowser processId identity windowHandle _
  | browserBootstrapExactWindow processId identity windowHandle => some (processId, windowHandle, identity)
  | browserBootstrapOwned _ _ => none

def browserScope? : Target → Option TrustedTaskAuthorizationBrowserScope
  | exactBrowser _ _ _ scope => some scope
  | _ => none

end Target

structure ChallengeRequest where
  audience : Audience
  taskId : String
  connectionId : String
  taskGrantId : String
  applicationLabel : String
  purpose : String
  target : Target
  allowedHostMethods : List String
  allowedActions : List TrustedTaskActionScope
  allowedBrowserOrigins : List String
  secretHandlePolicy : SecretPolicy
  irreversibleOperation : Option String
  expiresAtUnixMs : Nat
  deriving DecidableEq, Repr

structure Challenge where
  schema : String
  provider : String
  runtime : Runtime
  challengeId : String
  nonce : String
  /-- The fields that the challenge has from its request. -/
  request : ChallengeRequest
  issuedAtUnixMs : Nat
  confirmationDeadlineUnixMs : Nat
  challengeSha256 : String
  deriving DecidableEq, Repr

inductive Decision where
  | allow
  | deny
  deriving DecidableEq, Repr

structure UnsignedDecision where
  schema : String
  issuerKeyId : String
  audience : Audience
  runtimeInstanceId : String
  bootGeneration : Nat
  challengeId : String
  nonce : String
  challengeSha256 : String
  decision : Decision
  issuedAtUnixMs : Nat
  expiresAtUnixMs : Nat
  deriving DecidableEq, Repr

structure SignedDecision where
  decision : UnsignedDecision
  signature : String
  deriving DecidableEq, Repr

structure TrustedTaskAuthorizationKey where
  keyId : String
  audience : Audience
  verifyingKey : List UInt8
  deriving DecidableEq, Repr

inductive TrustState where
  | active (key : TrustedTaskAuthorizationKey)
  | revoked (revocationEpoch : Nat)
  deriving DecidableEq, Repr

inductive CrossClientError where
  | invalidConfiguration
  | invalidChallenge
  | capacity
  | clockUnavailable
  | clockRollback
  | targetUnavailable
  | malformedReceipt
  | noncanonicalReceipt
  | unknownKey
  | revokedKey
  | trustUnavailable
  | invalidSignature
  | bindingMismatch
  | expired
  | replay
  | brokerUnavailable
  deriving DecidableEq, Repr

structure Bootstrap where
  challengeId : String
  target : Target
  expiresAtUnixMs : Nat
  deriving DecidableEq, Repr

inductive Consumption where
  | task (receipt : TrustedTaskAuthorizationReceipt)
  | browserBootstrap (bootstrap : Bootstrap)
  | denied
  deriving DecidableEq, Repr

/-- The functions of other libraries: `serde_jcs`, `serde_json`, SHA-256 in hexadecimal, base64 and `ed25519_dalek`. The nonce is
    made of two UUIDs. -/
structure Primitives where
  canonicalChallenge : Challenge → Option (List UInt8)
  canonicalReceipt : SignedDecision → Option (List UInt8)
  canonicalDecision : UnsignedDecision → Option (List UInt8)
  parseReceipt : List UInt8 → Option SignedDecision
  sha256Hex : List UInt8 → String
  isVerifyingKey : List UInt8 → Bool
  decodeSignature : String → Option (List UInt8)
  verifyStrict : List UInt8 → List UInt8 → List UInt8 → Bool
  encodeNonce : String → String → String

/-- What the observer sees of the process of a window: its creation identity. -/
abbrev TargetObserver := Nat → Nat → Option String

/-! ### Validators -/

def validateIdentity (value : String) (maxChars : Nat) : Except CrossClientError Unit :=
  require (Text.printable value maxChars) .invalidChallenge

def validateLabel (value : String) : Except CrossClientError Unit := validateIdentity value maxLabelChars

def validateSafeInteger (value : Nat) (error : CrossClientError) : Except CrossClientError Unit :=
  require (value ≤ maxSafeJsonInteger) error

def validateAudience (audience : Audience) : Except CrossClientError Unit := do
  validateIdentity audience.clientId maxIdentityChars
  validateIdentity audience.tenantId maxIdentityChars
  validateIdentity audience.userId maxIdentityChars

def validateRuntime (runtime : Runtime) : Except CrossClientError Unit := do
  require (Text.printable runtime.runtimeVersion maxIdentityChars) .invalidConfiguration
  require (Text.printable runtime.runtimeInstanceId maxIdentityChars) .invalidConfiguration
  validateSafeInteger runtime.bootGeneration .invalidConfiguration

def validateWindow (processId windowHandle : Nat) : Except CrossClientError Unit := do
  require (processId ≠ 0 && windowHandle ≠ 0) .invalidChallenge
  validateSafeInteger windowHandle .invalidChallenge

def validateTarget (env : Env) : Target → Except CrossClientError Unit
  | .exactWindow processId identity windowHandle | .browserBootstrapExactWindow processId identity windowHandle => do
    validateWindow processId windowHandle
    validateIdentity identity maxIdentityChars
  | .exactBrowser processId identity windowHandle scope => do
    validateWindow processId windowHandle
    validateIdentity identity maxIdentityChars
    validateIdentity scope.hostTargetId maxIdentityChars
    validateIdentity scope.tabId maxIdentityChars
    validateIdentity scope.documentGeneration maxIdentityChars
    require (validBrowserOrigin env scope.origin) .invalidChallenge
  | .browserBootstrapOwned _ _ => .ok ()

def validateLiveTarget (observer : TargetObserver) (target : Target) : Except CrossClientError Unit :=
  match target.binding? with
  | none => .ok ()
  | some (processId, windowHandle, identity) => require (observer processId windowHandle = some identity) .targetUnavailable

/-- The method that a bootstrap is for. -/
def bootstrapMethod : Target → String
  | .browserBootstrapExactWindow _ _ _ => "attach_exact_window"
  | _ => "launch_owned_browser"

/-- What `validate_challenge_request` asks of a bootstrap. -/
def isBootstrapRequest (request : ChallengeRequest) : Bool :=
  request.allowedHostMethods = [bootstrapMethod request.target] && request.allowedActions.isEmpty &&
    request.allowedBrowserOrigins.isEmpty && request.secretHandlePolicy = .forbidden && request.irreversibleOperation.isNone

/-- The check of `validate_challenge_request` that the scope is one for the target. -/
def isScopeOf (request : ChallengeRequest) : Target → Bool
  | .exactBrowser _ _ _ scope =>
    request.allowedBrowserOrigins = [scope.origin] && request.allowedHostMethods.contains "browser_snapshot" &&
      !(request.allowedHostMethods.any fun method =>
        method = "browser_prepare" || method = "browser_extension_status" || method = "browser_extension_call") &&
      !(request.allowedActions.any fun action => action.browserOrigin ≠ some scope.origin)
  | _ =>
    request.allowedBrowserOrigins.isEmpty && !(request.allowedActions.any (·.browserOrigin.isSome)) &&
      !(request.allowedHostMethods.any fun method =>
        Text.startsWith method "browser_" || method = "browser_extension_status")

/-- The rest of `validate_challenge_request` for a request that is no bootstrap. -/
def validateTaskScope (env : Env) (request : ChallengeRequest) : Except CrossClientError Unit := do
  require (request.allowedHostMethods.all isTaskAuthorizableHostMethod) .invalidChallenge
  require (!request.allowedActions.isEmpty && actionsClosed env request.allowedActions &&
    !(request.secretHandlePolicy = .forbidden && request.allowedActions.any (·.secretInput))) .invalidChallenge
  require (originsClosed env request.allowedBrowserOrigins) .invalidChallenge
  require (isScopeOf request request.target) .invalidChallenge

/-- The source collects the methods into a `BTreeSet`, whose size is that of the list without repetitions. -/
def validateChallengeRequest (env : Env) (request : ChallengeRequest) (now : Nat) : Except CrossClientError Unit := do
  validateAudience request.audience
  validateIdentity request.taskId maxIdentityChars
  validateIdentity request.connectionId maxIdentityChars
  validateIdentity request.taskGrantId maxTaskGrantIdChars
  validateIdentity request.applicationLabel maxApplicationLabelChars
  validateLabel request.purpose
  request.irreversibleOperation.elim (.ok ()) validateLabel
  validateSafeInteger now .invalidChallenge
  validateSafeInteger request.expiresAtUnixMs .invalidChallenge
  require (now < request.expiresAtUnixMs && request.expiresAtUnixMs - now ≤ maxTaskAuthorizationTtlMs) .invalidChallenge
  validateTarget env request.target
  require (!request.allowedHostMethods.dedup.isEmpty &&
    request.allowedHostMethods.dedup.length = request.allowedHostMethods.length &&
    request.allowedHostMethods.dedup.length ≤ maxHostMethods &&
    request.allowedHostMethods.dedup.all (Text.printable · 80)) .invalidChallenge
  if request.target.isBootstrap then require (isBootstrapRequest request) .invalidChallenge
  else validateTaskScope env request

def validateDecisionBinding (runtime : Runtime) (challenge : Challenge) (decision : UnsignedDecision) (now : Nat) :
    Except CrossClientError Unit := do
  require (decision.schema = receiptSchema && decision.audience = challenge.request.audience &&
    decision.runtimeInstanceId = runtime.runtimeInstanceId && decision.bootGeneration = runtime.bootGeneration &&
    decision.challengeId = challenge.challengeId && decision.nonce = challenge.nonce &&
    decision.challengeSha256 = challenge.challengeSha256) .bindingMismatch
  require (challenge.issuedAtUnixMs ≤ decision.issuedAtUnixMs && decision.issuedAtUnixMs ≤ now &&
    decision.issuedAtUnixMs ≤ challenge.confirmationDeadlineUnixMs && now ≤ challenge.confirmationDeadlineUnixMs &&
    now < decision.expiresAtUnixMs && decision.expiresAtUnixMs ≤ challenge.request.expiresAtUnixMs &&
    decision.issuedAtUnixMs ≤ decision.expiresAtUnixMs) .expired

/-! ### Receipts -/

section
variable (primitives : Primitives)

def challengeDigest (challenge : Challenge) : Except CrossClientError String :=
  match primitives.canonicalChallenge challenge with
  | some canonical => .ok ("sha256:" ++ primitives.sha256Hex canonical)
  | none => .error .invalidChallenge

def signingPayload (decision : UnsignedDecision) : Except CrossClientError (List UInt8) :=
  match primitives.canonicalDecision decision with
  | some canonical => .ok (signingDomain ++ [0] ++ canonical)
  | none => .error .malformedReceipt

/-- The texts of a receipt that `decode_receipt` checks. -/
def receiptTexts (receipt : SignedDecision) : List String :=
  [receipt.decision.schema, receipt.decision.issuerKeyId, receipt.decision.runtimeInstanceId, receipt.decision.challengeId,
    receipt.decision.nonce, receipt.decision.challengeSha256, receipt.signature]

def audienceTexts (audience : Audience) : List String := [audience.clientId, audience.tenantId, audience.userId]

def decodeReceipt (encoded : List UInt8) : Except CrossClientError SignedDecision :=
  if encoded.isEmpty || maxSignedReceiptBytes < encoded.length then .error .malformedReceipt
  else
    match primitives.parseReceipt encoded with
    | none => .error .malformedReceipt
    | some receipt =>
      match primitives.canonicalReceipt receipt with
      | none => .error .malformedReceipt
      | some canonical => do
        require (canonical = encoded) .noncanonicalReceipt
        validateSafeInteger receipt.decision.bootGeneration .malformedReceipt
        validateSafeInteger receipt.decision.issuedAtUnixMs .malformedReceipt
        validateSafeInteger receipt.decision.expiresAtUnixMs .malformedReceipt
        require ((receiptTexts receipt).all (Text.printable · maxLabelChars)) .malformedReceipt
        require ((audienceTexts receipt.decision.audience).all (Text.printable · maxIdentityChars)) .malformedReceipt
        .ok receipt

def verifySignature (key : TrustedTaskAuthorizationKey) (receipt : SignedDecision) : Except CrossClientError Unit := do
  require (primitives.isVerifyingKey key.verifyingKey) .invalidConfiguration
  match primitives.decodeSignature receipt.signature with
  | none => .error .malformedReceipt
  | some signature => do
    let payload ← signingPayload primitives receipt.decision
    require (primitives.verifyStrict key.verifyingKey payload signature) .invalidSignature

end

/-! ### The state -/

structure AuthorizationProvenance where
  key : TrustedTaskAuthorizationKey
  processCreationIdentity : String
  expiresAtUnixMs : Nat
  deriving DecidableEq, Repr

structure ChallengeRecord where
  challenge : Challenge
  consumed : Bool
  deriving DecidableEq, Repr

structure VerifierState where
  challenges : Std.TreeMap String ChallengeRecord
  authorizations : Std.TreeMap String AuthorizationProvenance
  lastObservedUnixMs : Option Nat
  clockFailed : Bool

structure RegistryKey where
  key : TrustedTaskAuthorizationKey
  revokedAtEpoch : Option Nat
  deriving DecidableEq, Repr

/-- The keys, each under its id. -/
structure KeyRegistry where
  records : Std.TreeMap String RegistryKey
  named : ∀ (keyId : String) (record : RegistryKey), records[keyId]? = some record → record.key.keyId = keyId

namespace KeyRegistry

def empty : KeyRegistry := ⟨∅, fun _ _ h => by simp at h⟩

def put (keys : KeyRegistry) (record : RegistryKey) : KeyRegistry where
  records := keys.records.insert record.key.keyId record
  named keyId other h := by
    rw [Std.TreeMap.getElem?_insert] at h
    split at h
    · rename_i hid
      cases h
      exact Std.LawfulEqCmp.compare_eq_iff_eq.mp hid
    · exact keys.named keyId other h

end KeyRegistry

/-- One key of `trusted_task_authorization_trust_registry`. -/
def addTrustedKey (primitives : Primitives) (keys : KeyRegistry) (key : TrustedTaskAuthorizationKey) :
    Except CrossClientError KeyRegistry := do
  require (Text.printable key.keyId maxIdentityChars) .invalidConfiguration
  require ([key.audience.clientId, key.audience.tenantId, key.audience.userId].all (Text.printable · maxIdentityChars))
    .invalidConfiguration
  require (primitives.isVerifyingKey key.verifyingKey) .invalidConfiguration
  require (!keys.records.contains key.keyId) .invalidConfiguration
  .ok (keys.put ⟨key, none⟩)

def trustRegistry (primitives : Primitives) (keys : List TrustedTaskAuthorizationKey) : Except CrossClientError KeyRegistry :=
  if keys.isEmpty || 64 < keys.length then .error .invalidConfiguration
  else keys.foldlM (addTrustedKey primitives) .empty

/-- The verifier, the broker behind it, the keys that both the verifier and its Host look at, and the number of UUIDs that the
    verifier has drawn. -/
structure System where
  verifier : VerifierState
  broker : BrokerState
  keys : KeyRegistry
  drawn : Nat

/-- `observe_clock`. -/
def observeClock (s : VerifierState) (now : Nat) : Except CrossClientError Unit × VerifierState :=
  if s.clockFailed then (.error .clockRollback, s)
  else if maxSafeJsonInteger < now then (.error .clockUnavailable, s)
  else if s.lastObservedUnixMs.any (now < ·) then (.error .clockRollback, { s with clockFailed := true })
  else (.ok (), { s with lastObservedUnixMs := some now })

namespace System

def initial (keys : KeyRegistry) (drawn brokerDrawn : Nat) : System :=
  ⟨⟨∅, ∅, none, false⟩, .initial brokerDrawn, keys, drawn⟩

/-- `TrustRegistry::lookup`. -/
def lookup (s : System) (keyId : String) : Option TrustState :=
  (s.keys.records[keyId]?).map fun record =>
    match record.revokedAtEpoch with
    | none => .active record.key
    | some epoch => .revoked epoch

/-- `TrustedTaskAuthorizationTrustAdmin::revoke`. -/
def revoke (s : System) (keyId : String) (revocationEpoch : Nat) : Except CrossClientError Unit × System :=
  if revocationEpoch = 0 ∨ maxSafeJsonInteger < revocationEpoch then (.error .invalidConfiguration, s)
  else
    match s.keys.records[keyId]? with
    | none => (.error .unknownKey, s)
    | some record =>
      if record.revokedAtEpoch.any (revocationEpoch ≤ ·) then (.error .invalidConfiguration, s)
      else (.ok (), { s with keys := s.keys.put { record with revokedAtEpoch := some revocationEpoch } })

/-! ### The verifier -/

def challengeId (draw : Nat → String) (n : Nat) : String := "task-challenge-" ++ draw n

/-- `retain` of `prepare`. -/
def pruneChallenges (s : VerifierState) (now : Nat) : VerifierState :=
  { s with challenges := s.challenges.filter fun _ record => now ≤ record.challenge.confirmationDeadlineUnixMs }

/-- The challenge that `prepare` makes, its digest apart. -/
def newChallenge (primitives : Primitives) (draw : Nat → String) (runtime : Runtime) (drawn now : Nat) (request : ChallengeRequest) :
    Challenge where
  schema := challengeSchema
  provider := provider
  runtime := runtime
  challengeId := challengeId draw drawn
  nonce := primitives.encodeNonce (draw (drawn + 1)) (draw (drawn + 2))
  request := request
  issuedAtUnixMs := now
  confirmationDeadlineUnixMs := min request.expiresAtUnixMs (now + maxPendingTtlMs)
  challengeSha256 := ""

section
variable (env : Env) (primitives : Primitives) (uuid draw : Nat → String) (runtime : Runtime)

/-- `prepare` under the lock. The addition to a safe integer does not saturate. -/
def addChallenge (s : System) (now : Nat) (request : ChallengeRequest) : Except CrossClientError Challenge × System :=
  match observeClock s.verifier now with
  | (.error error, verifier) => (.error error, { s with verifier := verifier })
  | (.ok (), verifier) =>
    let verifier := pruneChallenges verifier now
    if maxPendingChallenges ≤ verifier.challenges.size then (.error .capacity, { s with verifier := verifier })
    else
      let challenge := newChallenge primitives draw runtime s.drawn now request
      match challengeDigest primitives challenge with
      | .error error => (.error error, { s with verifier := verifier, drawn := s.drawn + 3 })
      | .ok digest =>
        let challenge := { challenge with challengeSha256 := digest }
        (.ok challenge, { s with
          verifier := { verifier with challenges := verifier.challenges.insert challenge.challengeId ⟨challenge, false⟩ }
          drawn := s.drawn + 3 })

def prepare (s : System) (clock : Except CrossClientError Nat) (observer : TargetObserver) (request : ChallengeRequest) :
    Except CrossClientError Challenge × System :=
  match clock with
  | .error error => (.error error, s)
  | .ok now =>
    match validateChallengeRequest env request now >>= fun _ => validateLiveTarget observer request.target with
    | .error error => (.error error, s)
    | .ok () => addChallenge primitives draw runtime s now request

/-- The key of a decision, if it is active. -/
def activeKey (s : System) (keyId : String) : Except CrossClientError TrustedTaskAuthorizationKey :=
  match s.lookup keyId with
  | some (.active key) => .ok key
  | some (.revoked _) => .error .revokedKey
  | none => .error .unknownKey

/-- The checks of `consume` on a decision, before the challenge is marked. -/
def admitDecision (s : System) (now : Nat) (observer : TargetObserver) (receipt : SignedDecision) :
    Except CrossClientError (Challenge × TrustedTaskAuthorizationKey) :=
  match s.verifier.challenges[receipt.decision.challengeId]? with
  | none => .error .bindingMismatch
  | some record => do
    require (!record.consumed) .replay
    validateDecisionBinding runtime record.challenge receipt.decision now
    let key ← s.activeKey receipt.decision.issuerKeyId
    require (key.audience = record.challenge.request.audience) .bindingMismatch
    verifySignature primitives key receipt
    onlyIf (receipt.decision.decision = .allow) (validateLiveTarget observer record.challenge.request.target)
    .ok (record.challenge, key)

def markConsumed (s : System) (challengeId : String) : Except CrossClientError System :=
  match s.verifier.challenges[challengeId]? with
  | none => .error .bindingMismatch
  | some record => .ok { s with verifier := { s.verifier with
      challenges := s.verifier.challenges.insert challengeId { record with consumed := true } } }

/-- The registration that `consume` makes of a challenge for an exact window. -/
def registrationOf (challenge : Challenge) (processId windowHandle expiresAtUnixMs : Nat) : TrustedTaskAuthorizationRegistration where
  connectionId := some challenge.request.connectionId
  taskId := some challenge.request.taskId
  taskGrantId := challenge.request.taskGrantId
  applicationLabel := challenge.request.applicationLabel
  target := .exactWindow processId windowHandle
  allowedHostMethods := challenge.request.allowedHostMethods
  allowedActions := challenge.request.allowedActions
  allowedBrowserOrigins := challenge.request.allowedBrowserOrigins
  browserScope := challenge.request.target.browserScope?
  recordingOutputDir := none
  capturePreparation := none
  expiresAtUnixMs := expiresAtUnixMs

/-- `retain` of `consume`, and the new provenance. -/
def addProvenance (s : VerifierState) (now : Nat) (authorizationId : String) (provenance : AuthorizationProvenance) : VerifierState :=
  { s with authorizations :=
      (s.authorizations.filter fun _ other => now < other.expiresAtUnixMs).insert authorizationId provenance }

/-- `consume` for a decision that allows. -/
def redeem (s : System) (now : Nat) (fs : FileSystem) (readings : BrokerState.RegisterReadings) (challenge : Challenge)
    (key : TrustedTaskAuthorizationKey) (expiresAtUnixMs : Nat) : Except CrossClientError Consumption × System :=
  if challenge.request.target.isBootstrap then
    (.ok (.browserBootstrap ⟨challenge.challengeId, challenge.request.target, expiresAtUnixMs⟩), s)
  else
    match challenge.request.target.exactWindow? with
    | none => (.error .invalidChallenge, s)
    | some (processId, windowHandle, identity) =>
      match s.broker.register env uuid fs (registrationOf challenge processId windowHandle expiresAtUnixMs) none readings with
      | (.error _, broker) => (.error .brokerUnavailable, { s with broker := broker })
      | (.ok receipt, broker) =>
        (.ok (.task receipt), { s with
          broker := broker
          verifier := addProvenance s.verifier now receipt.authorizationId ⟨key, identity, expiresAtUnixMs⟩ })

/-- `consume` after the challenge has been marked. -/
def conclude (s : System) (now : Nat) (fs : FileSystem) (readings : BrokerState.RegisterReadings) (challenge : Challenge)
    (key : TrustedTaskAuthorizationKey) (decision : UnsignedDecision) : Except CrossClientError Consumption × System :=
  match decision.decision with
  | .deny => (.ok .denied, s)
  | .allow => redeem env uuid s now fs readings challenge key decision.expiresAtUnixMs

/-- `consume` under the lock, once the clock has been observed. -/
def settle (s : System) (now : Nat) (observer : TargetObserver) (fs : FileSystem) (readings : BrokerState.RegisterReadings)
    (receipt : SignedDecision) : Except CrossClientError Consumption × System :=
  match admitDecision primitives runtime s now observer receipt with
  | .error error => (.error error, s)
  | .ok (challenge, key) =>
    match s.markConsumed challenge.challengeId with
    | .error error => (.error error, s)
    | .ok s => conclude env uuid s now fs readings challenge key receipt.decision

def consume (s : System) (clock : Except CrossClientError Nat) (observer : TargetObserver) (fs : FileSystem)
    (readings : BrokerState.RegisterReadings) (encoded : List UInt8) : Except CrossClientError Consumption × System :=
  match decodeReceipt primitives encoded, clock with
  | .error error, _ => (.error error, s)
  | .ok _, .error error => (.error error, s)
  | .ok receipt, .ok now =>
    match observeClock s.verifier now with
    | (.error error, verifier) => (.error error, { s with verifier := verifier })
    | (.ok (), verifier) => settle env primitives uuid runtime { s with verifier := verifier } now observer fs readings receipt

end

/-! ### The Host -/

def unavailableHost : TrustedTaskAuthorizationHostError :=
  .unavailable "the constructor-provisioned cross-client trust state is unavailable"

/-- `live_key`. -/
def liveKey (s : System) (provenance : AuthorizationProvenance) :
    Except TrustedTaskAuthorizationHostError TrustedTaskAuthorizationStatus :=
  match s.lookup provenance.key.keyId with
  | some (.active key) => if key = provenance.key then .ok .active else .error unavailableHost
  | some (.revoked _) => .ok .revoked
  | none => .error unavailableHost

/-- `live_target`. -/
def liveTarget (observer : TargetObserver) (provenance : AuthorizationProvenance) (processId windowHandle : Nat) :
    Except TrustedTaskAuthorizationHostError Unit :=
  match observer processId windowHandle with
  | none => .error unavailableHost
  | some observed => require (observed = provenance.processCreationIdentity) .denied

/-- What `authorize`, `validate` and `validate_lease` do before they ask the broker: the status of the key. -/
def hostStatus (s : System) (clock : Except CrossClientError Nat) (observer : TargetObserver) (authorizationId : String)
    (processId windowHandle : Nat) :
    Except TrustedTaskAuthorizationHostError TrustedTaskAuthorizationStatus × System :=
  match clock with
  | .error _ => (.error unavailableHost, s)
  | .ok now =>
    match observeClock s.verifier now with
    | (.error _, verifier) => (.error unavailableHost, { s with verifier := verifier })
    | (.ok (), verifier) =>
      (match verifier.authorizations[authorizationId]? with
        | none => .error .denied
        | some provenance => do
          liveTarget observer provenance processId windowHandle
          s.liveKey provenance,
        { s with verifier := verifier })

def authorize (s : System) (clock : Except CrossClientError Nat) (observer : TargetObserver)
    (request : TrustedTaskAuthorizationRequest) (brokerNow : Nat) (reading : FenceReading) :
    Except TrustedTaskAuthorizationHostError TrustedTaskAuthorizationLease × System :=
  match s.hostStatus clock observer request.authorizationId request.targetProcessId request.targetWindowHandle with
  | (.error error, s) => (.error error, s)
  | (.ok .revoked, s) => (.error .denied, s)
  | (.ok .active, s) =>
    let (result, broker) := s.broker.authorize request brokerNow reading
    (result, { s with broker := broker })

def validate (s : System) (clock : Except CrossClientError Nat) (observer : TargetObserver)
    (request : TrustedTaskAuthorizationValidationRequest) (reading : FenceReading) :
    Except TrustedTaskAuthorizationHostError TrustedTaskAuthorizationValidationDecision × System :=
  match s.hostStatus clock observer request.authorizationId request.targetProcessId request.targetWindowHandle with
  | (.error error, s) => (.error error, s)
  | (.ok .revoked, s) => (.ok ⟨.revoked, request.requestDigest⟩, s)
  | (.ok .active, s) =>
    let (result, broker) := s.broker.validate request reading
    (result, { s with broker := broker })

def validateLease (s : System) (clock : Except CrossClientError Nat) (observer : TargetObserver)
    (request : TrustedTaskAuthorizationLeaseValidationRequest) (reading : FenceReading) :
    Except TrustedTaskAuthorizationHostError TrustedTaskAuthorizationValidationDecision × System :=
  match s.hostStatus clock observer request.authorizationId request.targetProcessId request.targetWindowHandle with
  | (.error error, s) => (.error error, s)
  | (.ok .revoked, s) => (.ok ⟨.revoked, request.requestDigest⟩, s)
  | (.ok .active, s) =>
    let (result, broker) := s.broker.validateLease request reading
    (result, { s with broker := broker })

end System

/-! ### The machine -/

inductive CrossClientCall where
  | prepare (clock : Except CrossClientError Nat) (observer : TargetObserver) (request : ChallengeRequest)
  | consume (clock : Except CrossClientError Nat) (observer : TargetObserver) (fs : FileSystem)
      (readings : BrokerState.RegisterReadings) (encoded : List UInt8)
  | revoke (keyId : String) (revocationEpoch : Nat)
  | authorize (clock : Except CrossClientError Nat) (observer : TargetObserver) (request : TrustedTaskAuthorizationRequest)
      (brokerNow : Nat) (reading : FenceReading)
  | validate (clock : Except CrossClientError Nat) (observer : TargetObserver)
      (request : TrustedTaskAuthorizationValidationRequest) (reading : FenceReading)
  | validateLease (clock : Except CrossClientError Nat) (observer : TargetObserver)
      (request : TrustedTaskAuthorizationLeaseValidationRequest) (reading : FenceReading)
  /-- The admission fence of a record is asked, by a part of the Host that holds it. -/
  | admitAt (id : String) (reading : FenceReading)

inductive CrossClientReply where
  | prepared (result : Except CrossClientError Challenge)
  | consumed (result : Except CrossClientError Consumption)
  | revoked (result : Except CrossClientError Unit)
  | lease (result : Except TrustedTaskAuthorizationHostError TrustedTaskAuthorizationLease)
  | decision (result : Except TrustedTaskAuthorizationHostError TrustedTaskAuthorizationValidationDecision)
  | admitted (active : Bool)

/-- The verifier and its Host, each call in one step. -/
def crossClientMachine (env : Env) (primitives : Primitives) (uuid draw : Nat → String) (runtime : Runtime) :
    Runs.Machine System CrossClientCall CrossClientReply where
  step s
    | .prepare clock observer request => (s.prepare env primitives draw runtime clock observer request).map .prepared id
    | .consume clock observer fs readings encoded =>
      (s.consume env primitives uuid runtime clock observer fs readings encoded).map .consumed id
    | .revoke keyId revocationEpoch => (s.revoke keyId revocationEpoch).map .revoked id
    | .authorize clock observer request brokerNow reading =>
      (s.authorize clock observer request brokerNow reading).map .lease id
    | .validate clock observer request reading => (s.validate clock observer request reading).map .decision id
    | .validateLease clock observer request reading => (s.validateLease clock observer request reading).map .decision id
    | .admitAt id reading => (.admitted (s.broker.admitAt id reading).1, { s with broker := (s.broker.admitAt id reading).2 })

/-! ### Calls that overlap

A call reads the clock before it takes the lock, and another call may read and take the lock in between. -/

/-- A call that has not read the clock yet. -/
inductive TimedCall where
  | prepare (observer : TargetObserver) (request : ChallengeRequest)
  | consume (observer : TargetObserver) (fs : FileSystem) (readings : BrokerState.RegisterReadings) (encoded : List UInt8)
  | authorize (observer : TargetObserver) (request : TrustedTaskAuthorizationRequest) (brokerNow : Nat) (reading : FenceReading)
  | validate (observer : TargetObserver) (request : TrustedTaskAuthorizationValidationRequest) (reading : FenceReading)
  | validateLease (observer : TargetObserver) (request : TrustedTaskAuthorizationLeaseValidationRequest) (reading : FenceReading)

/-- The call with the reading that it goes on with. -/
def TimedCall.at (clock : Except CrossClientError Nat) : TimedCall → CrossClientCall
  | prepare observer request => .prepare clock observer request
  | consume observer fs readings encoded => .consume clock observer fs readings encoded
  | authorize observer request brokerNow reading => .authorize clock observer request brokerNow reading
  | validate observer request reading => .validate clock observer request reading
  | validateLease observer request reading => .validateLease clock observer request reading

/-- The readings that calls hold, each under its thread, the last first. -/
structure Overlapping where
  system : System
  held : List (Nat × Except CrossClientError Nat)

inductive ClockEvent where
  /-- A thread reads the clock. -/
  | read (thread : Nat) (clock : Except CrossClientError Nat)
  /-- A thread goes on with the reading that it holds: it takes the lock. -/
  | enter (thread : Nat) (call : TimedCall)
  | revoke (keyId : String) (revocationEpoch : Nat)
  | admitAt (id : String) (reading : FenceReading)

namespace Overlapping

def initial (keys : KeyRegistry) (drawn brokerDrawn : Nat) : Overlapping := ⟨.initial keys drawn brokerDrawn, []⟩

def reading (s : Overlapping) (thread : Nat) : Option (Except CrossClientError Nat) := s.held.lookup thread

end Overlapping

/-- A thread that holds no reading does not enter. -/
def overlappingMachine (env : Env) (primitives : Primitives) (uuid draw : Nat → String) (runtime : Runtime) :
    Runs.Machine Overlapping ClockEvent (Option CrossClientReply) where
  step s
    | .read thread clock => (none, { s with held := (thread, clock) :: s.held })
    | .enter thread call =>
      match s.reading thread with
      | none => (none, s)
      | some clock =>
        let (reply, system) := (crossClientMachine env primitives uuid draw runtime).step s.system (call.at clock)
        (some reply, ⟨system, s.held.filter (·.1 ≠ thread)⟩)
    | .revoke keyId revocationEpoch =>
      let (reply, system) := (crossClientMachine env primitives uuid draw runtime).step s.system (.revoke keyId revocationEpoch)
      (some reply, { s with system := system })
    | .admitAt id reading =>
      let (reply, system) := (crossClientMachine env primitives uuid draw runtime).step s.system (.admitAt id reading)
      (some reply, { s with system := system })

end CrossClient
end DccCua
