import DccCua.Host.CrossClient
import DccCua.Theorems.Lease

/-! What each call of the verifier and of its Host does to the retained challenges, the provenance of the authorizations, the
keys and the broker. A challenge id comes of a UUID that the call drew, and so does an authorization id. -/

namespace DccCua
namespace CrossClient

open Checks

/-! ### The clock -/

/-- The challenges and the provenance are those of another state. -/
structure SameRecords (v w : VerifierState) : Prop where
  challenges : w.challenges = v.challenges
  authorizations : w.authorizations = v.authorizations

theorem observeClock_same (v : VerifierState) (now : Nat) : SameRecords v (observeClock v now).2 := by
  unfold observeClock
  split
  · exact ⟨rfl, rfl⟩
  split
  · exact ⟨rfl, rfl⟩
  split
  · exact ⟨rfl, rfl⟩
  · exact ⟨rfl, rfl⟩

theorem KeyRegistry.get_put (keys : KeyRegistry) (record : RegistryKey) (keyId : String) :
    (keys.put record).records[keyId]? = if record.key.keyId = keyId then some record else keys.records[keyId]? := by
  simp [put, Std.TreeMap.getElem?_insert]

namespace System

variable {env : Env} {primitives : Primitives} {uuid draw : Nat → String} {runtime : Runtime} {s : System}
  {clock : Except CrossClientError Nat} {observer : TargetObserver}

/-! ### The verifier -/

/-- Some challenges are gone, and the provenance is the same. -/
structure Shrinks (v w : VerifierState) : Prop where
  challenges : ∀ (id : String) (record : ChallengeRecord), w.challenges[id]? = some record → v.challenges[id]? = some record
  authorizations : w.authorizations = v.authorizations

theorem shrinks_prune {v w : VerifierState} (h : SameRecords v w) (now : Nat) : Shrinks v (pruneChallenges w now) where
  challenges id record hget := by
    have hfound : w.challenges[id]? = some record ∧ now ≤ record.challenge.confirmationDeadlineUnixMs := by
      simpa [pruneChallenges, Std.TreeMap.getElem?_filter, Option.filter_eq_some_iff] using hget
    exact h.challenges ▸ hfound.1
  authorizations := h.authorizations

/-- The challenge that a `prepare` call returns. -/
structure Prepared (env : Env) (draw : Nat → String) (s : System) (now : Nat) (request : ChallengeRequest)
    (challenge : Challenge) : Prop where
  valid : validateChallengeRequest env request now = .ok ()
  from_ : challenge.request = request
  issued : challenge.issuedAtUnixMs = now
  deadline : challenge.confirmationDeadlineUnixMs = min request.expiresAtUnixMs (now + maxPendingTtlMs)
  id : challenge.challengeId = challengeId draw s.drawn

theorem prepare_cases (env : Env) (primitives : Primitives) (draw : Nat → String) (runtime : Runtime) (s : System)
    (clock : Except CrossClientError Nat) (observer : TargetObserver) (request : ChallengeRequest) :
    (∃ error verifier drawn, s.prepare env primitives draw runtime clock observer request =
        (.error error, { s with verifier := verifier, drawn := drawn }) ∧ Shrinks s.verifier verifier ∧ s.drawn ≤ drawn) ∨
    ∃ now verifier challenge, clock = .ok now ∧ Prepared env draw s now request challenge ∧ Shrinks s.verifier verifier ∧
      s.prepare env primitives draw runtime clock observer request = (.ok challenge, { s with
        verifier := { verifier with challenges := verifier.challenges.insert challenge.challengeId ⟨challenge, false⟩ }
        drawn := s.drawn + 3 }) := by
  have hrefl : Shrinks s.verifier s.verifier := ⟨fun _ _ h => h, rfl⟩
  unfold prepare
  split
  · rename_i error
    exact Or.inl ⟨error, s.verifier, s.drawn, rfl, hrefl, Nat.le_refl _⟩
  rename_i now
  split
  · rename_i error _
    exact Or.inl ⟨error, s.verifier, s.drawn, rfl, hrefl, Nat.le_refl _⟩
  rename_i hvalid
  obtain ⟨_, hvalid, -⟩ := bind_eq_ok.mp hvalid
  have hsame := observeClock_same s.verifier now
  unfold addChallenge
  split
  · rename_i error verifier hobserve
    rw [hobserve] at hsame
    exact Or.inl ⟨error, verifier, s.drawn, rfl, ⟨fun _ _ h => hsame.challenges ▸ h, hsame.authorizations⟩, Nat.le_refl _⟩
  rename_i verifier hobserve
  rw [hobserve] at hsame
  have hshrinks := shrinks_prune hsame now
  dsimp only
  split
  · exact Or.inl ⟨_, _, s.drawn, rfl, hshrinks, Nat.le_refl _⟩
  split
  · exact Or.inl ⟨_, _, s.drawn + 3, rfl, hshrinks, Nat.le_add_right _ _⟩
  · exact Or.inr ⟨now, _, _, rfl, ⟨hvalid, rfl, rfl, rfl, rfl⟩, hshrinks, rfl⟩

/-- What a decision that passes the checks of `consume` has: the retained challenge that is not consumed, an active key for its
    audience, the signature of this key, and for one that allows the target as it is. -/
structure Admitted (primitives : Primitives) (runtime : Runtime) (s : System) (now : Nat) (observer : TargetObserver)
    (receipt : SignedDecision) (challenge : Challenge) (key : TrustedTaskAuthorizationKey) : Prop where
  retained : s.verifier.challenges[receipt.decision.challengeId]? = some ⟨challenge, false⟩
  binding : validateDecisionBinding runtime challenge receipt.decision now = .ok ()
  active : s.keys.records[receipt.decision.issuerKeyId]? = some ⟨key, none⟩
  audience : key.audience = challenge.request.audience
  signature : verifySignature primitives key receipt = .ok ()
  target : receipt.decision.decision = .allow → validateLiveTarget observer challenge.request.target = .ok ()

theorem activeKey_eq_ok {keyId : String} {key : TrustedTaskAuthorizationKey} :
    s.activeKey keyId = .ok key ↔ s.keys.records[keyId]? = some ⟨key, none⟩ := by
  unfold activeKey lookup
  cases hkey : s.keys.records[keyId]? with
  | none => simp
  | some record =>
    obtain ⟨found, revokedAtEpoch⟩ := record
    cases revokedAtEpoch <;> simp

theorem admitDecision_eq_ok {now : Nat} {receipt : SignedDecision} {challenge : Challenge} {key : TrustedTaskAuthorizationKey} :
    admitDecision primitives runtime s now observer receipt = .ok (challenge, key) ↔
      Admitted primitives runtime s now observer receipt challenge key := by
  unfold admitDecision
  constructor
  · intro h
    split at h
    · cases h
    · rename_i record hget
      simp only [bind_eq_ok, require_eq_ok, onlyIf_eq_ok, decide_eq_true_eq, activeKey_eq_ok, Bool.not_eq_true'] at h
      obtain ⟨_, hconsumed, _, hbinding, found, hactive, _, haudience, _, hsignature, _, htarget, heq⟩ := h
      cases heq
      obtain ⟨challenge, consumed⟩ := record
      obtain rfl : consumed = false := hconsumed
      exact ⟨hget, hbinding, hactive, haudience, hsignature, htarget⟩
  · intro h
    simp only [h.retained, bind_eq_ok, require_eq_ok, onlyIf_eq_ok, decide_eq_true_eq, activeKey_eq_ok, Bool.not_eq_true']
    exact ⟨(), trivial, (), h.binding, key, h.active, (), h.audience, (), h.signature, (), h.target, rfl⟩

/-- The decision is bound to its challenge. -/
structure Bound (runtime : Runtime) (challenge : Challenge) (decision : UnsignedDecision) (now : Nat) : Prop where
  schema : decision.schema = receiptSchema
  audience : decision.audience = challenge.request.audience
  runtimeInstanceId : decision.runtimeInstanceId = runtime.runtimeInstanceId
  bootGeneration : decision.bootGeneration = runtime.bootGeneration
  challengeId : decision.challengeId = challenge.challengeId
  nonce : decision.nonce = challenge.nonce
  challengeSha256 : decision.challengeSha256 = challenge.challengeSha256
  issued : challenge.issuedAtUnixMs ≤ decision.issuedAtUnixMs
  past : decision.issuedAtUnixMs ≤ now
  inTime : decision.issuedAtUnixMs ≤ challenge.confirmationDeadlineUnixMs
  deadline : now ≤ challenge.confirmationDeadlineUnixMs
  unexpired : now < decision.expiresAtUnixMs
  expiry : decision.expiresAtUnixMs ≤ challenge.request.expiresAtUnixMs

theorem validateDecisionBinding_eq_ok {challenge : Challenge} {decision : UnsignedDecision} {now : Nat} :
    validateDecisionBinding runtime challenge decision now = .ok () ↔ Bound runtime challenge decision now := by
  simp only [validateDecisionBinding, bind_eq_ok, require_eq_ok, Bool.and_eq_true, decide_eq_true_eq, exists_const, and_assoc]
  constructor
  · rintro ⟨h1, h2, h3, h4, h5, h6, h7, h8, h9, h10, h11, h12, h13, -⟩
    exact ⟨h1, h2, h3, h4, h5, h6, h7, h8, h9, h10, h11, h12, h13⟩
  · rintro ⟨h1, h2, h3, h4, h5, h6, h7, h8, h9, h10, h11, h12, h13⟩
    exact ⟨h1, h2, h3, h4, h5, h6, h7, h8, h9, h10, h11, h12, h13, Nat.le_of_lt (Nat.lt_of_le_of_lt h9 h12)⟩

/-- The state in which the challenge of a decision is marked. -/
def marked (s : System) (verifier : VerifierState) (id : String) (challenge : Challenge) : System :=
  { s with verifier := { verifier with challenges := verifier.challenges.insert id ⟨challenge, true⟩ } }

/-- A decision that is admitted: its challenge is marked, and the call goes on. -/
theorem settle_admitted (env : Env) (uuid : Nat → String) (fs : FileSystem) (readings : BrokerState.RegisterReadings)
    (hkeys : ∀ (id : String) (record : ChallengeRecord), s.verifier.challenges[id]? = some record → record.challenge.challengeId = id)
    {verifier : VerifierState} (hsame : SameRecords s.verifier verifier) {now : Nat} {receipt : SignedDecision} {challenge : Challenge}
    {key : TrustedTaskAuthorizationKey} (h : Admitted primitives runtime s now observer receipt challenge key) :
    settle env primitives uuid runtime { s with verifier := verifier } now observer fs readings receipt =
      conclude env uuid (s.marked verifier challenge.challengeId challenge) now fs readings challenge key receipt.decision := by
  have hretained : verifier.challenges[receipt.decision.challengeId]? = some ⟨challenge, false⟩ := by
    rw [hsame.challenges]
    exact h.retained
  have hadmission : admitDecision primitives runtime { s with verifier := verifier } now observer receipt = .ok (challenge, key) :=
    admitDecision_eq_ok.mpr ⟨hretained, h.binding, h.active, h.audience, h.signature, h.target⟩
  have hmark : markConsumed { s with verifier := verifier } challenge.challengeId =
      .ok (s.marked verifier challenge.challengeId challenge) := by
    unfold markConsumed
    rw [hkeys _ _ h.retained]
    simp only [hretained]
    rfl
  unfold settle
  rw [hadmission]
  dsimp only
  rw [hmark]

/-- A `consume` call fails without touching a record, or it marks the challenge of a decision that was admitted. -/
theorem consume_cases (env : Env) (primitives : Primitives) (uuid : Nat → String) (runtime : Runtime) (s : System)
    (clock : Except CrossClientError Nat) (observer : TargetObserver) (fs : FileSystem) (readings : BrokerState.RegisterReadings)
    (encoded : List UInt8) (hkeys : ∀ (id : String) (record : ChallengeRecord), s.verifier.challenges[id]? = some record → record.challenge.challengeId = id) :
    (∃ error verifier, s.consume env primitives uuid runtime clock observer fs readings encoded =
        (.error error, { s with verifier := verifier }) ∧ SameRecords s.verifier verifier) ∨
    ∃ receipt now verifier challenge key, decodeReceipt primitives encoded = .ok receipt ∧ clock = .ok now ∧
      SameRecords s.verifier verifier ∧ Admitted primitives runtime s now observer receipt challenge key ∧
      challenge.challengeId = receipt.decision.challengeId ∧
      s.consume env primitives uuid runtime clock observer fs readings encoded =
        conclude env uuid (s.marked verifier challenge.challengeId challenge) now fs readings challenge key receipt.decision := by
  unfold consume
  split
  · exact Or.inl ⟨_, s.verifier, rfl, ⟨rfl, rfl⟩⟩
  · exact Or.inl ⟨_, s.verifier, rfl, ⟨rfl, rfl⟩⟩
  rename_i receipt now hreceipt
  have hsame := observeClock_same s.verifier now
  split
  · rename_i error verifier hobserve
    rw [hobserve] at hsame
    exact Or.inl ⟨error, verifier, rfl, hsame⟩
  rename_i verifier hobserve
  rw [hobserve] at hsame
  cases hadmission : admitDecision primitives runtime { s with verifier := verifier } now observer receipt with
  | error error =>
    refine Or.inl ⟨error, verifier, ?_, hsame⟩
    unfold settle
    rw [hadmission]
  | ok admitted =>
    obtain ⟨challenge, key⟩ := admitted
    have h := admitDecision_eq_ok.mp hadmission
    have hadmitted : Admitted primitives runtime s now observer receipt challenge key :=
      ⟨hsame.challenges ▸ h.retained, h.binding, h.active, h.audience, h.signature, h.target⟩
    exact Or.inr ⟨receipt, now, verifier, challenge, key, hreceipt, rfl, hsame, hadmitted, hkeys _ _ hadmitted.retained,
      settle_admitted env uuid fs readings hkeys hsame hadmitted⟩

section Redeem
variable {now processId windowHandle expiresAtUnixMs : Nat} {identity : String} {fs : FileSystem}
  {readings : BrokerState.RegisterReadings} {challenge : Challenge} {key : TrustedTaskAuthorizationKey} {broker : BrokerState}

theorem redeem_refused (hbootstrap : challenge.request.target.isBootstrap = false)
    (htarget : challenge.request.target.exactWindow? = some (processId, windowHandle, identity))
    {error : TrustedTaskAuthorizationBrokerError}
    (hregister : s.broker.register env uuid fs (registrationOf challenge processId windowHandle expiresAtUnixMs) none readings =
      (.error error, broker)) :
    redeem env uuid s now fs readings challenge key expiresAtUnixMs = (.error .brokerUnavailable, { s with broker := broker }) := by
  unfold redeem
  rw [if_neg (by simp [hbootstrap]), htarget]
  dsimp only
  rw [hregister]

theorem redeem_registered (hbootstrap : challenge.request.target.isBootstrap = false)
    (htarget : challenge.request.target.exactWindow? = some (processId, windowHandle, identity))
    {receipt : TrustedTaskAuthorizationReceipt}
    (hregister : s.broker.register env uuid fs (registrationOf challenge processId windowHandle expiresAtUnixMs) none readings =
      (.ok receipt, broker)) :
    redeem env uuid s now fs readings challenge key expiresAtUnixMs = (.ok (.task receipt), { s with
      broker := broker
      verifier := addProvenance s.verifier now receipt.authorizationId ⟨key, identity, expiresAtUnixMs⟩ }) := by
  unfold redeem
  rw [if_neg (by simp [hbootstrap]), htarget]
  dsimp only
  rw [hregister]

end Redeem

theorem target_cases (target : Target) : target.isBootstrap = true ∨
    target.isBootstrap = false ∧ ∃ processId windowHandle identity, target.exactWindow? = some (processId, windowHandle, identity) := by
  cases target with
  | exactWindow processId identity windowHandle => exact Or.inr ⟨rfl, processId, windowHandle, identity, rfl⟩
  | exactBrowser processId identity windowHandle scope => exact Or.inr ⟨rfl, processId, windowHandle, identity, rfl⟩
  | browserBootstrapExactWindow processId identity windowHandle => exact Or.inl rfl
  | browserBootstrapOwned browser profile => exact Or.inl rfl

/-- What `consume` makes of a decision that allows: a bootstrap, or what the broker makes of the registration. -/
theorem redeem_cases (env : Env) (uuid : Nat → String) (s : System) (now : Nat) (fs : FileSystem)
    (readings : BrokerState.RegisterReadings) (challenge : Challenge) (key : TrustedTaskAuthorizationKey) (expiresAtUnixMs : Nat) :
    (challenge.request.target.isBootstrap = true ∧ redeem env uuid s now fs readings challenge key expiresAtUnixMs =
      (.ok (.browserBootstrap ⟨challenge.challengeId, challenge.request.target, expiresAtUnixMs⟩), s)) ∨
    ∃ processId windowHandle identity broker, challenge.request.target.exactWindow? = some (processId, windowHandle, identity) ∧
      ((∃ error, s.broker.register env uuid fs (registrationOf challenge processId windowHandle expiresAtUnixMs) none readings =
            (.error error, broker) ∧
          redeem env uuid s now fs readings challenge key expiresAtUnixMs =
            (.error .brokerUnavailable, { s with broker := broker })) ∨
        ∃ receipt, s.broker.register env uuid fs (registrationOf challenge processId windowHandle expiresAtUnixMs) none readings =
            (.ok receipt, broker) ∧
          redeem env uuid s now fs readings challenge key expiresAtUnixMs = (.ok (.task receipt), { s with
            broker := broker
            verifier := addProvenance s.verifier now receipt.authorizationId ⟨key, identity, expiresAtUnixMs⟩ })) := by
  rcases target_cases challenge.request.target with hbootstrap | ⟨hbootstrap, processId, windowHandle, identity, htarget⟩
  · refine Or.inl ⟨hbootstrap, ?_⟩
    unfold redeem
    rw [if_pos hbootstrap]
  · rcases hregister : s.broker.register env uuid fs (registrationOf challenge processId windowHandle expiresAtUnixMs) none
      readings with ⟨error | receipt, broker⟩
    · exact Or.inr ⟨processId, windowHandle, identity, broker, htarget,
        Or.inl ⟨error, hregister, redeem_refused hbootstrap htarget hregister⟩⟩
    · exact Or.inr ⟨processId, windowHandle, identity, broker, htarget,
        Or.inr ⟨receipt, hregister, redeem_registered hbootstrap htarget hregister⟩⟩

/-- The broker behind the verifier makes at most one step of its own. -/
def BrokerMoves (env : Env) (uuid : Nat → String) (before after : BrokerState) : Prop :=
  after = before ∨ ∃ i, after = ((brokerMachine env uuid).step before i).2

theorem BrokerMoves.drawn {before after : BrokerState} (h : BrokerMoves env uuid before after) : before.drawn ≤ after.drawn := by
  rcases h with rfl | ⟨i, rfl⟩
  · exact Nat.le_refl _
  · exact BrokerState.step_drawn before i

theorem BrokerMoves.keysDrawn {before after : BrokerState} (h : BrokerMoves env uuid before after)
    (hkeys : BrokerState.KeysDrawn uuid before) : BrokerState.KeysDrawn uuid after := by
  rcases h with rfl | ⟨i, rfl⟩
  · exact hkeys
  · exact hkeys.step i

/-- What the end of `consume` leaves: the challenges as they were marked. -/
structure Concluded (env : Env) (uuid : Nat → String) (s t : System) : Prop where
  keys : t.keys = s.keys
  drawn : t.drawn = s.drawn
  challenges : t.verifier.challenges = s.verifier.challenges
  broker : BrokerMoves env uuid s.broker t.broker

/-- The end of `consume`, for a decision that denies and for one that allows: the provenance that is new is that of a task, under
    an authorization id that was drawn. -/
theorem conclude_cases (env : Env) (uuid : Nat → String) (s : System) (now : Nat) (fs : FileSystem)
    (readings : BrokerState.RegisterReadings) (challenge : Challenge) (key : TrustedTaskAuthorizationKey)
    (decision : UnsignedDecision) :
    Concluded env uuid s (conclude env uuid s now fs readings challenge key decision).2 ∧
      (((conclude env uuid s now fs readings challenge key decision).2.verifier.authorizations = s.verifier.authorizations ∧
          ∀ task, (conclude env uuid s now fs readings challenge key decision).1 ≠ .ok (.task task)) ∨
        ∃ task n provenance, (conclude env uuid s now fs readings challenge key decision).1 = .ok (.task task) ∧
          s.broker.drawn ≤ n ∧ n < (conclude env uuid s now fs readings challenge key decision).2.broker.drawn ∧
          task.authorizationId = BrokerState.authorizationId uuid n ∧ provenance.key = key ∧
          (conclude env uuid s now fs readings challenge key decision).2.verifier =
            addProvenance s.verifier now task.authorizationId provenance) := by
  unfold conclude
  split
  · exact ⟨⟨rfl, rfl, rfl, Or.inl rfl⟩, Or.inl ⟨rfl, fun task h => by cases h⟩⟩
  have registers : ∀ {registration : TrustedTaskAuthorizationRegistration} {result} {broker : BrokerState},
      s.broker.register env uuid fs registration none readings = (result, broker) → BrokerMoves env uuid s.broker broker :=
    fun {registration} _ _ hregister => Or.inr ⟨.register fs registration none readings, (congrArg Prod.snd hregister).symm⟩
  rcases redeem_cases env uuid s now fs readings challenge key decision.expiresAtUnixMs with
    ⟨-, heq⟩ | ⟨processId, windowHandle, identity, broker, -, ⟨error, hregister, heq⟩ | ⟨receipt, hregister, heq⟩⟩
  · rw [heq]
    exact ⟨⟨rfl, rfl, rfl, Or.inl rfl⟩, Or.inl ⟨rfl, fun task h => by cases h⟩⟩
  · rw [heq]
    exact ⟨⟨rfl, rfl, rfl, registers hregister⟩, Or.inl ⟨rfl, fun task h => by cases h⟩⟩
  · rw [heq]
    refine ⟨⟨rfl, rfl, rfl, registers hregister⟩, Or.inr ?_⟩
    rcases BrokerState.register_cases env uuid s.broker fs
        (registrationOf challenge processId windowHandle decision.expiresAtUnixMs) none readings with
      ⟨error, hfail, -⟩ | ⟨error, drawn, -, hfail⟩ | ⟨n, fence, hn, -, -, -, hok⟩
    · rw [hregister] at hfail
      cases congrArg Prod.fst hfail
    · rw [hregister] at hfail
      cases congrArg Prod.fst hfail
    · rw [hregister] at hok
      cases hok
      exact ⟨_, n, _, rfl, hn, Nat.lt_add_of_pos_right (by decide), rfl, rfl, rfl⟩

/-! ### The Host -/

theorem hostStatus_same (s : System) (clock : Except CrossClientError Nat) (observer : TargetObserver) (authorizationId : String)
    (processId windowHandle : Nat) :
    ∃ verifier, (s.hostStatus clock observer authorizationId processId windowHandle).2 = { s with verifier := verifier } ∧
      SameRecords s.verifier verifier := by
  unfold hostStatus
  split
  · exact ⟨s.verifier, rfl, rfl, rfl⟩
  · rename_i now
    have hsame := observeClock_same s.verifier now
    split
    · rename_i hobserve
      rw [hobserve] at hsame
      exact ⟨_, rfl, hsame⟩
    · rename_i hobserve
      rw [hobserve] at hsame
      exact ⟨_, rfl, hsame⟩

/-- The status is active only under the active key of the provenance, for the process that it names. -/
theorem hostStatus_active {authorizationId : String} {processId windowHandle : Nat}
    (h : (s.hostStatus clock observer authorizationId processId windowHandle).1 = .ok .active) :
    ∃ provenance, s.verifier.authorizations[authorizationId]? = some provenance ∧
      s.keys.records[provenance.key.keyId]? = some ⟨provenance.key, none⟩ ∧
      observer processId windowHandle = some provenance.processCreationIdentity := by
  unfold hostStatus at h
  split at h
  · cases h
  rename_i now
  have hsame := observeClock_same s.verifier now
  split at h
  · cases h
  rename_i verifier hobserve
  rw [hobserve] at hsame
  dsimp only at h
  split at h
  · cases h
  rename_i provenance hget
  simp only [bind_eq_ok] at h
  obtain ⟨_, htarget, hkey⟩ := h
  refine ⟨provenance, hsame.authorizations ▸ hget, ?_, ?_⟩
  · unfold liveKey lookup at hkey
    cases hlookup : s.keys.records[provenance.key.keyId]? with
    | none => simp [hlookup] at hkey
    | some record =>
      obtain ⟨key, revokedAtEpoch⟩ := record
      cases revokedAtEpoch with
      | some epoch => simp [hlookup] at hkey
      | none =>
        simp only [hlookup, Option.map_some] at hkey
        split at hkey
        · rename_i heq
          rw [heq]
        · cases hkey
  · unfold liveTarget at htarget
    split at htarget
    · cases htarget
    · rename_i observed hobserved
      rw [require_eq_ok, decide_eq_true_eq] at htarget
      rw [hobserved, htarget]

/-- What a call of the Host leaves. -/
structure HostKept (env : Env) (uuid : Nat → String) (s t : System) : Prop where
  keys : t.keys = s.keys
  drawn : t.drawn = s.drawn
  records : SameRecords s.verifier t.verifier
  broker : BrokerMoves env uuid s.broker t.broker

theorem hostKept_of_status {authorizationId : String} {processId windowHandle : Nat}
    {result : Except TrustedTaskAuthorizationHostError TrustedTaskAuthorizationStatus} {t : System}
    (h : s.hostStatus clock observer authorizationId processId windowHandle = (result, t)) :
    HostKept env uuid s t ∧ t.broker = s.broker := by
  obtain ⟨verifier, hstate, hsame⟩ := hostStatus_same s clock observer authorizationId processId windowHandle
  rw [h] at hstate
  obtain rfl : t = { s with verifier := verifier } := hstate
  exact ⟨⟨rfl, rfl, hsame, Or.inl rfl⟩, rfl⟩

theorem HostKept.ask {t : System} (h : HostKept env uuid s t ∧ t.broker = s.broker) (i : BrokerCall) :
    HostKept env uuid s { t with broker := ((brokerMachine env uuid).step t.broker i).2 } :=
  ⟨h.1.keys, h.1.drawn, h.1.records, Or.inr ⟨i, by rw [h.2]⟩⟩

theorem authorize_kept (env : Env) (uuid : Nat → String) (request : TrustedTaskAuthorizationRequest) (brokerNow : Nat)
    (reading : FenceReading) : HostKept env uuid s (s.authorize clock observer request brokerNow reading).2 := by
  unfold authorize
  split
  · rename_i h
    exact (hostKept_of_status h).1
  · rename_i h
    exact (hostKept_of_status h).1
  · rename_i h
    exact HostKept.ask (hostKept_of_status h) (.authorize request brokerNow reading)

theorem validate_kept (env : Env) (uuid : Nat → String) (request : TrustedTaskAuthorizationValidationRequest) (reading : FenceReading) :
    HostKept env uuid s (s.validate clock observer request reading).2 := by
  unfold validate
  split
  · rename_i h
    exact (hostKept_of_status h).1
  · rename_i h
    exact (hostKept_of_status h).1
  · rename_i h
    exact HostKept.ask (hostKept_of_status h) (.validate request reading)

theorem validateLease_kept (env : Env) (uuid : Nat → String) (request : TrustedTaskAuthorizationLeaseValidationRequest)
    (reading : FenceReading) : HostKept env uuid s (s.validateLease clock observer request reading).2 := by
  unfold validateLease
  split
  · rename_i h
    exact (hostKept_of_status h).1
  · rename_i h
    exact (hostKept_of_status h).1
  · rename_i h
    exact HostKept.ask (hostKept_of_status h) (.validateLease request reading)

theorem revoke_cases (s : System) (keyId : String) (revocationEpoch : Nat) :
    (∃ error, s.revoke keyId revocationEpoch = (.error error, s)) ∨
    ∃ record, s.keys.records[keyId]? = some record ∧ s.revoke keyId revocationEpoch =
      (.ok (), { s with keys := s.keys.put { record with revokedAtEpoch := some revocationEpoch } }) := by
  unfold revoke
  split
  · exact Or.inl ⟨_, rfl⟩
  split
  · exact Or.inl ⟨_, rfl⟩
  rename_i record hget
  split
  · exact Or.inl ⟨_, rfl⟩
  · exact Or.inr ⟨record, hget, rfl⟩

end System
end CrossClient
end DccCua
