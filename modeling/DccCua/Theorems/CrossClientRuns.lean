import DccCua.Theorems.CrossClient

/-! # Runs of the cross-client verifier

In every run of a verifier and its Host a challenge is consumed once at most. A task comes of a challenge that was prepared and
retained, of a decision that is bound to it, and of a key that is active. A failure before the registration leaves the
challenges alone. Once the key of an authorization is revoked, the Host grants nothing for it. -/

namespace DccCua
namespace CrossClient

open Runs Checks System

abbrev CrossClientStep := Call System CrossClientCall CrossClientReply

namespace CrossClientStep

/-- The call consumes the challenge, with any of the three results. -/
def Consumes (primitives : Primitives) (c : CrossClientStep) (id : String) : Prop :=
  ∃ clock observer fs readings encoded receipt result, c.input = .consume clock observer fs readings encoded ∧
    decodeReceipt primitives encoded = .ok receipt ∧ receipt.decision.challengeId = id ∧ c.output = .consumed (.ok result)

/-- The call issues a task authorization under a key. -/
def IssuesTask (primitives : Primitives) (c : CrossClientStep) (authorizationId keyId : String) : Prop :=
  ∃ clock observer fs readings encoded receipt task, c.input = .consume clock observer fs readings encoded ∧
    decodeReceipt primitives encoded = .ok receipt ∧ receipt.decision.issuerKeyId = keyId ∧
    c.output = .consumed (.ok (.task task)) ∧ task.authorizationId = authorizationId

def Revokes (c : CrossClientStep) (keyId : String) : Prop :=
  ∃ epoch, c.input = .revoke keyId epoch ∧ c.output = .revoked (.ok ())

/-- The call leases the authorization or reports it active. -/
def Grants (c : CrossClientStep) (authorizationId : String) : Prop :=
  (∃ clock observer request brokerNow reading lease, c.input = .authorize clock observer request brokerNow reading ∧
      request.authorizationId = authorizationId ∧ c.output = .lease (.ok lease)) ∨
    ∃ digest, c.output = .decision (.ok ⟨.active, digest⟩) ∧
      ((∃ clock observer request reading, c.input = .validate clock observer request reading ∧
          request.authorizationId = authorizationId) ∨
        ∃ clock observer request reading, c.input = .validateLease clock observer request reading ∧
          request.authorizationId = authorizationId)

end CrossClientStep

section
variable {env : Env} {primitives : Primitives} {uuid draw : Nat → String} {runtime : Runtime} {s : System}

/-! ### One step -/

/-- What a step does to the retained challenges. -/
theorem challenges_step (hkeys : ∀ (id : String) (record : ChallengeRecord), s.verifier.challenges[id]? = some record →
      record.challenge.challengeId = id) {i : CrossClientCall} {id : String} {record' : ChallengeRecord}
    (h : ((crossClientMachine env primitives uuid draw runtime).step s i).2.verifier.challenges[id]? = some record') :
    (∃ record, s.verifier.challenges[id]? = some record ∧ record'.challenge = record.challenge ∧
      (record.consumed = true → record'.consumed = true)) ∨
    ∃ now observer request, i = .prepare (.ok now) observer request ∧ Prepared env draw s now request record'.challenge ∧
      id = record'.challenge.challengeId ∧ ((crossClientMachine env primitives uuid draw runtime).step s i).1 =
        .prepared (.ok record'.challenge) ∧
      s.drawn < ((crossClientMachine env primitives uuid draw runtime).step s i).2.drawn := by
  have same : s.verifier.challenges[id]? = some record' → ∃ record, s.verifier.challenges[id]? = some record ∧
      record'.challenge = record.challenge ∧ (record.consumed = true → record'.consumed = true) :=
    fun hget => ⟨record', hget, rfl, fun hconsumed => hconsumed⟩
  have kept : ∀ {t : System}, HostKept env uuid s t → t.verifier.challenges[id]? = some record' →
      s.verifier.challenges[id]? = some record' := fun hkept hget => hkept.records.challenges ▸ hget
  cases i with
  | prepare clock observer request =>
    rcases prepare_cases env primitives draw runtime s clock observer request with
      ⟨error, verifier, drawn, heq, hshrinks, -⟩ | ⟨now, verifier, challenge, hclock, hprepared, hshrinks, heq⟩
    · simp only [crossClientMachine, heq, Prod.map_snd, id_eq] at h
      exact Or.inl (same (hshrinks.challenges id record' h))
    · simp only [crossClientMachine, heq, Prod.map_snd, Prod.map_fst, id_eq] at h ⊢
      rw [Std.TreeMap.getElem?_insert] at h
      split at h
      · rename_i hid
        cases h
        rw [Std.LawfulEqCmp.compare_eq_iff_eq] at hid
        subst hclock
        exact Or.inr ⟨now, observer, request, rfl, hprepared, hid.symm, rfl, Nat.lt_add_of_pos_right (by decide)⟩
      · exact Or.inl (same (hshrinks.challenges id record' h))
  | consume clock observer fs readings encoded =>
    left
    rcases consume_cases env primitives uuid runtime s clock observer fs readings encoded hkeys with
      ⟨error, verifier, heq, hsame⟩ | ⟨receipt, now, verifier, challenge, key, -, -, hsame, hadmitted, hid, heq⟩
    · simp only [crossClientMachine, heq, Prod.map_snd, id_eq] at h
      exact same (hsame.challenges ▸ h)
    · have hconcluded := (conclude_cases env uuid (s.marked verifier challenge.challengeId challenge) now fs readings challenge key
        receipt.decision).1
      simp only [crossClientMachine, heq, Prod.map_snd, id_eq] at h
      rw [hconcluded.challenges, marked, hsame.challenges, Std.TreeMap.getElem?_insert] at h
      split at h
      · rename_i hsameId
        rw [Std.LawfulEqCmp.compare_eq_iff_eq] at hsameId
        cases h
        refine ⟨⟨challenge, false⟩, ?_, rfl, fun hconsumed => by cases hconsumed⟩
        rw [← hsameId, hid]
        exact hadmitted.retained
      · exact same h
  | revoke keyId epoch =>
    left
    rcases revoke_cases s keyId epoch with ⟨error, heq⟩ | ⟨record, -, heq⟩
    · simp only [crossClientMachine, heq, Prod.map_snd, id_eq] at h
      exact same h
    · simp only [crossClientMachine, heq, Prod.map_snd, id_eq] at h
      exact same h
  | authorize clock observer request brokerNow reading =>
    exact Or.inl (same (kept (authorize_kept env uuid request brokerNow reading) h))
  | validate clock observer request reading => exact Or.inl (same (kept (validate_kept env uuid request reading) h))
  | validateLease clock observer request reading => exact Or.inl (same (kept (validateLease_kept env uuid request reading) h))
  | admitAt id' reading => exact Or.inl (same h)

/-- What a step does besides to the records: no key is activated again, and UUIDs are drawn. -/
structure Advances (env : Env) (uuid : Nat → String) (s t : System) : Prop where
  keys : ∀ (keyId : String) (record : RegistryKey), s.keys.records[keyId]? = some record → record.revokedAtEpoch.isSome = true →
    ∃ record', t.keys.records[keyId]? = some record' ∧ record'.revokedAtEpoch.isSome = true
  drawn : s.drawn ≤ t.drawn
  broker : BrokerMoves env uuid s.broker t.broker

theorem hostKept_advances {t : System} (h : HostKept env uuid s t) : Advances env uuid s t where
  keys keyId record hget hrevoked := ⟨record, h.keys ▸ hget, hrevoked⟩
  drawn := Nat.le_of_eq h.drawn.symm
  broker := h.broker

theorem advances_step (hkeys : ∀ (id : String) (record : ChallengeRecord), s.verifier.challenges[id]? = some record →
      record.challenge.challengeId = id) (i : CrossClientCall) :
    Advances env uuid s ((crossClientMachine env primitives uuid draw runtime).step s i).2 := by
  cases i with
  | prepare clock observer request =>
    rcases prepare_cases env primitives draw runtime s clock observer request with
      ⟨error, verifier, drawn, heq, -, hdrawn⟩ | ⟨now, verifier, challenge, -, -, -, heq⟩
    · simp only [crossClientMachine, heq, Prod.map_snd, id_eq]
      exact ⟨fun _ record hget hrevoked => ⟨record, hget, hrevoked⟩, hdrawn, Or.inl rfl⟩
    · simp only [crossClientMachine, heq, Prod.map_snd, id_eq]
      exact ⟨fun _ record hget hrevoked => ⟨record, hget, hrevoked⟩, Nat.le_add_right _ _, Or.inl rfl⟩
  | consume clock observer fs readings encoded =>
    rcases consume_cases env primitives uuid runtime s clock observer fs readings encoded hkeys with
      ⟨error, verifier, heq, -⟩ | ⟨receipt, now, verifier, challenge, key, -, -, -, -, -, heq⟩
    · simp only [crossClientMachine, heq, Prod.map_snd, id_eq]
      exact ⟨fun _ record hget hrevoked => ⟨record, hget, hrevoked⟩, Nat.le_refl _, Or.inl rfl⟩
    · have hconcluded := (conclude_cases env uuid (s.marked verifier challenge.challengeId challenge) now fs readings challenge key
        receipt.decision).1
      simp only [crossClientMachine, heq, Prod.map_snd, id_eq]
      exact ⟨fun _ record hget hrevoked => ⟨record, hconcluded.keys ▸ hget, hrevoked⟩, Nat.le_of_eq hconcluded.drawn.symm,
        hconcluded.broker⟩
  | revoke keyId epoch =>
    rcases revoke_cases s keyId epoch with ⟨error, heq⟩ | ⟨record, -, heq⟩
    · simp only [crossClientMachine, heq, Prod.map_snd, id_eq]
      exact ⟨fun _ record hget hrevoked => ⟨record, hget, hrevoked⟩, Nat.le_refl _, Or.inl rfl⟩
    · simp only [crossClientMachine, heq, Prod.map_snd, id_eq]
      refine ⟨fun other found hget hrevoked => ?_, Nat.le_refl _, Or.inl rfl⟩
      rw [KeyRegistry.get_put]
      split
      · exact ⟨_, rfl, rfl⟩
      · exact ⟨found, hget, hrevoked⟩
  | authorize clock observer request brokerNow reading => exact hostKept_advances (authorize_kept env uuid request brokerNow reading)
  | validate clock observer request reading => exact hostKept_advances (validate_kept env uuid request reading)
  | validateLease clock observer request reading => exact hostKept_advances (validateLease_kept env uuid request reading)
  | admitAt id reading =>
    exact ⟨fun _ record hget hrevoked => ⟨record, hget, hrevoked⟩, Nat.le_refl _,
      Or.inr ⟨.admitAt id reading, rfl⟩⟩

/-- A provenance that is new is that of a task, under an authorization id that the step drew. -/
theorem authorizations_step (hkeys : ∀ (id : String) (record : ChallengeRecord), s.verifier.challenges[id]? = some record →
      record.challenge.challengeId = id) {i : CrossClientCall} {id : String} {provenance : AuthorizationProvenance}
    (h : ((crossClientMachine env primitives uuid draw runtime).step s i).2.verifier.authorizations[id]? = some provenance) :
    s.verifier.authorizations[id]? = some provenance ∨
      ∃ n, s.broker.drawn ≤ n ∧ n < ((crossClientMachine env primitives uuid draw runtime).step s i).2.broker.drawn ∧
        id = BrokerState.authorizationId uuid n := by
  have kept : ∀ {t : System}, HostKept env uuid s t → t.verifier.authorizations[id]? = some provenance →
      s.verifier.authorizations[id]? = some provenance := fun hkept hget => hkept.records.authorizations ▸ hget
  cases i with
  | prepare clock observer request =>
    left
    rcases prepare_cases env primitives draw runtime s clock observer request with
      ⟨error, verifier, drawn, heq, hshrinks, -⟩ | ⟨now, verifier, challenge, -, -, hshrinks, heq⟩
    · simp only [crossClientMachine, heq, Prod.map_snd, id_eq] at h
      exact hshrinks.authorizations ▸ h
    · simp only [crossClientMachine, heq, Prod.map_snd, id_eq] at h
      exact hshrinks.authorizations ▸ h
  | consume clock observer fs readings encoded =>
    rcases consume_cases env primitives uuid runtime s clock observer fs readings encoded hkeys with
      ⟨error, verifier, heq, hsame⟩ | ⟨receipt, now, verifier, challenge, key, -, -, hsame, -, -, heq⟩
    · simp only [crossClientMachine, heq, Prod.map_snd, id_eq] at h
      exact Or.inl (hsame.authorizations ▸ h)
    · simp only [crossClientMachine, heq, Prod.map_snd, id_eq] at h ⊢
      rcases (conclude_cases env uuid (s.marked verifier challenge.challengeId challenge) now fs readings challenge key
          receipt.decision).2 with ⟨hauthorizations, -⟩ | ⟨task, n, new, -, hn, hn', hid, -, hverifier⟩
      · rw [hauthorizations] at h
        exact Or.inl (hsame.authorizations ▸ h)
      · rw [hverifier, addProvenance] at h
        by_cases hnew : task.authorizationId = id
        · exact Or.inr ⟨n, hn, hn', hnew.symm.trans hid⟩
        · left
          have hold : verifier.authorizations[id]? = some provenance ∧ now < provenance.expiresAtUnixMs := by
            simpa [marked, Std.TreeMap.getElem?_insert, hnew, Std.TreeMap.getElem?_filter, Option.filter_eq_some_iff] using h
          exact hsame.authorizations ▸ hold.1
  | revoke keyId epoch =>
    left
    rcases revoke_cases s keyId epoch with ⟨error, heq⟩ | ⟨record, -, heq⟩
    · simpa only [crossClientMachine, heq, Prod.map_snd, id_eq] using h
    · simpa only [crossClientMachine, heq, Prod.map_snd, id_eq] using h
  | authorize clock observer request brokerNow reading => exact Or.inl (kept (authorize_kept env uuid request brokerNow reading) h)
  | validate clock observer request reading => exact Or.inl (kept (validate_kept env uuid request reading) h)
  | validateLease clock observer request reading => exact Or.inl (kept (validateLease_kept env uuid request reading) h)
  | admitAt id' reading => exact Or.inl h

/-! ### What every state has -/

/-- Challenges and authorizations are kept under ids that were drawn, and each challenge is the one of an accepted request. -/
structure SystemInv (env : Env) (uuid draw : Nat → String) (s : System) : Prop where
  keys : ∀ (id : String) (record : ChallengeRecord), s.verifier.challenges[id]? = some record → record.challenge.challengeId = id
  drawn : ∀ (id : String) (record : ChallengeRecord), s.verifier.challenges[id]? = some record →
    ∃ n, n < s.drawn ∧ id = challengeId draw n
  issued : ∀ (id : String) (record : ChallengeRecord), s.verifier.challenges[id]? = some record →
    validateChallengeRequest env record.challenge.request record.challenge.issuedAtUnixMs = .ok ()
  authorizations : ∀ (id : String) (provenance : AuthorizationProvenance), s.verifier.authorizations[id]? = some provenance →
    BrokerState.Drawn uuid s.broker id
  brokerKeys : BrokerState.KeysDrawn uuid s.broker

theorem inv_initial (keys : KeyRegistry) (drawn brokerDrawn : Nat) :
    SystemInv env uuid draw (initial keys drawn brokerDrawn) where
  keys id record h := by simp [initial] at h
  drawn id record h := by simp [initial] at h
  issued id record h := by simp [initial] at h
  authorizations id provenance h := by simp [initial] at h
  brokerKeys := BrokerState.initial_keysDrawn brokerDrawn

theorem inv_step (h : SystemInv env uuid draw s) (i : CrossClientCall) :
    SystemInv env uuid draw ((crossClientMachine env primitives uuid draw runtime).step s i).2 where
  keys id record hget := by
    rcases challenges_step h.keys hget with ⟨old, hold, hsame, -⟩ | ⟨now, observer, request, -, -, hid, -, -⟩
    · rw [hsame]
      exact h.keys id old hold
    · exact hid.symm
  drawn id record hget := by
    rcases challenges_step h.keys hget with ⟨old, hold, -, -⟩ | ⟨now, observer, request, -, hprepared, hid, -, hdrawn⟩
    · obtain ⟨n, hn, heq⟩ := h.drawn id old hold
      exact ⟨n, Nat.lt_of_lt_of_le hn (advances_step h.keys i).drawn, heq⟩
    · exact ⟨s.drawn, hdrawn, hid.trans hprepared.id⟩
  issued id record hget := by
    rcases challenges_step h.keys hget with ⟨old, hold, hsame, -⟩ | ⟨now, observer, request, -, hprepared, -, -, -⟩
    · rw [hsame]
      exact h.issued id old hold
    · rw [hprepared.from_, hprepared.issued]
      exact hprepared.valid
  authorizations id provenance hget := by
    rcases authorizations_step h.keys hget with hold | ⟨n, -, hn, hid⟩
    · obtain ⟨n, hn, hid⟩ := h.authorizations id provenance hold
      exact ⟨n, Nat.lt_of_lt_of_le hn (advances_step h.keys i).broker.drawn, hid⟩
    · exact ⟨n, hn, hid.symm⟩
  brokerKeys := (advances_step h.keys i).broker.keysDrawn h.brokerKeys

theorem inv_reached (keys : KeyRegistry) (drawn brokerDrawn : Nat) (inputs : List CrossClientCall) :
    SystemInv env uuid draw ((crossClientMachine env primitives uuid draw runtime).final (initial keys drawn brokerDrawn) inputs) :=
  Machine.inv_final (I := SystemInv env uuid draw) (fun _ i h => inv_step h i) inputs (inv_initial keys drawn brokerDrawn)

/-! ### Consumed once -/

/-- The challenge was made, and if it is retained it is consumed. -/
def Spent (draw : Nat → String) (s : System) (id : String) : Prop :=
  (∃ n, n < s.drawn ∧ id = challengeId draw n) ∧
    ∀ record, s.verifier.challenges[id]? = some record → record.consumed = true

theorem challengeId_inj (hdraw : Function.Injective draw) {m n : Nat} (h : challengeId draw m = challengeId draw n) : m = n :=
  hdraw (String.append_right_inj _ |>.mp h)

theorem spent_step (hdraw : Function.Injective draw) (hinv : SystemInv env uuid draw s) (i : CrossClientCall) {id : String}
    (h : Spent draw s id) : Spent draw ((crossClientMachine env primitives uuid draw runtime).step s i).2 id := by
  obtain ⟨⟨n, hn, heq⟩, hconsumed⟩ := h
  refine ⟨⟨n, Nat.lt_of_lt_of_le hn (advances_step hinv.keys i).drawn, heq⟩, fun record hget => ?_⟩
  rcases challenges_step hinv.keys hget with ⟨old, hold, -, hstays⟩ | ⟨now, observer, request, -, hprepared, hid, -, -⟩
  · exact hstays (hconsumed old hold)
  · have := challengeId_inj hdraw (heq.symm.trans (hid.trans hprepared.id))
    omega

/-- A call that consumes a challenge finds it retained and not consumed, by a decision that it admits. -/
theorem consumes_inv (hinv : SystemInv env uuid draw s) {i : CrossClientCall} {id : String}
    (h : CrossClientStep.Consumes primitives ((crossClientMachine env primitives uuid draw runtime).call s i) id) :
    (∃ challenge, s.verifier.challenges[id]? = some ⟨challenge, false⟩) ∧
      ∃ record, ((crossClientMachine env primitives uuid draw runtime).step s i).2.verifier.challenges[id]? = some record ∧
        record.consumed = true := by
  obtain ⟨clock, observer, fs, readings, encoded, receipt, result, hi, hreceipt, rfl, hout⟩ := h
  obtain rfl : i = .consume clock observer fs readings encoded := hi
  rw [Machine.call_output] at hout
  rcases consume_cases env primitives uuid runtime s clock observer fs readings encoded hinv.keys with
    ⟨error, verifier, heq, -⟩ | ⟨other, now, verifier, challenge, key, hother, -, -, hadmitted, hid, heq⟩
  · simp [crossClientMachine, heq] at hout
  · rw [hreceipt] at hother
    cases hother
    refine ⟨⟨challenge, hadmitted.retained⟩, ⟨challenge, true⟩, ?_, rfl⟩
    have hconcluded := (conclude_cases env uuid (s.marked verifier challenge.challengeId challenge) now fs readings challenge key
      receipt.decision).1
    simp only [crossClientMachine, heq, Prod.map_snd, id_eq]
    rw [hconcluded.challenges, marked, hid]
    simp

theorem consumed_once (hdraw : Function.Injective draw) (keys : KeyRegistry) (drawn brokerDrawn : Nat)
    (inputs : List CrossClientCall) (id : String) :
    ((crossClientMachine env primitives uuid draw runtime).trace (initial keys drawn brokerDrawn) inputs).Pairwise fun a b =>
      CrossClientStep.Consumes primitives a id → ¬CrossClientStep.Consumes primitives b id := by
  refine Machine.never_after (I := SystemInv env uuid draw) (P := fun s => Spent draw s id) (fun _ i h => inv_step h i) ?_
    (fun s i hinv h => spent_step hdraw hinv i h) ?_ inputs (inv_initial keys drawn brokerDrawn)
  · intro s i hinv h
    obtain ⟨-, record, hget, hconsumed⟩ := consumes_inv hinv h
    refine ⟨(inv_step hinv i).drawn id record hget, fun other hother => ?_⟩
    rw [hget] at hother
    cases hother
    exact hconsumed
  · intro s i hinv h hconsumes
    obtain ⟨⟨challenge, hget⟩, -⟩ := consumes_inv hinv hconsumes
    exact absurd (h.2 _ hget) (by simp)

/-! ### What a task comes of -/

/-- The grounds of a task: an earlier `prepare` made the challenge, which is retained and not consumed; the decision allows and
    is bound to it; the key of the decision is active, for the audience of the challenge, and has signed it; and the process
    of the window is the one that the challenge names. -/
structure TaskGrounds (primitives : Primitives) (runtime : Runtime) (past : List CrossClientStep) (s : System) (now : Nat)
    (observer : TargetObserver) (receipt : SignedDecision) (challenge : Challenge) (key : TrustedTaskAuthorizationKey) : Prop where
  prepared : ∃ a ∈ past, a.output = .prepared (.ok challenge)
  retained : s.verifier.challenges[challenge.challengeId]? = some ⟨challenge, false⟩
  allows : receipt.decision.decision = .allow
  bound : Bound runtime challenge receipt.decision now
  active : s.keys.records[receipt.decision.issuerKeyId]? = some ⟨key, none⟩
  audience : key.audience = challenge.request.audience
  signed : ∃ payload signature, signingPayload primitives receipt.decision = .ok payload ∧
    primitives.decodeSignature receipt.signature = some signature ∧
    primitives.verifyStrict key.verifyingKey payload signature = true
  live : ∃ processId windowHandle identity, challenge.request.target.exactWindow? = some (processId, windowHandle, identity) ∧
    observer processId windowHandle = some identity

theorem verifySignature_eq_ok {key : TrustedTaskAuthorizationKey} {receipt : SignedDecision}
    (h : verifySignature primitives key receipt = .ok ()) :
    ∃ payload signature, signingPayload primitives receipt.decision = .ok payload ∧
      primitives.decodeSignature receipt.signature = some signature ∧
      primitives.verifyStrict key.verifyingKey payload signature = true := by
  simp only [verifySignature, bind_eq_ok, require_eq_ok] at h
  obtain ⟨_, -, h⟩ := h
  split at h
  · cases h
  · rename_i signature hsignature
    simp only [bind_eq_ok, require_eq_ok] at h
    obtain ⟨payload, hpayload, hverify⟩ := h
    exact ⟨payload, signature, hpayload, hsignature, hverify⟩

/-- A target with an exact window is compared with what is seen. -/
theorem live_of_validateLiveTarget {observer : TargetObserver} {target : Target} {processId windowHandle : Nat} {identity : String}
    (htarget : target.exactWindow? = some (processId, windowHandle, identity)) (h : validateLiveTarget observer target = .ok ()) :
    observer processId windowHandle = some identity := by
  have hbinding : target.binding? = some (processId, windowHandle, identity) := by
    cases target with
    | exactWindow _ _ _ => exact htarget
    | exactBrowser _ _ _ _ => exact htarget
    | browserBootstrapExactWindow _ _ _ => cases htarget
    | browserBootstrapOwned _ _ => cases htarget
  unfold validateLiveTarget at h
  rw [hbinding] at h
  simpa using h

/-- Each retained challenge was returned by an earlier call. -/
theorem prepared_before (env : Env) (primitives : Primitives) (uuid draw : Nat → String) (runtime : Runtime) (keys : KeyRegistry)
    (drawn brokerDrawn : Nat) (inputs : List CrossClientCall) :
    SystemInv env uuid draw ((crossClientMachine env primitives uuid draw runtime).final (initial keys drawn brokerDrawn) inputs) ∧
    ∀ (id : String) (record : ChallengeRecord),
      ((crossClientMachine env primitives uuid draw runtime).final (initial keys drawn brokerDrawn) inputs).verifier.challenges[id]? =
        some record →
      ∃ a ∈ (crossClientMachine env primitives uuid draw runtime).trace (initial keys drawn brokerDrawn) inputs,
        a.output = .prepared (.ok record.challenge) := by
  refine Machine.inv_history (fun s past => SystemInv env uuid draw s ∧ ∀ (id : String) (record : ChallengeRecord),
      s.verifier.challenges[id]? = some record → ∃ a ∈ past, a.output = .prepared (.ok record.challenge)) (fun _ => True)
    (fun s i past h _ => ⟨inv_step h.1 i, fun id record hget => ?_⟩) ⟨inv_initial keys drawn brokerDrawn, fun id record hget => ?_⟩
    inputs fun _ _ => trivial
  · rcases challenges_step h.1.keys hget with ⟨old, hold, hsame, -⟩ | ⟨now, observer, request, -, -, -, hout, -⟩
    · obtain ⟨a, ha, hout⟩ := h.2 id old hold
      exact ⟨a, List.mem_append_left _ ha, by rw [hout, hsame]⟩
    · exact ⟨_, List.mem_append_right _ (List.mem_singleton_self _), hout⟩
  · simp [initial] at hget

/-- The end of `consume` with a task: the decision allows, and the target is an exact window. -/
theorem conclude_task {now : Nat} {fs : FileSystem} {readings : BrokerState.RegisterReadings} {challenge : Challenge}
    {key : TrustedTaskAuthorizationKey} {decision : UnsignedDecision} {task : TrustedTaskAuthorizationReceipt}
    (h : (conclude env uuid s now fs readings challenge key decision).1 = .ok (.task task)) :
    decision.decision = .allow ∧ ∃ processId windowHandle identity,
      challenge.request.target.exactWindow? = some (processId, windowHandle, identity) := by
  unfold conclude at h
  split at h
  · cases h
  rename_i hallow
  refine ⟨hallow, ?_⟩
  rcases redeem_cases env uuid s now fs readings challenge key decision.expiresAtUnixMs with
    ⟨-, heq⟩ | ⟨processId, windowHandle, identity, broker, htarget, -⟩
  · rw [heq] at h
    cases h
  · exact ⟨processId, windowHandle, identity, htarget⟩

/-- The grounds of the task that a `consume` call in a reached state issues. -/
theorem task_grounds (keys : KeyRegistry) (drawn brokerDrawn : Nat) (inputs : List CrossClientCall)
    {clock : Except CrossClientError Nat} {observer : TargetObserver} {fs : FileSystem} {readings : BrokerState.RegisterReadings}
    {encoded : List UInt8} {task : TrustedTaskAuthorizationReceipt}
    (hs : s = (crossClientMachine env primitives uuid draw runtime).final (initial keys drawn brokerDrawn) inputs)
    (h : ((crossClientMachine env primitives uuid draw runtime).step s (.consume clock observer fs readings encoded)).1 =
      .consumed (.ok (.task task))) :
    ∃ receipt now challenge key, decodeReceipt primitives encoded = .ok receipt ∧ clock = .ok now ∧
      TaskGrounds primitives runtime
        ((crossClientMachine env primitives uuid draw runtime).trace (initial keys drawn brokerDrawn) inputs) s now observer receipt
        challenge key := by
  obtain ⟨hinv, hprepared⟩ := prepared_before env primitives uuid draw runtime keys drawn brokerDrawn inputs
  rw [← hs] at hinv hprepared
  rcases consume_cases env primitives uuid runtime s clock observer fs readings encoded hinv.keys with
    ⟨error, verifier, heq, -⟩ | ⟨receipt, now, verifier, challenge, key, hreceipt, hclock, -, hadmitted, hid, heq⟩
  · simp [crossClientMachine, heq] at h
  · simp only [crossClientMachine, heq, Prod.map_fst, CrossClientReply.consumed.injEq] at h
    obtain ⟨hallow, processId, windowHandle, identity, htarget⟩ := conclude_task h
    refine ⟨receipt, now, challenge, key, hreceipt, hclock, ?_, ?_, hallow, validateDecisionBinding_eq_ok.mp hadmitted.binding,
      hadmitted.active, hadmitted.audience, verifySignature_eq_ok hadmitted.signature, processId, windowHandle, identity, htarget,
      live_of_validateLiveTarget htarget (hadmitted.target hallow)⟩
    · exact hprepared _ _ hadmitted.retained
    · rw [hid]
      exact hadmitted.retained

/-! ### Failures -/

/-- The end of `consume` fails only where the broker does. -/
theorem conclude_error {now : Nat} {fs : FileSystem} {readings : BrokerState.RegisterReadings} {challenge : Challenge}
    {key : TrustedTaskAuthorizationKey} {decision : UnsignedDecision} {error : CrossClientError}
    (h : (conclude env uuid s now fs readings challenge key decision).1 = .error error) : error = .brokerUnavailable := by
  unfold conclude at h
  split at h
  · cases h
  rcases redeem_cases env uuid s now fs readings challenge key decision.expiresAtUnixMs with
    ⟨-, heq⟩ | ⟨processId, windowHandle, identity, broker, -, ⟨failure, -, heq⟩ | ⟨receipt, -, heq⟩⟩
  · rw [heq] at h
    cases h
  · rw [heq] at h
    cases h
    rfl
  · rw [heq] at h
    cases h

/-- Only `consume` calls are answered so. -/
theorem input_of_consumed {i : CrossClientCall} {result : Except CrossClientError Consumption}
    (h : ((crossClientMachine env primitives uuid draw runtime).call s i).output = .consumed result) :
    ∃ clock observer fs readings encoded, i = .consume clock observer fs readings encoded := by
  cases i with
  | consume clock observer fs readings encoded => exact ⟨clock, observer, fs, readings, encoded, rfl⟩
  | _ => cases h

theorem failure_keeps (hinv : SystemInv env uuid draw s) {clock : Except CrossClientError Nat} {observer : TargetObserver}
    {fs : FileSystem} {readings : BrokerState.RegisterReadings} {encoded : List UInt8} {error : CrossClientError}
    (h : ((crossClientMachine env primitives uuid draw runtime).step s (.consume clock observer fs readings encoded)).1 =
      .consumed (.error error)) (hbroker : error ≠ .brokerUnavailable) :
    ((crossClientMachine env primitives uuid draw runtime).step s (.consume clock observer fs readings encoded)).2.verifier.challenges =
      s.verifier.challenges := by
  rcases consume_cases env primitives uuid runtime s clock observer fs readings encoded hinv.keys with
    ⟨failure, verifier, heq, hsame⟩ | ⟨receipt, now, verifier, challenge, key, -, -, -, -, -, heq⟩
  · simp only [crossClientMachine, heq, Prod.map_snd, id_eq]
    exact hsame.challenges
  · simp only [crossClientMachine, heq, Prod.map_fst, CrossClientReply.consumed.injEq] at h
    exact absurd (conclude_error h) hbroker

/-! ### Revocation -/

/-- The authorization was issued, and what is known of it is that it is under the key. -/
def UnderKey (uuid : Nat → String) (s : System) (id keyId : String) : Prop :=
  BrokerState.Drawn uuid s.broker id ∧
    ∀ provenance, s.verifier.authorizations[id]? = some provenance → provenance.key.keyId = keyId

def KeyRevoked (s : System) (keyId : String) : Prop :=
  ∃ record, s.keys.records[keyId]? = some record ∧ record.revokedAtEpoch.isSome = true

theorem underKey_step (huuid : Function.Injective uuid) (hinv : SystemInv env uuid draw s) (i : CrossClientCall) {id keyId : String}
    (h : UnderKey uuid s id keyId) :
    UnderKey uuid ((crossClientMachine env primitives uuid draw runtime).step s i).2 id keyId := by
  obtain ⟨⟨n, hn, heq⟩, hunder⟩ := h
  refine ⟨⟨n, Nat.lt_of_lt_of_le hn (advances_step hinv.keys i).broker.drawn, heq⟩, fun provenance hget => ?_⟩
  rcases authorizations_step hinv.keys hget with hold | ⟨m, hm, -, hid⟩
  · exact hunder provenance hold
  · have := BrokerState.authorizationId_inj huuid (heq.trans hid)
    omega

theorem underKey_of_issues (hinv : SystemInv env uuid draw s) {i : CrossClientCall} {id keyId : String}
    (h : CrossClientStep.IssuesTask primitives ((crossClientMachine env primitives uuid draw runtime).call s i) id keyId) :
    UnderKey uuid ((crossClientMachine env primitives uuid draw runtime).step s i).2 id keyId := by
  obtain ⟨clock, observer, fs, readings, encoded, receipt, task, hi, hreceipt, rfl, hout, rfl⟩ := h
  obtain rfl : i = .consume clock observer fs readings encoded := hi
  rw [Machine.call_output] at hout
  rcases consume_cases env primitives uuid runtime s clock observer fs readings encoded hinv.keys with
    ⟨error, verifier, heq, -⟩ | ⟨other, now, verifier, challenge, key, hother, -, -, hadmitted, hid, heq⟩
  · simp [crossClientMachine, heq] at hout
  rw [hreceipt] at hother
  cases hother
  simp only [crossClientMachine, heq, Prod.map_fst, Prod.map_snd, id_eq, CrossClientReply.consumed.injEq] at hout ⊢
  rcases (conclude_cases env uuid (s.marked verifier challenge.challengeId challenge) now fs readings challenge key
      receipt.decision).2 with ⟨-, hnone⟩ | ⟨issued, n, provenance, hissued, -, hn, hname, hkey, hverifier⟩
  · exact absurd hout (hnone task)
  rw [hout] at hissued
  cases hissued
  refine ⟨⟨n, hn, hname.symm⟩, fun found hfound => ?_⟩
  rw [hverifier, addProvenance] at hfound
  rw [Std.TreeMap.getElem?_insert_self] at hfound
  cases hfound
  rw [hkey]
  exact s.keys.named _ _ hadmitted.active

/-- Nothing is granted for an authorization whose key is revoked. -/
theorem not_grants {id keyId : String} (hunder : UnderKey uuid s id keyId) (hrevoked : KeyRevoked s keyId) (i : CrossClientCall) :
    ¬CrossClientStep.Grants ((crossClientMachine env primitives uuid draw runtime).call s i) id := by
  obtain ⟨record, hrecord, hsome⟩ := hrevoked
  have inactive : ∀ {clock : Except CrossClientError Nat} {observer : TargetObserver} {processId windowHandle : Nat},
      (s.hostStatus clock observer id processId windowHandle).1 ≠ .ok .active := by
    intro clock observer processId windowHandle hactive
    obtain ⟨provenance, hget, hkey, -⟩ := hostStatus_active hactive
    rw [hunder.2 provenance hget, hrecord] at hkey
    cases hkey
    cases hsome
  rintro (⟨clock, observer, request, brokerNow, reading, lease, hi, rfl, hout⟩ | ⟨digest, hout, hi⟩)
  · obtain rfl : i = .authorize clock observer request brokerNow reading := hi
    rw [Machine.call_output] at hout
    rcases hstatus : s.hostStatus clock observer request.authorizationId request.targetProcessId request.targetWindowHandle with
      ⟨error | status, t⟩
    · simp [crossClientMachine, authorize, hstatus] at hout
    · cases status with
      | active => exact inactive (congrArg Prod.fst hstatus)
      | revoked => simp [crossClientMachine, authorize, hstatus] at hout
  · rw [Machine.call_output] at hout
    rcases hi with ⟨clock, observer, request, reading, hi, rfl⟩ | ⟨clock, observer, request, reading, hi, rfl⟩
    · obtain rfl : i = .validate clock observer request reading := hi
      rcases hstatus : s.hostStatus clock observer request.authorizationId request.targetProcessId request.targetWindowHandle with
        ⟨error | status, t⟩
      · simp [crossClientMachine, System.validate, hstatus] at hout
      · cases status with
        | active => exact inactive (congrArg Prod.fst hstatus)
        | revoked => simp [crossClientMachine, System.validate, hstatus] at hout
    · obtain rfl : i = .validateLease clock observer request reading := hi
      rcases hstatus : s.hostStatus clock observer request.authorizationId request.targetProcessId request.targetWindowHandle with
        ⟨error | status, t⟩
      · simp [crossClientMachine, System.validateLease, hstatus] at hout
      · cases status with
        | active => exact inactive (congrArg Prod.fst hstatus)
        | revoked => simp [crossClientMachine, System.validateLease, hstatus] at hout

theorem keyRevoked_step (hinv : SystemInv env uuid draw s) (i : CrossClientCall) {keyId : String} (h : KeyRevoked s keyId) :
    KeyRevoked ((crossClientMachine env primitives uuid draw runtime).step s i).2 keyId := by
  obtain ⟨record, hrecord, hsome⟩ := h
  exact (advances_step hinv.keys i).keys keyId record hrecord hsome

theorem keyRevoked_of_revokes {i : CrossClientCall} {keyId : String}
    (h : CrossClientStep.Revokes ((crossClientMachine env primitives uuid draw runtime).call s i) keyId) :
    KeyRevoked ((crossClientMachine env primitives uuid draw runtime).step s i).2 keyId := by
  obtain ⟨epoch, hi, hout⟩ := h
  obtain rfl : i = .revoke keyId epoch := hi
  rw [Machine.call_output] at hout
  rcases revoke_cases s keyId epoch with ⟨error, heq⟩ | ⟨record, hrecord, heq⟩
  · simp [crossClientMachine, heq] at hout
  · simp only [crossClientMachine, heq, Prod.map_snd, id_eq]
    refine ⟨{ record with revokedAtEpoch := some epoch }, ?_, rfl⟩
    rw [KeyRegistry.get_put, if_pos (s.keys.named keyId record hrecord)]

/-- In the run that follows the issue of a task, nothing is granted for it after its key has been revoked. -/
theorem revoked_for_good (huuid : Function.Injective uuid) (hinv : SystemInv env uuid draw s) {i : CrossClientCall}
    {id keyId : String}
    (hissues : CrossClientStep.IssuesTask primitives ((crossClientMachine env primitives uuid draw runtime).call s i) id keyId)
    (more : List CrossClientCall) :
    ((crossClientMachine env primitives uuid draw runtime).trace
        ((crossClientMachine env primitives uuid draw runtime).step s i).2 more).Pairwise fun a b =>
      CrossClientStep.Revokes a keyId → ¬CrossClientStep.Grants b id :=
  Machine.never_after (I := fun s => SystemInv env uuid draw s ∧ UnderKey uuid s id keyId) (P := fun s => KeyRevoked s keyId)
    (fun _ i h => ⟨inv_step h.1 i, underKey_step huuid h.1 i h.2⟩) (fun _ _ _ h => keyRevoked_of_revokes h)
    (fun _ i h hrevoked => keyRevoked_step h.1 i hrevoked) (fun _ i h hrevoked => not_grants h.2 hrevoked i) more
    ⟨inv_step hinv i, underKey_of_issues hinv hissues⟩

end

/-! ### The contract of a run -/

namespace CrossClientSample

def audience : Audience := ⟨"client", "tenant", "user"⟩

def runtime : Runtime := ⟨"1.0", "instance", 1⟩

/-- A request to click in one window, and to prepare its capture or not. -/
def request (preparation : Bool) : ChallengeRequest where
  audience := audience
  taskId := "task"
  connectionId := "connection"
  taskGrantId := "grant"
  applicationLabel := "Editor"
  purpose := "click"
  target := .exactWindow 7 "created" 9
  allowedHostMethods := if preparation then ["capture_preparation_begin"] else ["execute_action"]
  allowedActions := [⟨"click", "raw_input", false, "raw_input", none⟩]
  allowedBrowserOrigins := []
  secretHandlePolicy := .forbidden
  irreversibleOperation := none
  expiresAtUnixMs := 3000

def observer : TargetObserver := fun _ _ => some "created"

def draw : Nat → String := BrokerSample.uuid

/-- The decision that allows the first challenge. -/
def decision : UnsignedDecision where
  schema := receiptSchema
  issuerKeyId := "key"
  audience := audience
  runtimeInstanceId := "instance"
  bootGeneration := 1
  challengeId := challengeId draw 0
  nonce := draw 1
  challengeSha256 := "sha256:digest"
  decision := .allow
  issuedAtUnixMs := 1000
  expiresAtUnixMs := 2000

def receipt : SignedDecision := ⟨decision, "signature"⟩

/-- One receipt is signed, and it is the encoding of one decision. -/
def primitives : Primitives where
  canonicalChallenge _ := some [0]
  canonicalReceipt _ := some [1]
  canonicalDecision _ := some [2]
  parseReceipt bytes := if bytes = [1] then some receipt else none
  sha256Hex _ := "digest"
  isVerifyingKey key := key = [7]
  decodeSignature text := if text = "signature" then some [9] else none
  verifyStrict key _ signature := key = [7] && signature = [9]
  encodeNonce first _ := first

def key : TrustedTaskAuthorizationKey := ⟨"key", audience, [7]⟩

def keys : KeyRegistry := KeyRegistry.empty.put ⟨key, none⟩

def machine : Machine System CrossClientCall CrossClientReply :=
  crossClientMachine BrokerSample.env primitives BrokerSample.uuid draw runtime

def prepare (preparation : Bool) : CrossClientCall := .prepare (.ok 1000) observer (request preparation)

def readings : BrokerState.RegisterReadings := ⟨1001, 1001, ⟨1001, 5⟩, ⟨1001, 5⟩⟩

def consume : CrossClientCall := .consume (.ok 1001) observer BrokerSample.fs readings [1]

def start : System := initial keys 0 0

def prepared (preparation : Bool) : System := machine.final start [prepare preparation]

/-- The task that the decision brings. -/
def task : TrustedTaskAuthorizationReceipt :=
  ⟨BrokerState.authorizationId BrokerSample.uuid 0, BrokerState.windowCapability BrokerSample.uuid 1, 2000⟩

theorem decoded : decodeReceipt primitives [1] = .ok receipt := by decide

theorem task_issued : (machine.step (prepared false) consume).1 = .consumed (.ok (.task task)) := by
  have hconsume : ((prepared false).consume BrokerSample.env primitives BrokerSample.uuid runtime (.ok 1001) observer BrokerSample.fs
      readings [1]).1 = .ok (.task task) := by decide
  exact congrArg CrossClientReply.consumed hconsume

def revoke : CrossClientCall := .revoke "key" 1

def authorize : CrossClientCall :=
  .authorize (.ok 1002) observer { BrokerSample.request with connectionId := "connection" } 1002 ⟨1002, 6⟩

end CrossClientSample

section
variable {env : Env} {primitives : Primitives} {uuid draw : Nat → String} {runtime : Runtime}

/-- In every run a challenge is consumed at most once, and a `consume` call that fails otherwise than at the broker leaves every
    challenge as it was. -/
theorem challenges_consumed_once (env : Env) (primitives : Primitives) (uuid : Nat → String) (runtime : Runtime)
    (hdraw : Function.Injective draw) (keys : KeyRegistry) (drawn brokerDrawn : Nat) (inputs : List CrossClientCall) :
    (∀ id, ((crossClientMachine env primitives uuid draw runtime).trace (initial keys drawn brokerDrawn) inputs).Pairwise fun a b =>
      CrossClientStep.Consumes primitives a id → ¬CrossClientStep.Consumes primitives b id) ∧
    ∀ c ∈ (crossClientMachine env primitives uuid draw runtime).trace (initial keys drawn brokerDrawn) inputs, ∀ error,
      c.output = .consumed (.error error) → error ≠ .brokerUnavailable →
        c.after.verifier.challenges = c.before.verifier.challenges := by
  refine ⟨consumed_once hdraw keys drawn brokerDrawn inputs, fun c hc error hout hbroker => ?_⟩
  have hinv := Machine.inv_before (I := SystemInv env uuid draw) (fun _ i h => inv_step h i) (inv_initial keys drawn brokerDrawn) hc
  rw [Machine.eq_call_of_mem hc] at hout ⊢
  obtain ⟨clock, observer, fs, readings, encoded, hi⟩ := input_of_consumed hout
  rw [hi] at hout ⊢
  exact failure_keeps hinv hout hbroker

theorem sample_consumed_once : Function.Injective CrossClientSample.draw ∧
    (CrossClientSample.machine.trace CrossClientSample.start
      [CrossClientSample.prepare false, CrossClientSample.consume, CrossClientSample.consume]).Pairwise fun a b =>
        CrossClientStep.Consumes CrossClientSample.primitives a (challengeId CrossClientSample.draw 0) →
          ¬CrossClientStep.Consumes CrossClientSample.primitives b (challengeId CrossClientSample.draw 0) :=
  ⟨BrokerSample.uuid_injective, (challenges_consumed_once BrokerSample.env CrossClientSample.primitives BrokerSample.uuid
    CrossClientSample.runtime BrokerSample.uuid_injective CrossClientSample.keys 0 0 _).1 _⟩

/-- In every run, a task has its grounds in the calls before it. -/
theorem tasks_have_grounds (keys : KeyRegistry) (drawn brokerDrawn : Nat) (inputs : List CrossClientCall)
    {pre post : List CrossClientStep} {c : CrossClientStep} {task : TrustedTaskAuthorizationReceipt}
    (htrace : (crossClientMachine env primitives uuid draw runtime).trace (initial keys drawn brokerDrawn) inputs = pre ++ c :: post)
    (htask : c.output = .consumed (.ok (.task task))) :
    ∃ now observer fs readings encoded receipt challenge key, c.input = .consume (.ok now) observer fs readings encoded ∧
      decodeReceipt primitives encoded = .ok receipt ∧
      TaskGrounds primitives runtime pre c.before now observer receipt challenge key := by
  obtain ⟨before, i, rfl, rfl⟩ := Machine.trace_split htrace
  obtain ⟨clock, observer, fs, readings, encoded, rfl⟩ := input_of_consumed htask
  obtain ⟨receipt, now, challenge, key, hreceipt, rfl, hgrounds⟩ := task_grounds keys drawn brokerDrawn before rfl htask
  exact ⟨now, observer, fs, readings, encoded, receipt, challenge, key, rfl, hreceipt, hgrounds⟩

theorem sample_grounds : ∃ now observer fs readings encoded receipt challenge key,
    CrossClientSample.consume = .consume (.ok now) observer fs readings encoded ∧
      decodeReceipt CrossClientSample.primitives encoded = .ok receipt ∧
      TaskGrounds CrossClientSample.primitives CrossClientSample.runtime
        (CrossClientSample.machine.trace CrossClientSample.start [CrossClientSample.prepare false])
        (CrossClientSample.prepared false) now observer receipt challenge key :=
  tasks_have_grounds (c := CrossClientSample.machine.call (CrossClientSample.prepared false) CrossClientSample.consume)
    CrossClientSample.keys 0 0 [CrossClientSample.prepare false, CrossClientSample.consume] rfl CrossClientSample.task_issued

/-- In every run, once the key of a task has been revoked, the Host neither leases the authorization nor reports it active. -/
theorem revoked_tasks_end (env : Env) (primitives : Primitives) (draw : Nat → String) (runtime : Runtime)
    (huuid : Function.Injective uuid) (keys : KeyRegistry) (drawn brokerDrawn : Nat)
    (inputs : List CrossClientCall) {i : CrossClientCall} {id keyId : String}
    (hissues : CrossClientStep.IssuesTask primitives ((crossClientMachine env primitives uuid draw runtime).call
      ((crossClientMachine env primitives uuid draw runtime).final (initial keys drawn brokerDrawn) inputs) i) id keyId)
    (more : List CrossClientCall) :
    ((crossClientMachine env primitives uuid draw runtime).trace ((crossClientMachine env primitives uuid draw runtime).step
        ((crossClientMachine env primitives uuid draw runtime).final (initial keys drawn brokerDrawn) inputs) i).2 more).Pairwise
      fun a b => CrossClientStep.Revokes a keyId → ¬CrossClientStep.Grants b id :=
  revoked_for_good huuid (inv_reached keys drawn brokerDrawn inputs) hissues more

theorem sample_revoked :
    (CrossClientSample.machine.trace (CrossClientSample.machine.step (CrossClientSample.prepared false) CrossClientSample.consume).2
      [CrossClientSample.authorize, CrossClientSample.revoke, CrossClientSample.authorize]).Pairwise fun a b =>
        CrossClientStep.Revokes a "key" → ¬CrossClientStep.Grants b (BrokerState.authorizationId BrokerSample.uuid 0) :=
  revoked_tasks_end BrokerSample.env CrossClientSample.primitives CrossClientSample.draw CrossClientSample.runtime
    BrokerSample.uuid_injective CrossClientSample.keys 0 0 [CrossClientSample.prepare false] (i := CrossClientSample.consume)
    ⟨_, _, _, _, _, CrossClientSample.receipt, CrossClientSample.task, rfl, CrossClientSample.decoded, rfl,
      CrossClientSample.task_issued, rfl⟩ _

end

end CrossClient
end DccCua
