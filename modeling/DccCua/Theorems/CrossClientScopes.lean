import DccCua.Theorems.CrossClientRuns
import DccCua.Theorems.TaskCapacity

/-! # Which challenges become tasks

The verifier checks the scope of a challenge and the broker that of a registration, with validators written apart. What the first
accepts the second accepts too, capture preparation apart: it may be asked for in a challenge, and the registration that comes of
the challenge brings no permission for it. By then the challenge is consumed. -/

namespace DccCua
namespace CrossClient

open Runs Checks System

/-- The scope of the request has a method or an action of capture preparation. -/
def ChallengeRequest.asksPreparation (request : ChallengeRequest) : Bool :=
  preparationRequested request.allowedHostMethods || request.allowedActions.any (·.isCapturePreparation)

section
variable {env : Env} {primitives : Primitives} {uuid draw : Nat → String} {runtime : Runtime} {s : System}
  {request : ChallengeRequest} {now processId windowHandle : Nat} {identity : String}

/-- What the registration of an accepted request needs of it. -/
structure AcceptedRequest (env : Env) (request : ChallengeRequest) (now : Nat) : Prop where
  connectionId : Text.printable request.connectionId 256 = true
  taskId : Text.printable request.taskId 256 = true
  taskGrantId : Text.printable request.taskGrantId maxTaskGrantIdChars = true
  applicationLabel : Text.printable request.applicationLabel maxApplicationLabelChars = true
  ttl : request.expiresAtUnixMs - now ≤ maxTaskAuthorizationTtlMs
  target : validateTarget env request.target = .ok ()
  methods : methodsClosed request.allowedHostMethods = true
  actions : actionsClosed env request.allowedActions = true
  origins : originsClosed env request.allowedBrowserOrigins = true
  scope : isScopeOf request request.target = true

theorem acceptedRequest_of_valid (hbootstrap : request.target.isBootstrap = false)
    (h : validateChallengeRequest env request now = .ok ()) : AcceptedRequest env request now := by
  simp only [validateChallengeRequest, validateIdentity, validateLabel, validateSafeInteger, bind_eq_ok, require_eq_ok,
    hbootstrap, Bool.false_eq_true, if_false, validateTaskScope, exists_const, Bool.and_eq_true, decide_eq_true_eq] at h
  obtain ⟨_, -, htask, hconnection, hgrant, hlabel, -, _, -, -, -, ⟨-, httl⟩, _, htarget, ⟨⟨⟨hsome, hdistinct⟩, hcount⟩, -⟩,
    hmethods, ⟨⟨-, hactions⟩, -⟩, horigins, hscope⟩ := h
  refine ⟨hconnection, htask, hgrant, hlabel, httl, htarget, ?_, hactions, horigins, hscope⟩
  have hall : request.allowedHostMethods.dedup.all isTaskAuthorizableHostMethod = true :=
    List.all_eq_true.mpr fun method hmem => List.all_eq_true.mp hmethods method (List.mem_dedup.mp hmem)
  have hbound : request.allowedHostMethods.length ≤ 64 := hdistinct ▸ hcount
  unfold methodsClosed
  rw [hsome, hdistinct, hall]
  simp [hbound]

/-- The window of a valid target is one, and the scope of the registration that comes of it is one for the broker. -/
theorem browserScope_of_valid (h : AcceptedRequest env request now) {challenge : Challenge} (hrequest : challenge.request = request)
    (htarget : request.target.exactWindow? = some (processId, windowHandle, identity)) (expiresAtUnixMs : Nat) :
    (registrationOf challenge processId windowHandle expiresAtUnixMs).target.isNonzero = true ∧
      Broker.browserScopeAllowed env (registrationOf challenge processId windowHandle expiresAtUnixMs) = true := by
  obtain rfl := hrequest
  have hvalid := h.target
  have hscope := h.scope
  cases hcase : challenge.request.target with
  | exactWindow pid created hwnd =>
    rw [hcase] at htarget hvalid
    cases htarget
    simp only [validateTarget, validateWindow, bind_eq_ok, require_eq_ok, Bool.and_eq_true, decide_eq_true_eq] at hvalid
    obtain ⟨_, ⟨_, hnonzero, -⟩, -⟩ := hvalid
    refine ⟨by simpa [registrationOf, TrustedTaskAuthorizationTarget.isNonzero] using hnonzero, ?_⟩
    simp [registrationOf, Broker.browserScopeAllowed, hcase, Target.browserScope?]
  | exactBrowser pid created hwnd scope =>
    rw [hcase] at htarget hvalid hscope
    cases htarget
    simp only [validateTarget, validateWindow, validateIdentity, validateSafeInteger, bind_eq_ok, require_eq_ok, Bool.and_eq_true,
      decide_eq_true_eq, exists_const] at hvalid
    obtain ⟨⟨hnonzero, -⟩, -, htargetId, htab, hdocument, horigin⟩ := hvalid
    simp only [isScopeOf, Bool.and_eq_true, decide_eq_true_eq] at hscope
    obtain ⟨⟨⟨horigins, hsnapshot⟩, -⟩, -⟩ := hscope
    refine ⟨by simpa [registrationOf, TrustedTaskAuthorizationTarget.isNonzero] using hnonzero, ?_⟩
    have hprintable : scope.validate env = true := by
      simpa [TrustedTaskAuthorizationBrowserScope.validate, horigin] using ⟨htargetId, htab, hdocument⟩
    simp only [registrationOf, Broker.browserScopeAllowed, hcase, Target.browserScope?, Option.all_some, hprintable, hsnapshot,
      horigins, beq_self_eq_true, Bool.and_true, Bool.true_and]
    rfl
  | browserBootstrapExactWindow _ _ _ => rw [hcase] at htarget; cases htarget
  | browserBootstrapOwned _ _ => rw [hcase] at htarget; cases htarget

/-- The broker accepts the registration of an accepted request, in its time, exactly when no capture preparation is asked for. -/
theorem registrable_iff {fs : FileSystem} {challenge : Challenge} {issuedAt validateNow expiresAtUnixMs : Nat}
    (h : AcceptedRequest env challenge.request issuedAt)
    (htarget : challenge.request.target.exactWindow? = some (processId, windowHandle, identity)) (hissued : issuedAt ≤ validateNow)
    (hunexpired : validateNow < expiresAtUnixMs) (hexpiry : expiresAtUnixMs ≤ challenge.request.expiresAtUnixMs) :
    Broker.Registrable env fs validateNow (registrationOf challenge processId windowHandle expiresAtUnixMs) ↔
      challenge.request.asksPreparation = false := by
  obtain ⟨hnonzero, hscope⟩ := browserScope_of_valid h rfl htarget expiresAtUnixMs
  have httl : expiresAtUnixMs - validateNow ≤ maxTaskAuthorizationTtlMs := by
    have := h.ttl
    omega
  unfold ChallengeRequest.asksPreparation
  rw [Bool.or_eq_false_iff]
  constructor
  · intro hregistrable
    exact ⟨hregistrable.preparationMethods, hregistrable.preparationActions⟩
  · rintro ⟨hmethods, hactions⟩
    exact {
      connectionId := fun id hid => by cases hid; exact h.connectionId
      taskId := fun id hid => by cases hid; exact h.taskId
      taskGrantId := h.taskGrantId
      applicationLabel := h.applicationLabel
      target := hnonzero
      unexpired := hunexpired
      ttl := httl
      actions := h.actions
      methods := h.methods
      preparationMethods := hmethods
      preparationActions := hactions
      preparation := rfl
      recording := rfl
      origins := h.origins
      browserScope := hscope }

/-! ### The broker -/

/-- The broker is asked in time: its clock is not behind that of the verifier and not at the expiry, it has room for a lease, and
    the new fence is active. -/
structure BrokerReady (env : Env) (broker : BrokerState) (now expiresAtUnixMs : Nat) (readings : BrokerState.RegisterReadings) :
    Prop where
  forward : now ≤ readings.validateNow
  unexpired : readings.validateNow < expiresAtUnixMs
  room : broker.leases readings.now < Broker.maxBrokerAuthorizations
  fence : ((BrokerState.newFence env expiresAtUnixMs none readings.fence).admitAt readings.admission).1 = true

theorem register_of_ready (huuid : Function.Injective uuid) {broker : BrokerState} (hkeys : BrokerState.KeysDrawn uuid broker)
    (fs : FileSystem) {registration : TrustedTaskAuthorizationRegistration} {readings : BrokerState.RegisterReadings}
    (hready : BrokerReady env broker now registration.expiresAtUnixMs readings) :
    (∃ receipt, (broker.register env uuid fs registration none readings).1 = .ok receipt) ↔
      Broker.Registrable env fs readings.validateNow registration := by
  rw [← Broker.validateRegistration_eq_ok]
  have hroom : ¬Broker.maxBrokerAuthorizations ≤ broker.leases readings.now := Nat.not_le.mpr hready.room
  have havailable : ¬(broker.register env uuid fs registration none readings).1 = .error .unavailable :=
    fun h => hroom ((TaskServer.register_unavailable_iff huuid hkeys).mp h).2
  have hactive := hready.fence
  unfold BrokerState.register at havailable ⊢
  cases hvalid : Broker.validateRegistration env fs readings.validateNow registration with
  | error e => exact iff_of_false (fun ⟨receipt, h⟩ => by cases h) (fun h => by cases h)
  | ok u =>
    rw [hvalid] at havailable
    refine iff_of_true ?_ rfl
    dsimp only at havailable ⊢
    split
    · rename_i hfull
      rw [if_pos hfull] at havailable
      exact absurd rfl havailable
    · rename_i hspace
      rw [if_neg hspace] at havailable
      split
      · rename_i hdrawn
        rw [hdrawn] at havailable
        exact absurd rfl havailable
      · simp [hactive]

/-! ### Decisions -/

theorem consume_admitted (hinv : SystemInv env uuid draw s) {observer : TargetObserver} (fs : FileSystem)
    (readings : BrokerState.RegisterReadings) {encoded : List UInt8} {receipt : SignedDecision} {challenge : Challenge}
    {key : TrustedTaskAuthorizationKey} (hreceipt : decodeReceipt primitives encoded = .ok receipt)
    (hclock : (observeClock s.verifier now).1 = .ok ())
    (hadmitted : Admitted primitives runtime s now observer receipt challenge key) :
    ∃ verifier, s.consume env primitives uuid runtime (.ok now) observer fs readings encoded =
      conclude env uuid (s.marked verifier challenge.challengeId challenge) now fs readings challenge key receipt.decision := by
  have hsame := observeClock_same s.verifier now
  unfold consume
  rw [hreceipt]
  dsimp only
  rcases hobserve : observeClock s.verifier now with ⟨_, verifier⟩
  rw [hobserve] at hsame hclock
  dsimp only at hclock hsame
  subst hclock
  exact ⟨verifier, settle_admitted env uuid fs readings hinv.keys hsame hadmitted⟩

/-- A decision that allows, for a challenge that is no bootstrap and at a broker that is ready: it brings a task exactly when the
    challenge asks for no capture preparation. Whatever it brings, the challenge is consumed. -/
theorem allowed_task_iff (env : Env) (draw : Nat → String) (huuid : Function.Injective uuid) (keys : KeyRegistry)
    (drawn brokerDrawn : Nat) (inputs : List CrossClientCall) {observer : TargetObserver} {fs : FileSystem} {readings : BrokerState.RegisterReadings}
    {encoded : List UInt8} {receipt : SignedDecision} {challenge : Challenge} {key : TrustedTaskAuthorizationKey}
    (hs : s = (crossClientMachine env primitives uuid draw runtime).final (initial keys drawn brokerDrawn) inputs)
    (hreceipt : decodeReceipt primitives encoded = .ok receipt) (hclock : (observeClock s.verifier now).1 = .ok ())
    (hadmitted : Admitted primitives runtime s now observer receipt challenge key) (hallow : receipt.decision.decision = .allow)
    (hbootstrap : challenge.request.target.isBootstrap = false)
    (hready : BrokerReady env s.broker now receipt.decision.expiresAtUnixMs readings) :
    ((∃ task, ((crossClientMachine env primitives uuid draw runtime).step s (.consume (.ok now) observer fs readings encoded)).1 =
        .consumed (.ok (.task task))) ↔ challenge.request.asksPreparation = false) ∧
    (((crossClientMachine env primitives uuid draw runtime).step s (.consume (.ok now) observer fs readings encoded)).1 =
        .consumed (.error .brokerUnavailable) ↔ challenge.request.asksPreparation = true) ∧
    ((crossClientMachine env primitives uuid draw runtime).step s
        (.consume (.ok now) observer fs readings encoded)).2.verifier.challenges[challenge.challengeId]? =
      some ⟨challenge, true⟩ := by
  have hinv : SystemInv env uuid draw s := hs ▸ inv_reached keys drawn brokerDrawn inputs
  obtain ⟨verifier, heq⟩ := consume_admitted hinv fs readings hreceipt hclock hadmitted
  have hbound := validateDecisionBinding_eq_ok.mp hadmitted.binding
  obtain hb | ⟨-, processId, windowHandle, identity, htarget⟩ := target_cases challenge.request.target
  · rw [hbootstrap] at hb
    cases hb
  have hvalid := hinv.issued receipt.decision.challengeId ⟨challenge, false⟩ hadmitted.retained
  have haccepted := acceptedRequest_of_valid hbootstrap hvalid
  have hissued : challenge.issuedAtUnixMs ≤ readings.validateNow :=
    Nat.le_trans hbound.issued (Nat.le_trans hbound.past hready.forward)
  have hregisters : (∃ task, (s.broker.register env uuid fs
        (registrationOf challenge processId windowHandle receipt.decision.expiresAtUnixMs) none readings).1 = .ok task) ↔
      challenge.request.asksPreparation = false :=
    (register_of_ready huuid hinv.brokerKeys fs hready).trans
      (registrable_iff haccepted htarget hissued hready.unexpired hbound.expiry)
  simp only [crossClientMachine, heq, conclude, hallow, Prod.map_fst, Prod.map_snd, id_eq]
  rcases hregister : s.broker.register env uuid fs (registrationOf challenge processId windowHandle receipt.decision.expiresAtUnixMs)
    none readings with ⟨error | task, broker⟩
  · rw [hregister] at hregisters
    rw [redeem_refused (s := s.marked verifier challenge.challengeId challenge) hbootstrap htarget hregister]
    have hasks : challenge.request.asksPreparation = true := by
      rw [← Bool.not_eq_false]
      intro hnot
      obtain ⟨task, h⟩ := hregisters.mpr hnot
      cases h
    simp [hasks, marked]
  · rw [hregister] at hregisters
    rw [redeem_registered (s := s.marked verifier challenge.challengeId challenge) hbootstrap htarget hregister]
    have hasks : challenge.request.asksPreparation = false := hregisters.mp ⟨task, rfl⟩
    simp [hasks, marked, addProvenance]

end

namespace CrossClientSample

def challenge (preparation : Bool) : Challenge :=
  { newChallenge primitives draw runtime 0 1000 (request preparation) with challengeSha256 := "sha256:digest" }

theorem admitted : admitDecision primitives runtime (prepared true) 1001 observer receipt = .ok (challenge true, key) := by decide

theorem ready : BrokerReady BrokerSample.env (prepared true).broker 1001 2000 readings := ⟨by decide, by decide, by decide, by decide⟩

end CrossClientSample

/-- An approved challenge to prepare a capture brings nothing, and it is consumed. -/
theorem preparation_burns_challenge :
    (CrossClientSample.machine.step (CrossClientSample.prepared true) CrossClientSample.consume).1 =
        .consumed (.error .brokerUnavailable) ∧
    (CrossClientSample.machine.step (CrossClientSample.prepared true)
        CrossClientSample.consume).2.verifier.challenges[challengeId CrossClientSample.draw 0]? =
      some ⟨CrossClientSample.challenge true, true⟩ := by
  obtain ⟨-, hrefused, hconsumed⟩ := allowed_task_iff BrokerSample.env CrossClientSample.draw BrokerSample.uuid_injective
    CrossClientSample.keys 0 0 [CrossClientSample.prepare true] rfl CrossClientSample.decoded (by decide)
    (admitDecision_eq_ok.mp CrossClientSample.admitted) rfl rfl CrossClientSample.ready
  exact ⟨hrefused.mpr (by decide), hconsumed⟩

end CrossClient
end DccCua
