import DccCua.Theorems.BrokerRecords
import DccCua.Uuid
import Mathlib.Algebra.Group.Int.Defs
import Mathlib.Algebra.Group.Nat.Defs

/-! # Runs of the broker

Over every run of the broker, whatever the clocks show: an authorization is leased at most once, its
lease carries what was registered, an authorization that has ended stays ended, and an active
validation names the bound lease. An authorization ends when it is revoked or when a call reads a
clock at or past its expiry.

The last part needs a proviso. `authorize` reads the clock itself and then lets the fence read it
again, and only the fence latches: when its own reading is past the expiry and the fence's is not, the
call is denied but the authorization stays alive (`ClockSettled`). -/

namespace DccCua

/-- One call of a broker run. -/
abbrev BrokerStep := Runs.Call BrokerState BrokerCall BrokerReply

namespace BrokerStep

/-- The call issued a lease for `id`. -/
def Issues (c : BrokerStep) (id : String) : Prop := ∃ lease, c.output = .lease (.ok lease) ∧ lease.authorizationId = id

/-- The call reported `id` as active. -/
def ReportsActive (c : BrokerStep) (id : String) : Prop :=
  (∃ digest, c.output = .decision (.ok ⟨.active, digest⟩)) ∧
    ((∃ request reading, c.input = .validate request reading ∧ request.authorizationId = id) ∨
      ∃ request reading, c.input = .validateLease request reading ∧ request.authorizationId = id)

/-- The call revoked `id`. -/
def Revokes (c : BrokerStep) (id : String) : Prop := c.input = .revoke id ∧ c.output = .revoked (.ok ())

/-- The call registered `registration` under `receipt`. -/
def Registers (c : BrokerStep) (registration : TrustedTaskAuthorizationRegistration)
    (receipt : TrustedTaskAuthorizationReceipt) : Prop :=
  c.output = .registered (.ok receipt) ∧ ∃ fs deadline readings, c.input = .register fs registration deadline readings

/-- The call made a clock reading for `id` at or past its expiry. `register` reads the clock for every
    record it may prune, `authorize` both itself and through the fence, and the validations through the
    fence of a record that their request matches. -/
def ObservesExpiry (env : Env) (c : BrokerStep) (id : String) : Prop :=
  ∃ record, c.before.authorizations[id]? = some record ∧
    match c.input with
    | .register fs registration _ readings =>
      Broker.validateRegistration env fs readings.validateNow registration = .ok () ∧
        record.registration.expiresAtUnixMs ≤ readings.now
    | .revoke _ => False
    | .authorize request now reading =>
      request.authorizationId = id ∧ request.schema = trustedTaskAuthorizationSchema ∧
        (record.registration.expiresAtUnixMs ≤ now ∨ record.recordingAuthorization.expiredAt reading = true)
    | .validate request reading =>
      request.authorizationId = id ∧ (∃ decision, c.output = .decision (.ok decision)) ∧
        record.recordingAuthorization.expiredAt reading = true
    | .validateLease request reading =>
      request.authorizationId = id ∧ (∃ decision, c.output = .decision (.ok decision)) ∧
        record.recordingAuthorization.expiredAt reading = true
    | .admitAt id' reading => id' = id ∧ record.recordingAuthorization.expiredAt reading = true

/-- When the own reading of an `authorize` call is at or past the expiry, so is the fence's, or the
    record has ended already. -/
def ClockSettled (c : BrokerStep) : Prop :=
  ∀ request now reading record, c.input = .authorize request now reading →
    request.schema = trustedTaskAuthorizationSchema →
    c.before.authorizations[request.authorizationId]? = some record → record.registration.expiresAtUnixMs ≤ now →
    record.Ended ∨ record.recordingAuthorization.expiredAt reading = true

end BrokerStep

/-- A lease carries what was registered. -/
structure TrustedTaskAuthorizationLease.Carries (lease : TrustedTaskAuthorizationLease)
    (registration : TrustedTaskAuthorizationRegistration) : Prop where
  allowedActions : lease.allowedActions = registration.allowedActions
  allowedHostMethods : lease.allowedHostMethods = registration.allowedHostMethods
  allowedBrowserOrigins : lease.allowedBrowserOrigins = registration.allowedBrowserOrigins
  browserScope : lease.browserScope = registration.browserScope
  recordingOutputDir : lease.recordingOutputDir = registration.recordingOutputDir
  capturePreparation : lease.capturePreparation = registration.capturePreparation
  expiresAtUnixMs : lease.expiresAtUnixMs = registration.expiresAtUnixMs

/-- A validation request names the lease: session, connection, lease digest, grant, label, capability,
    process and window, and an action scope of the lease. -/
structure TrustedTaskAuthorizationValidationRequest.Names (request : TrustedTaskAuthorizationValidationRequest)
    (lease : TrustedTaskAuthorizationLease) : Prop where
  authorizationId : request.authorizationId = lease.authorizationId
  sessionId : request.sessionId = lease.sessionId
  connectionId : request.connectionId = lease.connectionId
  leaseRequestDigest : request.leaseRequestDigest = lease.requestDigest
  taskGrantId : request.taskGrantId = lease.taskGrantId
  applicationLabel : request.applicationLabel = lease.applicationLabel
  windowCapability : request.windowCapability = lease.windowCapability
  targetProcessId : request.targetProcessId = lease.targetProcessId
  targetWindowHandle : request.targetWindowHandle = lease.targetWindowHandle
  actionScope : request.actionScope ∈ lease.allowedActions

/-- What the broker promises of a run. -/
structure BrokerContract (env : Env) (tr : List BrokerStep) : Prop where
  leased_once : ∀ id, tr.Pairwise fun a b => a.Issues id → ¬b.Issues id
  lease_registered : ∀ pre c post lease, tr = pre ++ c :: post → c.output = .lease (.ok lease) →
    ∃ a ∈ pre, ∃ registration receipt, BrokerStep.Registers a registration receipt ∧
      receipt.authorizationId = lease.authorizationId ∧ lease.Carries registration
  ended_stays : ∀ id, tr.Pairwise fun a b => (a.Revokes id ∨ a.ObservesExpiry env id) → ¬(b.Issues id ∨ b.ReportsActive id)
  active_bound : ∀ pre c post request reading digest, tr = pre ++ c :: post → c.input = .validate request reading →
    c.output = .decision (.ok ⟨.active, digest⟩) →
    ∃ a ∈ pre, ∃ lease, a.output = .lease (.ok lease) ∧ request.Names lease

namespace BrokerState
variable {env : Env} {uuid : Nat → String} {s : BrokerState}

/-- `id` was drawn from the UUID stream already. -/
def Drawn (uuid : Nat → String) (s : BrokerState) (id : String) : Prop := ∃ n, n < s.drawn ∧ authorizationId uuid n = id

/-- Every record is kept under a UUID that was drawn. -/
def KeysDrawn (uuid : Nat → String) (s : BrokerState) : Prop :=
  ∀ id record, s.authorizations[id]? = some record → Drawn uuid s id

theorem authorizationId_inj (huuid : Function.Injective uuid) {m n : Nat}
    (h : authorizationId uuid m = authorizationId uuid n) : m = n := by
  exact huuid (String.append_right_inj _ |>.mp h)

theorem initial_keysDrawn (drawn : Nat) : KeysDrawn uuid (initial drawn) := by
  intro id record h
  simp [initial] at h

/-! ### One step -/

/-- Where a record after a call comes from. -/
inductive Origin (env : Env) (uuid : Nat → String) (s : BrokerState) (i : BrokerCall) (id : String)
    (record' : BrokerRecord) : Prop where
  /-- It was there before with the same binding. -/
  | kept (record : BrokerRecord) : s.authorizations[id]? = some record → record.Kept record' →
      record'.binding = record.binding → Origin env uuid s i id record'
  /-- The call leased it. -/
  | leased (record : BrokerRecord) (request : TrustedTaskAuthorizationRequest) (now : Nat) :
      s.authorizations[id]? = some record → record.binding = none → record.exactMatch request = true →
      request.authorizationId = id → record' = record.bind request →
      ((brokerMachine env uuid).step s i).1 = .lease (.ok (record.lease request now)) → Origin env uuid s i id record'
  /-- The call registered it under a UUID that it drew. -/
  | registered (fs : FileSystem) (deadline : Option Nat) (readings : RegisterReadings)
      (receipt : TrustedTaskAuthorizationReceipt) (n : Nat) :
      i = .register fs record'.registration deadline readings →
      ((brokerMachine env uuid).step s i).1 = .registered (.ok receipt) → receipt.authorizationId = id →
      receipt.windowCapability = record'.windowCapability → record'.binding = none → s.drawn ≤ n →
      n < ((brokerMachine env uuid).step s i).2.drawn → id = authorizationId uuid n → Origin env uuid s i id record'

/-- A record set under `id` is the new one; every other record is kept. -/
theorem origin_set {i : BrokerCall} {id id' : String} {record record' record'' : BrokerRecord}
    (hget : s.authorizations[id]? = some record) (hk : record.Kept record') (hb : record'.binding = record.binding)
    (h : (s.set id record').authorizations[id']? = some record'') : Origin env uuid s i id' record'' := by
  rw [get_set] at h
  split at h
  · rename_i heq
    cases h
    exact .kept record (heq ▸ hget) hk hb
  · exact .kept record'' h (BrokerRecord.Kept.refl _) rfl

theorem step_origin {i : BrokerCall} {id : String} {record' : BrokerRecord}
    (h : ((brokerMachine env uuid).step s i).2.authorizations[id]? = some record') : Origin env uuid s i id record' := by
  have same : s.authorizations[id]? = some record' → Origin env uuid s i id record' := fun h =>
    .kept record' h (BrokerRecord.Kept.refl _) rfl
  cases i with
  | register fs registration deadline r =>
    rcases register_cases env uuid s fs registration deadline r with
      ⟨e, he, -⟩ | ⟨e, drawn, -, he⟩ | ⟨n, fence, hn, -, -, -, he⟩
    · rw [show ((brokerMachine env uuid).step s (.register fs registration deadline r)).2 = s from by
        simp [brokerMachine, he]] at h
      exact same h
    · rw [show ((brokerMachine env uuid).step s (.register fs registration deadline r)).2 =
          { s.prune r.now with drawn } from by simp [brokerMachine, he]] at h
      exact same (get_prune_eq_some.mp h).1
    · have hout : ((brokerMachine env uuid).step s (.register fs registration deadline r)).1 =
          .registered (.ok ⟨authorizationId uuid n, windowCapability uuid (n + 1), registration.expiresAtUnixMs⟩) := by
        simp [brokerMachine, he]
      have hdrawn : ((brokerMachine env uuid).step s (.register fs registration deadline r)).2.drawn = n + 2 := by
        simp [brokerMachine, he]
      rw [show ((brokerMachine env uuid).step s (.register fs registration deadline r)).2.authorizations[id]? =
          ((s.prune r.now).set (authorizationId uuid n)
            ⟨registration, windowCapability uuid (n + 1), none, false, fence, none⟩).authorizations[id]? from by
        simp [brokerMachine, he], get_set] at h
      split at h
      · rename_i heq
        cases h
        exact .registered fs deadline r _ n rfl hout heq rfl rfl hn (by omega) heq.symm
      · exact same (get_prune_eq_some.mp h).1
  | revoke id' =>
    rcases s.revoke_cases id' with he | ⟨record, record'', hget, hk, -, hb, he⟩ <;>
      simp only [brokerMachine, he, Prod.map_snd] at h
    · exact same h
    · exact origin_set hget hk hb h
  | authorize request now reading =>
    rcases s.authorize_cases request now reading with ⟨he, -⟩ | ⟨record, hget, -, he | ⟨-, hbind, hmatch, -, he⟩⟩
    · simp only [brokerMachine, he, Prod.map_snd, id_eq] at h
      exact same h
    · simp only [brokerMachine, he, Prod.map_snd, id_eq] at h
      exact origin_set hget (record.isActive_kept reading).1 (record.isActive_kept reading).2 h
    · have hout : ((brokerMachine env uuid).step s (.authorize request now reading)).1 =
          .lease (.ok (record.lease request now)) := by
        simp [brokerMachine, he]
      simp only [brokerMachine, he, Prod.map_snd, id_eq] at h
      rw [get_set] at h
      split at h
      · rename_i heq
        cases h
        exact .leased record request now (heq ▸ hget) hbind hmatch heq rfl hout
      · exact same h
  | validate request reading =>
    rcases s.validate_cases request reading with he | ⟨record, binding, hget, -, -, -, he⟩ <;>
      simp only [brokerMachine, he, Prod.map_snd, id_eq] at h
    · exact same h
    · exact origin_set hget (record.isActive_kept reading).1 (record.isActive_kept reading).2 h
  | validateLease request reading =>
    rcases s.validateLease_cases request reading with he | ⟨record, binding, hget, -, -, he⟩ <;>
      simp only [brokerMachine, he, Prod.map_snd, id_eq] at h
    · exact same h
    · exact origin_set hget (record.isActive_kept reading).1 (record.isActive_kept reading).2 h
  | admitAt id' reading =>
    rcases s.admitAt_cases id' reading with ⟨he, -⟩ | ⟨record, record'', hget, hk, hb, -, he⟩ <;>
      simp only [brokerMachine, he, Prod.map_snd] at h
    · exact same h
    · exact origin_set hget hk hb h

theorem step_drawn (s : BrokerState) (i : BrokerCall) : s.drawn ≤ ((brokerMachine env uuid).step s i).2.drawn := by
  cases i with
  | register fs registration deadline r =>
    rcases register_cases env uuid s fs registration deadline r with
      ⟨e, he, -⟩ | ⟨e, drawn, hd, he⟩ | ⟨n, fence, hn, -, -, -, he⟩ <;> simp [brokerMachine, he]
    · exact hd
    · omega
  | revoke id' => rcases s.revoke_cases id' with he | ⟨_, _, -, -, -, -, he⟩ <;> simp [brokerMachine, he]
  | authorize request now reading =>
    rcases s.authorize_cases request now reading with ⟨he, -⟩ | ⟨_, -, -, he | ⟨-, -, -, -, he⟩⟩ <;> simp [brokerMachine, he]
  | validate request reading =>
    rcases s.validate_cases request reading with he | ⟨_, _, -, -, -, -, he⟩ <;>
      simp [brokerMachine, he, decideStatus]
  | validateLease request reading =>
    rcases s.validateLease_cases request reading with he | ⟨_, _, -, -, -, he⟩ <;>
      simp [brokerMachine, he, decideStatus]
  | admitAt id' reading =>
    rcases s.admitAt_cases id' reading with ⟨he, -⟩ | ⟨_, _, -, -, -, -, he⟩ <;> simp [brokerMachine, he]

theorem Drawn.step {id : String} (i : BrokerCall) (h : Drawn uuid s id) :
    Drawn uuid ((brokerMachine env uuid).step s i).2 id := by
  obtain ⟨n, hn, hid⟩ := h
  exact ⟨n, Nat.lt_of_lt_of_le hn (step_drawn s i), hid⟩

theorem KeysDrawn.step (i : BrokerCall) (h : KeysDrawn uuid s) :
    KeysDrawn uuid ((brokerMachine env uuid).step s i).2 := by
  intro id record' hget
  cases step_origin hget with
  | kept record hs hk hb => exact (h id record hs).step i
  | leased record request now hs hn hm hid hr hout => exact (h id record hs).step i
  | registered fs deadline readings receipt n hi hout hid hcap hbind hn hn' heq => exact ⟨n, hn', heq.symm⟩

/-- A record under a UUID drawn before the call was there before it, and a binding stays. -/
theorem old_record (huuid : Function.Injective uuid) {i : BrokerCall} {id : String} {record' : BrokerRecord}
    (hd : Drawn uuid s id) (h : ((brokerMachine env uuid).step s i).2.authorizations[id]? = some record') :
    ∃ record, s.authorizations[id]? = some record ∧ record.Kept record' ∧
      (record.binding.isSome = true → record'.binding.isSome = true) := by
  cases step_origin h with
  | kept record hs hk hb => exact ⟨record, hs, hk, fun h => by rw [hb]; exact h⟩
  | leased record request now hs hn hm hid hr hout =>
    subst hr
    exact ⟨record, hs, record.bind_kept request, fun _ => rfl⟩
  | registered fs deadline readings receipt n hi hout hid hcap hbind hn hn' heq =>
    obtain ⟨m, hm, hid'⟩ := hd
    have := authorizationId_inj huuid (hid'.trans heq)
    omega

/-! ### Latches -/

/-- `id` has ended: its record, while it is kept, is revoked or expired. -/
def EndedIn (uuid : Nat → String) (s : BrokerState) (id : String) : Prop :=
  Drawn uuid s id ∧ ∀ record, s.authorizations[id]? = some record → record.Ended

/-- `id` is leased: its record, while it is kept, is bound. -/
def LeasedIn (uuid : Nat → String) (s : BrokerState) (id : String) : Prop :=
  Drawn uuid s id ∧ ∀ record, s.authorizations[id]? = some record → record.binding.isSome = true

theorem EndedIn.step (huuid : Function.Injective uuid) {id : String} (i : BrokerCall) (h : EndedIn uuid s id) :
    EndedIn uuid ((brokerMachine env uuid).step s i).2 id := by
  refine ⟨h.1.step i, fun record' hget => ?_⟩
  obtain ⟨record, hs, hk, -⟩ := old_record huuid h.1 hget
  exact hk.ended (h.2 record hs)

theorem LeasedIn.step (huuid : Function.Injective uuid) {id : String} (i : BrokerCall) (h : LeasedIn uuid s id) :
    LeasedIn uuid ((brokerMachine env uuid).step s i).2 id := by
  refine ⟨h.1.step i, fun record' hget => ?_⟩
  obtain ⟨record, hs, -, hb⟩ := old_record huuid h.1 hget
  exact hb (h.2 record hs)

/-- The record that a lease was issued for. -/
theorem issues_inv {i : BrokerCall} {lease : TrustedTaskAuthorizationLease}
    (h : ((brokerMachine env uuid).step s i).1 = .lease (.ok lease)) :
    ∃ record request now reading, i = .authorize request now reading ∧
      s.authorizations[request.authorizationId]? = some record ∧ record.isActive reading = (true, record) ∧
      record.binding = none ∧ record.exactMatch request = true ∧ lease = record.lease request now ∧
      ((brokerMachine env uuid).step s i).2 = s.set request.authorizationId (record.bind request) := by
  cases i with
  | authorize request now reading =>
    rcases s.authorize_cases request now reading with ⟨he, -⟩ | ⟨record, hget, -, he | ⟨hact, hbind, hmatch, -, he⟩⟩ <;>
      simp only [brokerMachine, he, Prod.map_fst, Prod.map_snd, id_eq, BrokerReply.lease.injEq, Except.ok.injEq,
        reduceCtorEq] at h ⊢
    exact ⟨record, request, now, reading, rfl, hget, hact, hbind, hmatch, h.symm, rfl⟩
  | _ => cases h

/-- The record that was reported active. -/
theorem reportsActive_inv {i : BrokerCall} {id : String}
    (h : BrokerStep.ReportsActive ((brokerMachine env uuid).call s i) id) :
    ∃ record reading, s.authorizations[id]? = some record ∧ (record.isActive reading).1 = true := by
  have status : ∀ {record : BrokerRecord} {id : String} {digest digest' : String} {reading : FenceReading},
      (s.decideStatus id record digest reading).1 = .ok ⟨.active, digest'⟩ → (record.isActive reading).1 = true := by
    intro record id digest digest' reading h
    simp only [decideStatus, Except.ok.injEq, TrustedTaskAuthorizationValidationDecision.mk.injEq] at h
    by_contra hne
    rw [if_neg hne] at h
    cases h.1
  obtain ⟨⟨digest, hout⟩, ⟨request, reading, hi, rfl⟩ | ⟨request, reading, hi, rfl⟩⟩ := h
  all_goals
    simp only [Runs.Machine.call_input] at hi
    subst hi
  · rcases s.validate_cases request reading with he | ⟨record, binding, hget, -, -, -, he⟩ <;>
      simp only [Runs.Machine.call_output, brokerMachine, he, Prod.map_fst, BrokerReply.decision.injEq,
        reduceCtorEq] at hout
    exact ⟨record, reading, hget, status hout⟩
  · rcases s.validateLease_cases request reading with he | ⟨record, binding, hget, -, -, he⟩ <;>
      simp only [Runs.Machine.call_output, brokerMachine, he, Prod.map_fst, BrokerReply.decision.injEq,
        reduceCtorEq] at hout
    exact ⟨record, reading, hget, status hout⟩

/-- Nothing is issued for, and no call reports active, an ended authorization. -/
theorem EndedIn.exclude {id : String} {i : BrokerCall} (h : EndedIn uuid s id) :
    ¬(BrokerStep.Issues ((brokerMachine env uuid).call s i) id ∨
      BrokerStep.ReportsActive ((brokerMachine env uuid).call s i) id) := by
  rintro (⟨lease, hout, hid⟩ | hactive)
  · obtain ⟨record, request, now, reading, -, hget, hact, -, -, rfl, -⟩ := issues_inv hout
    have hend : record.Ended := h.2 record (by rw [← hid]; exact hget)
    have hdead : (record.isActive reading).1 = false := (BrokerRecord.isActive_ended (Or.inl hend)).1
    rw [hact] at hdead
    cases hdead
  · obtain ⟨record, reading, hget, hact⟩ := reportsActive_inv hactive
    rw [(BrokerRecord.isActive_ended (Or.inl (h.2 record hget))).1] at hact
    cases hact

/-- A successful revocation ends the authorization. -/
theorem ended_of_revokes (hk : KeysDrawn uuid s) {id : String} {i : BrokerCall}
    (h : BrokerStep.Revokes ((brokerMachine env uuid).call s i) id) :
    EndedIn uuid ((brokerMachine env uuid).step s i).2 id := by
  obtain ⟨hi, hout⟩ := h
  simp only [Runs.Machine.call_input] at hi
  subst hi
  rcases s.revoke_cases id with he | ⟨record, record', hget, -, hend, -, he⟩ <;>
    simp only [Runs.Machine.call_output, brokerMachine, he, Prod.map_fst, BrokerReply.revoked.injEq,
      reduceCtorEq] at hout
  refine ⟨(hk id record hget).step _, fun record'' hget' => ?_⟩
  simp only [brokerMachine, he, Prod.map_snd, get_set] at hget'
  cases hget'
  exact hend

/-- A call that reads a clock past the expiry of an authorization ends it, when its clocks settled. -/
theorem ended_of_observes (huuid : Function.Injective uuid) (hk : KeysDrawn uuid s) {id : String} {i : BrokerCall}
    (hc : BrokerStep.ClockSettled ((brokerMachine env uuid).call s i))
    (h : BrokerStep.ObservesExpiry env ((brokerMachine env uuid).call s i) id) :
    EndedIn uuid ((brokerMachine env uuid).step s i).2 id := by
  obtain ⟨record, hget, hobs⟩ := h
  simp only [Runs.Machine.call_before, Runs.Machine.call_input, Runs.Machine.call_output] at hget hobs
  have drawn : Drawn uuid ((brokerMachine env uuid).step s i).2 id := (hk id record hget).step i
  -- A call that asks the record leaves its latched copy under `id`.
  have asked : ∀ {reading : FenceReading}, record.Ended ∨ record.recordingAuthorization.expiredAt reading = true →
      ((brokerMachine env uuid).step s i).2 = s.set id (record.isActive reading).2 →
      EndedIn uuid ((brokerMachine env uuid).step s i).2 id := by
    intro reading hx hafter
    refine ⟨drawn, fun record' hget' => ?_⟩
    rw [hafter, get_set, if_pos rfl] at hget'
    cases hget'
    exact (BrokerRecord.isActive_ended hx).2
  cases i with
  | register fs registration deadline r =>
    obtain ⟨hvalid, hexp⟩ := hobs
    refine ⟨drawn, fun record' hget' => ?_⟩
    exfalso
    have pruned : (s.prune r.now).authorizations[id]? = none := by
      rw [get_prune, hget, Option.filter_some, if_neg (by simpa using hexp)]
    rcases register_cases env uuid s fs registration deadline r with
      ⟨e, -, hne⟩ | ⟨e, drawn, -, he⟩ | ⟨n, fence, hn, -, -, -, he⟩
    · exact hne hvalid
    · simp only [brokerMachine, he, Prod.map_snd, id_eq] at hget'
      rw [pruned] at hget'
      cases hget'
    · simp only [brokerMachine, he, Prod.map_snd, id_eq] at hget'
      rw [get_set, pruned] at hget'
      split at hget'
      · rename_i heq
        obtain ⟨m, hm, hid⟩ := hk id record hget
        have := authorizationId_inj huuid (hid.trans heq.symm)
        omega
      · cases hget'
  | revoke id' => exact hobs.elim
  | authorize request now reading =>
    obtain ⟨rfl, hschema, hexp⟩ := hobs
    have hx : record.Ended ∨ record.recordingAuthorization.expiredAt reading = true := by
      rcases hexp with hexp | hexp
      · exact hc request now reading record rfl hschema hget hexp
      · exact Or.inr hexp
    rcases s.authorize_cases request now reading with ⟨-, hne | hnone⟩ | ⟨record', hget', -, he | ⟨hact, -⟩⟩
    · exact absurd hschema hne
    · rw [hnone] at hget
      cases hget
    · rw [hget] at hget'
      cases hget'
      exact asked hx (by simp [brokerMachine, he])
    · rw [hget] at hget'
      cases hget'
      have hdead : (record.isActive reading).1 = false := (BrokerRecord.isActive_ended hx).1
      rw [hact] at hdead
      cases hdead
  | validate request reading =>
    obtain ⟨rfl, ⟨decision, hout⟩, hexp⟩ := hobs
    refine asked (Or.inr hexp) ?_
    rcases s.validate_cases request reading with he | ⟨record', binding, hget', -, -, -, he⟩
    · simp [brokerMachine, he] at hout
    · rw [hget] at hget'
      cases hget'
      simp [brokerMachine, he, decideStatus]
  | validateLease request reading =>
    obtain ⟨rfl, ⟨decision, hout⟩, hexp⟩ := hobs
    refine asked (Or.inr hexp) ?_
    rcases s.validateLease_cases request reading with he | ⟨record', binding, hget', -, -, he⟩
    · simp [brokerMachine, he] at hout
    · rw [hget] at hget'
      cases hget'
      simp [brokerMachine, he, decideStatus]
  | admitAt id' reading =>
    obtain ⟨rfl, hexp⟩ := hobs
    rcases s.admitAt_cases id' reading with ⟨-, hnone⟩ | ⟨record', record'', hget', -, -, hend, he⟩
    · rw [hnone] at hget
      cases hget
    · rw [hget] at hget'
      cases hget'
      refine ⟨drawn, fun r hr => ?_⟩
      simp only [brokerMachine, he, Prod.map_snd, get_set] at hr
      cases hr
      exact hend hexp

/-! ### Whole runs -/

section Run
variable (env) (huuid : Function.Injective uuid) (drawn : Nat) (calls : List BrokerCall)
include huuid

theorem leased_once (id : String) :
    ((brokerMachine env uuid).trace (initial drawn) calls).Pairwise fun a b =>
      BrokerStep.Issues a id → ¬BrokerStep.Issues b id := by
  refine Runs.Machine.never_after (fun s i => KeysDrawn.step i) (P := fun s => LeasedIn uuid s id) ?_ ?_ ?_ calls
    (initial_keysDrawn drawn)
  · rintro s i hk ⟨lease, hout, hid⟩
    obtain ⟨record, request, now, reading, -, hget, -, -, -, rfl, hafter⟩ := issues_inv hout
    have hid : request.authorizationId = id := hid
    subst hid
    refine ⟨(hk _ record hget).step i, fun record' hget' => ?_⟩
    rw [hafter, get_set, if_pos rfl] at hget'
    cases hget'
    rfl
  · exact fun s i _ h => h.step huuid i
  · rintro s i hk hP ⟨lease, hout, hid⟩
    obtain ⟨record, request, now, reading, -, hget, -, hbind, -, rfl, -⟩ := issues_inv hout
    have hid : request.authorizationId = id := hid
    subst hid
    have := hP.2 record hget
    rw [hbind] at this
    cases this

theorem ended_stays (hc : ∀ c ∈ (brokerMachine env uuid).trace (initial drawn) calls, BrokerStep.ClockSettled c)
    (id : String) :
    ((brokerMachine env uuid).trace (initial drawn) calls).Pairwise fun a b =>
      BrokerStep.Revokes a id ∨ BrokerStep.ObservesExpiry env a id →
        ¬(BrokerStep.Issues b id ∨ BrokerStep.ReportsActive b id) := by
  have latch := Runs.Machine.never_after (m := brokerMachine env uuid) (fun s i => KeysDrawn.step i)
    (P := fun s => EndedIn uuid s id)
    (A := fun c => BrokerStep.ClockSettled c ∧ (BrokerStep.Revokes c id ∨ BrokerStep.ObservesExpiry env c id))
    (B := fun c => BrokerStep.Issues c id ∨ BrokerStep.ReportsActive c id)
    (fun s i hk h => h.2.elim (ended_of_revokes hk) (ended_of_observes huuid hk h.1))
    (fun s i _ h => h.step huuid i) (fun s i _ h => h.exclude) calls (initial_keysDrawn drawn)
  exact latch.imp_of_mem fun {a b} ha _ h hx => h ⟨hc a ha, hx⟩

end Run

/-- The registration behind a record. -/
theorem registered_before {env : Env} {calls : List BrokerCall} {drawn : Nat} {pre post : List BrokerStep}
    {c : BrokerStep} {id : String} {record : BrokerRecord}
    (htr : (brokerMachine env uuid).trace (initial drawn) calls = pre ++ c :: post)
    (hget : c.before.authorizations[id]? = some record) :
    ∃ a ∈ pre, ∃ receipt, BrokerStep.Registers a record.registration receipt ∧ receipt.authorizationId = id := by
  have found := Runs.Machine.exists_before (m := brokerMachine env uuid)
    (P := fun s => ∃ r, s.authorizations[id]? = some r ∧ r.registration = record.registration)
    (A := fun a => ∃ receipt, BrokerStep.Registers a record.registration receipt ∧ receipt.authorizationId = id)
    ?_ htr ⟨record, hget, rfl⟩
  · rcases found with ⟨r, hr, -⟩ | found
    · simp [initial] at hr
    · exact found
  · rintro s i ⟨r, hr, hreg⟩
    cases step_origin hr with
    | kept r₀ hs hk hb => exact Or.inl ⟨r₀, hs, hk.registration.symm.trans hreg⟩
    | leased r₀ request now hs hn hm hid hbd hout =>
      subst hbd
      exact Or.inl ⟨r₀, hs, hreg⟩
    | registered fs deadline readings receipt n hi hout hid hcap hbind hn hn' heq =>
      exact Or.inr ⟨receipt, ⟨hout, fs, deadline, readings, hreg ▸ hi⟩, hid⟩

/-- The lease behind a binding. -/
theorem leased_before {env : Env} {calls : List BrokerCall} {drawn : Nat} {pre post : List BrokerStep}
    {c : BrokerStep} {id : String} {record : BrokerRecord} {binding : BrokerBinding}
    (htr : (brokerMachine env uuid).trace (initial drawn) calls = pre ++ c :: post)
    (hget : c.before.authorizations[id]? = some record) (hbind : record.binding = some binding) :
    ∃ a ∈ pre, ∃ lease, a.output = .lease (.ok lease) ∧ lease.authorizationId = id ∧
      lease.Carries record.registration ∧ lease.sessionId = binding.sessionId ∧
      lease.connectionId = binding.connectionId ∧ lease.requestDigest = binding.leaseRequestDigest ∧
      lease.targetProcessId = binding.targetProcessId ∧ lease.targetWindowHandle = binding.targetWindowHandle ∧
      lease.taskGrantId = record.registration.taskGrantId ∧
      lease.applicationLabel = record.registration.applicationLabel ∧
      lease.windowCapability = record.windowCapability := by
  have found := Runs.Machine.exists_before (m := brokerMachine env uuid)
    (P := fun s => ∃ r, s.authorizations[id]? = some r ∧ r.registration = record.registration ∧
      r.windowCapability = record.windowCapability ∧ r.binding = some binding)
    (A := fun a => ∃ lease, a.output = .lease (.ok lease) ∧ lease.authorizationId = id ∧
      lease.Carries record.registration ∧ lease.sessionId = binding.sessionId ∧
      lease.connectionId = binding.connectionId ∧ lease.requestDigest = binding.leaseRequestDigest ∧
      lease.targetProcessId = binding.targetProcessId ∧ lease.targetWindowHandle = binding.targetWindowHandle ∧
      lease.taskGrantId = record.registration.taskGrantId ∧
      lease.applicationLabel = record.registration.applicationLabel ∧
      lease.windowCapability = record.windowCapability)
    ?_ htr ⟨record, hget, rfl, rfl, hbind⟩
  · rcases found with ⟨r, hr, -⟩ | found
    · simp [initial] at hr
    · exact found
  · rintro s i ⟨r, hr, hreg, hcap, hb⟩
    cases step_origin hr with
    | kept r₀ hs hk hb' =>
      exact Or.inl ⟨r₀, hs, hk.registration.symm.trans hreg, hk.windowCapability.symm.trans hcap, hb'.symm.trans hb⟩
    | leased r₀ request now hs hn hm hid hbd hout =>
      subst hbd
      simp only [BrokerRecord.bind, Option.some.injEq] at hb hreg hcap
      simp only [BrokerRecord.exactMatch, Bool.and_eq_true, beq_iff_eq] at hm
      obtain ⟨⟨⟨⟨⟨hgrant, hlabel⟩, hwindow⟩, -⟩, -⟩, -⟩ := hm
      subst hb
      rw [hreg] at hgrant hlabel
      rw [hcap] at hwindow
      refine Or.inr ⟨_, hout, hid, ?_, rfl, rfl, rfl, rfl, rfl, hgrant, hlabel, hwindow⟩
      rw [← hreg]
      exact ⟨rfl, rfl, rfl, rfl, rfl, rfl, rfl⟩
    | registered fs deadline readings receipt n hi hout hid hcap' hbind' hn hn' heq =>
      rw [hbind'] at hb
      cases hb

end BrokerState

/-- Every run of a broker whose clocks settle in each `authorize` call keeps the contract: one lease an
    authorization, carrying what was registered; nothing for an authorization that was revoked or seen
    expired; and an active validation only of the bound lease. -/
theorem broker_contract (env : Env) {uuid : Nat → String} (huuid : Function.Injective uuid) (drawn : Nat)
    (calls : List BrokerCall)
    (hc : ∀ c ∈ (brokerMachine env uuid).trace (BrokerState.initial drawn) calls, BrokerStep.ClockSettled c) :
    BrokerContract env ((brokerMachine env uuid).trace (BrokerState.initial drawn) calls) where
  leased_once := BrokerState.leased_once env huuid drawn calls
  ended_stays := BrokerState.ended_stays env huuid drawn calls hc
  lease_registered pre c post lease htr hout := by
    have hmem : c ∈ (brokerMachine env uuid).trace (BrokerState.initial drawn) calls := by
      rw [htr]
      exact List.mem_append_right _ List.mem_cons_self
    rw [Runs.Machine.eq_call_of_mem hmem] at hout
    obtain ⟨record, request, now, reading, -, hget, -, -, -, rfl, -⟩ := BrokerState.issues_inv hout
    obtain ⟨a, ha, receipt, hreg, hid⟩ := BrokerState.registered_before htr hget
    exact ⟨a, ha, record.registration, receipt, hreg, hid, ⟨rfl, rfl, rfl, rfl, rfl, rfl, rfl⟩⟩
  active_bound pre c post request reading digest htr hi hout := by
    have hmem : c ∈ (brokerMachine env uuid).trace (BrokerState.initial drawn) calls := by
      rw [htr]
      exact List.mem_append_right _ List.mem_cons_self
    rw [Runs.Machine.eq_call_of_mem hmem, hi] at hout
    rcases c.before.validate_cases request reading with he | ⟨record, binding, hget, hbind, hmatch, hscope, -⟩
    · simp [brokerMachine, he] at hout
    · obtain ⟨a, ha, lease, hlease, hid, hcarries, hs, hcn, hd, hp, hw, hg, hl, hcap⟩ :=
        BrokerState.leased_before htr hget hbind
      simp only [BrokerRecord.boundTo, Bool.and_eq_true, beq_iff_eq] at hmatch
      obtain ⟨⟨⟨⟨⟨⟨⟨m1, m2⟩, m3⟩, m4⟩, m5⟩, m6⟩, m7⟩, m8⟩ := hmatch
      refine ⟨a, ha, lease, hlease, ?_⟩
      exact ⟨hid.symm, m1.trans hs.symm, m2.trans hcn.symm, m3.trans hd.symm, m4.trans hg.symm, m5.trans hl.symm,
        m6.trans hcap.symm, m7.trans hp.symm, m8.trans hw.symm, hcarries.allowedActions ▸ hscope⟩

/-! ### A clock that goes back inside one call -/

namespace BrokerSample

def env : Env := ⟨.unix, fun _ => none, 2 ^ 64⟩

def fs : FileSystem := fun _ => none

/-- An authorization to look at one window, until the clock shows 2000. -/
def registration : TrustedTaskAuthorizationRegistration where
  connectionId := none
  taskId := none
  taskGrantId := "grant"
  applicationLabel := "Editor"
  target := .exactWindow 7 9
  allowedHostMethods := ["snapshot"]
  allowedActions := []
  allowedBrowserOrigins := []
  browserScope := none
  recordingOutputDir := none
  capturePreparation := none
  expiresAtUnixMs := 2000

def request : TrustedTaskAuthorizationRequest where
  schema := trustedTaskAuthorizationSchema
  requestId := "request"
  connectionId := "connection"
  authorizationId := BrokerState.authorizationId uuid 0
  sessionId := "session"
  taskGrantId := "grant"
  applicationLabel := "Editor"
  windowCapability := BrokerState.windowCapability uuid 1
  targetProcessId := 7
  targetWindowHandle := 9
  requestDigest := "digest"

def machine : Runs.Machine BrokerState BrokerCall BrokerReply := brokerMachine env uuid

def register : BrokerCall := .register fs registration none ⟨1000, 1000, ⟨1000, 5⟩, ⟨1000, 5⟩⟩

/-- The broker after the registration, and the record it keeps. -/
def registered : BrokerState := (machine.step (BrokerState.initial 0) register).2

def record : BrokerRecord :=
  ⟨registration, BrokerState.windowCapability uuid 1, none, false, ⟨false, 2000, some 1000000005⟩, none⟩

theorem registered_get : registered.authorizations[BrokerState.authorizationId uuid 0]? = some record := by
  decide

/-- An `authorize` that reads 2000 itself, before the clock goes back to 1999 and the fence reads it. -/
def overtaken : BrokerCall := .authorize request 2000 ⟨1999, 6⟩

/-- An `authorize` before the expiry. -/
def early : BrokerCall := .authorize request 1999 ⟨1999, 7⟩

theorem early_leases :
    (machine.step (machine.step registered overtaken).2 early).1 = .lease (.ok (record.lease request 1999)) := by
  decide

end BrokerSample

/-- An authorization that was seen expired is leased afterwards. -/
theorem broker_leases_after_expiry : Function.Injective BrokerSample.uuid ∧
    ¬BrokerContract BrokerSample.env
      (BrokerSample.machine.trace (BrokerState.initial 0)
        [BrokerSample.register, BrokerSample.overtaken, BrokerSample.early]) := by
  refine ⟨BrokerSample.uuid_injective, fun h => ?_⟩
  have hpair := h.ended_stays (BrokerState.authorizationId BrokerSample.uuid 0)
  rw [Runs.Machine.trace_cons, List.pairwise_cons, Runs.Machine.trace_cons, List.pairwise_cons,
    Runs.Machine.trace_cons] at hpair
  have hobs : BrokerStep.ObservesExpiry BrokerSample.env
      (BrokerSample.machine.call BrokerSample.registered BrokerSample.overtaken)
      (BrokerState.authorizationId BrokerSample.uuid 0) :=
    ⟨BrokerSample.record, BrokerSample.registered_get, rfl, rfl, Or.inl (by decide)⟩
  exact hpair.2.1 _ List.mem_cons_self (Or.inr hobs)
    (Or.inl ⟨_, BrokerSample.early_leases, rfl⟩)

/-- A registration and a lease before the expiry meet the proviso. -/
theorem broker_contract_early :
    BrokerContract BrokerSample.env
      ((brokerMachine BrokerSample.env BrokerSample.uuid).trace (BrokerState.initial 0)
        [BrokerSample.register, BrokerSample.early]) := by
  refine broker_contract BrokerSample.env BrokerSample.uuid_injective 0 _ fun c hc => ?_
  simp only [Runs.Machine.trace_cons, Runs.Machine.trace_nil, List.mem_cons, List.not_mem_nil, or_false] at hc
  rcases hc with rfl | rfl
  · intro request now reading record hi
    cases hi
  · intro request now reading record hi hschema hget hexp
    cases hi
    have hsame := hget.symm.trans BrokerSample.registered_get
    cases hsame
    exact absurd hexp (by decide)

end DccCua
