import DccCua.Host.Broker

/-! What one call of the broker does to a record: it keeps the registration and the capability, never
    un-ends the record, and binds it at most once, by issuing a lease. A record appears only under a
    UUID drawn by the call that registers it. -/

namespace DccCua

/-! ### The fence -/

namespace RecordingAuthorization
variable {fence : RecordingAuthorization} {reading : FenceReading}

theorem admitAt_false (h : fence.revoked = true ∨ fence.expiredAt reading = true) :
    fence.admitAt reading = (false, fence.revoke) := by
  unfold admitAt
  rw [if_pos]
  simpa using h

theorem admitAt_true (h : (fence.admitAt reading).1 = true) :
    fence.admitAt reading = (true, fence) ∧ fence.revoked = false ∧ fence.expiredAt reading = false := by
  unfold admitAt at h ⊢
  split at h
  · cases h
  · rename_i hc
    simp only [Bool.or_eq_true, not_or, Bool.not_eq_true] at hc
    rw [if_neg (by simp [hc])]
    exact ⟨rfl, hc⟩

theorem admitAt_cases (fence : RecordingAuthorization) (reading : FenceReading) :
    fence.admitAt reading = (true, fence) ∨ fence.admitAt reading = (false, fence.revoke) := by
  unfold admitAt
  split <;> simp

end RecordingAuthorization

/-! ### Records -/

namespace BrokerRecord
variable {record record' record'' : BrokerRecord} {reading : FenceReading}

/-- What every call keeps of a record. -/
structure Kept (record record' : BrokerRecord) : Prop where
  registration : record'.registration = record.registration
  windowCapability : record'.windowCapability = record.windowCapability
  ended : record.Ended → record'.Ended
  expiry : record'.recordingAuthorization.expiresAtUnixMs = record.recordingAuthorization.expiresAtUnixMs

theorem Kept.refl (record : BrokerRecord) : Kept record record := ⟨rfl, rfl, id, rfl⟩

theorem isActive_cases (record : BrokerRecord) (reading : FenceReading) :
    record.isActive reading = (true, record) ∨
      ∃ asked, record.isActive reading = (false, asked) ∧ asked.Ended ∧ Kept record asked ∧
        asked.binding = record.binding := by
  unfold isActive
  split
  · rename_i hr
    exact Or.inr ⟨record, rfl, Or.inl hr, Kept.refl _, rfl⟩
  · rcases record.recordingAuthorization.admitAt_cases reading with h | h
    · left
      rw [h]
    · right
      rw [h]
      exact ⟨_, rfl, Or.inr rfl, ⟨rfl, rfl, fun _ => Or.inr rfl, rfl⟩, rfl⟩

theorem isActive_kept (record : BrokerRecord) (reading : FenceReading) :
    Kept record (record.isActive reading).2 ∧ (record.isActive reading).2.binding = record.binding := by
  rcases record.isActive_cases reading with h | ⟨asked, h, -, hk, hb⟩
  · rw [h]
    exact ⟨Kept.refl _, rfl⟩
  · rw [h]
    exact ⟨hk, hb⟩

/-- An ended record, and one whose fence reads an expiry, is not active and stays ended. -/
theorem isActive_ended (h : record.Ended ∨ record.recordingAuthorization.expiredAt reading = true) :
    (record.isActive reading).1 = false ∧ (record.isActive reading).2.Ended := by
  unfold isActive
  split
  · rename_i hr
    exact ⟨rfl, Or.inl hr⟩
  · rename_i hr
    have hf : record.recordingAuthorization.revoked = true ∨
        record.recordingAuthorization.expiredAt reading = true := by
      rcases h with (h | h) | h
      · exact absurd h hr
      · exact Or.inl h
      · exact Or.inr h
    rw [RecordingAuthorization.admitAt_false hf]
    exact ⟨rfl, Or.inr rfl⟩

theorem bind_kept (record : BrokerRecord) (request : TrustedTaskAuthorizationRequest) :
    Kept record (record.bind request) := ⟨rfl, rfl, id, rfl⟩

end BrokerRecord

/-! ### Broker states -/

namespace BrokerState
variable {env : Env} {uuid : Nat → String} {state : BrokerState}

theorem get_set (state : BrokerState) (id id' : String) (record : BrokerRecord) :
    (state.set id record).authorizations[id']? = if id = id' then some record else state.authorizations[id']? := by
  simp [set, Std.TreeMap.getElem?_insert]

@[simp] theorem drawn_set (id : String) (record : BrokerRecord) : (state.set id record).drawn = state.drawn := rfl

theorem get_prune (state : BrokerState) (now : Nat) (id : String) :
    (state.prune now).authorizations[id]? =
      state.authorizations[id]?.filter fun record => decide (now < record.registration.expiresAtUnixMs) := by
  simp [prune, Std.TreeMap.getElem?_filter]

@[simp] theorem drawn_prune (now : Nat) : (state.prune now).drawn = state.drawn := rfl

theorem get_prune_eq_some {now : Nat} {id : String} {record : BrokerRecord} :
    (state.prune now).authorizations[id]? = some record ↔
      state.authorizations[id]? = some record ∧ now < record.registration.expiresAtUnixMs := by
  rw [get_prune, Option.filter_eq_some_iff]
  simp

theorem freshAuthorizationId_eq_some {authorizations : Std.TreeMap String BrokerRecord} {id : String} {drawn' : Nat} :
    ∀ {fuel drawn : Nat}, freshAuthorizationId uuid authorizations fuel drawn = some (id, drawn') →
      ∃ n, drawn ≤ n ∧ drawn' = n + 1 ∧ id = authorizationId uuid n
  | fuel + 1, drawn, h => by
    unfold freshAuthorizationId at h
    split at h
    · obtain ⟨n, hn, h⟩ := freshAuthorizationId_eq_some h
      exact ⟨n, Nat.le_of_succ_le hn, h⟩
    · cases h
      exact ⟨drawn, Nat.le_refl _, rfl, rfl⟩

/-- A UUID that the map does not hold yet is taken at the first draw. -/
theorem freshAuthorizationId_of_not_contains {authorizations : Std.TreeMap String BrokerRecord} {fuel drawn : Nat}
    (h : authorizations.contains (authorizationId uuid drawn) = false) :
    freshAuthorizationId uuid authorizations (fuel + 1) drawn = some (authorizationId uuid drawn, drawn + 1) := by
  simp [freshAuthorizationId, h]

/-- A failed registration at most prunes; a successful one also adds its record, not yet bound, under a
    new UUID. -/
theorem register_cases (env : Env) (uuid : Nat → String) (state : BrokerState) (fs : FileSystem) (registration : TrustedTaskAuthorizationRegistration)
    (deadline : Option Nat) (r : RegisterReadings) :
    (∃ e, state.register env uuid fs registration deadline r = (.error e, state) ∧
      Broker.validateRegistration env fs r.validateNow registration ≠ .ok ()) ∨
    (∃ e drawn, state.drawn ≤ drawn ∧
      state.register env uuid fs registration deadline r = (.error e, { state.prune r.now with drawn })) ∨
    (∃ n fence, state.drawn ≤ n ∧ fence.revoked = false ∧ fence.expiresAtUnixMs = registration.expiresAtUnixMs ∧
      Broker.validateRegistration env fs r.validateNow registration = .ok () ∧
      state.register env uuid fs registration deadline r =
        (.ok ⟨authorizationId uuid n, windowCapability uuid (n + 1), registration.expiresAtUnixMs⟩,
          { (state.prune r.now).set (authorizationId uuid n)
              ⟨registration, windowCapability uuid (n + 1), none, false, fence, none⟩ with drawn := n + 2 })) := by
  unfold register
  split
  · rename_i e he
    exact Or.inl ⟨e, rfl, by rw [he]; nofun⟩
  · rename_i hvalid
    right
    dsimp only
    split
    · exact Or.inl ⟨_, _, Nat.le_refl _, rfl⟩
    · split
      · exact Or.inl ⟨_, _, Nat.le_refl _, rfl⟩
      · rename_i id drawn hfresh
        obtain ⟨n, hn, rfl, rfl⟩ := freshAuthorizationId_eq_some hfresh
        have hexp : (newFence env registration.expiresAtUnixMs deadline r.fence).expiresAtUnixMs =
            registration.expiresAtUnixMs := by
          unfold newFence
          split <;> rfl
        split
        · exact Or.inl ⟨_, _, Nat.le_succ_of_le hn, rfl⟩
        · rename_i hact
          simp only [Bool.not_eq_true', Bool.not_eq_false] at hact
          obtain ⟨hadm, hrev, -⟩ := RecordingAuthorization.admitAt_true hact
          refine Or.inr ⟨n, newFence env registration.expiresAtUnixMs deadline r.fence, hn, hrev, hexp, hvalid, ?_⟩
          rw [hadm]

/-- A refused `authorize` at most latches the fence; a granted one binds the record, which was active,
    unbound and matched the request. -/
theorem authorize_cases (state : BrokerState) (request : TrustedTaskAuthorizationRequest) (now : Nat)
    (reading : FenceReading) :
    (state.authorize request now reading = (.error .denied, state) ∧
      (request.schema ≠ trustedTaskAuthorizationSchema ∨ state.authorizations[request.authorizationId]? = none)) ∨
    ∃ record, state.authorizations[request.authorizationId]? = some record ∧
      request.schema = trustedTaskAuthorizationSchema ∧
      (state.authorize request now reading =
          (.error .denied, state.set request.authorizationId (record.isActive reading).2) ∨
        record.isActive reading = (true, record) ∧ record.binding = none ∧ record.exactMatch request = true ∧
          now < record.registration.expiresAtUnixMs ∧
          state.authorize request now reading =
            (.ok (record.lease request now), state.set request.authorizationId (record.bind request))) := by
  unfold authorize
  split
  · rename_i hschema
    exact Or.inl ⟨rfl, Or.inl (by simpa using hschema)⟩
  · rename_i hschema
    split
    · rename_i hnone
      exact Or.inl ⟨rfl, Or.inr hnone⟩
    · rename_i record hget
      refine Or.inr ⟨record, hget, by simpa using hschema, ?_⟩
      dsimp only
      split
      · exact Or.inl rfl
      · rename_i hc
        simp only [Bool.or_eq_true, not_or, Bool.not_eq_true, Bool.not_eq_false', decide_eq_false_iff_not,
          Nat.not_le, Option.isSome_eq_false_iff, Option.isNone_iff_eq_none] at hc
        obtain ⟨⟨⟨hact, hbind⟩, hexp⟩, hmatch⟩ := hc
        right
        have hsame : record.isActive reading = (true, record) := by
          rcases record.isActive_cases reading with h | ⟨asked, h, -⟩
          · exact h
          · rw [h] at hact
            cases hact
        refine ⟨hsame, hbind, hmatch, hexp, ?_⟩
        rw [hsame]

/-- What `validate` and `validate_lease` did: refused, or matched a bound record and asked it. -/
theorem validate_cases (state : BrokerState) (request : TrustedTaskAuthorizationValidationRequest)
    (reading : FenceReading) :
    state.validate request reading = (.error Broker.unavailable, state) ∨
    ∃ record binding, state.authorizations[request.authorizationId]? = some record ∧ record.binding = some binding ∧
      record.boundTo binding request.sessionId request.connectionId request.leaseRequestDigest request.taskGrantId
        request.applicationLabel request.windowCapability request.targetProcessId request.targetWindowHandle = true ∧
      request.actionScope ∈ record.registration.allowedActions ∧
      state.validate request reading =
        state.decideStatus request.authorizationId record request.requestDigest reading := by
  unfold validate
  split
  · exact Or.inl rfl
  · split
    · exact Or.inl rfl
    · rename_i record hget
      split
      · exact Or.inl rfl
      · rename_i binding hbind
        split
        · exact Or.inl rfl
        · rename_i hc
          simp only [Bool.not_eq_true', Bool.not_eq_false, Bool.and_eq_true, List.contains_iff_mem] at hc
          exact Or.inr ⟨record, binding, hget, hbind, hc.1, hc.2, rfl⟩

theorem validateLease_cases (state : BrokerState) (request : TrustedTaskAuthorizationLeaseValidationRequest)
    (reading : FenceReading) :
    state.validateLease request reading = (.error Broker.unavailable, state) ∨
    ∃ record binding, state.authorizations[request.authorizationId]? = some record ∧ record.binding = some binding ∧
      record.boundTo binding request.sessionId request.connectionId request.leaseRequestDigest request.taskGrantId
        request.applicationLabel request.windowCapability request.targetProcessId request.targetWindowHandle = true ∧
      state.validateLease request reading =
        state.decideStatus request.authorizationId record request.requestDigest reading := by
  unfold validateLease
  split
  · exact Or.inl rfl
  · split
    · exact Or.inl rfl
    · rename_i record hget
      split
      · exact Or.inl rfl
      · rename_i binding hbind
        split
        · exact Or.inl rfl
        · rename_i hc
          simp only [Bool.not_eq_true', Bool.not_eq_false] at hc
          exact Or.inr ⟨record, binding, hget, hbind, hc, rfl⟩

theorem revoke_cases (state : BrokerState) (id : String) :
    state.revoke id = (.error .notFound, state) ∨
    ∃ record record', state.authorizations[id]? = some record ∧ record.Kept record' ∧ record'.Ended ∧
      record'.binding = record.binding ∧ state.revoke id = (.ok (), state.set id record') := by
  unfold revoke
  split
  · exact Or.inl rfl
  · rename_i record hget
    exact Or.inr ⟨record, { record with revoked := true, recordingAuthorization := record.recordingAuthorization.revoke },
      hget, ⟨rfl, rfl, fun _ => Or.inl rfl, rfl⟩, Or.inl rfl, rfl, rfl⟩

theorem admitAt_cases (state : BrokerState) (id : String) (reading : FenceReading) :
    (state.admitAt id reading).2 = state ∧ state.authorizations[id]? = none ∨
    ∃ record record', state.authorizations[id]? = some record ∧ record.Kept record' ∧
      record'.binding = record.binding ∧
      (record.recordingAuthorization.expiredAt reading = true → record'.Ended) ∧
      (state.admitAt id reading).2 = state.set id record' := by
  unfold admitAt
  split
  · rename_i hget
    exact Or.inl ⟨rfl, hget⟩
  · rename_i record hget
    right
    rcases record.recordingAuthorization.admitAt_cases reading with h | h
    · have hlive := (RecordingAuthorization.admitAt_true (by rw [h])).2.2
      rw [h]
      exact ⟨record, record, hget, BrokerRecord.Kept.refl _, rfl, fun he => absurd (hlive.symm.trans he) nofun, rfl⟩
    · rw [h]
      exact ⟨record, { record with recordingAuthorization := record.recordingAuthorization.revoke }, hget,
        ⟨rfl, rfl, fun _ => Or.inr rfl, rfl⟩, rfl, fun _ => Or.inr rfl, rfl⟩

end BrokerState
end DccCua
