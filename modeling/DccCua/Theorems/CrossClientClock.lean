import DccCua.Theorems.CrossClientRuns
import Mathlib.Data.List.Chain

/-! # The rollback latch

A verifier that sees the clock go back refuses every later call. It compares the readings in the order in which the calls take the
lock, while each call reads the clock before that: two calls that overlap can set the latch although the clock never went back. -/

namespace DccCua
namespace CrossClient

open Runs Checks System

/-! ### Observations -/

/-- The reading that the call brings to the lock. Readings that are no safe integers are refused there without a trace. -/
def TimedCall.brings (env : Env) (primitives : Primitives) (clock : Except CrossClientError Nat) : TimedCall → Option Nat
  | prepare observer request => clock.toOption.filter fun now =>
    (validateChallengeRequest env request now).isOk && (validateLiveTarget observer request.target).isOk
  | consume _ _ _ encoded => if (decodeReceipt primitives encoded).isOk then clock.toOption else none
  | _ => clock.toOption

def TimedCall.observes (env : Env) (primitives : Primitives) (clock : Except CrossClientError Nat) (call : TimedCall) : Option Nat :=
  (call.brings env primitives clock).filter (· ≤ maxSafeJsonInteger)

/-- The state remembers the readings so far, or the latch is set. -/
structure Remembers (v : VerifierState) (readings : List Nat) : Prop where
  latched : v.clockFailed = true → ¬readings.IsChain (· ≤ ·)
  sorted : v.clockFailed = false → readings.IsChain (· ≤ ·)
  last : v.clockFailed = false → v.lastObservedUnixMs = readings.getLast?

/-- The clock of a state is that of another. -/
structure SameClock (v w : VerifierState) : Prop where
  failed : w.clockFailed = v.clockFailed
  last : w.lastObservedUnixMs = v.lastObservedUnixMs

theorem SameClock.trans {u v w : VerifierState} (h : SameClock u v) (h' : SameClock v w) : SameClock u w :=
  ⟨h'.failed.trans h.failed, h'.last.trans h.last⟩

theorem SameClock.refl (v : VerifierState) : SameClock v v := ⟨rfl, rfl⟩

/-- The state after an observation, if there is one. -/
def observed (v : VerifierState) (reading : Option Nat) : VerifierState := reading.elim v fun now => (observeClock v now).2

theorem remembers_observe {v : VerifierState} {readings : List Nat} (h : Remembers v readings) {now : Nat}
    (hsafe : now ≤ maxSafeJsonInteger) : Remembers (observeClock v now).2 (readings ++ [now]) := by
  have hchain : (readings ++ [now]).IsChain (· ≤ ·) ↔ readings.IsChain (· ≤ ·) ∧ ∀ last ∈ readings.getLast?, last ≤ now := by
    rw [List.isChain_append]
    simp
  unfold observeClock
  cases hfailed : v.clockFailed with
  | true =>
    rw [if_pos rfl]
    refine ⟨fun _ hall => h.latched hfailed (hchain.mp hall).1, fun hfalse => ?_, fun hfalse => ?_⟩
    · rw [hfailed] at hfalse
      cases hfalse
    · rw [hfailed] at hfalse
      cases hfalse
  | false =>
    rw [if_neg Bool.false_ne_true, if_neg (Nat.not_lt.mpr hsafe), h.last hfailed]
    split
    · rename_i hback
      rw [Option.any_eq_true] at hback
      obtain ⟨last, hlast, hless⟩ := hback
      refine ⟨fun _ hall => ?_, fun hfalse => (by cases hfalse), fun hfalse => (by cases hfalse)⟩
      exact absurd ((hchain.mp hall).2 last hlast) (Nat.not_le.mpr (of_decide_eq_true hless))
    · rename_i hforward
      have hafter : ∀ last ∈ readings.getLast?, last ≤ now := by
        intro last hlast
        rw [Option.mem_def.mp hlast] at hforward
        simpa using hforward
      refine ⟨fun hfalse => ?_, fun _ => hchain.mpr ⟨h.sorted hfailed, hafter⟩, fun _ => by simp⟩
      cases hfalse

theorem Remembers.of_sameClock {v w : VerifierState} {readings : List Nat} (h : Remembers v readings) (hsame : SameClock v w) :
    Remembers w readings :=
  ⟨fun hw => h.latched (hsame.failed ▸ hw), fun hw => h.sorted (hsame.failed ▸ hw),
    fun hw => hsame.last.trans (h.last (hsame.failed ▸ hw))⟩

/-- A reading that is no safe integer changes nothing. -/
theorem observed_filter (v : VerifierState) (now : Nat) :
    observed v ((some now).filter (· ≤ maxSafeJsonInteger)) = (observeClock v now).2 := by
  rw [Option.filter_some]
  split
  · rfl
  · rename_i hunsafe
    have hunsafe : maxSafeJsonInteger < now := Nat.not_le.mp fun h => hunsafe (decide_eq_true h)
    unfold observeClock
    split
    · rfl
    · rfl

section
variable {env : Env} {primitives : Primitives} {uuid draw : Nat → String} {runtime : Runtime} {s : System}

theorem conclude_sameClock (env : Env) (uuid : Nat → String) (s : System) (now : Nat) (fs : FileSystem)
    (readings : BrokerState.RegisterReadings) (challenge : Challenge) (key : TrustedTaskAuthorizationKey)
    (decision : UnsignedDecision) :
    SameClock s.verifier (conclude env uuid s now fs readings challenge key decision).2.verifier := by
  unfold conclude
  split
  · exact .refl _
  rcases redeem_cases env uuid s now fs readings challenge key decision.expiresAtUnixMs with
    ⟨-, heq⟩ | ⟨processId, windowHandle, identity, broker, -, ⟨error, -, heq⟩ | ⟨receipt, -, heq⟩⟩
  · rw [heq]
    exact .refl _
  · rw [heq]
    exact .refl _
  · rw [heq]
    exact ⟨rfl, rfl⟩

theorem settle_sameClock (env : Env) (primitives : Primitives) (uuid : Nat → String) (runtime : Runtime) (s : System) (now : Nat)
    (observer : TargetObserver) (fs : FileSystem) (readings : BrokerState.RegisterReadings) (receipt : SignedDecision) :
    SameClock s.verifier (settle env primitives uuid runtime s now observer fs readings receipt).2.verifier := by
  unfold settle
  split
  · exact .refl _
  rename_i challenge key _
  split
  · exact .refl _
  rename_i marked hmarked
  have hsame : SameClock s.verifier marked.verifier := by
    unfold markConsumed at hmarked
    split at hmarked
    · cases hmarked
    · cases hmarked
      exact ⟨rfl, rfl⟩
  exact hsame.trans (conclude_sameClock env uuid marked now fs readings challenge key receipt.decision)

theorem hostStatus_clock (s : System) (clock : Except CrossClientError Nat) (observer : TargetObserver) (authorizationId : String)
    (processId windowHandle : Nat) :
    (s.hostStatus clock observer authorizationId processId windowHandle).2.verifier =
      observed s.verifier (clock.toOption.filter (· ≤ maxSafeJsonInteger)) := by
  unfold hostStatus
  cases clock with
  | error error => rfl
  | ok now =>
    have hobserved := observed_filter s.verifier now
    rw [Except.toOption, hobserved]
    dsimp only
    split
    · rename_i h
      rw [h]
    · rename_i h
      rw [h]

theorem addChallenge_sameClock (primitives : Primitives) (draw : Nat → String) (runtime : Runtime) (s : System) (now : Nat)
    (request : ChallengeRequest) :
    SameClock (observeClock s.verifier now).2 (addChallenge primitives draw runtime s now request).2.verifier := by
  unfold addChallenge
  split
  · rename_i h
    rw [h]
    exact .refl _
  rename_i verifier h
  rw [h]
  dsimp only
  split
  · exact ⟨rfl, rfl⟩
  split
  · exact ⟨rfl, rfl⟩
  · exact ⟨rfl, rfl⟩

/-- A call leaves the clock as its observation does. -/
theorem clock_step (env : Env) (primitives : Primitives) (uuid draw : Nat → String) (runtime : Runtime) (s : System)
    (clock : Except CrossClientError Nat) (call : TimedCall) :
    SameClock (observed s.verifier (call.observes env primitives clock))
      ((crossClientMachine env primitives uuid draw runtime).step s (call.at clock)).2.verifier := by
  have host : ∀ {observer : TargetObserver} {authorizationId : String} {processId windowHandle : Nat}
      {result : Except TrustedTaskAuthorizationHostError TrustedTaskAuthorizationStatus} {t : System},
      s.hostStatus clock observer authorizationId processId windowHandle = (result, t) →
        SameClock (observed s.verifier (clock.toOption.filter (· ≤ maxSafeJsonInteger))) t.verifier := by
    intro observer authorizationId processId windowHandle result t h
    rw [← hostStatus_clock s clock observer authorizationId processId windowHandle, h]
    exact .refl _
  cases call with
  | prepare observer request =>
    simp only [TimedCall.at, crossClientMachine, Prod.map_snd, id_eq]
    unfold System.prepare
    cases clock with
    | error error => exact .refl _
    | ok now =>
      dsimp only
      split
      · rename_i error hinvalid
        have hbrings : (TimedCall.prepare observer request).brings env primitives (.ok now) = none := by
          cases hrequest : validateChallengeRequest env request now with
          | error _ => simp [TimedCall.brings, Except.toOption, hrequest, Except.isOk, Except.toBool]
          | ok u =>
            cases htarget : validateLiveTarget observer request.target with
            | error _ => simp [TimedCall.brings, Except.toOption, htarget, Except.isOk, Except.toBool]
            | ok u' =>
              rw [hrequest, htarget] at hinvalid
              cases hinvalid
        rw [TimedCall.observes, hbrings]
        exact .refl _
      · rename_i hvalid
        obtain ⟨_, hrequest, htarget⟩ := bind_eq_ok.mp hvalid
        have hbrings : (TimedCall.prepare observer request).brings env primitives (.ok now) = some now := by
          simp [TimedCall.brings, Except.toOption, hrequest, htarget, Except.isOk, Except.toBool]
        rw [TimedCall.observes, hbrings, observed_filter]
        exact addChallenge_sameClock primitives draw runtime s now request
  | consume observer fs readings encoded =>
    simp only [TimedCall.at, crossClientMachine, Prod.map_snd, id_eq]
    unfold System.consume
    split
    · rename_i error hreceipt
      rw [TimedCall.observes, TimedCall.brings, hreceipt]
      exact .refl _
    · rename_i receipt error hreceipt
      rw [TimedCall.observes, TimedCall.brings, hreceipt]
      exact .refl _
    · rename_i receipt now hreceipt
      have hbrings : (TimedCall.consume observer fs readings encoded).brings env primitives (.ok now) = some now := by
        simp [TimedCall.brings, Except.toOption, hreceipt, Except.isOk, Except.toBool]
      rw [TimedCall.observes, hbrings, observed_filter]
      split
      · rename_i h
        rw [h]
        exact .refl _
      · rename_i verifier h
        rw [h]
        exact settle_sameClock env primitives uuid runtime { s with verifier := verifier } now observer fs readings receipt
  | authorize observer request brokerNow reading =>
    simp only [TimedCall.at, crossClientMachine, Prod.map_snd, id_eq]
    unfold System.authorize
    split
    · rename_i h
      exact host h
    · rename_i h
      exact host h
    · rename_i h
      exact ⟨(host h).failed, (host h).last⟩
  | validate observer request reading =>
    simp only [TimedCall.at, crossClientMachine, Prod.map_snd, id_eq]
    unfold System.validate
    split
    · rename_i h
      exact host h
    · rename_i h
      exact host h
    · rename_i h
      exact ⟨(host h).failed, (host h).last⟩
  | validateLease observer request reading =>
    simp only [TimedCall.at, crossClientMachine, Prod.map_snd, id_eq]
    unfold System.validateLease
    split
    · rename_i h
      exact host h
    · rename_i h
      exact host h
    · rename_i h
      exact ⟨(host h).failed, (host h).last⟩

/-! ### Latched -/

/-- The call returns what it was made for. -/
def CrossClientReply.succeeds : CrossClientReply → Bool
  | prepared result => result.isOk
  | consumed result => result.isOk
  | lease result => result.isOk
  | decision result => result.isOk
  | revoked _ | admitted _ => false

theorem observeClock_latched {v : VerifierState} (h : v.clockFailed = true) (now : Nat) :
    observeClock v now = (.error .clockRollback, v) := by
  unfold observeClock
  rw [if_pos h]

theorem hostStatus_latched (h : s.verifier.clockFailed = true) (clock : Except CrossClientError Nat) (observer : TargetObserver)
    (authorizationId : String) (processId windowHandle : Nat) :
    s.hostStatus clock observer authorizationId processId windowHandle = (.error unavailableHost, s) := by
  unfold hostStatus
  cases clock with
  | error error => rfl
  | ok now =>
    dsimp only
    rw [observeClock_latched h]

/-- Under the latch a call fails, and the latch stays. -/
theorem latched_step (h : s.verifier.clockFailed = true) (clock : Except CrossClientError Nat) (call : TimedCall) :
    ((crossClientMachine env primitives uuid draw runtime).step s (call.at clock)).1.succeeds = false := by
  cases call with
  | prepare observer request =>
    simp only [TimedCall.at, crossClientMachine, Prod.map_fst]
    unfold System.prepare
    split
    · rfl
    split
    · rfl
    unfold addChallenge
    rw [observeClock_latched h]
    rfl
  | consume observer fs readings encoded =>
    simp only [TimedCall.at, crossClientMachine, Prod.map_fst]
    unfold System.consume
    split
    · rfl
    · rfl
    rw [observeClock_latched h]
    rfl
  | authorize observer request brokerNow reading =>
    simp only [TimedCall.at, crossClientMachine, Prod.map_fst]
    unfold System.authorize
    rw [hostStatus_latched h]
    rfl
  | validate observer request reading =>
    simp only [TimedCall.at, crossClientMachine, Prod.map_fst]
    unfold System.validate
    rw [hostStatus_latched h]
    rfl
  | validateLease observer request reading =>
    simp only [TimedCall.at, crossClientMachine, Prod.map_fst]
    unfold System.validateLease
    rw [hostStatus_latched h]
    rfl

theorem observed_latched {v : VerifierState} (h : v.clockFailed = true) (reading : Option Nat) : observed v reading = v := by
  cases reading with
  | none => rfl
  | some now => exact congrArg Prod.snd (observeClock_latched h now)

theorem sameClock_revoke (s : System) (keyId : String) (epoch : Nat) : SameClock s.verifier (s.revoke keyId epoch).2.verifier := by
  rcases revoke_cases s keyId epoch with ⟨error, heq⟩ | ⟨record, -, heq⟩
  · rw [heq]
    exact .refl _
  · rw [heq]
    exact ⟨rfl, rfl⟩

/-- The latch stays, and no call succeeds under it. -/
theorem latched_event {t : Overlapping} (h : t.system.verifier.clockFailed = true) (event : ClockEvent) :
    ((overlappingMachine env primitives uuid draw runtime).step t event).2.system.verifier.clockFailed = true ∧
      ∀ reply, ((overlappingMachine env primitives uuid draw runtime).step t event).1 = some reply → reply.succeeds = false := by
  cases event with
  | read thread clock => exact ⟨h, fun reply hreply => by cases hreply⟩
  | enter thread call =>
    simp only [overlappingMachine]
    split
    · exact ⟨h, fun reply hreply => by cases hreply⟩
    · rename_i clock _
      have hsame := clock_step env primitives uuid draw runtime t.system clock call
      rw [observed_latched h] at hsame
      refine ⟨hsame.failed.trans h, fun reply hreply => ?_⟩
      cases hreply
      exact latched_step h clock call
  | revoke keyId epoch =>
    refine ⟨(sameClock_revoke t.system keyId epoch).failed.trans h, fun reply hreply => ?_⟩
    cases hreply
    rfl
  | admitAt id reading =>
    refine ⟨h, fun reply hreply => ?_⟩
    cases hreply
    rfl

/-! ### Runs -/

abbrev OverlappingStep := Call Overlapping ClockEvent (Option CrossClientReply)

/-- The thread that reads, and what it reads. -/
def OverlappingStep.read (c : OverlappingStep) : Option (Nat × Nat) :=
  match c.input with
  | .read thread clock => clock.toOption.map fun now => (thread, now)
  | _ => none

/-- The thread that takes the lock, and the reading that the state observes. -/
def OverlappingStep.observed (env : Env) (primitives : Primitives) (c : OverlappingStep) : Option (Nat × Nat) :=
  match c.input with
  | .enter thread call =>
    ((c.before.reading thread).bind fun clock => call.observes env primitives clock).map fun now => (thread, now)
  | _ => none

/-- The readings in the order in which they were made, and in that in which they are observed. -/
def readsOf (past : List OverlappingStep) : List (Nat × Nat) := past.filterMap OverlappingStep.read

def observationsOf (env : Env) (primitives : Primitives) (past : List OverlappingStep) : List (Nat × Nat) :=
  past.filterMap (OverlappingStep.observed env primitives)

theorem remembers_observed {v : VerifierState} {readings : List Nat} (h : Remembers v readings) (clock : Except CrossClientError Nat)
    (call : TimedCall) :
    Remembers (observed v (call.observes env primitives clock)) (readings ++ (call.observes env primitives clock).toList) := by
  cases hobserves : call.observes env primitives clock with
  | none => simpa [observed] using h
  | some now =>
    have hsafe : now ≤ maxSafeJsonInteger := by
      rw [TimedCall.observes, Option.filter_eq_some_iff] at hobserves
      exact of_decide_eq_true hobserves.2
    exact remembers_observe h hsafe

theorem observationsOf_append (past : List OverlappingStep) (c : OverlappingStep) :
    (observationsOf env primitives (past ++ [c])).map Prod.snd =
      (observationsOf env primitives past).map Prod.snd ++ ((OverlappingStep.observed env primitives c).map Prod.snd).toList := by
  unfold observationsOf
  rw [List.filterMap_append, List.map_append]
  cases h : OverlappingStep.observed env primitives c <;> simp [h]

theorem remembers_step {t : Overlapping} {past : List OverlappingStep}
    (h : Remembers t.system.verifier ((observationsOf env primitives past).map Prod.snd)) (event : ClockEvent) :
    Remembers ((overlappingMachine env primitives uuid draw runtime).step t event).2.system.verifier
      ((observationsOf env primitives (past ++ [(overlappingMachine env primitives uuid draw runtime).call t event])).map Prod.snd) := by
  rw [observationsOf_append]
  cases event with
  | read thread clock => simpa [OverlappingStep.observed, overlappingMachine] using h
  | enter thread call =>
    cases hheld : t.reading thread with
    | none => simpa [OverlappingStep.observed, overlappingMachine, hheld] using h
    | some clock =>
      have hobserved : (OverlappingStep.observed env primitives
          ((overlappingMachine env primitives uuid draw runtime).call t (.enter thread call))).map Prod.snd =
            call.observes env primitives clock := by
        simp [OverlappingStep.observed, hheld, Function.comp_def]
      rw [hobserved]
      simp only [overlappingMachine, hheld]
      exact (remembers_observed h clock call).of_sameClock (clock_step env primitives uuid draw runtime t.system clock call)
  | revoke keyId epoch =>
    have hafter := h.of_sameClock (sameClock_revoke t.system keyId epoch)
    simpa [OverlappingStep.observed, overlappingMachine, crossClientMachine] using hafter
  | admitAt id reading => simpa [OverlappingStep.observed, overlappingMachine, crossClientMachine] using h

/-- In every run the latch is set exactly when the observed readings go back somewhere. -/
theorem latched_iff (env : Env) (primitives : Primitives) (uuid draw : Nat → String) (runtime : Runtime) (keys : KeyRegistry)
    (drawn brokerDrawn : Nat) (events : List ClockEvent) :
    ((overlappingMachine env primitives uuid draw runtime).final (.initial keys drawn brokerDrawn)
        events).system.verifier.clockFailed = true ↔
      ¬((observationsOf env primitives ((overlappingMachine env primitives uuid draw runtime).trace
        (.initial keys drawn brokerDrawn) events)).map Prod.snd).IsChain (· ≤ ·) := by
  have hinitial : Remembers (Overlapping.initial keys drawn brokerDrawn).system.verifier
      ((observationsOf env primitives []).map Prod.snd) :=
    ⟨fun h => (by cases h), fun _ => List.isChain_nil, fun _ => rfl⟩
  have h := Machine.inv_history (m := overlappingMachine env primitives uuid draw runtime)
    (fun t past => Remembers t.system.verifier ((observationsOf env primitives past).map Prod.snd)) (fun _ => True)
    (fun t event past h _ => remembers_step h event) hinitial events fun _ _ => trivial
  refine ⟨h.latched, fun hback => ?_⟩
  rw [← Bool.not_eq_false]
  exact fun hfalse => hback (h.sorted hfalse)

end

/-- The latch in every run of overlapping calls. It is set exactly when the observed readings go back somewhere. Where the clock
    never goes back and the calls take the lock in the order in which they have read, it is never set. Once set it stays, and no
    call succeeds. -/
theorem rollback_latch (env : Env) (primitives : Primitives) (uuid draw : Nat → String) (runtime : Runtime) (keys : KeyRegistry)
    (drawn brokerDrawn : Nat) (events : List ClockEvent) :
    (((overlappingMachine env primitives uuid draw runtime).final (.initial keys drawn brokerDrawn)
        events).system.verifier.clockFailed = true ↔
      ¬((observationsOf env primitives ((overlappingMachine env primitives uuid draw runtime).trace
        (.initial keys drawn brokerDrawn) events)).map Prod.snd).IsChain (· ≤ ·)) ∧
    (((readsOf ((overlappingMachine env primitives uuid draw runtime).trace (.initial keys drawn brokerDrawn) events)).map
        Prod.snd).IsChain (· ≤ ·) →
      (observationsOf env primitives ((overlappingMachine env primitives uuid draw runtime).trace (.initial keys drawn brokerDrawn)
        events)).Sublist (readsOf ((overlappingMachine env primitives uuid draw runtime).trace (.initial keys drawn brokerDrawn) events)) →
      ((overlappingMachine env primitives uuid draw runtime).final (.initial keys drawn brokerDrawn)
        events).system.verifier.clockFailed = false) ∧
    ∀ c ∈ (overlappingMachine env primitives uuid draw runtime).trace (.initial keys drawn brokerDrawn) events,
      c.before.system.verifier.clockFailed = true → c.after.system.verifier.clockFailed = true ∧
        ∀ reply, c.output = some reply → reply.succeeds = false := by
  have hiff := latched_iff env primitives uuid draw runtime keys drawn brokerDrawn events
  refine ⟨hiff, fun hsorted hsublist => ?_, fun c hc hlatched => ?_⟩
  · rw [← Bool.not_eq_true, hiff, Classical.not_not]
    have hreads := List.isChain_iff_pairwise.mp hsorted
    exact List.isChain_iff_pairwise.mpr (hreads.sublist (hsublist.map Prod.snd))
  · rw [Machine.eq_call_of_mem hc]
    exact latched_event hlatched c.input

namespace CrossClientSample

def overlapping : Machine Overlapping ClockEvent (Option CrossClientReply) :=
  overlappingMachine BrokerSample.env primitives BrokerSample.uuid draw runtime

/-- Two threads prepare a challenge each. The first reads before the second, and takes the lock after it. -/
def crossing : List ClockEvent :=
  [.read 1 (.ok 1000), .read 2 (.ok 1001), .enter 2 (.prepare observer (request false)), .enter 1 (.prepare observer (request false))]

/-- The threads in turn. -/
def inTurn : List ClockEvent :=
  [.read 1 (.ok 1000), .enter 1 (.prepare observer (request false)), .read 2 (.ok 1001), .enter 2 (.prepare observer (request false))]

end CrossClientSample

/-- Two calls that cross set the latch, although the clock has gone forward; the same calls in turn do not. -/
theorem crossing_calls_latch :
    ((readsOf (CrossClientSample.overlapping.trace (.initial CrossClientSample.keys 0 0) CrossClientSample.crossing)).map
        Prod.snd).IsChain (· ≤ ·) ∧
    (CrossClientSample.overlapping.final (.initial CrossClientSample.keys 0 0)
        CrossClientSample.crossing).system.verifier.clockFailed = true ∧
    (CrossClientSample.overlapping.final (.initial CrossClientSample.keys 0 0)
        CrossClientSample.inTurn).system.verifier.clockFailed = false := by
  refine ⟨by decide, ?_, ?_⟩
  · exact (rollback_latch BrokerSample.env CrossClientSample.primitives BrokerSample.uuid CrossClientSample.draw
      CrossClientSample.runtime CrossClientSample.keys 0 0 CrossClientSample.crossing).1.mpr (by decide)
  · exact (rollback_latch BrokerSample.env CrossClientSample.primitives BrokerSample.uuid CrossClientSample.draw
      CrossClientSample.runtime CrossClientSample.keys 0 0 CrossClientSample.inTurn).2.1 (by decide) (by decide)

end CrossClient
end DccCua
