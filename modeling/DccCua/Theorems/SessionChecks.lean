import DccCua.Core.Actions

/-! # What the checks of a session leave alone

A program that only asks, checks and revalidates keeps every property that the events of the environment
keep; where it ends with an error, it may have invalidated the evidence. -/

namespace DccCua

open Runs Script

namespace ComputerUseSession

/-- `F` holds while a program goes on, and `I` at its end: events keep `F`, and lost evidence keeps `I`. -/
structure Stable (F I : ComputerUseSession → Prop) : Prop where
  observe : ∀ event s, F s → F (s.observe event)
  weaken : ∀ s, F s → I s
  lost : ∀ s, I s → I s.loseTarget
  invalidate : ∀ s, I s → I s.invalidateActionObservations

theorem Stable.refl {I : ComputerUseSession → Prop} (observe : ∀ event s, I s → I (s.observe event))
    (lost : ∀ s, I s → I s.loseTarget) (invalidate : ∀ s, I s → I s.invalidateActionObservations) :
    Stable I I := ⟨observe, fun _ h => h, lost, invalidate⟩

section
variable {F I : ComputerUseSession → Prop} (h : Stable F I) {α : Type}
include h

theorem Stable.sensitive (result : Except ComputerUseError α) {s : ComputerUseSession} (hs : I s) :
    I (finishObservationSensitive result s) := by
  unfold finishObservationSensitive
  cases result with
  | ok a => exact hs
  | error error =>
    have hlost : I (if error.code = .missingWindow then s.loseTarget else s) := by
      split
      · exact h.lost s hs
      · exact hs
    dsimp only
    split
    · exact h.invalidate _ hlost
    · exact hlost

theorem Stable.awaits (answer : SessionEvent → Option α) :
    Triple (fun s _ => F s) (ask answer) (fun _ s _ => F s) I := by
  refine triple_await (fun s hs => h.weaken s hs) fun event rest s hs => ?_
  cases answer event with
  | some a => exact h.observe event s hs
  | none => exact h.observe event s hs

theorem Stable.asks (answer : SessionEvent → Option (Except ComputerUseError α)) : KeepsOr F I (ask answer) := by
  refine triple_weaken (h.awaits answer) (fun _ _ hs => hs) fun result s rest hs => ?_
  cases result with
  | ok a => exact hs
  | error e => exact h.weaken s hs

theorem Stable.check (which : SessionCheck) : KeepsOr F I (check which) := h.asks _

theorem Stable.onlyWhen (c : Bool) {prog : SessionProg Unit} (hprog : KeepsOr F I prog) : KeepsOr F I (onlyWhen c prog) := by
  unfold ComputerUseSession.onlyWhen
  split
  · exact hprog
  · exact keepsOr_ret h.weaken _

theorem Stable.finish (result : Except ComputerUseError α) : KeepsOr F I (finishObservationSensitiveAttempt result) := by
  refine keepsOr_update fun s hs => ?_
  cases result with
  | ok a => exact hs
  | error e => exact h.sensitive (.error e : Except ComputerUseError α) (h.weaken s hs)

theorem Stable.attempt {prog : SessionProg α} (hprog : KeepsOr F I prog) : KeepsOr F I (attempt prog) := by
  refine triple_andThen hprog fun result => triple_update fun s _ hs => ?_
  cases result with
  | ok a => exact hs
  | error e => exact h.sensitive (.error e : Except ComputerUseError α) hs

theorem Stable.ensureActive : KeepsOr F I ensureActive :=
  keepsOr_tryThen (h.check _) fun _ => keepsOr_read h.weaken _

theorem Stable.requireObservedTargetAvailable : KeepsOr F I requireObservedTargetAvailable := by
  refine keepsOr_tryThen (h.attempt ?_) fun target => keepsOr_tryThen (h.finish _) fun _ => keepsOr_ret h.weaken _
  exact keepsOr_tryThen (h.asks _) fun target => keepsOr_read h.weaken _

theorem Stable.requireObservedInputAvailable (platform : SessionPlatform) :
    KeepsOr F I (requireObservedInputAvailable platform) :=
  keepsOr_tryThen (keepsOr_read h.weaken _) fun _ => keepsOr_tryThen (h.check _) fun _ => h.attempt (h.check _)

theorem Stable.requireObservedExactWindowObservationAvailable : KeepsOr F I requireObservedExactWindowObservationAvailable :=
  h.attempt (h.check _)

theorem Stable.requireCurrentUpstreamSessionForEvidence : KeepsOr F I requireCurrentUpstreamSessionForEvidence := by
  refine keepsOr_tryThen (keepsOr_update fun s hs => ?_) fun _ => keepsOr_tryThen (h.asks _) fun due =>
    keepsOr_update fun s hs => ?_
  · by_cases hupstream : s.upstreamSessionState ≠ .active
    · simp only [if_pos hupstream]
      exact h.invalidate s (h.weaken s hs)
    · simp only [if_neg hupstream]
      exact hs
  · by_cases hdue : due
    · simp only [if_pos hdue]
      exact h.invalidate s (h.weaken s hs)
    · simp only [if_neg hdue]
      exact hs

end

section Owners
variable {I : ComputerUseSession → Prop}

/-- The updates with which a session gives its owners up. -/
structure GivesUp (I : ComputerUseSession → Prop) : Prop where
  stable : Stable I I
  source : ∀ s, I s → I s.takeLiveObservation.2
  sourceAnswered : ∀ streamId joined s, I s → I (sourceAnswered streamId joined s)
  keepalive : ∀ s, I s → I { s with recordingKeepalive := false }
  showcase : ∀ s, I s → I s.takeShowcase.2
  recorderAnswered : ∀ recorder answer s, I s → I (recorderAnswered recorder answer s)
  remember : ∀ phase result s, I s → I (rememberFailure phase result s)

variable (h : GivesUp I)
include h

theorem GivesUp.asks {α : Type} (answer : SessionEvent → Option α) : Keeps I (ask answer) := h.stable.awaits answer

theorem GivesUp.stopLiveObservation : Keeps I stopLiveObservation := by
  refine keeps_andThen (keeps_update h.source) fun taken => ?_
  cases taken with
  | none => exact keeps_ret _
  | some observation => exact keeps_andThen (h.asks _) fun joined => keeps_update (h.sourceAnswered _ joined)

theorem GivesUp.stopRecordingKeepalive : Keeps I stopRecordingKeepalive := by
  refine keeps_andThen (keeps_update h.keepalive) fun keepalive => ?_
  cases keepalive with
  | true => exact h.asks _
  | false => exact keeps_ret _

theorem GivesUp.finalizeOwnedRecordingVideo : Keeps I finalizeOwnedRecordingVideo := by
  refine keeps_andThen (keeps_update h.showcase) fun taken => ?_
  cases taken with
  | none => exact keeps_update fun s hs => h.remember .recordingStop (.error _) s hs
  | some showcase =>
    refine keeps_andThen (h.asks _) fun result =>
      keeps_tryThen (keeps_update (h.recorderAnswered _ result)) fun _ => ?_
    by_cases howns : showcase.ownsLiveObservation = true
    · rw [if_pos howns]
      exact keeps_tryThen h.stopLiveObservation fun _ => keeps_read
    · rw [if_neg howns]
      exact keeps_ret _

end Owners

end ComputerUseSession
end DccCua
