import DccCua.Theorems.LiveObservation
import DccCua.Theorems.SessionChecks

/-! # The fences of a session

A live screenshot has to be past the latest frame of its stream at the end of each earlier action attempt and at
each earlier invalidation. A session knows, for each of these moments on its stream, that the stream is past it,
or holds a fence that the next screenshot waits for. -/

namespace DccCua

open Runs Script

/-- The latest frame at a moment that later screenshots have to be past. -/
def Moment.boundary : Moment → Option LiveObservationFence
  | .attempted latest | .invalidated latest => latest
  | _ => none

/-- `b` is no screenshot of the stream of `a` that shows a frame from before `a`. -/
def Fresh (a b : Moment) : Prop :=
  ∀ fence sequence, a.boundary = some fence → b = .published fence.streamId sequence → fence.sequence < sequence

namespace LiveObservation

/-- The stream is at frame `n` or has ended. -/
def Reached (o : LiveObservation) (n : Nat) : Prop :=
  o.status.terminalReason ≠ none ∨ ∃ frame, o.status.latest = some frame ∧ n ≤ frame.sequence

/-- The stream is past frame `n` or has ended. -/
abbrev Past (o : LiveObservation) (n : Nat) : Prop := o.Reached (n + 1)

theorem Reached.mono {o : LiveObservation} {m n : Nat} (h : o.Reached n) (hle : m ≤ n) : o.Reached m := by
  rcases h with h | ⟨frame, hframe, hn⟩
  · exact Or.inl h
  · exact Or.inr ⟨frame, hframe, Nat.le_trans hle hn⟩

theorem Reached.call {o : LiveObservation} {n : Nat} (h : o.Reached n) (call : LiveObservationCall) :
    (o.observe (.call call)).Reached n := by
  have he := LiveObservationStatus.step_effect o.status call
  rcases h with h | ⟨frame, hframe, hn⟩
  · exact Or.inl (he.terminal_stays h).1
  · cases he with
    | published newer _ _ hnewer latest _ _ =>
      exact Or.inr ⟨newer, latest, Nat.le_trans hn (Nat.le_of_lt (hnewer frame hframe))⟩
    | same _ latest _ _ _ => exact Or.inr ⟨frame, latest.trans hframe, hn⟩
    | paused _ _ latest _ _ _ => exact Or.inr ⟨frame, latest.trans hframe, hn⟩
    | terminal _ _ _ terminal => exact Or.inl terminal

theorem revoke_terminal (status : LiveObservationStatus) : (revoke status).terminalReason ≠ none := by
  simp [revoke, LiveObservationStatus.recordTerminal, LiveObservationStatus.pauseCaptureError]

theorem terminal_observe {o : LiveObservation} (h : o.status.terminalReason ≠ none) (event : StreamEvent) :
    (o.observe event).status.terminalReason ≠ none := by
  cases event with
  | call call => exact ((LiveObservationStatus.step_effect o.status call).terminal_stays h).1
  | authorizationRevoked => exact revoke_terminal o.status
  | finished => exact h

theorem Reached.observe {o : LiveObservation} {n : Nat} (h : o.Reached n) (event : StreamEvent) :
    (o.observe event).Reached n := by
  cases event with
  | call call => exact h.call call
  | authorizationRevoked => exact Or.inl (revoke_terminal o.status)
  | finished => exact h

@[simp] theorem observe_streamId (o : LiveObservation) (event : StreamEvent) : (o.observe event).streamId = o.streamId := by
  cases event <;> rfl

/-- A look that finds a frame finds the latest one, past what it waits for. -/
theorem frameAfter_ok {after : Option Nat} {status : LiveObservationStatus} {frame : LiveObservationFrame}
    (h : frameAfter after status = some (.ok frame)) :
    status.terminalReason = none ∧ status.latest = some frame ∧ ∀ sequence, after = some sequence → sequence < frame.sequence := by
  unfold frameAfter at h
  split at h
  · cases h
  · rename_i hreason
    rw [Option.or_eq_none_iff, Option.map_eq_none_iff] at hreason
    obtain ⟨latest, hlatest, hframe⟩ := Option.map_eq_some_iff.mp h
    obtain ⟨hlatest, hafter⟩ := Option.filter_eq_some_iff.mp hlatest
    cases hframe
    refine ⟨hreason.1, hlatest, ?_⟩
    rintro sequence rfl
    simpa using hafter

end LiveObservation

namespace ComputerUseSession

open LiveObservation

/-- A fence that the next screenshot of the stream waits for covers `n`. -/
def Covered (s : ComputerUseSession) (o : LiveObservation) (n : Nat) : Prop :=
  o.Past n ∨ s.observationTransitionLiveSequenceFence ≠ none ∨
    ∃ fence, s.postActionLiveSequenceFence = some fence ∧ fence.streamId = o.streamId ∧ n ≤ fence.sequence

/-- The moments on the stream `o` that screenshots have to be past. -/
def Boundary (s : ComputerUseSession) (o : LiveObservation) (n : Nat) : Prop :=
  ∃ moment ∈ s.history.moments, moment.boundary = some ⟨o.streamId, n⟩

structure Known (s : ComputerUseSession) (o : LiveObservation) : Prop where
  opened : o.Reached 0
  reached : ∀ n, s.Boundary o n → o.Reached n
  covered : ∀ n, s.Boundary o n → s.Covered o n

structure Fenced (s : ComputerUseSession) : Prop where
  fresh : s.history.moments.Pairwise Fresh
  old : ∀ moment ∈ s.history.moments, ∀ fence, moment.boundary = some fence → fence.streamId < s.nextStreamId
  issued : ∀ o, s.liveObservation = some o → o.streamId < s.nextStreamId
  known : s.active = true → ∀ o, s.liveObservation = some o → s.Known o

/-- A fence stands, unless the session or its stream has ended. -/
def Guarded (s : ComputerUseSession) : Prop :=
  s.active = true → ∀ o, s.liveObservation = some o →
    o.status.terminalReason ≠ none ∨ s.observationTransitionLiveSequenceFence ≠ none

/-! ### Steps -/

theorem Fenced.congr {s t : ComputerUseSession} (h : Fenced s) (moments : t.history.moments = s.history.moments)
    (next : s.nextStreamId ≤ t.nextStreamId) (live : t.liveObservation = s.liveObservation)
    (active : t.active = true → s.active = true)
    (transition : t.observationTransitionLiveSequenceFence = s.observationTransitionLiveSequenceFence)
    (post : t.postActionLiveSequenceFence = s.postActionLiveSequenceFence) : Fenced t := by
  refine ⟨moments ▸ h.fresh, fun m hm fence hfence => ?_, fun o ho => ?_, fun hactive o ho => ?_⟩
  · exact Nat.lt_of_lt_of_le (h.old m (moments ▸ hm) fence hfence) next
  · exact Nat.lt_of_lt_of_le (h.issued o (live ▸ ho)) next
  · have hknown := h.known (active hactive) o (live ▸ ho)
    refine ⟨hknown.opened, fun n hn => hknown.reached n ?_, fun n hn => ?_⟩
    · unfold Boundary at hn
      rwa [moments] at hn
    · unfold Boundary at hn
      rw [moments] at hn
      have hcovered := hknown.covered n hn
      unfold Covered at hcovered ⊢
      rwa [transition, post]

theorem Fenced.observe {s : ComputerUseSession} (h : Fenced s) (event : SessionEvent) : Fenced (s.observe event) := by
  cases event with
  | stream event =>
    refine ⟨h.fresh, h.old, fun o ho => ?_, fun hactive o ho => ?_⟩
    · obtain ⟨old, hold, rfl⟩ := Option.map_eq_some_iff.mp ho
      rw [observe_streamId]
      exact h.issued old hold
    · obtain ⟨old, hold, rfl⟩ := Option.map_eq_some_iff.mp ho
      have hknown := h.known hactive old hold
      refine ⟨hknown.opened.observe event, fun n hn => ?_, fun n hn => ?_⟩
      · unfold Boundary at hn
        rw [observe_streamId] at hn
        exact (hknown.reached n hn).observe event
      · unfold Boundary at hn
        rw [observe_streamId] at hn
        rcases hknown.covered n hn with hpast | hfence | ⟨fence, hpost, hid, hle⟩
        · exact Or.inl (hpast.observe event)
        · exact Or.inr (Or.inl hfence)
        · exact Or.inr (Or.inr ⟨fence, hpost, hid.trans (observe_streamId old event).symm, hle⟩)
  | otherStream =>
    refine ⟨h.fresh, fun moment hmem fence hfence => ?_, fun o ho => ?_, fun hactive o ho => ?_⟩
    · exact Nat.lt_succ_of_lt (h.old moment hmem fence hfence)
    · exact Nat.lt_succ_of_lt (h.issued o ho)
    · exact ⟨(h.known hactive o ho).opened, (h.known hactive o ho).reached, (h.known hactive o ho).covered⟩
  | _ => exact h

theorem latestFence_eq {s : ComputerUseSession} {o : LiveObservation} (h : s.liveObservation = some o) :
    s.latestFence = o.latestFence := by
  rw [latestFence, h, Option.bind_some]

/-- The latest frame of a stream bounds what the stream has reached. -/
theorem reached_latest {o : LiveObservation} {fence : LiveObservationFence} (h : o.latestFence = some fence) :
    fence.streamId = o.streamId ∧ o.Reached fence.sequence := by
  obtain ⟨frame, hframe, rfl⟩ := Option.map_eq_some_iff.mp h
  exact ⟨rfl, Or.inr ⟨frame, hframe, Nat.le_refl _⟩⟩

theorem latestFence_some {s : ComputerUseSession} {fence : LiveObservationFence} (h : s.latestFence = some fence) :
    ∃ o, s.liveObservation = some o ∧ fence.streamId = o.streamId ∧ o.Reached fence.sequence := by
  obtain ⟨o, ho, hfence⟩ := Option.bind_eq_some_iff.mp h
  exact ⟨o, ho, reached_latest hfence⟩

/-- A moment with the latest frame joins the history; the fences after it cover every moment. -/
theorem Fenced.extend {s t : ComputerUseSession} (h : Fenced s) (moment : Moment)
    (moments : t.history.moments = s.history.moments ++ [moment]) (hpublished : ∀ id n, moment ≠ .published id n)
    (hlatest : ∀ fence, moment.boundary = some fence → s.latestFence = some fence)
    (next : s.nextStreamId ≤ t.nextStreamId) (live : t.liveObservation = s.liveObservation)
    (active : t.active = true → s.active = true)
    (covered : t.active = true → ∀ o, s.liveObservation = some o → ∀ n, t.Boundary o n → o.Reached n → t.Covered o n) :
    Fenced t := by
  have hreached : t.active = true → ∀ o, s.liveObservation = some o → ∀ n, t.Boundary o n → o.Reached n := by
    rintro hactive o ho n ⟨m, hm, hn⟩
    rw [moments, List.mem_append, List.mem_singleton] at hm
    rcases hm with hm | rfl
    · exact (h.known (active hactive) o ho).reached n ⟨m, hm, hn⟩
    · obtain ⟨o', ho', -, hn'⟩ := latestFence_some (hlatest _ hn)
      rw [ho, Option.some.injEq] at ho'
      exact ho' ▸ hn'
  refine ⟨?_, fun m hm fence hfence => ?_, fun o ho => ?_, fun hactive o ho => ?_⟩
  · rw [moments, List.pairwise_append]
    refine ⟨h.fresh, List.pairwise_singleton _ _, fun a _ b hb fence sequence _ hpub => ?_⟩
    rw [List.mem_singleton] at hb
    exact absurd (hb ▸ hpub) (hpublished _ _)
  · rw [moments, List.mem_append, List.mem_singleton] at hm
    refine Nat.lt_of_lt_of_le ?_ next
    rcases hm with hm | rfl
    · exact h.old m hm fence hfence
    · obtain ⟨o, ho, hid, -⟩ := latestFence_some (hlatest fence hfence)
      exact hid ▸ h.issued o ho
  · exact Nat.lt_of_lt_of_le (h.issued o (live ▸ ho)) next
  · rw [live] at ho
    have hr := hreached hactive o ho
    exact ⟨(h.known (active hactive) o ho).opened, hr, fun n hn => covered hactive o ho n hn (hr n hn)⟩

/-- A moment that no screenshot has to be past. -/
theorem Fenced.note {s t : ComputerUseSession} (h : Fenced s) (moment : Moment)
    (moments : t.history.moments = s.history.moments ++ [moment]) (hpublished : ∀ id n, moment ≠ .published id n)
    (hboundary : moment.boundary = none) (next : s.nextStreamId ≤ t.nextStreamId)
    (live : t.liveObservation = s.liveObservation) (active : t.active = true → s.active = true)
    (transition : t.observationTransitionLiveSequenceFence = s.observationTransitionLiveSequenceFence)
    (post : t.postActionLiveSequenceFence = s.postActionLiveSequenceFence) : Fenced t := by
  refine h.extend moment moments hpublished (fun fence hfence => ?_) next live active fun hactive o ho n hn _ => ?_
  · rw [hboundary] at hfence
    cases hfence
  · obtain ⟨m, hm, hn⟩ := hn
    rw [moments, List.mem_append, List.mem_singleton] at hm
    rcases hm with hm | rfl
    · have hcovered := (h.known (active hactive) o ho).covered n ⟨m, hm, hn⟩
      unfold Covered at hcovered ⊢
      rwa [transition, post]
    · rw [hboundary] at hn
      cases hn

/-- Without a latest frame a stream that was opened has ended. -/
theorem reached_fence {s : ComputerUseSession} {o : LiveObservation} {n : Nat} (ho : s.liveObservation = some o)
    (h : o.Reached n) : o.status.terminalReason ≠ none ∨ ∃ m, s.latestFence = some ⟨o.streamId, m⟩ ∧ n ≤ m := by
  rcases h with h | ⟨frame, hframe, hn⟩
  · exact Or.inl h
  · refine Or.inr ⟨frame.sequence, ?_, hn⟩
    rw [latestFence_eq ho, LiveObservation.latestFence, hframe, Option.map_some]

theorem invalidate_guarded {s : ComputerUseSession} (h : Fenced s) : Guarded s.invalidateActionObservations := by
  intro hactive o ho
  rcases reached_fence (s := s) ho (h.known hactive o ho).opened with hterminal | ⟨m, hm, -⟩
  · exact Or.inl hterminal
  · refine Or.inr ?_
    simp [invalidateActionObservations, hm]

theorem Fenced.invalidate {s : ComputerUseSession} (h : Fenced s) : Fenced s.invalidateActionObservations := by
  refine h.extend (.invalidated s.latestFence) rfl (fun _ _ => Moment.noConfusion) (fun _ hb => hb)
    (Nat.le_refl _) rfl (fun ha => ha) fun hactive o ho n _ _ => ?_
  rcases invalidate_guarded h hactive o ho with hterminal | hfence
  · exact Or.inl (Or.inl hterminal)
  · exact Or.inr (Or.inl hfence)

theorem Fenced.lost {s : ComputerUseSession} (h : Fenced s) : Fenced s.loseTarget :=
  h.note .targetLost rfl (fun _ _ => Moment.noConfusion) rfl (Nat.le_refl _) rfl (fun ha => ha) rfl rfl

theorem stableFenced : Stable Fenced Fenced :=
  .refl (fun event _ h => h.observe event) (fun _ h => h.lost) fun _ h => h.invalidate

/-! ### The end of a session -/

/-- A session that has lost its capability: no screenshot of it follows. -/
structure Ended (s : ComputerUseSession) : Prop where
  fenced : Fenced s
  inactive : s.active = false

theorem stableEnded : Stable Ended Ended := by
  refine .refl (fun event s h => ⟨h.fenced.observe event, ?_⟩) (fun _ h => ⟨h.fenced.lost, h.inactive⟩)
    fun _ h => ⟨h.fenced.invalidate, h.inactive⟩
  have hsame : (s.observe event).active = s.active := by cases event <;> rfl
  exact hsame.trans h.inactive

theorem Fenced.closed {s t : ComputerUseSession} (h : Fenced s) (moments : t.history.moments = s.history.moments)
    (next : t.nextStreamId = s.nextStreamId) (live : t.liveObservation = none) : Fenced t := by
  refine ⟨moments ▸ h.fresh, ?_, fun o ho => ?_, fun _ o ho => ?_⟩
  · rw [moments, next]
    exact h.old
  · rw [live] at ho
    cases ho
  · rw [live] at ho
    cases ho

theorem Fenced.rememberFailure {s : ComputerUseSession} (h : Fenced s) (phase : ComputerUseCleanupPhase)
    (result : Except ComputerUseError Unit) : Fenced (rememberFailure phase result s) := by
  cases result with
  | ok _ => exact h
  | error error => exact h.congr rfl (Nat.le_refl _) rfl (fun ha => ha) rfl rfl

theorem Fenced.sourceAnswered {s : ComputerUseSession} (h : Fenced s) (streamId : Nat) (joined : Bool) :
    Fenced (sourceAnswered streamId joined s) :=
  h.note (.sourceStopped streamId joined) rfl (fun _ _ => Moment.noConfusion) rfl (Nat.le_refl _) rfl
    (fun ha => ha) rfl rfl

theorem Fenced.recorderAnswered {s : ComputerUseSession} (h : Fenced s) (recorder : Nat)
    (answer : RecorderAnswer) : Fenced (recorderAnswered recorder answer s) := by
  refine Fenced.rememberFailure ?_ .recordingStop answer.result
  exact h.note (t := { s.record (.recorderStopped recorder answer.acknowledged) with
      localCleanup := { s.localCleanup with recorderPending := false } })
    _ rfl (fun _ _ => Moment.noConfusion) rfl (Nat.le_refl _) rfl (fun ha => ha) rfl rfl

theorem givesUpFenced : GivesUp Fenced where
  stable := stableFenced
  source _ h := h.closed rfl rfl rfl
  sourceAnswered streamId joined _ h := h.sourceAnswered streamId joined
  keepalive _ h := h.congr rfl (Nat.le_refl _) rfl (fun ha => ha) rfl rfl
  showcase _ h := h.congr rfl (Nat.le_refl _) rfl (fun ha => ha) rfl rfl
  recorderAnswered recorder answer _ h := h.recorderAnswered recorder answer
  remember phase result _ h := h.rememberFailure phase result

theorem givesUpEnded : GivesUp Ended where
  stable := stableEnded
  source s h := ⟨givesUpFenced.source s h.fenced, h.inactive⟩
  sourceAnswered streamId joined _ h := ⟨h.fenced.sourceAnswered streamId joined, h.inactive⟩
  keepalive s h := ⟨givesUpFenced.keepalive s h.fenced, h.inactive⟩
  showcase s h := ⟨givesUpFenced.showcase s h.fenced, h.inactive⟩
  recorderAnswered recorder answer s h := by
    refine ⟨h.fenced.recorderAnswered recorder answer, ?_⟩
    unfold ComputerUseSession.recorderAnswered
    cases answer.result <;> exact h.inactive
  remember phase result s h := by
    refine ⟨h.fenced.rememberFailure phase result, ?_⟩
    cases result <;> exact h.inactive

theorem Fenced.revokeSession {s : ComputerUseSession} (h : Fenced s) : Ended s.revokeSession :=
  ⟨h.congr rfl (Nat.le_refl _) rfl (fun ha => (by cases ha)) rfl rfl, rfl⟩

/-- The fences are dropped, but no screenshot follows. -/
theorem Ended.revokeEvidence {s : ComputerUseSession} (h : Ended s) : Ended s.revokeEvidence := by
  refine ⟨?_, h.inactive⟩
  have hroute : Fenced { s with pixelObservationRoute := none, target := none } :=
    h.fenced.congr rfl (Nat.le_refl _) rfl (fun ha => ha) rfl rfl
  exact ⟨hroute.invalidate.fresh, hroute.invalidate.old, hroute.invalidate.issued, fun hactive => by
    exact absurd (hactive.symm.trans h.inactive) (by decide)⟩

theorem invalidateLocalSession_ends (platform : SessionPlatform) :
    Triple (fun s _ => Fenced s) (invalidateLocalSession platform) (fun _ s _ => Ended s) Ended := by
  refine triple_tryThen (R := fun _ s _ => Ended s) (triple_update fun _ _ hs => hs.revokeSession) fun _ => ?_
  refine keeps_tryThen ?_ fun _ => keeps_tryThen (keeps_update fun _ hs => hs.revokeEvidence) fun _ =>
    keeps_tryThen givesUpEnded.stopRecordingKeepalive fun _ => keeps_andThen keeps_read fun owned =>
    keeps_andThen ?_ fun _ => givesUpEnded.stopLiveObservation
  · split
    · refine keeps_andThen keeps_read fun owned => ?_
      split
      · refine keeps_andThen (givesUpEnded.asks _) fun result => keeps_update fun s hs => ?_
        have hnext := givesUpEnded.remember .liveObservationStop result s hs
        exact ⟨hnext.fenced.congr rfl (Nat.le_refl _) rfl (fun ha => ha) rfl rfl, hnext.inactive⟩
      · exact keeps_ret _
    · exact keeps_ret _
  · split
    · exact givesUpEnded.finalizeOwnedRecordingVideo
    · exact keeps_ret _

end ComputerUseSession
end DccCua
