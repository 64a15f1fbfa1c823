import DccCua.Theorems.StopRuns

/-! # Every run of a session that records

Over every sequence of starts and stops, with any step failing and any call dropped: what a successful stop
promises, and what no start does once a source or a recorder has left the session without an acknowledgement. -/

namespace DccCua

open Runs Script

namespace ComputerUseSession

open Ledger

variable {platform : SessionPlatform}

/-! ### An open cleanup -/

/-- A cleanup that stays open: what is pending is not held any more, or has failed. -/
def Stuck (s : ComputerUseSession) : Prop :=
  (s.liveObservation = none ∧ s.localCleanup.sourcePending = true) ∨
    (s.showcase = none ∧ s.localCleanup.recorderPending = true) ∨ s.localCleanup.issues ≠ []

theorem stuck_stable : Stable Stuck Stuck := by
  refine .refl (fun event s hs => ?_) (fun _ hs => hs) fun _ hs => hs
  cases event with
  | stream event =>
    refine hs.imp_left fun hsource => ⟨?_, hsource.2⟩
    show s.liveObservation.map _ = none
    rw [hsource.1, Option.map_none]
  | _ => exact hs

theorem stuck_remember {s : ComputerUseSession} (hs : Stuck s) (phase : ComputerUseCleanupPhase) (result : Except ComputerUseError Unit) :
    Stuck (rememberFailure phase result s) := by
  cases result with
  | ok _ => exact hs
  | error error => exact Or.inr (Or.inr (remember_ne _ _ _))

/-- Nothing clears what was pending before the source was taken. -/
theorem stopLiveObservation_stuck : Keeps Stuck stopLiveObservation := by
  refine triple_andThen (R := fun taken s _ => taken.elim (Stuck s)
    fun _ => (s.showcase = none ∧ s.localCleanup.recorderPending = true) ∨ s.localCleanup.issues ≠ [])
    (triple_update fun s _ hs => ?_) fun taken => ?_
  · cases hlive : s.liveObservation with
    | none =>
      have hfst : s.takeLiveObservation.1 = none := hlive
      simp only [hfst, Option.elim_none]
      refine hs.imp_left fun hsource => ⟨rfl, ?_⟩
      simp [takeLiveObservation, hsource.2]
    | some o =>
      have hfst : s.takeLiveObservation.1 = some o := hlive
      simp only [hfst, Option.elim_some]
      rcases hs with ⟨hnone, -⟩ | hs
      · rw [hlive] at hnone
        cases hnone
      · exact hs
  cases taken with
  | none => exact keeps_ret _
  | some o =>
    refine triple_andThen (R := fun _ s _ => (s.showcase = none ∧ s.localCleanup.recorderPending = true) ∨ s.localCleanup.issues ≠ [])
      (triple_await (fun s hs => Or.inr hs) fun event rest s hs => ?_) fun joined => triple_update fun s _ hs => Or.inr ?_
    · cases event <;> exact hs
    · cases joined with
      | true => exact hs
      | false => exact Or.inr (remember_ne _ _ _)

/-- The part of an open cleanup that the end of a recorder leaves alone. -/
def SourceStuck (s : ComputerUseSession) : Prop :=
  (s.liveObservation = none ∧ s.localCleanup.sourcePending = true) ∨ s.localCleanup.issues ≠ []

theorem SourceStuck.stuck {s : ComputerUseSession} (h : SourceStuck s) : Stuck s := h.imp_right Or.inr

theorem sourceStuck_stable : Stable SourceStuck Stuck := by
  refine ⟨fun event s hs => ?_, fun _ hs => hs.stuck, fun _ hs => hs, fun _ hs => hs⟩
  cases event with
  | stream event =>
    refine hs.imp_left fun hsource => ⟨?_, hsource.2⟩
    show s.liveObservation.map _ = none
    rw [hsource.1, Option.map_none]
  | _ => exact hs

theorem SourceStuck.recorderAnswered {s : ComputerUseSession} (h : SourceStuck s) (recorder : Nat) (answer : RecorderAnswer) :
    Stuck (recorderAnswered recorder answer s) := by
  refine stuck_remember ?_ _ _
  exact SourceStuck.stuck h

/-- Nothing clears what was pending before the recorder was taken. -/
theorem finalizeOwnedRecordingVideo_stuck : Keeps Stuck finalizeOwnedRecordingVideo := by
  refine triple_andThen (R := fun taken s _ => Stuck s ∧ (taken.isSome = true → SourceStuck s))
    (triple_update fun s _ hs => ⟨Or.inr (Or.inl ⟨rfl, rfl⟩), fun hsome => ?_⟩) fun taken => ?_
  · rcases hs with hsource | ⟨hnone, -⟩ | hissues
    · exact Or.inl hsource
    · have hfst : s.takeShowcase.1 = none := hnone
      rw [hfst] at hsome
      cases hsome
    · exact Or.inr hissues
  cases taken with
  | none => exact triple_update fun s _ hs => stuck_remember hs.1 _ _
  | some showcase =>
    refine triple_weaken (R := fun s _ => SourceStuck s) (triple_andThen (sourceStuck_stable.awaits _) fun answer => ?_)
      (fun _ _ hs => hs.2 rfl) fun _ _ _ hs => hs
    refine triple_andThen (R := fun _ s _ => Stuck s) (triple_update fun s _ hs => hs.recorderAnswered _ answer) fun updated => ?_
    cases updated with
    | error e => exact keeps_ret _
    | ok u =>
      by_cases howns : showcase.ownsLiveObservation = true
      · simp only [if_pos howns]
        exact keeps_tryThen stopLiveObservation_stuck fun _ => keeps_read
      · simp only [if_neg howns]
        exact keeps_ret _

theorem stopRecordingKeepalive_stuck : Keeps Stuck stopRecordingKeepalive := by
  refine keeps_andThen (keeps_update fun _ hs => hs) fun keepalive => ?_
  cases keepalive with
  | true => exact stuck_stable.awaits _
  | false => exact keeps_ret _

/-! ### Starts over an open cleanup -/

/-- From a state with `P` the program does not succeed, and the cleanup stays open. -/
def Refused {α : Type} (P : ComputerUseSession → Prop) (p : SessionProg α) : Prop :=
  Triple (fun s _ => P s) p (orError (fun _ _ _ => False) fun _ s _ => Stuck s) Stuck

section
variable {P : ComputerUseSession → Prop} {α β : Type}

theorem refused_then {p : SessionProg α} {f : α → SessionProg β} (hp : KeepsOr P Stuck p) (hf : ∀ a, Refused P (f a)) :
    Refused P (p.tryThen f) := triple_tryThen hp hf

theorem refused_first {p : SessionProg α} {f : α → SessionProg β} (hp : Refused P p) : Refused P (p.tryThen f) := by
  refine triple_andThen hp fun result => ?_
  cases result with
  | ok a => exact fun s script hs => hs.elim
  | error e => exact triple_ret fun _ _ hs => hs

theorem Refused.keeps {p : SessionProg α} (h : Refused Stuck p) : Keeps Stuck p := by
  refine triple_weaken h (fun _ _ hs => hs) fun result s rest hs => ?_
  cases result with
  | ok a => exact hs.elim
  | error e => exact hs

end

theorem ensureReusable_refused : Refused Stuck (ensureLocalCleanupReusable platform) := by
  refine triple_read fun s _ hs => ?_
  have hopen : s.localCleanup.pending = true ∨ s.localCleanup.issues ≠ [] := by
    rcases hs with ⟨-, hsource⟩ | ⟨-, hrecorder⟩ | hissues
    · exact Or.inl (by rw [LocalSessionCleanup.pending, hsource, Bool.or_true])
    · exact Or.inl (by rw [LocalSessionCleanup.pending, hrecorder, Bool.true_or])
    · exact Or.inr hissues
  by_cases hlinux : platform = .linux ∧ s.active = false ∧ s.linuxPixels
  · rw [if_pos hlinux]
    exact hs
  · rw [if_neg hlinux, if_pos hopen]
    exact hs

theorem ensureLiveObservation_refused : Refused Stuck (ensureLiveObservation platform) :=
  refused_then (keepsOr_read (fun _ h => h) _) fun _ => refused_then stuck_stable.ensureActive fun _ =>
    refused_then (stuck_stable.check _) fun _ => refused_first ensureReusable_refused

theorem startRecordingTool_stuck : KeepsOr Stuck Stuck (startRecordingTool platform) :=
  keepsOr_tryThen stuck_stable.requireCurrentUpstreamSessionForEvidence fun _ =>
    keepsOr_tryThen (keepsOr_read (fun _ h => h) _) fun _ => stuck_stable.attempt (stuck_stable.asks _)

theorem stopRecordingTool_stuck : Keeps Stuck (stopRecordingTool platform) :=
  (keepsOr_tryThen stuck_stable.requireCurrentUpstreamSessionForEvidence fun _ =>
    keepsOr_tryThen (keepsOr_read (fun _ h => h) _) fun _ => stuck_stable.attempt (stuck_stable.asks _)).keeps

theorem recordingWithVideo_refused : Refused Stuck (recordingStartAfterTargetValidation platform true) := by
  refine refused_then startRecordingTool_stuck fun healthy => refused_then (triple_update fun _ _ hs => hs) fun _ =>
    triple_andThen ensureLiveObservation_refused fun result => ?_
  cases result with
  | ok disposition => exact fun s script hs => hs.elim
  | error error =>
    refine triple_andThen stopRecordingTool_stuck fun _ => ?_
    exact triple_tryThen (R := fun _ s _ => Stuck s) (triple_update fun _ _ hs => hs) fun _ => triple_ret fun _ _ hs => hs

theorem recordingStart_stuck (recordVideo : Bool) : Keeps Stuck (recordingStart platform recordVideo) := by
  refine keeps_tryThen (stuck_stable.check _).keeps fun _ => keeps_tryThen stuck_stable.ensureActive.keeps fun _ =>
    keeps_andThen keeps_read fun native => ?_
  cases native with
  | true => exact (refused_first ensureReusable_refused).keeps
  | false =>
    refine keeps_tryThen stuck_stable.requireObservedTargetAvailable.keeps fun _ => keeps_tryThen keeps_read fun _ => ?_
    cases recordVideo with
    | true => exact recordingWithVideo_refused.keeps
    | false =>
      exact keeps_tryThen startRecordingTool_stuck.keeps fun _ => keeps_tryThen (keeps_update fun _ hs => hs) fun _ =>
        keeps_update fun _ hs => hs

theorem onlyWhen_stuck (c : Bool) {p : SessionProg Unit} (hp : Keeps Stuck p) : Keeps Stuck (onlyWhen c p) := by
  cases c with
  | true => exact hp
  | false => exact keeps_ret _

theorem stopRecorder_stuck : Keeps Stuck stopRecorder := by
  refine keeps_andThen (keeps_update fun s hs => ?_) fun taken => ?_
  · unfold takeRecorder
    cases hshowcase : s.showcase with
    | none => exact hs
    | some showcase => exact hs.imp_right fun h => h.imp_left fun hrecorder => ⟨rfl, hrecorder.2⟩
  · cases taken with
    | none => exact keeps_ret _
    | some showcase =>
      exact keeps_andThen (stuck_stable.awaits _) fun answer => keeps_tryThen (keeps_update fun _ hs => hs) fun _ =>
        keeps_tryThen (onlyWhen_stuck _ stopLiveObservation_stuck) fun _ => keeps_ret _

theorem recordingStop_stuck : Keeps Stuck (recordingStop platform) := by
  refine keeps_andThen keeps_read fun native => ?_
  cases native with
  | true =>
    exact keeps_tryThen keeps_read fun _ => keeps_tryThen stopRecordingKeepalive_stuck fun _ => finalizeOwnedRecordingVideo_stuck
  | false =>
    refine keeps_tryThen stuck_stable.ensureActive.keeps fun _ => keeps_tryThen keeps_read fun _ =>
      keeps_tryThen stopRecordingKeepalive_stuck fun _ => keeps_andThen stopRecorder_stuck fun video =>
      keeps_andThen (keeps_tryThen (stuck_stable.asks _).keeps fun owned => ?_) fun trajectory =>
      keeps_tryThen (keeps_update fun _ hs => hs) fun _ => keeps_tryThen (keeps_ret _) fun _ => keeps_ret _
    cases owned with
    | true => exact (stuck_stable.asks _).keeps
    | false => exact keeps_ret _

theorem drainLinuxPixels_stuck : Keeps Stuck drainLinuxPixels := by
  refine keeps_andThen keeps_read fun owned => ?_
  cases owned with
  | true => exact keeps_andThen (stuck_stable.awaits _) fun result => keeps_update fun s hs => stuck_remember (s := s) hs _ result
  | false => exact keeps_ret _

theorem invalidateLocalSession_stuck : Keeps Stuck (invalidateLocalSession platform) := by
  refine keeps_tryThen (keeps_update fun _ hs => hs) fun _ => keeps_tryThen ?_ fun _ => keeps_tryThen (keeps_update fun _ hs => hs)
    fun _ => keeps_tryThen stopRecordingKeepalive_stuck fun _ => keeps_andThen keeps_read fun owned =>
    keeps_andThen ?_ fun _ => stopLiveObservation_stuck
  · split
    · exact drainLinuxPixels_stuck
    · exact keeps_ret _
  · cases owned with
    | true => exact finalizeOwnedRecordingVideo_stuck
    | false => exact keeps_ret _

theorem endUpstreamSession_stuck : Keeps Stuck endUpstreamSession :=
  keeps_andThen keeps_read fun _ => onlyWhen_stuck _ (keeps_andThen (stuck_stable.awaits _) fun _ => keeps_update fun _ hs => hs)

theorem stop_stuck : Keeps Stuck (stop platform) := by
  refine keeps_andThen keeps_read fun recording => keeps_tryThen (onlyWhen_stuck _ ?_) fun _ =>
    keeps_tryThen stopLiveObservation_stuck fun _ => keeps_andThen keeps_read fun active => ?_
  · exact keeps_andThen recordingStop_stuck fun result => keeps_update fun s hs => stuck_remember hs _ result
  cases active with
  | false => exact keeps_andThen invalidateLocalSession_stuck fun _ => keeps_read
  | true =>
    exact keeps_andThen endUpstreamSession_stuck fun result => keeps_andThen invalidateLocalSession_stuck fun _ =>
      keeps_tryThen (keeps_ret _) fun _ => keeps_read

/-! ### Runs -/

theorem stop_state (platform : SessionPlatform) (s : ComputerUseSession) (script : List SessionEvent) :
    (s.runRecording platform script .stop).2 = (stop platform s script).state := by
  unfold runRecording
  cases hrun : ComputerUseSession.stop platform s script with
  | cut s' => rfl
  | done result s' rest => cases result <;> rfl

theorem Stuck.run {s : ComputerUseSession} (hs : Stuck s) (input : RecordingOperation × List SessionEvent) :
    Stuck ((recordingMachine platform).step s input).2 := by
  obtain ⟨operation, script⟩ := input
  cases operation with
  | recordingStart recordVideo => exact (recordingStart_stuck recordVideo).state hs script
  | recordingStop => exact recordingStop_stuck.state hs script
  | startLiveObservation => exact ensureLiveObservation_refused.keeps.state hs script
  | stopLiveObservation => exact stopLiveObservation_stuck.state hs script
  | stop =>
    show Stuck (s.runRecording platform script .stop).2
    rw [stop_state]
    exact stop_stuck.state hs script
  | passes event => exact stuck_stable.observe event s hs

/-- A source or a recorder has left the session and has not acknowledged its end. -/
def Unacknowledged (s : ComputerUseSession) : Prop :=
  (∃ streamId, .sourceAttached streamId ∈ s.history.moments ∧ .sourceStopped streamId true ∉ s.history.moments ∧
    s.liveObservation.map LiveObservation.streamId ≠ some streamId) ∨
  ∃ recorder, .recorderOwned recorder ∈ s.history.moments ∧ .recorderTaken recorder ∉ s.history.moments ∧
    .recorderStopped recorder true ∉ s.history.moments ∧ s.showcase.map ActiveShowcase.recorder ≠ some recorder

theorem Refused.never {α : Type} {P : ComputerUseSession → Prop} {p : SessionProg α} (h : Refused P p) {s : ComputerUseSession}
    (hs : P s) (a : α) (script rest : List SessionEvent) (s' : ComputerUseSession) : p s script ≠ .done (.ok a) s' rest := by
  intro hrun
  have hran := h s script hs
  rw [hrun] at hran
  exact hran

theorem Unacknowledged.stuck {s : ComputerUseSession} (h : Unacknowledged s) (haccounted : Accounted (s.ledger platform)) : Stuck s := by
  rcases h with ⟨i, hattached, hstopped, hheld⟩ | ⟨r, howned, htaken, hstopped, hheld⟩
  · rcases haccounted.sources i ⟨hattached, hstopped⟩ with hsource | hpending | hissues
    · exact absurd hsource hheld
    · refine Or.inl ⟨by_contra fun hlive => ?_, hpending⟩
      have hsettled := haccounted.source (by simpa [ledger] using hlive)
      rw [hpending] at hsettled
      cases hsettled
    · exact Or.inr (Or.inr hissues)
  · rcases haccounted.recorders r ⟨howned, htaken, hstopped⟩ with hrecorder | hpending | hissues
    · exact absurd hrecorder hheld
    · refine Or.inr (Or.inl ⟨by_contra fun hshowcase => ?_, hpending⟩)
      have hsettled := haccounted.recorder (by simpa [ledger] using hshowcase)
      rw [hpending] at hsettled
      cases hsettled
    · exact Or.inr (Or.inr hissues)

end ComputerUseSession
end DccCua
