import DccCua.Core.Recording
import DccCua.Theorems.SessionChecks

/-! # What a session still owes

The ledger of a session: its history, the source and the recorder that it holds, and its cleanup. It is
accounted for when each source that was handed to the session and each recorder that it took on has
acknowledged its end, or is still held, or keeps the cleanup from passing. -/

namespace DccCua

open Runs Script

structure Ledger where
  moments : List Moment
  source : Option Nat
  recorder : Option Nat
  cleanup : LocalSessionCleanup
  recordingActive : Bool
  native : Bool
  active : Bool
  upstream : Bool
  targeted : Bool

namespace Ledger

def note (l : Ledger) (moment : Moment) : Ledger := { l with moments := l.moments ++ [moment] }

/-- What the calls about sources leave alone. -/
def frame (l : Ledger) : Option Nat × Bool × Bool := (l.recorder, l.recordingActive, l.native)

/-- The upstream session was asked to end, or its window is gone. -/
def Settled (l : Ledger) : Prop := (∃ acknowledged, .upstreamEnded acknowledged ∈ l.moments) ∨ .targetLost ∈ l.moments

/-- The cleanup keeps the sources from passing. -/
def SourceOpen (l : Ledger) : Prop := l.cleanup.sourcePending = true ∨ l.cleanup.issues ≠ []

def RecorderOpen (l : Ledger) : Prop := l.cleanup.recorderPending = true ∨ l.cleanup.issues ≠ []

/-- A source that was handed over and has not acknowledged its end. -/
def SourceOwed (l : Ledger) (streamId : Nat) : Prop :=
  .sourceAttached streamId ∈ l.moments ∧ .sourceStopped streamId true ∉ l.moments

/-- A recorder of the session that has not acknowledged its end; the trajectory route took none of these away. -/
def RecorderOwed (l : Ledger) (recorder : Nat) : Prop :=
  .recorderOwned recorder ∈ l.moments ∧ .recorderTaken recorder ∉ l.moments ∧ .recorderStopped recorder true ∉ l.moments

structure Accounted (l : Ledger) : Prop where
  sources : ∀ i, l.SourceOwed i → l.source = some i ∨ l.SourceOpen
  recorders : ∀ r, l.RecorderOwed r → l.recorder = some r ∨ l.RecorderOpen
  source : l.source ≠ none → l.cleanup.sourcePending = false
  recorder : l.recorder ≠ none → l.cleanup.recorderPending = false
  recording : l.recorder ≠ none → l.recordingActive = true ∨ l.active = false ∨ l.native = true
  upstream : .upstreamStarted ∈ l.moments → l.Settled ∨ (l.active = true ∧ l.upstream = true ∧ l.targeted = true)

/-- A moment that takes on nothing. -/
def Harmless : Moment → Prop
  | .sourceAttached _ | .recorderOwned _ | .upstreamStarted => False
  | _ => True

theorem mem_note {l : Ledger} {moment m : Moment} : m ∈ (l.note moment).moments ↔ m ∈ l.moments ∨ m = moment := by
  rw [note, List.mem_append, List.mem_singleton]

theorem Settled.note {l : Ledger} (h : l.Settled) (moment : Moment) : (l.note moment).Settled := by
  rcases h with ⟨b, h⟩ | h
  · exact Or.inl ⟨b, mem_note.mpr (Or.inl h)⟩
  · exact Or.inr (mem_note.mpr (Or.inl h))

theorem SourceOwed.of_note {l : Ledger} (moment : Moment) {i : Nat} (hm : Harmless moment) (h : (l.note moment).SourceOwed i) :
    l.SourceOwed i := by
  refine ⟨(mem_note.mp h.1).resolve_right ?_, fun hstopped => h.2 (mem_note.mpr (Or.inl hstopped))⟩
  rintro rfl
  exact hm

theorem RecorderOwed.of_note {l : Ledger} (moment : Moment) {r : Nat} (hm : Harmless moment) (h : (l.note moment).RecorderOwed r) :
    l.RecorderOwed r := by
  refine ⟨(mem_note.mp h.1).resolve_right ?_, fun htaken => h.2.1 (mem_note.mpr (Or.inl htaken)),
    fun hstopped => h.2.2 (mem_note.mpr (Or.inl hstopped))⟩
  rintro rfl
  exact hm

theorem started_of_note {l : Ledger} (moment : Moment) (hm : Harmless moment) (h : .upstreamStarted ∈ (l.note moment).moments) :
    .upstreamStarted ∈ l.moments := by
  refine (mem_note.mp h).resolve_right ?_
  rintro rfl
  exact hm

theorem Accounted.note {l : Ledger} (h : Accounted l) (moment : Moment) (hm : Harmless moment) : Accounted (l.note moment) where
  sources i hi := h.sources i (hi.of_note _ hm)
  recorders r hr := h.recorders r (hr.of_note _ hm)
  source := h.source
  recorder := h.recorder
  recording := h.recording
  upstream hs := (h.upstream (started_of_note _ hm hs)).imp_left fun hsettled => hsettled.note moment

def lose (l : Ledger) : Ledger := { l.note .targetLost with targeted := false }

theorem Accounted.lose {l : Ledger} (h : Accounted l) : Accounted l.lose where
  sources := (h.note .targetLost trivial).sources
  recorders := (h.note .targetLost trivial).recorders
  source := h.source
  recorder := h.recorder
  recording := h.recording
  upstream _ := Or.inl (Or.inr (mem_note.mpr (Or.inr rfl)))

/-! ### Sources -/

/-- Only the source `i` that is being stopped is owed without an issue. -/
structure StoppingSource (i : Nat) (l : Ledger) : Prop where
  accounted : Accounted l
  taken : l.source = none
  others : ∀ j, l.SourceOwed j → j = i ∨ l.cleanup.issues ≠ []

theorem StoppingSource.note {i : Nat} {l : Ledger} (h : StoppingSource i l) (moment : Moment) (hm : Harmless moment) :
    StoppingSource i (l.note moment) := ⟨h.accounted.note _ hm, h.taken, fun j hj => h.others j (hj.of_note _ hm)⟩

theorem StoppingSource.lose {i : Nat} {l : Ledger} (h : StoppingSource i l) : StoppingSource i l.lose :=
  ⟨h.accounted.lose, h.taken, (h.note .targetLost trivial).others⟩

theorem remember_ne (c : LocalSessionCleanup) (phase : ComputerUseCleanupPhase) (error : ComputerUseError) :
    (c.remember phase error).issues ≠ [] := by
  unfold LocalSessionCleanup.remember
  split
  · rename_i hmem
    exact List.ne_nil_of_mem hmem
  · simp

theorem remember_pending (c : LocalSessionCleanup) (phase : ComputerUseCleanupPhase) (error : ComputerUseError) :
    (c.remember phase error).sourcePending = c.sourcePending ∧ (c.remember phase error).recorderPending = c.recorderPending := by
  unfold LocalSessionCleanup.remember
  split <;> exact ⟨rfl, rfl⟩

def remember (l : Ledger) (phase : ComputerUseCleanupPhase) (error : ComputerUseError) : Ledger :=
  { l with cleanup := l.cleanup.remember phase error }

/-- With an issue remembered nothing passes. -/
theorem Accounted.remember {l : Ledger} (h : Accounted l) (phase : ComputerUseCleanupPhase) (error : ComputerUseError) :
    Accounted (l.remember phase error) where
  sources _ _ := Or.inr (Or.inr (remember_ne _ _ _))
  recorders _ _ := Or.inr (Or.inr (remember_ne _ _ _))
  source hs := (remember_pending _ _ _).1.trans (h.source hs)
  recorder hr := (remember_pending _ _ _).2.trans (h.recorder hr)
  recording := h.recording
  upstream := h.upstream

def sourceAnswered (l : Ledger) (i : Nat) (joined : Bool) (error : ComputerUseError) : Ledger :=
  let l := { l.note (.sourceStopped i joined) with cleanup := { l.cleanup with sourcePending := !joined } }
  if joined then l else l.remember .liveObservationStop error

theorem StoppingSource.answered {i : Nat} {l : Ledger} (h : StoppingSource i l) (joined : Bool) (error : ComputerUseError) :
    Accounted (l.sourceAnswered i joined error) ∧ (l.sourceAnswered i joined error).source = none := by
  have hnote := h.accounted.note (.sourceStopped i joined) trivial
  cases joined with
  | true =>
    refine ⟨⟨fun j hj => ?_, hnote.recorders, fun hsource => absurd h.taken hsource, hnote.recorder, hnote.recording,
      hnote.upstream⟩, h.taken⟩
    rcases h.others j (SourceOwed.of_note (l := l) (.sourceStopped i true) trivial hj) with rfl | hissues
    · exact absurd (mem_note.mpr (Or.inr rfl)) hj.2
    · exact Or.inr (Or.inr hissues)
  | false =>
    have hbase : Accounted { l.note (.sourceStopped i false) with cleanup := { l.cleanup with sourcePending := true } } :=
      ⟨fun _ _ => Or.inr (Or.inl rfl), hnote.recorders, fun hsource => absurd h.taken hsource, hnote.recorder, hnote.recording,
        hnote.upstream⟩
    exact ⟨hbase.remember _ _, h.taken⟩

/-- Only the recorder `r` that is being started or stopped is owed without an issue. -/
structure Recorder (r : Nat) (l : Ledger) : Prop where
  accounted : Accounted l
  apart : l.recorder = none
  others : ∀ q, l.RecorderOwed q → q = r ∨ l.cleanup.issues ≠ []

theorem Recorder.note {r : Nat} {l : Ledger} (h : Recorder r l) (moment : Moment) (hm : Harmless moment) :
    Recorder r (l.note moment) := ⟨h.accounted.note _ hm, h.apart, fun q hq => h.others q (hq.of_note _ hm)⟩

theorem Recorder.lose {r : Nat} {l : Ledger} (h : Recorder r l) : Recorder r l.lose :=
  ⟨h.accounted.lose, h.apart, (h.note .targetLost trivial).others⟩

def recorderAnswered (l : Ledger) (r : Nat) (acknowledged : Bool) : Ledger :=
  { l.note (.recorderStopped r acknowledged) with cleanup := { l.cleanup with recorderPending := false } }

theorem Recorder.acknowledged {r : Nat} {l : Ledger} (h : Recorder r l) : Accounted (l.recorderAnswered r true) := by
  have hnote := h.accounted.note (.recorderStopped r true) trivial
  refine ⟨hnote.sources, fun q hq => ?_, hnote.source, fun hrecorder => absurd h.apart hrecorder, hnote.recording, hnote.upstream⟩
  rcases h.others q (RecorderOwed.of_note (l := l) (.recorderStopped r true) trivial hq) with rfl | hissues
  · exact absurd (mem_note.mpr (Or.inr rfl)) hq.2.2
  · exact Or.inr (Or.inr hissues)

/-- Whatever the recorder answered, a failure is remembered. -/
theorem Recorder.failed {r : Nat} {l : Ledger} (h : Recorder r l) (acknowledged : Bool) (phase : ComputerUseCleanupPhase)
    (error : ComputerUseError) : Accounted ((l.recorderAnswered r acknowledged).remember phase error) := by
  have hnote := h.accounted.note (.recorderStopped r acknowledged) trivial
  refine ⟨fun _ _ => Or.inr (Or.inr (remember_ne _ _ _)), fun _ _ => Or.inr (Or.inr (remember_ne _ _ _)), fun hsource => ?_,
    fun hrecorder => absurd h.apart hrecorder, hnote.recording, hnote.upstream⟩
  exact (remember_pending _ _ _).1.trans (hnote.source hsource)

def own (l : Ledger) (r : Nat) : Ledger :=
  { (l.note (.recorderStarted r)).note (.recorderOwned r) with cleanup := { l.cleanup with recorderPending := true } }

theorem Accounted.own {l : Ledger} (h : Accounted l) (hrecorder : l.recorder = none) (hpending : l.cleanup.recorderPending = false)
    (r : Nat) : Recorder r (l.own r) := by
  have hstarted := h.note (.recorderStarted r) trivial
  have howed : ∀ q, (l.own r).RecorderOwed q → q = r ∨ (l.note (.recorderStarted r)).RecorderOwed q := by
    intro q hq
    rcases mem_note.mp hq.1 with hmem | hmem
    · exact Or.inr ⟨hmem, fun htaken => hq.2.1 (mem_note.mpr (Or.inl htaken)), fun hstopped => hq.2.2 (mem_note.mpr (Or.inl hstopped))⟩
    · cases hmem
      exact Or.inl rfl
  refine ⟨⟨fun i hi => ?_, fun _ _ => Or.inr (Or.inl rfl), hstarted.source, fun hr => absurd hrecorder hr, hstarted.recording,
    fun hs => ?_⟩, hrecorder, fun q hq => ?_⟩
  · exact hstarted.sources i ⟨(mem_note.mp hi.1).resolve_right Moment.noConfusion, fun hstopped => hi.2 (mem_note.mpr (Or.inl hstopped))⟩
  · exact (hstarted.upstream ((mem_note.mp hs).resolve_right Moment.noConfusion)).imp_left fun hsettled => hsettled.note _
  · rcases howed q hq with rfl | hq
    · exact Or.inl rfl
    · rcases hstarted.recorders q hq with hnone | hopen | hissues
      · rw [show (l.note (.recorderStarted r)).recorder = l.recorder from rfl, hrecorder] at hnone
        cases hnone
      · rw [show (l.note (.recorderStarted r)).cleanup = l.cleanup from rfl, hpending] at hopen
        cases hopen
      · exact Or.inr hissues

/-- The recorder that is ready is held by the session. -/
def attachRecorder (l : Ledger) (r : Nat) : Ledger :=
  { l with recorder := some r, cleanup := { l.cleanup with recorderPending := false } }

theorem Recorder.attached {r : Nat} {l : Ledger} (h : Recorder r l)
    (hrecording : l.recordingActive = true ∨ l.active = false ∨ l.native = true) : Accounted (l.attachRecorder r) where
  sources := h.accounted.sources
  recorders q hq := by
    rcases h.others q hq with rfl | hissues
    · exact Or.inl rfl
    · exact Or.inr (Or.inr hissues)
  source := h.accounted.source
  recorder _ := rfl
  recording _ := hrecording
  upstream := h.accounted.upstream

/-- The trajectory route takes the recorder and its obligation. -/
def takeRecorder (l : Ledger) (r : Nat) : Ledger := { l.note (.recorderTaken r) with recorder := none }

theorem Accounted.takeRecorder {l : Ledger} {r : Nat} (h : Accounted l) (hr : l.recorder = some r) : Accounted (l.takeRecorder r) := by
  have hnote := h.note (.recorderTaken r) trivial
  refine ⟨hnote.sources, fun q hq => ?_, hnote.source, fun hrecorder => absurd rfl hrecorder, fun hrecorder => absurd rfl hrecorder,
    hnote.upstream⟩
  have howed := RecorderOwed.of_note (l := l) (.recorderTaken r) trivial hq
  rcases h.recorders q howed with hrecorder | hopen
  · obtain rfl : r = q := Option.some.inj (hr.symm.trans hrecorder)
    exact absurd (mem_note.mpr (Or.inr rfl)) hq.2.1
  · exact Or.inr hopen

/-! ### The end -/

def revoke (l : Ledger) : Ledger := { l with active := false, upstream := false }

theorem Accounted.revoke {l : Ledger} (h : Accounted l) (hsettled : .upstreamStarted ∈ l.moments → l.Settled) :
    Accounted l.revoke where
  sources := h.sources
  recorders := h.recorders
  source := h.source
  recorder := h.recorder
  recording _ := Or.inr (Or.inl rfl)
  upstream hs := Or.inl (hsettled hs)

/-- Outside of an active session its upstream part is settled. -/
theorem Accounted.settled {l : Ledger} (h : Accounted l) (hactive : l.active = false) (hstarted : .upstreamStarted ∈ l.moments) :
    l.Settled := by
  rcases h.upstream hstarted with hsettled | ⟨ha, -, -⟩
  · exact hsettled
  · rw [hactive] at ha
    cases ha

end Ledger
end DccCua
