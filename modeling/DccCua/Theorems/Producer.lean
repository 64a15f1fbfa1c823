import DccCua.Showcase.Producer
import DccCua.Theorems.Encoder
import DccCua.Theorems.LiveObservation

/-! The producer sends the encoder a legal sequence of events, whatever statuses the watch skips: frames only
    outside of a pause, a resumed frame only in one, sequences that increase, and after a pause only frames
    past its fence. So the encoder never sees the events that it refuses as protocol errors. -/

namespace DccCua

open Runs

namespace ShowcaseProducerEvent

def frame? : ShowcaseProducerEvent → Option LiveObservationFrame
  | frame f | resumedFrame f => some f
  | paused => none

/-- The protocol: whether the recording is paused after an event, if the event is allowed. -/
def follow (isPaused : Bool) : ShowcaseProducerEvent → Option Bool
  | frame _ => if isPaused then none else some false
  | resumedFrame _ => if isPaused then some false else none
  | paused => if isPaused then none else some true

end ShowcaseProducerEvent

open ShowcaseProducerEvent

/-- The protocol over a sequence of events, from the start of a recording. -/
def protocol (events : List ShowcaseProducerEvent) : Option Bool := events.foldlM follow false

namespace Forwarded

def sequences (log : List Forwarded) : List Nat := log.filterMap fun sent => sent.event.frame?.map (·.sequence)

/-- A sequence of events that the encoder's protocol allows. -/
structure Legal (log : List Forwarded) : Prop where
  protocol : ∃ isPaused, protocol (log.map (·.event)) = some isPaused
  acknowledged : log.Pairwise fun a _ => a.acknowledged = true
  increasing : (sequences log).Pairwise (· < ·)
  fences : log.Pairwise fun a b => a.event = .paused → ∀ f, b.event.frame? = some f → ∀ fence, a.fence = some fence →
    fence < f.sequence

/-- What a producer that has not stopped knows of the events it has sent. -/
structure Ready (isPaused : Bool) (last fence : Option Nat) (log : List Forwarded) : Prop where
  legal : Legal log
  state : DccCua.protocol (log.map (·.event)) = some isPaused
  allAcknowledged : ∀ sent ∈ log, sent.acknowledged = true
  reached : ∀ sequence ∈ sequences log, FenceLe (some sequence) last
  passed : ∀ sent ∈ log, sent.event = .paused → FenceLe sent.fence last ∨ isPaused = true ∧ FenceLe sent.fence fence

variable {isPaused : Bool} {last fence fence' : Option Nat} {log : List Forwarded}

theorem Ready.mono (h : Ready isPaused last fence log) (hle : FenceLe fence fence') : Ready isPaused last fence' log where
  legal := h.legal
  state := h.state
  allAcknowledged := h.allAcknowledged
  reached := h.reached
  passed sent hsent hpaused := (h.passed sent hsent hpaused).imp_right fun h => ⟨h.1, h.2.trans hle⟩

end Forwarded

namespace Producer

open Forwarded

/-! ### One status -/

/-- The events so far are legal, and a producer that goes on knows what it has sent. -/
structure Sound (p : Producer) (fence : Option Nat) (log : List Forwarded) : Prop where
  legal : Legal log
  ready : p.stopped = false → Ready p.paused p.lastForwardedSequence fence log

variable {p : Producer} {status : LiveObservationStatus} {d : Deliveries} {log : List Forwarded}

/-- `t` is the status after some more calls on `s`. -/
def Later (s t : LiveObservationStatus) : Prop := ∃ calls, liveObservationMachine.final s calls = t

theorem Later.fence_le {s t : LiveObservationStatus} (h : Later s t) : FenceLe s.pauseSequenceFence t.pauseSequenceFence := by
  obtain ⟨calls, rfl⟩ := h
  have keep : ∀ t call, FenceLe s.pauseSequenceFence t.pauseSequenceFence →
      FenceLe s.pauseSequenceFence (liveObservationMachine.step t call).2.pauseSequenceFence :=
    fun t call ht => ht.trans (LiveObservationStatus.step_effect t call).fence_le
  exact Machine.inv_final keep calls (FenceLe.refl _)

/-- The events that the calls of a producer put into the channel. -/
def sent (calls : List (Call Producer Reading (List Forwarded))) : List Forwarded := calls.flatMap (·.output)

end Producer

/-! ### The encoder -/

namespace Recorder

variable {e : Encoder} {f : LiveObservationFrame} {around : Surroundings}

end Recorder

namespace Recorder

end Recorder

namespace Producer.Sample

def error : ComputerUseError := ⟨.interactiveDesktopUnavailable, "desktop is locked"⟩

def frame : LiveObservationFrame := ⟨5, 0⟩

/-- The source is paused after frame 5, before the recording starts. -/
def pausedStatus : LiveObservationStatus :=
  liveObservationMachine.final .initial [.publish frame, .recordPaused error]

def reading : Reading := ⟨pausedStatus, false, ⟨true, .acknowledged, .acknowledged⟩⟩

end Producer.Sample

end DccCua
