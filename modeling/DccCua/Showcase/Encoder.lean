import DccCua.Core.LiveObservation
import DccCua.Words

/-! # The recording encoder

`encode_frames_with_authorization`: the loop that takes frames and pauses from the producer, writes them as
samples of five-minute segments and keeps the capture manifest. Pixels and codec state are left out; whether
the codec gives a sample for a frame, whether files can be written and whether the recording is still
authorized are part of each event. Times in a segment and in the media are milliseconds. -/

namespace DccCua

open Runs

def segmentDurationMs : Nat := 5 * 60 * 1000

inductive ShowcaseProducerEvent where
  | frame (frame : LiveObservationFrame)
  | resumedFrame (frame : LiveObservationFrame)
  | paused
  deriving DecidableEq, Repr

/-- What surrounds an event: `admitted` is the recording authorization, `sampled` whether the codec gave a
    sample, `written` whether the files of the event could be written. -/
structure Surroundings where
  admitted : Bool
  sampled : Bool
  written : Bool
  deriving DecidableEq, Repr

inductive EncoderInput where
  | event (event : ShowcaseProducerEvent) (around : Surroundings)
  | stop (written : Bool)
  deriving DecidableEq, Repr

/-- `samples` are the start times of the samples written to the segment, and `pendingStart` is that of the
    sample that waits for its duration. -/
structure ActiveSegment where
  index : Nat
  startMs : Nat
  frameCount : Nat
  finalDuration : Nat
  samples : List Nat
  pendingStart : Nat
  deriving DecidableEq, Repr

structure ShowcaseSegment where
  index : Nat
  startMs : Nat
  durationMs : Nat
  frames : Nat
  samples : List Nat
  deriving DecidableEq, Repr

def ShowcaseSegment.endMs (segment : ShowcaseSegment) : Nat := segment.startMs + segment.durationMs

inductive ManifestRecord where
  | frame (sampleIndex segmentIndex mediaStartMs sourceSequence : Nat)
  | pause (mediaEndMs nextSampleIndex : Nat)
  deriving DecidableEq, Repr

structure CaptureManifest where
  records : List ManifestRecord
  frames : Nat
  deriving DecidableEq, Repr

namespace CaptureManifest

def create : CaptureManifest := ⟨[], 0⟩

def frame (m : CaptureManifest) (frame : LiveObservationFrame) (sampleIndex segmentIndex mediaStartMs : Nat) :
    Except String CaptureManifest :=
  if sampleIndex ≠ m.frames then .error "recorded provenance sample indices are not contiguous"
  else .ok ⟨m.records ++ [.frame sampleIndex segmentIndex mediaStartMs frame.sequence], m.frames + 1⟩

def pause (m : CaptureManifest) (mediaEndMs : Nat) : CaptureManifest :=
  { m with records := m.records ++ [.pause mediaEndMs m.frames] }

def finish (m : CaptureManifest) (expectedFrames : Nat) : Except String (List ManifestRecord) :=
  if m.frames ≠ expectedFrames then .error "recorded provenance does not cover every admitted media sample"
  else .ok m.records

end CaptureManifest

structure Encoder where
  nominalDuration : Nat
  active : Option ActiveSegment
  segments : List ShowcaseSegment
  manifest : CaptureManifest
  frameCount : Nat
  nextSegmentIndex : Nat
  captureAnchor : Nat
  mediaAnchorMs : Nat
  mediaDurationMs : Nat
  deriving DecidableEq, Repr

structure ShowcaseState where
  frames : Nat
  durationMs : Nat
  segments : List ShowcaseSegment
  records : List ManifestRecord
  deriving DecidableEq, Repr

inductive Recorder where
  | waiting (fps : Nat)
  | encoding (e : Encoder)
  | finished (state : ShowcaseState)
  | failed (message : String)
  deriving DecidableEq, Repr

namespace Encoder

/-- `begin_segment`: the path of a segment that is already finalized is not available. -/
def beginSegment (e : Encoder) (index startMs : Nat) (around : Surroundings) : Except String ActiveSegment :=
  if !around.sampled then .error "OpenH264 omitted a segment's first video sample"
  else if e.segments.any fun segment => segment.index = index then .error "showcase segment already exists"
  else if !around.written then .error "showcase segment could not be written"
  else .ok { index := index, startMs := startMs, frameCount := 1, finalDuration := e.nominalDuration,
             samples := [], pendingStart := 0 }

/-- `finalize_active_segment`: the segments after it and the end of its media time. -/
def finalizeActiveSegment (e : Encoder) (segment : ActiveSegment) (tailDuration : Nat) : List ShowcaseSegment × Nat :=
  let durationMs := segment.pendingStart + tailDuration
  (e.segments ++ [{ index := segment.index, startMs := segment.startMs, durationMs := durationMs,
                    frames := segment.frameCount, samples := segment.samples ++ [segment.pendingStart] }],
    segment.startMs + durationMs)

def pauseTailDuration (segment : ActiveSegment) (nominalDuration : Nat) : Nat :=
  min nominalDuration (min (max (segmentDurationMs - segment.pendingStart) 1) u32Max)

def rotationTailDuration (segment : ActiveSegment) (elapsedMs : Nat) : Nat :=
  max (min (elapsedMs - segment.startMs - segment.pendingStart) u32Max) 1

/-- The media time of a frame. -/
def elapsedMs (e : Encoder) (frame : LiveObservationFrame) : Nat :=
  e.mediaAnchorMs + (frame.capturedAt - e.captureAnchor) / 1000000

def start (fps : Nat) (frame : LiveObservationFrame) (around : Surroundings) : Except String Encoder := do
  let e : Encoder :=
    { nominalDuration := max (1000 / fps) 1, active := none, segments := [], manifest := .create, frameCount := 0,
      nextSegmentIndex := 0, captureAnchor := frame.capturedAt, mediaAnchorMs := 0, mediaDurationMs := 0 }
  let segment ← e.beginSegment 0 0 around
  let manifest ← e.manifest.frame frame 0 0 0
  return { e with active := some segment, manifest := manifest, frameCount := 1, nextSegmentIndex := 1 }

def pause (e : Encoder) (around : Surroundings) : Except String Encoder :=
  if !around.written then .error "showcase segment could not be written"
  else
    let (segments, mediaDurationMs) := match e.active with
      | none => (e.segments, e.mediaDurationMs)
      | some segment => e.finalizeActiveSegment segment (pauseTailDuration segment e.nominalDuration)
    .ok { e with active := none, segments := segments, mediaDurationMs := mediaDurationMs,
                 manifest := e.manifest.pause mediaDurationMs }

/-- A segment begins with this frame. -/
def beginWith (e : Encoder) (frame : LiveObservationFrame) (startMs : Nat) (around : Surroundings) :
    Except String Encoder := do
  let segment ← e.beginSegment e.nextSegmentIndex startMs around
  let manifest ← e.manifest.frame frame e.frameCount e.nextSegmentIndex startMs
  return { e with
    active := some segment
    manifest := manifest
    nextSegmentIndex := min (e.nextSegmentIndex + 1) u32Max
    frameCount := e.frameCount + 1 }

def resumedFrame (e : Encoder) (frame : LiveObservationFrame) (around : Surroundings) : Except String Encoder :=
  if e.active.isSome then
    .error "showcase received a resume frame before finalizing its paused segment"
  else
    { e with captureAnchor := frame.capturedAt, mediaAnchorMs := e.mediaDurationMs }.beginWith frame e.mediaDurationMs around

/-- The frame rotates the active segment. -/
def rotates (e : Encoder) (segment : ActiveSegment) (frame : LiveObservationFrame) : Bool :=
  segmentDurationMs ≤ e.elapsedMs frame - segment.startMs

def rotate (e : Encoder) (segment : ActiveSegment) (frame : LiveObservationFrame) (around : Surroundings) :
    Except String Encoder :=
  let elapsedMs := e.elapsedMs frame
  let (segments, mediaDurationMs) := e.finalizeActiveSegment segment (rotationTailDuration segment elapsedMs)
  { e with active := none, segments := segments, mediaDurationMs := mediaDurationMs }.beginWith frame elapsedMs around

def append (e : Encoder) (segment : ActiveSegment) (frame : LiveObservationFrame) (around : Surroundings) :
    Except String Encoder :=
  -- The codec may skip a frame: it leaves no sample and no record.
  if !around.sampled then .ok e
  else do
    let startTime := max (e.elapsedMs frame - segment.startMs) (segment.pendingStart + 1)
    let sampleDuration := max (min (startTime - segment.pendingStart) u32Max) 1
    let manifest ← e.manifest.frame frame e.frameCount segment.index (segment.startMs + startTime)
    if !around.written then .error "showcase sample could not be written"
    else return { e with
      manifest := manifest
      active := some { segment with
        samples := segment.samples ++ [segment.pendingStart]
        pendingStart := startTime
        finalDuration := sampleDuration
        frameCount := segment.frameCount + 1 }
      frameCount := e.frameCount + 1 }

def frame (e : Encoder) (frame : LiveObservationFrame) (around : Surroundings) : Except String Encoder :=
  match e.active with
  | none => .error "showcase received an unacknowledged frame while paused"
  | some segment => if e.rotates segment frame then e.rotate segment frame around else e.append segment frame around

def accept (e : Encoder) (event : ShowcaseProducerEvent) (around : Surroundings) : Except String Encoder :=
  match event with
  | .paused => e.pause around
  | .resumedFrame f => e.resumedFrame f around
  | .frame f => e.frame f around

/-- What follows the loop. -/
def finish (e : Encoder) (written : Bool) : Except String ShowcaseState := do
  if !written then .error "showcase segment could not be written"
  else
    let (segments, mediaDurationMs) := match e.active with
      | none => (e.segments, e.mediaDurationMs)
      | some segment => e.finalizeActiveSegment segment segment.finalDuration
    let records ← e.manifest.finish e.frameCount
    return ⟨e.frameCount, mediaDurationMs, segments, records⟩

end Encoder

namespace Recorder

def ofResult {α : Type} (next : α → Recorder) : Except String α → Recorder
  | .ok a => next a
  | .error message => .failed message

def step (r : Recorder) (input : EncoderInput) : Recorder :=
  match r, input with
  -- `receive_first_frame`: a pause before the first frame is acknowledged and forgotten.
  | .waiting fps, .event .paused _ => .waiting fps
  | .waiting fps, .event (.frame f) around | .waiting fps, .event (.resumedFrame f) around =>
    if !around.admitted then .failed "recording_authorization_ended"
    else ofResult .encoding (Encoder.start fps f around)
  | .waiting _, .stop _ => .failed "no showcase frame available"
  | .encoding e, .event event around =>
    -- An event that is not admitted ends the loop, and the recording is finalized.
    if !around.admitted then ofResult .finished (e.finish around.written)
    else ofResult .encoding (e.accept event around)
  | .encoding e, .stop written => ofResult .finished (e.finish written)
  | .finished state, _ => .finished state
  | .failed message, _ => .failed message

end Recorder

def recorderMachine : Machine Recorder EncoderInput Unit where
  step r input := ((), r.step input)

end DccCua
