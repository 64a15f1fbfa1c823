import DccCua.Lib.Checks
import DccCua.Showcase.Encoder
import Mathlib.Algebra.BigOperators.Group.List.Basic
import Mathlib.Algebra.GroupWithZero.Nat
import Mathlib.Data.List.Range

/-! What a finished recording holds: as many frames in its segments as in its report and its manifest, and
    segments that follow each other in media time, unless a rotation comes at a time that an earlier frame of
    the segment was already moved past. -/

namespace DccCua
namespace Encoder

open Runs

variable {e e' : Encoder} {segment : ActiveSegment} {f : LiveObservationFrame} {around : Surroundings}

/-! ### What each operation does -/

/-- The active segment is finalized. -/
def close (e : Encoder) (segment : ActiveSegment) (tailDuration : Nat) : Encoder :=
  { e with
    active := none
    segments := (e.finalizeActiveSegment segment tailDuration).1
    mediaDurationMs := (e.finalizeActiveSegment segment tailDuration).2 }

/-- The segment that `begin_segment` makes. -/
def opened (e : Encoder) (startMs : Nat) : ActiveSegment :=
  { index := e.nextSegmentIndex, startMs := startMs, frameCount := 1, finalDuration := e.nominalDuration,
    samples := [], pendingStart := 0 }

theorem beginSegment_ok {index startMs : Nat} (h : e.beginSegment index startMs around = .ok segment) :
    (∀ s ∈ e.segments, s.index ≠ index) ∧
      segment = { index := index, startMs := startMs, frameCount := 1, finalDuration := e.nominalDuration,
                  samples := [], pendingStart := 0 } := by
  unfold beginSegment at h
  split at h
  · cases h
  · split at h
    · cases h
    · rename_i hany
      split at h
      · cases h
      · refine ⟨fun s hs heq => hany ?_, (Except.ok.inj h).symm⟩
        exact List.any_eq_true.mpr ⟨s, hs, by simpa using heq⟩

theorem manifest_frame_ok {m m' : CaptureManifest} {sampleIndex segmentIndex mediaStartMs : Nat}
    (h : m.frame f sampleIndex segmentIndex mediaStartMs = .ok m') :
    sampleIndex = m.frames ∧
      m' = ⟨m.records ++ [.frame sampleIndex segmentIndex mediaStartMs f.sequence], m.frames + 1⟩ := by
  unfold CaptureManifest.frame at h
  split at h
  · cases h
  · rename_i heq
    exact ⟨not_not.mp heq, (Except.ok.inj h).symm⟩

theorem beginWith_ok {startMs : Nat} (h : e.beginWith f startMs around = .ok e') :
    (∀ s ∈ e.segments, s.index ≠ e.nextSegmentIndex) ∧ e.frameCount = e.manifest.frames ∧
      e' = { e with
        active := some (e.opened startMs)
        manifest := ⟨e.manifest.records ++ [.frame e.frameCount e.nextSegmentIndex startMs f.sequence],
          e.manifest.frames + 1⟩
        nextSegmentIndex := min (e.nextSegmentIndex + 1) u32Max
        frameCount := e.frameCount + 1 } := by
  unfold beginWith at h
  obtain ⟨segment, hsegment, h⟩ := Checks.bind_eq_ok.mp h
  obtain ⟨manifest, hmanifest, h⟩ := Checks.bind_eq_ok.mp h
  obtain ⟨hfree, rfl⟩ := beginSegment_ok hsegment
  obtain ⟨hcount, rfl⟩ := manifest_frame_ok hmanifest
  exact ⟨hfree, hcount, (Except.ok.inj h).symm⟩

/-- The start time of a sample: after the one before it, also within a millisecond. -/
def sampleStart (e : Encoder) (segment : ActiveSegment) (f : LiveObservationFrame) : Nat :=
  max (e.elapsedMs f - segment.startMs) (segment.pendingStart + 1)

theorem append_ok (h : e.append segment f around = .ok e') :
    e' = e ∨ e.frameCount = e.manifest.frames ∧ ∃ duration,
      e' = { e with
        manifest := ⟨e.manifest.records ++
          [.frame e.frameCount segment.index (segment.startMs + e.sampleStart segment f) f.sequence],
          e.manifest.frames + 1⟩
        active := some { segment with
          samples := segment.samples ++ [segment.pendingStart]
          pendingStart := e.sampleStart segment f
          finalDuration := duration
          frameCount := segment.frameCount + 1 }
        frameCount := e.frameCount + 1 } := by
  unfold append at h
  split at h
  · exact Or.inl (Except.ok.inj h).symm
  · obtain ⟨manifest, hmanifest, h⟩ := Checks.bind_eq_ok.mp h
    obtain ⟨hcount, rfl⟩ := manifest_frame_ok hmanifest
    split at h
    · cases h
    · exact Or.inr ⟨hcount, _, (Except.ok.inj h).symm⟩

theorem pause_ok (h : e.pause around = .ok e') :
    (e.active = none ∧ e' = { e with manifest := e.manifest.pause e.mediaDurationMs }) ∨
    ∃ segment tail, e.active = some segment ∧
      e' = { e.close segment tail with manifest := e.manifest.pause (e.close segment tail).mediaDurationMs } := by
  unfold pause at h
  split at h
  · cases h
  · cases hactive : e.active with
    | none =>
      rw [hactive] at h
      refine Or.inl ⟨rfl, (Except.ok.inj h).symm.trans ?_⟩
      rw [← hactive]
    | some segment =>
      rw [hactive] at h
      exact Or.inr ⟨segment, _, rfl, (Except.ok.inj h).symm⟩

/-- What an event can do. -/
inductive Effect (e : Encoder) (event : ShowcaseProducerEvent) : Encoder → Prop where
  | skipped : Effect e event e
  | noted (manifest : CaptureManifest) (idle : e.active = none) (pause : manifest = e.manifest.pause e.mediaDurationMs) :
      Effect e event { e with manifest := manifest }
  | closed (segment : ActiveSegment) (tail : Nat) (manifest : CaptureManifest) (active : e.active = some segment)
      (pause : manifest = e.manifest.pause (e.close segment tail).mediaDurationMs) :
      Effect e event { e.close segment tail with manifest := manifest }
  | resumed (f : LiveObservationFrame) (around : Surroundings) (e' : Encoder) (idle : e.active = none)
      (opens : { e with captureAnchor := f.capturedAt, mediaAnchorMs := e.mediaDurationMs }.beginWith f
        e.mediaDurationMs around = .ok e') : Effect e event e'
  | rotated (segment : ActiveSegment) (f : LiveObservationFrame) (around : Surroundings) (e' : Encoder)
      (isFrame : event = .frame f) (active : e.active = some segment) (due : e.rotates segment f = true)
      (opens : (e.close segment (rotationTailDuration segment (e.elapsedMs f))).beginWith f (e.elapsedMs f) around =
        .ok e') : Effect e event e'
  | appended (segment : ActiveSegment) (f : LiveObservationFrame) (duration : Nat) (active : e.active = some segment)
      (count : e.frameCount = e.manifest.frames) :
      Effect e event { e with
        manifest := ⟨e.manifest.records ++
          [.frame e.frameCount segment.index (segment.startMs + e.sampleStart segment f) f.sequence],
          e.manifest.frames + 1⟩
        active := some { segment with
          samples := segment.samples ++ [segment.pendingStart]
          pendingStart := e.sampleStart segment f
          finalDuration := duration
          frameCount := segment.frameCount + 1 }
        frameCount := e.frameCount + 1 }

theorem accept_effect {event : ShowcaseProducerEvent} (h : e.accept event around = .ok e') : Effect e event e' := by
  cases event with
  | paused =>
    rcases pause_ok h with ⟨hidle, rfl⟩ | ⟨segment, tail, hactive, rfl⟩
    · exact .noted _ hidle rfl
    · exact .closed segment tail _ hactive rfl
  | resumedFrame f =>
    simp only [accept, resumedFrame] at h
    split at h
    · cases h
    · rename_i hidle
      exact .resumed f around e' (by simpa using hidle) h
  | frame f =>
    simp only [accept, frame] at h
    split at h
    · cases h
    · rename_i segment hactive
      split at h
      · rename_i hdue
        exact .rotated segment f around e' rfl hactive hdue h
      · rcases append_ok h with rfl | ⟨hcount, duration, rfl⟩
        · exact .skipped
        · exact .appended segment f duration hactive hcount

/-! ### Counting -/

/-- The number of segments begun. -/
def begun (e : Encoder) : Nat := e.segments.length + e.active.toList.length

def frameIndices : ManifestRecord → Option (Nat × Nat)
  | .frame sampleIndex segmentIndex _ _ => some (sampleIndex, segmentIndex)
  | .pause _ _ => none

/-- The sample and segment indices of the frames in a manifest. -/
def manifestFrames (records : List ManifestRecord) : List (Nat × Nat) := records.filterMap frameIndices

structure Counted (e : Encoder) : Prop where
  indices : e.segments.map (·.index) = List.range e.segments.length
  activeIndex : ∀ segment, e.active = some segment → segment.index = e.segments.length
  next : e.nextSegmentIndex = min e.begun u32Max
  frames : (e.segments.map (·.frames)).sum + (e.active.map (·.frameCount)).getD 0 = e.frameCount
  manifest : e.manifest.frames = e.frameCount
  samples : (manifestFrames e.manifest.records).map Prod.fst = List.range e.frameCount
  order : ((manifestFrames e.manifest.records).map Prod.snd).Pairwise (· ≤ ·)
  bound : ∀ index ∈ (manifestFrames e.manifest.records).map Prod.snd, index < e.begun
  starts : ∀ segment ∈ e.segments, segment.samples.Pairwise (· < ·)
  activeStarts : ∀ segment, e.active = some segment → (segment.samples ++ [segment.pendingStart]).Pairwise (· < ·)

theorem manifestFrames_pause (m : CaptureManifest) (mediaEndMs : Nat) :
    manifestFrames (m.pause mediaEndMs).records = manifestFrames m.records := by
  simp [manifestFrames, CaptureManifest.pause, frameIndices]

theorem manifestFrames_frame (records : List ManifestRecord) (sampleIndex segmentIndex mediaStartMs sourceSequence : Nat) :
    manifestFrames (records ++ [.frame sampleIndex segmentIndex mediaStartMs sourceSequence]) =
      manifestFrames records ++ [(sampleIndex, segmentIndex)] := by
  simp [manifestFrames, frameIndices]

theorem Counted.pauseNote (h : Counted e) (mediaEndMs : Nat) : Counted { e with manifest := e.manifest.pause mediaEndMs } where
  indices := h.indices
  activeIndex := h.activeIndex
  next := h.next
  frames := h.frames
  manifest := h.manifest
  samples := by rw [manifestFrames_pause]; exact h.samples
  order := by rw [manifestFrames_pause]; exact h.order
  bound := by rw [manifestFrames_pause]; exact h.bound
  starts := h.starts
  activeStarts := h.activeStarts

theorem begun_close (hactive : e.active = some segment) (tail : Nat) : (e.close segment tail).begun = e.begun := by
  simp [begun, close, finalizeActiveSegment, hactive]

theorem Counted.close (h : Counted e) (hactive : e.active = some segment) (tail : Nat) : Counted (e.close segment tail) where
  indices := by
    simp only [Encoder.close, finalizeActiveSegment, List.map_append, List.map_singleton, h.indices,
      h.activeIndex segment hactive, List.length_append, List.length_singleton]
    exact List.range_succ.symm
  activeIndex := by simp [Encoder.close]
  next := by rw [begun_close hactive]; exact h.next
  frames := by
    have := h.frames
    simp only [hactive, Option.map_some, Option.getD_some] at this
    simpa [Encoder.close, finalizeActiveSegment] using this
  manifest := h.manifest
  samples := h.samples
  order := h.order
  bound := by rw [begun_close hactive]; exact h.bound
  starts := by
    intro s hs
    simp only [Encoder.close, finalizeActiveSegment, List.mem_append, List.mem_singleton] at hs
    rcases hs with hs | rfl
    · exact h.starts s hs
    · exact h.activeStarts segment hactive
  activeStarts := by simp [Encoder.close]

/-- The index of the next segment is the number of segments, since the path of the last index is taken once
    the indices have run out. -/
theorem Counted.next_eq (h : Counted e) (hidle : e.active = none) (hfree : ∀ s ∈ e.segments, s.index ≠ e.nextSegmentIndex) :
    e.nextSegmentIndex = e.segments.length := by
  have hnext : e.nextSegmentIndex = min e.segments.length u32Max := by
    rw [h.next, begun, hidle]
    rfl
  by_contra hne
  have hlt : e.nextSegmentIndex < e.segments.length := by omega
  have hmem : e.nextSegmentIndex ∈ e.segments.map (·.index) := by
    rw [h.indices, List.mem_range]
    exact hlt
  obtain ⟨s, hs, heq⟩ := List.mem_map.mp hmem
  exact hfree s hs heq

theorem Counted.beginWith {startMs : Nat} (h : Counted e) (hidle : e.active = none)
    (hok : e.beginWith f startMs around = .ok e') : Counted e' := by
  obtain ⟨hfree, hcount, rfl⟩ := beginWith_ok hok
  have hnext := h.next_eq hidle hfree
  have hbegun : e.begun = e.segments.length := by simp [begun, hidle]
  refine ⟨h.indices, ?_, ?_, ?_, ?_, ?_, ?_, ?_, h.starts, ?_⟩
  · intro segment hsegment
    obtain rfl := Option.some.inj hsegment
    exact hnext
  · simp only [begun, hnext, Option.toList_some, List.length_singleton]
  · have := h.frames
    simp only [hidle, Option.map_none, Option.getD_none] at this
    simp only [Option.map_some, Option.getD_some, opened]
    omega
  · dsimp only
    rw [hcount]
  · dsimp only
    rw [manifestFrames_frame, List.map_append, h.samples, List.map_singleton]
    exact List.range_succ.symm
  · dsimp only
    rw [manifestFrames_frame, List.map_append, List.map_singleton, List.pairwise_append]
    refine ⟨h.order, List.pairwise_singleton _ _, fun a ha b hb => ?_⟩
    have := h.bound a ha
    rw [List.mem_singleton.mp hb]
    omega
  · dsimp only
    rw [manifestFrames_frame, List.map_append, List.map_singleton]
    intro index hindex
    simp only [begun, Option.toList_some, List.length_singleton]
    rcases List.mem_append.mp hindex with hindex | hindex
    · have := h.bound index hindex
      omega
    · rw [List.mem_singleton.mp hindex]
      omega
  · intro segment hsegment
    obtain rfl := Option.some.inj hsegment
    exact List.pairwise_singleton _ _

theorem Counted.appended (h : Counted e) (hactive : e.active = some segment) (hcount : e.frameCount = e.manifest.frames)
    (f : LiveObservationFrame) (duration : Nat) :
    Counted { e with
      manifest := ⟨e.manifest.records ++
        [.frame e.frameCount segment.index (segment.startMs + e.sampleStart segment f) f.sequence],
        e.manifest.frames + 1⟩
      active := some { segment with
        samples := segment.samples ++ [segment.pendingStart]
        pendingStart := e.sampleStart segment f
        finalDuration := duration
        frameCount := segment.frameCount + 1 }
      frameCount := e.frameCount + 1 } := by
  have hindex := h.activeIndex segment hactive
  have hbegun : e.begun = e.segments.length + 1 := by simp [begun, hactive]
  refine ⟨h.indices, ?_, ?_, ?_, ?_, ?_, ?_, ?_, h.starts, ?_⟩
  · intro s hs
    obtain rfl := Option.some.inj hs
    exact hindex
  · have := h.next
    rw [hbegun] at this
    simpa [begun] using this
  · have := h.frames
    simp only [hactive, Option.map_some, Option.getD_some] at this ⊢
    omega
  · dsimp only
    rw [hcount]
  · dsimp only
    rw [manifestFrames_frame, List.map_append, h.samples, List.map_singleton]
    exact List.range_succ.symm
  · dsimp only
    rw [manifestFrames_frame, List.map_append, List.map_singleton, List.pairwise_append]
    refine ⟨h.order, List.pairwise_singleton _ _, fun a ha b hb => ?_⟩
    have := h.bound a ha
    rw [List.mem_singleton.mp hb]
    omega
  · dsimp only
    rw [manifestFrames_frame, List.map_append, List.map_singleton]
    intro index hmem
    simp only [begun, Option.toList_some, List.length_singleton]
    rcases List.mem_append.mp hmem with hmem | hmem
    · have := h.bound index hmem
      omega
    · rw [List.mem_singleton.mp hmem]
      omega
  · intro s hs
    obtain rfl := Option.some.inj hs
    -- The new start time is after the pending one, which is after all that are written.
    have hstarts := h.activeStarts segment hactive
    refine List.pairwise_append.mpr ⟨hstarts, List.pairwise_singleton _ _, fun a ha b hb => ?_⟩
    have hlt : segment.pendingStart < e.sampleStart segment f := Nat.lt_of_lt_of_le (Nat.lt_succ_self _) (Nat.le_max_right _ _)
    rw [List.mem_singleton.mp hb]
    rcases List.mem_append.mp ha with ha | ha
    · exact Nat.lt_trans ((List.pairwise_append.mp hstarts).2.2 a ha _ (List.mem_singleton_self _)) hlt
    · rw [List.mem_singleton.mp ha]
      exact hlt

theorem Counted.anchored (h : Counted e) (captureAnchor mediaAnchorMs : Nat) :
    Counted { e with captureAnchor := captureAnchor, mediaAnchorMs := mediaAnchorMs } :=
  ⟨h.indices, h.activeIndex, h.next, h.frames, h.manifest, h.samples, h.order, h.bound, h.starts, h.activeStarts⟩

theorem Counted.effect {event : ShowcaseProducerEvent} (h : Counted e) (he : Effect e event e') : Counted e' := by
  cases he with
  | skipped => exact h
  | noted manifest idle pause => exact pause ▸ h.pauseNote _
  | closed segment tail manifest active pause => exact pause ▸ (h.close active tail).pauseNote _
  | resumed f around _ idle opens =>
    exact (h.anchored f.capturedAt e.mediaDurationMs).beginWith idle opens
  | rotated segment f around _ _ active _ opens => exact (h.close active _).beginWith rfl opens
  | appended segment f duration active count => exact h.appended active count f duration

theorem start_counted {fps : Nat} (h : start fps f around = .ok e) : Counted e := by
  unfold start at h
  obtain ⟨segment, hsegment, h⟩ := Checks.bind_eq_ok.mp h
  obtain ⟨manifest, hmanifest, h⟩ := Checks.bind_eq_ok.mp h
  obtain ⟨-, rfl⟩ := beginSegment_ok hsegment
  obtain ⟨-, rfl⟩ := manifest_frame_ok hmanifest
  obtain rfl := (Except.ok.inj h).symm
  exact ⟨rfl, by simp, rfl, rfl, rfl, rfl, List.pairwise_singleton _ _, by simp [manifestFrames, frameIndices,
    CaptureManifest.create, begun], by simp, by simp⟩

/-- A finished recording: its report, its manifest and its segments agree. -/
structure Consistent (state : ShowcaseState) : Prop where
  frames : (state.segments.map (·.frames)).sum = state.frames
  samples : (manifestFrames state.records).map Prod.fst = List.range state.frames
  order : ((manifestFrames state.records).map Prod.snd).Pairwise (· ≤ ·)
  indices : state.segments.map (·.index) = List.range state.segments.length
  starts : ∀ segment ∈ state.segments, segment.samples.Pairwise (· < ·)

theorem finish_ok {written : Bool} {state : ShowcaseState} (h : e.finish written = .ok state) :
    (e.active = none ∧ state = ⟨e.frameCount, e.mediaDurationMs, e.segments, e.manifest.records⟩) ∨
    ∃ segment tail, e.active = some segment ∧
      state = ⟨e.frameCount, (e.close segment tail).mediaDurationMs, (e.close segment tail).segments, e.manifest.records⟩ := by
  unfold finish at h
  split at h
  · cases h
  · cases hactive : e.active with
    | none =>
      rw [hactive] at h
      obtain ⟨records, hrecords, h⟩ := Checks.bind_eq_ok.mp h
      unfold CaptureManifest.finish at hrecords
      split at hrecords
      · cases hrecords
      · obtain rfl := Except.ok.inj hrecords
        exact Or.inl ⟨rfl, (Except.ok.inj h).symm⟩
    | some segment =>
      rw [hactive] at h
      obtain ⟨records, hrecords, h⟩ := Checks.bind_eq_ok.mp h
      unfold CaptureManifest.finish at hrecords
      split at hrecords
      · cases hrecords
      · obtain rfl := Except.ok.inj hrecords
        exact Or.inr ⟨segment, _, rfl, (Except.ok.inj h).symm⟩

theorem Counted.consistent (h : Counted e) (hidle : e.active = none) (durationMs : Nat) :
    Consistent ⟨e.frameCount, durationMs, e.segments, e.manifest.records⟩ where
  frames := by
    have := h.frames
    simpa [hidle] using this
  samples := h.samples
  order := h.order
  indices := h.indices
  starts := h.starts

theorem Counted.finish {written : Bool} {state : ShowcaseState} (h : Counted e) (hok : e.finish written = .ok state) :
    Consistent state := by
  rcases finish_ok hok with ⟨hidle, rfl⟩ | ⟨segment, tail, hactive, rfl⟩
  · exact h.consistent hidle _
  · exact (h.close hactive tail).consistent rfl _

/-! ### Media time -/

/-- The segments follow each other, up to the media time and to the active segment. -/
structure Ordered (e : Encoder) : Prop where
  segments : e.segments.Pairwise fun a b => a.endMs ≤ b.startMs
  ended : ∀ segment ∈ e.segments, segment.endMs ≤ e.mediaDurationMs
  active : ∀ segment, e.active = some segment → e.mediaDurationMs ≤ segment.startMs

/-- A frame that rotates the active segment comes after the pending sample of that segment. -/
def RotatesLate (e : Encoder) (event : ShowcaseProducerEvent) : Prop :=
  ∀ segment f, e.active = some segment → event = .frame f → e.rotates segment f = true →
    segment.pendingStart < e.elapsedMs f - segment.startMs

theorem Ordered.close (h : Ordered e) (hactive : e.active = some segment) (tail : Nat) : Ordered (e.close segment tail) := by
  have hstart := h.active segment hactive
  refine ⟨?_, ?_, by simp [Encoder.close]⟩
  · refine List.pairwise_append.mpr ⟨h.segments, List.pairwise_singleton _ _, fun a ha b hb => ?_⟩
    rw [List.mem_singleton.mp hb]
    exact Nat.le_trans (h.ended a ha) hstart
  · intro s hs
    rcases List.mem_append.mp hs with hs | hs
    · have := h.ended s hs
      simp only [Encoder.close, finalizeActiveSegment]
      omega
    · rw [List.mem_singleton.mp hs]
      exact Nat.le_refl _

theorem Ordered.beginWith {startMs : Nat} (h : Ordered e) (hstart : e.mediaDurationMs ≤ startMs)
    (hok : e.beginWith f startMs around = .ok e') : Ordered e' := by
  obtain ⟨-, -, rfl⟩ := beginWith_ok hok
  refine ⟨h.segments, h.ended, fun s hs => ?_⟩
  obtain rfl := Option.some.inj hs
  exact hstart

/-- A segment that is rotated late ends no later than the frame that rotates it. -/
theorem close_end (hlate : segment.pendingStart < e.elapsedMs f - segment.startMs) :
    (e.close segment (rotationTailDuration segment (e.elapsedMs f))).mediaDurationMs ≤ e.elapsedMs f := by
  simp only [Encoder.close, finalizeActiveSegment, rotationTailDuration]
  omega

theorem Ordered.effect {event : ShowcaseProducerEvent} (h : Ordered e) (hlate : RotatesLate e event)
    (he : Effect e event e') : Ordered e' := by
  cases he with
  | skipped => exact h
  | noted manifest idle pause => exact ⟨h.segments, h.ended, h.active⟩
  | closed segment tail manifest active pause =>
    have hclosed := h.close active tail
    exact ⟨hclosed.segments, hclosed.ended, hclosed.active⟩
  | resumed f around _ idle opens =>
    have hanchored : Ordered { e with captureAnchor := f.capturedAt, mediaAnchorMs := e.mediaDurationMs } :=
      ⟨h.segments, h.ended, h.active⟩
    exact hanchored.beginWith (Nat.le_refl _) opens
  | rotated segment f around _ isFrame active due opens =>
    exact (h.close active _).beginWith (close_end (hlate segment f active isFrame due)) opens
  | appended segment f duration active count =>
    refine ⟨h.segments, h.ended, fun s hs => ?_⟩
    obtain rfl := Option.some.inj hs
    exact h.active segment active

theorem start_ordered {fps : Nat} (h : start fps f around = .ok e) : Ordered e := by
  unfold start at h
  obtain ⟨segment, hsegment, h⟩ := Checks.bind_eq_ok.mp h
  obtain ⟨manifest, hmanifest, h⟩ := Checks.bind_eq_ok.mp h
  obtain rfl := (Except.ok.inj h).symm
  exact ⟨List.Pairwise.nil, by simp, fun _ _ => Nat.zero_le _⟩

theorem Ordered.finish {written : Bool} {state : ShowcaseState} (h : Ordered e) (hok : e.finish written = .ok state) :
    state.segments.Pairwise fun a b => a.endMs ≤ b.startMs := by
  rcases finish_ok hok with ⟨-, rfl⟩ | ⟨segment, tail, hactive, rfl⟩
  · exact h.segments
  · exact (h.close hactive tail).segments

end Encoder

namespace Recorder

open Runs Encoder

/-- An invariant of the encoder, and what it gives at the end. -/
def Holds (P : Encoder → Prop) (Q : ShowcaseState → Prop) : Recorder → Prop
  | .encoding e => P e
  | .finished state => Q state
  | _ => True

variable {P : Encoder → Prop} {Q : ShowcaseState → Prop}

/-- One input keeps an invariant of the encoder; `Ok` restricts the inputs. -/
theorem holds_step {r : Recorder} {input : EncoderInput}
    (hstart : ∀ fps f around e, Encoder.start fps f around = .ok e → P e)
    (haccept : ∀ e event around e', r = .encoding e → input = .event event around → P e →
      e.accept event around = .ok e' → P e')
    (hfinish : ∀ e written state, P e → e.finish written = .ok state → Q state) (h : Holds P Q r) :
    Holds P Q (r.step input) := by
  have hfirst : ∀ fps f around, Holds P Q (ofResult .encoding (Encoder.start fps f around)) := by
    intro fps f around
    cases hs : Encoder.start fps f around with
    | error message => trivial
    | ok e => exact hstart fps f around e hs
  have hend : ∀ e written, P e → Holds P Q (ofResult .finished (e.finish written)) := by
    intro e written he
    cases hf : e.finish written with
    | error message => trivial
    | ok state => exact hfinish e written state he hf
  cases r with
  | waiting fps =>
    cases input with
    | stop written => trivial
    | event event around =>
      cases event with
      | paused => trivial
      | frame f | resumedFrame f =>
        simp only [step]
        split
        · trivial
        · exact hfirst fps f around
  | encoding e =>
    cases input with
    | stop written => exact hend e written h
    | event event around =>
      simp only [step]
      split
      · exact hend e around.written h
      · cases ha : e.accept event around with
        | error message => trivial
        | ok e' => exact haccept e event around e' rfl rfl h ha
  | finished state => exact h
  | failed message => trivial

/-- Whatever frames, pauses and resumptions a recording saw, when it stops with success its report counts
    the frames of its segments and of its manifest, the manifest numbers them without a gap and in the order
    of the segments, the segments are numbered without a gap, and the samples of a segment start at
    increasing times. -/
theorem recording_counts_agree (fps : Nat) (inputs : List EncoderInput) (state : ShowcaseState)
    (h : recorderMachine.final (.waiting fps) inputs = .finished state) :
    (state.segments.map (·.frames)).sum = state.frames ∧
    (manifestFrames state.records).length = state.frames ∧
    (manifestFrames state.records).map Prod.fst = List.range state.frames ∧
    ((manifestFrames state.records).map Prod.snd).Pairwise (· ≤ ·) ∧
    state.segments.map (·.index) = List.range state.segments.length ∧
    ∀ segment ∈ state.segments, segment.samples.Pairwise (· < ·) := by
  have hrun : Holds Counted Consistent (recorderMachine.final (.waiting fps) inputs) := by
    refine Machine.inv_final (m := recorderMachine) (fun r input hr => ?_) inputs trivial
    refine holds_step ?_ ?_ ?_ hr
    · exact fun fps f around e hs => start_counted hs
    · exact fun e event around e' _ _ he ha => he.effect (accept_effect ha)
    · exact fun e written state he hf => he.finish hf
  rw [h] at hrun
  have hlength := congrArg List.length hrun.samples
  rw [List.length_map, List.length_range] at hlength
  exact ⟨hrun.frames, hlength, hrun.samples, hrun.order, hrun.indices, hrun.starts⟩

/-- The input does not rotate a segment at or before the start of its pending sample. -/
def RotatesLate (r : Recorder) (input : EncoderInput) : Prop :=
  ∀ e event around, r = .encoding e → input = .event event around → e.RotatesLate event

/-- The segments of a recording are in order and do not overlap in media time, if no frame rotates a segment
    at or before the start time of the segment's pending sample. -/
theorem recording_segments_in_order (fps : Nat) (inputs : List EncoderInput)
    (hlate : ∀ call ∈ recorderMachine.trace (.waiting fps) inputs, call.before.RotatesLate call.input)
    (state : ShowcaseState) (h : recorderMachine.final (.waiting fps) inputs = .finished state) :
    state.segments.Pairwise fun a b => a.endMs ≤ b.startMs := by
  let timeline (state : ShowcaseState) : Prop := state.segments.Pairwise fun a b => a.endMs ≤ b.startMs
  have hrun : Holds Ordered timeline (recorderMachine.final (.waiting fps) inputs) := by
    refine Machine.inv_history (m := recorderMachine) (fun r _ => Holds Ordered timeline r)
      (fun call => call.before.RotatesLate call.input) ?_ (s := .waiting fps) trivial inputs hlate
    intro r input _ hr hok
    refine holds_step ?_ ?_ ?_ hr
    · exact fun fps f around e hs => start_ordered hs
    · exact fun e event around e' hr hi he ha => he.effect (hok e event around hr hi) (accept_effect ha)
    · exact fun e written state he hf => he.finish hf
  rw [h] at hrun
  exact hrun

namespace Sample

def ok : Surroundings := ⟨true, true, true⟩

/-- A frame captured `ms` milliseconds after the start. -/
def at_ (sequence ms : Nat) : EncoderInput := .event (.frame ⟨sequence, ms * 1000000⟩) ok

/-- Two frames in the last millisecond of the segment, and one at its end. -/
def inputs : List EncoderInput := [at_ 1 0, at_ 2 299999, at_ 3 299999, at_ 4 300000, .stop true]

end Sample

/-- The second frame of the last millisecond starts at 300000, so the first segment ends at 300001, after
    the second one has started. -/
theorem rotation_overlaps :
    ∃ state, recorderMachine.final (.waiting 10) Sample.inputs = .finished state ∧
      state.segments.map (fun segment => (segment.startMs, segment.endMs)) = [(0, 300001), (300000, 300100)] ∧
      ¬state.segments.Pairwise (fun a b => a.endMs ≤ b.startMs) :=
  ⟨_, rfl, by decide, by decide⟩

/-- A recording with one rotation, at the end of the segment. -/
theorem recording_segments_in_order_two :
    ∃ state, recorderMachine.final (.waiting 10) [Sample.at_ 1 0, Sample.at_ 2 300000, .stop true] = .finished state ∧
      state.segments.Pairwise fun a b => a.endMs ≤ b.startMs := by
  refine ⟨_, rfl, recording_segments_in_order 10 [Sample.at_ 1 0, Sample.at_ 2 300000, .stop true] ?_ _ rfl⟩
  intro call hcall e event around hbefore hinput segment f hactive hframe _
  simp only [Machine.trace_cons, Machine.trace_nil, List.mem_cons, List.not_mem_nil, or_false] at hcall
  rcases hcall with rfl | rfl | rfl
  · cases hbefore
  · cases hbefore
    cases hinput
    cases hframe
    cases hactive
    decide
  · cases hinput

/-- A recording of two frames. -/
theorem recording_counts_agree_two :
    ∃ state, recorderMachine.final (.waiting 10) [Sample.at_ 1 0, Sample.at_ 2 300000, .stop true] = .finished state ∧
      (state.segments.map (·.frames)).sum = state.frames :=
  ⟨_, rfl, (recording_counts_agree 10 [Sample.at_ 1 0, Sample.at_ 2 300000, .stop true] _ rfl).1⟩

end Recorder
end DccCua
