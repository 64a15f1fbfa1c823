import DccCua.Host.SessionEvents
import Mathlib.Data.List.Chain

/-! The queue of session events keeps the last `capacity` of the transitions it has recorded, under
    consecutive sequences, and a page is exactly what a client with this cursor has not seen, unless it
    says that the client must start again. -/

namespace DccCua

open Runs

/-! ### Chains of transitions -/

/-- Each transition of `l` starts where the one before it ended, and the last one ended at `now`. -/
structure Chained {ε τ : Type} (previous current : ε → τ) (l : List ε) (now : τ) : Prop where
  chain : l.IsChain fun a b => current a = previous b
  last : ∀ e ∈ l.getLast?, current e = now

theorem Chained.snoc {ε τ : Type} {previous current : ε → τ} {l : List ε} {now : τ} (h : Chained previous current l now)
    {e : ε} (he : previous e = now) : Chained previous current (l ++ [e]) (current e) where
  chain := by
    refine List.isChain_append.mpr ⟨h.chain, List.isChain_singleton e, ?_⟩
    intro a ha b hb
    obtain rfl : e = b := by simpa using hb
    exact (h.last a ha).trans he.symm
  last := by simp

/-! ### Eviction -/

namespace SessionEventQueue

theorem evict_eq_drop (capacity : Nat) (events : List ComputerUseSessionEventEnvelope) :
    evict capacity events = events.drop (events.length - capacity) := by
  induction events with
  | nil => rw [evict, List.drop_nil]
  | cons event events ih =>
    by_cases h : capacity < events.length + 1
    · have hlen : (event :: events).length - capacity = events.length - capacity + 1 := by
        rw [List.length_cons]
        omega
      rw [evict, if_pos h, ih, hlen, List.drop_succ_cons]
    · have hlen : (event :: events).length - capacity = 0 := by
        rw [List.length_cons]
        omega
      rw [evict, if_neg h, hlen, List.drop_zero]

theorem evict_snoc (capacity : Nat) (history : List ComputerUseSessionEventEnvelope)
    (event : ComputerUseSessionEventEnvelope) :
    evict capacity (history.drop (history.length - capacity) ++ [event]) =
      (history ++ [event]).drop ((history ++ [event]).length - capacity) := by
  rw [evict_eq_drop, ← List.drop_append_of_le_length (Nat.sub_le _ _), List.drop_drop]
  congr 1
  simp only [List.length_drop, List.length_append, List.length_singleton]
  omega

/-! ### One observation -/

/-- What an observation that changes no status leaves as it is. -/
structure Same (q q' : SessionEventQueue) : Prop where
  input : q'.inputCurrent.status = q.inputCurrent.status
  target : q'.targetCurrent.status = q.targetCurrent.status
  events : q'.events = q.events
  latest : q'.latestSequence = q.latestSequence
  capacity : q'.capacity = q.capacity

/-- The transition `event` is recorded. -/
structure Records (q : SessionEventQueue) (event : ComputerUseSessionEventEnvelope) (q' : SessionEventQueue) : Prop where
  latest : q'.latestSequence = saturatingAdd q.latestSequence 1
  sequence : event.sequence = q'.latestSequence
  events : q'.events = evict q.capacity (q.events ++ [event])
  capacity : q'.capacity = q.capacity
  component :
    (∃ e, event = .input e ∧ e.previous.status = q.inputCurrent.status ∧
      e.current.status = q'.inputCurrent.status ∧ q'.targetCurrent.status = q.targetCurrent.status) ∨
    (∃ e, event = .target e ∧ e.previous.status = q.targetCurrent.status ∧
      e.current.status = q'.targetCurrent.status ∧ q'.inputCurrent.status = q.inputCurrent.status)

theorem step_cases (q : SessionEventQueue) (observation : Observation) :
    ((eventQueueMachine.step q observation).1 = none ∧ Same q (eventQueueMachine.step q observation).2) ∨
    ∃ event, (eventQueueMachine.step q observation).1 = some event ∧
      Records q event (eventQueueMachine.step q observation).2 := by
  cases observation with
  | input readiness observedAt =>
    by_cases h : q.inputCurrent.status = readiness.status
    · left
      simp only [eventQueueMachine, observe, if_pos h]
      exact ⟨trivial, rfl, rfl, rfl, rfl, rfl⟩
    · right
      simp only [eventQueueMachine, observe, if_neg h]
      exact ⟨_, rfl, rfl, rfl, rfl, rfl, Or.inl ⟨_, rfl, rfl, rfl, rfl⟩⟩
  | target availability observedAt =>
    by_cases h : q.targetCurrent.status = availability.status
    · left
      simp only [eventQueueMachine, observeTarget, if_pos h]
      exact ⟨trivial, rfl, rfl, rfl, rfl, rfl⟩
    · right
      simp only [eventQueueMachine, observeTarget, if_neg h]
      exact ⟨_, rfl, rfl, rfl, rfl, rfl, Or.inr ⟨_, rfl, rfl, rfl, rfl⟩⟩

/-! ### Runs -/

/-- The queue after the transitions `history`, as long as sequences do not run out. -/
structure Recorded (q : SessionEventQueue) (history : List ComputerUseSessionEventEnvelope) : Prop where
  sequences : history.map (·.sequence) = List.range' 2 history.length
  latest : q.latestSequence = history.length + 1
  events : q.events = history.drop (history.length - q.capacity)
  inputs : Chained (·.previous.status) (·.current.status) (history.filterMap (·.input?)) q.inputCurrent.status
  targets : Chained (·.previous.status) (·.current.status) (history.filterMap (·.target?)) q.targetCurrent.status

variable {q q' : SessionEventQueue} {history : List ComputerUseSessionEventEnvelope}
  {event : ComputerUseSessionEventEnvelope}

theorem Recorded.same (h : Recorded q history) (hs : Same q q') : Recorded q' history where
  sequences := h.sequences
  latest := hs.latest.trans h.latest
  events := by rw [hs.events, hs.capacity]; exact h.events
  inputs := hs.input ▸ h.inputs
  targets := hs.target ▸ h.targets

theorem Recorded.snoc (h : Recorded q history) (hr : Records q event q') (hlatest : q'.latestSequence < u64Max) :
    Recorded q' (history ++ [event]) := by
  have hnext : q'.latestSequence = q.latestSequence + 1 := by
    have := hr.latest
    unfold saturatingAdd at this
    omega
  have hcomponents :
      Chained (·.previous.status) (·.current.status) ((history ++ [event]).filterMap (·.input?)) q'.inputCurrent.status ∧
      Chained (·.previous.status) (·.current.status) ((history ++ [event]).filterMap (·.target?))
        q'.targetCurrent.status := by
    rw [List.filterMap_append, List.filterMap_append]
    rcases hr.component with ⟨e, rfl, hprev, hcur, hother⟩ | ⟨e, rfl, hprev, hcur, hother⟩
    · exact ⟨hcur ▸ h.inputs.snoc hprev, by simpa [hother, ComputerUseSessionEventEnvelope.target?] using h.targets⟩
    · exact ⟨by simpa [hother, ComputerUseSessionEventEnvelope.input?] using h.inputs, hcur ▸ h.targets.snoc hprev⟩
  refine ⟨?_, ?_, ?_, hcomponents.1, hcomponents.2⟩
  · rw [List.map_append, h.sequences, List.length_append, List.map_singleton, hr.sequence, hnext, h.latest,
      List.length_singleton, List.range'_concat]
    congr 2
    omega
  · rw [hnext, h.latest, List.length_append, List.length_singleton]
  · rw [hr.events, h.events, hr.capacity, evict_snoc]

/-- The transitions that a run has recorded. -/
def recorded (calls : List (Call SessionEventQueue Observation (Option ComputerUseSessionEventEnvelope))) :
    List ComputerUseSessionEventEnvelope := calls.filterMap (·.output)

theorem recorded_run {start : SessionEventQueue} (hstart : Recorded start []) (observations : List Observation)
    (hlatest : (eventQueueMachine.final start observations).latestSequence < u64Max) :
    Recorded (eventQueueMachine.final start observations) (recorded (eventQueueMachine.trace start observations)) ∧
      (eventQueueMachine.final start observations).capacity = start.capacity := by
  refine Machine.inv_history (m := eventQueueMachine)
    (fun q past => q.latestSequence < u64Max → Recorded q (recorded past) ∧ q.capacity = start.capacity)
    (fun _ => True) ?_ (fun _ => ⟨hstart, rfl⟩) observations (fun _ _ => trivial) hlatest
  intro q observation past ih _ hbound
  rcases step_cases q observation with ⟨hnone, hsame⟩ | ⟨event, hsome, hrecords⟩
  · obtain ⟨h, hcap⟩ := ih (hsame.latest ▸ hbound)
    have hpast : recorded (past ++ [eventQueueMachine.call q observation]) = recorded past := by
      simp [recorded, hnone]
    rw [hpast]
    exact ⟨h.same hsame, hsame.capacity.trans hcap⟩
  · have hbefore : q.latestSequence < u64Max := by
      have := hrecords.latest
      unfold saturatingAdd at this
      omega
    obtain ⟨h, hcap⟩ := ih hbefore
    have hpast : recorded (past ++ [eventQueueMachine.call q observation]) = recorded past ++ [event] := by
      simp [recorded, hsome]
    rw [hpast]
    exact ⟨h.snoc hrecords hbound, hrecords.capacity.trans hcap⟩

/-! ### Pages -/

theorem Recorded.events_length (h : Recorded q history) : q.events.length = min history.length q.capacity := by
  rw [h.events, List.length_drop]
  omega

/-- The transition at position `i` has sequence `i + 2`. -/
theorem Recorded.sequence_eq (h : Recorded q history) {i : Nat} (hi : history[i]? = some event) :
    event.sequence = i + 2 := by
  have hlt : i < history.length := (List.getElem?_eq_some_iff.mp hi).1
  have hmap : (history.map (·.sequence))[i]? = some event.sequence := by simp [hi]
  rw [h.sequences, List.getElem?_range' hlt, Option.some.injEq] at hmap
  omega

theorem Recorded.mem_sequence (h : Recorded q history) (hmem : event ∈ history) :
    ∃ i, history[i]? = some event ∧ event.sequence = i + 2 := by
  obtain ⟨i, hi⟩ := List.mem_iff_getElem?.mp hmem
  exact ⟨i, hi, h.sequence_eq hi⟩

/-- The stored transitions end at the latest sequence. -/
theorem Recorded.stored_sequences (h : Recorded q history) :
    q.events.map (·.sequence) = List.range' (q.latestSequence + 1 - q.events.length) q.events.length := by
  have hlen := h.events_length
  rw [h.latest, hlen, h.events, List.map_drop, h.sequences, List.drop_range']
  congr 1 <;> omega

/-- The oldest stored sequence, when something is stored. -/
theorem Recorded.head_sequence (h : Recorded q history) (hcap : 1 ≤ q.capacity) (hne : history ≠ []) :
    q.events.head?.map (·.sequence) = some (history.length - q.capacity + 2) := by
  have hpos : 0 < history.length := List.length_pos_iff.mpr hne
  have hlt : history.length - q.capacity < history.length := by omega
  rw [h.events, List.head?_drop]
  cases hget : history[history.length - q.capacity]? with
  | none => exact absurd (List.getElem?_eq_none_iff.mp hget) (by omega)
  | some event => rw [Option.map_some, h.sequence_eq hget]

/-- The page asks for a resync exactly when the cursor is past the end or before the stored part. -/
theorem Recorded.resync_iff (h : Recorded q history) (hcap : 1 ≤ q.capacity) (hlatest : q.latestSequence < u64Max)
    (cursor : Nat) (timedOut : Bool) :
    (q.pageAfter cursor timedOut).resyncRequired = true ↔
      q.latestSequence < cursor ∨ history ≠ [] ∧ cursor < history.length - q.capacity + 1 := by
  have hl := h.latest
  by_cases hnil : history = []
  · have hevents : q.events = [] := by rw [h.events, hnil, List.drop_nil]
    simp [pageAfter, hevents, hnil]
  · have hhead := h.head_sequence hcap hnil
    simp only [pageAfter, hhead, Option.any_some, Bool.or_eq_true, decide_eq_true_eq, ne_eq, hnil,
      not_false_eq_true, true_and]
    unfold saturatingAdd
    omega

theorem Recorded.page_complete (h : Recorded q history) (hcap : 1 ≤ q.capacity) (hlatest : q.latestSequence < u64Max)
    {cursor : Nat} {timedOut : Bool} (hpage : (q.pageAfter cursor timedOut).resyncRequired = false) :
    (q.pageAfter cursor timedOut).events = history.filter fun event => cursor < event.sequence := by
  have hresync := (not_congr (h.resync_iff hcap hlatest cursor timedOut)).mp (by rw [hpage]; exact Bool.false_ne_true)
  have hdropped : (history.take (history.length - q.capacity)).filter (fun event => cursor < event.sequence) = [] := by
    rw [List.filter_eq_nil_iff]
    intro event hmem hlt
    have hne : history ≠ [] := List.ne_nil_of_mem (List.mem_of_mem_take hmem)
    obtain ⟨i, hi⟩ := List.mem_iff_getElem?.mp hmem
    rw [List.getElem?_take] at hi
    split at hi
    · have hseq := h.sequence_eq hi
      simp only [decide_eq_true_eq] at hlt
      exact hresync (Or.inr ⟨hne, by omega⟩)
    · cases hi
  calc (q.pageAfter cursor timedOut).events
      = (history.drop (history.length - q.capacity)).filter (fun event => cursor < event.sequence) := by
        rw [← h.events]
        rfl
    _ = (history.take (history.length - q.capacity) ++ history.drop (history.length - q.capacity)).filter
          (fun event => cursor < event.sequence) := by
        rw [List.filter_append, hdropped, List.nil_append]
    _ = history.filter fun event => cursor < event.sequence := by rw [List.take_append_drop]

theorem Recorded.resync_of_dropped (h : Recorded q history) (hcap : 1 ≤ q.capacity) (hlatest : q.latestSequence < u64Max)
    {cursor : Nat} (timedOut : Bool) (hmem : event ∈ history) (hlt : cursor < event.sequence)
    (hdropped : event ∉ q.events) : (q.pageAfter cursor timedOut).resyncRequired = true := by
  obtain ⟨i, hi, hseq⟩ := h.mem_sequence hmem
  rw [h.resync_iff hcap hlatest]
  refine Or.inr ⟨List.ne_nil_of_mem hmem, ?_⟩
  by_contra hcursor
  refine hdropped ?_
  rw [h.events, List.mem_iff_getElem?]
  refine ⟨i - (history.length - q.capacity), ?_⟩
  rw [List.getElem?_drop, ← hi]
  congr 1
  omega

/-- Whatever is observed, the stored sequences are consecutive and end at the latest one, at most
    `capacity` are stored, the transitions of each component chain, and a page without a resync is all
    that was recorded after its cursor; a resync is asked for whenever one of these was dropped or the
    cursor is past the latest sequence. -/
theorem session_events_complete (target : ComputerUseInputTarget) (readiness : ComputerUseInputReadiness)
    (availability : ComputerUseTargetAvailability) (restoreActivateAvailable : Bool) (observedAt capacity : Nat)
    (observations : List Observation) :
    let start := withCapacity target readiness availability restoreActivateAvailable observedAt capacity
    let q := eventQueueMachine.final start observations
    let history := recorded (eventQueueMachine.trace start observations)
    q.latestSequence < u64Max →
      q.events.map (·.sequence) = List.range' (q.latestSequence + 1 - q.events.length) q.events.length ∧
      (q.events.map (·.sequence)).Pairwise (· < ·) ∧
      q.events.length ≤ q.capacity ∧ q.capacity = max capacity 1 ∧
      (history.filterMap (·.input?)).IsChain (fun a b => a.current.status = b.previous.status) ∧
      (history.filterMap (·.target?)).IsChain (fun a b => a.current.status = b.previous.status) ∧
      ∀ cursor timedOut,
        ((q.pageAfter cursor timedOut).resyncRequired = true ∨
          (q.pageAfter cursor timedOut).events = history.filter fun event => cursor < event.sequence) ∧
        ((∃ event ∈ history, cursor < event.sequence ∧ event ∉ q.events) ∨ q.latestSequence < cursor →
          (q.pageAfter cursor timedOut).resyncRequired = true) := by
  intro start q history hlatest
  have hstart : Recorded start [] :=
    ⟨rfl, rfl, List.drop_nil.symm, ⟨List.isChain_nil, by simp⟩, ⟨List.isChain_nil, by simp⟩⟩
  obtain ⟨h, hcapacity⟩ := recorded_run hstart observations hlatest
  have hcap : 1 ≤ q.capacity := hcapacity ▸ Nat.le_max_right capacity 1
  refine ⟨h.stored_sequences, ?_, ?_, hcapacity, h.inputs.chain, h.targets.chain, fun cursor timedOut => ⟨?_, ?_⟩⟩
  · rw [h.stored_sequences]
    exact List.pairwise_lt_range'
  · rw [h.events_length]
    exact Nat.min_le_right _ _
  · cases hpage : (q.pageAfter cursor timedOut).resyncRequired with
    | true => exact Or.inl rfl
    | false => exact Or.inr (h.page_complete hcap hlatest hpage)
  · rintro (⟨event, hmem, hlt, hdropped⟩ | hpast)
    · exact h.resync_of_dropped hcap hlatest timedOut hmem hlt hdropped
    · exact (h.resync_iff hcap hlatest cursor timedOut).mpr (Or.inl hpast)

namespace Sample

def target : ComputerUseInputTarget := ⟨"s", 1, 2⟩

def ready : ComputerUseInputReadiness := ⟨.ready, "interactive_desktop_ready", none⟩

def suspended : ComputerUseInputReadiness := ⟨.suspended, "desktop_locked", some "locked"⟩

def available : ComputerUseTargetAvailability := ⟨.available, "target_available", true, false, true⟩

end Sample

/-- A queue for one event, after the input was suspended and resumed: the cursor 1 has lost an event, the
    cursor 2 has not. -/
theorem session_events_complete_two :
    let start := withCapacity Sample.target Sample.ready Sample.available true 0 1
    let q := eventQueueMachine.final start [.input Sample.suspended 1, .input Sample.ready 2]
    (q.pageAfter 1 false).resyncRequired = true ∧ (q.pageAfter 2 false).resyncRequired = false ∧
      q.events.length ≤ q.capacity :=
  ⟨by decide, by decide,
    (session_events_complete Sample.target Sample.ready Sample.available true 0 1
      [.input Sample.suspended 1, .input Sample.ready 2] (by decide)).2.2.1⟩

end SessionEventQueue
end DccCua
