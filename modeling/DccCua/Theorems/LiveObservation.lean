import DccCua.Core.LiveObservation

/-! What the status of a live observation promises over every run: frames in increasing order, a terminal
    state that stays, and a pause fence that no frame from before the pause gets past. -/

namespace DccCua

open Runs

/-- The fence `a` is at most `b`; no fence is below every fence. -/
def FenceLe (a b : Option Nat) : Prop := ∀ f, a = some f → ∃ g, b = some g ∧ f ≤ g

theorem FenceLe.refl (a : Option Nat) : FenceLe a a := fun f h => ⟨f, h, Nat.le_refl f⟩

theorem FenceLe.trans {a b c : Option Nat} (hab : FenceLe a b) (hbc : FenceLe b c) : FenceLe a c := by
  intro f hf
  obtain ⟨g, hg, hfg⟩ := hab f hf
  obtain ⟨k, hk, hgk⟩ := hbc g hg
  exact ⟨k, hk, Nat.le_trans hfg hgk⟩

theorem fenceLe_optionMax_left (a b : Option Nat) : FenceLe a (optionMax a b) := by
  rintro f rfl
  cases b with
  | none => exact ⟨f, rfl, Nat.le_refl f⟩
  | some b => exact ⟨max f b, rfl, Nat.le_max_left f b⟩

theorem optionMax_le {a b c : Option Nat} (ha : FenceLe a c) (hb : FenceLe b c) : FenceLe (optionMax a b) c := by
  cases a with
  | none => exact hb
  | some a =>
    cases b with
    | none => exact ha
    | some b =>
      rintro f hf
      obtain ⟨g, hg, hag⟩ := ha a rfl
      obtain ⟨k, hk, hbk⟩ := hb b rfl
      obtain rfl : g = k := Option.some.inj (hg.symm.trans hk)
      obtain rfl : max a b = f := Option.some.inj hf
      exact ⟨g, hg, Nat.max_le.mpr ⟨hag, hbk⟩⟩

namespace LiveObservationStatus

/-! ### One call -/

/-- What a call can do, with the sequence it publishes. -/
inductive Effect (s s' : LiveObservationStatus) (published : Option Nat) : Prop where
  | published (frame : LiveObservationFrame) (out : published = some frame.sequence) (live : s.terminalReason = none)
      (newer : ∀ latest, s.latest = some latest → latest.sequence < frame.sequence) (latest : s'.latest = some frame)
      (fence : s'.pauseSequenceFence = s.pauseSequenceFence) (terminal : s'.terminalReason = none)
  | same (out : published = none) (latest : s'.latest = s.latest) (fence : s'.pauseSequenceFence = s.pauseSequenceFence)
      (pause : s'.pauseReason = s.pauseReason) (terminal : s'.terminalReason = s.terminalReason)
  | paused (out : published = none) (live : s.terminalReason = none) (latest : s'.latest = s.latest)
      (fence : s'.pauseSequenceFence = optionMax s.pauseSequenceFence s.latestSequence)
      (pause : s'.pauseReason ≠ none) (terminal : s'.terminalReason = none)
  | terminal (out : published = none) (latest : s'.latest = s.latest)
      (fence : s'.pauseSequenceFence = s.pauseSequenceFence) (terminal : s'.terminalReason ≠ none)

theorem publish_effect (s : LiveObservationStatus) (frame : LiveObservationFrame) :
    Effect s (s.publish frame).2 (if (s.publish frame).1 then some frame.sequence else none) := by
  unfold publish
  split
  · exact .same rfl rfl rfl rfl rfl
  · rename_i hlive
    split
    · exact .same rfl rfl rfl rfl rfl
    · rename_i hstale
      have hnone : s.terminalReason = none := by simpa using hlive
      refine .published frame rfl hnone (fun latest hlatest => ?_) rfl rfl hnone
      simpa [hlatest] using hstale

theorem recordPaused_effect (s : LiveObservationStatus) (error : ComputerUseError) :
    Effect s (s.recordPaused error) none := by
  unfold recordPaused
  split
  · exact .same rfl rfl rfl rfl rfl
  · rename_i hlive
    have hnone : s.terminalReason = none := by simpa using hlive
    exact .paused rfl hnone rfl rfl (by simp) hnone

theorem step_effect (s : LiveObservationStatus) (call : LiveObservationCall) :
    Effect s (liveObservationMachine.step s call).2 (liveObservationMachine.step s call).1 := by
  cases call with
  | publish frame => exact publish_effect s frame
  | recordError message => exact .same rfl rfl rfl rfl rfl
  | recordPaused error => exact recordPaused_effect s error
  | recordTerminal error =>
    simp only [liveObservationMachine, recordTerminal]
    split
    · exact recordPaused_effect s error
    · exact .terminal rfl rfl rfl (by simp)

/-! ### Fences -/

/-- The fence is at most the latest sequence, and below it outside of a pause and of the end. -/
structure Fenced (s : LiveObservationStatus) : Prop where
  bounded : FenceLe s.pauseSequenceFence s.latestSequence
  below : s.pauseReason = none → s.terminalReason = none → ∀ frame, s.latest = some frame →
    ∀ fence, s.pauseSequenceFence = some fence → fence < frame.sequence

theorem latestSequence_eq {s s' : LiveObservationStatus} (h : s'.latest = s.latest) :
    s'.latestSequence = s.latestSequence := by
  rw [latestSequence, latestSequence, h]

theorem Fenced.effect {s s' : LiveObservationStatus} {published : Option Nat} (h : Fenced s)
    (he : Effect s s' published) : Fenced s' := by
  cases he with
  | published frame _ _ newer latest fence _ =>
    -- The frame is newer than the latest one, which is at or past the fence.
    have hlt : ∀ f, s.pauseSequenceFence = some f → f < frame.sequence := by
      intro f hf
      obtain ⟨g, hg, hfg⟩ := h.bounded f hf
      obtain ⟨old, hold, rfl⟩ := Option.map_eq_some_iff.mp hg
      exact Nat.lt_of_le_of_lt hfg (newer old hold)
    refine ⟨fun f hf => ?_, fun _ _ frame' hframe f hf => ?_⟩
    · rw [fence] at hf
      exact ⟨frame.sequence, by rw [latestSequence, latest, Option.map_some], Nat.le_of_lt (hlt f hf)⟩
    · rw [latest, Option.some.injEq] at hframe
      rw [fence] at hf
      exact hframe ▸ hlt f hf
  | same _ latest fence pause terminal =>
    refine ⟨?_, ?_⟩
    · rw [fence, latestSequence_eq latest]
      exact h.bounded
    · rw [fence, latest, pause, terminal]
      exact h.below
  | paused _ _ latest fence pause _ =>
    refine ⟨?_, fun hpause => absurd hpause pause⟩
    rw [fence, latestSequence_eq latest]
    exact optionMax_le h.bounded (FenceLe.refl _)
  | terminal _ latest fence terminal =>
    refine ⟨?_, fun _ hterminal => absurd hterminal terminal⟩
    rw [fence, latestSequence_eq latest]
    exact h.bounded

theorem Effect.fence_le {s s' : LiveObservationStatus} {published : Option Nat} (he : Effect s s' published) :
    FenceLe s.pauseSequenceFence s'.pauseSequenceFence := by
  cases he with
  | paused _ _ _ fence _ _ =>
    rw [fence]
    exact fenceLe_optionMax_left _ _
  | published _ _ _ _ _ fence _ => exact fence ▸ FenceLe.refl _
  | same _ _ fence _ _ => exact fence ▸ FenceLe.refl _
  | terminal _ _ fence _ => exact fence ▸ FenceLe.refl _

theorem Effect.terminal_stays {s s' : LiveObservationStatus} {published : Option Nat} (he : Effect s s' published)
    (h : s.terminalReason ≠ none) : s'.terminalReason ≠ none ∧ published = none := by
  cases he with
  | published _ _ live _ _ _ _ => exact absurd live h
  | same out _ _ _ terminal => exact ⟨terminal ▸ h, out⟩
  | paused _ live _ _ _ _ => exact absurd live h
  | terminal out _ _ terminal => exact ⟨terminal, out⟩

/-! ### Runs -/

abbrev LiveCall := Call LiveObservationStatus LiveObservationCall (Option Nat)

/-- The sequences that the calls published. -/
def published (calls : List LiveCall) : List Nat := calls.filterMap (·.output)

/-- What a status keeps of the calls that led to it. -/
structure Follows (s : LiveObservationStatus) (past : List LiveCall) : Prop where
  increasing : (published past).Pairwise (· < ·)
  reached : ∀ sequence ∈ published past, FenceLe (some sequence) s.latestSequence
  fences : ∀ call ∈ past, FenceLe call.after.pauseSequenceFence s.pauseSequenceFence

theorem Follows.step {s : LiveObservationStatus} {past : List LiveCall} (h : Follows s past) (call : LiveObservationCall) :
    Follows (liveObservationMachine.step s call).2 (past ++ [liveObservationMachine.call s call]) := by
  have he := step_effect s call
  have hfences : ∀ c ∈ past ++ [liveObservationMachine.call s call],
      FenceLe c.after.pauseSequenceFence (liveObservationMachine.step s call).2.pauseSequenceFence := by
    intro c hc
    rcases List.mem_append.mp hc with hc | hc
    · exact (h.fences c hc).trans he.fence_le
    · rw [List.mem_singleton.mp hc]
      exact FenceLe.refl _
  have hpublished : published (past ++ [liveObservationMachine.call s call]) =
      published past ++ (liveObservationMachine.step s call).1.toList := by
    simp only [published, List.filterMap_append, Machine.call]
    cases (liveObservationMachine.step s call).1 <;> rfl
  have silent : (liveObservationMachine.step s call).1 = none → (liveObservationMachine.step s call).2.latest = s.latest →
      Follows (liveObservationMachine.step s call).2 (past ++ [liveObservationMachine.call s call]) := by
    intro hout hlatest
    refine ⟨?_, ?_, hfences⟩
    · rw [hpublished, hout, Option.toList_none, List.append_nil]
      exact h.increasing
    · rw [hpublished, hout, Option.toList_none, List.append_nil, latestSequence_eq hlatest]
      exact h.reached
  cases he with
  | published frame out _ newer latest _ _ =>
    have hbelow : ∀ sequence ∈ published past, sequence < frame.sequence := by
      intro sequence hmem
      obtain ⟨g, hg, hle⟩ := h.reached sequence hmem sequence rfl
      obtain ⟨old, hold, rfl⟩ := Option.map_eq_some_iff.mp hg
      exact Nat.lt_of_le_of_lt hle (newer old hold)
    have hseq : (liveObservationMachine.step s call).2.latestSequence = some frame.sequence := by
      rw [latestSequence, latest, Option.map_some]
    refine ⟨?_, ?_, hfences⟩
    · rw [hpublished, out, Option.toList_some, List.pairwise_append]
      refine ⟨h.increasing, List.pairwise_singleton _ _, fun a ha b hb => ?_⟩
      rw [List.mem_singleton.mp hb]
      exact hbelow a ha
    · rw [hpublished, out, hseq]
      intro sequence hmem f hf
      obtain rfl : sequence = f := Option.some.inj hf
      refine ⟨frame.sequence, rfl, ?_⟩
      rcases List.mem_append.mp hmem with hmem | hmem
      · exact Nat.le_of_lt (hbelow _ hmem)
      · rw [Option.toList_some, List.mem_singleton] at hmem
        exact Nat.le_of_eq hmem
  | same out latest _ _ _ => exact silent out latest
  | paused out _ latest _ _ _ => exact silent out latest
  | terminal out latest _ _ => exact silent out latest

theorem eligible_above {s : LiveObservationStatus} {sequence : Nat} (h : s.validateFrameEligibility sequence = .ok ()) :
    ∀ fence, s.pauseSequenceFence = some fence → fence < sequence := by
  intro fence hfence
  unfold validateFrameEligibility at h
  split at h
  · cases h
  · split at h
    · cases h
    · rename_i hany
      simpa [hfence] using hany

/-- Over every run: the published sequences increase; a terminal status stays terminal and publishes
    nothing; the pause fence never decreases; outside of a pause and of the end the latest frame is past the
    fence; and an eligible sequence is past every fence recorded before. -/
theorem live_observation_fenced (calls : List LiveObservationCall) :
    let trace := liveObservationMachine.trace initial calls
    let s := liveObservationMachine.final initial calls
    (published trace).Pairwise (· < ·) ∧
    trace.Pairwise (fun a b => a.after.terminalReason ≠ none → b.after.terminalReason ≠ none ∧ b.output = none) ∧
    (∀ call ∈ trace, FenceLe call.before.pauseSequenceFence call.after.pauseSequenceFence) ∧
    (s.pauseReason = none → s.terminalReason = none → ∀ frame, s.latest = some frame →
      ∀ fence, s.pauseSequenceFence = some fence → fence < frame.sequence) ∧
    (∀ sequence, s.validateFrameEligibility sequence = .ok () →
      ∀ call ∈ trace, ∀ fence, call.after.pauseSequenceFence = some fence → fence < sequence) := by
  intro trace s
  have hfollows : Follows s trace :=
    Machine.inv_history (m := liveObservationMachine) Follows (fun _ => True) (fun _ call _ h _ => h.step call)
      ⟨List.Pairwise.nil, by simp [published], by simp⟩ calls (fun _ _ => trivial)
  have hfenced : Fenced s :=
    Machine.inv_final (m := liveObservationMachine) (fun s call h => h.effect (step_effect s call)) calls
      ⟨by simp [FenceLe, initial], by simp [initial]⟩
  have keep : ∀ (_ : LiveObservationStatus) (_ : LiveObservationCall), True → True := fun _ _ h => h
  have hterminal := Machine.never_after (m := liveObservationMachine) keep
    (P := fun s => s.terminalReason ≠ none) (A := fun call => call.after.terminalReason ≠ none)
    (B := fun call => ¬(call.after.terminalReason ≠ none ∧ call.output = none)) (fun _ _ _ h => h)
    (fun s call _ h => ((step_effect s call).terminal_stays h).1)
    (fun s call _ h => not_not.mpr ((step_effect s call).terminal_stays h)) calls (s := initial) trivial
  refine ⟨hfollows.increasing, hterminal.imp fun h ha => not_not.mp (h ha), ?_, hfenced.below, ?_⟩
  · intro call hmem
    rw [Machine.eq_call_of_mem hmem]
    exact (step_effect _ _).fence_le
  · intro sequence hok call hmem fence hfence
    obtain ⟨g, hg, hle⟩ := hfollows.fences call hmem fence hfence
    exact Nat.lt_of_le_of_lt hle (eligible_above hok g hg)

end LiveObservationStatus
end DccCua
