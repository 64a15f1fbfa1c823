import DccCua.Indicator.InputSuppression
import Mathlib.Data.List.Nodup

/-! # Input suppression

While a guard is held and the renderer runs, its surfaces are hidden and its loop does not present them. The hidden flag
is set by the renderer, cleared with the last guard and by the stop, and shared by later calls: that it never outlives
the hidden state is the invariant `Inv.covered`. -/

namespace DccCua

open Runs

namespace InputSuppression
variable {s : InputSuppression} {call : Nat}

structure Inv (s : InputSuppression) : Prop where
  counted : s.requests.holders = s.guards.length
  distinct : (s.guards.map (·.1)).Nodup
  running : s.requests.hidden = true → s.requests.stopped = false
  asked : s.requests.hidden = true → 0 < s.requests.holders
  /-- Hidden surfaces are not presented by the loop. -/
  covered : s.requests.hidden = true → s.renderer ≠ .presenting ∧ (s.renderer = .looping → s.shown = false)
  /-- A guard was returned under the flag. -/
  held : ∀ call, (call, .held) ∈ s.guards → s.requests.stopped = true ∨ s.requests.hidden = true

theorem inv_start (shown : Bool) : Inv (start shown) where
  counted := rfl
  distinct := List.nodup_nil
  running := by simp [start]
  asked := by simp [start]
  covered := by simp [start]
  held call hmem := by simp [start] at hmem

/-! ### The list of guards -/

theorem mem_of_step? {step : AcquireStep} (h : s.step? call = some step) : (call, step) ∈ s.guards := by
  obtain ⟨before, after, heq, -⟩ := List.lookup_eq_some_iff.mp h
  rw [heq]
  exact List.mem_append_right _ List.mem_cons_self

theorem not_mem_of_step? (h : s.step? call = none) : call ∉ s.guards.map (·.1) := by
  intro hmem
  obtain ⟨guard, hguard, rfl⟩ := List.mem_map.mp hmem
  have hne := List.lookup_eq_none_iff.mp h guard hguard
  simp at hne

theorem moveTo_ids (step : AcquireStep) : (s.moveTo call step).guards.map (·.1) = s.guards.map (·.1) := by
  unfold moveTo
  rw [List.map_map]
  refine List.map_congr_left fun guard _ => ?_
  by_cases hcall : guard.1 = call
  · simp [hcall]
  · simp [hcall]

theorem mem_moveTo {step : AcquireStep} {guard : Nat × AcquireStep} (h : guard ∈ (s.moveTo call step).guards) :
    guard = (call, step) ∨ guard ∈ s.guards := by
  obtain ⟨old, hold, heq⟩ := List.mem_map.mp h
  split at heq
  · exact Or.inl heq.symm
  · exact Or.inr (heq ▸ hold)

/-- One of the calls leaves the list. -/
theorem length_without (hdistinct : (s.guards.map (·.1)).Nodup) {step : AcquireStep} (h : (call, step) ∈ s.guards) :
    (s.guards.filter (·.1 ≠ call)).length + 1 = s.guards.length := by
  generalize s.guards = guards at hdistinct h
  induction guards with
  | nil => cases h
  | cons guard guards ih =>
    obtain ⟨hnot, hrest⟩ := List.nodup_cons.mp (List.map_cons ▸ hdistinct)
    rcases List.mem_cons.mp h with rfl | hmem
    · have hall : guards.filter (·.1 ≠ call) = guards := by
        refine List.filter_eq_self.mpr fun other hother => decide_eq_true fun heq => hnot ?_
        exact List.mem_map.mpr ⟨other, hother, heq⟩
      rw [List.filter_cons_of_neg (by simp), hall, List.length_cons]
    · have hne : guard.1 ≠ call := fun heq => hnot (List.mem_map.mpr ⟨(call, step), hmem, heq.symm⟩)
      rw [List.filter_cons_of_pos (by simpa using hne), List.length_cons, ih hrest hmem, List.length_cons]

/-! ### The steps -/

/-- A call that moves on under the flag, or without its guard. -/
theorem Inv.moveTo (h : Inv s) (call : Nat) {step : AcquireStep}
    (hheld : step = .held → s.requests.stopped = true ∨ s.requests.hidden = true) : Inv (s.moveTo call step) where
  counted := h.counted.trans (List.length_map _).symm
  distinct := (moveTo_ids step).symm ▸ h.distinct
  running := h.running
  asked := h.asked
  covered := h.covered
  held other hmem := by
    rcases mem_moveTo hmem with heq | hold
    · exact hheld (Prod.ext_iff.mp heq).2.symm
    · exact h.held other hold

theorem inv_recheck (h : Inv s) (call : Nat) (valid expired : Bool) : Inv (s.recheck call valid expired).2 := by
  unfold recheck
  split
  · exact h.moveTo call fun heq => by cases heq
  split
  · rename_i hhidden
    exact h.moveTo call fun _ => Or.inr hhidden
  split
  · exact h.moveTo call fun heq => by cases heq
  · exact h

theorem inv_acquire (h : Inv s) (call : Nat) (valid recheck expired : Bool) : Inv (s.acquire call valid recheck expired).2 := by
  unfold acquire
  split
  · exact h
  rename_i hfree
  split
  · exact h
  split
  · exact h
  have hnew : call ∉ s.guards.map (·.1) := not_mem_of_step? (Option.not_isSome_iff_eq_none.mp hfree)
  have hcounted : Inv { s with
      requests := { s.requests with holders := s.requests.holders + 1 }
      guards := (call, .waiting) :: s.guards } := by
    refine ⟨congrArg (· + 1) h.counted, List.nodup_cons.mpr ⟨hnew, h.distinct⟩, h.running, fun _ => Nat.succ_pos _,
      h.covered, fun other hmem => ?_⟩
    rcases List.mem_cons.mp hmem with heq | hold
    · cases heq
    · exact h.held other hold
  exact inv_recheck hcounted call recheck expired

theorem inv_dropGuard (h : Inv s) (call : Nat) : Inv (s.dropGuard call).2 := by
  have dropped : ∀ step, s.step? call = some step → Inv
      { s with
        requests :=
          { s.requests with
            holders := s.requests.holders - 1
            hidden := if s.requests.holders - 1 = 0 then false else s.requests.hidden }
        guards := s.guards.filter (·.1 ≠ call) } := by
    intro step hstep
    have hlength := length_without h.distinct (mem_of_step? hstep)
    have hcounted := h.counted
    have hflag : (if s.requests.holders - 1 = 0 then false else s.requests.hidden) = true →
        s.requests.holders - 1 ≠ 0 ∧ s.requests.hidden = true := by
      split
      · exact fun hfalse => by cases hfalse
      · exact fun hhidden => ⟨‹_›, hhidden⟩
    refine ⟨?_, ?_, fun hhidden => h.running (hflag hhidden).2, fun hhidden => Nat.pos_of_ne_zero (hflag hhidden).1,
      fun hhidden => h.covered (hflag hhidden).2, fun other hmem => ?_⟩
    · show s.requests.holders - 1 = (s.guards.filter (·.1 ≠ call)).length
      omega
    · exact h.distinct.sublist (List.filter_sublist.map _)
    · -- A guard that is left keeps the flag.
      have hleft : 0 < (s.guards.filter (·.1 ≠ call)).length := List.length_pos_of_mem hmem
      rw [if_neg (by omega)]
      exact h.held other (List.mem_of_mem_filter hmem)
  unfold dropGuard
  dsimp only
  split
  · exact dropped _ ‹_›
  · exact dropped _ ‹_›
  · exact h

theorem inv_hideIfRequested (h : Inv s) (confirmed shown : Bool) : Inv (s.hideIfRequested confirmed shown) := by
  unfold hideIfRequested
  split
  · exact h
  split
  · exact { h with covered := fun _ => ⟨by simp, fun hlooping => by cases hlooping⟩ }
  rename_i hrunning
  split
  · rename_i hnone
    refine { h with covered := fun hhidden => absurd hnone (Nat.ne_of_gt (h.asked hhidden)) }
  rename_i hasked
  split
  · rename_i hlooping _
    exact { h with
      running := fun _ => Bool.eq_false_iff.mpr hrunning
      asked := fun _ => Nat.pos_of_ne_zero hasked
      covered := fun _ => ⟨fun hpresenting => hlooping (by rw [hpresenting]; decide), fun _ => rfl⟩
      held := fun _ _ => Or.inr rfl }
  · exact { h with covered := fun _ => ⟨by simp, fun hlooping => by cases hlooping⟩ }

theorem inv_present (h : Inv s) (shown : Bool) : Inv (s.present shown) := by
  unfold present
  split
  · rename_i hpresenting
    exact { h with covered := fun hhidden => absurd hpresenting (h.covered hhidden).1 }
  · exact h

theorem inv_leave (h : Inv s) : Inv s.leave :=
  { h with covered := fun _ => ⟨by simp [leave], fun hlooping => by cases hlooping⟩ }

theorem inv_stop (h : Inv s) : Inv s.stop :=
  { h with
    running := fun hhidden => by cases hhidden
    asked := fun hhidden => by cases hhidden
    covered := fun hhidden => by cases hhidden
    held := fun _ _ => Or.inl rfl }

theorem inv_step (s : InputSuppression) (input : SuppressionInput) (h : Inv s) :
    Inv (inputSuppressionMachine.step s input).2 := by
  cases input with
  | acquire call valid recheck expired => exact inv_acquire h call valid recheck expired
  | recheck call valid expired =>
    unfold inputSuppressionMachine
    dsimp only
    split
    · exact inv_recheck h call valid expired
    · exact h
  | drop call => exact inv_dropGuard h call
  | hideIfRequested confirmed shown => exact inv_hideIfRequested h confirmed shown
  | present shown => exact inv_present h shown
  | leave => exact inv_leave h
  | stop => exact inv_stop h

/-! ### What a call returns -/

/-- A call that has failed is not counted, and the others are counted as before. -/
def NotCounted (s next : InputSuppression) (call : Nat) : Prop :=
  (∀ step, (call, step) ∉ next.guards) ∧ next.guards = s.guards.filter (·.1 ≠ call)

theorem recheck_output (s : InputSuppression) (call other : Nat) (valid expired : Bool) :
    (s.recheck call valid expired).1 ≠ .failed other := by
  unfold recheck
  split
  · simp
  split
  · simp
  split <;> simp

theorem recheck_acquired {call other : Nat} {valid expired : Bool} (hcall : ∃ step, (call, step) ∈ s.guards)
    (h : (s.recheck call valid expired).1 = .acquired other) : (other, .held) ∈ (s.recheck call valid expired).2.guards := by
  unfold recheck at h ⊢
  split at h
  · cases h
  split at h
  · rename_i hvalid hhidden
    rw [if_neg hvalid, if_pos hhidden]
    cases h
    obtain ⟨step, hmem⟩ := hcall
    exact List.mem_map.mpr ⟨(call, step), hmem, if_pos rfl⟩
  split at h
  · cases h
  · cases h

theorem failed_notCounted {s : InputSuppression} {input : SuppressionInput}
    (h : (inputSuppressionMachine.step s input).1 = .failed call) :
    NotCounted s (inputSuppressionMachine.step s input).2 call := by
  cases input with
  | acquire other valid recheck expired =>
    have hsame : ∀ hfree : ¬(s.step? call).isSome = true, NotCounted s s call := by
      intro hfree
      have hnot := not_mem_of_step? (Option.not_isSome_iff_eq_none.mp hfree)
      refine ⟨fun step hmem => hnot (List.mem_map.mpr ⟨_, hmem, rfl⟩), (List.filter_eq_self.mpr fun guard hguard => ?_).symm⟩
      exact decide_eq_true fun heq => hnot (List.mem_map.mpr ⟨guard, hguard, heq⟩)
    simp only [inputSuppressionMachine, acquire] at h ⊢
    split at h
    · cases h
    rename_i hfree
    rw [if_neg hfree]
    split at h
    · rename_i hrefused
      rw [if_pos hrefused]
      cases h
      exact hsame hfree
    rename_i hvalid
    rw [if_neg hvalid]
    split at h
    · rename_i hfull
      rw [if_pos hfull]
      cases h
      exact hsame hfree
    · exact absurd h (recheck_output _ _ _ _ _)
  | recheck other valid expired =>
    simp only [inputSuppressionMachine] at h
    split at h
    · exact absurd h (recheck_output _ _ _ _ _)
    · cases h
  | drop other =>
    simp only [inputSuppressionMachine, dropGuard] at h ⊢
    split at h
    · cases h
    · cases h
      exact ⟨fun step hmem => by simp at hmem, rfl⟩
    · cases h
  | hideIfRequested confirmed shown => cases h
  | present shown => cases h
  | leave => cases h
  | stop => cases h

theorem acquired_held {s : InputSuppression} {input : SuppressionInput}
    (h : (inputSuppressionMachine.step s input).1 = .acquired call) :
    (call, .held) ∈ (inputSuppressionMachine.step s input).2.guards := by
  cases input with
  | acquire other valid recheck expired =>
    simp only [inputSuppressionMachine, acquire] at h ⊢
    split at h
    · cases h
    rename_i hfree
    rw [if_neg hfree]
    split at h
    · cases h
    rename_i hvalid
    rw [if_neg hvalid]
    split at h
    · cases h
    rename_i hroom
    rw [if_neg hroom]
    exact recheck_acquired ⟨_, List.mem_cons_self⟩ h
  | recheck other valid expired =>
    simp only [inputSuppressionMachine] at h ⊢
    split at h
    · rename_i hwaiting
      rw [if_pos hwaiting]
      exact recheck_acquired ⟨_, mem_of_step? hwaiting⟩ h
    · cases h
  | drop other =>
    simp only [inputSuppressionMachine, dropGuard] at h
    split at h <;> cases h
  | hideIfRequested confirmed shown => cases h
  | present shown => cases h
  | leave => cases h
  | stop => cases h

end InputSuppression

/-- In every run of one renderer and any callers: while a guard is held and the renderer has not stopped, its surfaces
    are hidden and its loop does not present them; the holder count is the number of the calls whose guards live or that
    wait; a call that returns a guard holds it, and one that fails is not counted. -/
theorem held_guard_hides (shown : Bool) (inputs : List SuppressionInput) :
    ∀ c ∈ inputSuppressionMachine.trace (InputSuppression.start shown) inputs,
      (∀ call, (call, .held) ∈ c.after.guards → c.after.requests.stopped = false → c.after.renderer ≠ .left →
        c.after.shown = false ∧ c.after.renderer = .looping) ∧
      (c.after.requests.holders = c.after.guards.length ∧ (c.after.guards.map (·.1)).Nodup) ∧
      (∀ call, c.output = .acquired call → (call, .held) ∈ c.after.guards) ∧
      ∀ call, c.output = .failed call → InputSuppression.NotCounted c.before c.after call := by
  intro c hc
  have hinv := Machine.inv_before InputSuppression.inv_step (InputSuppression.inv_start shown) hc
  have hafter : InputSuppression.Inv c.after := by
    rw [Machine.eq_call_of_mem hc]
    exact InputSuppression.inv_step _ _ hinv
  refine ⟨fun call hheld hrunning hinside => ?_, ⟨hafter.counted, hafter.distinct⟩, fun call houtput => ?_, fun call houtput => ?_⟩
  · have hhidden : c.after.requests.hidden = true := (hafter.held call hheld).resolve_left (by simp [hrunning])
    obtain ⟨hnot, hshown⟩ := hafter.covered hhidden
    have hlooping : c.after.renderer = .looping := by
      cases hrenderer : c.after.renderer with
      | looping => rfl
      | presenting => exact absurd hrenderer hnot
      | left => exact absurd hrenderer hinside
    exact ⟨hshown hlooping, hlooping⟩
  · rw [Machine.eq_call_of_mem hc] at houtput ⊢
    exact InputSuppression.acquired_held houtput
  · rw [Machine.eq_call_of_mem hc] at houtput ⊢
    exact InputSuppression.failed_notCounted houtput

/-- Two callers share one acknowledgement; the surfaces are presented again after the last drop. -/
theorem held_guard_hides_shared :
    (inputSuppressionMachine.trace (InputSuppression.start true)
        [.acquire 1 true true false, .hideIfRequested true false, .recheck 1 true false, .acquire 2 true true false, .drop 1,
          .hideIfRequested true false, .drop 2, .hideIfRequested false false, .present true]).map
      (fun c => (c.after.requests.holders, c.after.shown)) =
        [(1, true), (1, false), (1, false), (2, false), (1, false), (1, false), (0, false), (0, false), (0, true)] ∧
    ∀ c ∈ inputSuppressionMachine.trace (InputSuppression.start true)
        [.acquire 1 true true false, .hideIfRequested true false, .recheck 1 true false, .acquire 2 true true false, .drop 1,
          .hideIfRequested true false, .drop 2, .hideIfRequested false false, .present true],
      ∀ call, (call, .held) ∈ c.after.guards → c.after.requests.stopped = false → c.after.renderer ≠ .left →
        c.after.shown = false ∧ c.after.renderer = .looping :=
  ⟨by decide, fun c hc => (held_guard_hides true _ c hc).1⟩

end DccCua
