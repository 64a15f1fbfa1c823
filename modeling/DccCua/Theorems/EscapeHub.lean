import DccCua.Indicator.EscapeHub

/-! The stop key of the operator: as long as no key-up gets past the hook while the flag is set, the first press
    that the hook takes is broadcast. The flag is left set when the drop of the last lease resets it between the
    reading of the banner count and the swap of the same press. -/

namespace DccCua

open Runs

namespace EscapeHub

/-- The hook is handling the first press since the last key-up. -/
def FirstPress (hook : HookStep) : Prop := hook = .counted true true ∨ hook = .broadcasting true

/-- No key-up gets past the hook while the key-down flag is set, other than before the reset that the drop of the last
    lease still has to make. -/
def StepOk (c : Call EscapeHub HubStep HubOutput) : Prop :=
  ∀ event, c.input = .key event → escapeKeyTransition event = some false → c.before.hook = .idle →
    (c.before.hub = false ∨ c.before.activeBanners = 0) → c.before.escapeDown = false ∨ c.before.lease = .resetting

structure Inv (s : EscapeHub) : Prop where
  counts : s.activeBanners = s.leases
  hub : 0 < s.leases ∨ s.lease = .acquiring → s.hub = true
  last : s.lease = .resetting ∨ s.lease = .stopping → s.leases = 0
  flag : s.escapeDown = true → s.held = true ∨ s.lease = .resetting ∨ ∃ first, s.hook = .counted false first
  press : ∀ first, s.hook = .counted true first → s.held = true ∧ (first = true → s.escapeDown = false)

theorem inv_start : Inv start := by
  refine ⟨rfl, ?_, fun _ => rfl, ?_, ?_⟩
  · rintro (h | h)
    · exact absurd h (by decide)
    · cases h
  · intro h
    cases h
  · intro first h
    cases h

/-! ### The steps of the hook -/

/-- What a key event can do. -/
inductive KeyEffect (s : EscapeHub) (event : KeyEvent) : EscapeHub → Prop where
  | busy : s.hook ≠ .idle → KeyEffect s event s
  | passed : s.hook = .idle → (s.hub = false ∨ s.activeBanners = 0 ∨ escapeKeyTransition event = none) →
      KeyEffect s event { s with held := s.heldAfter event }
  | taken (isDown : Bool) : s.hook = .idle → s.hub = true → 0 < s.activeBanners → escapeKeyTransition event = some isDown →
      KeyEffect s event { s with held := isDown, hook := .counted isDown (isDown && !s.held) }

theorem key_effect (s : EscapeHub) (event : KeyEvent) : KeyEffect s event (s.key event).2 := by
  unfold key
  by_cases hhook : s.hook = .idle
  · rw [if_neg (not_not.mpr hhook)]
    by_cases hhub : s.hub = false
    · rw [if_pos hhub]
      exact .passed hhook (Or.inl hhub)
    · rw [if_neg hhub]
      have hhub : s.hub = true := by simpa using hhub
      unfold escapeKeyTransitionForActiveBanners
      by_cases hactive : s.activeBanners = 0
      · rw [if_pos hactive]
        exact .passed hhook (Or.inr (Or.inl hactive))
      · rw [if_neg hactive]
        cases hkey : escapeKeyTransition event with
        | none => exact .passed hhook (Or.inr (Or.inr hkey))
        | some isDown =>
          have heff := KeyEffect.taken isDown hhook hhub (Nat.pos_of_ne_zero hactive) hkey
          simpa only [heldAfter, hkey, Option.getD_some] using heff
  · rw [if_pos hhook]
    exact .busy hhook

theorem inv_key {s : EscapeHub} {event : KeyEvent} (h : Inv s) (ok : StepOk (escapeHubMachine.call s (.key event))) :
    Inv (s.key event).2 := by
  have heff := key_effect s event
  generalize (s.key event).2 = s' at heff
  cases heff with
  | busy => exact h
  | passed hidle hpass =>
    refine ⟨h.counts, h.hub, h.last, ?_, ?_⟩
    · intro hdown
      rcases h.flag hdown with hheld | hreset | ⟨first, hhook⟩
      · cases hkey : escapeKeyTransition event with
        | none => exact Or.inl (by rw [heldAfter, hkey, Option.getD_none]; exact hheld)
        | some isDown =>
          cases isDown with
          | true => exact Or.inl (by rw [heldAfter, hkey, Option.getD_some])
          | false =>
            have hpast : s.hub = false ∨ s.activeBanners = 0 := by
              rcases hpass with hhub | hactive | hnone
              · exact Or.inl hhub
              · exact Or.inr hactive
              · rw [hkey] at hnone
                cases hnone
            rcases ok event rfl hkey hidle hpast with hup | hreset
            · exact absurd (hup.symm.trans hdown) (by decide)
            · exact Or.inr (Or.inl hreset)
      · exact Or.inr (Or.inl hreset)
      · rw [hidle] at hhook
        cases hhook
    · intro first hhook
      rw [hidle] at hhook
      cases hhook
  | taken isDown hidle hhub hactive hkey =>
    refine ⟨h.counts, h.hub, h.last, ?_, ?_⟩
    · intro hdown
      cases isDown with
      | true => exact Or.inl rfl
      | false => exact Or.inr (Or.inr ⟨_, rfl⟩)
    · intro first hhook
      cases hhook
      refine ⟨rfl, fun hfirst => ?_⟩
      rw [Bool.true_and, Bool.not_eq_true'] at hfirst
      by_contra hdown
      rcases h.flag (by simpa using hdown) with hheld | hreset | ⟨_, hcounted⟩
      · rw [hfirst] at hheld
        cases hheld
      · have := h.last (Or.inl hreset)
        have := h.counts
        omega
      · rw [hidle] at hcounted
        cases hcounted

theorem inv_changeFlag {s : EscapeHub} (h : Inv s) : Inv s.changeFlag.2 := by
  unfold changeFlag
  split
  · rename_i first hhook
    split
    · refine ⟨h.counts, h.hub, h.last, fun _ => Or.inl (h.press first hhook).1, ?_⟩
      intro _ hidle
      cases hidle
    · refine ⟨h.counts, h.hub, h.last, fun _ => Or.inl (h.press first hhook).1, ?_⟩
      intro _ hbroadcast
      cases hbroadcast
  · refine ⟨h.counts, h.hub, h.last, ?_, ?_⟩
    · intro hdown
      cases hdown
    · intro _ hidle
      cases hidle
  · exact h

theorem inv_broadcastInterrupt {s : EscapeHub} (h : Inv s) : Inv s.broadcastInterrupt.2 := by
  unfold broadcastInterrupt
  split
  · rename_i first hhook
    refine ⟨h.counts, h.hub, h.last, ?_, ?_⟩
    · intro hdown
      rcases h.flag hdown with hheld | hreset | ⟨_, hcounted⟩
      · exact Or.inl hheld
      · exact Or.inr (Or.inl hreset)
      · rw [hhook] at hcounted
        cases hcounted
    · intro _ hidle
      cases hidle
  · exact h

/-! ### The steps of the leases -/

theorem inv_acquire {s : EscapeHub} (started : Bool) (h : Inv s) : Inv (s.acquire started) := by
  unfold acquire
  by_cases hlease : s.lease = .idle
  · rw [if_neg (not_not.mpr hlease)]
    have hflag : ∀ lease : LeaseStep, s.escapeDown = true → s.held = true ∨ lease = .resetting ∨ ∃ first, s.hook = .counted false first := by
      intro lease hdown
      rcases h.flag hdown with hheld | hreset | hcounted
      · exact Or.inl hheld
      · rw [hlease] at hreset
        cases hreset
      · exact Or.inr (Or.inr hcounted)
    split
    · rename_i hhub
      refine ⟨h.counts, fun _ => hhub, ?_, hflag _, h.press⟩
      rintro (hl | hl) <;> cases hl
    · split
      · refine ⟨h.counts, fun _ => rfl, ?_, hflag _, h.press⟩
        rintro (hl | hl) <;> cases hl
      · exact h
  · rw [if_pos hlease]
    exact h

theorem inv_countLease {s : EscapeHub} (h : Inv s) : Inv s.countLease := by
  unfold countLease
  split
  · rename_i hlease
    refine ⟨by rw [h.counts], fun _ => h.hub (Or.inr hlease), ?_, ?_, h.press⟩
    · rintro (hl | hl) <;> cases hl
    · intro hdown
      rcases h.flag hdown with hheld | hreset | hcounted
      · exact Or.inl hheld
      · rw [hlease] at hreset
        cases hreset
      · exact Or.inr (Or.inr hcounted)
  · exact h

theorem inv_dropLease {s : EscapeHub} (h : Inv s) : Inv s.dropLease := by
  unfold dropLease
  split
  · exact h
  · rename_i hheld
    rw [not_or, not_not] at hheld
    obtain ⟨hlease, hleases⟩ := hheld
    have hcounts := h.counts
    have hlast : ∀ lease, (if s.activeBanners = 1 then LeaseStep.resetting else if s.leases ≤ 1 then .stopping else .idle) =
        lease → lease ≠ .idle → s.leases = 1 := by
      rintro lease rfl hne
      split at hne
      · omega
      · split at hne
        · omega
        · exact absurd rfl hne
    refine ⟨congrArg (· - 1) hcounts, ?_, ?_, ?_, h.press⟩
    · intro hl
      exact h.hub (Or.inl (Nat.pos_of_ne_zero hleases))
    · rintro (hl | hl)
      · exact Nat.sub_eq_zero_of_le (Nat.le_of_eq (hlast _ hl (by decide)))
      · exact Nat.sub_eq_zero_of_le (Nat.le_of_eq (hlast _ hl (by decide)))
    · intro hdown
      rcases h.flag hdown with hkey | hreset | hcounted
      · exact Or.inl hkey
      · rw [hlease] at hreset
        cases hreset
      · exact Or.inr (Or.inr hcounted)

theorem inv_resetFlag {s : EscapeHub} (h : Inv s) : Inv s.resetFlag := by
  unfold resetFlag
  split
  · rename_i hlease
    have hleases := h.last (Or.inl hlease)
    refine ⟨h.counts, ?_, fun _ => hleases, ?_, fun first hhook => ⟨(h.press first hhook).1, fun _ => rfl⟩⟩
    · rintro (hpos | hl)
      · exact h.hub (Or.inl hpos)
      · simp only [hleases, if_true] at hl
        cases hl
    · intro hdown
      cases hdown
  · exact h

theorem inv_stopHub {s : EscapeHub} (h : Inv s) : Inv s.stopHub := by
  unfold stopHub
  split
  · rename_i hstop
    have hleases := h.last (Or.inr hstop.1)
    refine ⟨h.counts, ?_, ?_, ?_, h.press⟩
    · rintro (hpos | hl)
      · exact absurd hleases (Nat.pos_iff_ne_zero.mp hpos)
      · cases hl
    · rintro (hl | hl) <;> cases hl
    · intro hdown
      rcases h.flag hdown with hkey | hreset | hcounted
      · exact Or.inl hkey
      · rw [hstop.1] at hreset
        cases hreset
      · exact Or.inr (Or.inr hcounted)
  · exact h

theorem inv_step (s : EscapeHub) (step : HubStep) (h : Inv s) (ok : StepOk (escapeHubMachine.call s step)) :
    Inv (escapeHubMachine.step s step).2 := by
  cases step with
  | key event => exact inv_key h ok
  | changeFlag => exact inv_changeFlag h
  | broadcastInterrupt => exact inv_broadcastInterrupt h
  | acquire started => exact inv_acquire started h
  | countLease => exact inv_countLease h
  | dropLease => exact inv_dropLease h
  | resetFlag => exact inv_resetFlag h
  | stopHub => exact inv_stopHub h

/-! ### Every first press stops something -/

/-- A lease step leaves the hook where it is. -/
theorem lease_hook (s : EscapeHub) : (∀ started, (s.acquire started).hook = s.hook) ∧ s.countLease.hook = s.hook ∧
    s.dropLease.hook = s.hook ∧ s.resetFlag.hook = s.hook ∧ s.stopHub.hook = s.hook := by
  refine ⟨fun started => ?_, ?_, ?_, ?_, ?_⟩
  · unfold acquire
    split
    · rfl
    · split
      · rfl
      · split <;> rfl
  · unfold countLease
    split <;> rfl
  · unfold dropLease
    split <;> rfl
  · unfold resetFlag
    split <;> rfl
  · unfold stopHub
    split <;> rfl

/-- The hook ends a first press with a broadcast. -/
theorem firstPress_step {s : EscapeHub} {step : HubStep} (h : Inv s) (hfirst : FirstPress s.hook) :
    FirstPress (escapeHubMachine.step s step).2.hook ∨ (escapeHubMachine.step s step).1 = .interrupt := by
  obtain ⟨hacquire, hcount, hdrop, hreset, hstop⟩ := lease_hook s
  have hbusy : s.hook ≠ .idle := by
    rintro hidle
    rw [hidle] at hfirst
    rcases hfirst with h | h <;> cases h
  cases step with
  | key event =>
    left
    have hkey : (s.key event).2 = s := by
      unfold key
      rw [if_pos hbusy]
    show FirstPress (s.key event).2.hook
    rw [hkey]
    exact hfirst
  | changeFlag =>
    left
    rcases hfirst with hcounted | hbroadcast
    · have hdown := (h.press true hcounted).2 rfl
      have hnext : (s.changeFlag).2.hook = .broadcasting true := by
        unfold changeFlag
        rw [hcounted, hdown]
        rfl
      exact Or.inr hnext
    · have hnext : (s.changeFlag).2 = s := by
        unfold changeFlag
        rw [hbroadcast]
      show FirstPress (s.changeFlag).2.hook
      rw [hnext]
      exact Or.inr hbroadcast
  | broadcastInterrupt =>
    rcases hfirst with hcounted | hbroadcast
    · left
      have hnext : (s.broadcastInterrupt).2 = s := by
        unfold broadcastInterrupt
        rw [hcounted]
      show FirstPress (s.broadcastInterrupt).2.hook
      rw [hnext]
      exact Or.inl hcounted
    · right
      show (s.broadcastInterrupt).1 = .interrupt
      unfold broadcastInterrupt
      rw [hbroadcast]
  | acquire started =>
    left
    exact (hacquire started).symm ▸ hfirst
  | countLease =>
    left
    exact hcount.symm ▸ hfirst
  | dropLease =>
    left
    exact hdrop.symm ▸ hfirst
  | resetFlag =>
    left
    exact hreset.symm ▸ hfirst
  | stopHub =>
    left
    exact hstop.symm ▸ hfirst

theorem firstPress_taken {s : EscapeHub} {event : KeyEvent} (h : Inv s) (hpress : escapeKeyTransition event = some true)
    (hfirst : s.held = false) (hidle : s.hook = .idle) (hlease : 0 < s.leases) : FirstPress (s.key event).2.hook := by
  have hhub := h.hub (Or.inl hlease)
  have hactive : s.activeBanners ≠ 0 := by
    have := h.counts
    omega
  unfold key escapeKeyTransitionForActiveBanners
  rw [if_neg (not_not.mpr hidle), if_neg (by rw [hhub]; decide), if_neg hactive, hpress]
  simp only [hfirst]
  exact Or.inl rfl

end EscapeHub

/-- In a run in which no key-up gets past the hook while the flag is left set, every first press of Escape that the hook
    gets while a lease is held is taken by it, and the hook does not end its call before it has broadcast. -/
theorem first_press_interrupts (is : List HubStep) (ok : ∀ c ∈ escapeHubMachine.trace EscapeHub.start is, EscapeHub.StepOk c) :
    ∀ c ∈ escapeHubMachine.trace EscapeHub.start is,
      (∀ event, c.input = .key event → escapeKeyTransition event = some true → c.before.held = false →
        c.before.hook = .idle → 0 < c.before.leases → EscapeHub.FirstPress c.after.hook) ∧
      (EscapeHub.FirstPress c.before.hook → EscapeHub.FirstPress c.after.hook ∨ c.output = .interrupt) := by
  intro c hc
  have hinv := Machine.inv_calls EscapeHub.inv_step is EscapeHub.inv_start ok c hc
  rw [Machine.eq_call_of_mem hc]
  constructor
  · intro event hinput hpress hfirst hidle hlease
    simp only [Machine.call_input] at hinput
    simp only [Machine.call_after, hinput]
    exact EscapeHub.firstPress_taken hinv hpress hfirst hidle hlease
  · intro hfirst
    exact EscapeHub.firstPress_step hinv hfirst

def escapeKey (message : Nat) : KeyEvent := ⟨hcAction, message, vkEscape, 0⟩

theorem first_press_interrupts_sample :
    (escapeHubMachine.trace EscapeHub.start
      [.acquire true, .countLease, .key (escapeKey wmKeydown), .changeFlag, .broadcastInterrupt]).getLast?.map (·.output) =
        some .interrupt ∧
    ∀ c ∈ escapeHubMachine.trace EscapeHub.start
      [.acquire true, .countLease, .key (escapeKey wmKeydown), .changeFlag, .broadcastInterrupt],
      EscapeHub.FirstPress c.before.hook → EscapeHub.FirstPress c.after.hook ∨ c.output = .interrupt := by
  have ok : ∀ c ∈ escapeHubMachine.trace EscapeHub.start
      [.acquire true, .countLease, .key (escapeKey wmKeydown), .changeFlag, .broadcastInterrupt], EscapeHub.StepOk c := by
    intro c hc event hinput hup
    simp only [Machine.trace_cons, Machine.trace_nil, List.mem_cons, List.not_mem_nil, or_false] at hc
    rcases hc with rfl | rfl | rfl | rfl | rfl
    · cases hinput
    · cases hinput
    · cases hinput
      exact absurd hup (by decide)
    · cases hinput
    · cases hinput
  exact ⟨by decide, fun c hc => (first_press_interrupts _ ok c hc).2⟩

/-- The banner count is read, the drop of the last lease resets the flag, and then the same press sets it; the key is
    released while there is no hub. The next banner finds the flag set and its first press is swallowed. -/
def staleFlagRun : List HubStep :=
  [.acquire true, .countLease, .key (escapeKey wmKeydown), .dropLease, .resetFlag, .changeFlag, .broadcastInterrupt,
    .stopHub, .key (escapeKey wmKeyup), .acquire true, .countLease, .key (escapeKey wmKeydown), .changeFlag]

theorem first_press_swallowed :
    let s := escapeHubMachine.final EscapeHub.start (staleFlagRun.take 12)
    s.hook = .counted true true ∧ s.leases = 1 ∧ (escapeHubMachine.step s .changeFlag).1 = .swallowed ∧
      (escapeHubMachine.step s .changeFlag).2.hook = .idle := by
  decide

end DccCua
