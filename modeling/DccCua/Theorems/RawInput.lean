import DccCua.Host.RawInput

/-! An action that got its turn after an interrupt is not handed to a session that is checked again after the
    wait. Other sessions are checked before the wait only. -/

namespace DccCua

open Runs

namespace RawInputQueue

/-- The generation after a number of broadcasts. -/
def generationAfter (start broadcasts : Nat) : Nat := (start + broadcasts) % (u64Max + 1)

/-- The generation of a session is that of its reading, which was before the end of its open request. -/
def Dated (start broadcasts : Nat) (session : RawSession) : Prop :=
  session.generation = generationAfter start session.read ∧ session.read ≤ session.opened ∧ session.opened ≤ broadcasts

structure Inv (start : Nat) (s : RawInputQueue) : Prop where
  generation : s.generation = generationAfter start s.broadcasts
  sessions : ∀ session ∈ s.sessions, Dated start s.broadcasts session
  openings : ∀ session ∈ s.openings, Dated start s.broadcasts session
  holder : ∀ holder, s.holder = some holder → holder.turn ≤ s.broadcasts

theorem Dated.mono {start a b : Nat} {session : RawSession} (h : Dated start a session) (hab : a ≤ b) :
    Dated start b session := ⟨h.1, h.2.1, Nat.le_trans h.2.2 hab⟩

theorem generationAfter_succ (start broadcasts : Nat) :
    nextGeneration (generationAfter start broadcasts) = generationAfter start (broadcasts + 1) := by
  unfold nextGeneration generationAfter
  rw [Nat.mod_add_mod, Nat.add_assoc]

/-- Two generations less than 2 ^ 64 broadcasts apart differ. -/
theorem generationAfter_ne {start a b : Nat} (hab : a < b) (hnear : b - a ≤ u64Max) :
    generationAfter start a ≠ generationAfter start b := by
  unfold generationAfter u64Max at *
  omega

/-! ### One step -/

theorem inv_broadcast {start : Nat} {s : RawInputQueue} (h : Inv start s) : Inv start s.broadcast := by
  refine ⟨?_, fun session hmem => ?_, fun session hmem => ?_, fun holder hholder => ?_⟩
  · show nextGeneration s.generation = _
    rw [h.generation]
    exact generationAfter_succ start s.broadcasts
  · exact (h.sessions session hmem).mono (Nat.le_succ _)
  · exact (h.openings session hmem).mono (Nat.le_succ _)
  · exact Nat.le_succ_of_le (h.holder holder hholder)

theorem inv_beginOpen {start : Nat} {s : RawInputQueue} (kind : ControlKind) (pixelsOnly taskAuthorized banner : Bool)
    (h : Inv start s) : Inv start (s.beginOpen kind pixelsOnly taskAuthorized banner) := by
  refine ⟨h.generation, h.sessions, fun session hmem => ?_, h.holder⟩
  rcases List.mem_cons.mp hmem with rfl | hmem
  · exact ⟨h.generation, Nat.le_refl _, Nat.le_refl _⟩
  · exact h.openings session hmem

theorem inv_finishOpen {start : Nat} {s : RawInputQueue} (index : Nat) (h : Inv start s) :
    Inv start (s.finishOpen index) := by
  unfold finishOpen
  split
  · exact h
  · rename_i opening hopening
    have hdated := h.openings opening (List.mem_of_getElem? hopening)
    refine ⟨h.generation, fun session hmem => ?_, fun session hmem => ?_, h.holder⟩
    · rcases List.mem_append.mp hmem with hmem | hmem
      · exact h.sessions session hmem
      · obtain rfl := List.mem_singleton.mp hmem
        exact ⟨hdated.1, Nat.le_trans hdated.2.1 hdated.2.2, Nat.le_refl _⟩
    · exact h.openings session (List.mem_of_mem_eraseIdx hmem)

/-- Setting the flag of a session leaves its dates. -/
theorem inv_setInterrupted {start index : Nat} {s : RawInputQueue} {session : RawSession} (h : Inv start s)
    (hsession : s.sessions[index]? = some session) :
    Inv start (s.setSession index { session with interrupted := true }) := by
  have hdated := h.sessions session (List.mem_of_getElem? hsession)
  refine ⟨h.generation, fun other hmem => ?_, h.openings, h.holder⟩
  rcases List.mem_or_eq_of_mem_set hmem with hmem | rfl
  · exact h.sessions other hmem
  · exact hdated

theorem inv_stop {start : Nat} {s : RawInputQueue} (session : Nat) (h : Inv start s) : Inv start (s.stop session) := by
  unfold stop
  split
  · exact h
  · rename_i value hvalue
    split
    · exact h
    · exact inv_setInterrupted h hvalue

theorem inv_submit {start : Nat} {s : RawInputQueue} (session : Nat) (h : Inv start s) : Inv start (s.submit session) := by
  unfold submit
  split
  · exact h
  · rename_i value hvalue
    split
    · exact h
    · split
      · exact inv_setInterrupted h hvalue
      · exact ⟨h.generation, h.sessions, h.openings, h.holder⟩

theorem inv_takeTurn {start : Nat} {s : RawInputQueue} (session : Nat) (h : Inv start s) :
    Inv start (s.takeTurn session) := by
  unfold takeTurn
  split
  · exact h
  · split
    · refine ⟨h.generation, h.sessions, h.openings, fun holder hholder => ?_⟩
      cases hholder
      exact Nat.le_refl _
    · exact h

theorem inv_finish {start : Nat} {s : RawInputQueue} (h : Inv start s) : Inv start s.finish :=
  ⟨h.generation, h.sessions, h.openings, fun _ hholder => by cases hholder⟩

theorem inv_dispatch {start : Nat} {s : RawInputQueue} (leaseValid : Bool) (h : Inv start s) :
    Inv start (s.dispatch leaseValid).2 := by
  unfold dispatch
  split
  · exact h
  · split
    · exact h
    · rename_i value hvalue
      split
      · exact inv_finish (inv_setInterrupted h hvalue)
      · split
        · exact inv_finish h
        · exact h

theorem inv_step {start : Nat} (s : RawInputQueue) (step : RawStep) (h : Inv start s) :
    Inv start (rawInputMachine.step s step).2 := by
  cases step with
  | broadcast => exact inv_broadcast h
  | beginOpen kind pixelsOnly taskAuthorized banner => exact inv_beginOpen kind pixelsOnly taskAuthorized banner h
  | finishOpen index => exact inv_finishOpen index h
  | stop session => exact inv_stop session h
  | submit session => exact inv_submit session h
  | takeTurn session => exact inv_takeTurn session h
  | dispatch leaseValid => exact inv_dispatch leaseValid h
  | finish => exact inv_finish h

theorem inv_start {start : Nat} (hstart : start ≤ u64Max) : Inv start (RawInputQueue.start start) := by
  refine ⟨?_, fun _ hmem => ?_, fun _ hmem => ?_, fun _ hholder => ?_⟩
  · unfold generationAfter
    exact (Nat.mod_eq_of_lt (Nat.lt_succ_of_le hstart)).symm
  · cases hmem
  · cases hmem
  · cases hholder

/-! ### The hand-over -/

/-- The session of an action that gets its turn after an interrupt is one that is checked again: a window session with a
    banner, in pixels-only mode or with a task authorization, at most 2 ^ 64 - 1 broadcasts old. -/
def StepOk (c : Call RawInputQueue RawStep (Option HandedAction)) : Prop :=
  ∀ leaseValid holder session, c.input = .dispatch leaseValid → c.before.holder = some holder →
    c.before.sessions[holder.session]? = some session → session.opened < holder.turn →
      session.kind = .window ∧ (session.pixelsOnly = true ∨ session.taskAuthorized = true) ∧ session.banner = true ∧
        c.before.broadcasts - session.read ≤ u64Max

/-- Of a session that is checked again an action is handed over only without an interrupt. -/
theorem dispatch_handed {s : RawInputQueue} {leaseValid : Bool} {handed : HandedAction}
    (h : (s.dispatch leaseValid).1 = some handed) :
    ∃ holder, s.holder = some holder ∧ s.sessions[holder.session]? = some handed.session ∧ handed.turn = holder.turn ∧
      (handed.session.revalidated = true → handed.session.seesInterrupt s.generation = false) := by
  unfold dispatch at h
  split at h
  · cases h
  · rename_i holder hholder
    split at h
    · cases h
    · rename_i value hvalue
      split at h
      · cases h
      · rename_i hrefused
        split at h
        · cases h
        · cases h
          refine ⟨holder, hholder, hvalue, rfl, fun hchecked => ?_⟩
          simpa [hchecked] using hrefused

theorem handed_after_interrupt {start : Nat} {s : RawInputQueue} {leaseValid : Bool} {handed : HandedAction}
    (h : Inv start s) (ok : StepOk (rawInputMachine.call s (.dispatch leaseValid)))
    (hhanded : (s.dispatch leaseValid).1 = some handed) : handed.turn ≤ handed.session.opened := by
  obtain ⟨holder, hholder, hsession, hturn, hchecked⟩ := dispatch_handed hhanded
  by_contra hlate
  rw [Nat.not_le, hturn] at hlate
  obtain ⟨hkind, hmode, hbanner, hnear⟩ := ok leaseValid holder handed.session rfl hholder hsession hlate
  obtain ⟨hread, hreadOpened, -⟩ := h.sessions _ (List.mem_of_getElem? hsession)
  have hrevalidated : handed.session.revalidated = true := by
    unfold RawSession.revalidated
    rw [hkind]
    rcases hmode with hmode | hmode
    · simp [hmode]
    · simp [hmode]
  have hquiet := hchecked hrevalidated
  have hturnLe := h.holder holder hholder
  have hne : handed.session.generation ≠ s.generation := by
    rw [hread, h.generation]
    exact generationAfter_ne (by omega) hnear
  unfold RawSession.seesInterrupt interruptGenerationChanged at hquiet
  simp [hbanner, hne] at hquiet

end RawInputQueue

/-- In a run in which only sessions that are checked again have an action in the queue across an interrupt, no action is
    handed to a session that was opened before a broadcast that came before the action's turn. -/
theorem no_action_after_interrupt (generation : Nat) (hgeneration : generation ≤ u64Max) (is : List RawStep)
    (ok : ∀ c ∈ rawInputMachine.trace (RawInputQueue.start generation) is, RawInputQueue.StepOk c) :
    ∀ c ∈ rawInputMachine.trace (RawInputQueue.start generation) is, ∀ handed, c.output = some handed →
      handed.turn ≤ handed.session.opened := by
  intro c hc handed hhanded
  have hinv := Machine.inv_before RawInputQueue.inv_step (RawInputQueue.inv_start hgeneration) hc
  have hok := ok c hc
  rw [Machine.eq_call_of_mem hc] at hok hhanded
  cases hinput : c.input with
  | dispatch leaseValid =>
    rw [hinput] at hok hhanded
    exact RawInputQueue.handed_after_interrupt hinv hok hhanded
  | broadcast => rw [hinput] at hhanded; cases hhanded
  | beginOpen _ _ _ _ => rw [hinput] at hhanded; cases hhanded
  | finishOpen _ => rw [hinput] at hhanded; cases hhanded
  | stop _ => rw [hinput] at hhanded; cases hhanded
  | submit _ => rw [hinput] at hhanded; cases hhanded
  | takeTurn _ => rw [hinput] at hhanded; cases hhanded
  | finish => rw [hinput] at hhanded; cases hhanded

/-- A pixels-only session: its waiting action is refused after an interrupt. -/
theorem no_action_after_interrupt_sample :
    (rawInputMachine.trace (RawInputQueue.start 0)
      [.beginOpen .window true false true, .finishOpen 0, .submit 0, .broadcast, .takeTurn 0, .dispatch true]).all
        (·.output.isNone) = true ∧
    ∀ c ∈ rawInputMachine.trace (RawInputQueue.start 0)
      [.beginOpen .window true false true, .finishOpen 0, .submit 0, .broadcast, .takeTurn 0, .dispatch true],
      ∀ handed, c.output = some handed → handed.turn ≤ handed.session.opened := by
  refine ⟨by decide, no_action_after_interrupt 0 (by decide) _ ?_⟩
  intro c hc leaseValid holder session hinput hholder hsession _
  simp only [Machine.trace_cons, Machine.trace_nil, List.mem_cons, List.not_mem_nil, or_false] at hc
  rcases hc with rfl | rfl | rfl | rfl | rfl | rfl
  · cases hinput
  · cases hinput
  · cases hinput
  · cases hinput
  · cases hinput
  · cases hholder
    cases hsession
    exact ⟨rfl, Or.inl rfl, rfl, by decide⟩

/-- A desktop session: its waiting action is handed over after the interrupt. -/
theorem desktop_action_after_interrupt :
    let s := rawInputMachine.final (RawInputQueue.start 0)
      [.beginOpen .desktop false false false, .finishOpen 0, .submit 0, .broadcast, .takeTurn 0]
    (rawInputMachine.step s (.dispatch true)).1 = some ⟨⟨.desktop, false, false, false, 0, false, 0, 0⟩, 1⟩ := by
  decide

end DccCua
