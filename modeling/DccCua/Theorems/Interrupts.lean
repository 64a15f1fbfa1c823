import DccCua.Host.Interrupts

/-! A session is stopped as interrupted only after a broadcast that followed its open request, as long as no open
    request begins while a broadcast is still to be observed. -/

namespace DccCua

open Runs

namespace ConnectionInterrupts

/-- An open request begins when the connection has observed the present generation. -/
def StepOk (c : Call ConnectionInterrupts ConnectionStep (List ControlSession)) : Prop :=
  ∀ id kind, c.input = .beginOpen id kind → c.before.observed = c.before.generation

/-- What is known of a session or an open request that has seen no broadcast. -/
def Untouched (s : ConnectionInterrupts) (generation : Option Nat) (latched : Bool) (begun : Nat) : Prop :=
  begun ≤ s.broadcasts ∧
    (begun = s.broadcasts → s.observed = s.generation ∧ latched = false ∧ ∀ g, generation = some g → g = s.generation)

structure Inv (s : ConnectionInterrupts) : Prop where
  sessions : ∀ session ∈ s.sessions, s.Untouched session.generation session.latched session.begun
  opening : ∀ opening, s.opening = some opening → s.Untouched opening.generation false opening.begun

theorem inv_start (generation : Nat) : Inv (start generation) :=
  ⟨fun _ h => (by cases h), fun _ h => (by cases h)⟩

/-- After a broadcast everything that was begun before it is past it. -/
theorem Untouched.broadcast {s : ConnectionInterrupts} {generation : Option Nat} {latched : Bool} {begun : Nat}
    (h : s.Untouched generation latched begun) (t : ConnectionInterrupts) (ht : t.broadcasts = s.broadcasts + 1) :
    t.Untouched generation latched begun := by
  refine ⟨by rw [ht]; exact Nat.le_succ_of_le h.1, fun heq => ?_⟩
  have := h.1
  omega

/-- The session has not begun after the last broadcast once its generation differs. -/
theorem Untouched.lt_of_seesInterrupt {s : ConnectionInterrupts} {session : ControlSession}
    (h : s.Untouched session.generation session.latched session.begun) (hsees : session.seesInterrupt s.generation = true) :
    session.begun < s.broadcasts := by
  refine Nat.lt_of_le_of_ne h.1 fun heq => ?_
  obtain ⟨-, hlatched, hgeneration⟩ := h.2 heq
  unfold ControlSession.seesInterrupt at hsees
  rw [hlatched, Bool.false_or] at hsees
  cases hg : session.generation with
  | none =>
    rw [hg] at hsees
    cases hsees
  | some g =>
    rw [hg, hgeneration g hg] at hsees
    simp [interruptGenerationChanged] at hsees

/-! ### One step -/

/-- A step keeps what is known, and a session that it stops began before the last broadcast. -/
def Keeps (out : List ControlSession × ConnectionInterrupts) : Prop :=
  Inv out.2 ∧ ∀ session ∈ out.1, session.begun < out.2.broadcasts

theorem keeps_broadcast {s : ConnectionInterrupts} (h : Inv s) : Keeps ([], s.broadcast) := by
  refine ⟨⟨fun session hmem => ?_, fun opening hopening => ?_⟩, fun _ hmem => by cases hmem⟩
  · exact (h.sessions session hmem).broadcast _ rfl
  · exact (h.opening opening hopening).broadcast _ rfl

theorem keeps_poll {s : ConnectionInterrupts} (h : Inv s) : Keeps s.poll := by
  unfold poll
  split
  · exact ⟨h, fun _ hmem => by cases hmem⟩
  · rename_i hopening
    split
    · rename_i hchanged
      have hne : s.observed ≠ s.generation := by simpa [interruptGenerationChanged] using hchanged
      have hlt : ∀ session ∈ s.sessions, session.begun < s.broadcasts := by
        intro session hmem
        obtain ⟨hle, huntouched⟩ := h.sessions session hmem
        exact Nat.lt_of_le_of_ne hle fun heq => hne (huntouched heq).1
      refine ⟨⟨fun session hmem => ?_, fun opening hsome => ?_⟩, fun session hmem => ?_⟩
      · obtain ⟨old, hold, rfl⟩ := List.mem_map.mp hmem
        have := hlt old hold
        exact ⟨Nat.le_of_lt this, fun heq => absurd heq (Nat.ne_of_lt this)⟩
      · exact absurd (Option.isSome_iff_exists.mpr ⟨opening, hsome⟩) hopening
      · exact hlt session (List.mem_filter.mp hmem).1
    · exact ⟨h, fun _ hmem => by cases hmem⟩

theorem keeps_interruptAll {s : ConnectionInterrupts} (inFlight : Bool) (h : Inv s) : Keeps (s.interruptAll inFlight) := by
  unfold interruptAll
  split
  · exact ⟨h, fun _ hmem => by cases hmem⟩
  · rename_i hopening
    refine ⟨⟨fun session hmem => (by cases hmem), fun opening hsome => ?_⟩, fun session hmem => ?_⟩
    · exact absurd (Option.isSome_iff_exists.mpr ⟨opening, hsome⟩) hopening
    · exact Nat.lt_succ_of_le (h.sessions session hmem).1

theorem keeps_beginOpen {s : ConnectionInterrupts} (id : String) (kind : ControlKind) (h : Inv s)
    (hobserved : s.observed = s.generation) : Keeps ([], s.beginOpen id kind) := by
  refine ⟨?_, fun _ hmem => by cases hmem⟩
  unfold beginOpen
  split
  · exact h
  · refine ⟨h.sessions, fun opening hsome => ?_⟩
    cases hsome
    exact ⟨Nat.le_refl _, fun _ => ⟨hobserved, rfl, fun _ hg => by cases hg⟩⟩

theorem keeps_readGeneration {s : ConnectionInterrupts} (h : Inv s) : Keeps ([], s.readGeneration) := by
  refine ⟨?_, fun _ hmem => by cases hmem⟩
  unfold readGeneration
  split
  · rename_i opening hopening
    refine ⟨h.sessions, fun other hsome => ?_⟩
    cases hsome
    obtain ⟨hle, huntouched⟩ := h.opening opening hopening
    refine ⟨hle, fun heq => ⟨(huntouched heq).1, rfl, fun g hg => ?_⟩⟩
    cases hg
    rfl
  · exact h

theorem keeps_finishOpen {s : ConnectionInterrupts} (opened : Bool) (h : Inv s) : Keeps ([], s.finishOpen opened) := by
  refine ⟨?_, fun _ hmem => by cases hmem⟩
  unfold finishOpen
  split
  · exact h
  · rename_i opening hopening
    split
    · refine ⟨fun session hmem => ?_, fun _ hsome => by cases hsome⟩
      rcases List.mem_cons.mp hmem with rfl | hmem
      · exact h.opening opening hopening
      · exact h.sessions session hmem
    · exact ⟨h.sessions, fun _ hsome => by cases hsome⟩

theorem keeps_request {s : ConnectionInterrupts} (id : String) (h : Inv s) : Keeps (s.request id) := by
  unfold request
  split
  · exact ⟨h, fun _ hmem => by cases hmem⟩
  · refine ⟨⟨fun session hmem => ?_, h.opening⟩, fun session hmem => ?_⟩
    · obtain ⟨old, hold, rfl⟩ := List.mem_map.mp hmem
      split
      · exact h.sessions old hold
      · exact h.sessions old hold
    · obtain ⟨hmem, hsees⟩ := List.mem_filter.mp hmem
      rw [Bool.and_eq_true] at hsees
      exact (h.sessions session hmem).lt_of_seesInterrupt hsees.2

theorem keeps_bannerLoop {s : ConnectionInterrupts} (id : String) (h : Inv s) : Keeps ([], s.bannerLoop id) := by
  refine ⟨⟨fun session hmem => ?_, h.opening⟩, fun _ hmem => by cases hmem⟩
  obtain ⟨old, hold, rfl⟩ := List.mem_map.mp hmem
  split
  · rename_i hsees
    rw [Bool.and_eq_true] at hsees
    have hlt := (h.sessions old hold).lt_of_seesInterrupt hsees.2
    exact ⟨Nat.le_of_lt hlt, fun heq => absurd heq (Nat.ne_of_lt hlt)⟩
  · exact h.sessions old hold

theorem keeps_close {s : ConnectionInterrupts} (id : String) (h : Inv s) : Keeps ([], s.close id) := by
  refine ⟨?_, fun _ hmem => by cases hmem⟩
  unfold close
  split
  · exact h
  · exact ⟨fun session hmem => h.sessions session (List.mem_filter.mp hmem).1, h.opening⟩

theorem keeps_step (s : ConnectionInterrupts) (step : ConnectionStep) (h : Inv s)
    (ok : StepOk (connectionInterruptMachine.call s step)) : Keeps (connectionInterruptMachine.step s step) := by
  cases step with
  | broadcast => exact keeps_broadcast h
  | poll => exact keeps_poll h
  | interruptAll inFlight => exact keeps_interruptAll inFlight h
  | beginOpen id kind => exact keeps_beginOpen id kind h (ok id kind rfl)
  | readGeneration => exact keeps_readGeneration h
  | finishOpen opened => exact keeps_finishOpen opened h
  | request id => exact keeps_request id h
  | bannerLoop id => exact keeps_bannerLoop id h
  | close id => exact keeps_close id h

end ConnectionInterrupts

/-- In a run in which no open request begins while a broadcast is still to be observed, every session that is stopped as
    interrupted began before the last broadcast. -/
theorem interrupted_after_broadcast (generation : Nat) (is : List ConnectionStep)
    (ok : ∀ c ∈ connectionInterruptMachine.trace (ConnectionInterrupts.start generation) is, ConnectionInterrupts.StepOk c) :
    ∀ c ∈ connectionInterruptMachine.trace (ConnectionInterrupts.start generation) is,
      ∀ session ∈ c.output, session.begun < c.after.broadcasts := by
  intro c hc
  have hinv := Machine.inv_calls (fun s i h ok => (ConnectionInterrupts.keeps_step s i h ok).1) is
    (ConnectionInterrupts.inv_start generation) ok c hc
  have hok := ok c hc
  rw [Machine.eq_call_of_mem hc] at hok ⊢
  exact (ConnectionInterrupts.keeps_step _ _ hinv hok).2

theorem interrupted_after_broadcast_sample :
    (connectionInterruptMachine.trace (ConnectionInterrupts.start 0)
      [.beginOpen "s" .desktop, .readGeneration, .finishOpen true, .broadcast, .poll]).getLast?.map (·.output.map (·.id)) =
        some ["s"] ∧
    ∀ c ∈ connectionInterruptMachine.trace (ConnectionInterrupts.start 0)
      [.beginOpen "s" .desktop, .readGeneration, .finishOpen true, .broadcast, .poll],
      ∀ session ∈ c.output, session.begun < c.after.broadcasts := by
  refine ⟨by decide, interrupted_after_broadcast 0 _ ?_⟩
  intro c hc id kind hinput
  simp only [Machine.trace_cons, Machine.trace_nil, List.mem_cons, List.not_mem_nil, or_false] at hc
  rcases hc with rfl | rfl | rfl | rfl | rfl
  · rfl
  · cases hinput
  · cases hinput
  · cases hinput
  · cases hinput

/-- An open request that was buffered behind the broadcast: the next poll stops the session that it opened. -/
theorem pipelined_open_stopped :
    let s := connectionInterruptMachine.final (ConnectionInterrupts.start 0)
      [.broadcast, .beginOpen "s" .window, .readGeneration, .finishOpen true]
    (connectionInterruptMachine.step s .poll).1 = [⟨"s", .window, some 1, false, false, 1⟩] ∧ s.broadcasts = 1 := by
  decide

end DccCua
