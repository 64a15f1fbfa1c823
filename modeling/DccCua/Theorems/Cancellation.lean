import DccCua.Host.Cancellation
import Mathlib.Data.List.Nodup

/-! A running session wait is cancelled only with its own credentials, as long as no session id looks like
    the key of a window wait. -/

namespace DccCua

open Runs

namespace Waits

/-- What a call can do to the registry. -/
inductive Effect (s : Waits) (call : WaitCall) : Waits → Prop where
  | same : Effect s call s
  | registered (wait : Wait) (free : s.registry.contains wait.key = false)
      (session : ∀ sessionId taskGrantId windowCapability, wait = .session sessionId taskGrantId windowCapability →
        call = .registerWait sessionId taskGrantId windowCapability) :
      Effect s call ⟨s.registry.insert wait.key (wait.handle false), wait :: s.running⟩
  | cancelled (key : String) (handle : CancellationHandle) (found : s.registry[key]? = some handle)
      (by_ : call = .cancelWait key handle.taskGrantId handle.windowCapability ∨ ∃ waitId, key = windowWaitKey waitId) :
      Effect s call ⟨s.registry.insert key { handle with cancelled := true }, s.running⟩
  | finished (wait : Wait) (running : wait ∈ s.running) :
      Effect s call ⟨s.registry.erase wait.key, s.running.erase wait⟩

theorem register_effect {s : Waits} {call : WaitCall} {wait : Wait} {taken : String}
    (session : ∀ sessionId taskGrantId windowCapability, wait = .session sessionId taskGrantId windowCapability →
      call = .registerWait sessionId taskGrantId windowCapability) : Effect s call (s.register wait taken).2 := by
  unfold register
  split
  · exact .same
  · rename_i hfree
    exact .registered wait (Bool.not_eq_true _ ▸ hfree) session

theorem step_effect (s : Waits) (call : WaitCall) : Effect s call (waitMachine.step s call).2 := by
  cases call with
  | registerWait sessionId taskGrantId windowCapability =>
    refine register_effect fun _ _ _ h => ?_
    cases h
    rfl
  | registerWindowWait waitId =>
    simp only [waitMachine, registerWindowWait]
    split
    · exact .same
    · exact register_effect fun _ _ _ h => by cases h
  | cancelWait sessionId taskGrantId windowCapability =>
    simp only [waitMachine, cancelWait]
    split
    · exact .same
    · rename_i handle hfound
      split
      · exact .same
      · rename_i hcred
        simp only [ne_eq, Bool.or_eq_true, decide_eq_true_eq, not_or, not_not] at hcred
        obtain ⟨rfl, rfl⟩ := hcred
        exact .cancelled _ _ hfound (Or.inl rfl)
  | cancelWindowWait waitId =>
    simp only [waitMachine, cancelWindowWait]
    split
    · exact .same
    · split
      · exact .same
      · rename_i handle hfound
        exact .cancelled _ _ hfound (Or.inr ⟨waitId, rfl⟩)
  | finish wait =>
    simp only [waitMachine, finish]
    split
    · rename_i hrunning
      exact .finished wait hrunning
    · exact .same

/-- Every running wait has its own entry, and no session id is the key of a window wait. -/
structure Guarded (s : Waits) : Prop where
  keys : (s.running.map Wait.key).Nodup
  entry : ∀ wait ∈ s.running, ∃ cancelled, s.registry[wait.key]? = some (wait.handle cancelled)
  apart : ∀ sessionId taskGrantId windowCapability, .session sessionId taskGrantId windowCapability ∈ s.running →
    ∀ waitId, sessionId ≠ windowWaitKey waitId

/-- A call does not register a session wait under the key of a window wait. -/
def Apart (call : WaitCall) : Prop :=
  ∀ sessionId taskGrantId windowCapability, call = .registerWait sessionId taskGrantId windowCapability →
    ∀ waitId, sessionId ≠ windowWaitKey waitId

theorem handle_cancelled (wait : Wait) (cancelled : Bool) :
    { wait.handle cancelled with cancelled := true } = wait.handle true := by
  cases wait <;> rfl

theorem Guarded.effect {s s' : Waits} {call : WaitCall} (h : Guarded s) (hcall : Apart call) (he : Effect s call s') :
    Guarded s' := by
  cases he with
  | same => exact h
  | registered wait free session =>
    have hnew : ∀ other ∈ s.running, other.key ≠ wait.key := by
      intro other hother heq
      obtain ⟨cancelled, hentry⟩ := h.entry other hother
      rw [heq] at hentry
      rw [Std.TreeMap.contains_eq_isSome_getElem?, hentry] at free
      cases free
    refine ⟨?_, ?_, ?_⟩
    · rw [List.map_cons, List.nodup_cons]
      refine ⟨fun hmem => ?_, h.keys⟩
      obtain ⟨other, hother, heq⟩ := List.mem_map.mp hmem
      exact hnew other hother heq
    · intro other hother
      rcases List.mem_cons.mp hother with rfl | hother
      · exact ⟨false, by simp⟩
      · obtain ⟨cancelled, hentry⟩ := h.entry other hother
        refine ⟨cancelled, ?_⟩
        rw [Std.TreeMap.getElem?_insert, if_neg, hentry]
        simpa using Ne.symm (hnew other hother)
    · intro sessionId taskGrantId windowCapability hmem
      rcases List.mem_cons.mp hmem with heq | hmem
      · exact hcall _ _ _ (session _ _ _ heq.symm)
      · exact h.apart _ _ _ hmem
  | cancelled key handle found _ =>
    refine ⟨h.keys, ?_, h.apart⟩
    intro wait hwait
    obtain ⟨cancelled, hentry⟩ := h.entry wait hwait
    rw [Std.TreeMap.getElem?_insert]
    by_cases hkey : key = wait.key
    · subst hkey
      obtain rfl : handle = wait.handle cancelled := Option.some.inj (found.symm.trans hentry)
      exact ⟨true, by simp [handle_cancelled]⟩
    · exact ⟨cancelled, by simpa [hkey] using hentry⟩
  | finished wait running =>
    have hnodup : s.running.Nodup := List.Nodup.of_map _ h.keys
    have hkept : ∀ other ∈ s.running.erase wait, other ∈ s.running ∧ other.key ≠ wait.key := by
      intro other hother
      obtain ⟨hne, hmem⟩ := hnodup.mem_erase_iff.mp hother
      exact ⟨hmem, fun heq => hne (List.inj_on_of_nodup_map h.keys hmem running heq)⟩
    refine ⟨h.keys.sublist (List.erase_sublist.map _), ?_, ?_⟩
    · intro other hother
      obtain ⟨hmem, hne⟩ := hkept other hother
      obtain ⟨cancelled, hentry⟩ := h.entry other hmem
      exact ⟨cancelled, by simpa [Std.TreeMap.getElem?_erase, Ne.symm hne] using hentry⟩
    · intro sessionId taskGrantId windowCapability hmem
      exact h.apart _ _ _ (hkept _ hmem).1

/-- What sets the flag of a running session wait. -/
theorem Guarded.cancels {s s' : Waits} {call : WaitCall} (h : Guarded s) (he : Effect s call s')
    {sessionId taskGrantId windowCapability : String}
    (hrunning : .session sessionId taskGrantId windowCapability ∈ s.running)
    (hbefore : s.cancelled (.session sessionId taskGrantId windowCapability) = false)
    (hafter : s'.cancelled (.session sessionId taskGrantId windowCapability) = true) :
    call = .cancelWait sessionId taskGrantId windowCapability := by
  obtain ⟨cancelled, hentry⟩ := h.entry _ hrunning
  simp only [Waits.cancelled, Wait.key] at hbefore hafter hentry
  cases he with
  | same => exact absurd (hbefore.symm.trans hafter) Bool.false_ne_true
  | registered wait free _ =>
    exfalso
    by_cases hkey : wait.key = sessionId
    · rw [hkey, Std.TreeMap.contains_eq_isSome_getElem?, hentry] at free
      cases free
    · rw [Std.TreeMap.getElem?_insert, if_neg (by simpa using hkey), hbefore] at hafter
      cases hafter
  | cancelled key handle found by_ =>
    by_cases hkey : key = sessionId
    · subst hkey
      obtain rfl : handle = Wait.handle cancelled (.session key taskGrantId windowCapability) :=
        Option.some.inj (found.symm.trans hentry)
      rcases by_ with hcall | ⟨waitId, heq⟩
      · exact hcall
      · exact absurd heq (h.apart _ _ _ hrunning waitId)
    · rw [Std.TreeMap.getElem?_insert, if_neg (by simpa using hkey), hbefore] at hafter
      cases hafter
  | finished wait _ =>
    exfalso
    by_cases hkey : wait.key = sessionId
    · rw [hkey, Std.TreeMap.getElem?_erase_self] at hafter
      cases hafter
    · rw [Std.TreeMap.getElem?_erase, if_neg (by simpa using hkey), hbefore] at hafter
      cases hafter

/-- In a run that registers no session wait under the key of a window wait, a running session wait is
    cancelled only by a cancel of its session with its task grant and its window capability. -/
theorem session_wait_cancelled_by_owner (calls : List WaitCall)
    (hcalls : ∀ call ∈ waitMachine.trace start calls, Apart call.input) :
    ∀ call ∈ waitMachine.trace start calls, ∀ sessionId taskGrantId windowCapability,
      .session sessionId taskGrantId windowCapability ∈ call.before.running →
      call.before.cancelled (.session sessionId taskGrantId windowCapability) = false →
      call.after.cancelled (.session sessionId taskGrantId windowCapability) = true →
      call.input = .cancelWait sessionId taskGrantId windowCapability := by
  intro call hmem sessionId taskGrantId windowCapability hrunning hbefore hafter
  have hstart : Guarded start := ⟨List.nodup_nil, by simp [start], by simp [start]⟩
  have keep : ∀ s input, Guarded s → Apart (waitMachine.call s input).input → Guarded (waitMachine.step s input).2 :=
    fun s input h hok => h.effect hok (step_effect s input)
  have h : Guarded call.before :=
    Machine.inv_calls (P := fun call => Apart call.input) keep calls hstart hcalls call hmem
  have hstep : Effect call.before call.input call.after := by
    rw [Machine.eq_call_of_mem hmem]
    exact step_effect _ _
  exact h.cancels hstep hrunning hbefore hafter

/-- A wait for a session and one for a window, each cancelled under its own name. -/
def sampleCalls : List WaitCall :=
  [.registerWait "session-1" "grant" "capability", .registerWindowWait "a", .cancelWindowWait "a",
    .cancelWait "session-1" "grant" "capability"]

theorem session_wait_cancelled_by_owner_sample :
    (waitMachine.final start sampleCalls).cancelled (.session "session-1" "grant" "capability") = true ∧
    ∀ call ∈ waitMachine.trace start sampleCalls,
      .session "session-1" "grant" "capability" ∈ call.before.running →
      call.before.cancelled (.session "session-1" "grant" "capability") = false →
      call.after.cancelled (.session "session-1" "grant" "capability") = true →
      call.input = .cancelWait "session-1" "grant" "capability" := by
  refine ⟨by decide, fun call hmem => ?_⟩
  refine session_wait_cancelled_by_owner sampleCalls ?_ call hmem "session-1" "grant" "capability"
  intro call hcall sessionId taskGrantId windowCapability heq waitId hkey
  simp only [sampleCalls, Machine.trace_cons, Machine.trace_nil, List.mem_cons, List.not_mem_nil, or_false] at hcall
  rcases hcall with rfl | rfl | rfl | rfl
  · cases heq
    exact absurd (congrArg (fun text => text.toList.head?) hkey) (by simp [windowWaitKey])
  all_goals cases heq

/-- A session wait whose id is the key of the window wait `a` is cancelled by the cancel of `a`. -/
theorem window_cancel_reaches_session_wait :
    let s := (waitMachine.step start (.registerWait "window_wait:a" "grant" "capability")).2
    .session "window_wait:a" "grant" "capability" ∈ s.running ∧
    s.cancelled (.session "window_wait:a" "grant" "capability") = false ∧
    (waitMachine.step s (.cancelWindowWait "a")).2.cancelled (.session "window_wait:a" "grant" "capability") = true := by
  decide

end Waits
end DccCua
