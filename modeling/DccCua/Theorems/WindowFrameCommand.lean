import DccCua.Core.WindowFrameCommand

/-! # A frame is set once, and the caller is told whether it was

The calls of the sequence are justified: nothing has failed before a call, and directly before the dispatch are a read of
the window as it was, and a gate. The phase of its error says whether it has dispatched, and the command passes it on. -/

namespace DccCua
namespace WindowFrame

open Calls Checks Runs Script NativeSession

namespace FrameCall

def isDispatch : FrameCall → Bool
  | .dispatch _ => true
  | _ => false

def isGate : FrameCall → Bool
  | .gate _ => true
  | _ => false

/-- The call has not failed. -/
def Fine : FrameCall → Prop
  | .gate result => result = .ok ()
  | .read result => ∃ state, result = .ok state
  | .dispatch result => result = .ok ()
  | .wait => True

end FrameCall

section
variable {target : ExactWindowTarget} {expected : ExactWindowNativeState} {requested : NativeRect}

structure SameWindow (target : ExactWindowTarget) (expected state : ExactWindowNativeState) : Prop where
  process : state.processId = target.pid
  window : state.windowHandle = target.windowId
  instanceEvidence : state.instanceEvidence = expected.instanceEvidence
  visible : state.visible = true
  minimized : state.minimized = false
  maximized : state.maximized = false

/-- The window is shown as it was expected. -/
structure Unchanged (target : ExactWindowTarget) (expected state : ExactWindowNativeState) : Prop extends SameWindow target expected state where
  bounds : state.bounds = expected.bounds
  bounded : state.bounds ≠ none
  visibleBounds : state.visibleBounds = expected.visibleBounds
  dpi : state.dpi = expected.dpi ∧ state.dpi ≠ 0

theorem unchanged_of_check {state : ExactWindowNativeState} {u : Unit} (h : checkFrameBefore target expected state = .ok u) :
    Unchanged target expected state := by
  simp only [checkFrameBefore, validateInstance, bind_eq_ok, require_eq_ok, Bool.not_eq_true', Bool.not_eq_false', Bool.or_eq_false_iff,
    decide_eq_false_iff_not, not_not, Option.isNone_eq_false_iff] at h
  obtain ⟨_, ⟨⟨⟨⟨⟨⟨-, -⟩, -⟩, -⟩, hprocess⟩, hwindow⟩, hinstance⟩, _, hmaximized, ⟨⟨⟨⟨⟨⟨hbounded, hbounds⟩, hvisibleBounds⟩, hdpi⟩, hsame⟩, hvisible⟩, hminimized⟩⟩ := h
  exact ⟨⟨hprocess, hwindow, hinstance, hvisible, hminimized, hmaximized⟩, hbounds, Option.isSome_iff_ne_none.mp hbounded, hvisibleBounds,
    hsame, hdpi⟩

/-- A reading with the frame that was asked for. -/
structure Confirmed (target : ExactWindowTarget) (expected : ExactWindowNativeState) (requested : NativeRect) (state : ExactWindowNativeState) :
    Prop extends SameWindow target expected state where
  bounds : state.bounds = some requested

theorem confirmed_of_check {state found : ExactWindowNativeState} (h : checkFrameAfter target expected requested state = .ok (some found)) :
    found = state ∧ Confirmed target expected requested state := by
  simp only [checkFrameAfter, validateInstance, bind_eq_ok, require_eq_ok, Bool.not_eq_true', Bool.not_eq_false', Bool.or_eq_false_iff,
    decide_eq_false_iff_not, not_not] at h
  obtain ⟨_, ⟨⟨⟨⟨⟨⟨-, -⟩, -⟩, -⟩, hprocess⟩, hwindow⟩, hinstance⟩, _, -, _, ⟨⟨⟨-, hvisible⟩, hminimized⟩, hmaximized⟩, hfound⟩ := h
  obtain ⟨hbounds, hsome⟩ := Option.ite_none_right_eq_some.mp (Except.ok.inj hfound)
  exact ⟨(Option.some.inj hsome).symm, ⟨hprocess, hwindow, hinstance, hvisible, hminimized, hmaximized⟩, hbounds⟩

def Allowed (target : ExactWindowTarget) (expected : ExactWindowNativeState) (c : FrameCall) (earlier : List FrameCall) : Prop :=
  (∀ before ∈ earlier, before.Fine) ∧
  (c.isDispatch = true → ∃ state rest, earlier = .gate (.ok ()) :: .read (.ok state) :: rest ∧ Unchanged target expected state) ∧
  (c.isGate = true ∨ c.isDispatch = true → ∀ before ∈ earlier, before.isDispatch = false)

/-- What is to be found when the sequence ends. -/
structure Sound (target : ExactWindowTarget) (expected : ExactWindowNativeState) (requested : NativeRect)
    (result : Except ExactWindowFrameError ExactWindowNativeState) (calls : List FrameCall) : Prop where
  justified : Justified (Allowed target expected) calls
  phase : (∃ e, result = .error (.beforeDispatch e)) ↔ ∀ c ∈ calls, c.isDispatch = false
  confirmed : ∀ state, result = .ok state → (∃ rest, calls = .read (.ok state) :: rest) ∧ Confirmed target expected requested state

/-- Nothing has failed, and the frame has been sent or not. -/
structure Going (target : ExactWindowTarget) (expected : ExactWindowNativeState) (sent : Bool) (calls : List FrameCall) : Prop where
  justified : Justified (Allowed target expected) calls
  fine : ∀ c ∈ calls, c.Fine
  dispatched : calls.any FrameCall.isDispatch = sent

variable {sent : Bool} {calls : List FrameCall} {c : FrameCall}

/-- Reads and waits may come at any time, and a gate before the dispatch. -/
theorem Going.justified_look (h : Going target expected sent calls) (hlook : c.isDispatch = false) (hgate : c.isGate = true → sent = false) :
    Justified (Allowed target expected) (c :: calls) := by
  refine h.justified.cons ⟨h.fine, fun hdispatch => ?_, fun hkind before hbefore => ?_⟩
  · rw [hlook] at hdispatch
    cases hdispatch
  · rcases hkind with hkind | hdispatch
    · have hnone := h.dispatched
      rw [hgate hkind] at hnone
      exact Bool.eq_false_iff.mpr (List.any_eq_false.mp hnone before hbefore)
    · rw [hlook] at hdispatch
      cases hdispatch

theorem Going.look (h : Going target expected sent calls) (hlook : c.isDispatch = false) (hgate : c.isGate = true → sent = false)
    (hfine : c.Fine) : Going target expected sent (c :: calls) where
  justified := h.justified_look hlook hgate
  fine := List.forall_mem_cons.mpr ⟨hfine, h.fine⟩
  dispatched := by rw [List.any_cons, hlook, Bool.false_or, h.dispatched]

theorem sound_before (h : Justified (Allowed target expected) calls) (hnone : calls.any FrameCall.isDispatch = false) {e : UiaError} :
    Sound target expected requested (.error (.beforeDispatch e)) calls where
  justified := h
  phase := ⟨fun _ c hc => Bool.eq_false_iff.mpr (List.any_eq_false.mp hnone c hc), fun _ => ⟨e, rfl⟩⟩
  confirmed state hstate := by cases hstate

theorem sound_after (h : Justified (Allowed target expected) calls) (hsent : calls.any FrameCall.isDispatch = true) {e : UiaError} :
    Sound target expected requested (.error (.afterDispatch e)) calls where
  justified := h
  phase := by
    obtain ⟨c, hc, hdispatch⟩ := List.any_eq_true.mp hsent
    refine ⟨fun ⟨e', he'⟩ => (by cases he'), fun hnone => ?_⟩
    rw [hnone c hc] at hdispatch
    cases hdispatch
  confirmed state hstate := by cases hstate

/-! ### The parts of the sequence -/

variable {κ : Type} {env : FrameClosures κ}

theorem does_callIn {α : Type} {P : List FrameCall → Prop} {R : α → List FrameCall → Prop} {E : ExactWindowFrameError → List FrameCall → Prop}
    {phase : UiaError → ExactWindowFrameError} {closure : κ → Except UiaError α × κ} {entry : Except UiaError α → FrameCall}
    (hok : ∀ calls a, P calls → R a (entry (.ok a) :: calls)) (herror : ∀ calls e, P calls → E (phase e) (entry (.error e) :: calls)) :
    Does P (callIn phase closure entry) (either R E) := by
  refine does_andThen (R := fun result calls => ∃ earlier, P earlier ∧ calls = entry result :: earlier) ?_ fun result => ?_
  · exact does_call fun calls result h => ⟨calls, h, rfl⟩
  · refine does_ret ?_
    rintro _ ⟨earlier, h, rfl⟩
    cases result with
    | ok a => exact hok earlier a h
    | error e => exact herror earlier e h

/-- A check whose error gets its phase. -/
theorem does_checkIn {α : Type} {P : List FrameCall → Prop} {R : α → List FrameCall → Prop} {E : ExactWindowFrameError → List FrameCall → Prop}
    {phase : UiaError → ExactWindowFrameError} {check : Except UiaError α} (hok : ∀ calls a, check = .ok a → P calls → R a calls)
    (herror : ∀ calls e, P calls → E (phase e) calls) :
    Does P (Prog.ret (mapError phase check) : FrameProg κ α) (either R E) := by
  refine does_ret fun calls h => ?_
  cases hcheck : check with
  | ok a => exact hok calls a hcheck h
  | error e => exact herror calls e h

theorem does_readback : ∀ left, Does (fun calls => Going target expected true calls) (readback env target expected requested left)
    fun result calls => Sound target expected requested result calls
  | 0 => does_ret fun calls h => sound_after h.justified h.dispatched
  | left + 1 => by
    refine does_tryThen (R := fun after calls => Going target expected true calls ∧ ∃ rest, calls = .read (.ok after) :: rest)
      (does_callIn (fun calls after h => ⟨h.look rfl (by simp [FrameCall.isGate]) ⟨after, rfl⟩, calls, rfl⟩) fun calls e h => ?_) fun after => ?_
    · refine sound_after (h.justified_look rfl (by simp [FrameCall.isGate])) ?_
      rw [List.any_cons, h.dispatched, Bool.or_true]
    refine does_tryThen (R := fun found calls => (Going target expected true calls ∧ ∃ rest, calls = .read (.ok after) :: rest) ∧
      checkFrameAfter target expected requested after = .ok found) (does_checkIn (fun calls found hcheck h => ⟨h, hcheck⟩) fun calls e h =>
        sound_after h.1.justified h.1.dispatched) fun found => ?_
    cases found with
    | some found =>
      refine does_ret ?_
      rintro calls ⟨⟨hgoing, hread⟩, hcheck⟩
      obtain ⟨rfl, hconfirmed⟩ := confirmed_of_check hcheck
      refine ⟨hgoing.justified, ⟨fun ⟨e, he⟩ => (by cases he), fun hnone => ?_⟩, fun state hstate => ?_⟩
      · obtain ⟨c, hc, hdispatch⟩ := List.any_eq_true.mp hgoing.dispatched
        rw [hnone c hc] at hdispatch
        cases hdispatch
      · obtain rfl := Except.ok.inj hstate
        exact ⟨hread, hconfirmed⟩
    | none =>
      refine does_andThen (R := fun _ calls => Going target expected true calls) ?_ fun _ => does_readback left
      split
      · exact does_ret fun calls h => h.1.1
      · exact does_note fun calls h => h.1.1.look rfl (by simp [FrameCall.isGate]) trivial

theorem does_runExactWindowFrameSequence (env : FrameClosures κ) : Yields (runExactWindowFrameSequence env target expected requested)
    fun result calls => Sound target expected requested result calls := by
  refine does_tryThen (R := fun _ calls => Going target expected false calls) (does_checkIn ?_ ?_) fun _ => ?_
  · rintro _ _ - rfl
    exact ⟨justified_nil, by simp, rfl⟩
  · rintro _ e rfl
    exact sound_before justified_nil rfl
  have hfailed : ∀ {c : FrameCall} {calls : List FrameCall} {e : UiaError}, Going target expected false calls → c.isDispatch = false →
      Sound target expected requested (.error (.beforeDispatch e)) (c :: calls) := by
    intro c calls e h hlook
    refine sound_before (h.justified_look hlook fun _ => rfl) ?_
    rw [List.any_cons, hlook, h.dispatched, Bool.or_false]
  refine does_tryThen (R := fun _ calls => Going target expected false calls)
    (does_callIn (fun calls _ h => h.look rfl (fun _ => rfl) rfl) fun calls e h => hfailed h rfl) fun _ => ?_
  refine does_tryThen (R := fun before calls => Going target expected false calls ∧ ∃ rest, calls = .read (.ok before) :: rest)
    (does_callIn (fun calls before h => ⟨h.look rfl (by simp [FrameCall.isGate]) ⟨before, rfl⟩, calls, rfl⟩) fun calls e h => hfailed h rfl) fun before => ?_
  refine does_tryThen (R := fun _ calls => (Going target expected false calls ∧ ∃ rest, calls = .read (.ok before) :: rest) ∧
    Unchanged target expected before) (does_checkIn (fun calls _ hcheck h => ⟨h, unchanged_of_check hcheck⟩) fun calls e h =>
      sound_before h.1.justified h.1.dispatched) fun _ => ?_
  refine does_tryThen (R := fun _ calls => Going target expected false calls ∧ (∃ rest, calls = .gate (.ok ()) :: .read (.ok before) :: rest) ∧
    Unchanged target expected before) (does_callIn ?_ fun calls e h => hfailed h.1.1 rfl) fun _ => ?_
  · rintro calls _ ⟨⟨h, rest, rfl⟩, hunchanged⟩
    exact ⟨h.look rfl (fun _ => rfl) rfl, ⟨rest, rfl⟩, hunchanged⟩
  have hjustified : ∀ {result calls}, Going target expected false calls ∧ (∃ rest, calls = .gate (.ok ()) :: .read (.ok before) :: rest) ∧
      Unchanged target expected before → Justified (Allowed target expected) (.dispatch result :: calls) := by
    rintro result calls ⟨h, ⟨rest, hcalls⟩, hunchanged⟩
    exact h.justified.cons ⟨h.fine, fun _ => ⟨before, rest, hcalls, hunchanged⟩,
      fun _ b hb => Bool.eq_false_iff.mpr (List.any_eq_false.mp h.dispatched b hb)⟩
  refine does_tryThen (R := fun _ calls => Going target expected true calls) (does_callIn (fun calls _ h => ?_) fun calls e h => ?_) fun _ =>
    does_readback _
  · exact ⟨hjustified h, List.forall_mem_cons.mpr ⟨rfl, h.1.fine⟩, rfl⟩
  · exact sound_after (hjustified h) rfl

/-! ### The command -/

/-- After a gate that has failed nothing is dispatched. -/
theorem not_dispatched_of_gate {e : UiaError} (h : Justified (Allowed target expected) calls) (hgate : .gate (.error e) ∈ calls) :
    calls.any FrameCall.isDispatch = false := by
  obtain ⟨later, earlier, rfl⟩ := List.append_of_mem hgate
  have hearlier := (h later _ earlier rfl).2.2 (Or.inl rfl)
  cases hlast : later.reverse with
  | nil =>
    obtain rfl := List.reverse_eq_nil_iff.mp hlast
    exact List.any_eq_false.mpr (List.forall_mem_cons.mpr ⟨by simp [FrameCall.isDispatch], fun c hc => by simp [hearlier c hc]⟩)
  | cons c rest =>
    obtain rfl : later = rest.reverse ++ [c] := by rw [← List.reverse_inj, hlast]; simp
    have hfine := (h rest.reverse c (.gate (.error e) :: earlier) (by simp)).1 _ List.mem_cons_self
    cases hfine

end

section Command
variable {ω : Type} {env : CommandClosures ω} {s : NativeSession} {id : String} {metadata : NativeWindowFrameMetadata}

/-- An error that the gate has found itself is one of a gate that has failed. -/
def GateKept (logged : Logged (CommandWorld ω) FrameCall) : Prop :=
  logged.world.preDispatchError ≠ none → ∃ e, .gate (.error e) ∈ logged.calls

theorem keeps_callIn {α : Type} {phase : UiaError → ExactWindowFrameError} {closure : CommandWorld ω → Except UiaError α × CommandWorld ω}
    {entry : Except UiaError α → FrameCall} (h : ∀ world, (closure world).2.preDispatchError = world.preDispatchError) :
    Keeps GateKept (callIn phase closure entry) := by
  refine keeps_andThen (keeps_update fun logged hkept herror => ?_) fun _ => keeps_ret _
  rw [h] at herror
  obtain ⟨e, he⟩ := hkept herror
  exact ⟨e, List.mem_cons_of_mem _ he⟩

theorem keeps_gate {phase : UiaError → ExactWindowFrameError} : Keeps GateKept (callIn phase (commandGate env s id metadata) .gate) := by
  refine keeps_andThen (keeps_update fun logged hkept herror => ?_) fun _ => keeps_ret _
  by_cases hsame : (commandGate env s id metadata logged.world).2.preDispatchError = logged.world.preDispatchError
  · rw [hsame] at herror
    obtain ⟨e, he⟩ := hkept herror
    exact ⟨e, List.mem_cons_of_mem _ he⟩
  · suffices hfailed : ∃ e, (commandGate env s id metadata logged.world).1 = .error e by
      obtain ⟨e, he⟩ := hfailed
      exact ⟨e, by rw [he]; exact List.mem_cons_self⟩
    revert hsame
    unfold commandGate
    dsimp only
    split
    · exact fun _ => ⟨_, rfl⟩
    · split
      · exact fun _ => ⟨_, rfl⟩
      · split
        · exact fun _ => ⟨_, rfl⟩
        · split
          · exact fun _ => ⟨_, rfl⟩
          · exact fun hsame => absurd rfl hsame

theorem keeps_readback {target : ExactWindowTarget} {expected : ExactWindowNativeState} {requested : NativeRect} : ∀ left,
    Keeps GateKept (readback (commandClosures env s id metadata) target expected requested left)
  | 0 => keeps_ret _
  | left + 1 => by
    refine keeps_tryThen (keeps_callIn fun _ => rfl) fun after => keeps_tryThen (keeps_ret _) fun found => ?_
    cases found with
    | some found => exact keeps_ret _
    | none =>
      refine keeps_andThen ?_ fun _ => keeps_readback left
      split
      · exact keeps_ret _
      · refine keeps_update fun logged hkept herror => ?_
        obtain ⟨e, he⟩ := hkept herror
        exact ⟨e, List.mem_cons_of_mem _ he⟩

theorem keeps_setExactWindowFrame {target : ExactWindowTarget} {expected : ExactWindowNativeState} {requested : NativeRect} :
    Keeps GateKept (setExactWindowFrame env (commandClosures env s id metadata) target expected requested) := by
  refine keeps_andThen (keeps_update fun logged hkept => hkept) fun scope => keeps_tryThen (keeps_ret _) fun _ => ?_
  refine keeps_tryThen (keeps_ret _) fun _ => keeps_tryThen keeps_gate fun _ => keeps_tryThen (keeps_callIn fun _ => rfl) fun before => ?_
  refine keeps_tryThen (keeps_ret _) fun _ => keeps_tryThen keeps_gate fun _ => keeps_tryThen (keeps_callIn fun _ => rfl) fun _ => ?_
  exact keeps_readback _

/-- What an error says of the attempt. -/
def CommandError.attempted (e : CommandError) : Option Bool := e.details.bind (·.actionAttempted)

theorem attempted_native {e : CommandError} {attempted : Bool} : (nativeFrameAttemptError e attempted).attempted = some attempted := rfl

theorem attempted_unattempted {e : Unattempted} : e.toCommandError.attempted.getD false = false := by
  cases e <;> rfl

/-- The error says of the attempt what has happened. -/
abbrev Told (e : CommandError) (calls : List FrameCall) : Prop := e.attempted.getD false = calls.any FrameCall.isDispatch

/-- Nothing has been called. -/
def Begun (logged : Logged (CommandWorld ω) FrameCall) : Prop := logged.calls = [] ∧ GateKept logged

/-- With an error the caller is told. -/
abbrev Telling {α : Type} (R : α → Logged (CommandWorld ω) FrameCall → Prop) :
    Except CommandError α → Logged (CommandWorld ω) FrameCall → List Unit → Prop :=
  orError (fun a logged _ => R a logged) fun e logged _ => Told e logged.calls

theorem triple_plain {α : Type} {check : Except ComputerUseError α} : Triple (fun logged _ => Begun logged)
    (Prog.ret (plain check) : CommandProg ω α) (Telling fun _ logged => Begun logged) fun _ => False := by
  refine triple_ret fun logged _ h => ?_
  cases check with
  | ok a => exact h
  | error e =>
    show _ = _
    rw [h.1]
    rfl

theorem triple_asked {α : Type} {closure : ω → Except Unattempted α × ω} : Triple (fun logged _ => Begun logged)
    ((ask closure).andThen fun result => Prog.ret (unattempted result) : CommandProg ω α) (Telling fun _ logged => Begun logged)
    fun _ => False := by
  refine triple_andThen (R := fun _ logged _ => Begun logged) (triple_update fun _ _ h => h) fun result => triple_ret fun logged _ h => ?_
  cases result with
  | ok a => exact h
  | error e =>
    show _ = _
    rw [h.1]
    exact attempted_unattempted

theorem does_setExactWindowFrame {closures : FrameClosures (CommandWorld ω)} {target : ExactWindowTarget} {expected : ExactWindowNativeState}
    {requested : NativeRect} : Yields (setExactWindowFrame env closures target expected requested)
      fun result calls => Sound target expected requested result calls := by
  refine does_andThen (R := fun _ calls => calls = []) (triple_update fun _ _ h => h) fun scope => ?_
  refine does_tryThen (R := fun _ calls => calls = []) (does_ret fun calls h => ?_) fun _ => does_runExactWindowFrameSequence closures
  cases scope with
  | true => exact h
  | false =>
    obtain rfl := h
    exact sound_before justified_nil rfl

/-- The error of the native call, or the one that the gate has kept. -/
theorem told_mapFailure {target : ExactWindowTarget} {expected : ExactWindowNativeState} {requested : NativeRect}
    {preDispatchError : Option CommandError} {failure : ExactWindowFrameError} {calls : List FrameCall}
    (hsound : Sound target expected requested (.error failure) calls)
    (hkept : preDispatchError ≠ none → ∃ e, .gate (.error e) ∈ calls) : Told (mapFailure preDispatchError failure) calls := by
  cases preDispatchError with
  | some error =>
    obtain ⟨e, he⟩ := hkept (by simp)
    exact (not_dispatched_of_gate hsound.justified he).symm
  | none =>
    cases failure with
    | beforeDispatch error =>
      refine (List.any_eq_false.mpr fun c hc => ?_).symm
      rw [hsound.phase.mp ⟨error, rfl⟩ c hc]
      exact Bool.false_ne_true
    | afterDispatch error =>
      refine Eq.symm (by_contra fun hnone => ?_)
      have hnever : calls.any FrameCall.isDispatch = false := Bool.eq_false_iff.mpr hnone
      obtain ⟨e, he⟩ := hsound.phase.mpr fun c hc => Bool.eq_false_iff.mpr (List.any_eq_false.mp hnever c hc)
      cases he

theorem triple_commandBody {request : ComputerUseWindowFrameRequest} {metadata : Option NativeWindowFrameMetadata} :
    Triple (fun logged _ => Begun logged) (commandBody env s metadata id request) (Telling fun _ _ => True) fun _ => False := by
  refine triple_tryThen triple_asked fun _ => triple_tryThen triple_plain fun _ => triple_tryThen triple_plain fun requested => ?_
  cases metadata with
  | none =>
    refine triple_ret fun logged _ h => ?_
    show _ = _
    rw [h.1]
    rfl
  | some metadata =>
    refine triple_andThen (R := fun _ logged _ => Begun logged) (triple_update fun _ _ h => h) fun age => ?_
    refine triple_tryThen triple_plain fun _ => triple_tryThen triple_asked fun target => triple_tryThen triple_plain fun _ => ?_
    refine triple_tryThen (R := fun _ _ _ => True)
      (triple_andThen (triple_keeping does_setExactWindowFrame keeps_setExactWindowFrame) fun outcome => ?_)
      fun state => triple_ret fun _ _ _ => trivial
    refine triple_read fun logged _ h => ?_
    cases outcome with
    | ok state => exact trivial
    | error failure => exact told_mapFailure h.1 h.2

end Command

/-- The sequence dispatches at most once, after a gate that follows a read of the unchanged window, and its phase says
    whether it has; the command tells its caller. -/
theorem frame_mutation_told :
    (∀ (κ : Type) (env : FrameClosures κ) (target : ExactWindowTarget) (expected : ExactWindowNativeState) (requested : NativeRect),
      Yields (runExactWindowFrameSequence env target expected requested) fun result calls =>
        calls.countP FrameCall.isDispatch ≤ 1 ∧ Sound target expected requested result calls) ∧
    ∀ (ω : Type) (env : CommandClosures ω) (s : NativeSession) (metadata : Option NativeWindowFrameMetadata) (id : String)
      (request : ComputerUseWindowFrameRequest) (outer : ω),
      Ends (fun result logged _ => ∀ e, result = .error e → e.attempted = some (logged.calls.any FrameCall.isDispatch)) (fun _ => False)
        (setWindowFrameFromNativeState env s metadata id request (start outer) []) := by
  constructor
  · intro κ env target expected requested
    refine does_weaken (does_runExactWindowFrameSequence env) (fun _ h => h) fun result calls hsound => ⟨?_, hsound⟩
    exact countP_le_one (P := Allowed target expected) (fun a earlier hallowed ha b hb => hallowed.2.2 (Or.inr ha) b hb) hsound.justified
  · intro ω env s metadata id request outer
    refine triple_andThen triple_commandBody (fun result => triple_ret fun logged _ h e he => ?_) (start outer) [] ⟨rfl, fun herror => absurd rfl herror⟩
    cases result with
    | ok report => cases he
    | error e' =>
      obtain rfl := Except.error.inj he
      exact congrArg some h

end WindowFrame
end DccCua
