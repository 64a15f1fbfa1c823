import DccCua.Theorems.SessionFences

/-! # Action attempts raise fences

Whatever route an attempt takes, and wherever it fails: once it may have sent input, it ends with a fence, or the
session has ended. -/

namespace DccCua

open Runs Script

namespace ComputerUseSession

open LiveObservation

theorem Guarded.observe {s : ComputerUseSession} (h : Guarded s) (event : SessionEvent) : Guarded (s.observe event) := by
  cases event with
  | stream event =>
    intro hactive o ho
    obtain ⟨old, hold, rfl⟩ := Option.map_eq_some_iff.mp ho
    rcases h hactive old hold with hterminal | hfence
    · exact Or.inl (terminal_observe hterminal event)
    · exact Or.inr hfence
  | _ => exact h

/-- What an attempt keeps: once it may have sent input, a fence stands. -/
structure Attempting (s : ComputerUseSession) : Prop where
  fenced : Fenced s
  guarded : s.history.dispatched = true → Guarded s

theorem Attempting.of_guarded {s : ComputerUseSession} (h : Fenced s) (hg : Guarded s) : Attempting s := ⟨h, fun _ => hg⟩

theorem Fenced.attempting {s : ComputerUseSession} (h : Fenced s) : Attempting s.invalidateActionObservations :=
  .of_guarded h.invalidate (invalidate_guarded h)

theorem Ended.attempting {s : ComputerUseSession} (h : Ended s) : Attempting s :=
  .of_guarded h.fenced fun hactive => by rw [h.inactive] at hactive; cases hactive

theorem stableAttempting : Stable Attempting Attempting := by
  refine .refl (fun event s h => ⟨h.fenced.observe event, fun hd => ?_⟩)
    (fun _ h => ⟨h.fenced.lost, h.guarded⟩) fun _ h => h.fenced.attempting
  have hsame : (s.observe event).history = s.history := by cases event <;> rfl
  exact (h.guarded (hsame ▸ hd)).observe event

theorem Fenced.dispatched {s : ComputerUseSession} (h : Fenced s) (dispatched : Bool) :
    Fenced { s with history := { s.history with dispatched := dispatched } } :=
  h.congr rfl (Nat.le_refl _) rfl (fun ha => ha) rfl rfl

/-- How an attempt ends: with a result, the fence of the action is the latest frame. -/
def AttemptEnds (result : Except ComputerUseError ComputerUseToolStatus) (s : ComputerUseSession) (_ : List SessionEvent) :
    Prop :=
  Attempting s ∧ (result.isOk = true → s.postActionLiveSequenceFence = s.latestFence)

abbrev Attempts (prog : SessionProg ComputerUseToolStatus) : Prop :=
  Triple (fun s _ => Attempting s) prog AttemptEnds Attempting

theorem attemptEnds_error {error : ComputerUseError} {s : ComputerUseSession} (rest : List SessionEvent) (h : Attempting s) :
    AttemptEnds (.error error) s rest := ⟨h, fun hok => (by cases hok)⟩

theorem attempts_tryThen {α : Type} {p : SessionProg α} {f : α → SessionProg ComputerUseToolStatus}
    (hp : KeepsOr Attempting Attempting p) (hf : ∀ a, Attempts (f a)) : Attempts (p.tryThen f) := by
  refine triple_tryThen (triple_weaken hp (fun _ _ hs => hs) fun result s rest hs => ?_) hf
  cases result with
  | ok a => exact hs
  | error e => exact attemptEnds_error rest hs

theorem attempts_read {α : Type} {f : ComputerUseSession → α} {g : α → SessionProg ComputerUseToolStatus}
    (hg : ∀ a, Attempts (g a)) : Attempts (Prog.andThen (Prog.read f) g) :=
  triple_andThen (triple_read fun _ _ hs => hs) hg

theorem attempts_ask {α : Type} {answer : SessionEvent → Option α} {g : α → SessionProg ComputerUseToolStatus}
    (hg : ∀ a, Attempts (g a)) : Attempts (Prog.andThen (ask answer) g) :=
  triple_andThen (stableAttempting.awaits answer) hg

theorem attempts_completeAction (status : ComputerUseToolStatus) : Attempts (completeAction status) := by
  refine attempts_ask fun _ => triple_update fun s _ hs => ⟨⟨?_, hs.guarded⟩, fun _ => rfl⟩
  refine ⟨hs.fenced.fresh, hs.fenced.old, hs.fenced.issued, fun hactive o ho => ?_⟩
  have hknown := hs.fenced.known hactive o ho
  refine ⟨hknown.opened, hknown.reached, fun n hn => ?_⟩
  -- The new fence is the latest frame of the stream, which has reached every moment.
  rcases reached_fence ho (hknown.reached n hn) with hterminal | ⟨m, hm, hle⟩
  · exact Or.inl (Or.inl hterminal)
  · exact Or.inr (Or.inr ⟨⟨o.streamId, m⟩, hm, rfl, hle⟩)

/-- After a dispatch only the invariant of the session is left, until a fence is raised. -/
theorem attempts_dispatch {α : Type} (sent : Bool) {f : Unit → SessionProg α}
    {Q : Except ComputerUseError α → ComputerUseSession → List SessionEvent → Prop}
    (hf : ∀ a, Triple (fun s _ => Fenced s) (f a) Q Attempting) :
    Triple (fun s _ => Attempting s) ((dispatchedIf sent).tryThen f) Q Attempting :=
  triple_tryThen (R := fun _ s _ => Fenced s) (triple_update fun _ _ hs => hs.fenced.dispatched _) hf

theorem invalidate_tryThen {α : Type} {f : Unit → SessionProg α}
    {Q : Except ComputerUseError α → ComputerUseSession → List SessionEvent → Prop}
    (hf : ∀ a, Triple (fun s _ => Attempting s) (f a) Q Attempting) :
    Triple (fun s _ => Fenced s) ((modify invalidateActionObservations).tryThen f) Q Attempting :=
  triple_tryThen (R := fun _ s _ => Attempting s) (triple_update fun _ _ hs => hs.attempting) hf

theorem completeMutatingAction_ends (status : ComputerUseToolStatus) :
    Triple (fun s _ => Fenced s) (completeMutatingAction status) AttemptEnds Attempting :=
  invalidate_tryThen fun _ => attempts_completeAction status

/-- A failed local mutation raises a fence; after a successful one `f` has to. -/
theorem localMutation_ends {α : Type} (outcome : Except ComputerUseError α) {f : α → SessionProg ComputerUseToolStatus}
    (hf : ∀ a, outcome = .ok a → Triple (fun s _ => Fenced s) (f a) AttemptEnds Attempting) :
    Triple (fun s _ => Fenced s) ((attempt (finishLocalMutationAttempt outcome)).tryThen f) AttemptEnds Attempting := by
  cases outcome with
  | ok a =>
    refine triple_tryThen (R := fun b s _ => b = a ∧ Fenced s) ?_ fun b => ?_
    · exact triple_andThen (R := fun result s _ => result = .ok a ∧ Fenced s) (triple_update fun s _ hs => ⟨rfl, hs⟩)
        fun result => triple_update fun s _ hs => by
          obtain ⟨rfl, hs⟩ := hs
          exact ⟨rfl, hs⟩
    · intro s script hs
      exact hf b (hs.1 ▸ rfl) s script hs.2
  | error error =>
    refine triple_tryThen (R := fun _ _ _ => False) ?_ fun _ s _ hs => hs.elim
    refine triple_andThen (R := fun result s _ => result = .error error ∧ Attempting s)
      (triple_update fun s _ hs => ⟨rfl, hs.attempting⟩) fun result => triple_update fun s rest hs => ?_
    obtain ⟨rfl, hs⟩ := hs
    exact attemptEnds_error rest (stableAttempting.sensitive (.error error : Except ComputerUseError α) hs)

/-! ### The routes of an action -/

/-- A result that only waits for its checks. -/
theorem attempts_finish {α : Type} (result : Except ComputerUseError α) {f : α → SessionProg ComputerUseToolStatus}
    (hf : ∀ a, Attempts (f a)) : Attempts ((finishObservationSensitiveAttempt result).tryThen f) :=
  attempts_tryThen (stableAttempting.finish result) hf

theorem attempts_check (which : SessionCheck) {f : Unit → SessionProg ComputerUseToolStatus} (hf : ∀ a, Attempts (f a)) :
    Attempts ((check which).tryThen f) := attempts_tryThen (stableAttempting.check which) hf

theorem performExactPixelAction_ends : Attempts performExactPixelAction := by
  refine attempts_check _ fun _ => attempts_check _ fun _ => attempts_ask fun outcome => ?_
  refine attempts_dispatch true fun _ => invalidate_tryThen fun _ => ?_
  exact attempts_finish outcome fun status => attempts_completeAction status

theorem performWindowsUiaAction_ends : Attempts performWindowsUiaAction := by
  refine attempts_check _ fun _ => attempts_ask fun outcome => attempts_dispatch true fun _ => ?_
  exact localMutation_ends outcome fun status _ => completeMutatingAction_ends status

/-- After the answer of the driver a fence stands, or nothing was sent, or the session has ended. -/
theorem finishTypedDispatchResult_ends (platform : SessionPlatform) (answer : DriverAnswer) :
    KeepsOr Attempting Attempting (finishTypedDispatchResult platform answer) := by
  have hlocal : ∀ error : ComputerUseError, KeepsOr Attempting Attempting
      ((dispatchedIf true).tryThen fun _ => (invalidateLocalSession platform).andThen fun _ =>
        (Prog.ret (.error error) : SessionProg (Except ComputerUseError Unit × Except ComputerUseError Unit))) := by
    refine fun error => attempts_dispatch true fun _ => ?_
    refine triple_andThen (R := fun _ s _ => Ended s) ?_ fun _ => triple_ret fun s _ hs => hs.attempting
    exact triple_cut (invalidateLocalSession_ends platform) fun _ hs => hs.attempting
  cases answer with
  | returned toolOk nativeResult =>
    exact attempts_dispatch true fun _ => invalidate_tryThen fun _ => triple_ret fun _ _ hs => hs
  | interruptedCompleted error | toolFailed error =>
    exact attempts_dispatch true fun _ => invalidate_tryThen fun _ => triple_ret fun _ _ hs => hs
  | interruptedUnknown error | connectionFailed error | timedOut error => exact hlocal error
  | interruptedNotStarted error | notDispatched error => exact triple_ret fun _ _ hs => hs

theorem callActionTool_ends (platform : SessionPlatform) : Attempts (callActionTool platform) := by
  refine attempts_tryThen stableAttempting.requireCurrentUpstreamSessionForEvidence fun _ => attempts_check _ fun _ =>
    attempts_ask fun answer => ?_
  refine attempts_tryThen (stableAttempting.attempt (finishTypedDispatchResult_ends platform answer)) fun results => ?_
  exact attempts_finish _ fun _ => attempts_finish _ fun _ => attempts_completeAction _

theorem activateTarget_ends (platform : SessionPlatform) : KeepsOr Attempting Attempting (activateTarget platform) := by
  refine keepsOr_tryThen (stableAttempting.requireObservedInputAvailable platform) fun _ => ?_
  refine triple_tryThen (R := fun _ s _ => Fenced s ∧ Guarded s)
    (triple_update fun _ _ hs => ⟨hs.fenced.invalidate, invalidate_guarded hs.fenced⟩) fun _ => ?_
  refine triple_tryThen (R := fun _ s _ => Attempting s)
    (triple_update fun _ _ hs => .of_guarded (hs.1.dispatched _) hs.2) fun _ => ?_
  exact stableAttempting.asks _

theorem moveCursor_ends (platform : SessionPlatform) : Attempts (moveCursor platform) := by
  refine attempts_check _ fun _ => attempts_tryThen (activateTarget_ends platform) fun _ => attempts_ask fun result => ?_
  refine attempts_dispatch true fun _ => ?_
  refine triple_tryThen (R := fun _ s _ => Fenced s) (triple_update fun s rest hs => ?_) fun _ => completeMutatingAction_ends _
  cases result with
  | ok _ => exact hs
  | error error => exact attemptEnds_error rest hs.attempting

theorem performSlowAction_ends (platform : SessionPlatform) (action : ComputerUseAction)
    (observation : ComputerUseObservation) : Attempts (performSlowAction platform action observation) := by
  refine attempts_tryThen (stableAttempting.onlyWhen _ ?_) fun _ => ?_
  · refine keepsOr_tryThen stableAttempting.requireObservedTargetAvailable fun target => ?_
    exact keepsOr_tryThen (keepsOr_ret stableAttempting.weaken _) fun _ => stableAttempting.requireObservedInputAvailable platform
  · split
    · exact moveCursor_ends platform
    · exact callActionTool_ends platform

theorem performFastAction_ends (platform : SessionPlatform) (action : ComputerUseAction)
    (observation : ComputerUseObservation) : Attempts (performFastAction platform action observation) := by
  refine attempts_ask fun outcome => ?_
  by_cases hnone : outcome = .ok none
  · -- The action is not one of the fast path: nothing was sent yet.
    subst hnone
    refine attempts_tryThen (keepsOr_update fun s hs => ?_) fun _ => ?_
    · exact ⟨hs.fenced.dispatched _, fun hd => hs.guarded (by simpa using hd)⟩
    · refine attempts_tryThen (stableAttempting.attempt (keepsOr_update fun _ hs => hs)) fun taken => ?_
      cases taken with
      | some status =>
        exact triple_weaken (completeMutatingAction_ends status) (fun _ _ hs => hs.fenced) fun _ _ _ hs => hs
      | none => exact performSlowAction_ends platform action observation
  · refine attempts_dispatch _ fun _ => localMutation_ends outcome fun taken htaken => ?_
    cases taken with
    | some status => exact completeMutatingAction_ends status
    | none => exact absurd htaken hnone

theorem performInputAction_ends (platform : SessionPlatform) (action : ComputerUseAction)
    (observation : ComputerUseObservation) (target : ExactWindowTarget) :
    Attempts (performInputAction platform action observation target) := by
  refine attempts_tryThen (stableAttempting.requireObservedInputAvailable platform) fun _ =>
    attempts_tryThen (stableAttempting.onlyWhen _ (stableAttempting.check _)) fun _ =>
    attempts_tryThen (stableAttempting.onlyWhen _ (stableAttempting.check _)) fun _ => ?_
  dsimp only
  split
  · exact attempts_completeAction _
  · refine attempts_tryThen (stableAttempting.onlyWhen _ ?_) fun _ => ?_
    · refine keepsOr_tryThen (activateTarget_ends platform) fun _ =>
        keepsOr_tryThen stableAttempting.requireObservedTargetAvailable fun target =>
        keepsOr_tryThen (stableAttempting.requireObservedInputAvailable platform) fun _ => ?_
      exact keepsOr_ret stableAttempting.weaken _
    · split
      · exact performFastAction_ends platform action observation
      · exact performSlowAction_ends platform action observation

theorem performAction_ends (platform : SessionPlatform) (action : ComputerUseAction) :
    Attempts (performAction platform action) := by
  refine attempts_tryThen stableAttempting.ensureActive fun _ => attempts_check _ fun _ => attempts_check _ fun _ =>
    attempts_tryThen (keepsOr_read stableAttempting.weaken _) fun observation => attempts_read fun upstream =>
    attempts_tryThen (stableAttempting.onlyWhen _ stableAttempting.requireCurrentUpstreamSessionForEvidence) fun _ =>
    attempts_tryThen stableAttempting.requireObservedTargetAvailable fun target =>
    attempts_tryThen (keepsOr_ret stableAttempting.weaken _) fun _ => attempts_check _ fun _ =>
    attempts_tryThen (stableAttempting.onlyWhen _ (stableAttempting.check _)) fun _ =>
    attempts_tryThen (stableAttempting.onlyWhen _ (stableAttempting.requireObservedInputAvailable platform)) fun _ =>
    attempts_check _ fun _ => attempts_read fun route => ?_
  split
  · exact performExactPixelAction_ends
  · split
    · exact attempts_completeAction _
    · split
      · exact performWindowsUiaAction_ends
      · exact performInputAction_ends platform action observation target

theorem Fenced.finishAttempt {s : ComputerUseSession} {result : Except ComputerUseError ComputerUseToolStatus}
    (h : Attempting s) (hok : result.isOk = true → s.postActionLiveSequenceFence = s.latestFence) :
    Fenced (finishAttempt result s) := by
  unfold ComputerUseSession.finishAttempt
  split
  · rename_i hends
    refine h.fenced.extend (.attempted s.latestFence) rfl (fun _ _ => Moment.noConfusion) (fun _ hb => hb)
      (Nat.le_refl _) rfl (fun ha => ha) fun hactive o ho n _ hn => ?_
    rcases reached_fence ho hn with hterminal | ⟨m, hm, hle⟩
    · exact Or.inl (Or.inl hterminal)
    · rcases Bool.or_eq_true_iff.mp hends with hdispatched | hresult
      · rcases h.guarded hdispatched hactive o ho with hterminal | hfence
        · exact Or.inl (Or.inl hterminal)
        · exact Or.inr (Or.inl hfence)
      · exact Or.inr (Or.inr ⟨⟨o.streamId, m⟩, (hok hresult).trans hm, rfl, hle⟩)
  · exact h.fenced

theorem attemptAction_keeps (platform : SessionPlatform) (action : ComputerUseAction) :
    Keeps Fenced (attemptAction platform action) := by
  refine triple_andThen (R := fun _ s _ => Attempting s) (triple_update fun _ _ hs => ⟨hs.dispatched false, fun hd => by cases hd⟩)
    fun _ => triple_andThen (triple_cut (performAction_ends platform action) fun _ hs => hs.fenced) fun result => ?_
  cases result with
  | ok status => exact triple_update fun s _ hs => Fenced.finishAttempt hs.1 hs.2
  | error error =>
    refine triple_andThen (R := fun _ s _ => Attempting s)
      (triple_weaken (triple_cut (stableAttempting.awaits _) fun _ hs => hs.fenced) (fun _ _ hs => hs.1) fun _ _ _ hs => hs) fun _ => ?_
    exact triple_update fun s _ hs => Fenced.finishAttempt hs fun hok => by cases hok

end ComputerUseSession
end DccCua
