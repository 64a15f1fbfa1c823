import DccCua.Uuid
import DccCua.Core.NativeAuthority

/-! # One mutation for one native-state token

A token is in the session only while nothing but other mints and token-preserving invalidations has happened since
it was minted. An attempt takes its token out before it looks at it, so that what it sends is the last use of the
token. -/

namespace DccCua

open Runs Checks Script

namespace NativeEvent

/-- An event that leaves the tokens of a session valid. -/
def Harmless : NativeEvent → Prop
  | minted .. | preserved => True
  | _ => False

def dispatchedId : NativeEvent → Option String
  | dispatched _ id .. => some id
  | _ => none

end NativeEvent

/-- The tokens for which a mutation was sent. -/
def dispatchedIds (history : List NativeEvent) : List String := history.filterMap NativeEvent.dispatchedId

/-- Nothing that ends a token has happened since this one was minted. -/
def Backed (purpose : NativePurpose) (id sessionId : String) (window : ExactWindow) (history : List NativeEvent) : Prop :=
  ∃ between older, history = between ++ .minted purpose id sessionId window :: older ∧ ∀ event ∈ between, event.Harmless

/-- A mutation is sent in the session `first`, and to the window, that the token was minted for, at an age of at most
    five seconds, by the attempt that directly follows the life of the token. -/
def Authorized (first : NativeSession) (event : NativeEvent) (earlier : List NativeEvent) : Prop :=
  match event with
  | .dispatched purpose id sessionId window age =>
    sessionId = first.sessionId ∧ first.processId = some window.processId ∧ first.windowHandle = some window.windowHandle ∧
      age ≤ nativeStateMaxAge ∧ ∃ rest, earlier = .attempted purpose :: rest ∧ Backed purpose id sessionId window rest
  | _ => True

theorem Backed.cons {purpose : NativePurpose} {id sessionId : String} {window : ExactWindow} {history : List NativeEvent}
    (h : Backed purpose id sessionId window history) {event : NativeEvent} (hevent : event.Harmless) :
    Backed purpose id sessionId window (event :: history) := by
  obtain ⟨between, older, rfl, hbetween⟩ := h
  refine ⟨event :: between, older, rfl, fun e he => ?_⟩
  rcases List.mem_cons.mp he with rfl | he
  · exact hevent
  · exact hbetween e he

theorem backed_minted (purpose : NativePurpose) (id sessionId : String) (window : ExactWindow) (history : List NativeEvent) :
    Backed purpose id sessionId window (.minted purpose id sessionId window :: history) :=
  ⟨[], history, rfl, fun _ he => (nomatch he)⟩

namespace NativeSession

variable {newUuid : Nat → String}

/-- The id of the token of a draw. -/
def stateId (newUuid : Nat → String) (purpose : NativePurpose) (n : Nat) : String :=
  match purpose with
  | .frame => frameStateId newUuid n
  | .menu => menuStateId newUuid n

/-- The id was drawn in this session. -/
def Drawn (newUuid : Nat → String) (drawn : Nat) (id : String) : Prop := ∃ purpose, ∃ n < drawn, id = stateId newUuid purpose n

theorem eighth_frameStateId (l : List Char) : ("native-state-".toList ++ l)[7]? = some 's' := rfl

theorem eighth_menuStateId (l : List Char) : ("native-menu-state-".toList ++ l)[7]? = some 'm' := rfl

theorem frameStateId_ne_menuStateId (m n : Nat) : frameStateId newUuid m ≠ menuStateId newUuid n := by
  intro h
  have hchar := congrArg (fun id : String => id.toList[7]?) h
  unfold frameStateId menuStateId at hchar
  rw [String.toList_append, String.toList_append, eighth_frameStateId, eighth_menuStateId] at hchar
  cases hchar

theorem stateId_inj (hunique : Function.Injective newUuid) {p q : NativePurpose} {m n : Nat}
    (h : stateId newUuid p m = stateId newUuid q n) : m = n := by
  cases p with
  | frame =>
    cases q with
    | frame => exact hunique (String.append_right_inj _ |>.mp h)
    | menu => exact absurd h (frameStateId_ne_menuStateId m n)
  | menu =>
    cases q with
    | frame => exact absurd h.symm (frameStateId_ne_menuStateId n m)
    | menu => exact hunique (String.append_right_inj _ |>.mp h)

/-- A token that may be used: its life has not ended, and nothing was sent for it. -/
structure Usable (newUuid : Nat → String) (purpose : NativePurpose) (id : String) (window : ExactWindow) (sessionId : String)
    (drawn : Nat) (history : List NativeEvent) : Prop where
  backed : Backed purpose id sessionId window history
  drawnId : Drawn newUuid drawn id
  unused : id ∉ dispatchedIds history

/-- What holds of a session that was `first` at its start. -/
structure Inv (newUuid : Nat → String) (first s : NativeSession) : Prop where
  sameId : s.sessionId = first.sessionId
  sameProcess : s.processId = first.processId
  sameWindow : s.windowHandle = first.windowHandle
  frame : ∀ m, s.frameMetadata = some m → Usable newUuid .frame m.id m.state.window s.sessionId s.drawn s.history
  menu : ∀ m, s.menuMetadata = some m → Usable newUuid .menu m.id m.proof.popup.window s.sessionId s.drawn s.history
  drawnIds : ∀ id ∈ dispatchedIds s.history, Drawn newUuid s.drawn id
  once : (dispatchedIds s.history).Nodup
  authorized : Justified (Authorized first) s.history

/-- No token is left. -/
def NoTokens (s : NativeSession) : Prop := s.frameMetadata = none ∧ s.menuMetadata = none

variable {sessionId : String} {first s : NativeSession}

theorem Usable.cons {purpose : NativePurpose} {id : String} {window : ExactWindow} {drawn : Nat} {history : List NativeEvent}
    (h : Usable newUuid purpose id window sessionId drawn history) {event : NativeEvent} (hevent : event.Harmless) :
    Usable newUuid purpose id window sessionId drawn (event :: history) := by
  refine ⟨h.backed.cons hevent, h.drawnId, ?_⟩
  cases event with
  | minted => exact h.unused
  | preserved => exact h.unused
  | read => exact hevent.elim
  | attempted => exact hevent.elim
  | invalidated => exact hevent.elim
  | dispatched => exact hevent.elim

theorem Drawn.mono {m n : Nat} (hmn : m ≤ n) {id : String} (h : Drawn newUuid m id) : Drawn newUuid n id := by
  obtain ⟨purpose, k, hk, heq⟩ := h
  exact ⟨purpose, k, Nat.lt_of_lt_of_le hk hmn, heq⟩

theorem Usable.mono {purpose : NativePurpose} {id : String} {window : ExactWindow} {m n : Nat} {history : List NativeEvent}
    (h : Usable newUuid purpose id window sessionId m history) (hmn : m ≤ n) :
    Usable newUuid purpose id window sessionId n history :=
  ⟨h.backed, h.drawnId.mono hmn, h.unused⟩

/-! ### Single steps -/

/-- An event that sends nothing, when no token is left. -/
theorem Inv.clearRecord (h : Inv newUuid first s) {event : NativeEvent} (hevent : event.dispatchedId = none)
    (hauthorized : Authorized first event s.history) : Inv newUuid first (s.clear.record event) := by
  have hids : dispatchedIds (event :: s.history) = dispatchedIds s.history := by
    rw [dispatchedIds, List.filterMap_cons, hevent]
    rfl
  refine ⟨h.sameId, h.sameProcess, h.sameWindow, fun _ hm => (nomatch hm), fun _ hm => (nomatch hm), ?_, ?_,
    h.authorized.cons hauthorized⟩
  · show ∀ id ∈ dispatchedIds (event :: s.history), Drawn newUuid s.drawn id
    rw [hids]
    exact h.drawnIds
  · show (dispatchedIds (event :: s.history)).Nodup
    rw [hids]
    exact h.once

theorem Inv.beginRead (h : Inv newUuid first s) : Inv newUuid first s.beginRead := h.clearRecord rfl trivial

theorem Inv.invalidate (h : Inv newUuid first s) : Inv newUuid first s.invalidateActionObservations :=
  h.clearRecord rfl trivial

theorem Inv.finish {α : Type} (h : Inv newUuid first s) (result : Except ComputerUseError α) :
    Inv newUuid first (s.finish result) := by
  unfold NativeSession.finish
  cases result with
  | ok a => exact h
  | error error =>
    dsimp only
    split
    · exact h.invalidate
    · exact h

theorem Inv.draw (h : Inv newUuid first s) : Inv newUuid first { s with drawn := s.drawn + 1 } :=
  ⟨h.sameId, h.sameProcess, h.sameWindow, fun m hm => (h.frame m hm).mono (Nat.le_succ _),
    fun m hm => (h.menu m hm).mono (Nat.le_succ _), fun id hid => (h.drawnIds id hid).mono (Nat.le_succ _), h.once,
    h.authorized⟩

/-- The id of the next draw was not used. -/
theorem Inv.fresh (h : Inv newUuid first s) (hunique : Function.Injective newUuid) (purpose : NativePurpose) :
    stateId newUuid purpose s.drawn ∉ dispatchedIds s.history := by
  intro hmem
  obtain ⟨p, n, hn, heq⟩ := h.drawnIds _ hmem
  exact absurd (stateId_inj hunique heq) (Nat.ne_of_gt hn)

theorem usable_minted {purpose : NativePurpose} {id : String} {window : ExactWindow} {drawn : Nat} {history : List NativeEvent}
    (hdrawn : Drawn newUuid drawn id) (hunused : id ∉ dispatchedIds history) :
    Usable newUuid purpose id window sessionId drawn (.minted purpose id sessionId window :: history) :=
  ⟨backed_minted .., hdrawn, hunused⟩

theorem Inv.remember (h : Inv newUuid first s) (hunique : Function.Injective newUuid) (readAt : Nat)
    (state : ExactWindowNativeState) : Inv newUuid first (s.rememberNativeFrameMetadata newUuid readAt state).2 := by
  have hfresh := h.fresh hunique .frame
  unfold rememberNativeFrameMetadata
  split
  · exact h
  · dsimp only
    split
    · exact h.draw
    · have hdraw := h.draw
      refine ⟨hdraw.sameId, hdraw.sameProcess, hdraw.sameWindow, fun m hm => ?_, fun m hm => (hdraw.menu m hm).cons trivial,
        hdraw.drawnIds, hdraw.once, hdraw.authorized.cons trivial⟩
      cases hm
      exact usable_minted ⟨.frame, s.drawn, Nat.lt_succ_self _, rfl⟩ hfresh

theorem Inv.rememberMenu (h : Inv newUuid first s) (hunique : Function.Injective newUuid) (readAt : Nat)
    (proof : NativeMenuProof) (report : WindowStateReport) :
    Inv newUuid first (s.rememberNativeMenuMetadata newUuid readAt proof report).2 := by
  have hfresh := h.fresh hunique .menu
  have hdraw := h.draw
  unfold rememberNativeMenuMetadata
  dsimp only
  split
  · exact hdraw
  · refine ⟨hdraw.sameId, hdraw.sameProcess, hdraw.sameWindow, fun m hm => (hdraw.frame m hm).cons trivial, fun m hm => ?_,
      hdraw.drawnIds, hdraw.once, hdraw.authorized.cons trivial⟩
    cases hm
    exact usable_minted ⟨.menu, s.drawn, Nat.lt_succ_self _, rfl⟩ hfresh

theorem Inv.preserve (h : Inv newUuid first s) (stateId : String) (now : Nat) :
    Inv newUuid first (s.invalidatePreservingNativeState stateId now) := by
  refine ⟨h.sameId, h.sameProcess, h.sameWindow, fun m hm => ?_, fun _ hm => (nomatch hm), h.drawnIds, h.once,
    h.authorized.cons trivial⟩
  exact (h.frame m (Option.filter_eq_some_iff.mp hm).1).cons trivial

theorem Inv.preserveMenu (h : Inv newUuid first s) (menuId : String) (frameId : Option String) (menuNow now : Nat) :
    Inv newUuid first (s.invalidatePreservingNativeMenuState menuId frameId menuNow now) := by
  have hmenu : ∀ m, (s.menuMetadata.filter fun metadata =>
      (metadata.validate menuId s (menuNow - metadata.readAt)).isOk) = some m →
      Usable newUuid .menu m.id m.proof.popup.window s.sessionId s.drawn (.preserved :: s.history) :=
    fun m hm => (h.menu m (Option.filter_eq_some_iff.mp hm).1).cons trivial
  cases frameId with
  | none =>
    exact ⟨h.sameId, h.sameProcess, h.sameWindow, fun _ hm => (nomatch hm), hmenu, h.drawnIds, h.once,
      h.authorized.cons trivial⟩
  | some frameId =>
    refine ⟨h.sameId, h.sameProcess, h.sameWindow, fun m hm => ?_, hmenu, h.drawnIds, h.once, h.authorized.cons trivial⟩
    exact (h.frame m (Option.filter_eq_some_iff.mp hm).1).cons trivial

/-! ### Reads -/

theorem keeps_attempt {α : Type} (result : Except ComputerUseError α) : Keeps (Inv newUuid first) (attempt result) :=
  keeps_update fun _ h => h.finish result

theorem keeps_revalidate (answer : Option (Except ComputerUseError ExactWindowTarget)) :
    Keeps (Inv newUuid first) (revalidateObservedTarget answer) := by
  cases answer with
  | none => exact keeps_dropped
  | some result => exact keeps_attempt result

theorem keeps_windowStateWithFrameMetadata (hunique : Function.Injective newUuid) (mintMetadata : Bool) (a : ReadAnswers) :
    Keeps (Inv newUuid first) (windowStateWithFrameMetadata newUuid mintMetadata a) := by
  refine keeps_tryThen (keeps_ret _) fun _ => keeps_andThen keeps_read fun exact => ?_
  refine keeps_tryThen (keeps_revalidate a.revalidated) fun target => ?_
  cases exact with
  | true =>
    refine keeps_tryThen (keeps_attempt _) fun state => keeps_update fun s h => ?_
    dsimp only
    have hseen : Inv newUuid first (if state.minimized || !state.visible then s.invalidateActionObservations else s) := by
      split
      · exact h.invalidate
      · exact h
    cases mintMetadata with
    | true => exact hseen.remember hunique a.readAt state
    | false => exact hseen
  | false =>
    refine keeps_update fun s h => ?_
    dsimp only
    split
    · exact h.invalidate
    · exact h

theorem keeps_beginRead : Keeps (Inv newUuid first) (Prog.update fun s => ((), s.beginRead) : Prog NativeSession Unit Unit) :=
  keeps_update fun _ h => h.beginRead

theorem keeps_windowState (hunique : Function.Injective newUuid) (a : ReadAnswers) :
    Keeps (Inv newUuid first) (windowState newUuid a) :=
  keeps_andThen keeps_beginRead fun _ => keeps_windowStateWithFrameMetadata hunique false a

theorem keeps_nativeWindowStateForFrame (hunique : Function.Injective newUuid) (a : ReadAnswers) :
    Keeps (Inv newUuid first) (nativeWindowStateForFrame newUuid a) :=
  keeps_andThen keeps_beginRead fun _ => keeps_tryThen keeps_read fun _ =>
    keeps_windowStateWithFrameMetadata hunique true a

theorem keeps_nativeWindowStateForMenuDismiss (hunique : Function.Injective newUuid) (a : ReadAnswers) :
    Keeps (Inv newUuid first) (nativeWindowStateForMenuDismiss newUuid a) :=
  keeps_andThen (keeps_tryThen (keeps_nativeWindowStateForFrame hunique a) fun report =>
    keeps_tryThen (keeps_ret _) fun proof => keeps_tryThen (keeps_ret _) fun _ =>
    keeps_update fun _ h => h.rememberMenu hunique a.menuReadAt proof report) keeps_attempt

/-! ### Attempts -/

/-- Where an attempt may end. -/
def Ended (newUuid : Nat → String) (first s : NativeSession) : Prop := Inv newUuid first s ∧ NoTokens s

/-- The token of the attempt was taken out. -/
def Taken (newUuid : Nat → String) (purpose : NativePurpose) (id : String) (window : ExactWindow) (s : NativeSession) : Prop :=
  ∃ rest, s.history = .attempted purpose :: rest ∧ Usable newUuid purpose id window s.sessionId s.drawn rest

theorem Ended.finish {α : Type} (h : Ended newUuid first s) (result : Except ComputerUseError α) :
    Ended newUuid first (s.finish result) := by
  refine ⟨h.1.finish result, ?_⟩
  unfold NativeSession.finish
  cases result with
  | ok a => exact h.2
  | error error =>
    dsimp only
    split
    · exact ⟨rfl, rfl⟩
    · exact h.2

/-- The mutation of a token that was taken out. -/
theorem Ended.dispatch (h : Ended newUuid first s) {purpose : NativePurpose} {id : String} {window : ExactWindow}
    (htaken : Taken newUuid purpose id window s) (hprocess : s.processId = some window.processId)
    (hwindow : s.windowHandle = some window.windowHandle) {age : Nat} (hage : age ≤ nativeStateMaxAge) :
    Ended newUuid first (s.record (.dispatched purpose id s.sessionId window age)) := by
  obtain ⟨hinv, hframe, hmenu⟩ := h
  obtain ⟨rest, hhistory, husable⟩ := htaken
  have hids : dispatchedIds s.history = dispatchedIds rest := by
    rw [hhistory]
    rfl
  refine ⟨⟨hinv.sameId, hinv.sameProcess, hinv.sameWindow, fun m hm => ?_, fun m hm => ?_, ?_, ?_,
    hinv.authorized.cons ?_⟩, hframe, hmenu⟩
  · rw [show s.frameMetadata = some m from hm] at hframe
    cases hframe
  · rw [show s.menuMetadata = some m from hm] at hmenu
    cases hmenu
  · intro id' hid'
    rcases List.mem_cons.mp (show id' ∈ id :: dispatchedIds s.history from hid') with rfl | hid'
    · exact husable.drawnId
    · exact hinv.drawnIds id' hid'
  · refine List.nodup_cons.mpr ⟨?_, hinv.once⟩
    show id ∉ dispatchedIds s.history
    rw [hids]
    exact husable.unused
  · exact ⟨hinv.sameId, hinv.sameProcess ▸ hprocess, hinv.sameWindow ▸ hwindow, hage, rest, hhistory, husable.backed⟩

/-- What follows the revalidation of the target of an attempt. -/
theorem triple_revalidateRefused {T : NativeSession → Prop} (answer : Option (Except ComputerUseError ExactWindowTarget)) :
    Triple (fun s _ => Ended newUuid first s ∧ T s)
      ((revalidateObservedTarget answer).andThen fun result => Prog.ret (mapError refused result) :
        NativeProg NativeAttemptError ExactWindowTarget)
      (orError (fun _ s _ => Ended newUuid first s ∧ T s) fun _ s _ => Ended newUuid first s) (Ended newUuid first) := by
  cases answer with
  | none => exact triple_andThen (R := fun _ _ _ => False) (triple_dropped fun s _ h => h.1) fun _ s script h => h.elim
  | some result =>
    cases result with
    | ok target => exact fun s script h => h
    | error error => exact fun s script h => h.1.finish (.error error : Except ComputerUseError ExactWindowTarget)

theorem frame_validate_eq_ok {metadata : NativeWindowFrameMetadata} {id : String} {age : Nat}
    (h : metadata.validate id s age = .ok ()) :
    metadata.id = id ∧ age ≤ nativeStateMaxAge ∧ s.processId = some metadata.state.processId ∧
      s.windowHandle = some metadata.state.windowHandle := by
  simp only [NativeWindowFrameMetadata.validate, bind_eq_ok, require_eq_ok] at h
  obtain ⟨_, htests, -⟩ := h
  simp only [Bool.not_eq_true', Bool.or_eq_false_iff, decide_eq_false_iff_not, not_not, Nat.not_lt] at htests
  obtain ⟨⟨⟨⟨⟨⟨⟨⟨⟨⟨⟨⟨⟨⟨-, hid⟩, -⟩, hage⟩, hprocess⟩, hwindow⟩, -⟩, -⟩, -⟩, -⟩, -⟩, -⟩, -⟩, -⟩, -⟩ := htests
  exact ⟨hid, hage, hprocess, hwindow⟩

theorem menu_validate_eq_ok {metadata : NativeMenuMetadata} {id : String} {age : Nat}
    (h : metadata.validate id s age = .ok ()) :
    metadata.id = id ∧ age ≤ nativeStateMaxAge ∧ s.processId = some metadata.proof.popup.processId ∧
      s.windowHandle = some metadata.proof.popup.windowHandle := by
  simp only [NativeMenuMetadata.validate, require_eq_ok] at h
  simp only [Bool.not_eq_true', Bool.or_eq_false_iff, decide_eq_false_iff_not, not_not, Nat.not_lt] at h
  obtain ⟨⟨⟨⟨⟨⟨⟨⟨⟨⟨⟨⟨⟨⟨⟨⟨⟨⟨hid, -⟩, -⟩, hage⟩, hprocess⟩, hwindow⟩, -⟩, -⟩, -⟩, -⟩, -⟩, -⟩, -⟩, -⟩, -⟩, -⟩, -⟩, -⟩, -⟩ := h
  exact ⟨hid, hage, hprocess, hwindow⟩

/-- What the last gate of a frame mutation has found. -/
theorem admitFrame_eq_ok {id : String} {request : NativeRect} {metadata : NativeWindowFrameMetadata}
    {target : ExactWindowTarget} {a : FrameAnswers} {admitted : ExactWindowNativeState × Nat}
    (h : admitFrame id request metadata target a s = .ok admitted) :
    metadata.id = id ∧ admitted.1.window = metadata.state.window ∧ admitted.2 ≤ nativeStateMaxAge ∧
      s.processId = some metadata.state.processId ∧ s.windowHandle = some metadata.state.windowHandle := by
  simp only [admitFrame, bind_eq_ok, require_eq_ok, mapError_eq_ok] at h
  obtain ⟨_, htarget, _, -, _, -, _, -, before, -, _, hbefore, age, hgate, hadmitted⟩ := h
  cases hadmitted
  simp only [frameGate, bind_eq_ok, mapError_eq_ok] at hgate
  obtain ⟨_, hvalid, _, -, _, -, _, -, hage⟩ := hgate
  cases hage
  obtain ⟨hid, hage, hprocess, hwindow⟩ := frame_validate_eq_ok hvalid
  refine ⟨hid, ?_, hage, hprocess, hwindow⟩
  simp only [checkFrameBefore, bind_eq_ok, validateInstance, require_eq_ok] at hbefore
  obtain ⟨_, hsame, -⟩ := hbefore
  simp only [Bool.not_eq_true', Bool.or_eq_false_iff, decide_eq_false_iff_not, not_not] at hsame
  obtain ⟨⟨⟨-, hpid⟩, hhandle⟩, hinstance⟩ := hsame
  simp only [Bool.and_eq_true, decide_eq_true_eq] at htarget
  unfold ExactWindowNativeState.window
  rw [hpid, hhandle, hinstance, htarget.1, htarget.2]

theorem admitMenu_eq_ok {id : String} {deadline : Nat} {metadata : NativeMenuMetadata} {target : ExactWindowTarget}
    {a : MenuAnswers} {admitted : NativeMenuProof × Nat} (h : admitMenu id deadline metadata target a s = .ok admitted) :
    metadata.id = id ∧ admitted.1 = metadata.proof ∧ admitted.2 ≤ nativeStateMaxAge ∧
      s.processId = some metadata.proof.popup.processId ∧ s.windowHandle = some metadata.proof.popup.windowHandle := by
  simp only [admitMenu, bind_eq_ok, require_eq_ok, mapError_eq_ok] at h
  obtain ⟨_, -, _, -, _, -, _, -, _, -, current, -, _, hcurrent, age, hgate, hadmitted⟩ := h
  cases hadmitted
  simp only [menuGate, bind_eq_ok, mapError_eq_ok] at hgate
  obtain ⟨_, hvalid, _, -, _, -, _, -, _, -, _, -, _, -, hage⟩ := hgate
  cases hage
  obtain ⟨hid, hage, hprocess, hwindow⟩ := menu_validate_eq_ok hvalid
  exact ⟨hid, by simpa using hcurrent, hage, hprocess, hwindow⟩

theorem Inv.takeFrame (h : Inv newUuid first s) : Ended newUuid first s.takeFrame.2 ∧
    ∀ m, s.takeFrame.1 = some m → Taken newUuid .frame m.id m.state.window s.takeFrame.2 :=
  ⟨⟨h.clearRecord rfl trivial, rfl, rfl⟩, fun m hm => ⟨s.history, rfl, h.frame m hm⟩⟩

theorem Inv.takeMenu (h : Inv newUuid first s) : Ended newUuid first s.takeMenu.2 ∧
    ∀ m, s.takeMenu.1 = some m → Taken newUuid .menu m.id m.proof.popup.window s.takeMenu.2 :=
  ⟨⟨h.clearRecord rfl trivial, rfl, rfl⟩, fun m hm => ⟨s.history, rfl, h.menu m hm⟩⟩

theorem triple_setWindowFrame (id : String) (request : ComputerUseWindowFrameRequest) (a : FrameAnswers) :
    Triple (fun s _ => Inv newUuid first s) (setWindowFrameFromNativeState id request a)
      (fun _ s _ => Ended newUuid first s) (Ended newUuid first) := by
  refine triple_andThen (R := fun metadata s _ => Ended newUuid first s ∧
    ∀ m, metadata = some m → Taken newUuid .frame m.id m.state.window s) (triple_update fun s _ h => h.takeFrame) fun metadata => ?_
  refine triple_tryThen (R := fun checked s _ => Ended newUuid first s ∧
    Taken newUuid .frame checked.2.id checked.2.state.window s) (triple_read fun s _ h => ?_) fun ⟨requested, m⟩ => ?_
  · generalize hchecks : (mapError refused _ : Except NativeAttemptError (NativeRect × NativeWindowFrameMetadata)) = result
    cases result with
    | error error => exact h.1
    | ok checked =>
      simp only [mapError_eq_ok, bind_eq_ok] at hchecks
      obtain ⟨_, -, _, -, requested, -, hmetadata⟩ := hchecks
      cases metadata with
      | none => cases hmetadata
      | some m =>
        simp only [bind_eq_ok] at hmetadata
        obtain ⟨_, -, hchecked⟩ := hmetadata
        cases hchecked
        exact ⟨h.1, h.2 m rfl⟩
  refine triple_tryThen (R := fun _ s _ => Ended newUuid first s ∧ Taken newUuid .frame m.id m.state.window s)
    (triple_revalidateRefused a.revalidated) fun target => ?_
  refine triple_tryThen (R := fun admitted s _ => Ended newUuid first s ∧ Taken newUuid .frame id admitted.1.window s ∧
    s.processId = some admitted.1.window.processId ∧ s.windowHandle = some admitted.1.window.windowHandle ∧
    admitted.2 ≤ nativeStateMaxAge) (triple_read fun s _ h => ?_) fun admitted => ?_
  · generalize hadmit : mapError refused (admitFrame id requested m target a s) = result
    cases result with
    | error error => exact h.1
    | ok admitted =>
      obtain ⟨hid, hsame, hage, hprocess, hwindow⟩ := admitFrame_eq_ok (mapError_eq_ok.mp hadmit)
      show Ended newUuid first s ∧ _
      rw [hsame]
      exact ⟨h.1, hid ▸ h.2, hprocess, hwindow, hage⟩
  · exact triple_update fun s _ h => h.1.dispatch h.2.1 h.2.2.1 h.2.2.2.1 h.2.2.2.2

theorem triple_dismissNativeMenu (id : String) (deadline : Nat) (a : MenuAnswers) :
    Triple (fun s _ => Inv newUuid first s) (dismissNativeMenuFromState id deadline a)
      (fun _ s _ => Ended newUuid first s) (Ended newUuid first) := by
  refine triple_andThen (R := fun metadata s _ => Ended newUuid first s ∧
    ∀ m, metadata = some m → Taken newUuid .menu m.id m.proof.popup.window s) (triple_update fun s _ h => h.takeMenu) fun metadata => ?_
  refine triple_tryThen (R := fun m s _ => Ended newUuid first s ∧ Taken newUuid .menu m.id m.proof.popup.window s)
    (triple_read fun s _ h => ?_) fun m => ?_
  · generalize hchecks : (mapError refused _ : Except NativeAttemptError NativeMenuMetadata) = result
    cases result with
    | error error => exact h.1
    | ok checked =>
      simp only [mapError_eq_ok, bind_eq_ok] at hchecks
      obtain ⟨_, -, _, -, hmetadata⟩ := hchecks
      cases metadata with
      | none => cases hmetadata
      | some m =>
        simp only [bind_eq_ok] at hmetadata
        obtain ⟨_, -, hchecked⟩ := hmetadata
        cases hchecked
        exact ⟨h.1, h.2 _ rfl⟩
  refine triple_tryThen (R := fun _ s _ => Ended newUuid first s ∧ Taken newUuid .menu m.id m.proof.popup.window s)
    (triple_revalidateRefused a.revalidated) fun target => ?_
  refine triple_tryThen (R := fun admitted s _ => Ended newUuid first s ∧ Taken newUuid .menu id admitted.1.popup.window s ∧
    s.processId = some admitted.1.popup.window.processId ∧ s.windowHandle = some admitted.1.popup.window.windowHandle ∧
    admitted.2 ≤ nativeStateMaxAge) (triple_read fun s _ h => ?_) fun admitted => ?_
  · generalize hadmit : mapError refused (admitMenu id deadline m target a s) = result
    cases result with
    | error error => exact h.1
    | ok admitted =>
      obtain ⟨hid, hsame, hage, hprocess, hwindow⟩ := admitMenu_eq_ok (mapError_eq_ok.mp hadmit)
      show Ended newUuid first s ∧ _
      rw [hsame]
      exact ⟨h.1, hid ▸ h.2, hprocess, hwindow, hage⟩
  · exact triple_update fun s _ h => h.1.dispatch h.2.1 h.2.2.1 h.2.2.2.1 h.2.2.2.2

/-! ### Runs -/

theorem run_state {α : Type} (f : α → NativeOutput) (p : Prog NativeSession Unit α) (s : NativeSession) :
    (run f p s).2 = (p s []).state := by
  unfold run
  cases p s [] <;> rfl

/-- A call that attempts a mutation. -/
def Attempts : NativeCall → Prop
  | .setWindowFrame .. | .dismissMenu .. => True
  | _ => False

theorem step_inv (hunique : Function.Injective newUuid) (h : Inv newUuid first s) (call : NativeCall) :
    Inv newUuid first (s.serve newUuid call).2 ∧ (Attempts call → NoTokens (s.serve newUuid call).2) := by
  have hkept : ∀ {α : Type} (f : α → NativeOutput) {p : Prog NativeSession Unit α}, Keeps (Inv newUuid first) p →
      Inv newUuid first (run f p s).2 := by
    intro α f p hp
    rw [run_state]
    exact hp.state h []
  have hended : ∀ {α : Type} (f : α → NativeOutput) {p : Prog NativeSession Unit α},
      Triple (fun s _ => Inv newUuid first s) p (fun _ s _ => Ended newUuid first s) (Ended newUuid first) →
      Ended newUuid first (run f p s).2 := by
    intro α f p hp
    have hran := hp s [] h
    rw [run_state]
    cases hrun : p s [] with
    | done value s' rest =>
      rw [hrun] at hran
      exact hran
    | cut s' =>
      rw [hrun] at hran
      exact hran
  cases call with
  | windowState a => exact ⟨hkept _ (keeps_windowState hunique a), False.elim⟩
  | stateForFrame a => exact ⟨hkept _ (keeps_nativeWindowStateForFrame hunique a), False.elim⟩
  | stateForMenuDismiss a => exact ⟨hkept _ (keeps_nativeWindowStateForMenuDismiss hunique a), False.elim⟩
  | setWindowFrame id request a =>
    have hdone := hended .frame (triple_setWindowFrame id request a)
    exact ⟨hdone.1, fun _ => hdone.2⟩
  | dismissMenu id deadline a =>
    have hdone := hended .menu (triple_dismissNativeMenu id deadline a)
    exact ⟨hdone.1, fun _ => hdone.2⟩
  | invalidate => exact ⟨h.invalidate, False.elim⟩
  | invalidatePreservingNativeState stateId now => exact ⟨h.preserve stateId now, False.elim⟩
  | invalidatePreservingNativeMenuState menuId frameId menuNow now =>
    exact ⟨h.preserveMenu menuId frameId menuNow now, False.elim⟩

theorem inv_first (hframe : first.frameMetadata = none) (hmenu : first.menuMetadata = none) (hhistory : first.history = []) :
    Inv newUuid first first := by
  refine ⟨rfl, rfl, rfl, fun m hm => ?_, fun m hm => ?_, fun id hid => ?_, ?_, ?_⟩
  · rw [hframe] at hm
    cases hm
  · rw [hmenu] at hm
    cases hm
  · rw [hhistory] at hid
    cases hid
  · rw [hhistory]
    exact List.nodup_nil
  · rw [hhistory]
    exact justified_nil

end NativeSession

/-- In a session that starts without tokens, under any sequence of native-state reads, attempts and invalidations and
    whatever they are answered: no token has two mutations sent for it; each mutation is `Authorized` by what went
    before it; and an attempt, however it ends, leaves no token. -/
theorem native_mutations_authorized (newUuid : Nat → String) (hunique : Function.Injective newUuid) (first : NativeSession)
    (hframe : first.frameMetadata = none) (hmenu : first.menuMetadata = none) (hhistory : first.history = [])
    (calls : List NativeCall) :
    let final := (nativeSession newUuid).final first calls
    (dispatchedIds final.history).Nodup ∧ Justified (Authorized first) final.history ∧
    ∀ c ∈ (nativeSession newUuid).trace first calls, NativeSession.Attempts c.input → NativeSession.NoTokens c.after := by
  intro final
  have hstart : NativeSession.Inv newUuid first first := NativeSession.inv_first hframe hmenu hhistory
  have hkeep : ∀ s call, NativeSession.Inv newUuid first s →
      NativeSession.Inv newUuid first ((nativeSession newUuid).step s call).2 :=
    fun s call h => (NativeSession.step_inv hunique h call).1
  have hfinal : NativeSession.Inv newUuid first final := Machine.inv_final hkeep calls hstart
  refine ⟨hfinal.once, hfinal.authorized, fun c hc hattempts => ?_⟩
  have hbefore := Machine.inv_before hkeep hstart hc
  rw [Machine.eq_call_of_mem hc]
  exact (NativeSession.step_inv hunique hbefore c.input).2 hattempts

/-! ### One move of a window -/

namespace NativeSample

def session : NativeSession := ⟨"session", some 7, some 9, true, none, none, 0, []⟩

def state : ExactWindowNativeState :=
  ⟨7, 9, some ⟨10, 10, 400, 300⟩, some ⟨10, 10, 400, 300⟩, 96, true, false, false, true, ⟨1, 2, 3, 0⟩⟩

def target : ExactWindowTarget := ⟨7, 9, true, false, true⟩

def readAnswers : NativeSession.ReadAnswers :=
  ⟨.ok (), some (.ok target), .ok state, 1000, .error (.invalidTarget "native_menu_inactive"), 1000⟩

def gate (now : Nat) : NativeSession.GateAnswers := ⟨now, true, false, .ok (), true, false⟩

def frameAnswers : NativeSession.FrameAnswers where
  active := .ok ()
  now := 2000
  revalidated := some (.ok target)
  dpiScope := true
  gate := gate 3000
  before := .ok state
  lastGate := gate 4000
  dispatched := .ok ()
  after := fun _ => .ok { state with bounds := some ⟨20, 20, 400, 300⟩ }

/-- The token of one read is used twice. -/
def calls : List NativeCall :=
  let id := NativeSession.frameStateId BrokerSample.uuid 0
  [.stateForFrame readAnswers, .setWindowFrame id ⟨20, 20, 400, 300⟩ frameAnswers,
    .setWindowFrame id ⟨20, 20, 400, 300⟩ frameAnswers]

end NativeSample

theorem native_mutations_authorized_frame :
    let m := nativeSession BrokerSample.uuid
    let final := m.final NativeSample.session NativeSample.calls
    dispatchedIds final.history = [NativeSession.frameStateId BrokerSample.uuid 0] ∧
    (dispatchedIds final.history).Nodup ∧ Justified (Authorized NativeSample.session) final.history ∧
    ∀ c ∈ m.trace NativeSample.session NativeSample.calls, NativeSession.Attempts c.input → NativeSession.NoTokens c.after := by
  intro m final
  exact ⟨by decide, native_mutations_authorized BrokerSample.uuid BrokerSample.uuid_injective NativeSample.session
    rfl rfl rfl NativeSample.calls⟩

end DccCua
