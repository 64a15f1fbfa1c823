import DccCua.Theorems.NativeAuthority

/-! # What a failed read leaves

A frame read that fails leaves no token. A menu read mints the frame token first; if its menu proof fails with a code that
does not count as lost evidence, or does not belong to the window that was read, the frame token stays. -/

namespace DccCua
namespace NativeSession

open Checks Script

section
variable {newUuid : Nat → String} {s : NativeSession} {a : ReadAnswers}

/-- The token that the frame read of a state would leave. -/
def frameMetadataOf (newUuid : Nat → String) (s : NativeSession) (a : ReadAnswers) (state : ExactWindowNativeState) :
    NativeWindowFrameMetadata :=
  ⟨frameStateId newUuid s.drawn, s.sessionId, a.readAt, state⟩

/-- The window can be read, and its state is good for a frame token. -/
structure FrameReadable (newUuid : Nat → String) (s : NativeSession) (a : ReadAnswers) (state : ExactWindowNativeState) : Prop where
  route : (s.pixelsOnly && s.processId.any (· ≠ 0) && s.windowHandle.any (· ≠ 0)) = true
  active : a.active = .ok ()
  read : ∃ target, a.revalidated = some (.ok target) ∧ nativeStateOf target a.nativeState = .ok state
  valid : (frameMetadataOf newUuid s a state).validate (frameStateId newUuid s.drawn) s 0 = .ok ()

/-- The menu proof fails without losing evidence, or belongs to another window, or is not good for a menu token. -/
def MenuUnproven (newUuid : Nat → String) (s : NativeSession) (a : ReadAnswers) (state : ExactWindowNativeState) : Prop :=
  match a.menuProof with
  | .error error => ComputerUseSession.evidenceLost error.code = false
  | .ok proof => state.instanceEvidence ≠ proof.popup.instanceEvidence ∨
      ∀ u, (⟨menuStateId newUuid (s.drawn + 1), s.sessionId, a.menuReadAt, proof⟩ : NativeMenuMetadata).validate
        (menuStateId newUuid (s.drawn + 1)) s 0 ≠ .ok u

/-- The ways in which a frame read ends. -/
inductive FrameEnd (newUuid : Nat → String) (s : NativeSession) (a : ReadAnswers) :
    Ran NativeSession Unit (Except ComputerUseError WindowStateReport) → Prop where
  | dropped (s' : NativeSession) : (∀ state, ¬FrameReadable newUuid s a state) → FrameEnd newUuid s a (.cut s')
  | failed (error : ComputerUseError) (s' : NativeSession) : NoTokens s' → (∀ state, ¬FrameReadable newUuid s a state) →
      FrameEnd newUuid s a (.done (.error error) s' [])
  | unminted (report : WindowStateReport) (s' : NativeSession) : NoTokens s' → (∀ state, ¬FrameReadable newUuid s a state) →
      FrameEnd newUuid s a (.done (.ok report) s' [])
  | minted (report : WindowStateReport) (s' : NativeSession) (state : ExactWindowNativeState) : FrameReadable newUuid s a state →
      report.native = some state → s'.frameMetadata = some (frameMetadataOf newUuid s a state) → s'.menuMetadata = none →
      s'.sessionId = s.sessionId → s'.processId = s.processId → s'.windowHandle = s.windowHandle → s'.drawn = s.drawn + 1 →
      FrameEnd newUuid s a (.done (.ok report) s' [])

theorem NoTokens.finish {α : Type} (h : NoTokens s) (result : Except ComputerUseError α) : NoTokens (s.finish result) := by
  cases result with
  | ok a => exact h
  | error error =>
    unfold NativeSession.finish
    dsimp only
    split
    · exact ⟨rfl, rfl⟩
    · exact h

/-- The end of a frame read of a state. -/
theorem frameEnd_state {target : ExactWindowTarget} {state : ExactWindowNativeState}
    (hroute : (s.pixelsOnly && s.processId.any (· ≠ 0) && s.windowHandle.any (· ≠ 0)) = true) (hactive : a.active = .ok ())
    (hrevalidated : a.revalidated = some (.ok target)) (hstate : nativeStateOf target a.nativeState = .ok state) {s₁ : NativeSession}
    (hfields : s₁.frameMetadata = none ∧ s₁.menuMetadata = none ∧ s₁.sessionId = s.sessionId ∧ s₁.processId = s.processId ∧
      s₁.windowHandle = s.windowHandle ∧ s₁.drawn = s.drawn ∧ s₁.pixelsOnly = s.pixelsOnly) :
    FrameEnd newUuid s a (.done (.ok ⟨target, some state, (s₁.rememberNativeFrameMetadata newUuid a.readAt state).1, none⟩)
      (s₁.rememberNativeFrameMetadata newUuid a.readAt state).2 []) := by
  obtain ⟨hframe, hmenu, hsession, hprocess, hwindow, hdrawn, hpixels⟩ := hfields
  have hvalid : (⟨frameStateId newUuid s₁.drawn, s₁.sessionId, a.readAt, state⟩ : NativeWindowFrameMetadata).validate
      (frameStateId newUuid s₁.drawn) { s₁ with drawn := s₁.drawn + 1 } 0 =
      (frameMetadataOf newUuid s a state).validate (frameStateId newUuid s.drawn) s 0 := by
    unfold NativeWindowFrameMetadata.validate frameMetadataOf
    dsimp only
    rw [hsession, hprocess, hwindow, hdrawn]
  have hpixelsOnly : (!s₁.pixelsOnly) = false := by
    simp only [Bool.and_eq_true] at hroute
    rw [hpixels, hroute.1.1]
    rfl
  unfold rememberNativeFrameMetadata
  rw [hpixelsOnly]
  dsimp only [Bool.false_eq_true, if_false]
  rw [hvalid]
  cases hcheck : (frameMetadataOf newUuid s a state).validate (frameStateId newUuid s.drawn) s 0 with
  | error e =>
    refine .unminted _ _ ⟨hframe, hmenu⟩ fun state' hreadable => ?_
    obtain ⟨target', hrevalidated', hstate'⟩ := hreadable.read
    rw [hrevalidated, Option.some.injEq, Except.ok.injEq] at hrevalidated'
    rw [← hrevalidated', hstate, Except.ok.injEq] at hstate'
    have hvalid' := hreadable.valid
    rw [← hstate', hcheck] at hvalid'
    cases hvalid'
  | ok _ =>
    refine .minted _ _ state ⟨hroute, hactive, ⟨target, hrevalidated, hstate⟩, hcheck⟩ rfl ?_ hmenu hsession hprocess hwindow
      (congrArg (· + 1) hdrawn)
    show some _ = some _
    rw [hsession, hdrawn]
    rfl

theorem frameEnd : FrameEnd newUuid s a (nativeWindowStateForFrame newUuid a s []) := by
  have hbegun : NoTokens s.beginRead := ⟨rfl, rfl⟩
  rw [show nativeWindowStateForFrame newUuid a s [] = frameRead newUuid a s.beginRead [] from rfl]
  unfold frameRead
  cases hroute : (s.pixelsOnly && s.processId.any (· ≠ 0) && s.windowHandle.any (· ≠ 0)) with
  | false =>
    rw [Prog.tryThen_read_error (by rw [show s.beginRead.pixelsOnly = s.pixelsOnly from rfl, show s.beginRead.processId = s.processId from rfl,
      show s.beginRead.windowHandle = s.windowHandle from rfl, hroute]; rfl)]
    refine .failed _ _ hbegun fun state h => ?_
    rw [h.route] at hroute
    cases hroute
  | true =>
    rw [Prog.tryThen_read_ok (a := ()) (by rw [show s.beginRead.pixelsOnly = s.pixelsOnly from rfl,
      show s.beginRead.processId = s.processId from rfl, show s.beginRead.windowHandle = s.windowHandle from rfl, hroute]; rfl)]
    have hexact : (s.beginRead.processId.isSome && s.beginRead.windowHandle.isSome) = true := by
      simp only [Bool.and_eq_true, Option.any_eq_true] at hroute
      obtain ⟨⟨-, p, hp, -⟩, w, hw, -⟩ := hroute
      rw [show s.beginRead.processId = s.processId from rfl, show s.beginRead.windowHandle = s.windowHandle from rfl, hp, hw]
      rfl
    unfold windowStateWithFrameMetadata
    cases hactive : a.active with
    | error e =>
      refine .failed e _ hbegun fun state h => ?_
      rw [h.active] at hactive
      cases hactive
    | ok u =>
      rw [@Prog.tryThen_ok _ _ _ _ _ (Prog.ret (.ok u)) _ s.beginRead s.beginRead u [] [] rfl]
      show FrameEnd newUuid s a ((revalidateObservedTarget a.revalidated).tryThen _ s.beginRead [])
      cases hrevalidated : a.revalidated with
      | none =>
        refine .dropped _ fun state h => ?_
        obtain ⟨target, hsome, -⟩ := h.read
        rw [hsome] at hrevalidated
        cases hrevalidated
      | some result =>
        cases result with
        | error e =>
          rw [@Prog.tryThen_error _ _ _ _ _ (revalidateObservedTarget (some (.error e))) _ s.beginRead _ e [] [] rfl]
          refine .failed e _ (hbegun.finish _) fun state h => ?_
          obtain ⟨target, hsome, -⟩ := h.read
          rw [hsome] at hrevalidated
          cases hrevalidated
        | ok target =>
          rw [@Prog.tryThen_ok _ _ _ _ _ (revalidateObservedTarget (some (.ok target))) _ s.beginRead s.beginRead target [] [] rfl]
          dsimp only
          rw [if_pos hexact]
          cases hstate : nativeStateOf target a.nativeState with
          | error e =>
            rw [@Prog.tryThen_error _ _ _ _ _ (attempt (mapError (mapWindowsWindowMutationError "read exact native window state") (.error e))) _
              s.beginRead _ _ [] [] rfl]
            refine .failed _ _ (hbegun.finish _) fun state h => ?_
            obtain ⟨target', hsome, hok⟩ := h.read
            rw [hrevalidated, Option.some.injEq, Except.ok.injEq] at hsome
            rw [← hsome, hstate] at hok
            cases hok
          | ok state =>
            rw [@Prog.tryThen_ok _ _ _ _ _ (attempt (mapError (mapWindowsWindowMutationError "read exact native window state") (.ok state))) _ s.beginRead s.beginRead state [] [] rfl]
            refine frameEnd_state hroute hactive hrevalidated hstate ?_
            split
            · exact ⟨rfl, rfl, rfl, rfl, rfl, rfl, rfl⟩
            · exact ⟨rfl, rfl, rfl, rfl, rfl, rfl, rfl⟩

/-! ### Menu reads -/

/-- A failed read leaves no token. -/
def FailsClean (p : NativeProg ComputerUseError WindowStateReport) (s : NativeSession) : Prop :=
  ∀ error s' rest, p s [] = .done (.error error) s' rest → NoTokens s'

theorem frame_failsClean : FailsClean (nativeWindowStateForFrame newUuid a) s := by
  intro error s' rest hran
  have hend := @frameEnd newUuid s a
  rw [hran] at hend
  cases hend with
  | failed _ _ hnone _ => exact hnone

/-- A menu read goes on where the frame read has ended. -/
theorem menuRead_eq {report : WindowStateReport} {s' : NativeSession} (h : nativeWindowStateForFrame newUuid a s [] = .done (.ok report) s' []) :
    nativeWindowStateForMenuDismiss newUuid a s [] = (menuRead newUuid a report).andThen attempt s' [] := by
  unfold nativeWindowStateForMenuDismiss Prog.andThen
  rw [Prog.tryThen_ok h]

theorem staleMenu : ComputerUseSession.evidenceLost .staleObservation = false := rfl

/-- With an error that loses no evidence the tokens stay. -/
theorem finish_kept {error : ComputerUseError} (h : ComputerUseSession.evidenceLost error.code = false) :
    s.finish (.error error : Except ComputerUseError WindowStateReport) = s := by
  unfold NativeSession.finish
  dsimp only
  rw [h]
  rfl

theorem finish_lost {error : ComputerUseError} (h : ComputerUseSession.evidenceLost error.code = true) :
    NoTokens (s.finish (.error error : Except ComputerUseError WindowStateReport)) := by
  unfold NativeSession.finish
  dsimp only
  rw [h]
  exact ⟨rfl, rfl⟩

/-- The ways in which the menu proof of a read fails. -/
inductive MenuFailure (newUuid : Nat → String) (a : ReadAnswers) (report : WindowStateReport) (s : NativeSession) :
    ComputerUseError → NativeSession → Prop where
  | unread (error : UiaError) : a.menuProof = .error error → MenuFailure newUuid a report s
      (mapWindowsWindowMutationError "read exact active native menu" error) s
  | otherWindow (proof : NativeMenuProof) (error : ComputerUseError) : a.menuProof = .ok proof →
      report.native.any (·.instanceEvidence = proof.popup.instanceEvidence) = false → error.code = .staleObservation →
      MenuFailure newUuid a report s error s
  | invalid (proof : NativeMenuProof) (error : ComputerUseError) : a.menuProof = .ok proof →
      report.native.any (·.instanceEvidence = proof.popup.instanceEvidence) = true →
      (⟨menuStateId newUuid s.drawn, s.sessionId, a.menuReadAt, proof⟩ : NativeMenuMetadata).validate
        (menuStateId newUuid s.drawn) { s with drawn := s.drawn + 1 } 0 = .error error →
      error.code = .staleObservation → MenuFailure newUuid a report s error { s with drawn := s.drawn + 1 }

/-- How the menu proof of a read ends. -/
inductive MenuEnd (newUuid : Nat → String) (a : ReadAnswers) (report : WindowStateReport) (s : NativeSession) :
    Ran NativeSession Unit (Except ComputerUseError WindowStateReport) → Prop where
  | failed (error : ComputerUseError) (s' : NativeSession) : MenuFailure newUuid a report s error s' →
      MenuEnd newUuid a report s (.done (.error error) (s'.finish (.error error : Except ComputerUseError WindowStateReport)) [])
  | proved (proof : NativeMenuProof) (report' : WindowStateReport) (s' : NativeSession) : a.menuProof = .ok proof →
      report.native.any (·.instanceEvidence = proof.popup.instanceEvidence) = true →
      (⟨menuStateId newUuid s.drawn, s.sessionId, a.menuReadAt, proof⟩ : NativeMenuMetadata).validate
        (menuStateId newUuid s.drawn) { s with drawn := s.drawn + 1 } 0 = .ok () → MenuEnd newUuid a report s (.done (.ok report') s' [])

theorem menuEnd {report : WindowStateReport} : MenuEnd newUuid a report s ((menuRead newUuid a report).andThen attempt s []) := by
  unfold Prog.andThen menuRead
  cases hproof : a.menuProof with
  | error error => exact .failed _ s (.unread error hproof)
  | ok proof =>
    cases hsame : report.native.any (·.instanceEvidence = proof.popup.instanceEvidence) with
    | false =>
      have hrefused : MenuEnd newUuid a report s _ := .failed _ s (.otherWindow (s := s) proof ⟨.staleObservation,
        "native popup instance changed during explicit menu state read"⟩ hproof hsame rfl)
      unfold Prog.tryThen Prog.andThen Prog.ret
      dsimp only [mapError]
      rw [hsame]
      exact hrefused
    | true =>
      have hran : (Prog.ret (mapError (mapWindowsWindowMutationError "read exact active native menu") (.ok proof)) :
          NativeProg ComputerUseError NativeMenuProof).tryThen (fun proof => (Prog.ret (require (report.native.any
            (·.instanceEvidence = proof.popup.instanceEvidence)) ⟨.staleObservation,
              "native popup instance changed during explicit menu state read"⟩)).tryThen fun _ =>
            Prog.update (rememberNativeMenuMetadata newUuid a.menuReadAt proof report)) s [] =
          .done (rememberNativeMenuMetadata newUuid a.menuReadAt proof report s).1
            (rememberNativeMenuMetadata newUuid a.menuReadAt proof report s).2 [] := by
        unfold Prog.tryThen Prog.andThen Prog.ret
        dsimp only [mapError]
        rw [hsame]
        rfl
      rw [hran]
      unfold rememberNativeMenuMetadata
      dsimp only
      cases hvalid : (⟨menuStateId newUuid s.drawn, s.sessionId, a.menuReadAt, proof⟩ : NativeMenuMetadata).validate
          (menuStateId newUuid s.drawn) { s with drawn := s.drawn + 1 } 0 with
      | error error =>
        refine .failed error { s with drawn := s.drawn + 1 } (.invalid proof error hproof hsame hvalid ?_)
        rw [← (require_eq_error.mp hvalid).2]
        rfl
      | ok u => exact .proved proof _ _ hproof hsame hvalid

/-- A menu read whose menu is unproven fails, and the frame token stays. -/
theorem menuUnproven_iff {report : WindowStateReport} {state : ExactWindowNativeState} {s₁ : NativeSession} (hreport : report.native = some state)
    (hsession : s₁.sessionId = s.sessionId) (hprocess : s₁.processId = s.processId) (hwindow : s₁.windowHandle = s.windowHandle)
    (hdrawn : s₁.drawn = s.drawn + 1) (hframe : s₁.frameMetadata ≠ none) (hmenu : s₁.menuMetadata = none) :
    (∀ error s' rest, (menuRead newUuid a report).andThen attempt s₁ [] = .done (.error error) s' rest → NoTokens s') ↔
      ¬MenuUnproven newUuid s a state := by
  have hvalid : ∀ proof, (⟨menuStateId newUuid s₁.drawn, s₁.sessionId, a.menuReadAt, proof⟩ : NativeMenuMetadata).validate
      (menuStateId newUuid s₁.drawn) { s₁ with drawn := s₁.drawn + 1 } 0 =
      (⟨menuStateId newUuid (s.drawn + 1), s.sessionId, a.menuReadAt, proof⟩ : NativeMenuMetadata).validate
        (menuStateId newUuid (s.drawn + 1)) s 0 := by
    intro proof
    unfold NativeMenuMetadata.validate
    dsimp only
    rw [hsession, hprocess, hwindow, hdrawn]
  have hany : ∀ proof : NativeMenuProof, report.native.any (·.instanceEvidence = proof.popup.instanceEvidence) =
      decide (state.instanceEvidence = proof.popup.instanceEvidence) := by
    intro proof
    rw [hreport, Option.any_some]
  have hend := @menuEnd newUuid s₁ a report
  cases hran : (menuRead newUuid a report).andThen attempt s₁ [] with
  | cut s' =>
    rw [hran] at hend
    cases hend
  | done result s' rest =>
    rw [hran] at hend
    cases hend with
    | proved proof report' _ hproof hsame hcheck =>
      refine ⟨fun _ hunproven => ?_, fun _ error _ _ hdone => by cases hdone⟩
      rw [hany, decide_eq_true_iff] at hsame
      rw [hvalid] at hcheck
      unfold MenuUnproven at hunproven
      rw [hproof] at hunproven
      rcases hunproven with hother | hinvalid
      · exact hother hsame
      · exact hinvalid () hcheck
    | failed error s₂ hfailure =>
      have hkept : ∀ {s₂ : NativeSession}, s₂.frameMetadata = s₁.frameMetadata → ComputerUseSession.evidenceLost error.code = false →
          MenuUnproven newUuid s a state →
          ((∀ error' s' rest, (Ran.done (.error error) (s₂.finish (.error error : Except ComputerUseError WindowStateReport)) [] :
            Ran NativeSession Unit (Except ComputerUseError WindowStateReport)) = .done (.error error') s' rest → NoTokens s') ↔
            ¬MenuUnproven newUuid s a state) := by
        intro s₂ hsame hcode hunproven
        refine ⟨fun hclean => ?_, fun hproved => absurd hunproven hproved⟩
        have hnone := (hclean error _ [] rfl).1
        rw [finish_kept hcode, hsame] at hnone
        exact absurd hnone hframe
      cases hfailure with
      | unread uia hproof =>
        have hmeans : MenuUnproven newUuid s a state ↔ ComputerUseSession.evidenceLost uia.code = false := by
          unfold MenuUnproven
          rw [hproof]
        cases hcode : ComputerUseSession.evidenceLost uia.code with
        | false => exact hkept rfl hcode (hmeans.mpr hcode)
        | true =>
          rw [hmeans, hcode]
          refine ⟨fun _ hfalse => (by cases hfalse), fun _ error' s' rest hdone => ?_⟩
          cases hdone
          exact finish_lost hcode
      | otherWindow proof _ hproof hother hcode =>
        rw [hany, decide_eq_false_iff_not] at hother
        refine hkept rfl (by rw [hcode]; rfl) ?_
        unfold MenuUnproven
        rw [hproof]
        exact Or.inl hother
      | invalid proof _ hproof hsame hcheck hcode =>
        refine hkept rfl (by rw [hcode]; rfl) ?_
        unfold MenuUnproven
        rw [hproof]
        refine Or.inr fun u hok => ?_
        rw [hvalid, hok] at hcheck
        cases hcheck

theorem menu_failsClean_iff : FailsClean (nativeWindowStateForMenuDismiss newUuid a) s ↔
    ¬∃ state, FrameReadable newUuid s a state ∧ MenuUnproven newUuid s a state := by
  have hend := @frameEnd newUuid s a
  cases hran : nativeWindowStateForFrame newUuid a s [] with
  | cut s₁ =>
    rw [hran] at hend
    cases hend with
    | dropped _ hnever =>
      refine iff_of_true (fun error s' rest hdone => ?_) fun ⟨state, hreadable, _⟩ => hnever state hreadable
      unfold nativeWindowStateForMenuDismiss Prog.andThen at hdone
      rw [Prog.tryThen_cut hran] at hdone
      cases hdone
  | done result s₁ rest₁ =>
    rw [hran] at hend
    cases hend with
    | failed error _ hnone hnever =>
      refine iff_of_true (fun error' s' rest hdone => ?_) fun ⟨state, hreadable, _⟩ => hnever state hreadable
      unfold nativeWindowStateForMenuDismiss Prog.andThen at hdone
      rw [Prog.tryThen_error hran] at hdone
      cases hdone
      exact hnone.finish _
    | unminted report _ hnone hnever =>
      refine iff_of_true (fun error s' rest hdone => ?_) fun ⟨state, hreadable, _⟩ => hnever state hreadable
      rw [menuRead_eq hran] at hdone
      have hmenu := @menuEnd newUuid s₁ a report
      rw [hdone] at hmenu
      cases hmenu with
      | failed _ s₂ hfailure =>
        cases hfailure with
        | unread uia _ => exact hnone.finish _
        | otherWindow _ _ _ _ _ => exact hnone.finish _
        | invalid _ _ _ _ _ _ => exact NoTokens.finish (s := { s₁ with drawn := s₁.drawn + 1 }) hnone _
    | minted report _ state hreadable hreport hframe hmenu hsession hprocess hwindow hdrawn =>
      have hmint : _ ↔ ¬MenuUnproven newUuid s a state := menuUnproven_iff hreport hsession hprocess hwindow hdrawn
        (by rw [hframe]; simp) hmenu
      have hstate : (∃ state, FrameReadable newUuid s a state ∧ MenuUnproven newUuid s a state) ↔ MenuUnproven newUuid s a state := by
        refine ⟨fun ⟨state', hreadable', hunproven⟩ => ?_, fun hunproven => ⟨state, hreadable, hunproven⟩⟩
        obtain ⟨target, hrevalidated, hread⟩ := hreadable.read
        obtain ⟨target', hrevalidated', hread'⟩ := hreadable'.read
        rw [hrevalidated, Option.some.injEq, Except.ok.injEq] at hrevalidated'
        rw [← hrevalidated', hread, Except.ok.injEq] at hread'
        rwa [hread']
      rw [hstate, ← hmint]
      unfold FailsClean
      rw [menuRead_eq hran]

/-- A failed read leaves no token exactly when no readable window has an unproven menu. -/
theorem failed_read_clears_iff (newUuid : Nat → String) (s : NativeSession) (a : ReadAnswers) :
    FailsClean (nativeWindowStateForFrame newUuid a) s ∧ FailsClean (nativeWindowStateForMenuDismiss newUuid a) s ↔
      ¬∃ state, FrameReadable newUuid s a state ∧ MenuUnproven newUuid s a state := by
  rw [menu_failsClean_iff]
  exact and_iff_right frame_failsClean

end

/-- Between the two readings the popup has become another one. -/
def popupChanged : ReadAnswers :=
  { NativeSample.readAnswers with
    menuProof := .ok {
      popup := { NativeSample.state with instanceEvidence := ⟨1, 2, 4, 0⟩ }
      owner := { NativeSample.state with windowHandle := 8 }
      flags := 4
      activeWindowHandle := 8
      captureWindowHandle := 9 } }

/-- The menu read fails, and the session keeps the frame token that it has minted. -/
theorem changed_popup_keeps_frame : ¬FailsClean (nativeWindowStateForMenuDismiss BrokerSample.uuid popupChanged) NativeSample.session := by
  rw [menu_failsClean_iff, not_not]
  exact ⟨NativeSample.state, ⟨rfl, rfl, ⟨NativeSample.target, rfl, rfl⟩, by decide⟩, Or.inl (by decide)⟩

end NativeSession
end DccCua
