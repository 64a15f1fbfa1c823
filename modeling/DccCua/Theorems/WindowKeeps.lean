import DccCua.Host.WindowRequests

/-! # What the requests of a window session keep

An invariant of a session is stable when each of its elementary steps keeps it: time, the epoch of the core session,
the synchronization with it, what is invalidated and what is recorded. Every handler that leaves the browser alone is
a program of such steps, and keeps every stable invariant wherever it ends. -/

namespace DccCua

open Script

/-- An invariant that the elementary steps of a session keep. -/
structure Stable (I : Window → Prop) : Prop where
  elapse : ∀ w ms, I w → I (w.elapse ms)
  advance : ∀ w n, I w → I (w.advance n)
  synchronize : ∀ w, I w → I w.synchronizeActionEvidenceEpoch
  invalidate : ∀ w, I w → I w.invalidateObservations
  discard : ∀ w, I w → I w.discardBrowserEvidence
  clearNative : ∀ w, I w → I w.clearNativeObservationCaches
  record : ∀ w observationId accessibility, I w → I { w with host := w.host.recordObservation observationId accessibility }
  events : ∀ w queue, I w → I { w with host := { w.host with inputEvents := queue } }
  interrupt : ∀ w, I w → I w.interrupt

namespace Window

section
variable {I : Window → Prop} (hI : Stable I)
include hI

theorem keep_invalidateActionObservations {w : Window} (hw : I w) : I w.invalidateActionObservations :=
  hI.synchronize _ (hI.advance _ _ hw)

theorem keep_observeInputReadiness {w : Window} (readiness : ComputerUseInputReadiness) (hw : I w) :
    I (w.observeInputReadiness readiness) := by
  unfold observeInputReadiness
  dsimp only
  have hqueue := hI.events w (w.host.inputEvents.observe readiness w.now).2 hw
  split
  · exact keep_invalidateActionObservations hI hqueue
  · exact hqueue

theorem keep_observeTargetAvailability {w : Window} (availability : ComputerUseTargetAvailability) (hw : I w) :
    I (w.observeTargetAvailability availability) := by
  unfold observeTargetAvailability
  dsimp only
  have hqueue := hI.events w (w.host.inputEvents.observeTarget availability w.now).2 hw
  split
  · exact keep_invalidateActionObservations hI hqueue
  · exact hqueue

theorem keep_finishObservationSensitiveAttempt {α : Type} {w : Window} (result : Except ComputerUseError α) (hw : I w) :
    I (w.finishObservationSensitiveAttempt result) := by
  unfold finishObservationSensitiveAttempt
  have hsync := hI.synchronize w hw
  cases result with
  | ok a => exact hsync
  | error error =>
    have hinvalidated : I (if errorInvalidates error.code then
        w.synchronizeActionEvidenceEpoch.invalidateActionObservations else w.synchronizeActionEvidenceEpoch) := by
      split
      · exact keep_invalidateActionObservations hI hsync
      · exact hsync
    have hready : I (if error.code = .interactiveDesktopUnavailable then
        (if errorInvalidates error.code then w.synchronizeActionEvidenceEpoch.invalidateActionObservations
          else w.synchronizeActionEvidenceEpoch).observeInputReadiness
            ⟨.suspended, "interactive_desktop_unavailable", some error.message⟩
        else if errorInvalidates error.code then w.synchronizeActionEvidenceEpoch.invalidateActionObservations
          else w.synchronizeActionEvidenceEpoch) := by
      split
      · exact keep_observeInputReadiness hI _ hinvalidated
      · exact hinvalidated
    dsimp only
    cases errorTargetStatus error.code with
    | none => exact hready
    | some status => exact keep_observeTargetAvailability hI _ hready

/-! ### The elementary programs -/

omit hI in
theorem keeps_awaiting {α : Type} (helapse : ∀ w ms, I w → I (w.elapse ms)) (hadvance : ∀ w n, I w → I (w.advance n))
    (accept : WindowEvent → Option (Nat × α)) : Keeps I (awaiting accept) := by
  refine keeps_await fun event w hw => ?_
  cases event with
  | elapsed ms => exact helapse w ms hw
  | core n result | availability n result | readiness r | banner b failure | decided result | chosen c | answered result =>
    dsimp only
    split
    · exact hadvance w _ hw
    · exact hw

omit hI in
theorem keeps_asking {α : Type} (helapse : ∀ w ms, I w → I (w.elapse ms)) (accept : WindowEvent → Option α) :
    Keeps I (asking accept) := by
  refine keeps_await fun event w hw => ?_
  cases event with
  | elapsed ms => exact helapse w ms hw
  | core n result | availability n result | readiness r | banner b failure | decided result | chosen c | answered result =>
    exact hw

theorem keeps_decision : Keeps I decision := keeps_asking hI.elapse _
theorem keeps_choice : Keeps I choice := keeps_asking hI.elapse _
theorem keeps_answer : Keeps I answer := keeps_asking hI.elapse _
theorem keeps_readinessSample : Keeps I readinessSample := keeps_asking hI.elapse _
theorem keeps_stopCore : Keeps I stopCore := keeps_awaiting hI.elapse hI.advance _
theorem keeps_coreCall : Keeps I coreCall := keeps_awaiting hI.elapse hI.advance _
theorem keeps_targetAvailability : Keeps I targetAvailability := keeps_awaiting hI.elapse hI.advance _
omit hI in
theorem keeps_operate (hoperated : ∀ w, I w → I (w.note .operated)) : Keeps I operate := keeps_update fun w hw => hoperated w hw

omit hI in
theorem keeps_modify {f : Window → Window} (h : ∀ w, I w → I (f w)) : Keeps I (modify f) := keeps_update h

omit hI in
theorem keeps_check {α : Type} (f : HostSession → Except RequestError α) : Keeps I (check f) := keeps_read

omit hI in
theorem keeps_lift {α : Type} (result : Except ComputerUseError α) : Keeps I (lift result) := keeps_ret _

theorem keeps_withImages (result : Json) : Keeps I (withImages result) :=
  keeps_tryThen (keeps_decision hI) fun _ => keeps_ret _

theorem keeps_finished {α : Type} {call : Prog Window WindowEvent (Except ComputerUseError α)} (h : Keeps I call) :
    Keeps I (finished call) :=
  keeps_andThen h fun result => keeps_update fun _ hw => keep_finishObservationSensitiveAttempt hI result hw

theorem keeps_attempt : Keeps I attempt := keeps_andThen (keeps_finished hI (keeps_coreCall hI)) fun _ => keeps_lift _

theorem keeps_invalidate : Keeps I (modify invalidateObservations) := keeps_modify hI.invalidate

theorem keeps_mutationAttempt : Keeps I mutationAttempt :=
  keeps_andThen (keeps_finished hI (keeps_coreCall hI)) fun _ => keeps_tryThen (keeps_invalidate hI) fun _ => keeps_lift _

theorem keeps_orInvalidate {α : Type} {p : WindowProg α} (h : Keeps I p) : Keeps I (orInvalidate p) := by
  refine keeps_andThen h fun result => ?_
  cases result with
  | ok a => exact keeps_ret _
  | error error => exact keeps_tryThen (keeps_invalidate hI) fun _ => keeps_ret _

theorem keeps_ensureSessionNotInterrupted : Keeps I ensureSessionNotInterrupted := by
  refine keeps_tryThen (keeps_check _) fun _ => keeps_andThen (keeps_asking hI.elapse _) fun banner => ?_
  split
  · exact keeps_andThen (keeps_stopCore hI) fun _ => keeps_update fun w hw => hI.interrupt w hw
  · split
    · exact keeps_andThen (keeps_stopCore hI) fun _ => keeps_ret _
    · exact keeps_ret _

theorem keeps_validateActiveTaskAuthorization : Keeps I validateActiveTaskAuthorization := by
  refine keeps_andThen keeps_read fun free => ?_
  split
  · exact keeps_ret _
  · exact keeps_decision hI

theorem keeps_authorizedSession (hmark : ∀ w, I w → I w.markActivity) : Keeps I authorizedSession := by
  refine keeps_andThen keeps_read fun expired => ?_
  split
  · exact keeps_andThen (keeps_stopCore hI) fun _ => keeps_update fun w hw => hI.invalidate _ (hI.interrupt w hw)
  · exact keeps_tryThen (keeps_validateActiveTaskAuthorization hI) fun _ =>
      keeps_tryThen (keeps_ensureSessionNotInterrupted hI) fun _ => keeps_modify hmark

theorem keeps_revalidateQueuedWindowMutation : Keeps I revalidateQueuedWindowMutation :=
  keeps_tryThen (keeps_ensureSessionNotInterrupted hI) fun _ => keeps_validateActiveTaskAuthorization hI

/-! ### The handlers -/

theorem keeps_granted (p : TaskPermissions → Bool) (error : RequestError) : Keeps I (granted p error) :=
  keeps_tryThen (keeps_check _) fun _ => keeps_attempt hI

theorem keeps_observeState (state : Json) : Keeps I (modify fun w => w.observeTargetState state) :=
  keeps_modify fun _ hw => keep_observeTargetAvailability hI _ hw

theorem keeps_observedWindowState : Keeps I observedWindowState :=
  keeps_tryThen (keeps_attempt hI) fun state => keeps_tryThen (keeps_observeState hI state) fun _ => keeps_ret _

theorem keeps_probeTarget : Keeps I probeTarget := by
  refine keeps_andThen (keeps_finished hI (keeps_targetAvailability hI)) fun result => ?_
  cases result with
  | ok availability => exact keeps_update fun _ hw => keep_observeTargetAvailability hI availability hw
  | error error => exact keeps_ret _

theorem keeps_refreshInputReadiness : Keeps I refreshInputReadiness :=
  keeps_andThen (keeps_readinessSample hI) fun readiness => keeps_modify fun _ hw => keep_observeInputReadiness hI readiness hw

omit hI in
theorem keeps_permitted (p : TaskPermissions → Bool) (error : RequestError) : Keeps I (permitted p error) := keeps_check _

omit hI in
theorem keeps_liveObservationPermitted : Keeps I liveObservationPermitted := keeps_permitted _ _

theorem keeps_liveObservationStart : Keeps I liveObservationStart :=
  keeps_tryThen keeps_liveObservationPermitted fun _ => keeps_tryThen (keeps_attempt hI) fun _ =>
    keeps_tryThen (keeps_invalidate hI) fun _ => keeps_ret _

theorem keeps_liveObservationStop : Keeps I liveObservationStop :=
  keeps_tryThen keeps_liveObservationPermitted fun _ => keeps_andThen (keeps_coreCall hI) fun _ =>
    keeps_tryThen (keeps_invalidate hI) fun _ => keeps_ret _

theorem keeps_fencedMutation {p : WindowProg Json} (h : Keeps I p) : Keeps I (fencedMutation p) := by
  refine keeps_andThen keeps_read fun prior => keeps_andThen h fun result =>
    keeps_tryThen (keeps_modify fun w hw => hI.invalidate _ ?_) fun _ => keeps_ret _
  split
  · exact hI.advance w 1 hw
  · exact hw

theorem keeps_queuedMutation : Keeps I queuedMutation :=
  keeps_tryThen (keeps_revalidateQueuedWindowMutation hI) fun _ =>
    keeps_tryThen (keeps_ensureSessionNotInterrupted hI) fun _ => keeps_decision hI

theorem keeps_dismissMenu (stateId : Option String) : Keeps I (dismissMenu stateId) :=
  keeps_fencedMutation hI <| keeps_tryThen (keeps_check _) fun _ => keeps_tryThen (keeps_ret _) fun _ =>
    keeps_tryThen (keeps_queuedMutation hI) fun _ => keeps_tryThen (keeps_check _) fun _ =>
      keeps_tryThen (keeps_decision hI) fun _ => keeps_attempt hI

theorem keeps_validateOtherOperation (stateId : Option String) : Keeps I (validateOtherOperation stateId) := by
  refine keeps_tryThen (keeps_update fun w hw => ?_) fun _ => keeps_ret _
  split
  · exact hI.invalidate _ (hI.advance w 1 hw)
  · exact hw

theorem keeps_restoreActivate : Keeps I restoreActivate :=
  keeps_tryThen (keeps_check _) fun _ => keeps_andThen (keeps_finished hI (keeps_coreCall hI)) fun _ =>
    keeps_tryThen (keeps_invalidate hI) fun _ => keeps_andThen (keeps_probeTarget hI) fun _ =>
      keeps_tryThen (keeps_lift _) fun _ => keeps_observedWindowState hI

theorem keeps_changeWindowState (operation : WindowOperation) (stateId : Option String) :
    Keeps I (changeWindowState operation stateId) := by
  have hvalidate := keeps_validateOtherOperation hI stateId
  cases operation with
  | dismissMenu => exact keeps_dismissMenu hI stateId
  | activate =>
    exact keeps_tryThen hvalidate fun _ => keeps_tryThen (keeps_mutationAttempt hI) fun _ => keeps_observedWindowState hI
  | restoreActivate => exact keeps_tryThen hvalidate fun _ => keeps_restoreActivate hI
  | close => exact keeps_tryThen hvalidate fun _ => keeps_tryThen (keeps_check _) fun _ => keeps_mutationAttempt hI

theorem keeps_minimizeWindow (observationId : String) : Keeps I (minimizeWindow observationId) :=
  keeps_tryThen (keeps_check _) fun _ => keeps_tryThen (keeps_revalidateQueuedWindowMutation hI) fun _ =>
    keeps_tryThen (keeps_mutationAttempt hI) fun _ => keeps_observedWindowState hI

theorem keeps_setPixelsWindowFrame (stateId : Option String) : Keeps I (setPixelsWindowFrame stateId) :=
  keeps_tryThen (keeps_fencedMutation hI <| keeps_tryThen (keeps_check _) fun _ => keeps_tryThen (keeps_ret _) fun _ =>
    keeps_tryThen (keeps_queuedMutation hI) fun _ => keeps_tryThen (keeps_check _) fun _ => keeps_attempt hI) fun _ =>
      keeps_tryThen (keeps_observeState hI _) fun _ => keeps_ret _

theorem keeps_setWindowFrame (stateId : Option String) : Keeps I (setWindowFrame stateId) := by
  refine keeps_andThen keeps_read fun pixelsOnly => ?_
  split
  · exact keeps_setPixelsWindowFrame hI stateId
  · exact keeps_tryThen (keeps_ret _) fun _ => keeps_tryThen (keeps_decision hI) fun _ => keeps_mutationAttempt hI

theorem keeps_recordSnapshot (observationId : String) (accessibility : Json) :
    Keeps I (modify fun w => { w with host := w.host.recordSnapshotObservation observationId accessibility }) :=
  keeps_modify fun w hw => hI.record w observationId _ hw

theorem keeps_recordObservation (observationId : String) (accessibility : Option Json) :
    Keeps I (modify fun w => { w with host := w.host.recordObservation observationId accessibility }) :=
  keeps_modify fun w hw => hI.record w observationId accessibility hw

theorem keeps_snapshot (activateBefore captureDiagnostics : Bool) (popups : List Nat) :
    Keeps I (snapshot activateBefore captureDiagnostics popups) := by
  refine keeps_tryThen (keeps_check _) fun _ => keeps_tryThen ?_ fun _ => keeps_tryThen ?_ fun screenshot =>
    keeps_orInvalidate hI (keeps_withImages hI screenshot)
  · split
    · exact keeps_attempt hI
    · exact keeps_ret _
  · exact keeps_tryThen (keeps_check _) fun _ => keeps_tryThen (keeps_attempt hI) fun screenshot =>
      keeps_tryThen (keeps_ret _) fun observationId => keeps_tryThen (keeps_recordSnapshot hI observationId screenshot) fun _ =>
        keeps_ret _

theorem keeps_accessibilitySnapshot : Keeps I accessibilitySnapshot :=
  keeps_tryThen (keeps_attempt hI) fun root => keeps_tryThen (keeps_ret _) fun observationId =>
    keeps_tryThen (keeps_recordObservation hI observationId (some root)) fun _ =>
      keeps_tryThen (keeps_decision hI) fun _ => keeps_ret _

theorem keeps_beginCapturePreparation : Keeps I beginCapturePreparation :=
  keeps_fencedMutation hI <| keeps_tryThen (keeps_check _) fun _ =>
    keeps_tryThen (keeps_revalidateQueuedWindowMutation hI) fun _ => keeps_tryThen (keeps_decision hI) fun _ =>
      keeps_tryThen (keeps_check _) fun _ => keeps_attempt hI

theorem keeps_stopCapturePreparation : Keeps I stopCapturePreparation :=
  keeps_tryThen (keeps_check _) fun _ => keeps_tryThen (keeps_revalidateQueuedWindowMutation hI) fun _ =>
    keeps_tryThen (keeps_decision hI) fun _ => keeps_tryThen (keeps_check _) fun _ => keeps_mutationAttempt hI

theorem keeps_clipboardCaptureSecret (observationId : String) : Keeps I (clipboardCaptureSecret observationId) := by
  refine keeps_tryThen (keeps_decision hI) fun _ => keeps_tryThen (keeps_check _) fun _ => keeps_tryThen (keeps_check _) fun _ =>
    keeps_tryThen (keeps_check _) fun _ => keeps_tryThen (keeps_decision hI) fun _ => keeps_andThen (keeps_choice hI) fun allowed => ?_
  split
  · exact keeps_tryThen (keeps_decision hI) fun _ => keeps_tryThen (keeps_attempt hI) fun _ =>
      keeps_tryThen (keeps_decision hI) fun _ => keeps_andThen (keeps_finished hI (keeps_coreCall hI)) fun _ => keeps_ret _
  · exact keeps_ret _

theorem keeps_find : Keeps I find :=
  keeps_tryThen (keeps_refreshInputReadiness hI) fun _ =>
    keeps_tryThen (keeps_andThen (keeps_finished hI (keeps_targetAvailability hI)) fun _ => keeps_lift _) fun availability =>
      keeps_tryThen (keeps_modify fun _ hw => keep_observeTargetAvailability hI availability hw) fun _ =>
        keeps_tryThen (keeps_check _) fun _ => keeps_check _

theorem keeps_waitRound : Keeps I waitRound := by
  refine keeps_andThen (keeps_ensureSessionNotInterrupted hI) fun result => ?_
  cases result with
  | error error => exact keeps_ret _
  | ok _ =>
    refine keeps_andThen (keeps_choice hI) fun abandoned => ?_
    split
    · exact keeps_andThen (keeps_modify fun _ hw => keep_invalidateActionObservations hI hw) fun _ => keeps_ret _
    · refine keeps_andThen (keeps_tryThen (keeps_attempt hI) fun root =>
        keeps_tryThen (keeps_ensureSessionNotInterrupted hI) fun _ => keeps_ret _) fun result => ?_
      cases result with
      | error error => exact keeps_ret _
      | ok root => exact keeps_andThen (keeps_choice hI) fun _ => keeps_ret _

theorem keeps_postSnapshotDelay : Keeps I postSnapshotDelay := by
  refine keeps_roundsUntil (keeps_andThen (keeps_ensureSessionNotInterrupted hI) fun result => ?_)
  cases result with
  | error error => exact keeps_ret _
  | ok _ => exact keeps_andThen (keeps_choice hI) fun _ => keeps_ret _

theorem keeps_clearNative : Keeps I clearNative := keeps_modify hI.clearNative

theorem keeps_withoutObservation : Keeps I (clearNative.tryThen fun _ => withImages .null) :=
  keeps_tryThen (keeps_clearNative hI) fun _ => keeps_withImages hI _

theorem keeps_confirmAction : Keeps I confirmAction := by
  refine keeps_tryThen (keeps_decision hI) fun _ => keeps_andThen (keeps_choice hI) fun allowed => ?_
  split
  · refine keeps_andThen (keeps_choice hI) fun refresh => keeps_tryThen ?_ fun _ => keeps_ret _
    split
    · exact keeps_tryThen (keeps_attempt hI) fun root => keeps_tryThen (keeps_orInvalidate hI (keeps_decision hI)) fun _ =>
        keeps_tryThen (keeps_ret _) fun observationId => keeps_recordObservation hI observationId (some root)
    · exact keeps_ret _
  · exact keeps_ret _

theorem keeps_observeAfterAction (semantic : Bool) : Keeps I (observeAfterAction semantic) := by
  refine keeps_andThen (keeps_finished hI (keeps_coreCall hI)) fun result => ?_
  cases result with
  | error error => exact keeps_withoutObservation hI
  | ok value =>
    refine keeps_tryThen (keeps_ret _) fun observationId => keeps_tryThen (keeps_modify fun w hw => ?_) fun _ =>
      keeps_withImages hI value
    split
    · exact hI.record w observationId (some value) hw
    · exact hI.record w observationId _ hw

theorem keeps_finishAction (request : ExecuteActionRequest) : Keeps I (finishAction request) := by
  unfold finishAction
  split
  · refine keeps_andThen (keeps_postSnapshotDelay hI) fun result => ?_
    cases result with
    | error error => exact keeps_withoutObservation hI
    | ok _ => exact keeps_observeAfterAction hI _
  · exact keeps_withoutObservation hI

theorem keeps_performAction : Keeps I performAction := by
  refine keeps_andThen keeps_read fun pixelsOnly => ?_
  split
  · exact keeps_mutationAttempt hI
  · exact keeps_attempt hI

theorem keeps_revalidateQueuedAction : Keeps I revalidateQueuedAction := by
  refine keeps_andThen keeps_read fun needed => ?_
  split
  · exact keeps_revalidateQueuedWindowMutation hI
  · exact keeps_ret _

theorem keeps_executeAction (request : ExecuteActionRequest) : Keeps I (executeAction request) := by
  refine keeps_tryThen (keeps_decision hI) fun _ => keeps_tryThen (keeps_check _) fun _ =>
    keeps_andThen (keeps_choice hI) fun rejected => ?_
  split
  · exact keeps_ret _
  · refine keeps_andThen (keeps_choice hI) fun confirm => keeps_tryThen ?_ fun allowed => ?_
    · split
      · exact keeps_confirmAction hI
      · exact keeps_ret _
    · split
      · exact keeps_tryThen (keeps_decision hI) fun _ => keeps_tryThen (keeps_revalidateQueuedAction hI) fun _ =>
          keeps_tryThen (keeps_performAction hI) fun _ => keeps_finishAction hI request
      · exact keeps_ret _

theorem keeps_pollRound (hoperated : ∀ w, I w → I (w.note .operated)) (afterSequence : Nat) :
    Keeps I (pollRound afterSequence) := by
  refine keeps_andThen (keeps_choice hI) fun _ => keeps_andThen (keeps_ensureSessionNotInterrupted hI) fun result => ?_
  cases result with
  | error error => exact keeps_ret _
  | ok _ =>
    exact keeps_andThen (keeps_operate hoperated) fun _ => keeps_andThen (keeps_refreshInputReadiness hI) fun _ =>
      keeps_andThen (keeps_probeTarget hI) fun _ => keeps_read

theorem keeps_refreshStatus : Keeps I refreshStatus :=
  keeps_andThen (keeps_refreshInputReadiness hI) fun _ => keeps_probeTarget hI

theorem keeps_sessionHealth : Keeps I sessionHealth := by
  refine keeps_andThen (keeps_refreshStatus hI) fun _ => keeps_andThen keeps_read fun recording =>
    keeps_andThen ?_ fun _ => keeps_andThen (keeps_refreshStatus hI) fun _ => keeps_ret _
  split
  · exact keeps_finished hI (keeps_coreCall hI)
  · exact keeps_ret _

theorem keeps_capturePreparationState : Keeps I capturePreparationState :=
  keeps_tryThen (keeps_check _) fun _ => keeps_attempt hI

theorem keeps_capturePreparationSnapshot : Keeps I capturePreparationSnapshot :=
  keeps_tryThen (keeps_check _) fun _ => keeps_tryThen (keeps_mutationAttempt hI) fun value => keeps_withImages hI value

omit hI in
theorem keeps_browserExtensionStatus : Keeps I browserExtensionStatus :=
  keeps_tryThen (keeps_check _) fun _ => keeps_ret _

omit hI in
theorem keeps_liveObservationState : Keeps I liveObservationState :=
  keeps_tryThen keeps_liveObservationPermitted fun _ => keeps_ret _

theorem keeps_invokeMenu : Keeps I invokeMenu :=
  keeps_tryThen (keeps_permitted _ _) fun _ => keeps_mutationAttempt hI

/-- The handlers of the calls that leave the browser alone. -/
theorem keeps_serve {env : WindowEnv} (hoperated : ∀ w, I w → I (w.note .operated)) {call : WindowCall}
    (hcall : call.onBrowser = false) : Keeps I (serve env call) := by
  cases call with
  | browserSnapshot _ | browserPrepare _ | browserClick _ | browserType _ | browserPointer _ | browserSetInputFiles _
  | browserDownload _ | browserNavigate _ | browserDialog _ | browserExtensionCall _ => cases hcall
  | browserExtensionStatus => exact keeps_browserExtensionStatus
  | capturePreparationBegin => exact keeps_beginCapturePreparation hI
  | capturePreparationState => exact keeps_capturePreparationState hI
  | capturePreparationStop => exact keeps_stopCapturePreparation hI
  | capturePreparationSnapshot => exact keeps_capturePreparationSnapshot hI
  | clipboardCaptureSecret observationId => exact keeps_clipboardCaptureSecret hI observationId
  | liveObservationStart => exact keeps_liveObservationStart hI
  | liveObservationState => exact keeps_liveObservationState
  | liveObservationStop => exact keeps_liveObservationStop hI
  | getWindowState => exact keeps_observedWindowState hI
  | changeWindowState operation stateId => exact keeps_changeWindowState hI operation stateId
  | minimizeWindow observationId => exact keeps_minimizeWindow hI observationId
  | setWindowFrame stateId => exact keeps_setWindowFrame hI stateId
  | invokeMenu => exact keeps_invokeMenu hI
  | snapshot activateBefore captureDiagnostics popups => exact keeps_snapshot hI activateBefore captureDiagnostics popups
  | accessibilitySnapshot => exact keeps_accessibilitySnapshot hI
  | callTool => exact keeps_tryThen (keeps_granted hI _ _) fun value => keeps_withImages hI value
  | zoom | verifyState => exact keeps_tryThen (keeps_attempt hI) fun value => keeps_withImages hI value
  | find => exact keeps_find hI
  | waitFor => exact keeps_roundsUntil (keeps_waitRound hI)
  | executeAction request => exact keeps_executeAction hI request
  | resumeSession => exact keeps_andThen (keeps_coreCall hI) fun _ => keeps_lift _
  | getInputState => exact keeps_andThen (keeps_refreshStatus hI) fun _ => keeps_ret _
  | sessionHealth => exact keeps_sessionHealth hI
  | pollSessionEvents afterSequence => exact keeps_roundsUntil (keeps_pollRound hI hoperated afterSequence)
  | getSessionState | cursorTool => exact keeps_attempt hI
  | terminateApp | clipboardRead | clipboardWrite | recordingStart _ _ _ | recordingStop | recordingState
  | escalateSession => exact keeps_granted hI _ _

theorem keeps_authorize (hmark : ∀ w, I w → I w.markActivity) (hoperated : ∀ w, I w → I (w.note .operated))
    (call : WindowCall) : Keeps I (authorize call) := by
  unfold authorize
  split
  · exact keeps_ret _
  · refine keeps_tryThen ?_ fun _ => keeps_operate hoperated
    split
    · exact keeps_ret _
    · exact keeps_authorizedSession hI hmark

/-! ### What holds while a request goes on

The checks before a handler keep more than a stable invariant, as long as they let the request through. -/

section Through
variable {F : Window → Prop} (weaken : ∀ w, F w → I w) (helapse : ∀ w ms, F w → F (w.elapse ms))
include weaken helapse

omit hI in
theorem keepsOr_decision : KeepsOr F I decision := by
  refine triple_cut (triple_weaken (keeps_asking helapse _) (fun _ _ hw => hw) fun result w _ hw => ?_) weaken
  cases result with
  | ok _ => exact hw
  | error _ => exact weaken w hw

theorem keepsOr_ensureSessionNotInterrupted : KeepsOr F I ensureSessionNotInterrupted := by
  refine keepsOr_tryThen (keepsOr_read weaken _) fun _ => ?_
  refine triple_andThen (R := fun _ w _ => F w) (triple_cut (keeps_asking helapse _) weaken) fun banner => ?_
  have hstop : Triple (fun w _ => F w) stopCore (fun _ w _ => I w) I :=
    fun w script hw => keeps_stopCore hI w script (weaken w hw)
  split
  · exact triple_andThen hstop fun _ => triple_update fun w _ hw => hI.interrupt w hw
  · split
    · exact triple_andThen hstop fun _ => triple_ret fun _ _ hw => hw
    · exact triple_ret fun _ _ hw => hw

omit hI in
theorem keepsOr_validateActiveTaskAuthorization : KeepsOr F I validateActiveTaskAuthorization := by
  refine triple_andThen (R := fun _ w _ => F w) (triple_read fun _ _ hw => hw) fun free => ?_
  split
  · exact keepsOr_ret weaken _
  · exact keepsOr_decision weaken helapse

theorem keepsOr_authorizedSession (hmark : ∀ w, F w → F w.markActivity) : KeepsOr F I authorizedSession := by
  refine triple_andThen (R := fun _ w _ => F w) (triple_read fun _ _ hw => hw) fun expired => ?_
  split
  · exact triple_andThen (R := fun _ w _ => I w) (fun w script hw => keeps_stopCore hI w script (weaken w hw)) fun _ =>
      triple_update fun w _ hw => hI.invalidate _ (hI.interrupt w hw)
  · exact keepsOr_tryThen (keepsOr_validateActiveTaskAuthorization weaken helapse) fun _ =>
      keepsOr_tryThen (keepsOr_ensureSessionNotInterrupted hI weaken helapse) fun _ => keepsOr_update fun w hw => hmark w hw

theorem keepsOr_authorize (hmark : ∀ w, F w → F w.markActivity) (hoperated : ∀ w, F w → F (w.note .operated))
    (call : WindowCall) : KeepsOr F I (authorize call) := by
  unfold authorize
  split
  · exact keepsOr_ret weaken _
  · refine keepsOr_tryThen ?_ fun _ => keepsOr_update fun w hw => hoperated w hw
    split
    · exact keepsOr_ret weaken _
    · exact keepsOr_authorizedSession hI weaken helapse hmark

end Through

theorem keeps_refreshState : Keeps I refreshState := by
  refine keeps_andThen (keeps_refreshInputReadiness hI) fun _ =>
    keeps_andThen (keeps_validateActiveTaskAuthorization hI) fun result => ?_
  cases result with
  | ok _ => exact keeps_andThen (keeps_probeTarget hI) fun _ => keeps_ret _
  | error error =>
    refine keeps_andThen (keeps_invalidate hI) fun _ => keeps_andThen keeps_read fun interrupted => ?_
    split
    · exact keeps_ret _
    · exact keeps_andThen (keeps_modify hI.interrupt) fun _ => keeps_stopCore hI

theorem keeps_stopControl : Keeps I stopControl := by
  refine keeps_andThen keeps_read fun interrupted => ?_
  split
  · exact keeps_ret _
  · exact keeps_andThen (keeps_modify hI.interrupt) fun _ => keeps_andThen (keeps_stopCore hI) fun _ =>
      keeps_andThen (keeps_invalidate hI) fun _ => keeps_ret _

end

end Window
end DccCua
