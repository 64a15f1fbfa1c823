import DccCua.Theorems.EvidenceRuns

/-! # The idle time of a session

When a session was last active does not depend on what it retains. A handler leaves it alone, and so does every program
between the requests; the check of the authorization and the end of a request mark the activity. So a session that
was found idle for too long stays so, as long as nothing else marks its activity. -/

namespace DccCua

open Checks Runs Script

variable {env : WindowEnv}

namespace Window

/-- An invariant that does not look at what is retained of the browser, nor at what has happened. -/
structure Unretained (I : Window → Prop) : Prop extends Stable I where
  browser : ∀ (w : Window) browser takenAt, I w → I { w with host := { w.host with browser := browser, takenAt := takenAt } }
  bound : ∀ w, I w → I (w.synchronizeActionEvidenceEpochWith .browserSnapshot)
  retained : ∀ (w : Window) observation takenAt, I w →
    I { w with host := { w.host with extensionObservation := observation, takenAt := takenAt } }
  noted : ∀ w moment, I w → I (w.note moment)

section
variable {I : Window → Prop} (hI : Unretained I)
include hI

theorem keeps_callBrowserTool (name : String) (args : Json) (snapshotId : Option String) :
    Keeps I (BrowserSession.callBrowserTool name args snapshotId) :=
  keeps_andThen (keeps_update fun w hw => hI.noted _ _ (hI.browser w _ w.host.takenAt hw)) fun _ => keeps_coreCall hI.toStable

theorem keeps_receive (f : Json → BrowserSession → Except ComputerUseError BrowserSession) (response : Json) :
    Keeps I (BrowserSession.receive f response) := by
  refine keeps_update fun w hw => ?_
  split
  · exact hw
  · exact hI.browser w _ _ hw

omit hI in
theorem keeps_browserCheck {α : Type} (f : BrowserSession → Except ComputerUseError α) :
    Keeps I (BrowserSession.check f) := keeps_read

theorem keeps_browserAttempt {call : CoreProg} (h : Keeps I call) : Keeps I (browserAttempt call) :=
  keeps_andThen (keeps_finished hI.toStable h) fun _ => keeps_tryThen (keeps_lift _) fun value =>
    keeps_withImages hI.toStable value

theorem keeps_browserSnapshot (request : BrowserSnapshotRequest) : Keeps I (browserSnapshot env request) := by
  refine keeps_andThen (keeps_tryThen (keeps_browserCheck _) fun a => ?_) fun result => keeps_tryThen (keeps_update fun w hw => ?_)
    fun value => keeps_withImages hI.toStable value
  · dsimp only
    split
    · exact keeps_tryThen (keeps_browserCheck _) fun _ => keeps_tryThen (keeps_callBrowserTool hI _ _ _) fun response =>
        keeps_receive hI _ response
    · exact keeps_tryThen (keeps_browserCheck _) fun _ => keeps_tryThen (keeps_callBrowserTool hI _ _ _) fun response =>
        keeps_receive hI _ response
  · unfold finishBrowserSnapshotAttempt
    cases result with
    | error error =>
      exact keep_finishObservationSensitiveAttempt hI.toStable (.error error : Except ComputerUseError Json) (hI.discard w hw)
    | ok response =>
      dsimp only
      split
      · split
        · exact hI.discard w hw
        · exact hI.bound _ (hI.noted _ _ hw)
      · exact hI.synchronize _ (hI.discard w hw)

theorem keeps_mutate (name targetId tabId snapshotId : String) {args : CoreProg} (h : Keeps I args) :
    Keeps I (BrowserSession.mutate name targetId tabId snapshotId args) :=
  keeps_tryThen (keeps_browserCheck _) fun _ => keeps_tryThen h fun _ => keeps_callBrowserTool hI _ _ _

theorem keeps_requireCurrentBrowserEvidenceEpoch :
    Keeps I (Prog.update requireCurrentBrowserEvidenceEpoch : WindowProg Unit) := by
  refine keeps_update fun w hw => ?_
  have hsynchronized := hI.synchronize w hw
  unfold requireCurrentBrowserEvidenceEpoch
  dsimp only
  split
  · exact hI.noted _ _ hsynchronized
  · exact hsynchronized

theorem keeps_browserMutation {granted : WindowProg Unit} {mutation : WindowProg Json} (hgranted : Keeps I granted)
    (h : Keeps I mutation) : Keeps I (browserMutation granted mutation) :=
  keeps_tryThen hgranted fun _ => keeps_tryThen (keeps_requireCurrentBrowserEvidenceEpoch hI) fun _ =>
    keeps_tryThen (keeps_check _) fun _ => h

theorem keeps_checkedPaths {checked : Except ComputerUseError Unit} (args : Json → Json) :
    Keeps I ((Prog.ret checked).tryThen fun _ => BrowserSession.validatePaths.tryThen fun paths =>
      Prog.ret (.ok (args paths)) : CoreProg) :=
  keeps_tryThen (keeps_ret _) fun _ => keeps_tryThen (keeps_asking hI.elapse _) fun _ => keeps_ret _

theorem keeps_browserType (request : BrowserTypeRequest) : Keeps I (browserType env request) := by
  refine keeps_browserMutation hI (keeps_permitted _ _) <|
    keeps_tryThen (keeps_resolveBrowserTypeRequest hI.elapse request) fun text => ?_
  cases text with
  | some text => exact keeps_browserAttempt hI (keeps_mutate hI _ _ _ _ (keeps_ret _))
  | none => exact keeps_ret _

theorem keeps_browserNavigate (request : BrowserNavigateRequest) : Keeps I (browserNavigate env request) := by
  refine keeps_tryThen (keeps_permitted _ _) fun _ => keeps_tryThen (keeps_check _) fun _ => keeps_browserAttempt hI ?_
  exact keeps_tryThen (keeps_browserCheck _) fun _ => keeps_callBrowserTool hI _ _ _

theorem keeps_browserDialog (request : BrowserDialogRequest) : Keeps I (browserDialog request) := by
  refine keeps_tryThen (keeps_permitted _ _) fun _ => keeps_tryThen (keeps_check _) fun _ => keeps_browserAttempt hI ?_
  exact keeps_tryThen (keeps_browserCheck _) fun _ => keeps_callBrowserTool hI _ _ _

theorem keeps_browserPrepare (request : BrowserPrepareRequest) : Keeps I (browserPrepare request) := by
  refine keeps_tryThen (keeps_permitted _ _) fun _ => keeps_browserAttempt hI ?_
  exact keeps_tryThen (keeps_browserCheck _) fun _ => keeps_callBrowserTool hI _ _ _

theorem keeps_browserExtensionCall (request : BrowserExtension.BrowserExtensionCall) :
    Keeps I (browserExtensionCall env request) := by
  have hstable := hI.toStable
  refine keeps_tryThen (keeps_check _) fun _ => keeps_tryThen (keeps_decision hstable) fun _ => keeps_tryThen ?_ fun _ =>
    keeps_tryThen (keeps_invalidate hstable) fun _ => keeps_tryThen (keeps_answer hstable) fun response => ?_
  · split
    · exact keeps_ret _
    · refine keeps_orInvalidate hstable <| keeps_tryThen (keeps_andThen (keeps_coreCall hstable) fun _ => keeps_lift _)
        fun state => keeps_tryThen (keeps_observeState hstable state) fun _ =>
          keeps_andThen (keeps_readinessSample hstable) fun readiness => ?_
      exact keeps_tryThen (keeps_modify fun _ hw => keep_observeInputReadiness hstable readiness hw) fun _ =>
        keeps_tryThen (keeps_check _) fun _ => keeps_tryThen (keeps_requireCurrentBrowserEvidenceEpoch hI) fun _ =>
          keeps_tryThen keeps_read fun _ => keeps_decision hstable
  · unfold finishExtensionCall
    split
    · refine keeps_update fun w hw => ?_
      split
      · exact hw
      · exact hI.retained _ _ _ (hI.bound _ (hI.noted _ _ hw))
    · exact keeps_tryThen (keeps_invalidate hstable) fun _ => keeps_ret _

/-- Every handler keeps what does not look at the browser. -/
theorem keeps_serve_unretained (call : WindowCall) : Keeps I (serve env call) := by
  cases call with
  | browserSnapshot request => exact keeps_browserSnapshot hI request
  | browserPrepare request => exact keeps_browserPrepare hI request
  | browserNavigate request => exact keeps_browserNavigate hI request
  | browserDialog request => exact keeps_browserDialog hI request
  | browserClick request | browserPointer request =>
    exact keeps_browserMutation hI (keeps_permitted _ _) (keeps_browserAttempt hI (keeps_mutate hI _ _ _ _ (keeps_ret _)))
  | browserType request => exact keeps_browserType hI request
  | browserSetInputFiles request | browserDownload request =>
    exact keeps_browserMutation hI (keeps_permitted _ _)
      (keeps_browserAttempt hI (keeps_mutate hI _ _ _ _ (keeps_checkedPaths hI _)))
  | browserExtensionCall request => exact keeps_browserExtensionCall hI request
  | _ => exact keeps_serve hI.toStable (fun w hw => hI.noted w .operated hw) rfl

end
/-! ### Activity -/

def operations : List WindowMoment → Nat
  | [] => 0
  | .operated :: earlier => operations earlier + 1
  | _ :: earlier => operations earlier

/-- The last activity is not in the future. -/
def Timed (w : Window) : Prop := w.host.lastActivity ≤ w.now

theorem timed_synchronizeWith {w : Window} (publication : HostEvidencePublication) (hw : Timed w) :
    Timed (w.synchronizeActionEvidenceEpochWith publication) := by
  unfold synchronizeActionEvidenceEpochWith
  dsimp only
  split <;> split <;> first | exact hw | (split <;> exact hw)

theorem timed_unretained : Unretained Timed where
  elapse w ms hw := Nat.le_trans hw (Nat.le_add_right w.now ms)
  advance w n hw := by
    unfold Window.advance
    split
    · exact hw
    · exact hw
  synchronize _ hw := timed_synchronizeWith .none hw
  invalidate _ hw := hw
  discard _ hw := hw
  clearNative _ hw := hw
  record _ _ _ hw := hw
  events _ _ hw := hw
  interrupt _ hw := hw
  browser _ _ _ hw := hw
  bound _ hw := timed_synchronizeWith .browserSnapshot hw
  retained _ _ _ hw := hw
  noted _ _ hw := hw

theorem keeps_handleRequest_timed (env : WindowEnv) (request : WindowRequest) : Keeps Timed (handleRequest env request) :=
  keeps_tryThen (keeps_check _) fun _ =>
    keeps_tryThen (keeps_authorize timed_unretained.toStable (fun _ _ => Nat.le_refl _) (fun _ hw => hw) request.call) fun _ =>
      keeps_serve_unretained timed_unretained request.call

/-- The clock has gone on, and nothing has been marked or let through since `w`. -/
structure Untouched (w w' : Window) : Prop where
  activity : w'.host.lastActivity = w.host.lastActivity
  timeout : w'.host.idleTimeout = w.host.idleTimeout
  operations : Window.operations w'.moments = Window.operations w.moments
  later : w.now ≤ w'.now

theorem Untouched.refl (w : Window) : Untouched w w := ⟨rfl, rfl, rfl, Nat.le_refl _⟩

theorem Untouched.synchronizeWith {w w' : Window} (h : Untouched w w') (publication : HostEvidencePublication) :
    Untouched w (w'.synchronizeActionEvidenceEpochWith publication) := by
  obtain ⟨hactivity, htimeout, hoperations, hlater⟩ := h
  unfold synchronizeActionEvidenceEpochWith
  dsimp only
  split <;> split <;> first
    | exact ⟨hactivity, htimeout, hoperations, hlater⟩
    | (split <;> exact ⟨hactivity, htimeout, hoperations, hlater⟩)

/-- What stays untouched is stable. -/
theorem untouched_stable (w : Window) : Stable (Untouched w) where
  elapse w' ms h := ⟨h.activity, h.timeout, h.operations, Nat.le_trans h.later (Nat.le_add_right w'.now ms)⟩
  advance w' n h := by
    unfold Window.advance
    split
    · exact h
    · exact ⟨h.activity, h.timeout, h.operations, h.later⟩
  synchronize _ h := h.synchronizeWith .none
  invalidate _ h := ⟨h.activity, h.timeout, h.operations, h.later⟩
  discard _ h := ⟨h.activity, h.timeout, h.operations, h.later⟩
  clearNative _ h := ⟨h.activity, h.timeout, h.operations, h.later⟩
  record _ _ _ h := ⟨h.activity, h.timeout, h.operations, h.later⟩
  events _ _ h := ⟨h.activity, h.timeout, h.operations, h.later⟩
  interrupt _ h := ⟨h.activity, h.timeout, h.operations, h.later⟩

/-- A session that is idle for too long stays so while it is untouched. -/
theorem Untouched.expired {w w' : Window} (h : Untouched w w') (hexpired : w.isIdleExpired = true) :
    w'.isIdleExpired = true := by
  unfold isIdleExpired at hexpired ⊢
  rw [h.activity, h.timeout]
  exact decide_eq_true (Nat.le_trans (of_decide_eq_true hexpired) (Nat.sub_le_sub_right h.later _))

/-! ### Expired sessions -/

/-- The request was refused or ended with an error, and the session is stopped. -/
def Ended (w : Window) (result : Except RequestError Json) (w' : Window) : Prop :=
  Untouched w w' ∧ w'.host.interrupted = true ∧ ∃ error, result = .error error

/-- The check of a session that is idle for too long stops it. -/
theorem authorizedSession_expired {w : Window} :
    Triple (fun w' _ => Untouched w w' ∧ w'.isIdleExpired = true) authorizedSession
      (orError (fun _ _ _ => False) fun _ w' _ => Untouched w w' ∧ w'.host.interrupted = true) (Untouched w) := by
  have hstable := untouched_stable w
  refine triple_andThen (R := fun expired w' _ => Untouched w w' ∧ expired = true) (triple_read fun w' _ hw => hw) fun expired => ?_
  cases expired with
  | false => exact fun w' _ hw => by cases hw.2
  | true =>
    refine triple_andThen (R := fun _ w' _ => Untouched w w') (fun w' script hw => keeps_stopCore hstable w' script hw.1) fun _ => ?_
    exact triple_update fun w' _ hw => ⟨hstable.invalidate _ (hstable.interrupt w' hw), rfl⟩

theorem ensureSessionNotInterrupted_stopped (w : Window) :
    Triple (fun w' _ => Untouched w w' ∧ w'.host.interrupted = true) ensureSessionNotInterrupted
      (fun result w' _ => ∃ error, result = .error error ∧ Ended w (.error error) w') (Untouched w) := by
  refine triple_tryThen (R := fun _ _ _ => False) (triple_read fun w' rest hw => ?_) fun _ => fun _ _ h => h.elim
  dsimp only
  rw [hw.2]
  exact ⟨_, rfl, hw.1, hw.2, _, rfl⟩

/-- A wait for events on a stopped session ends at its first round. -/
theorem pollSessionEvents_stopped {w : Window} (afterSequence : Nat) :
    Triple (fun w' _ => Untouched w w' ∧ w'.host.interrupted = true) (pollSessionEvents afterSequence)
      (fun result w' _ => Ended w result w') (Untouched w) := by
  refine triple_roundsUntil_once ?_
  refine triple_andThen (R := fun _ w' _ => Untouched w w' ∧ w'.host.interrupted = true) ?_ fun _ => ?_
  · exact triple_cut (keeps_asking (I := fun w' => Untouched w w' ∧ w'.host.interrupted = true)
      (fun w' ms hw => ⟨(untouched_stable w).elapse w' ms hw.1, hw.2⟩) _) fun _ hw => hw.1
  refine triple_andThen (R := fun result w' _ => ∃ error, result = .error error ∧ Ended w (.error error) w')
    (ensureSessionNotInterrupted_stopped w) fun result => ?_
  cases result with
  | error error =>
    refine triple_ret fun w' _ hw => ?_
    obtain ⟨error', herror, hended⟩ := hw
    cases herror
    exact ⟨_, rfl, hended⟩
  | ok _ =>
    intro w' _ hw
    obtain ⟨error', herror, -⟩ := hw
    cases herror

/-- A request that an expired session may meet: no reading of its status, and, unless the session is stopped, no
    request that is refused before the idle time is checked. -/
def Restrained (host : HostSession) (request : WindowRequest) : Prop :=
  request.call ≠ .getInputState ∧ request.call ≠ .sessionHealth ∧
    (host.interrupted = true ∨ (request.call.readsStatus = false ∧ host.admits request = .ok ()))

theorem handleRequest_expired (env : WindowEnv) {w : Window} {request : WindowRequest} (hexpired : w.isIdleExpired = true)
    (hrestrained : Restrained w.host request) :
    Triple (fun w' _ => w' = w) (handleRequest env request) (fun result w' _ => Ended w result w') (Untouched w) := by
  obtain ⟨hinput, hhealth, hcase⟩ := hrestrained
  refine triple_tryThen (R := fun _ w' _ => w' = w ∧ w.host.admits request = .ok ()) (triple_read fun w' _ hw => ?_) fun _ => ?_
  · subst hw
    show orError _ _ (w'.host.admits request) _ _
    cases hadmits : w'.host.admits request with
    | ok _ => exact ⟨rfl, rfl⟩
    | error error =>
      have hinterrupted : w'.host.interrupted = true := by
        refine hcase.resolve_right fun h => ?_
        rw [hadmits] at h
        cases h.2
      exact ⟨Untouched.refl w', hinterrupted, error, rfl⟩
  · by_cases hreads : request.call.readsStatus = true
    · have hinterrupted := hcase.resolve_right fun h => absurd (hreads.symm.trans h.1) (by decide)
      obtain ⟨afterSequence, hcall⟩ : ∃ afterSequence, request.call = .pollSessionEvents afterSequence := by
        cases hcall : request.call <;> rw [hcall] at hreads <;> first
          | exact ⟨_, rfl⟩
          | exact absurd hcall hinput
          | exact absurd hcall hhealth
          | cases hreads
      rw [hcall]
      refine triple_tryThen (R := fun _ w' _ => Untouched w w' ∧ w'.host.interrupted = true) (triple_ret fun w' _ hw => ?_) fun _ =>
        pollSessionEvents_stopped afterSequence
      rw [hw.1]
      exact ⟨Untouched.refl w, hinterrupted⟩
    · have hauthorize : authorize request.call = authorizedSession.tryThen fun _ => operate := by
        unfold authorize
        split
        · rename_i hcall
          rw [hcall] at hreads
          exact absurd rfl hreads
        · rw [if_neg hreads]
      rw [hauthorize]
      refine triple_tryThen (R := fun _ _ _ => False) ?_ fun _ => fun _ _ h => h.elim
      refine triple_tryThen (R := fun _ _ _ => False) ?_ fun _ => fun _ _ h => h.elim
      refine triple_weaken authorizedSession_expired (fun w' _ hw => ?_) fun result w' _ hw => ?_
      · rw [hw.1]
        exact ⟨Untouched.refl w, hexpired⟩
      · cases result with
        | ok _ => exact hw
        | error error => exact ⟨hw.1, hw.2, error, rfl⟩

/-! ### Refused requests -/

/-- A session without evidence of the browser. -/
def WithoutBrowserEvidence (host : HostSession) : Prop :=
  host.extensionObservation = none ∧ host.browserEvidenceEpoch = none ∧ host.browser.clearSnapshot = host.browser

theorem synchronize_settled {w : Window} (h : w.host.synchronizedActionEvidenceEpoch = w.host.evidenceEpoch) :
    w.synchronizeActionEvidenceEpoch = w := by
  unfold synchronizeActionEvidenceEpoch synchronizeActionEvidenceEpochWith evidenceEpochSyncPlan
  simp [h]

theorem synchronize_noticed (w : Window) :
    w.synchronizeActionEvidenceEpoch.host.synchronizedActionEvidenceEpoch = w.synchronizeActionEvidenceEpoch.host.evidenceEpoch := by
  have h := congrArg Evidence.synchronized (evidence_synchronize w)
  have h' := congrArg Evidence.epoch (evidence_synchronize w)
  rw [Evidence.synchronize_synchronized] at h
  rw [Evidence.synchronize_epoch] at h'
  exact h.trans h'.symm

theorem synchronize_frame (w : Window) :
    w.synchronizeActionEvidenceEpoch.now = w.now ∧
    w.synchronizeActionEvidenceEpoch.host.lastActivity = w.host.lastActivity ∧
    w.synchronizeActionEvidenceEpoch.host.interrupted = w.host.interrupted ∧
    w.synchronizeActionEvidenceEpoch.host.taskGrantId = w.host.taskGrantId ∧
    w.synchronizeActionEvidenceEpoch.host.capability = w.host.capability := by
  unfold synchronizeActionEvidenceEpoch synchronizeActionEvidenceEpochWith
  dsimp only
  split <;> split <;> first | exact ⟨rfl, rfl, rfl, rfl, rfl⟩ | (split <;> exact ⟨rfl, rfl, rfl, rfl, rfl⟩)

/-- A request that presents something else is refused before anything is done. -/
theorem handleRequest_refused (env : WindowEnv) {w : Window} {request : WindowRequest} (script : List WindowEvent)
    (h : w.host.presents request.taskGrantId request.windowCapability = false) :
    ∃ error, handleRequest env request w script = .done (.error error) w script := by
  have hadmits : w.host.admits request = .error (.protocol "session grant or capability mismatch") := by
    unfold HostSession.admits
    rw [h]
    rfl
  let f : Window → Except RequestError Unit := fun w => w.host.admits request
  have hf : f w = .error (.protocol "session grant or capability mismatch") := hadmits
  exact ⟨_, Prog.tryThen_read_error hf script⟩

/-- The end of a request that was refused, on a session with every change of the epoch noticed. -/
theorem finish_refused {w : Window} (publication : HostEvidencePublication) (error : RequestError)
    (h : w.host.synchronizedActionEvidenceEpoch = w.host.evidenceEpoch) :
    w.finishWindowEvidenceRequest publication (.error error) =
      (let w' := if w.host.interrupted then w else w.markActivity
       if publication ≠ .none then w'.discardBrowserEvidence else w') := by
  unfold finishWindowEvidenceRequest
  have hsync : (if w.host.interrupted then w else w.markActivity).synchronizeActionEvidenceEpoch =
      (if w.host.interrupted then w else w.markActivity) := by
    refine synchronize_settled ?_
    split
    · exact h
    · exact h
  dsimp only
  rw [hsync]

theorem discard_host_eq {w : Window} (h : WithoutBrowserEvidence w.host) : w.discardBrowserEvidence.host = w.host := by
  obtain ⟨hextension, hepoch, hbrowser⟩ := h
  obtain ⟨host, now, moments⟩ := w
  cases host
  simp only [discardBrowserEvidence, note] at hextension hepoch hbrowser ⊢
  rw [hextension, hepoch, hbrowser]

theorem markActivity_host_eq {w : Window} (h : w.host.lastActivity = w.now) : w.markActivity.host = w.host := by
  obtain ⟨host, now, moments⟩ := w
  cases host
  dsimp only [markActivity] at h ⊢
  rw [h]

end Window

namespace WindowSlot

open Window

/-- A request that presents something else does no harm to the session: there is no activity to mark, and no evidence of
    the browser that a refused snapshot would discard. -/
def Unharmed (s : WindowSlot) (request : WindowRequest) : Prop :=
  (s.window.host.interrupted = true ∨ s.window.host.lastActivity = s.window.now) ∧
    (request.call.publication = .none ∨ WithoutBrowserEvidence s.prepared.host)

variable {s : WindowSlot}

theorem prepared_presents (s : WindowSlot) (request : WindowRequest) :
    s.prepared.host.presents request.taskGrantId request.windowCapability = s.presents request := by
  obtain ⟨-, -, -, hgrant, hcapability⟩ := synchronize_frame s.window
  unfold WindowSlot.prepared WindowSlot.presents HostSession.presents
  rw [hgrant, hcapability]

/-- What a refused request makes of the session. -/
theorem step_refused (env : WindowEnv) {request : WindowRequest} (script : List WindowEvent) (hpresent : s.present = true)
    (hrefused : s.presents request = false) :
    ∃ error, (s.step env (.request request script)).2 =
      ⟨s.prepared.finishWindowEvidenceRequest request.call.publication (.error error), true, s.presentedAt⟩ := by
  obtain ⟨error, hrun⟩ := handleRequest_refused env (w := s.prepared) script ((prepared_presents s request).trans hrefused)
  refine ⟨error, ?_⟩
  unfold step
  dsimp only
  rw [if_pos hpresent]
  unfold handle
  rw [hrun]
  dsimp only [finish]
  rw [hrefused, hpresent]
  split
  · rename_i h
    cases h
  · rfl

/-- A refused request leaves the session as it was exactly when it does no harm to it. -/
theorem step_refused_iff {request : WindowRequest} {script : List WindowEvent} (hpresent : s.present = true)
    (hrefused : s.presents request = false) :
    (s.step env (.request request script)).2.window.host = s.prepared.host ↔ Unharmed s request := by
  obtain ⟨error, hstep⟩ := step_refused env script hpresent hrefused
  obtain ⟨hnow, hactivity, hinterrupted, -, -⟩ := synchronize_frame s.window
  rw [hstep]
  dsimp only
  rw [finish_refused (w := s.prepared) _ _ (synchronize_noticed s.window)]
  unfold Unharmed
  rw [← hnow, ← hactivity, ← hinterrupted]
  show _ ↔ (s.prepared.host.interrupted = true ∨ s.prepared.host.lastActivity = s.prepared.now) ∧ _
  constructor
  · intro hsame
    refine ⟨?_, ?_⟩
    · by_cases hint : s.prepared.host.interrupted = true
      · exact Or.inl hint
      · have hmarked := congrArg HostSession.lastActivity hsame
        rw [if_neg hint] at hmarked
        dsimp only at hmarked
        split at hmarked
        · exact Or.inr hmarked.symm
        · exact Or.inr hmarked.symm
    · by_cases hpublication : request.call.publication = .none
      · exact Or.inl hpublication
      · rw [if_pos hpublication] at hsame
        refine Or.inr ⟨?_, ?_, ?_⟩
        · exact (congrArg HostSession.extensionObservation hsame).symm
        · exact (congrArg HostSession.browserEvidenceEpoch hsame).symm
        · have hbrowser := congrArg HostSession.browser hsame
          dsimp only [discardBrowserEvidence, note] at hbrowser
          split at hbrowser
          · exact hbrowser
          · exact hbrowser
  · rintro ⟨hactive, hevidence⟩
    have hmarked : (if s.prepared.host.interrupted then s.prepared else s.prepared.markActivity).host = s.prepared.host := by
      split
      · rfl
      · rename_i hint
        exact markActivity_host_eq (hactive.resolve_left hint)
    dsimp only
    split
    · rename_i hpublication
      have hwithout := hevidence.resolve_left hpublication
      rw [discard_host_eq (hmarked.symm ▸ hwithout)]
      exact hmarked
    · exact hmarked

/-! ### Runs -/

/-- What a step does no harm with: a request of somebody else that finds nothing to mark or to discard, and on an expired
    session a request that does not read its status or miss the check of the idle time. -/
def Restful (s : WindowSlot) (input : WindowInput) : Prop :=
  ∀ request script, input = .request request script → s.present = true →
    (s.presents request = false → Unharmed s request) ∧
    (s.presents request = true → s.window.isIdleExpired = true → Restrained s.prepared.host request)

/-- A session that has gone, or that is idle for too long. -/
def Expired (s : WindowSlot) : Prop := s.present = true → s.window.isIdleExpired = true

/-- The last activity is no later than the last request that presented the capability. -/
def Dated (s : WindowSlot) : Prop :=
  s.present = true → s.window.host.lastActivity ≤ s.presentedAt ∧ s.window.host.lastActivity ≤ s.window.now

theorem prepared_untouched (s : WindowSlot) : Untouched s.window s.prepared := (Untouched.refl s.window).synchronizeWith .none

theorem prepared_timed (h : Timed s.window) : Timed s.prepared := timed_synchronizeWith .none h

/-- The end of a request that marks nothing. -/
theorem finish_untouched {w w' : Window} (h : Untouched w w')
    (hquiet : w'.host.interrupted = true ∨ w'.host.lastActivity = w'.now) (publication : HostEvidencePublication)
    (error : RequestError) : Untouched w (w'.finishWindowEvidenceRequest publication (.error error)) := by
  have hmarked : Untouched w (if w'.host.interrupted then w' else w'.markActivity) := by
    split
    · exact h
    · rename_i hinterrupted
      exact ⟨(hquiet.resolve_left hinterrupted).symm.trans h.activity, h.timeout, h.operations, h.later⟩
  have hsync := hmarked.synchronizeWith .none
  unfold finishWindowEvidenceRequest
  dsimp only
  split
  · exact (untouched_stable w).discard _ hsync
  · exact hsync

theorem settle_untouched {p : Prog Window WindowEvent Unit} (hp : Keeps (Untouched s.window) p) (script : List WindowEvent) :
    Untouched s.window (s.settle (p s.window script)).window := by
  have hstate := hp.state (Untouched.refl s.window) script
  unfold settle
  cases hrun : p s.window script with
  | done _ w rest =>
    rw [hrun] at hstate
    exact hstate
  | cut w =>
    rw [hrun] at hstate
    exact hstate

/-- No request of the owner of the session. -/
def Foreign (s : WindowSlot) (input : WindowInput) : Prop :=
  ∀ request script, input = .request request script → s.present = true → s.presents request = false

theorem settle_presentedAt (s : WindowSlot) (ran : Ran Window WindowEvent Unit) : (s.settle ran).presentedAt = s.presentedAt := by
  cases ran <;> rfl

theorem settle_present {s : WindowSlot} {ran : Ran Window WindowEvent Unit} (h : (s.settle ran).present = true) :
    s.present = true := by
  cases ran with
  | done _ _ _ => exact h
  | cut _ => cases h

/-- A request of the owner of an expired session is refused, and leaves it expired. -/
theorem handle_expired {request : WindowRequest} {script : List WindowEvent} (hexpired : s.window.isIdleExpired = true)
    (hrestrained : Restrained s.prepared.host request) : Untouched s.window (s.handle env request script).2.window := by
  have hprepared := prepared_untouched s
  have htrans : ∀ {w : Window}, Untouched s.prepared w → Untouched s.window w := fun h =>
    ⟨h.activity.trans hprepared.activity, h.timeout.trans hprepared.timeout, h.operations.trans hprepared.operations,
      Nat.le_trans hprepared.later h.later⟩
  have hran := handleRequest_expired env (hprepared.expired hexpired) hrestrained s.prepared script rfl
  unfold handle
  cases hrun : handleRequest env request s.prepared script with
  | done result w rest =>
    rw [hrun] at hran
    obtain ⟨huntouched, hinterrupted, error, rfl⟩ := hran
    dsimp only [finish]
    split
    · rename_i h
      cases h
    · exact finish_untouched (htrans huntouched) (Or.inl hinterrupted) request.call.publication error
  | cut w =>
    rw [hrun] at hran
    exact htrans hran

/-- A restful step leaves the session untouched, unless it is a request of the owner on a session that is not expired. -/
theorem step_untouched (env : WindowEnv) {input : WindowInput} (hrestful : Restful s input) (hidle : Expired s ∨ Foreign s input) :
    Untouched s.window (s.step env input).2.window := by
  have hself := Untouched.refl s.window
  have hstable := untouched_stable s.window
  by_cases hpresent : s.present = true
  · cases input with
    | elapsed ms => exact hstable.elapse _ ms hself
    | request request script =>
      by_cases hpresents : s.presents request = true
      · have hexpired : s.window.isIdleExpired = true := by
          rcases hidle with hexpired | hforeign
          · exact hexpired hpresent
          · rw [hforeign request script rfl hpresent] at hpresents
            cases hpresents
        unfold step
        dsimp only
        rw [if_pos hpresent]
        exact handle_expired hexpired ((hrestful request script rfl hpresent).2 hpresents hexpired)
      · have hrefused : s.presents request = false := by simpa using hpresents
        obtain ⟨error, hstep⟩ := step_refused env script hpresent hrefused
        obtain ⟨hnow, hactivity, hinterrupted, -, -⟩ := synchronize_frame s.window
        have hquiet := ((hrestful request script rfl hpresent).1 hrefused).1
        rw [hstep]
        refine finish_untouched (prepared_untouched s) ?_ _ error
        show s.window.synchronizeActionEvidenceEpoch.host.interrupted = true ∨
          s.window.synchronizeActionEvidenceEpoch.host.lastActivity = s.window.synchronizeActionEvidenceEpoch.now
        rw [hnow, hactivity, hinterrupted]
        exact hquiet
    | unrouted _ _ | stopSession =>
      unfold step
      dsimp only
      rw [if_pos hpresent]
      exact hself
    | reapIdle =>
      unfold step
      dsimp only
      rw [if_pos hpresent]
      dsimp only [reapIdle]
      split
      · exact hstable.invalidate _ hself
      · exact hself
    | refreshState script =>
      unfold step
      dsimp only
      rw [if_pos hpresent]
      exact settle_untouched (keeps_refreshState hstable) script
    | interrupted script =>
      unfold step
      dsimp only
      rw [if_pos hpresent]
      exact settle_untouched (keeps_stopControl hstable) script
  · cases input with
    | elapsed ms => exact hstable.elapse _ ms hself
    | request _ _ | unrouted _ _ | stopSession | reapIdle | refreshState _ | interrupted _ =>
      unfold step
      dsimp only
      rw [if_neg hpresent]
      exact hself

theorem step_present {input : WindowInput} (h : (s.step env input).2.present = true) : s.present = true := by
  by_cases hpresent : s.present = true
  · exact hpresent
  · cases input with
    | elapsed ms => exact h
    | request _ _ | unrouted _ _ | stopSession | reapIdle | refreshState _ | interrupted _ =>
      unfold step at h
      dsimp only at h
      rw [if_neg hpresent] at h
      exact h

theorem step_presentedAt {input : WindowInput} (hforeign : Foreign s input) :
    (s.step env input).2.presentedAt = s.presentedAt := by
  by_cases hpresent : s.present = true
  · cases input with
    | request request script =>
      obtain ⟨error, hstep⟩ := step_refused env script hpresent (hforeign request script rfl hpresent)
      rw [hstep]
    | elapsed ms => rfl
    | unrouted _ _ | stopSession =>
      unfold step
      dsimp only
      rw [if_pos hpresent]
    | reapIdle =>
      unfold step
      dsimp only
      rw [if_pos hpresent]
      dsimp only [reapIdle]
      split
      · rfl
      · rfl
    | refreshState _ | interrupted _ =>
      unfold step
      dsimp only
      rw [if_pos hpresent]
      exact settle_presentedAt s _
  · cases input with
    | elapsed ms => rfl
    | request _ _ | unrouted _ _ | stopSession | reapIdle | refreshState _ | interrupted _ =>
      unfold step
      dsimp only
      rw [if_neg hpresent]

theorem step_expired {input : WindowInput} (hrestful : Restful s input) (h : Expired s) : Expired (s.step env input).2 :=
  fun hpresent => (step_untouched env hrestful (Or.inl h)).expired (h (step_present hpresent))

theorem finish_timed {w : Window} (publication : HostEvidencePublication) (result : Except RequestError Json) (h : Timed w) :
    Timed (w.finishWindowEvidenceRequest publication result) ∧ (w.finishWindowEvidenceRequest publication result).now = w.now := by
  have hmarked : Timed (if w.host.interrupted then w else w.markActivity) ∧
      (if w.host.interrupted then w else w.markActivity).now = w.now := by
    split
    · exact ⟨h, rfl⟩
    · exact ⟨Nat.le_refl _, rfl⟩
  have hnow : ∀ (w : Window) publication, (w.synchronizeActionEvidenceEpochWith publication).now = w.now := by
    intro w publication
    unfold synchronizeActionEvidenceEpochWith
    dsimp only
    split <;> split <;> first | rfl | (split <;> rfl)
  unfold finishWindowEvidenceRequest
  cases result with
  | ok _ => exact ⟨timed_synchronizeWith _ hmarked.1, (hnow _ _).trans hmarked.2⟩
  | error _ =>
    have hsync := timed_synchronizeWith .none hmarked.1
    have hsynced := (hnow (if w.host.interrupted then w else w.markActivity) .none).trans hmarked.2
    dsimp only
    split
    · exact ⟨hsync, hsynced⟩
    · exact ⟨hsync, hsynced⟩

/-- A request of the owner is the last one that presented the capability, and its end the last activity at most. -/
theorem handle_dated {request : WindowRequest} {script : List WindowEvent} (hpresents : s.presents request = true)
    (htimed : Timed s.window) : Dated (s.handle env request script).2 := by
  have hran := keeps_handleRequest_timed env request s.prepared script (prepared_timed htimed)
  unfold handle
  cases hrun : handleRequest env request s.prepared script with
  | done result w rest =>
    rw [hrun] at hran
    have hw : Timed w := hran
    intro hpresent
    rcases s.finish_cases request result w with hgone | hfinished
    · dsimp only at hpresent
      rw [hgone] at hpresent
      cases hpresent
    · obtain ⟨hfinal, hnow⟩ := finish_timed request.call.publication result hw
      have hpresentedAt : (s.finish request result w).presentedAt = w.now := by
        unfold finish
        dsimp only
        rw [hpresents]
        split
        · rfl
        · rfl
      dsimp only
      rw [hfinished, hpresentedAt]
      exact ⟨hnow ▸ hfinal, hfinal⟩
  | cut w => exact nofun

theorem step_dated {input : WindowInput} (hrestful : Restful s input) (h : Dated s) : Dated (s.step env input).2 := by
  by_cases hforeign : Foreign s input
  · intro hpresent
    obtain ⟨hactivity, htimed⟩ := h (step_present hpresent)
    have huntouched := step_untouched env hrestful (Or.inr hforeign)
    rw [step_presentedAt hforeign, huntouched.activity]
    exact ⟨hactivity, Nat.le_trans htimed huntouched.later⟩
  · obtain ⟨request, script, rfl, hpresent, hpresents⟩ : ∃ request script, input = .request request script ∧
        s.present = true ∧ s.presents request = true := by
      simpa [Foreign] using hforeign
    unfold step
    dsimp only
    rw [if_pos hpresent]
    exact handle_dated hpresents (h hpresent).2

theorem opened_dated (host : HostSession) (preauthorized : Option TrustedTaskAuthorizationLease) (now : Nat) :
    Dated (opened host preauthorized now) := fun _ => ⟨Nat.le_refl _, Nat.le_refl _⟩

/-- The idle time has elapsed since the last request that presented the capability. -/
def Elapsed (s : WindowSlot) : Prop := s.presentedAt + s.window.host.idleTimeout ≤ s.window.now

theorem Elapsed.expired (h : Elapsed s) (hdated : Dated s) : Expired s := by
  intro hpresent
  obtain ⟨hactivity, -⟩ := hdated hpresent
  unfold Elapsed at h
  exact decide_eq_true (by omega)

end WindowSlot

/-- A request that presents something else leaves the session as it was exactly when it finds no activity to mark and no
    evidence of the browser to discard. And in every run in which such requests do no harm, and in which no request of the
    owner to an expired session reads its status or misses the check of the idle time, no request is let through to the
    session any more once the idle time has elapsed. -/
theorem refused_requests_and_idle_sessions (env : WindowEnv) :
    (∀ (s : WindowSlot) request script, s.present = true → s.presents request = false →
      ((s.step env (.request request script)).2.window.host = s.prepared.host ↔ s.Unharmed request)) ∧
    ∀ host preauthorized now before later,
      let m := windowMachine env
      let opened := WindowSlot.opened host preauthorized now
      (∀ c ∈ m.trace opened (before ++ later), c.before.Restful c.input) → (m.final opened before).Elapsed →
      ∀ c ∈ m.trace (m.final opened before) later,
        Window.operations c.after.window.moments = Window.operations c.before.window.moments := by
  refine ⟨fun s request script hpresent hrefused => WindowSlot.step_refused_iff hpresent hrefused, ?_⟩
  intro host preauthorized now before later m opened hrestful helapsed c hc
  rw [Machine.trace_append] at hrestful
  have hdated : (m.final opened before).Dated := by
    have hhistory := Machine.inv_history (m := m) (fun s _ => s.Dated) (fun c => c.before.Restful c.input)
      (fun s input _ hs hok => WindowSlot.step_dated hok hs) (WindowSlot.opened_dated host preauthorized now) before
      fun c hc => hrestful c (List.mem_append_left _ hc)
    exact hhistory
  have hexpired : c.before.Expired :=
    Machine.inv_calls (m := m) (I := WindowSlot.Expired) (P := fun c => c.before.Restful c.input)
      (fun s input hs hok => WindowSlot.step_expired hok hs) later (helapsed.expired hdated)
      (fun c hc => hrestful c (List.mem_append_right _ hc)) c hc
  have hcalm := hrestful c (List.mem_append_right _ hc)
  rw [Machine.eq_call_of_mem hc]
  exact (WindowSlot.step_untouched env hcalm (Or.inl hexpired)).operations

/-- A request that presents another capability, shortly before the session expires. -/
def foreignRequest : WindowRequest := ⟨"grant", "other", .getSessionState, .ok ()⟩

/-- The idle time elapses after the last request of the owner, but the refused request has marked its activity. -/
def revivedRun : List WindowInput := [.elapsed 900, .request foreignRequest [], .elapsed 600]

/-- The session of that run is let through once more, though the idle time has elapsed. -/
theorem idle_session_operated :
    let m := windowMachine plainEnv
    let s := m.final (WindowSlot.opened (unleasedSession 1000) none 0) revivedRun
    s.presentedAt + s.window.host.idleTimeout ≤ s.window.now ∧
      Window.operations (m.step s (.request (presentedRequest .getSessionState) [.banner false none, .core 0 (.ok .null)])).2.window.moments ≠
        Window.operations s.window.moments := by
  decide

end DccCua
