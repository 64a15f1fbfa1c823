import DccCua.Theorems.BrowserEvidence

/-! # The evidence of a session over its runs

Every request starts with the evidence synchronized, and with what it was admitted for; whatever its handler does,
the evidence is sound where it ends. So it is sound in every state that a session reaches. -/

namespace DccCua

open Checks Runs Script

variable {env : WindowEnv} {scope : Option TrustedTaskAuthorizationBrowserScope}

namespace Window

/-! ### Admission -/

/-- The call was admitted under the browser scope of the session. -/
def Admitted (call : WindowCall) (w : Window) : Prop :=
  w.host.browserScope.isSome = true → w.host.enforceBrowserScope call = .ok ()

theorem admits_admitted {w : Window} {request : WindowRequest} (h : w.host.admits request = .ok ()) :
    Admitted request.call w := by
  intro hscope
  simp only [HostSession.admits, HostSession.enforceTaskAuthorizedMethod, bind_eq_ok] at h
  obtain ⟨_, -, _, h, -⟩ := h
  split at h
  · rename_i hmethod
    cases hcall : request.call <;> rw [hcall] at hmethod <;> first | rfl | cases hmethod
  · simp only [bind_eq_ok, onlyIf_eq_ok] at h
    obtain ⟨-, -, -, -, -, -, h⟩ := h
    exact h hscope

theorem admits_presents {w : Window} {request : WindowRequest} (h : w.host.admits request = .ok ()) :
    w.host.presents request.taskGrantId request.windowCapability = true := by
  simp only [HostSession.admits, bind_eq_ok, require_eq_ok] at h
  obtain ⟨-, hpresents, -⟩ := h
  exact hpresents

theorem admitted_scope {call : WindowCall} {w : Window} (hadmitted : Admitted call w) (hw : Sound env scope w)
    {s : TrustedTaskAuthorizationBrowserScope} (hs : scope = some s) :
    w.host.browserScope = some s ∧ w.host.enforceBrowserScope call = .ok () := by
  have hscope : w.host.browserScope = some s := hw.2.trans hs
  exact ⟨hscope, hadmitted (by rw [hscope]; rfl)⟩

theorem requireTarget_scoped {host : HostSession} {s : TrustedTaskAuthorizationBrowserScope} {targetId tabId : String}
    (hscope : host.browserScope = some s) (h : host.requireTaskAuthorizedBrowserTarget targetId tabId = .ok ()) :
    targetId = s.hostTargetId ∧ tabId = s.tabId := by
  simpa only [HostSession.requireTaskAuthorizedBrowserTarget, require_eq_ok, hscope, Option.all_some, Bool.and_eq_true,
    decide_eq_true_eq] using h

theorem snapshotScoped_of_admitted {request : BrowserSnapshotRequest} {w : Window} (hw : Sound env scope w)
    (hadmitted : Admitted (.browserSnapshot request) w) : SnapshotScoped scope request := by
  intro s hs
  obtain ⟨hscope, h⟩ := admitted_scope hadmitted hw hs
  dsimp only [HostSession.enforceBrowserScope] at h
  split at h
  · rename_i targetId tabId htarget htab
    obtain ⟨rfl, rfl⟩ := requireTarget_scoped hscope h
    exact ⟨htarget, htab⟩
  · cases h

theorem documentScoped_of_admitted {call : WindowCall} {targetId tabId snapshotId : String} {w : Window}
    (hw : Sound env scope w) (hadmitted : Admitted call w)
    (hcall : w.host.enforceBrowserScope call = w.host.requireTaskAuthorizedBrowserDocument targetId tabId snapshotId) :
    DocumentScoped scope targetId tabId snapshotId := by
  intro s hs
  obtain ⟨hscope, h⟩ := admitted_scope hadmitted hw hs
  rw [hcall] at h
  simp only [HostSession.requireTaskAuthorizedBrowserDocument, bind_eq_ok, require_eq_ok, hscope, Option.all_some,
    decide_eq_true_eq] at h
  obtain ⟨_, htarget, hdocument⟩ := h
  obtain ⟨rfl, rfl⟩ := requireTarget_scoped hscope htarget
  exact ⟨rfl, rfl, hdocument⟩

/-- A call that is admitted on the document of the scope only. -/
theorem onDocument_of_admitted {call : WindowCall} {targetId tabId : String} {w : Window} (hw : Sound env scope w)
    (hadmitted : Admitted call w)
    (hcall : w.host.enforceBrowserScope call = (do
      w.host.requireTaskAuthorizedBrowserTarget targetId tabId
      w.host.requireCurrentTaskAuthorizedBrowserDocument)) :
    OnDocument w ∧ ∀ s, scope = some s → targetId = s.hostTargetId ∧ tabId = s.tabId := by
  refine ⟨?_, fun s hs => ?_⟩
  · cases hscope : w.host.browserScope with
    | none => simp [OnDocument, HostSession.requireCurrentTaskAuthorizedBrowserDocument, hscope]
    | some s =>
      have h := hadmitted (by rw [hscope]; rfl)
      rw [hcall] at h
      simp only [bind_eq_ok] at h
      obtain ⟨-, -, hdocument⟩ := h
      exact hdocument
  · obtain ⟨hscope, h⟩ := admitted_scope hadmitted hw hs
    rw [hcall] at h
    simp only [bind_eq_ok] at h
    obtain ⟨_, htarget, -⟩ := h
    exact requireTarget_scoped hscope htarget

theorem prepare_of_admitted {request : BrowserPrepareRequest} {w : Window} (hw : Sound env scope w)
    (hadmitted : Admitted (.browserPrepare request) w) : scope = none := by
  cases hscope : scope with
  | none => rfl
  | some s =>
    obtain ⟨-, h⟩ := admitted_scope hadmitted hw hscope
    cases h

/-! ### Requests -/

/-- What a handler starts with. -/
def Started (env : WindowEnv) (scope : Option TrustedTaskAuthorizationBrowserScope) (call : WindowCall) (w : Window) : Prop :=
  Settled env scope w ∧ Admitted call w

/-- A handler that starts in a sound state and keeps it so. -/
theorem Started.keeps {call : WindowCall} {p : WindowProg Json}
    (h : ∀ w, Started env scope call w → Keeps (Sound env scope) p) :
    Triple (fun w _ => Started env scope call w) p (fun _ w _ => Sound env scope w) (Sound env scope) :=
  fun w script hw => h w hw w script hw.1.1

theorem serve_sound (call : WindowCall) :
    Triple (fun w _ => Started env scope call w) (serve env call) (fun _ w _ => Sound env scope w) (Sound env scope) := by
  have hI := stable_sound env scope
  cases call with
  | browserSnapshot request =>
    exact Started.keeps fun w hw => browserSnapshot_sound (snapshotScoped_of_admitted hw.1.1 hw.2)
  | browserPrepare request => exact Started.keeps fun w hw => browserPrepare_sound (prepare_of_admitted hw.1.1 hw.2)
  | browserClick request =>
    exact Started.keeps fun w hw => browserClick_sound (documentScoped_of_admitted hw.1.1 hw.2 rfl)
  | browserType request =>
    exact Started.keeps fun w hw => browserType_sound (documentScoped_of_admitted hw.1.1 hw.2 rfl)
  | browserPointer request =>
    exact Started.keeps fun w hw => browserPointer_sound (documentScoped_of_admitted hw.1.1 hw.2 rfl)
  | browserSetInputFiles request =>
    exact Started.keeps fun w hw => browserSetInputFiles_sound (documentScoped_of_admitted hw.1.1 hw.2 rfl)
  | browserDownload request =>
    exact Started.keeps fun w hw => browserDownload_sound (documentScoped_of_admitted hw.1.1 hw.2 rfl)
  | browserNavigate request =>
    intro w script hw
    obtain ⟨hdocument, hscoped⟩ := onDocument_of_admitted hw.1.1 hw.2 rfl
    exact browserNavigate_sound hscoped w script ⟨hw.1, hdocument⟩
  | browserDialog request =>
    intro w script hw
    obtain ⟨hdocument, hscoped⟩ := onDocument_of_admitted hw.1.1 hw.2 rfl
    exact browserDialog_sound hscoped w script ⟨hw.1, hdocument⟩
  | browserExtensionCall request => exact Started.keeps fun _ _ => browserExtensionCall_sound request
  | _ => exact Started.keeps fun _ _ => keeps_serve hI sound_operated rfl

theorem handleRequest_sound (request : WindowRequest) :
    Triple (fun w _ => Settled env scope w) (handleRequest env request) (fun _ w _ => Sound env scope w) (Sound env scope) := by
  refine triple_tryThen (R := fun _ w _ => Started env scope request.call w) (triple_read fun w rest hw => ?_) fun _ => ?_
  · show orError _ _ (w.host.admits request) w rest
    cases hadmits : w.host.admits request with
    | ok _ => exact ⟨hw, admits_admitted hadmits⟩
    | error _ => exact hw.1
  · have hauthorize : KeepsOr (Started env scope request.call) (Sound env scope) (authorize request.call) :=
      keepsOr_authorize (stable_sound env scope) (fun _ hw => hw.1.1) (fun _ _ hw => hw) (fun _ hw => hw)
        (fun _ hw => ⟨⟨⟨hw.1.1.1.note .operated trivial trivial, hw.1.1.2⟩, hw.1.2⟩, hw.2⟩) request.call
    exact triple_tryThen hauthorize fun _ => serve_sound request.call

/-- Everything else than the publication of a snapshot is a plain synchronization. -/
theorem synchronizeWith_eq (w : Window) {publication : HostEvidencePublication} (h : publication ≠ .browserSnapshot) :
    w.synchronizeActionEvidenceEpochWith publication = w.synchronizeActionEvidenceEpoch := by
  unfold synchronizeActionEvidenceEpoch synchronizeActionEvidenceEpochWith evidenceEpochSyncPlan
  simp [h]

theorem publication_ne (call : WindowCall) : call.publication ≠ .browserSnapshot := by
  cases call <;> exact nofun

/-- The end of a request leaves the evidence sound, with every change of the epoch noticed. -/
theorem finishWindowEvidenceRequest_settled {w : Window} (call : WindowCall) (result : Except RequestError Json)
    (hw : Sound env scope w) : Settled env scope (w.finishWindowEvidenceRequest call.publication result) := by
  have hmarked : Sound env scope (if w.host.interrupted then w else w.markActivity) := by
    split
    · exact hw
    · exact hw
  have hsettled := hmarked.settle
  unfold finishWindowEvidenceRequest
  cases result with
  | ok _ =>
    dsimp only
    rw [synchronizeWith_eq _ (publication_ne call)]
    exact hsettled
  | error _ =>
    dsimp only
    split
    · exact ⟨(stable_sound env scope).discard _ hsettled.1, hsettled.2⟩
    · exact hsettled

end Window

/-! ### Runs -/

namespace WindowSlot

open Window

variable {s : WindowSlot}

theorem handle_sound (request : WindowRequest) (script : List WindowEvent) (hs : Sound env scope s.window) :
    Sound env scope (s.handle env request script).2.window := by
  have hran := handleRequest_sound request s.prepared script hs.settle
  unfold handle
  cases hrun : handleRequest env request s.prepared script with
  | done result w rest =>
    rw [hrun] at hran
    have hw : Sound env scope w := hran
    dsimp only [finish]
    split
    · exact hw
    · exact (finishWindowEvidenceRequest_settled _ _ hw).1
  | cut w =>
    rw [hrun] at hran
    exact hran

theorem settle_sound {p : Prog Window WindowEvent Unit} (hp : Keeps (Sound env scope) p) (script : List WindowEvent)
    (hs : Sound env scope s.window) : Sound env scope (s.settle (p s.window script)).window := by
  have hstate := hp.state hs script
  unfold settle
  cases hrun : p s.window script with
  | done _ w rest =>
    rw [hrun] at hstate
    exact hstate
  | cut w =>
    rw [hrun] at hstate
    exact hstate

theorem step_sound (input : WindowInput) (hs : Sound env scope s.window) : Sound env scope (s.step env input).2.window := by
  have hI := stable_sound env scope
  unfold step
  split
  · exact hs
  · split
    · split
      · exact handle_sound _ _ hs
      · exact hs
      · dsimp only [reapIdle]
        split
        · exact hI.invalidate _ hs
        · exact hs
      · exact settle_sound (keeps_refreshState hI) _ hs
      · exact settle_sound (keeps_stopControl hI) _ hs
      · exact hs
      · exact hs
    · exact hs

theorem taskBrowserSession_cleared (preauthorized : Option TrustedTaskAuthorizationLease) :
    (taskBrowserSession preauthorized).latestSnapshotId = none := by
  unfold taskBrowserSession
  cases preauthorized.bind (·.browserScope) <;> rfl

theorem opened_sound (host : HostSession) (preauthorized : Option TrustedTaskAuthorizationLease) (now : Nat) :
    Sound env host.browserScope (opened host preauthorized now).window := by
  have hcleared := taskBrowserSession_cleared preauthorized
  refine ⟨⟨Nat.le_refl _, nofun, nofun, fun _ => Evidence.Backed.of_cleared hcleared, nofun, fun hid => absurd hcleared hid,
    nofun, justified_nil⟩, rfl⟩

/-- What a session that was opened retains is sound in every state that it reaches. -/
theorem final_sound (env : WindowEnv) (host : HostSession) (preauthorized : Option TrustedTaskAuthorizationLease) (now : Nat)
    (inputs : List WindowInput) :
    Sound env host.browserScope ((windowMachine env).final (opened host preauthorized now) inputs).window :=
  Machine.inv_final (I := fun s : WindowSlot => Sound env host.browserScope s.window) (fun _ input hs => step_sound input hs) inputs
    (opened_sound host preauthorized now)

/-! ### Browser calls -/

end WindowSlot

namespace Window

/-- A call uses the evidence up: before the evidence of a later call there is a later publication. -/
theorem published_between {call : BrowserCall} {evidence : PublishedSnapshot} {earlier : List WindowMoment} :
    ∀ between : List WindowMoment, latestEvidence (between ++ .browserCalled call :: earlier) = some evidence →
      ∃ response overExtension, .published response overExtension ∈ between
  | [], h => by cases h
  | moment :: between, h => by
    cases moment with
    | published response overExtension => exact ⟨response, overExtension, List.mem_cons_self⟩
    | checked | operated =>
      obtain ⟨response, overExtension, hmem⟩ := published_between between h
      exact ⟨response, overExtension, List.mem_cons_of_mem _ hmem⟩
    | advanced | discarded | browserCalled _ | extensionPublished => cases h

/-- The result of a request is a snapshot that is published as evidence. -/
def publishes : Except RequestError Json → Bool
  | .ok response => publishesSnapshotEvidence response
  | .error _ => false

/-- There is no snapshot evidence. -/
def WithoutSnapshot (w : Window) : Prop :=
  w.host.browser.latestSnapshotId = none ∧ w.host.browserEvidenceEpoch = none

theorem WithoutSnapshot.synchronize {w : Window} (h : WithoutSnapshot w) : WithoutSnapshot w.synchronizeActionEvidenceEpoch := by
  unfold WithoutSnapshot synchronizeActionEvidenceEpoch synchronizeActionEvidenceEpochWith evidenceEpochSyncPlan
  by_cases hsync : w.host.synchronizedActionEvidenceEpoch = w.host.evidenceEpoch
  · simpa [hsync] using And.intro h.1 h.2
  · simp [hsync, discardBrowserEvidence, BrowserSession.clearSnapshot, note]

/-- A response that is no evidence. -/
def Unpublished (result : Except RequestError Json) (w : Window) : Prop :=
  ∀ response, result = .ok response → publishesSnapshotEvidence response = false → WithoutSnapshot w

theorem browserSnapshot_unpublished (request : BrowserSnapshotRequest) :
    Triple (fun _ _ => True) (browserSnapshot env request) (fun result w _ => Unpublished result w) fun _ => True := by
  refine triple_andThen (triple_true _) fun result => ?_
  refine triple_tryThen (R := fun response w _ => Unpublished (.ok response) w) (triple_update fun w _ _ => ?_) fun response => ?_
  · unfold finishBrowserSnapshotAttempt
    cases result with
    | error _ => exact nofun
    | ok response =>
      dsimp only
      by_cases hpublishes : publishesSnapshotEvidence response = true
      · rw [if_pos hpublishes]
        split
        · exact nofun
        · intro response' hresponse hnot
          cases hresponse
          rw [hpublishes] at hnot
          cases hnot
      · rw [if_neg hpublishes]
        exact fun _ _ _ => WithoutSnapshot.synchronize ⟨rfl, rfl⟩
  · refine triple_tryThen (R := fun _ w _ => Unpublished (.ok response) w) (triple_cut (D := Unpublished (.ok response)) ?_
      fun _ _ => trivial) fun _ => triple_ret fun _ _ hw => hw
    refine triple_weaken (keeps_asking (I := Unpublished (.ok response)) (fun _ _ hw => hw) _) (fun _ _ hw => hw)
      fun result w _ hw => ?_
    cases result with
    | ok _ => exact hw
    | error _ => exact nofun

theorem handleRequest_unpublished (env : WindowEnv) {request : WindowRequest} {snapshot : BrowserSnapshotRequest}
    (hcall : request.call = .browserSnapshot snapshot) :
    Triple (fun _ _ => True) (handleRequest env request) (fun result w _ => Unpublished result w) fun _ => True := by
  have herror : ∀ {error : RequestError} {w : Window}, Unpublished (.error error) w := nofun
  have passed : ∀ (result : Except RequestError Unit) w rest,
      orError (fun _ _ _ => True) (fun error w _ => Unpublished (.error error) w) result w (rest : List WindowEvent) := by
    intro result w rest
    cases result with
    | ok _ => trivial
    | error _ => exact herror
  unfold handleRequest
  rw [hcall]
  refine triple_tryThen (R := fun _ _ _ => True) (triple_read fun w rest _ => passed _ w rest) fun _ => ?_
  exact triple_tryThen (R := fun _ _ _ => True) (triple_weaken (triple_true _) (fun _ _ hw => hw) fun result w rest _ =>
    passed result w rest) fun _ => browserSnapshot_unpublished snapshot

theorem finishWindowEvidenceRequest_unpublished {w : Window} {result : Except RequestError Json} (h : Unpublished result w)
    (hresult : publishes result = false) : WithoutSnapshot (w.finishWindowEvidenceRequest .browserSnapshotAttempt result) := by
  unfold finishWindowEvidenceRequest
  cases result with
  | error _ => exact ⟨rfl, rfl⟩
  | ok response =>
    have hw := h response rfl hresult
    have hmarked : WithoutSnapshot (if w.host.interrupted then w else w.markActivity) := by
      split
      · exact hw
      · exact hw
    dsimp only
    rw [synchronizeWith_eq _ (by decide)]
    exact hmarked.synchronize

end Window

namespace WindowSlot

open Window

/-- A snapshot that ended without a publication has left no snapshot evidence. -/
theorem step_unpublished {s : WindowSlot} {request : WindowRequest} {script : List WindowEvent}
    {snapshot : BrowserSnapshotRequest} {result : Except RequestError Json} (hcall : request.call = .browserSnapshot snapshot)
    (hresult : (s.step env (.request request script)).1 = some result) (hpublishes : publishes result = false) :
    WithoutSnapshot (s.step env (.request request script)).2.window := by
  unfold step at hresult ⊢
  dsimp only at hresult ⊢
  split at hresult
  · rename_i hpresent
    rw [if_pos hpresent]
    have hran := handleRequest_unpublished env hcall s.prepared script trivial
    unfold handle at hresult ⊢
    cases hrun : handleRequest env request s.prepared script with
    | done value w rest =>
      rw [hrun] at hran hresult
      cases hresult
      dsimp only [finish]
      rw [hcall]
      exact finishWindowEvidenceRequest_unpublished hran hpublishes
    | cut w =>
      rw [hrun] at hresult
      cases hresult
  · cases hresult

end WindowSlot

/-- Every call of the browser session has its grounds in what had happened before: a mutation goes to the bound exact
    target, and to the tab and the snapshot of the last published response, between which and the call there is no other
    call and no invalidation; with a browser scope every call names its tab, and those that act on a document go out
    while the evidence is of the document of the scope. Two calls of which the second is a mutation have a publication
    between them. A snapshot that is not published leaves no snapshot evidence. -/
theorem browserCalls_backed (env : WindowEnv) (host : HostSession) (preauthorized : Option TrustedTaskAuthorizationLease)
    (now : Nat) (inputs : List WindowInput) :
    let opened := WindowSlot.opened host preauthorized now
    let moments := ((windowMachine env).final opened inputs).window.moments
    (∀ later call earlier, moments = later ++ .browserCalled call :: earlier →
      CallBacked env host.browserScope call earlier) ∧
    (∀ later second between first earlier,
      moments = later ++ .browserCalled second :: (between ++ .browserCalled first :: earlier) → second.name ∈ mutationTools →
      ∃ response overExtension, .published response overExtension ∈ between) ∧
    ∀ c ∈ (windowMachine env).trace opened inputs, ∀ request script snapshot result,
      c.input = .request request script → request.call = .browserSnapshot snapshot → c.output = some result →
      Window.publishes result = false → Window.WithoutSnapshot c.after.window := by
  intro opened moments
  obtain ⟨hsound, hscope⟩ := WindowSlot.final_sound env host preauthorized now inputs
  have hbacked : ∀ later call earlier, moments = later ++ .browserCalled call :: earlier →
      CallBacked env host.browserScope call earlier := by
    intro later call earlier hsplit
    have hgrounds := hsound.justified later (.browserCalled call) earlier hsplit
    rw [hscope] at hgrounds
    exact hgrounds
  refine ⟨hbacked, fun later second between first earlier hsplit hmutation => ?_, ?_⟩
  · obtain ⟨-, -, -, evidence, -, -, -, hlatest, -⟩ := (hbacked later second _ hsplit).mutation hmutation
    exact Window.published_between between hlatest
  · intro c hc request script snapshot result hinput hcall houtput hpublishes
    have hcalled := Machine.eq_call_of_mem hc
    rw [hinput] at hcalled
    rw [hcalled] at houtput ⊢
    exact WindowSlot.step_unpublished hcall houtput hpublishes

/-! ### Epochs -/

/-- Every change of the epoch was noticed, and whatever is retained was taken in the present epoch. -/
structure EvidenceCurrent (w : Window) : Prop where
  noticed : w.host.synchronizedActionEvidenceEpoch = w.host.evidenceEpoch
  native : (w.host.latestObservationId.isSome || w.host.latestAccessibilityStateId.isSome) = true →
    w.host.takenAt.native = w.host.evidenceEpoch
  browser : w.host.browser.latestSnapshotId ≠ none → w.host.takenAt.browser = w.host.evidenceEpoch
  extension : w.host.extensionObservation.isSome = true → w.host.takenAt.extension = w.host.evidenceEpoch

/-- A browser snapshot was published over a change of the epoch, with an observation of an extension retained. -/
def publishedOverExtension (moments : List WindowMoment) : Prop := ∃ response, .published response true ∈ moments

namespace Window

theorem Settled.current {w : Window} (h : Settled env scope w) (hmoments : ¬publishedOverExtension w.moments) :
    EvidenceCurrent w := by
  obtain ⟨⟨hsound, -⟩, hsettled⟩ := h
  have present : ∀ taken, w.evidence.Current taken → taken = w.host.evidenceEpoch := fun taken htaken =>
    Nat.le_antisymm htaken.2 (Nat.le_trans (Nat.le_of_eq hsettled.symm) htaken.1)
  refine ⟨hsettled, fun hnative => present _ (hsound.native hnative), fun hid => present _ (hsound.browser hid), fun hextension => ?_⟩
  exact present _ (hsound.extension (fun response hmem => hmoments ⟨response, hmem⟩) hextension)

end Window

namespace WindowSlot

open Window

/-- A request ends with its session gone, or with the evidence of the session finished. -/
theorem finish_cases (s : WindowSlot) (request : WindowRequest) (result : Except RequestError Json) (w : Window) :
    (s.finish request result w).present = false ∨
      (s.finish request result w).window = w.finishWindowEvidenceRequest request.call.publication result := by
  unfold finish
  dsimp only
  generalize (if s.presents request then w.now else s.presentedAt) = presentedAt
  split
  · exact Or.inl rfl
  · exact Or.inr rfl

/-- After a request that ended every change of the epoch is noticed, unless the session is gone. -/
theorem step_settled {s : WindowSlot} {request : WindowRequest} {script : List WindowEvent} {result : Except RequestError Json}
    (hs : Sound env scope s.window) (hresult : (s.step env (.request request script)).1 = some result)
    (hpresent : (s.step env (.request request script)).2.present = true) :
    Settled env scope (s.step env (.request request script)).2.window := by
  unfold step at hresult hpresent ⊢
  dsimp only at hresult hpresent ⊢
  split at hresult
  · rename_i hopen
    rw [if_pos hopen] at hpresent ⊢
    have hran := handleRequest_sound request s.prepared script hs.settle
    unfold handle at hresult hpresent ⊢
    cases hrun : handleRequest env request s.prepared script with
    | done value w rest =>
      rw [hrun] at hran hpresent
      dsimp only at hpresent ⊢
      rcases s.finish_cases request value w with hgone | hfinished
      · rw [hgone] at hpresent
        cases hpresent
      · rw [hfinished]
        exact finishWindowEvidenceRequest_settled _ _ hran
    | cut w =>
      rw [hrun] at hresult
      cases hresult
  · cases hresult

end WindowSlot

/-- A mutation passes the check of the epoch only on a publication that nothing has given up since; and at the end of
    every request what is retained was taken in the present epoch, as long as no browser snapshot was published over a
    change of the epoch with an observation of an extension retained. -/
theorem evidence_current_unless_overExtension (env : WindowEnv) (host : HostSession)
    (preauthorized : Option TrustedTaskAuthorizationLease) (now : Nat) (inputs : List WindowInput) :
    let opened := WindowSlot.opened host preauthorized now
    (∀ later earlier, ((windowMachine env).final opened inputs).window.moments = later ++ .checked :: earlier →
      evidenceStands earlier = true) ∧
    ∀ c ∈ (windowMachine env).trace opened inputs, ∀ request script result, c.input = .request request script →
      c.output = some result → c.after.present = true → ¬publishedOverExtension c.after.window.moments →
      EvidenceCurrent c.after.window := by
  intro opened
  refine ⟨fun later earlier hsplit => ?_, fun c hc request script result hinput houtput hpresent hmoments => ?_⟩
  · obtain ⟨hsound, -⟩ := WindowSlot.final_sound env host preauthorized now inputs
    exact hsound.justified later .checked earlier hsplit
  · have hbefore : Window.Sound env host.browserScope c.before.window :=
      Machine.inv_before (I := fun s : WindowSlot => Window.Sound env host.browserScope s.window)
        (fun _ input hs => WindowSlot.step_sound input hs) (WindowSlot.opened_sound host preauthorized now) hc
    have hcalled := Machine.eq_call_of_mem hc
    rw [hinput] at hcalled
    rw [hcalled] at houtput hpresent hmoments ⊢
    exact (WindowSlot.step_settled hbefore houtput hpresent).current hmoments

/-- A session without a lease, with everything but an escalation permitted. -/
def unleasedSession (idleTimeout : Nat) : HostSession where
  sessionId := "session"
  taskGrantId := "grant"
  capability := "capability"
  targetProcessId := 7
  targetWindowHandle := 9
  observationMode := .semantic
  permissions := ⟨true, true, true, true, true, true, true, true, true, true, true, false, true, true⟩
  allowedBrowserOrigins := []
  taskAuthorization := none
  interrupted := false
  evidenceEpoch := 0
  synchronizedActionEvidenceEpoch := 0
  browserEvidenceEpoch := none
  browser := .empty
  extensionObservation := none
  latestObservationId := none
  latestAccessibilityStateId := none
  latestAccessibilityRoot := none
  inputEvents := .withCapacity ⟨"session", 7, 9⟩ ⟨.ready, "input_ready", none⟩
    ⟨.available, "target_available", true, false, true⟩ true 0 64
  idleTimeout := idleTimeout
  lastActivity := 0
  takenAt := ⟨0, 0, 0⟩

/-- A request that presents what the session handed out. -/
def presentedRequest (call : WindowCall) : WindowRequest := ⟨"grant", "capability", call, .ok ()⟩

def plainEnv : WindowEnv := ⟨fun _ => none, fun _ => none, id, fun _ => true⟩

def extensionResponse : Json :=
  .obj [("result", .obj [("document", .obj [("origin", .str "https://example.org"), ("id", .str "d")]),
    ("snapshot_id", .str "s"), ("refs", .arr [])])]

def boundResponse : Json :=
  .obj [("structuredContent", .obj [("status", .str "ok"), ("mode", .str "bind"), ("target_id", .str "t"),
    ("binding_quality", .str "exact"), ("mutation_allowed", .bool true)])]

def snapshotResponse : Json :=
  .obj [("structuredContent", .obj [("status", .str "ok"), ("mode", .str "snapshot"), ("snapshot_id", .str "p")])]

def plainSnapshot (targetId tabId : Option String) : BrowserSnapshotRequest :=
  ⟨targetId, tabId, "dom_refs_v1", none, none, none, none, false⟩

/-- A target is bound, an extension is observed, and a snapshot of the target is published whose call refreshed the
    upstream session and so went on to a new epoch. -/
def overtakenRun : List WindowInput :=
  [.request (presentedRequest (.browserSnapshot (plainSnapshot none none)))
      [.banner false none, .core 0 (.ok boundResponse), .decided (.ok ())],
    .request (presentedRequest (.browserExtensionCall ⟨"provider", "https://example.org", "snapshot", .obj [], 1000⟩))
      [.banner false none, .decided (.ok ()), .answered (.ok extensionResponse)],
    .request (presentedRequest (.browserSnapshot (plainSnapshot (some "t") (some "b"))))
      [.banner false none, .core 1 (.ok snapshotResponse), .decided (.ok ())]]

/-- The observation of the extension outlives the change of the epoch. -/
theorem overtaken_observation_kept :
    let s := (windowMachine plainEnv).final (WindowSlot.opened (unleasedSession 1000) none 0) overtakenRun
    s.present = true ∧ s.window.host.extensionObservation.isSome = true ∧ s.window.host.takenAt.extension < s.window.host.evidenceEpoch ∧
      ¬EvidenceCurrent s.window := by
  have hkept : (let s := (windowMachine plainEnv).final (WindowSlot.opened (unleasedSession 1000) none 0) overtakenRun
      s.present = true ∧ s.window.host.extensionObservation.isSome = true ∧
        s.window.host.takenAt.extension < s.window.host.evidenceEpoch) := by decide
  obtain ⟨hpresent, hsome, hlt⟩ := hkept
  exact ⟨hpresent, hsome, hlt, fun hcurrent => absurd (hcurrent.extension hsome) (Nat.ne_of_lt hlt)⟩

end DccCua
