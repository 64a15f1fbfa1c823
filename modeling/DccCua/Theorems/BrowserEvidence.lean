import DccCua.Theorems.Evidence

/-! # Browser requests and their evidence

A browser snapshot retains what its response says and publishes it, or gives everything up; a call uses up what was
retained before it. So each browser request keeps the evidence of its session sound, and each of its calls goes out
with the grounds that it needs. -/

namespace DccCua

open Checks Runs Script

variable {env : WindowEnv} {scope : Option TrustedTaskAuthorizationBrowserScope}

/-! ### Arguments -/

theorem get_setOptional {name : String} : ∀ (fields : List (String × Option Json)) (args : Json),
    name ∉ fields.map Prod.fst → (setOptional args fields).get name = args.get name
  | [], _, _ => rfl
  | (key, value) :: rest, args, h => by
    rw [List.map_cons, List.mem_cons, not_or] at h
    cases value with
    | none => exact get_setOptional rest args h.2
    | some value => exact (get_setOptional rest _ h.2).trans (Json.get_set_ne _ _ h.1)

theorem namesTab_setOptional {args : Json} {targetId tabId : String} {fields : List (String × Option Json)}
    (h : NamesTab args targetId tabId) (htarget : "target_id" ∉ fields.map Prod.fst) (htab : "tab_id" ∉ fields.map Prod.fst) :
    NamesTab (setOptional args fields) targetId tabId :=
  ⟨(get_setOptional fields args htarget).trans h.1, (get_setOptional fields args htab).trans h.2⟩

namespace BrowserSession

theorem namesTab_tabArgs (targetId tabId : String) (fields : List (String × Json)) :
    NamesTab (.obj (tabArgs targetId tabId ++ fields)) targetId tabId := ⟨rfl, rfl⟩

theorem clickArgs_names {request : BrowserClickRequest} {args : Json} (h : clickArgs request = .ok args) :
    NamesTab args request.targetId request.tabId := by
  simp only [clickArgs, bind_eq_ok, Except.ok.injEq] at h
  obtain ⟨route, -, rfl⟩ := h
  exact namesTab_setOptional (namesTab_tabArgs _ _ _) (by simp) (by simp)

theorem typeArgs_names {request : BrowserTypeRequest} {text : String} {args : Json} (h : typeArgs request text = .ok args) :
    NamesTab args request.targetId request.tabId := by
  simp only [typeArgs, bind_eq_ok, Except.ok.injEq] at h
  obtain ⟨mode, -, rfl⟩ := h
  exact namesTab_tabArgs _ _ _

theorem pointerArgs_names {request : BrowserPointerRequest} {args : Json} (h : pointerArgs request = .ok args) :
    NamesTab args request.targetId request.tabId := by
  simp only [pointerArgs, bind_eq_ok, Except.ok.injEq] at h
  obtain ⟨route, -, rfl⟩ := h
  exact namesTab_setOptional (namesTab_tabArgs _ _ _) (by simp) (by simp)

theorem navigateArgs_names {request : BrowserNavigateRequest} {args : Json} (h : navigateArgs request = .ok args) :
    NamesTab args request.targetId request.tabId := by
  simp only [navigateArgs, bind_eq_ok, Except.ok.injEq] at h
  obtain ⟨-, -, rfl⟩ := h
  exact namesTab_tabArgs _ _ _

theorem dialogArgs_names {request : BrowserDialogRequest} {args : Json} (h : dialogArgs request = .ok args) :
    NamesTab args request.targetId request.tabId := by
  simp only [dialogArgs, bind_eq_ok, Except.ok.injEq] at h
  obtain ⟨-, -, rfl⟩ := h
  exact namesTab_setOptional (namesTab_tabArgs _ _ _) (by simp) (by simp)

theorem browserSnapshotArgs_obj {request : BrowserSnapshotRequest} {args : Json} (h : browserSnapshotArgs request = .ok args) :
    ∃ fields, args = .obj fields := by
  have hobj : ∀ (options : List (String × Option Json)) (fields : List (String × Json)),
      ∃ fields', setOptional (.obj fields) options = .obj fields' := by
    intro options
    induction options with
    | nil => exact fun fields => ⟨fields, rfl⟩
    | cons option options ih =>
      intro fields
      obtain ⟨name, value⟩ := option
      cases value with
      | none => exact ih fields
      | some value => exact ih _
  simp only [browserSnapshotArgs, bind_eq_ok, Except.ok.injEq] at h
  obtain ⟨-, -, rfl⟩ := h
  exact hobj _ _

theorem snapshotArgs_names {request : BrowserSnapshotRequest} {args : Json} (h : browserSnapshotArgs request = .ok args)
    (targetId tabId : String) :
    NamesTab ((args.set "target_id" (.str targetId)).set "tab_id" (.str tabId)) targetId tabId := by
  obtain ⟨fields, rfl⟩ := browserSnapshotArgs_obj h
  refine ⟨?_, ?_⟩
  · rw [Json.get_set_ne _ _ (by decide), Json.get_set_self]
  · exact Json.get_set_self _ _ _

/-! ### What is retained of a response -/

theorem validated_snapshotId {response : Json} {expected : Option AncestorScopeExpectation} {validated : ValidatedAncestorScope}
    (h : validateAncestorScopeResponse response expected = .ok (some validated)) :
    browserSnapshotId response = some validated.snapshotId := by
  cases expected with
  | none => cases h
  | some expected =>
    simp only [validateAncestorScopeResponse, validateExpectedAncestorScope, bind_eq_ok, require_eq_ok] at h
    obtain ⟨structured, hstructured, -, -, -, -, -, -, h⟩ := h
    have hget : response.get "structuredContent" = structured := by
      unfold structuredContent at hstructured
      split at hstructured
      · rename_i fields hfields
        rw [hfields]
        exact Except.ok.inj hstructured
      · cases hstructured
    split at h
    · cases h
    · rename_i snapshotId hid
      simp only [bind_eq_ok, require_eq_ok] at h
      obtain ⟨-, hsame, h⟩ := h
      have hvalidated : validated.snapshotId = snapshotId := by
        split at h
        · simp only [bind_eq_ok, Except.ok.injEq, reduceCtorEq, and_false, exists_false] at h
        · simp only [bind_eq_ok, require_eq_ok, Except.ok.injEq, Option.some.injEq] at h
          obtain ⟨-, -, -, -, continuation, -, rfl⟩ := h
          rfl
      rw [hvalidated, browserSnapshotId, hget]
      have hid' := (Option.filter_eq_some_iff.mp hid).1
      rw [hid']
      cases hlegacy : structured.get "snapshot_id" <;> simp_all [isNull, Json.asStr]

/-- What a browser session retains of the response of a call with these arguments. -/
def Retained (env : WindowEnv) (args response : Json) (b : BrowserSession) : Prop :=
  b.latestSnapshotId = none ∨ ∃ targetId tabId, NamesTab args targetId tabId ∧ b.targetId = some targetId ∧
    b.latestTabId = some tabId ∧ b.latestSnapshotId = browserSnapshotId response ∧
    b.latestOrigin = browserSnapshotOrigin env.parseUrl response tabId

theorem receiveBinding_retained {expected : Option AncestorScopeExpectation} {args response : Json} {b b' : BrowserSession}
    (h : receiveBinding expected response b = .ok b') : Retained env args response b' := by
  simp only [receiveBinding, storeBinding, bind_eq_ok, require_eq_ok] at h
  obtain ⟨validated, -, -, -, structured, -, h⟩ := h
  split at h
  · cases h
  · split at h
    · cases h
    · cases h
      exact Or.inl rfl

theorem receiveSnapshot_retained {targetId tabId : String} {expected : Option AncestorScopeExpectation}
    {args response : Json} {b b' : BrowserSession} (hnames : NamesTab args targetId tabId)
    (htarget : b.targetId = some targetId) (hcleared : b.latestSnapshotId = none)
    (h : receiveSnapshot env targetId tabId expected response b = .ok b') : Retained env args response b' := by
  simp only [receiveSnapshot, bind_eq_ok] at h
  obtain ⟨refused, -, h⟩ := h
  split at h
  · cases h
    exact Or.inl hcleared
  · simp only [bind_eq_ok, Except.ok.injEq] at h
    obtain ⟨validated, hvalidated, rfl⟩ := h
    refine Or.inr ⟨targetId, tabId, hnames, htarget, rfl, ?_, rfl⟩
    cases validated with
    | none => rfl
    | some validated => exact (validated_snapshotId hvalidated).symm

end BrowserSession

namespace Window

/-- Sound, with every change of the epoch noticed. -/
def Settled (env : WindowEnv) (scope : Option TrustedTaskAuthorizationBrowserScope) (w : Window) : Prop :=
  Sound env scope w ∧ w.evidence.synchronized = w.evidence.epoch

theorem Sound.settle {w : Window} (h : Sound env scope w) : Settled env scope w.synchronizeActionEvidenceEpoch := by
  refine ⟨(stable_sound env scope).synchronize w h, ?_⟩
  rw [evidence_synchronize, Evidence.synchronize_synchronized, Evidence.synchronize_epoch]

/-! ### Calls -/

/-- After a call nothing of the browser is retained, and the call is the last one. -/
structure Asked (env : WindowEnv) (scope : Option TrustedTaskAuthorizationBrowserScope) (args : Json)
    (targetId : Option String) (w : Window) : Prop where
  sound : Sound env scope w
  cleared : w.host.browser.latestSnapshotId = none
  target : w.host.browser.targetId = targetId
  last : ∃ call, latestCall w.moments = some call ∧ call.args = args

theorem Asked.advance {args : Json} {targetId : Option String} {w : Window} (h : Asked env scope args targetId w) (n : Nat) :
    Asked env scope args targetId (w.advance n) := by
  refine ⟨(stable_sound env scope).advance w n h.sound, ?_, ?_, ?_⟩
  · unfold Window.advance
    split
    · exact h.cleared
    · exact h.cleared
  · unfold Window.advance
    split
    · exact h.target
    · exact h.target
  · unfold Window.advance
    split
    · exact h.last
    · exact h.last

theorem asked_coreCall {args : Json} {targetId : Option String} : Keeps (Asked env scope args targetId) coreCall :=
  keeps_awaiting (fun _ _ h => ⟨h.sound, h.cleared, h.target, h.last⟩) (fun _ n h => h.advance n) _

/-- A call that has its grounds goes out. -/
theorem callBrowserTool_asked {name : String} {args : Json} {snapshotId : Option String} (targetId : Option String) {F : Window → Prop}
    (hF : ∀ w, F w → Sound env scope w ∧ w.host.browser.targetId = targetId ∧
      CallBacked env scope ⟨name, args, snapshotId, if w.host.browser.mutationAllowed then targetId else none⟩ w.moments) :
    Triple (fun w _ => F w) (BrowserSession.callBrowserTool name args snapshotId)
      (fun _ w _ => Asked env scope args targetId w) (Sound env scope) := by
  refine triple_andThen (R := fun _ w _ => Asked env scope args targetId w) (triple_update fun w _ hw => ?_) fun _ =>
    triple_cut asked_coreCall fun w hw => hw.sound
  obtain ⟨⟨hsound, hscope⟩, htarget, hbacked⟩ := hF w hw
  refine ⟨⟨hsound.call (⟨name, args, snapshotId, if w.host.browser.mutationAllowed then w.host.browser.targetId else none⟩)
    ?_, hscope⟩, rfl, htarget, _, rfl, rfl⟩
  rw [hscope, htarget]
  exact hbacked

/-! ### Snapshots -/

/-- What the browser session made of a response, before the response is published. -/
structure Received (env : WindowEnv) (scope : Option TrustedTaskAuthorizationBrowserScope) (response : Json) (w : Window) :
    Prop where
  stored : ∃ (e : Evidence) (b : BrowserSession) (call : BrowserCall), w.evidence = e.store b ∧ e.Sound env ∧ e.scope = scope ∧ e.browser.latestSnapshotId = none ∧
    latestCall e.moments = some call ∧ BrowserSession.Retained env call.args response b

/-- The result of a snapshot, before its end. -/
def SnapshotTaken (env : WindowEnv) (scope : Option TrustedTaskAuthorizationBrowserScope) :
    Except ComputerUseError Json → Window → List WindowEvent → Prop :=
  orError (fun response w _ => Received env scope response w) fun _ w _ => Sound env scope w

theorem receive_taken {args : Json} {targetId : Option String} {f : Json → BrowserSession → Except ComputerUseError BrowserSession}
    (hf : ∀ response b b', b.targetId = targetId → b.latestSnapshotId = none → f response b = .ok b' →
      BrowserSession.Retained env args response b') (response : Json) :
    Triple (fun w _ => Asked env scope args targetId w) (BrowserSession.receive f response) (SnapshotTaken env scope)
      (Sound env scope) := by
  refine triple_update fun w _ hw => ?_
  cases hresult : f response w.host.browser with
  | error error => exact hw.sound
  | ok b =>
    obtain ⟨call, hlast, hargs⟩ := hw.last
    refine ⟨w.evidence, b, call, rfl, hw.sound.1, hw.sound.2, hw.cleared, hlast, ?_⟩
    rw [hargs]
    exact hf response w.host.browser b hw.target hw.cleared hresult

/-- The tab of a snapshot request is the one of the scope, if there is a scope. -/
def SnapshotScoped (scope : Option TrustedTaskAuthorizationBrowserScope) (request : BrowserSnapshotRequest) : Prop :=
  ∀ s, scope = some s → request.targetId = some s.hostTargetId ∧ request.tabId = some s.tabId

/-- A call that mutates nothing and is no call on a document. -/
theorem callBacked_snapshot {args : Json} {snapshotId exactTarget : Option String} {earlier : List WindowMoment}
    (htab : ∀ s, scope = some s → NamesTab args s.hostTargetId s.tabId) :
    CallBacked env scope ⟨"get_browser_state", args, snapshotId, exactTarget⟩ earlier where
  mutation h := absurd h (show "get_browser_state" ∉ mutationTools by decide)
  tab := htab
  document _ _ h := absurd h (show "get_browser_state" ∉ documentTools by decide)

theorem browserCheck {α : Type} {P : Window → Prop} {R : α → Window → Prop} {f : BrowserSession → Except ComputerUseError α}
    {Q : Except ComputerUseError Json → Window → List WindowEvent → Prop} {C : Window → Prop} {p : α → CoreProg}
    (herror : ∀ error w rest, P w → Q (.error error) w rest) (hok : ∀ a w, P w → f w.host.browser = .ok a → R a w)
    (hp : ∀ a, Triple (fun w _ => R a w) (p a) Q C) :
    Triple (fun w _ => P w) ((BrowserSession.check f).tryThen p) Q C := by
  refine triple_tryThen (R := fun a w _ => R a w) (triple_read fun w rest hw => ?_) hp
  cases hresult : f w.host.browser with
  | error error => exact herror error w rest hw
  | ok a => exact hok a w hw hresult

/-- A call that has its grounds, and what comes after it. -/
theorem callThen {name : String} {args : Json} {snapshotId : Option String} (targetId : Option String) {F : Window → Prop}
    {Q : Except ComputerUseError Json → Window → List WindowEvent → Prop} {p : Json → CoreProg}
    (hF : ∀ w, F w → Sound env scope w ∧ w.host.browser.targetId = targetId ∧
      CallBacked env scope ⟨name, args, snapshotId, if w.host.browser.mutationAllowed then targetId else none⟩ w.moments)
    (herror : ∀ error w rest, Sound env scope w → Q (.error error) w rest)
    (hp : ∀ response, Triple (fun w _ => Asked env scope args targetId w) (p response) Q (Sound env scope)) :
    Triple (fun w _ => F w) ((BrowserSession.callBrowserTool name args snapshotId).tryThen p) Q (Sound env scope) := by
  refine triple_tryThen (R := fun _ w _ => Asked env scope args targetId w) ?_ hp
  refine triple_weaken (callBrowserTool_asked _ hF) (fun _ _ hw => hw) fun result w rest hw => ?_
  cases result with
  | ok response => exact hw
  | error error => exact herror error w rest hw.sound

theorem bindTarget_taken {request : BrowserSnapshotRequest} {args : Json} (hscoped : SnapshotScoped scope request)
    (htarget : request.targetId = none) (expected : Option AncestorScopeExpectation) :
    Triple (fun w _ => Sound env scope w) (BrowserSession.bindTarget request args expected) (SnapshotTaken env scope)
      (Sound env scope) := by
  refine browserCheck (R := fun _ w => Sound env scope w) (fun _ _ _ hw => hw) (fun _ _ hw _ => hw) fun _ => ?_
  -- the bound target may be any; it is carried along
  intro w script hw
  refine callThen w.host.browser.targetId (F := fun w' => w' = w) (fun w' hw' => ?_) (fun _ _ _ h => h)
    (fun response => receive_taken (fun response b b' _ _ h => BrowserSession.receiveBinding_retained h) response) w script rfl
  subst hw'
  refine ⟨hw, rfl, callBacked_snapshot fun s hs => ?_⟩
  rw [(hscoped s hs).1] at htarget
  cases htarget

theorem snapshotTarget_taken {request : BrowserSnapshotRequest} {args : Json} {targetId : String}
    (hscoped : SnapshotScoped scope request) (hargs : browserSnapshotArgs request = .ok args)
    (htarget : request.targetId = some targetId) (expected : Option AncestorScopeExpectation) :
    Triple (fun w _ => Sound env scope w) (BrowserSession.snapshotTarget env request args targetId expected)
      (SnapshotTaken env scope) (Sound env scope) := by
  refine browserCheck (R := fun tabId w => Sound env scope w ∧ w.host.browser.targetId = some targetId ∧
    request.tabId = some tabId) (fun _ _ _ hw => hw) (fun tabId w hw h => ⟨hw, ?_⟩) fun tabId => ?_
  · simp only [BrowserSession.requireBoundTarget, BrowserSession.snapshotTab, bind_eq_ok, require_eq_ok, decide_eq_true_eq] at h
    obtain ⟨-, hbound, h⟩ := h
    refine ⟨hbound, ?_⟩
    split at h
    · cases h
    · rename_i tab htab
      simp only [bind_eq_ok, Except.ok.injEq] at h
      obtain ⟨-, -, rfl⟩ := h
      exact htab
  have hnames := BrowserSession.snapshotArgs_names hargs targetId tabId
  refine callThen (some targetId) (fun w hw => ⟨hw.1, hw.2.1, callBacked_snapshot fun s hs => ?_⟩) (fun _ _ _ h => h)
    (fun response => receive_taken
      (fun response b b' hbound hcleared h => BrowserSession.receiveSnapshot_retained hnames hbound hcleared h) response)
  obtain ⟨htarget', htab⟩ := hscoped s hs
  rw [htarget] at htarget'
  rw [hw.2.2] at htab
  cases htarget'
  cases htab
  exact hnames

theorem snapshot_taken {request : BrowserSnapshotRequest} (hscoped : SnapshotScoped scope request) :
    Triple (fun w _ => Sound env scope w) (BrowserSession.snapshot env request) (SnapshotTaken env scope) (Sound env scope) := by
  refine browserCheck (R := fun a w => Sound env scope w ∧ browserSnapshotArgs request = .ok a.1) (fun _ _ _ hw => hw)
    (fun a w hw h => ⟨hw, ?_⟩) fun a => ?_
  · simp only [bind_eq_ok, Except.ok.injEq] at h
    obtain ⟨-, -, args, hargs, expected, -, rfl⟩ := h
    exact hargs
  obtain ⟨args, expected⟩ := a
  dsimp only
  split
  · rename_i htarget
    exact fun w script hw => bindTarget_taken hscoped htarget expected w script hw.1
  · rename_i targetId htarget
    exact fun w script hw => snapshotTarget_taken hscoped hw.2 htarget expected w script hw.1

/-- The publication of a response, or everything is given up. -/
theorem finishBrowserSnapshotAttempt_sound {w : Window} {result : Except ComputerUseError Json}
    {rest : List WindowEvent} (h : SnapshotTaken env scope result w rest) : Sound env scope (w.finishBrowserSnapshotAttempt result).2 := by
  have hstable := stable_sound env scope
  cases result with
  | error error => exact keep_finishObservationSensitiveAttempt hstable _ (hstable.discard w h)
  | ok response =>
    obtain ⟨⟨e, b, call, hw, hsound, hscope, hcleared, hlast, hretained⟩⟩ := h
    have hdiscard : Sound env scope w.discardBrowserEvidence := by
      refine ⟨?_, ?_⟩
      · rw [evidence_discard, hw]
        exact hsound.store_discard b
      · rw [evidence_discard, hw]
        exact hscope
    unfold finishBrowserSnapshotAttempt
    dsimp only
    split
    · split
      · exact hdiscard
      · rename_i hdocument
        refine ⟨?_, ?_⟩
        · rw [evidence_publish, evidence_note, hw]
          refine hsound.bind _ _ _ (show Grounds env e.scope (w.published response) e.moments from trivial) rfl (fun _ => rfl)
            (fun hsync hextension => ⟨response, ?_⟩) fun snapshotId hid => ?_
          · have hwsync : w.host.synchronizedActionEvidenceEpoch ≠ w.host.evidenceEpoch := fun heq =>
              hsync ((congrArg Evidence.synchronized hw).symm.trans (heq.trans (congrArg Evidence.epoch hw)))
            have hwextension : w.host.extensionObservation.isSome = true := (congrArg Evidence.extension hw).trans hextension
            simp [published, hwsync, hwextension]
          rcases hretained with hnone | ⟨targetId, tabId, hnames, htarget, htab, hsnapshot, horigin⟩
          · rw [hnone] at hid
            cases hid
          · refine ⟨⟨call, response⟩, targetId, tabId, ?_, hnames, htarget, htab, hsnapshot.symm.trans hid, horigin, ?_⟩
            · show (latestCall e.moments).map (fun call => PublishedSnapshot.mk call response) = some ⟨call, response⟩
              rw [hlast]
              rfl
            · intro s hs
              have hbrowser : w.host.browser = b := congrArg Evidence.browser hw
              have hwscope : w.host.browserScope = some s := (congrArg Evidence.scope hw).trans hs
              simp only [HostSession.requireCurrentTaskAuthorizedBrowserDocument, require_eq_ok, hwscope, hbrowser,
                Option.all_some, Bool.and_eq_true, decide_eq_true_eq] at hdocument
              exact hdocument.2
        · rw [evidence_publish, evidence_note, hw]
          unfold Evidence.bind
          split
          · exact hscope
          · exact hscope
    · exact hstable.synchronize _ hdiscard

theorem browserSnapshot_sound {request : BrowserSnapshotRequest} (hscoped : SnapshotScoped scope request) :
    Keeps (Sound env scope) (browserSnapshot env request) := by
  refine triple_andThen (snapshot_taken hscoped) fun result => ?_
  refine triple_tryThen (R := fun _ w _ => Sound env scope w) (triple_update fun w rest hw => ?_) fun response =>
    keeps_withImages (stable_sound env scope) response
  have hsound := finishBrowserSnapshotAttempt_sound hw
  cases hresult : (w.finishBrowserSnapshotAttempt result).1 with
  | ok response => exact hsound
  | error error => exact hsound

/-! ### Mutations -/

theorem settled_elapse (w : Window) (ms : Nat) (h : Settled env scope w) : Settled env scope (w.elapse ms) := h

/-- The check of the epoch: what passes it is settled, and the passing has its grounds. -/
theorem requireCurrentBrowserEvidenceEpoch_settled :
    Triple (fun w _ => Sound env scope w) (Prog.update requireCurrentBrowserEvidenceEpoch : WindowProg Unit)
      (orError (fun _ w _ => Settled env scope w) fun _ w _ => Sound env scope w) (Sound env scope) := by
  refine triple_update fun w rest hw => ?_
  obtain ⟨⟨hsound, hscope⟩, hsettled⟩ := hw.settle
  unfold requireCurrentBrowserEvidenceEpoch
  dsimp only
  split
  · rename_i hbound
    have hstands := hsound.stands (hbound.trans (congrArg some hsettled))
    exact ⟨⟨hsound.note .checked trivial hstands, hscope⟩, hsettled⟩
  · exact ⟨hsound, hscope⟩

/-- What a mutation asks for is the document of the scope, if there is a scope. -/
def DocumentScoped (scope : Option TrustedTaskAuthorizationBrowserScope) (targetId tabId snapshotId : String) : Prop :=
  ∀ s, scope = some s → targetId = s.hostTargetId ∧ tabId = s.tabId ∧ snapshotId = s.documentGeneration

/-- After the check of its tab a mutation is backed by the last published snapshot. -/
theorem callBacked_mutation {w : Window} {name targetId tabId snapshotId : String} {args : Json}
    (hw : Settled env scope w) (hscoped : DocumentScoped scope targetId tabId snapshotId)
    (htab : w.host.browser.requireMutationTarget targetId tabId snapshotId = .ok ()) (hnames : NamesTab args targetId tabId) :
    w.host.browser.targetId = some targetId ∧
      CallBacked env scope ⟨name, args, some snapshotId, if w.host.browser.mutationAllowed then some targetId else none⟩ w.moments := by
  obtain ⟨⟨hsound, hscope⟩, hsettled⟩ := hw
  simp only [BrowserSession.requireMutationTarget, BrowserSession.requireExactTarget, BrowserSession.requireBoundTarget,
    bind_eq_ok, require_eq_ok, decide_eq_true_eq, Bool.and_eq_true] at htab
  obtain ⟨-, ⟨-, hbound, hallowed⟩, -, ⟨-, hlatestTab⟩, hid⟩ := htab
  obtain ⟨evidence, boundTarget, latestTab, hlatest, hnamed, hboundTarget, hlatestTab', hresponse, horigin, hinScope⟩ :=
    hsound.backed hsettled snapshotId hid
  cases hbound.symm.trans hboundTarget
  cases hlatestTab.symm.trans hlatestTab'
  refine ⟨hbound, fun _ => ⟨targetId, tabId, snapshotId, evidence, hnames, by rw [if_pos hallowed], rfl, hlatest, hnamed, hresponse⟩,
    fun s hs => ?_, fun s hs _ => ?_⟩
  · obtain ⟨htarget, htab, -⟩ := hscoped s hs
    exact htarget ▸ htab ▸ hnames
  · obtain ⟨-, rfl, rfl⟩ := hscoped s hs
    exact ⟨evidence, hlatest, hresponse, horigin.symm.trans (hinScope s (hscope.trans hs))⟩

/-- A program that leaves the session alone and ends with arguments that name a tab. -/
def ArgsFor (targetId tabId : String) (args : CoreProg) : Prop :=
  ∀ F : Window → Prop, (∀ w ms, F w → F (w.elapse ms)) →
    Triple (fun w _ => F w) args (orError (fun args w _ => F w ∧ NamesTab args targetId tabId) fun _ w _ => F w) F

theorem argsFor_ret {targetId tabId : String} {result : Except ComputerUseError Json}
    (h : ∀ args, result = .ok args → NamesTab args targetId tabId) : ArgsFor targetId tabId (Prog.ret result) := by
  intro F _
  refine triple_ret fun w rest hw => ?_
  cases result with
  | ok args => exact ⟨hw, h args rfl⟩
  | error error => exact hw

theorem argsFor_paths {targetId tabId : String} {checked : Except ComputerUseError Unit} {args : Json → Json}
    (h : ∀ paths, NamesTab (args paths) targetId tabId) :
    ArgsFor targetId tabId ((Prog.ret checked).tryThen fun _ => BrowserSession.validatePaths.tryThen fun paths =>
      Prog.ret (.ok (args paths))) := by
  intro F helapse
  refine triple_tryThen (R := fun _ w _ => F w) (triple_ret fun w rest hw => ?_) fun _ =>
    triple_tryThen (R := fun _ w _ => F w) ?_ fun paths => triple_ret fun w _ hw => ⟨hw, h paths⟩
  · cases checked with
    | ok _ => exact hw
    | error _ => exact hw
  · refine triple_weaken (keeps_asking helapse _) (fun _ _ hw => hw) fun result w rest hw => ?_
    cases result with
    | ok paths => exact hw
    | error error => exact hw

theorem mutate_sound {name targetId tabId snapshotId : String} {args : CoreProg}
    (hscoped : DocumentScoped scope targetId tabId snapshotId) (hargs : ArgsFor targetId tabId args) :
    Triple (fun w _ => Settled env scope w) (BrowserSession.mutate name targetId tabId snapshotId args)
      (fun _ w _ => Sound env scope w) (Sound env scope) := by
  let F : Window → Prop := fun w =>
    Settled env scope w ∧ w.host.browser.requireMutationTarget targetId tabId snapshotId = .ok ()
  refine browserCheck (R := fun _ w => F w) (fun _ _ _ hw => hw.1) (fun _ w hw htab => ⟨hw, htab⟩) fun _ => ?_
  refine triple_tryThen (R := fun args w _ => F w ∧ NamesTab args targetId tabId) ?_ fun args => ?_
  · refine triple_cut (triple_weaken (hargs F fun w ms hw => hw) (fun _ _ hw => hw) fun result w rest hw => ?_)
      fun w hw => hw.1.1
    cases result with
    | ok args => exact hw
    | error error => exact hw.1.1
  · refine triple_weaken (callBrowserTool_asked (some targetId) (F := fun w => F w ∧ NamesTab args targetId tabId)
      fun w hw => ⟨hw.1.1.1, callBacked_mutation hw.1.1 hscoped hw.1.2 hw.2⟩) (fun _ _ hw => hw) fun _ w _ hw => hw.sound

theorem browserAttempt_sound {P : Window → Prop} {call : CoreProg}
    (h : Triple (fun w _ => P w) call (fun _ w _ => Sound env scope w) (Sound env scope)) :
    Triple (fun w _ => P w) (browserAttempt call) (fun _ w _ => Sound env scope w) (Sound env scope) := by
  have hstable := stable_sound env scope
  refine triple_andThen (R := fun _ w _ => Sound env scope w) (triple_andThen h fun result => ?_) fun result => ?_
  · exact keeps_update fun _ hw => keep_finishObservationSensitiveAttempt hstable result hw
  · exact keeps_tryThen (keeps_lift result) fun value => keeps_withImages hstable value

/-- A check leaves the session as it is, and what comes after it starts in the same state. -/
theorem checkedFirst {α : Type} {F : Window → Prop} (f : HostSession → Except RequestError α) {p : α → WindowProg Json}
    (weaken : ∀ w, F w → Sound env scope w)
    (h : ∀ a, Triple (fun w _ => F w) (p a) (fun _ w _ => Sound env scope w) (Sound env scope)) :
    Triple (fun w _ => F w) ((check f).tryThen p) (fun _ w _ => Sound env scope w) (Sound env scope) := by
  have hcheck : KeepsOr F (Sound env scope) (check f) := keepsOr_read weaken _
  exact triple_tryThen hcheck h

theorem browserMutation_sound {granted : WindowProg Unit} {mutation : WindowProg Json} (hgranted : Keeps (Sound env scope) granted)
    (h : Triple (fun w _ => Settled env scope w) mutation (fun _ w _ => Sound env scope w) (Sound env scope)) :
    Keeps (Sound env scope) (browserMutation granted mutation) := by
  refine keeps_tryThen hgranted fun _ => triple_tryThen requireCurrentBrowserEvidenceEpoch_settled fun _ => ?_
  exact checkedFirst _ (fun _ hw => hw.1) fun _ => h

theorem browserClick_sound {request : BrowserClickRequest}
    (hscoped : DocumentScoped scope request.targetId request.tabId request.snapshotId) :
    Keeps (Sound env scope) (browserClick request) :=
  browserMutation_sound (keeps_permitted _ _) <| browserAttempt_sound <| mutate_sound hscoped <|
    argsFor_ret fun _ h => BrowserSession.clickArgs_names h

theorem browserPointer_sound {request : BrowserPointerRequest}
    (hscoped : DocumentScoped scope request.targetId request.tabId request.snapshotId) :
    Keeps (Sound env scope) (browserPointer request) :=
  browserMutation_sound (keeps_permitted _ _) <| browserAttempt_sound <| mutate_sound hscoped <|
    argsFor_ret fun _ h => BrowserSession.pointerArgs_names h

theorem browserSetInputFiles_sound {request : BrowserSetInputFilesRequest}
    (hscoped : DocumentScoped scope request.targetId request.tabId request.snapshotId) :
    Keeps (Sound env scope) (browserSetInputFiles request) :=
  browserMutation_sound (keeps_permitted _ _) <| browserAttempt_sound <| mutate_sound hscoped <|
    argsFor_paths fun _ => BrowserSession.namesTab_tabArgs _ _ _

theorem browserDownload_sound {request : BrowserDownloadRequest}
    (hscoped : DocumentScoped scope request.targetId request.tabId request.snapshotId) :
    Keeps (Sound env scope) (browserDownload request) :=
  browserMutation_sound (keeps_permitted _ _) <| browserAttempt_sound <| mutate_sound hscoped <|
    argsFor_paths fun _ => BrowserSession.namesTab_tabArgs _ _ _

theorem keeps_resolveBrowserTypeRequest {F : Window → Prop} (helapse : ∀ w ms, F w → F (w.elapse ms))
    (request : BrowserTypeRequest) : Keeps F (resolveBrowserTypeRequest env request) := by
  refine keeps_tryThen (keeps_andThen keeps_read fun _ => keeps_lift _) fun _ => ?_
  split
  · exact keeps_tryThen (keeps_lift _) fun _ => keeps_ret _
  · refine keeps_andThen (keeps_asking helapse _) fun allowed => ?_
    split
    · exact keeps_tryThen (keeps_asking helapse _) fun secret => keeps_tryThen (keeps_lift _) fun _ => keeps_ret _
    · exact keeps_ret _

theorem browserType_sound {request : BrowserTypeRequest}
    (hscoped : DocumentScoped scope request.targetId request.tabId request.snapshotId) :
    Keeps (Sound env scope) (browserType env request) := by
  refine browserMutation_sound (keeps_permitted _ _) ?_
  refine triple_tryThen (R := fun _ w _ => Settled env scope w) ?_ fun text => ?_
  · refine triple_cut (triple_weaken (keeps_resolveBrowserTypeRequest settled_elapse request) (fun _ _ hw => hw)
      fun result w rest hw => ?_) fun w hw => hw.1
    cases result with
    | ok text => exact hw
    | error error => exact hw.1
  · cases text with
    | some text =>
      exact browserAttempt_sound <| mutate_sound hscoped <| argsFor_ret fun _ h => BrowserSession.typeArgs_names h
    | none => exact triple_ret fun w _ hw => hw.1

/-! ### Preparation, navigation and dialogs -/

/-- The evidence of the session is of the document of the scope, if there is a scope. -/
def OnDocument (w : Window) : Prop := w.host.requireCurrentTaskAuthorizedBrowserDocument = .ok ()

/-- A call on the document of the scope that mutates nothing. -/
theorem callBacked_document {w : Window} {name targetId tabId : String} {args : Json} (hname : name ∉ mutationTools)
    (hw : Settled env scope w) (hscoped : ∀ s, scope = some s → targetId = s.hostTargetId ∧ tabId = s.tabId)
    (hdocument : OnDocument w) (hnames : NamesTab args targetId tabId) (exactTarget : Option String) :
    CallBacked env scope ⟨name, args, none, exactTarget⟩ w.moments := by
  obtain ⟨⟨hsound, hscope⟩, hsettled⟩ := hw
  refine ⟨fun hmutation => absurd hmutation hname, fun s hs => ?_, fun s hs _ => ?_⟩
  · obtain ⟨htarget, htab⟩ := hscoped s hs
    exact htarget ▸ htab ▸ hnames
  · have hwscope : w.host.browserScope = some s := hscope.trans hs
    simp only [OnDocument, HostSession.requireCurrentTaskAuthorizedBrowserDocument, require_eq_ok, hwscope, Option.all_some,
      Bool.and_eq_true, decide_eq_true_eq] at hdocument
    obtain ⟨⟨⟨-, htab⟩, hid⟩, horigin⟩ := hdocument
    obtain ⟨evidence, -, latestTab, hlatest, -, -, hlatestTab, hresponse, hfrom, -⟩ := hsound.backed hsettled _ hid
    cases htab.symm.trans hlatestTab
    exact ⟨evidence, hlatest, hresponse, hfrom.symm.trans horigin⟩

/-- A call on the bound target, from a session on the document of the scope. -/
theorem documentCall_sound {name targetId tabId : String} {args : Except ComputerUseError Json} (hname : name ∉ mutationTools)
    (hscoped : ∀ s, scope = some s → targetId = s.hostTargetId ∧ tabId = s.tabId)
    (hargs : ∀ a, args = .ok a → NamesTab a targetId tabId) :
    Triple (fun w _ => Settled env scope w ∧ OnDocument w)
      ((BrowserSession.check fun b => do b.requireExactTarget targetId; args).tryThen fun args =>
        BrowserSession.callBrowserTool name args none)
      (fun _ w _ => Sound env scope w) (Sound env scope) := by
  refine browserCheck (R := fun a w => (Settled env scope w ∧ OnDocument w) ∧ NamesTab a targetId tabId ∧
    w.host.browser.targetId = some targetId) (fun _ _ _ hw => hw.1.1) (fun a w hw h => ?_) fun a => ?_
  · simp only [BrowserSession.requireExactTarget, BrowserSession.requireBoundTarget, bind_eq_ok, require_eq_ok,
      decide_eq_true_eq] at h
    obtain ⟨-, ⟨-, hbound, -⟩, hargs'⟩ := h
    exact ⟨hw, hargs a hargs', hbound⟩
  · refine triple_weaken (callBrowserTool_asked (some targetId) fun w hw => ⟨hw.1.1.1, hw.2.2,
      callBacked_document hname hw.1.1 hscoped hw.1.2 hw.2.1 _⟩) (fun _ _ hw => hw) fun _ w _ hw => hw.sound

theorem browserNavigate_sound {request : BrowserNavigateRequest}
    (hscoped : ∀ s, scope = some s → request.targetId = s.hostTargetId ∧ request.tabId = s.tabId) :
    Triple (fun w _ => Settled env scope w ∧ OnDocument w) (browserNavigate env request) (fun _ w _ => Sound env scope w)
      (Sound env scope) := by
  unfold browserNavigate browserInputPermitted permitted
  refine checkedFirst _ (fun _ hw => hw.1.1) fun _ => checkedFirst _ (fun _ hw => hw.1.1) fun _ => browserAttempt_sound ?_
  exact documentCall_sound (show "browser_navigate" ∉ mutationTools by decide) hscoped fun _ h => BrowserSession.navigateArgs_names h

theorem browserDialog_sound {request : BrowserDialogRequest}
    (hscoped : ∀ s, scope = some s → request.targetId = s.hostTargetId ∧ request.tabId = s.tabId) :
    Triple (fun w _ => Settled env scope w ∧ OnDocument w) (browserDialog request) (fun _ w _ => Sound env scope w)
      (Sound env scope) := by
  unfold browserDialog browserInputPermitted permitted
  refine checkedFirst _ (fun _ hw => hw.1.1) fun _ => checkedFirst _ (fun _ hw => hw.1.1) fun _ => browserAttempt_sound ?_
  exact documentCall_sound (show "browser_dialog" ∉ mutationTools by decide) hscoped fun _ h => BrowserSession.dialogArgs_names h

/-- A preparation is refused under a scope; without one it needs no grounds. -/
theorem browserPrepare_sound {request : BrowserPrepareRequest} (hfree : scope = none) :
    Keeps (Sound env scope) (browserPrepare request) := by
  refine keeps_tryThen (keeps_permitted _ _) fun _ => browserAttempt_sound ?_
  refine browserCheck (R := fun _ w => Sound env scope w) (fun _ _ _ hw => hw) (fun _ _ hw _ => hw) fun args => ?_
  -- the bound target may be any; it is carried along
  intro w script hw
  refine triple_weaken (callBrowserTool_asked w.host.browser.targetId (F := fun w' => w' = w) fun w' hw' => ?_)
    (fun _ _ hw' => hw') (fun _ w' _ hw' => hw'.sound) w script rfl
  subst hw'
  refine ⟨hw, rfl, fun h => absurd h (show "browser_prepare" ∉ mutationTools by decide), fun s hs => ?_, fun s hs => ?_⟩
  · rw [hfree] at hs
    cases hs
  · rw [hfree] at hs
    cases hs

/-! ### Extensions -/

/-- Nothing of the browser is retained. -/
def Bare (env : WindowEnv) (scope : Option TrustedTaskAuthorizationBrowserScope) (w : Window) : Prop :=
  Sound env scope w ∧ w.host.browser.latestSnapshotId = none ∧ w.host.extensionObservation = none

theorem Sound.bare {w : Window} (h : Sound env scope w) : Bare env scope w.invalidateObservations :=
  ⟨(stable_sound env scope).invalidate w h, rfl, rfl⟩

@[simp] theorem evidence_publishExtension (w : Window) (observation : BrowserExtension.ExtensionObservation) :
    (w.publishExtension observation).evidence = (w.evidence.note .extensionPublished).bind.retain := by
  rw [← evidence_note, ← evidence_publish]
  rfl

theorem publishExtension_sound {w : Window} (observation : BrowserExtension.ExtensionObservation) (h : Bare env scope w) :
    Sound env scope (w.publishExtension observation) := by
  obtain ⟨⟨hsound, hscope⟩, hcleared, hnone⟩ := h
  refine ⟨?_, ?_⟩
  · rw [evidence_publishExtension]
    refine Evidence.Sound.retain (hsound.bind .extensionPublished w.host.browser w.host.takenAt.browser trivial rfl (fun hid => absurd hcleared hid) (fun _ hextension => ?_)
      (Evidence.Backed.of_cleared hcleared))
    have hfalse : w.host.extensionObservation.isSome = true := hextension
    rw [hnone] at hfalse
    cases hfalse
  · rw [evidence_publishExtension]
    show (w.evidence.note .extensionPublished).bind.scope = scope
    unfold Evidence.bind
    split
    · exact hscope
    · exact hscope

theorem keeps_authorizeExtensionInput (request : BrowserExtension.BrowserExtensionCall) :
    Keeps (Sound env scope) (authorizeExtensionInput env request) := by
  have hstable := stable_sound env scope
  refine keeps_tryThen (keeps_andThen (keeps_coreCall hstable) fun _ => keeps_lift _) fun state =>
    keeps_tryThen (keeps_observeState hstable state) fun _ => keeps_andThen (keeps_readinessSample hstable) fun readiness =>
      keeps_tryThen (keeps_modify fun _ hw => keep_observeInputReadiness hstable readiness hw) fun _ =>
        keeps_tryThen (keeps_check _) fun _ => keeps_tryThen ?_ fun _ => keeps_tryThen keeps_read fun _ =>
          keeps_decision hstable
  refine triple_weaken requireCurrentBrowserEvidenceEpoch_settled (fun _ _ hw => hw) fun result w rest hw => ?_
  cases result with
  | ok _ => exact hw.1
  | error _ => exact hw

theorem browserExtensionCall_sound (request : BrowserExtension.BrowserExtensionCall) :
    Keeps (Sound env scope) (browserExtensionCall env request) := by
  have hstable := stable_sound env scope
  refine keeps_tryThen (keeps_check _) fun _ => keeps_tryThen (keeps_decision hstable) fun _ => keeps_tryThen ?_ fun _ => ?_
  · split
    · exact keeps_ret _
    · exact keeps_orInvalidate hstable (keeps_authorizeExtensionInput request)
  · refine triple_tryThen (R := fun _ w _ => Bare env scope w) (triple_update fun w _ hw => Sound.bare hw) fun _ => ?_
    refine triple_tryThen (R := fun _ w _ => Bare env scope w) ?_ fun response => ?_
    · refine triple_cut (triple_weaken (keeps_asking (I := Bare env scope) (fun _ _ hw => hw) _) (fun _ _ hw => hw)
        fun result w rest hw => ?_) fun w hw => hw.1
      cases result with
      | ok _ => exact hw
      | error _ => exact hw.1
    · unfold finishExtensionCall
      split
      · refine triple_update fun w rest hw => ?_
        split
        · exact hw.1
        · exact publishExtension_sound _ hw
      · exact fun w script hw => keeps_tryThen (keeps_invalidate hstable) (fun _ => keeps_ret _) w script hw.1

end Window
end DccCua
