import DccCua.Theorems.WindowKeeps

/-! # The evidence of a window session

What a session retains as evidence, and by which epochs it knows whether the evidence is current. `Evidence` is this
part of a session with the steps that change it; the steps of a session are those of its evidence. Evidence is sound
when everything that is retained was taken in an epoch that the session still stands by, when a bound epoch that is
the current one was bound by a publication that nothing has given up since, and when every check that passed and
every call that went out had its grounds in what had happened before. -/

namespace DccCua

open Runs Script

/-- A snapshot that was published: the call that asked for it, and the response. -/
structure PublishedSnapshot where
  call : BrowserCall
  response : Json

/-- A publication that no change of the epoch and no invalidation has come after. -/
def evidenceStands : List WindowMoment → Bool
  | [] => false
  | .published _ _ :: _ | .extensionPublished :: _ => true
  | .advanced :: _ | .discarded :: _ => false
  | .browserCalled _ :: earlier | .checked :: earlier | .operated :: earlier => evidenceStands earlier

def latestCall : List WindowMoment → Option BrowserCall
  | [] => none
  | .browserCalled call :: _ => some call
  | _ :: earlier => latestCall earlier

/-- The last published snapshot, if no browser call, no change of the epoch and no invalidation has come after it. -/
def latestEvidence : List WindowMoment → Option PublishedSnapshot
  | [] => none
  | .published response _ :: earlier => (latestCall earlier).map fun call => ⟨call, response⟩
  | .extensionPublished :: _ | .advanced :: _ | .discarded :: _ | .browserCalled _ :: _ => none
  | .checked :: earlier | .operated :: earlier => latestEvidence earlier

/-- The arguments of a call name the tab. -/
def NamesTab (args : Json) (targetId tabId : String) : Prop :=
  args.get "target_id" = .str targetId ∧ args.get "tab_id" = .str tabId

def mutationTools : List String :=
  ["browser_click", "browser_type", "browser_pointer", "browser_set_input_files", "browser_download"]

/-- The calls that a lease with an exact browser scope allows only in its document. -/
def documentTools : List String := mutationTools ++ ["browser_navigate", "browser_dialog"]

variable (env : WindowEnv)

/-- A mutation goes to the exact target that is bound, and to the tab of the latest evidence, whose snapshot is the
    one that its request is about. -/
def MutationBacked (call : BrowserCall) (earlier : List WindowMoment) : Prop :=
  ∃ targetId tabId snapshotId evidence, NamesTab call.args targetId tabId ∧ call.exactTarget = some targetId ∧
    call.snapshotId = some snapshotId ∧ latestEvidence earlier = some evidence ∧ NamesTab evidence.call.args targetId tabId ∧
    browserSnapshotId evidence.response = some snapshotId

/-- The latest evidence is of the document of the scope. -/
def InDocument (scope : TrustedTaskAuthorizationBrowserScope) (earlier : List WindowMoment) : Prop :=
  ∃ evidence, latestEvidence earlier = some evidence ∧
    browserSnapshotId evidence.response = some scope.documentGeneration ∧
    browserSnapshotOrigin env.parseUrl evidence.response scope.tabId = some scope.origin

structure CallBacked (scope : Option TrustedTaskAuthorizationBrowserScope) (call : BrowserCall) (earlier : List WindowMoment) :
    Prop where
  mutation : call.name ∈ mutationTools → MutationBacked call earlier
  tab : ∀ s, scope = some s → NamesTab call.args s.hostTargetId s.tabId
  document : ∀ s, scope = some s → call.name ∈ documentTools → InDocument env s earlier

/-- The grounds of a moment. -/
def Grounds (scope : Option TrustedTaskAuthorizationBrowserScope) : WindowMoment → List WindowMoment → Prop
  | .checked, earlier => evidenceStands earlier = true
  | .browserCalled call, earlier => CallBacked env scope call earlier
  | _, _ => True

/-! ### Evidence and its steps -/

structure Evidence where
  epoch : Nat
  synchronized : Nat
  browserEpoch : Option Nat
  browser : BrowserSession
  native : Bool
  extension : Bool
  takenAt : TakenAt
  scope : Option TrustedTaskAuthorizationBrowserScope
  moments : List WindowMoment

namespace Evidence

def note (e : Evidence) (moment : WindowMoment) : Evidence := { e with moments := moment :: e.moments }

def advance (e : Evidence) (n : Nat) : Evidence := if n = 0 then e else { e with epoch := e.epoch + n }.note .advanced

def clearNative (e : Evidence) : Evidence := { e with native := false }

def discard (e : Evidence) : Evidence :=
  { e with browserEpoch := none, browser := e.browser.clearSnapshot, extension := false }.note .discarded

def catchUp (e : Evidence) : Evidence := { e with synchronized := e.epoch }

def synchronize (e : Evidence) : Evidence :=
  if e.synchronized ≠ e.epoch then e.clearNative.discard.catchUp else e

/-- The synchronization of a publication. -/
def bind (e : Evidence) : Evidence :=
  let e := if e.synchronized ≠ e.epoch then e.clearNative.catchUp else e
  { e with browserEpoch := some e.epoch }

def invalidate (e : Evidence) : Evidence := e.catchUp.clearNative.discard

/-- An observation is recorded as taken now. -/
def record (e : Evidence) : Evidence := { e with native := true, takenAt := { e.takenAt with native := e.epoch } }

/-- A call goes out: the snapshot of the browser is used up. -/
def call (e : Evidence) (call : BrowserCall) : Evidence :=
  { e with browser := e.browser.clearSnapshot }.note (.browserCalled call)

/-- What the browser session makes of a response is taken now. -/
def store (e : Evidence) (browser : BrowserSession) : Evidence :=
  { e with browser := browser, takenAt := { e.takenAt with browser := e.epoch } }

/-- An observation of an extension is retained as taken now. -/
def retain (e : Evidence) : Evidence := { e with extension := true, takenAt := { e.takenAt with extension := e.epoch } }

/-- The retained snapshot of the browser is the last published one. -/
def Backed (e : Evidence) : Prop :=
  ∀ snapshotId, e.browser.latestSnapshotId = some snapshotId → ∃ evidence targetId tabId,
    latestEvidence e.moments = some evidence ∧ NamesTab evidence.call.args targetId tabId ∧
    e.browser.targetId = some targetId ∧ e.browser.latestTabId = some tabId ∧
    browserSnapshotId evidence.response = some snapshotId ∧
    e.browser.latestOrigin = browserSnapshotOrigin env.parseUrl evidence.response tabId ∧
    ∀ s, e.scope = some s → e.browser.latestOrigin = some s.origin

/-- Taken in an epoch that the session stands by. -/
def Current (e : Evidence) (taken : Nat) : Prop := e.synchronized ≤ taken ∧ taken ≤ e.epoch

structure Sound (e : Evidence) : Prop where
  le : e.synchronized ≤ e.epoch
  bound : ∀ n, e.browserEpoch = some n → n ≤ e.synchronized
  stands : e.browserEpoch = some e.epoch → evidenceStands e.moments = true
  backed : e.synchronized = e.epoch → e.Backed env
  native : e.native = true → e.Current e.takenAt.native
  browser : e.browser.latestSnapshotId ≠ none → e.Current e.takenAt.browser
  extension : (∀ response, .published response true ∉ e.moments) → e.extension = true → e.Current e.takenAt.extension
  justified : Justified (Grounds env e.scope) e.moments

variable {env} {e : Evidence}

theorem Backed.of_cleared (h : e.browser.latestSnapshotId = none) : e.Backed env := by
  intro snapshotId hid
  rw [h] at hid
  cases hid

/-- A moment that nothing rests on. -/
def Silent : WindowMoment → Prop
  | .operated | .checked => True
  | _ => False

theorem evidenceStands_silent {moment : WindowMoment} (hm : Silent moment) (earlier : List WindowMoment) :
    evidenceStands (moment :: earlier) = evidenceStands earlier := by
  cases moment <;> first | rfl | exact absurd hm id

theorem latestEvidence_silent {moment : WindowMoment} (hm : Silent moment) (earlier : List WindowMoment) :
    latestEvidence (moment :: earlier) = latestEvidence earlier := by
  cases moment <;> first | rfl | exact absurd hm id

theorem Sound.note (h : e.Sound env) (moment : WindowMoment) (hm : Silent moment)
    (hgrounds : Grounds env e.scope moment e.moments) : (e.note moment).Sound env where
  le := h.le
  bound := h.bound
  stands hbound := (evidenceStands_silent hm e.moments).trans (h.stands hbound)
  backed heq := by
    intro snapshotId hid
    obtain ⟨evidence, targetId, tabId, hlatest, hrest⟩ := h.backed heq snapshotId hid
    exact ⟨evidence, targetId, tabId, (latestEvidence_silent hm e.moments).trans hlatest, hrest⟩
  native := h.native
  browser := h.browser
  extension hnone := h.extension fun response hmem => hnone response (List.mem_cons_of_mem _ hmem)
  justified := h.justified.cons hgrounds

theorem Sound.advance (h : e.Sound env) (n : Nat) : (e.advance n).Sound env := by
  unfold Evidence.advance
  split
  · exact h
  · rename_i hn
    have hle := h.le
    have later : ∀ taken, e.Current taken → e.synchronized ≤ taken ∧ taken ≤ e.epoch + n :=
      fun taken ht => ⟨ht.1, Nat.le_trans ht.2 (Nat.le_add_right _ _)⟩
    refine ⟨Nat.le_trans hle (Nat.le_add_right _ _), h.bound, fun hbound => ?_, fun heq => ?_,
      fun hnative => later _ (h.native hnative), fun hbrowser => later _ (h.browser hbrowser),
      fun hnone hextension => later _ (h.extension (fun response hmem => hnone response (List.mem_cons_of_mem _ hmem)) hextension),
      h.justified.cons trivial⟩
    · have := h.bound _ hbound
      dsimp only [Evidence.note] at this
      omega
    · dsimp only [Evidence.note] at heq
      omega

theorem Sound.clearNative (h : e.Sound env) : e.clearNative.Sound env :=
  ⟨h.le, h.bound, h.stands, h.backed, fun hnative => Bool.noConfusion hnative, h.browser, h.extension, h.justified⟩

theorem Sound.discard (h : e.Sound env) : e.discard.Sound env where
  le := h.le
  bound n hn := by cases hn
  stands hbound := by cases hbound
  backed _ := Backed.of_cleared rfl
  native := h.native
  browser hbrowser := absurd rfl hbrowser
  extension _ hextension := Bool.noConfusion hextension
  justified := h.justified.cons trivial

/-- After everything is given up the session may catch up with the epoch. -/
theorem Sound.catchUp (h : e.Sound env) (hnative : e.native = false) (hbrowser : e.browser.latestSnapshotId = none)
    (hextension : e.extension = false) (hbound : e.browserEpoch = none) : e.catchUp.Sound env where
  le := Nat.le_refl _
  bound n hn := by
    dsimp only [Evidence.catchUp] at hn
    rw [hbound] at hn
    cases hn
  stands := h.stands
  backed _ := Backed.of_cleared hbrowser
  native hn := by
    dsimp only [Evidence.catchUp] at hn
    rw [hnative] at hn
    cases hn
  browser hb := absurd hbrowser hb
  extension _ hretained := by
    dsimp only [Evidence.catchUp] at hretained
    rw [hextension] at hretained
    cases hretained
  justified := h.justified

theorem Sound.synchronize (h : e.Sound env) : e.synchronize.Sound env := by
  unfold Evidence.synchronize
  split
  · exact h.clearNative.discard.catchUp rfl rfl rfl rfl
  · exact h

theorem Sound.invalidate (h : e.Sound env) : e.invalidate.Sound env :=
  (h.clearNative.discard.catchUp rfl rfl rfl rfl : e.clearNative.discard.catchUp.Sound env)

theorem Sound.record (h : e.Sound env) : e.record.Sound env :=
  ⟨h.le, h.bound, h.stands, h.backed, fun _ => ⟨h.le, Nat.le_refl _⟩, h.browser, h.extension, h.justified⟩

theorem Sound.call (h : e.Sound env) (call : BrowserCall) (hcall : CallBacked env e.scope call e.moments) :
    (e.call call).Sound env where
  le := h.le
  bound := h.bound
  stands := h.stands
  backed _ := Backed.of_cleared rfl
  native := h.native
  browser hbrowser := absurd rfl hbrowser
  extension hnone := h.extension fun response hmem => hnone response (List.mem_cons_of_mem _ hmem)
  justified := h.justified.cons hcall

theorem Sound.retain (h : e.Sound env) : e.retain.Sound env :=
  ⟨h.le, h.bound, h.stands, h.backed, h.native, h.browser, fun _ _ => ⟨h.le, Nat.le_refl _⟩, h.justified⟩

/-- A response that was taken in and given up again. -/
theorem Sound.store_discard (h : e.Sound env) (browser : BrowserSession) : (e.store browser).discard.Sound env where
  le := h.le
  bound n hn := by cases hn
  stands hbound := by cases hbound
  backed _ := Backed.of_cleared rfl
  native := h.native
  browser hbrowser := absurd rfl hbrowser
  extension _ hextension := Bool.noConfusion hextension
  justified := h.justified.cons trivial

/-- A publication binds the epoch: what was retained before a change is gone, and what is published was taken now. An
    observation of an extension stays retained; over a change of the epoch the moment tells it. -/
theorem Sound.bind (h : e.Sound env) (moment : WindowMoment) (browser : BrowserSession) (taken : Nat)
    (hgrounds : Grounds env e.scope moment e.moments) (hstands : evidenceStands (moment :: e.moments) = true)
    (htaken : browser.latestSnapshotId ≠ none → taken = e.epoch)
    (htold : e.synchronized ≠ e.epoch → e.extension = true → ∃ response, moment = .published response true)
    (hbacked : Evidence.Backed env { e with browser := browser, moments := moment :: e.moments }) :
    (Evidence.note { e with browser := browser, takenAt := { e.takenAt with browser := taken } } moment).bind.Sound env := by
  have hbrowser : browser.latestSnapshotId ≠ none → e.synchronized ≤ taken ∧ taken ≤ e.epoch := fun hid =>
    ⟨(htaken hid).symm ▸ h.le, Nat.le_of_eq (htaken hid)⟩
  unfold Evidence.bind
  dsimp only
  split
  · rename_i heq
    refine ⟨Nat.le_refl _, fun n hn => Nat.le_of_eq (Option.some.inj hn).symm, fun _ => hstands, fun _ => hbacked,
      fun hn => Bool.noConfusion hn, fun hid => ⟨Nat.le_of_eq (htaken hid).symm, (hbrowser hid).2⟩,
      fun hnone hextension => ?_, h.justified.cons hgrounds⟩
    obtain ⟨response, rfl⟩ := htold heq hextension
    exact absurd List.mem_cons_self (hnone response)
  · rename_i heq
    have hsync : e.synchronized = e.epoch := not_not.mp heq
    exact ⟨h.le, fun n hn => Nat.le_of_eq ((Option.some.inj hn).symm.trans hsync.symm), fun _ => hstands, fun _ => hbacked,
      h.native, hbrowser, fun hnone => h.extension fun response hmem => hnone response (List.mem_cons_of_mem _ hmem),
      h.justified.cons hgrounds⟩

@[simp] theorem synchronize_synchronized : e.synchronize.synchronized = e.epoch := by
  unfold Evidence.synchronize
  split
  · rfl
  · rename_i heq
    exact not_not.mp heq

@[simp] theorem advance_scope (n : Nat) : (e.advance n).scope = e.scope := by
  unfold Evidence.advance
  split <;> rfl

@[simp] theorem synchronize_scope : e.synchronize.scope = e.scope := by
  unfold Evidence.synchronize
  split <;> rfl

@[simp] theorem synchronize_epoch : e.synchronize.epoch = e.epoch := by
  unfold Evidence.synchronize
  split <;> rfl

end Evidence

/-! ### The evidence of a session -/

namespace Window

def evidence (w : Window) : Evidence where
  epoch := w.host.evidenceEpoch
  synchronized := w.host.synchronizedActionEvidenceEpoch
  browserEpoch := w.host.browserEvidenceEpoch
  browser := w.host.browser
  native := w.host.latestObservationId.isSome || w.host.latestAccessibilityStateId.isSome
  extension := w.host.extensionObservation.isSome
  takenAt := w.host.takenAt
  scope := w.host.browserScope
  moments := w.moments

@[simp] theorem evidence_note (w : Window) (moment : WindowMoment) : (w.note moment).evidence = w.evidence.note moment := rfl

@[simp] theorem evidence_advance (w : Window) (n : Nat) : (w.advance n).evidence = w.evidence.advance n := by
  unfold Window.advance Evidence.advance
  split <;> rfl

@[simp] theorem evidence_clearNative (w : Window) : w.clearNativeObservationCaches.evidence = w.evidence.clearNative := rfl

@[simp] theorem evidence_discard (w : Window) : w.discardBrowserEvidence.evidence = w.evidence.discard := rfl

@[simp] theorem evidence_invalidate (w : Window) : w.invalidateObservations.evidence = w.evidence.invalidate := rfl

@[simp] theorem evidence_synchronize (w : Window) : w.synchronizeActionEvidenceEpoch.evidence = w.evidence.synchronize := by
  by_cases h : w.host.synchronizedActionEvidenceEpoch = w.host.evidenceEpoch
  · simp [synchronizeActionEvidenceEpoch, synchronizeActionEvidenceEpochWith, evidenceEpochSyncPlan, Evidence.synchronize,
      evidence, h]
  · simp [synchronizeActionEvidenceEpoch, synchronizeActionEvidenceEpochWith, evidenceEpochSyncPlan, Evidence.synchronize,
      evidence, h, Evidence.clearNative, Evidence.discard, Evidence.catchUp, Evidence.note, clearNativeObservationCaches,
      HostSession.clearNativeObservationCaches, discardBrowserEvidence, note, HostSession.browserScope]

@[simp] theorem evidence_publish (w : Window) :
    (w.synchronizeActionEvidenceEpochWith .browserSnapshot).evidence = w.evidence.bind := by
  by_cases h : w.host.synchronizedActionEvidenceEpoch = w.host.evidenceEpoch
  · simp [synchronizeActionEvidenceEpochWith, evidenceEpochSyncPlan, Evidence.bind, evidence, h, HostSession.browserScope]
  · simp [synchronizeActionEvidenceEpochWith, evidenceEpochSyncPlan, Evidence.bind, evidence, h, Evidence.clearNative,
      Evidence.catchUp, clearNativeObservationCaches, HostSession.clearNativeObservationCaches, HostSession.browserScope]

@[simp] theorem evidence_record (w : Window) (observationId : String) (accessibility : Option Json) :
    ({ w with host := w.host.recordObservation observationId accessibility } : Window).evidence = w.evidence.record := by
  simp [evidence, HostSession.recordObservation, Evidence.record, HostSession.browserScope]

/-- What a session with this browser scope retains is sound. -/
def Sound (env : WindowEnv) (scope : Option TrustedTaskAuthorizationBrowserScope) (w : Window) : Prop :=
  w.evidence.Sound env ∧ w.evidence.scope = scope

theorem stable_sound (env : WindowEnv) (scope : Option TrustedTaskAuthorizationBrowserScope) : Stable (Sound env scope) where
  elapse _ _ h := h
  advance w n h := by
    unfold Sound
    rw [evidence_advance]
    exact ⟨h.1.advance n, by simpa using h.2⟩
  synchronize w h := by
    unfold Sound
    rw [evidence_synchronize]
    exact ⟨h.1.synchronize, by simpa using h.2⟩
  invalidate _ h := ⟨h.1.invalidate, h.2⟩
  discard _ h := ⟨h.1.discard, h.2⟩
  clearNative _ h := ⟨h.1.clearNative, h.2⟩
  record w observationId accessibility h := by
    unfold Sound
    rw [evidence_record]
    exact ⟨h.1.record, h.2⟩
  events _ _ h := h
  interrupt _ h := h

theorem sound_operated {env : WindowEnv} {scope : Option TrustedTaskAuthorizationBrowserScope} (w : Window)
    (h : Sound env scope w) : Sound env scope (w.note .operated) := ⟨h.1.note _ trivial trivial, h.2⟩

end Window
end DccCua
