import DccCua.Lib.Runs
import DccCua.Theorems.EvidenceRuns

/-! # The pages of an ancestor-scoped snapshot

A snapshot of the subtree of an ancestor comes in pages. The first one is anchored at the element that was asked
for; each later one is asked for with the token of the one before, and a browser session tracks only the token of
its last page. Every call forgets it before it goes out. So the pages between two first ones are pages of one snapshot. -/

namespace DccCua

open Checks Runs Script

/-- What is asked of a browser session. -/
inductive BrowserRequest where
  | prepare (request : BrowserPrepareRequest)
  | snapshot (request : BrowserSnapshotRequest)
  | navigate (request : BrowserNavigateRequest)
  | click (request : BrowserClickRequest)
  | typeText (request : BrowserTypeRequest) (text : String)
  | pointer (request : BrowserPointerRequest)
  | setInputFiles (request : BrowserSetInputFilesRequest)
  | download (request : BrowserDownloadRequest)
  | dialog (request : BrowserDialogRequest)
  | invalidateSnapshot
  | bindAuthorizedExactTarget (targetId : String)

/-- A page: the request and the answer that was taken for it. -/
structure AncestorPage where
  request : BrowserSnapshotRequest
  answer : Json

namespace AncestorPage

def structured (page : AncestorPage) : Json := page.answer.get "structuredContent"
def snapshot (page : AncestorPage) : Json := page.structured.get "snapshot"
def scope (page : AncestorPage) : Option String := (page.snapshot.get "scope").asStr
def anchor (page : AncestorPage) : Json := page.snapshot.get "scope_anchor"
def targetId (page : AncestorPage) : Option String := (page.structured.get "target_id").asStr
def tabId (page : AncestorPage) : Option String := (page.structured.get "tab_id").asStr
def snapshotId (page : AncestorPage) : Option String := (page.snapshot.get "id").asStr
def continuation (page : AncestorPage) : Option String := (page.snapshot.get "continuation").asStr

/-- The anchor is a proper ancestor. -/
def Above (page : AncestorPage) : Prop :=
  match page.anchor.get "distance" with
  | .int distance => 0 < distance
  | .real distance => 0 < distance
  | _ => False

/-- Two pages of one snapshot of one subtree. -/
structure SameSubtree (page earlier : AncestorPage) : Prop where
  target : page.targetId = earlier.targetId
  tab : page.tabId = earlier.tabId
  snapshotId : page.snapshotId = earlier.snapshotId
  anchor : Json.same page.anchor earlier.anchor = true

/-- The page was asked for with the token of another one, and is of the same snapshot. -/
structure Continues (page previous : AncestorPage) : Prop where
  scope : page.scope = some "continuation"
  requested : page.request.continuation.isSome = true ∧ page.request.continuation = previous.continuation
  requestedTab : page.request.targetId = page.targetId ∧ page.request.tabId = page.tabId
  subtree : page.SameSubtree previous

theorem SameSubtree.trans {page previous earlier : AncestorPage} (h : page.SameSubtree previous)
    (h' : previous.SameSubtree earlier) : page.SameSubtree earlier :=
  ⟨h.target.trans h'.target, h.tab.trans h'.tab, h.snapshotId.trans h'.snapshotId, Json.same_trans h.anchor h'.anchor⟩

end AncestorPage

namespace BrowserSession

/-- A change of the session that asks nobody. -/
def change (f : BrowserSession → Except ComputerUseError BrowserSession) : CoreProg :=
  Prog.update fun w =>
    match f w.host.browser with
    | .error error => (.error error, w)
    | .ok browser => (.ok .null, { w with host := { w.host with browser := browser } })

def serve (env : WindowEnv) : BrowserRequest → CoreProg
  | .prepare request => prepare request
  | .snapshot request => snapshot env request
  | .navigate request => navigate request
  | .click request => click request
  | .typeText request text => typeText request text
  | .pointer request => pointer request
  | .setInputFiles request => setInputFiles request
  | .download request => download request
  | .dialog request => dialog request
  | .invalidateSnapshot => change fun b => .ok b.clearSnapshot
  | .bindAuthorizedExactTarget targetId => change fun b => b.bindAuthorizedExactTarget targetId

/-- A run of requests. Each comes with what its call meets, and gives nothing if it is dropped. -/
def machine (env : WindowEnv) : Machine Window (BrowserRequest × List WindowEvent) (Option (Except ComputerUseError Json)) where
  step w input :=
    match serve env input.1 w input.2 with
    | .done result w _ => (some result, w)
    | .cut w => (none, w)

abbrev Step := Call Window (BrowserRequest × List WindowEvent) (Option (Except ComputerUseError Json))

/-- The calls of the browser so far. -/
def calls (w : Window) : Nat :=
  w.moments.countP fun
    | .browserCalled _ => true
    | _ => false

/-- A change that was not refused. -/
def Invalidates (c : Step) : Prop :=
  (c.input.1 = .invalidateSnapshot ∨ ∃ targetId, c.input.1 = .bindAuthorizedExactTarget targetId) ∧
    ∃ value, c.output = some (.ok value)

/-- The browser was not called, and nothing was invalidated. -/
def Quiet (c : Step) : Prop := calls c.after = calls c.before ∧ ¬Invalidates c

/-- The answer of a call that was accepted as a page: one was expected, and the answer passed for it. -/
def pageOf (c : Step) : Option AncestorPage :=
  match c.input.1, c.output with
  | .snapshot request, some (.ok answer) =>
    match c.before.host.browser.ancestorScopeExpectation request with
    | .error _ => none
    | .ok expected =>
      match validateAncestorScopeResponse answer expected with
      | .ok (some _) => some ⟨request, answer⟩
      | _ => none
  | _, _ => none

/-- After these calls the page directly follows the page that it continues. -/
def Follows (earlier : List Step) (page : AncestorPage) : Prop :=
  ∃ before previous quiet p, earlier = before ++ previous :: quiet ∧ (∀ c ∈ quiet, Quiet c) ∧ pageOf previous = some p ∧
    page.Continues p

/-- A session to which nothing is bound yet. -/
def fresh (w : Window) : Window := { w with host := { w.host with browser := .empty } }

/-! ### Answers -/

/-- What the answer of a page says. -/
structure Validated (expected : AncestorScopeExpectation) (page : AncestorPage) (scope : ValidatedAncestorScope) : Prop where
  target : page.targetId = some expected.target.1
  tab : page.tabId = some expected.target.2
  snapshotId : page.snapshotId = some scope.snapshotId
  anchor : page.anchor = scope.anchor
  continuation : page.continuation = scope.continuation
  evidence : ancestorEvidenceMatches expected page.snapshot scope.anchor scope.snapshotId = true
  rotated : ∀ pending, expected = .continuation pending → scope.continuation ≠ some pending.token

/-- The token that the session tracks. -/
def pending (w : Window) : Option PendingAncestorContinuation := w.host.browser.pendingAncestorContinuation

/-- Nothing has come of the request, or no token is tracked. -/
def Forgot (w₀ w : Window) : Prop := (w.host.browser = w₀.host.browser ∧ calls w = calls w₀) ∨ pending w = none

/-- The browser was called, and no token is tracked. -/
def Called (w₀ w : Window) : Prop := pending w = none ∧ calls w₀ < calls w

theorem Called.advance {w₀ w : Window} (h : Called w₀ w) (n : Nat) : Called w₀ (w.advance n) := by
  unfold Window.advance
  split
  · exact h
  · exact h

theorem call_called {w₀ : Window} (name : String) (args : Json) (snapshotId : Option String) :
    Triple (fun w _ => w = w₀) (callBrowserTool name args snapshotId) (fun _ w _ => Called w₀ w) (Called w₀) := by
  refine triple_andThen (R := fun _ w _ => Called w₀ w) (triple_update fun w _ hw => ?_) fun _ =>
    Window.keeps_awaiting (fun _ _ h => h) (fun _ n h => h.advance n) _
  subst hw
  refine ⟨rfl, ?_⟩
  show calls w < List.countP _ (_ :: w.moments)
  rw [List.countP_cons_of_pos rfl]
  exact Nat.lt_succ_self _

theorem keeps_callBrowserTool {w₀ : Window} (name : String) (args : Json) (snapshotId : Option String) :
    Keeps (Forgot w₀) (callBrowserTool name args snapshotId) := fun w script _ =>
  triple_weaken (triple_cut (call_called name args snapshotId) fun _ h => Or.inr h.1) (fun _ _ h => h)
    (fun _ _ _ h => Or.inr h.1) w script rfl

theorem keeps_mutate {w₀ : Window} {name targetId tabId snapshotId : String} {args : CoreProg} (h : Keeps (Forgot w₀) args) :
    Keeps (Forgot w₀) (mutate name targetId tabId snapshotId args) :=
  keeps_tryThen keeps_read fun _ => keeps_tryThen h fun _ => keeps_callBrowserTool _ _ _

theorem keeps_validatePaths {w₀ : Window} : Keeps (Forgot w₀) validatePaths :=
  Window.keeps_asking (fun _ _ h => h) _

/-- What the session tracks after an answer that it took. -/
def Stored (request : BrowserSnapshotRequest) (expected : Option AncestorScopeExpectation) (answer : Json)
    (tracked : Option PendingAncestorContinuation) : Prop :=
  browserResultIsStructuredRefusal answer = .ok true ∧ tracked = none ∨
    ∃ scope, validateAncestorScopeResponse answer expected = .ok scope ∧ tracked = scope.bind fun scope =>
      scope.continuation.map fun token =>
        ⟨token, request.targetId.getD "", request.tabId.getD "", scope.snapshotId, scope.anchor⟩

/-- A snapshot that ends with an answer. -/
structure Answered (request : BrowserSnapshotRequest) (w₀ : Window) (answer : Json) (w : Window) : Prop where
  called : calls w₀ < calls w
  valid : validateAncestorScopeRequest request = .ok ()
  tab : request.targetId.isSome = true → request.tabId.isSome = true
  stored : ∃ expected, w₀.host.browser.ancestorScopeExpectation request = .ok expected ∧
    Stored request expected answer (pending w)

/-- The result of a snapshot. -/
def Taken (request : BrowserSnapshotRequest) (w₀ : Window) : Except ComputerUseError Json → Window → List WindowEvent → Prop :=
  orError (fun answer w _ => Answered request w₀ answer w) fun _ w _ => Forgot w₀ w

/-- A request that calls the browser for no snapshot. -/
def Native : BrowserRequest → Prop
  | .snapshot _ => False
  | .invalidateSnapshot => False
  | .bindAuthorizedExactTarget _ => False
  | _ => True

theorem keeps_serve {env : WindowEnv} {w₀ : Window} : ∀ {request : BrowserRequest}, Native request →
    Keeps (Forgot w₀) (serve env request)
  | .prepare _, _ => keeps_tryThen keeps_read fun _ => keeps_callBrowserTool _ _ _
  | .navigate _, _ => keeps_tryThen keeps_read fun _ => keeps_callBrowserTool _ _ _
  | .dialog _, _ => keeps_tryThen keeps_read fun _ => keeps_callBrowserTool _ _ _
  | .click _, _ => keeps_mutate (keeps_ret _)
  | .typeText _ _, _ => keeps_mutate (keeps_ret _)
  | .pointer _, _ => keeps_mutate (keeps_ret _)
  | .setInputFiles _, _ =>
    keeps_mutate (keeps_tryThen (keeps_ret _) fun _ => keeps_tryThen keeps_validatePaths fun _ => keeps_ret _)
  | .download _, _ =>
    keeps_mutate (keeps_tryThen (keeps_ret _) fun _ => keeps_tryThen keeps_validatePaths fun _ => keeps_ret _)

/-! ### Steps -/

section
variable {env : WindowEnv} {w : Window} {inputs : List (BrowserRequest × List WindowEvent)}

end

def sampleStart : Window := fresh ⟨unleasedSession 1000, 0, []⟩

end BrowserSession
end DccCua
