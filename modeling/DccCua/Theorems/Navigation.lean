import DccCua.Extension.Navigation
import DccCua.Theorems.ExtensionMessages

/-! # One fenced navigation

The browser is asked for a navigation once at most, with the evidence of the old document revoked and the port checked
since. What the caller hears, and what the Host does with the pairing, follows how far the attempt went. -/

namespace DccCua
namespace Extension

open Script Checks

namespace Navigation

/-- The calls before the one to the browser. -/
def Admitted (deadline : Nat) (calls : List NavigationCall) : Prop :=
  ∃ first second third last, first < deadline ∧ second < deadline ∧ third < deadline ∧ last < deadline ∧
    calls = [.isCurrent true, .now first, .requirePairing (.ok ()), .foreground (.ok true), .isCurrent true, .now second,
      .invalidateDocument (.ok ()), .isCurrent true, .now third, .revokePairing (.ok ()), .isCurrent true, .now last]

def Dispatched (calls : List NavigationCall) : Prop := ∃ tab url answer, .updateTab tab url answer ∈ calls

/-- The failure is that of an operation before the dispatch. -/
def OfOperation (operations : NavigationOperations) (e : JsError) : Prop :=
  operations.requirePairing = .error e ∨ operations.foreground = .error e ∨ operations.invalidateDocument = .error e

end Navigation

open Navigation

/-- What holds of an attempt, with the operations that it has called in order. -/
structure NavigationLaw (parseUrl : String → Option Url) (request : NavigationRequest) (pairing : Pairing)
    (operations : NavigationOperations) (result : Except JsError Json) (calls : List NavigationCall) : Prop where
  dispatch : ∀ before tab url answer after, calls = before ++ .updateTab tab url answer :: after →
    Admitted request.deadlineUnixMs before ∧ ¬Dispatched before ∧ ¬Dispatched after ∧ tab = pairing.tabId ∧
      ∃ target, parseUrl request.url = some target ∧ (target.protocol = "http:" ∨ target.protocol = "https:") ∧
        target.username = "" ∧ target.password = "" ∧ target.origin = pairing.origin ∧ url = target.href
  receipt : ∀ value, result = .ok value → value = Navigation.receipt ∧
    ∃ before tab url now, now < request.deadlineUnixMs ∧
      calls = before ++ [.updateTab tab url (.ok ()), .isCurrent true, .now now]
  unknown : ∀ e, result = .error e → Dispatched calls → e = refused "navigation_outcome_unknown"
  known : ∀ e, result = .error e → ¬Dispatched calls →
    e.code ≠ some "navigation_outcome_unknown" ∨ OfOperation operations e
  evidence : ∀ e answer, result = .error e → .invalidateDocument answer ∈ calls →
    (answer = .ok () ∧ (e = refused "navigation_pairing_required" ∨ e = refused "navigation_outcome_unknown")) ∨
      (answer = .error e ∧ operations.invalidateDocument = .error e)

namespace Navigation

variable {parseUrl : String → Option Url} {request : NavigationRequest} {pairing : Pairing}
  {operations : NavigationOperations} {P : List NavigationCall → Prop} {calls : List NavigationCall} {e : JsError}

/-- Nothing was dispatched, and the document was not touched. -/
structure Calm (calls : List NavigationCall) : Prop where
  undispatched : ¬Dispatched calls
  untouched : ∀ answer, .invalidateDocument answer ∉ calls

theorem calm_nil : Calm [] := by
  refine ⟨?_, fun answer hmem => ?_⟩
  · rintro ⟨tab, url, answer, hmem⟩
    cases hmem
  · cases hmem

theorem not_dispatched_append {news : List NavigationCall} (h : ¬Dispatched calls) (hnews : ¬Dispatched news) :
    ¬Dispatched (calls ++ news) := by
  rintro ⟨tab, url, answer, hmem⟩
  rcases List.mem_append.mp hmem with hmem | hmem
  · exact h ⟨tab, url, answer, hmem⟩
  · exact hnews ⟨tab, url, answer, hmem⟩

theorem Calm.append {news : List NavigationCall} (h : Calm calls) (hnews : Calm news) : Calm (calls ++ news) := by
  refine ⟨not_dispatched_append h.undispatched hnews.undispatched, fun answer hmem => ?_⟩
  rcases List.mem_append.mp hmem with hmem | hmem
  · exact h.untouched answer hmem
  · exact hnews.untouched answer hmem

/-- An attempt that ends before the dispatch. -/
theorem law_undispatched (h : ¬Dispatched calls)
    (hknown : e.code ≠ some "navigation_outcome_unknown" ∨ OfOperation operations e)
    (hevidence : ∀ answer, .invalidateDocument answer ∈ calls →
      (answer = .ok () ∧ e = refused "navigation_pairing_required") ∨
        (answer = .error e ∧ operations.invalidateDocument = .error e)) :
    NavigationLaw parseUrl request pairing operations (.error e) calls := by
  refine ⟨?_, ?_, ?_, ?_, ?_⟩
  · rintro before tab url answer after rfl
    exact absurd ⟨tab, url, answer, by simp⟩ h
  · intro value heq
    cases heq
  · exact fun _ _ hdispatched => absurd hdispatched h
  · intro e' heq _
    cases heq
    exact hknown
  · intro e' answer heq hmem
    cases heq
    rcases hevidence answer hmem with ⟨hok, he⟩ | hfailed
    · exact Or.inl ⟨hok, Or.inl he⟩
    · exact Or.inr hfailed

theorem law_calm (h : Calm calls) (hknown : e.code ≠ some "navigation_outcome_unknown" ∨ OfOperation operations e) :
    NavigationLaw parseUrl request pairing operations (.error e) calls :=
  law_undispatched h.undispatched hknown fun answer hmem => absurd hmem (h.untouched answer)

/-! ### The programs -/

/-- A look at the port and the clock has been added. -/
def Looked (deadline : Nat) (P : List NavigationCall → Prop) (calls : List NavigationCall) : Prop :=
  ∃ before now, P before ∧ now < deadline ∧ calls = before ++ [.isCurrent true, .now now]

def Added (entry : NavigationCall) (P : List NavigationCall → Prop) (calls : List NavigationCall) : Prop :=
  ∃ before, P before ∧ calls = before ++ [entry]

/-- A look that fails. -/
inductive FailedLook : List NavigationCall → Prop
  | cancelled : FailedLook [.isCurrent false]
  | expired {now : Nat} : FailedLook [.isCurrent true, .now now]

theorem FailedLook.calm {news : List NavigationCall} (h : FailedLook news) : Calm news := by
  refine ⟨?_, fun answer hmem => ?_⟩
  · rintro ⟨tab, url, answer, hmem⟩
    cases h <;> simp at hmem
  · cases h <;> simp at hmem

theorem calm_look (now : Nat) : Calm [.isCurrent true, .now now] := FailedLook.expired.calm

theorem triple_call {α : Type} {entry : NavigationCall} {answer : Except JsError α} {Q : α → List NavigationCall → Prop}
    {E : JsError → List NavigationCall → Prop} (hok : ∀ a calls, answer = .ok a → P calls → Q a (calls ++ [entry]))
    (herror : ∀ e calls, answer = .error e → P calls → E e (calls ++ [entry])) :
    Triple (fun calls _ => P calls) (call entry answer)
      (orError (fun a calls _ => Q a calls) fun e calls _ => E e calls) fun _ => False := by
  refine triple_update fun calls _ h => ?_
  cases hanswer : answer with
  | ok a => exact hok a calls hanswer h
  | error e => exact herror e calls hanswer h

theorem triple_checkCurrent {check : Nat} {cancelled expired : String} {E : JsError → List NavigationCall → Prop}
    (herror : ∀ code calls news, code = cancelled ∨ code = expired → P calls → FailedLook news →
      E (refused code) (calls ++ news)) :
    Triple (fun calls _ => P calls) (checkCurrent request operations check cancelled expired)
      (orError (fun _ calls _ => Looked request.deadlineUnixMs P calls) fun e calls _ => E e calls) fun _ => False := by
  refine triple_tryThen (R := fun _ calls _ => Added (.isCurrent true) P calls) ?_ fun _ => ?_
  · refine triple_call (Q := fun _ calls => Added (.isCurrent true) P calls) (E := E)
      (fun _ calls hcurrent h => ?_) fun e calls hcurrent h => ?_
    · rw [require_eq_ok] at hcurrent
      exact ⟨calls, h, by rw [hcurrent]⟩
    · obtain ⟨hfalse, rfl⟩ := require_eq_error.mp hcurrent
      rw [hfalse]
      exact herror _ _ _ (Or.inl rfl) h .cancelled
  · refine triple_call (P := Added (.isCurrent true) P) (Q := fun _ => Looked request.deadlineUnixMs P) (E := E)
      (fun _ calls hnow h => ?_) fun e calls hnow h => ?_
    · obtain ⟨before, hbefore, rfl⟩ := h
      rw [require_eq_ok, decide_eq_true_iff] at hnow
      exact ⟨before, _, hbefore, hnow, by simp⟩
    · obtain ⟨before, hbefore, rfl⟩ := h
      obtain ⟨-, rfl⟩ := require_eq_error.mp hnow
      rw [List.append_assoc]
      exact herror _ _ _ (Or.inr rfl) hbefore .expired

theorem triple_orRefused {α : Type} {code : String} {prog : NavigationProg α} {Q : α → List NavigationCall → Prop}
    {E : List NavigationCall → Prop} (h : Triple (fun calls _ => P calls) prog
      (orError (fun a calls _ => Q a calls) fun _ calls _ => E calls) fun _ => False) :
    Triple (fun calls _ => P calls) (orRefused code prog)
      (orError (fun a calls _ => Q a calls) fun e calls _ => e = refused code ∧ E calls) fun _ => False := by
  refine triple_andThen h fun result => ?_
  cases result with
  | ok a => exact triple_ret fun calls _ hcalls => hcalls
  | error e => exact triple_ret fun calls _ hcalls => ⟨rfl, hcalls⟩

/-! ### The stages -/

def Calmly (P : List NavigationCall → Prop) : Prop := ∀ calls, P calls → Calm calls

theorem calmly_looked {deadline : Nat} (h : Calmly P) : Calmly (Looked deadline P) := by
  rintro calls ⟨before, now, hbefore, -, rfl⟩
  exact (h before hbefore).append (calm_look now)

theorem calmly_added {entry : NavigationCall} (h : Calmly P) (hentry : Calm [entry]) : Calmly (Added entry P) := by
  rintro calls ⟨before, hbefore, rfl⟩
  exact (h before hbefore).append hentry

theorem calm_requirePairing (answer : Except JsError Unit) : Calm [.requirePairing answer] := by
  refine ⟨?_, fun answer hmem => by simp at hmem⟩
  rintro ⟨tab, url, answer, hmem⟩
  simp at hmem

theorem calm_foreground (answer : Except JsError Bool) : Calm [.foreground answer] := by
  refine ⟨?_, fun answer hmem => by simp at hmem⟩
  rintro ⟨tab, url, answer, hmem⟩
  simp at hmem

/-- The document was invalidated, and nothing is dispatched yet. -/
structure Gone (calls : List NavigationCall) : Prop where
  undispatched : ¬Dispatched calls
  invalidated : ∀ e, .invalidateDocument (.error e) ∉ calls

theorem Gone.append {news : List NavigationCall} (h : Gone calls) (hnews : Calm news) : Gone (calls ++ news) := by
  refine ⟨not_dispatched_append h.undispatched hnews.undispatched, fun e hmem => ?_⟩
  rcases List.mem_append.mp hmem with hmem | hmem
  · exact h.invalidated e hmem
  · exact hnews.untouched _ hmem

theorem calm_revokePairing (answer : Except JsError Unit) : Calm [.revokePairing answer] := by
  refine ⟨?_, fun answer hmem => by simp at hmem⟩
  rintro ⟨tab, url, answer, hmem⟩
  simp at hmem

section Stages
variable (request)

/-- The pairing was checked and the tab is in front. -/
def Fronted : List NavigationCall → Prop :=
  Looked request.deadlineUnixMs (Added (.foreground (.ok true)) (Added (.requirePairing (.ok ()))
    (Looked request.deadlineUnixMs (· = []))))

def Invalidated : List NavigationCall → Prop := Added (.invalidateDocument (.ok ())) (Fronted request)

def Revoked : List NavigationCall → Prop :=
  Looked request.deadlineUnixMs (Added (.revokePairing (.ok ())) (Looked request.deadlineUnixMs (Invalidated request)))

theorem calmly_fronted : Calmly (Fronted request) := by
  have hnil : Calmly (· = []) := by
    rintro calls rfl
    exact calm_nil
  exact calmly_looked (calmly_added (calmly_added (calmly_looked hnil) (calm_requirePairing _)) (calm_foreground _))

theorem gone_of_invalidated {calls : List NavigationCall} (h : Invalidated request calls) : Gone calls := by
  obtain ⟨before, hbefore, rfl⟩ := h
  have hcalm := calmly_fronted request before hbefore
  refine ⟨not_dispatched_append hcalm.undispatched ?_, fun e hmem => ?_⟩
  · rintro ⟨tab, url, answer, hmem⟩
    simp at hmem
  · rcases List.mem_append.mp hmem with hmem | hmem
    · exact hcalm.untouched _ hmem
    · simp at hmem

theorem admitted_of_revoked {calls : List NavigationCall} (h : Revoked request calls) :
    Admitted request.deadlineUnixMs calls := by
  obtain ⟨_, last, ⟨_, ⟨_, third, ⟨_, ⟨_, second, ⟨_, ⟨_, ⟨_, first, rfl, hfirst, rfl⟩, rfl⟩, rfl⟩, hsecond, rfl⟩,
    rfl⟩, hthird, rfl⟩, rfl⟩, hlast, rfl⟩ := h
  exact ⟨first, second, third, last, hfirst, hsecond, hthird, hlast, rfl⟩

end Stages

theorem Admitted.gone {deadline : Nat} (h : Admitted deadline calls) : Gone calls := by
  obtain ⟨first, second, third, last, -, -, -, -, rfl⟩ := h
  refine ⟨?_, fun e hmem => by simp at hmem⟩
  rintro ⟨tab, url, answer, hmem⟩
  simp at hmem

/-- The call to the browser stands in one place only. -/
theorem split_dispatch {before after before' after' : List NavigationCall} {tab tab' : Nat} {url url' : String}
    {answer answer' : Except JsError Unit} (hbefore : ¬Dispatched before) (hafter : ¬Dispatched after)
    (h : before ++ .updateTab tab url answer :: after = before' ++ .updateTab tab' url' answer' :: after') :
    before = before' ∧ tab = tab' ∧ url = url' ∧ after = after' := by
  rcases Runs.split_append h with ⟨rest, rfl, -⟩ | ⟨between, rfl, hrest⟩
  · exact absurd ⟨tab', url', answer', by simp⟩ hbefore
  · cases between with
    | nil =>
      rw [List.nil_append, List.cons.injEq, NavigationCall.updateTab.injEq] at hrest
      exact ⟨(List.append_nil _).symm, hrest.1.1, hrest.1.2.1, hrest.2⟩
    | cons first between =>
      rw [List.cons_append, List.cons.injEq] at hrest
      exact absurd ⟨tab', url', answer', by rw [hrest.2]; simp⟩ hafter

/-- What `target` lets through. -/
theorem target_eq_ok {url : Url} (h : target parseUrl request pairing = .ok url) :
    parseUrl request.url = some url ∧ (url.protocol = "http:" ∨ url.protocol = "https:") ∧ url.username = "" ∧
      url.password = "" ∧ url.origin = pairing.origin := by
  unfold target at h
  split at h
  · cases h
  · rename_i parsed hparsed
    simp only [bind_eq_ok, require_eq_ok, Bool.and_eq_true, Bool.or_eq_true, decide_eq_true_iff] at h
    obtain ⟨-, ⟨⟨⟨⟨⟨hprotocol, husername⟩, hpassword⟩, horigin⟩, -⟩, -⟩, hok⟩ := h
    cases hok
    exact ⟨hparsed, hprotocol, husername, hpassword, horigin⟩

/-- A URL that is refused says nothing of an outcome. -/
theorem target_error (h : target parseUrl request pairing = .error e) : e.code ≠ some "navigation_outcome_unknown" := by
  unfold target at h
  split at h
  · cases h
    exact fun hcode => (nomatch hcode)
  · refine error_of_bind (P := fun e => e.code ≠ some "navigation_outcome_unknown") (fun e he => ?_) (fun _ e he => ?_) _ h
    · exact error_of_require (P := fun e : JsError => e.code ≠ some "navigation_outcome_unknown") (by decide) e he
    · cases he

theorem law_dispatched {url : Url} {answer : Except JsError Unit} {before news : List NavigationCall}
    {result : Except JsError Json} (hurl : target parseUrl request pairing = .ok url)
    (hbefore : Admitted request.deadlineUnixMs before) (hnews : Calm news)
    (herror : ∀ e, result = .error e → e = refused "navigation_outcome_unknown")
    (hok : ∀ value, result = .ok value → value = receipt ∧ answer = .ok () ∧
      ∃ now, now < request.deadlineUnixMs ∧ news = [.isCurrent true, .now now]) :
    NavigationLaw parseUrl request pairing operations result (before ++ .updateTab pairing.tabId url.href answer :: news) := by
  have hgone := hbefore.gone
  refine ⟨?_, ?_, fun e heq _ => herror e heq, ?_, ?_⟩
  · intro before' tab url' answer' after heq
    obtain ⟨rfl, rfl, rfl, rfl⟩ := split_dispatch hgone.undispatched hnews.undispatched heq
    obtain ⟨hparsed, hprotocol, husername, hpassword, horigin⟩ := target_eq_ok hurl
    exact ⟨hbefore, hgone.undispatched, hnews.undispatched, rfl, url, hparsed, hprotocol, husername, hpassword, horigin, rfl⟩
  · intro value heq
    obtain ⟨hvalue, rfl, now, hnow, rfl⟩ := hok value heq
    exact ⟨hvalue, before, _, _, now, hnow, rfl⟩
  · exact fun e _ hnone => absurd ⟨_, _, _, List.mem_append_right _ List.mem_cons_self⟩ hnone
  · intro e answer' heq hmem
    refine Or.inl ⟨?_, Or.inr (herror e heq)⟩
    rcases List.mem_append.mp hmem with hmem | hmem
    · cases answer' with
      | ok a => rfl
      | error e' => exact absurd hmem (hgone.invalidated e')
    · rcases List.mem_cons.mp hmem with hmem | hmem
      · cases hmem
      · exact absurd hmem (hnews.untouched _)

theorem law_of_call {entry : NavigationCall} (h : Calm calls) (hentry : ¬Dispatched [entry])
    (hown : OfOperation operations e) (hinvalidate : ∀ answer, .invalidateDocument answer = entry →
      answer = .error e ∧ operations.invalidateDocument = .error e) :
    NavigationLaw parseUrl request pairing operations (.error e) (calls ++ [entry]) := by
  refine law_undispatched (not_dispatched_append h.undispatched hentry) (Or.inr hown) fun answer hmem => ?_
  rcases List.mem_append.mp hmem with hmem | hmem
  · exact absurd hmem (h.untouched answer)
  · exact Or.inr (hinvalidate answer (List.mem_singleton.mp hmem))

/-- The end of the attempt, once the pairing is revoked. -/
theorem triple_dispatch {url : Url} (hurl : target parseUrl request pairing = .ok url) :
    Triple (fun calls _ => Revoked request calls)
      ((orRefused "navigation_outcome_unknown" (call (.updateTab pairing.tabId url.href
        (operations.updateTab pairing.tabId url.href)) (operations.updateTab pairing.tabId url.href))).tryThen fun _ =>
      (checkCurrent request operations 4 "navigation_outcome_unknown" "navigation_outcome_unknown").tryThen fun _ =>
      Prog.ret (.ok receipt))
      (fun result calls _ => NavigationLaw parseUrl request pairing operations result calls) fun _ => False := by
  have hempty : Calm [] := calm_nil
  refine triple_tryThen (R := fun _ calls _ => Added (.updateTab pairing.tabId url.href (.ok ())) (Revoked request) calls)
    ?_ fun _ => ?_
  · refine triple_weaken (triple_orRefused (triple_call
      (Q := fun _ => Added (.updateTab pairing.tabId url.href (.ok ())) (Revoked request))
      (E := fun _ calls => ∃ answer, Added (.updateTab pairing.tabId url.href answer) (Revoked request) calls)
      (fun _ calls hok hcalls => ⟨calls, hcalls, by rw [hok]⟩) fun e calls _ hcalls => ⟨_, calls, hcalls, rfl⟩))
      (fun _ _ hcalls => hcalls) fun result calls _ hresult => ?_
    cases result with
    | ok a => exact hresult
    | error e =>
      obtain ⟨rfl, answer, before, hbefore, rfl⟩ := hresult
      refine law_dispatched hurl (admitted_of_revoked request hbefore) hempty (fun e heq => ?_) fun value heq => ?_
      · cases heq
        rfl
      · cases heq
  · refine triple_tryThen (triple_checkCurrent (E := NavigationLaw parseUrl request pairing operations ∘ .error)
      fun code calls news hcode hcalls hnews => ?_) fun _ => triple_ret fun calls _ hcalls => ?_
    · obtain ⟨before, hbefore, rfl⟩ := hcalls
      have hcode : code = "navigation_outcome_unknown" := or_self_iff.mp hcode
      rw [List.append_assoc, List.singleton_append]
      refine law_dispatched hurl (admitted_of_revoked request hbefore) hnews.calm (fun e heq => ?_) fun value heq => ?_
      · cases heq
        rw [hcode]
      · cases heq
    · obtain ⟨before, now, ⟨admitted, hadmitted, rfl⟩, hnow, rfl⟩ := hcalls
      rw [List.append_assoc, List.singleton_append]
      refine law_dispatched hurl (admitted_of_revoked request hadmitted) (calm_look now) (fun e heq => ?_)
        fun value heq => ?_
      · cases heq
      · cases heq
        exact ⟨rfl, rfl, now, hnow, rfl⟩

/-- The part of the attempt that revokes the pairing of the document that is gone. -/
theorem triple_revoke : Triple (fun calls _ => Invalidated request calls)
    (orRefused "navigation_pairing_required" ((beforeDispatch request operations 2).tryThen fun _ =>
      (call (.revokePairing operations.revokePairing) operations.revokePairing).tryThen fun _ =>
      beforeDispatch request operations 3))
    (orError (fun _ calls _ => Revoked request calls) fun e calls _ =>
      NavigationLaw parseUrl request pairing operations (.error e) calls) fun _ => False := by
  have hgone : ∀ {calls}, Invalidated request calls → Gone calls := gone_of_invalidated request
  refine triple_weaken (triple_orRefused (Q := fun _ => Revoked request) (E := Gone) ?_) (fun _ _ hcalls => hcalls)
    fun result calls _ hresult => ?_
  · refine triple_tryThen (triple_checkCurrent (E := fun _ => Gone) fun code calls news _ hcalls hnews =>
      (hgone hcalls).append hnews.calm) fun _ => ?_
    have hlooked : ∀ calls, Looked request.deadlineUnixMs (Invalidated request) calls → Gone calls := by
      rintro calls ⟨before, now, hbefore, -, rfl⟩
      exact (hgone hbefore).append (calm_look now)
    refine triple_tryThen (R := fun _ calls _ => Added (.revokePairing (.ok ()))
      (Looked request.deadlineUnixMs (Invalidated request)) calls) ?_ fun _ => ?_
    · exact triple_call (E := fun _ => Gone) (Q := fun _ => Added (.revokePairing (.ok ()))
        (Looked request.deadlineUnixMs (Invalidated request))) (fun _ calls hok hcalls => ⟨calls, hcalls, by rw [hok]⟩)
        fun e calls _ hcalls => (hlooked calls hcalls).append (calm_revokePairing _)
    · refine triple_checkCurrent (E := fun _ => Gone) fun code calls news _ hcalls hnews => ?_
      obtain ⟨before, hbefore, rfl⟩ := hcalls
      exact ((hlooked before hbefore).append (calm_revokePairing _)).append hnews.calm
  · cases result with
    | ok a => exact hresult
    | error e =>
      obtain ⟨rfl, hcalls⟩ := hresult
      refine law_undispatched hcalls.undispatched (Or.inl (by decide)) fun answer hmem => ?_
      cases answer with
      | ok a => exact Or.inl ⟨rfl, rfl⟩
      | error e' => exact absurd hmem (hcalls.invalidated e')

theorem triple_navigatePairedTab : Triple (fun calls _ => calls = []) (navigatePairedTab parseUrl request pairing operations)
    (fun result calls _ => NavigationLaw parseUrl request pairing operations result calls) fun _ => False := by
  have hnil : Calmly (· = []) := by
    rintro calls rfl
    exact calm_nil
  have hcalm : Calmly (Looked request.deadlineUnixMs (· = [])) := calmly_looked hnil
  have hpaired := calmly_added hcalm (calm_requirePairing (.ok ()))
  have hfront := calmly_added hpaired (calm_foreground (.ok true))
  unfold navigatePairedTab
  refine triple_tryThen (triple_checkCurrent (E := NavigationLaw parseUrl request pairing operations ∘ .error)
    fun code calls news hcode hcalls hnews => ?_) fun _ => ?_
  · refine law_calm ((hnil calls hcalls).append hnews.calm) (Or.inl ?_)
    rcases hcode with rfl | rfl <;> decide
  refine triple_tryThen (R := fun url calls _ => Looked request.deadlineUnixMs (· = []) calls ∧
    target parseUrl request pairing = .ok url) (triple_ret fun calls _ hcalls => ?_) fun url => triple_fact fun hurl => ?_
  · cases htarget : target parseUrl request pairing with
    | ok url => exact ⟨hcalls, rfl⟩
    | error e => exact law_calm (hcalm calls hcalls) (Or.inl (target_error htarget))
  refine triple_tryThen (R := fun _ calls _ => Added (.requirePairing (.ok ())) (Looked request.deadlineUnixMs (· = [])) calls)
    ?_ fun _ => ?_
  · refine triple_call (E := NavigationLaw parseUrl request pairing operations ∘ .error)
      (Q := fun _ => Added (.requirePairing (.ok ())) (Looked request.deadlineUnixMs (· = [])))
      (fun _ calls hok hcalls => ⟨calls, hcalls, by rw [hok]⟩) fun e calls herror hcalls => ?_
    rw [herror]
    exact law_of_call (hcalm calls hcalls) (calm_requirePairing _).undispatched (Or.inl herror) fun _ heq =>
      (nomatch heq)
  refine triple_tryThen (R := fun foreground calls _ => Added (.foreground (.ok foreground)) (Added (.requirePairing (.ok ()))
    (Looked request.deadlineUnixMs (· = []))) calls) ?_ fun foreground => ?_
  · refine triple_call (E := NavigationLaw parseUrl request pairing operations ∘ .error)
      (Q := fun foreground => Added (.foreground (.ok foreground)) (Added (.requirePairing (.ok ()))
        (Looked request.deadlineUnixMs (· = [])))) (fun foreground calls hok hcalls => ⟨calls, hcalls, by rw [hok]⟩)
      fun e calls herror hcalls => ?_
    rw [herror]
    exact law_of_call (hpaired calls hcalls) (calm_foreground _).undispatched (Or.inr (Or.inl herror))
      fun _ heq => (nomatch heq)
  refine triple_tryThen (R := fun _ calls _ => Added (.foreground (.ok true)) (Added (.requirePairing (.ok ()))
    (Looked request.deadlineUnixMs (· = []))) calls) (triple_ret fun calls _ hcalls => ?_) fun _ => ?_
  · cases foreground with
    | true => exact hcalls
    | false => exact law_calm (calmly_added hpaired (calm_foreground (.ok false)) calls hcalls) (Or.inl (by decide))
  refine triple_tryThen (triple_checkCurrent (E := NavigationLaw parseUrl request pairing operations ∘ .error)
    fun code calls news hcode hcalls hnews => ?_) fun _ => ?_
  · refine law_calm ((hfront calls hcalls).append hnews.calm) (Or.inl ?_)
    rcases hcode with rfl | rfl <;> decide
  refine triple_tryThen (R := fun _ calls _ => Invalidated request calls) ?_ fun _ => ?_
  · refine triple_call (P := Fronted request) (E := NavigationLaw parseUrl request pairing operations ∘ .error)
      (Q := fun _ => Invalidated request) (fun _ calls hok hcalls => ⟨calls, hcalls, by rw [hok]⟩)
      fun e calls herror hcalls => ?_
    rw [herror]
    refine law_of_call (calmly_fronted request calls hcalls) ?_ (Or.inr (Or.inr herror)) fun answer heq => ?_
    · rintro ⟨tab, url, answer, hmem⟩
      simp at hmem
    · exact ⟨NavigationCall.invalidateDocument.inj heq, herror⟩
  exact triple_tryThen triple_revoke fun _ => triple_dispatch hurl

theorem law_outcome (parseUrl : String → Option Url) (request : NavigationRequest) (pairing : Pairing)
    (operations : NavigationOperations) :
    NavigationLaw parseUrl request pairing operations (outcome (navigatePairedTab parseUrl request pairing operations [] [])).1
      (outcome (navigatePairedTab parseUrl request pairing operations [] [])).2 := by
  have hran := @triple_navigatePairedTab parseUrl request pairing operations [] [] rfl
  cases hrun : navigatePairedTab parseUrl request pairing operations [] [] with
  | done result calls rest =>
    rw [hrun] at hran
    exact hran
  | cut calls =>
    rw [hrun] at hran
    exact hran.elim

/-! ### The background page -/

section Background
variable {Element : Type} {toLowerCase : String → String} {s : NavigationSurroundings Element}

open NavigationSurroundings

theorem requireMatch_error {loaded : Except String (Option Pairing)} {base : PairedRequestBase}
    (h : requireMatch loaded base = .error e) : e.code ≠ some "navigation_outcome_unknown" := by
  unfold requireMatch at h
  split at h
  · cases h
    exact fun hcode => (nomatch hcode)
  · split at h <;> cases h
    decide

theorem browserError_eq_error {α : Type} {result : Except String α} (h : browserError result = .error e) : e.code = none := by
  cases result with
  | ok a => cases h
  | error message =>
    cases h
    rfl

theorem foreground_error (h : s.foreground pairing = .error e) : e.code ≠ some "navigation_outcome_unknown" := by
  have hnone : e.code = none := by
    refine error_of_bind (P := fun e : JsError => e.code = none) (fun e he => browserError_eq_error he) (fun _ e he => ?_) _ h
    refine error_of_bind (P := fun e : JsError => e.code = none) (fun e he => browserError_eq_error he) (fun _ e he => ?_) _ he
    cases he
  rw [hnone]
  exact fun hcode => (nomatch hcode)

theorem validate_prepareNavigation {nonce snapshotId : String} {command : ContentCommand}
    (h : validateContentCommand (contentFields .prepareNavigation nonce [("snapshot_id", .str snapshotId)]) = .ok command) :
    command = .prepareNavigation nonce snapshotId := by
  have hmethod : contentMethod (.str "prepare_navigation") = .ok .prepareNavigation := by decide
  simp only [validateContentCommand, contentFields, List.cons_append, List.nil_append, Json.get, Json.field?, Json.lookup,
    ContentMethod.name, bind_eq_ok] at h
  obtain ⟨-, -, method, hread, -, -, nonce', hnonce, h⟩ := h
  simp only [String.reduceEq, if_false, if_true, Option.getD_some] at hread hnonce h
  rw [hmethod] at hread
  cases hread
  simp only [bind_eq_ok] at h
  obtain ⟨snapshotId', hsnapshot, hok⟩ := h
  cases hok
  rw [(boundedString_str_eq_ok.mp hnonce).1, (boundedString_str_eq_ok.mp hsnapshot).1]

/-- The bridge refuses to invalidate the document, or does it. -/
theorem handle_prepareNavigation (page : Page Element) (randomUUID nonce snapshotId : String) (bridge : BridgeState Element) :
    (Bridge.handle toLowerCase page randomUUID (.prepareNavigation nonce snapshotId) bridge).1.result = .ok .invalidated ∨
      ∃ error, (Bridge.handle toLowerCase page randomUUID (.prepareNavigation nonce snapshotId) bridge) = (⟨.error error, none⟩, bridge) ∧
        error.code ≠ "navigation_outcome_unknown" := by
  unfold Bridge.handle
  split
  · cases ‹ContentCommand.prepareNavigation nonce snapshotId = _›
  split
  · exact Or.inr ⟨_, rfl, by decide⟩
  · dsimp only
    split
    · exact Or.inr ⟨_, rfl, by decide⟩
    · exact Or.inl rfl

theorem handled_prepareNavigation (nonce snapshotId : String) {command : ContentCommand}
    (h : validateContentCommand (contentFields .prepareNavigation nonce [("snapshot_id", .str snapshotId)]) = .ok command) :
    s.handled toLowerCase (contentFields .prepareNavigation nonce [("snapshot_id", .str snapshotId)]) =
      (some (Bridge.handle toLowerCase s.page s.randomUUID (.prepareNavigation nonce snapshotId) s.bridge).1,
        (Bridge.handle toLowerCase s.page s.randomUUID (.prepareNavigation nonce snapshotId) s.bridge).2) := by
  obtain rfl := validate_prepareNavigation h
  unfold handled Bridge.onMessage
  have hcommand : (Json.obj [("type", .str "dcc_cua_command"),
      ("command", contentFields .prepareNavigation nonce [("snapshot_id", .str snapshotId)])]).get "command" =
      contentFields .prepareNavigation nonce [("snapshot_id", .str snapshotId)] := rfl
  rw [hcommand, h]
  rfl

/-- A document that was not confirmed to be invalidated is as before, or the failure has no code. -/
theorem invalidateDocument_error (h : (s.invalidateDocument toLowerCase request).1 = .error e) :
    e.code = none ∨ ((s.invalidateDocument toLowerCase request).2 = s.bridge ∧
      e.code ≠ some "navigation_outcome_unknown") := by
  unfold invalidateDocument navigateRequest contentValueFromNative at h ⊢
  dsimp only at h ⊢
  split at h
  · cases h
    exact Or.inr ⟨by simp only [*], fun hcode => by simp at hcode⟩
  rename_i command hvalid
  simp only [hvalid]
  have hhandled := @handled_prepareNavigation _ toLowerCase s _ _ _ hvalid
  unfold sendTabCommand at h ⊢
  rcases hscript : s.contentScript with message | ⟨⟩
  · rw [hscript] at h
    cases h
    exact Or.inl rfl
  rcases hdelivery : s.delivery with message | message | _
  · rw [hscript, hdelivery] at h
    cases h
    exact Or.inl rfl
  · rw [hscript, hdelivery] at h
    cases h
    exact Or.inl rfl
  · rw [hscript, hdelivery] at h
    dsimp only at h ⊢
    rw [hhandled] at h ⊢
    dsimp only [tabResponse] at h ⊢
    rcases handle_prepareNavigation s.page s.randomUUID request.base.sessionNonce
      request.snapshotId s.bridge with hdone | ⟨error, hrefused, hcode⟩
    · rw [hdone] at h
      cases h
    · rw [hrefused] at h ⊢
      cases h
      exact Or.inr ⟨rfl, fun heq => hcode (Option.some.inj heq)⟩

theorem not_ofOperation (h : OfOperation (s.operations toLowerCase request pairing) e) :
    e.code ≠ some "navigation_outcome_unknown" := by
  rcases h with h | h | h
  · cases hmatch : requireMatch (s.loaded 1) request.base with
    | ok pairing =>
      rw [operations, hmatch] at h
      cases h
    | error e' =>
      rw [operations, hmatch] at h
      cases h
      exact requireMatch_error hmatch
  · exact foreground_error h
  · rcases invalidateDocument_error h with hnone | ⟨-, hcode⟩
    · rw [hnone]
      exact fun hcode => (nomatch hcode)
    · exact hcode

end Background

/-! ### The Host -/

/-- What the Host hears of the message that was posted, if it hears of it. -/
def Hears (posted : Except String Json) (answer : BrowserExtension.CallAnswer) : Prop :=
  ∀ value, answer = .response value → posted = .ok value

end Navigation
end Extension

namespace BrowserExtension

theorem errorCodeOf_append (code message : String) : errorCodeOf (code ++ ": " ++ message) = errorCodeOf code := by
  unfold errorCodeOf
  rw [String.toList_append, String.toList_append, List.append_assoc]
  congr 1
  induction code.toList with
  | nil => rfl
  | cons c cs ih =>
    rw [List.cons_append, List.takeWhile_cons, List.takeWhile_cons, ih]

/-- The Host reads the error that the extension has posted. -/
theorem callResult_error {requestId code message : String} {posted : Json} (providerId : String) (provider : Provider)
    (h : Extension.errorResponse (.str requestId) code message = .ok posted) :
    callResult providerId provider "navigate" (.response posted) = .error (code ++ ": " ++ message) := by
  simp only [Extension.errorResponse, Checks.bind_eq_ok] at h
  obtain ⟨code', hcode, message', hmessage, hok⟩ := h
  obtain ⟨rfl, -⟩ := Extension.boundedString_str_eq_ok.mp hcode
  obtain ⟨rfl, -⟩ := Extension.boundedString_str_eq_ok.mp hmessage
  cases hok
  rfl

theorem mustRevoke_error {code message : String} : navigationProviderMustRevoke (.error (code ++ ": " ++ message)) =
    !reusableCodes.contains (errorCodeOf code) := by
  rw [navigationProviderMustRevoke, errorCodeOf_append]

end BrowserExtension

namespace Extension

open Navigation BrowserExtension

/-- What holds of a navigation of the background page: how it ends, with its calls and the bridge of the tab before and
    afterwards. -/
structure BackgroundLaw {Element : Type} (request : NavigationRequest) (result : Except JsError Json)
    (calls : List NavigationCall) (before after : BridgeState Element) : Prop where
  unknown : (∃ e, result = .error e ∧ e.code = some "navigation_outcome_unknown") ↔
    Dispatched calls ∧ ∀ value, result ≠ .ok value
  /-- The Host keeps the provider for a failure that has left the document alone. -/
  keeps : ∀ providerId provider answer, Hears (navigationResponse request result) answer →
    navigationProviderMustRevoke (callResult providerId provider "navigate" answer) = false →
      after = before ∧ ∀ value, result ≠ .ok value

namespace Navigation

variable {Element : Type} {parseUrl : String → Option Url} {toLowerCase : String → String} {request : NavigationRequest}
  {s : NavigationSurroundings Element}

theorem mustRevoke_unheard {providerId : String} {provider : Provider} {answer : CallAnswer}
    (h : ∀ value, answer ≠ .response value) :
    navigationProviderMustRevoke (callResult providerId provider "navigate" answer) = true := by
  cases answer with
  | response value => exact absurd rfl (h value)
  | dropped =>
    have hcode : reusableCodes.contains (errorCodeOf "browser extension provider dropped the pending call") = false := by
      decide
    rw [callResult, navigationProviderMustRevoke, hcode]
    rfl
  | timedOut =>
    rw [callResult, if_pos rfl]
    decide

/-- The code under which the Host hears of an error. -/
theorem reusable_of_kept {providerId : String} {provider : Provider} {answer : CallAnswer} {e : JsError}
    (hears : Hears (navigationResponse request (.error e)) answer)
    (h : navigationProviderMustRevoke (callResult providerId provider "navigate" answer) = false) :
    reusableCodes.contains (errorCodeOf (e.code.getD "invalid_request")) = true := by
  cases answer with
  | response value =>
    have hposted := hears value rfl
    rw [navigationResponse] at hposted
    rw [callResult_error providerId provider hposted, mustRevoke_error] at h
    simpa using h
  | dropped =>
    rw [mustRevoke_unheard (by simp)] at h
    cases h
  | timedOut =>
    rw [mustRevoke_unheard (by simp)] at h
    cases h

theorem mustRevoke_receipt {providerId : String} {provider : Provider} {answer : CallAnswer}
    (hears : Hears (navigationResponse request (.ok receipt)) answer) :
    navigationProviderMustRevoke (callResult providerId provider "navigate" answer) = true := by
  cases answer with
  | response value =>
    have hposted := hears value rfl
    cases hposted
    rfl
  | dropped => exact mustRevoke_unheard (by simp)
  | timedOut => exact mustRevoke_unheard (by simp)

theorem background_law : BackgroundLaw request (handleNavigation parseUrl toLowerCase request s).1
    (handleNavigation parseUrl toLowerCase request s).2.1 s.bridge (handleNavigation parseUrl toLowerCase request s).2.2 := by
  unfold handleNavigation
  split
  · rename_i e hmatch
    refine ⟨⟨?_, ?_⟩, fun _ _ _ _ _ => ⟨rfl, fun _ heq => (nomatch heq)⟩⟩
    · rintro ⟨e', heq, hcode⟩
      cases heq
      exact absurd hcode (requireMatch_error hmatch)
    · rintro ⟨⟨tab, url, answer, hmem⟩, -⟩
      cases hmem
  rename_i pairing hmatch
  have hlaw := law_outcome parseUrl request pairing (s.operations toLowerCase request pairing)
  dsimp only
  generalize outcome (navigatePairedTab parseUrl request pairing (s.operations toLowerCase request pairing) [] []) = run
    at hlaw ⊢
  obtain ⟨result, calls⟩ := run
  dsimp only at hlaw ⊢
  refine ⟨⟨?_, ?_⟩, ?_⟩
  · rintro ⟨e, rfl, hcode⟩
    refine ⟨?_, fun _ heq => (nomatch heq)⟩
    by_contra hnone
    rcases hlaw.known e rfl hnone with hother | hoperation
    · exact hother hcode
    · exact not_ofOperation hoperation hcode
  · rintro ⟨hdispatched, hnoReceipt⟩
    cases result with
    | ok value => exact absurd rfl (hnoReceipt value)
    | error e => exact ⟨e, rfl, by rw [hlaw.unknown e rfl hdispatched]; rfl⟩
  · intro providerId provider answer hears hkept
    cases result with
    | ok value =>
      obtain ⟨rfl, -⟩ := hlaw.receipt value rfl
      rw [mustRevoke_receipt hears] at hkept
      cases hkept
    | error e =>
      have hreusable := reusable_of_kept hears hkept
      refine ⟨?_, fun _ heq => (nomatch heq)⟩
      split
      · rename_i hcalled
        obtain ⟨entry, hmem, hentry⟩ := List.any_eq_true.mp hcalled
        cases entry with
        | invalidateDocument invalidated =>
          rcases hlaw.evidence e invalidated rfl hmem with ⟨-, rfl | rfl⟩ | ⟨-, hfailed⟩
          · exact absurd hreusable (by decide)
          · exact absurd hreusable (by decide)
          · rcases invalidateDocument_error hfailed with hnone | ⟨hsame, -⟩
            · rw [hnone] at hreusable
              exact absurd hreusable (by decide)
            · exact hsame
        | isCurrent answer => cases hentry
        | now answer => cases hentry
        | requirePairing answer => cases hentry
        | foreground answer => cases hentry
        | revokePairing answer => cases hentry
        | updateTab tab url answer => cases hentry
      · rfl

end Navigation

/-- Of the attempt alone, whatever its operations answer, and of the navigation of the background page. -/
theorem navigation_fenced (parseUrl : String → Option Url) (toLowerCase : String → String) :
    (∀ (request : NavigationRequest) (pairing : Pairing) (operations : NavigationOperations),
      NavigationLaw parseUrl request pairing operations (outcome (navigatePairedTab parseUrl request pairing operations [] [])).1
        (outcome (navigatePairedTab parseUrl request pairing operations [] [])).2) ∧
    ∀ (Element : Type) (request : NavigationRequest) (s : NavigationSurroundings Element),
      BackgroundLaw request (handleNavigation parseUrl toLowerCase request s).1
        (handleNavigation parseUrl toLowerCase request s).2.1 s.bridge
        (handleNavigation parseUrl toLowerCase request s).2.2 :=
  ⟨law_outcome parseUrl, fun _ _ _ => background_law⟩

end Extension
end DccCua
