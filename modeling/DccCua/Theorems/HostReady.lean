import DccCua.Theorems.HostClient

/-! # A ready connection owes nothing

Between two operations a ready connection has no outstanding request and no buffered response, unless an
operation was cancelled and gave up one of its two answers. A cancelled `wait_for_window_with_cancel` gives
up the answer of the wait when the Host refuses the cancel; a cancelled `request_with_cancel` reads both
answers, but returns the refusal of the cancel also when it could not read the other one. -/

namespace DccCua

open Runs Script

namespace HostClient

variable {n : Nat} {ids : List String} {script : List Incoming}

def Answers (requestId : String) (incoming : Incoming) : Prop :=
  ∃ response, incoming = .response response ∧ response.requestId = requestId

def Refuses (requestId : String) (incoming : Incoming) : Prop :=
  ∃ response, incoming = .response response ∧ response.requestId = requestId ∧ response.isError = true

/-- The operation that draws its ids from `n` gives up the answer of its request. -/
def GivesUp (n : Nat) : ClientOperation → List Incoming → Prop
  | .waitForWindowWithCancel .sent .sent, .cancel :: script =>
    ∃ refusal rest, Refuses (requestIdOf (saturatingAdd n 1)) refusal ∧ (arrivals script = refusal :: rest ∨
      ∃ answer, Answers (requestIdOf n) answer ∧ arrivals script = answer :: refusal :: rest)
  | .requestWithCancel .sent .sent, .cancel :: script =>
    ∃ refusal next rest, Refuses (requestIdOf (saturatingAdd n 1)) refusal ∧ ¬Answers (requestIdOf n) next ∧
      arrivals script = refusal :: next :: rest
  | _, _ => False

/-- Nothing is buffered and nothing of the script is read. -/
structure Fresh (n : Nat) (ids : List String) (script : List Incoming) (c : HostClient) (rest : List Incoming) : Prop where
  tracked : Tracked (fun _ => True) n ids c rest
  empty : c.pending = []
  unread : rest = script

theorem sendRequest_keeps (sending : Sending) (script : List Incoming) :
    Triple (fun c rest => c.pending = [] ∧ rest = script) (sendRequest sending)
      (fun result c rest => (∀ id, result = .ok id → sending = .sent) ∧ c.pending = [] ∧ rest = script)
      fun _ => True := by
  refine triple_andThen (R := fun _ c rest => c.pending = [] ∧ rest = script) (triple_update fun _ _ h => h) fun id => ?_
  unfold sendRequestWithId
  split
  · exact triple_ret fun _ _ h => ⟨fun _ hid => (by cases hid), h⟩
  · refine triple_tryThen (R := fun _ c rest => c.pending = [] ∧ rest = script) ?_ fun _ => ?_
    · refine triple_update fun c rest h => ?_
      unfold registerOutstandingRequest
      split
      · exact ⟨fun _ hid => (by cases hid), h⟩
      · split
        · exact ⟨fun _ hid => (by cases hid), h⟩
        · split
          · exact ⟨fun _ hid => (by cases hid), h⟩
          · exact h
    · cases sending with
      | sent => exact triple_ret fun _ _ h => ⟨fun _ _ => rfl, h⟩
      | failed => exact triple_ret fun _ _ h => ⟨fun _ hid => (by cases hid), h⟩
      | dropped => exact triple_dropped fun _ _ _ => trivial

/-- A program after a send with nothing buffered. -/
theorem afterFreshSend {α : Type} {sending : Sending} {f : String → ClientProg α}
    {Q : Except HostClientError α → HostClient → List Incoming → Prop} (hlocal : ∀ e c rest, Local e → Q (.error e) c rest)
    (hf : requestIdOf n ∉ ids → sending = .sent →
      Triple (Fresh (saturatingAdd n 1) (requestIdOf n :: ids) script) (f (requestIdOf n)) Q fun _ => True) :
    Triple (Fresh n ids script) (Prog.tryThen (sendRequest sending) f) Q fun _ => True := by
  have hsend := triple_and (sendRequest_spec ids (A := fun _ => True) (n := n) sending)
    (sendRequest_keeps sending script)
  refine triple_tryThen (R := fun id c rest => (id = requestIdOf n ∧ requestIdOf n ∉ ids ∧ sending = .sent) ∧
    Fresh (saturatingAdd n 1) (requestIdOf n :: ids) script c rest) ?_ fun id => ?_
  · refine triple_weaken hsend (fun _ _ h => ⟨h.tracked, h.empty, h.unread⟩) fun result c rest h => ?_
    obtain ⟨htracked, hsent, hempty, hunread⟩ := h
    cases result with
    | ok id => exact ⟨⟨htracked.1, htracked.2.1, hsent id rfl⟩, htracked.2.2, hempty, hunread⟩
    | error e => exact hlocal e c rest htracked
  · intro c rest h
    obtain ⟨⟨rfl, hnew, hsent⟩, h⟩ := h
    exact hf hnew hsent c rest h

/-- The wait for the only outstanding request ends with the first thing that arrives. -/
theorem receiveOrCancel_fresh (requestId : String) :
    Triple (Fresh n [requestId] script) (receiveOrCancel true requestId)
      (fun wake c rest => match wake with
        | .response (.ok _) => Tracked (fun _ => True) n [] c rest
        | .response (.error e) => Local e
        | .cancelled => script = .cancel :: rest ∧ Fresh n [requestId] rest c rest)
      fun _ => True := by
  intro c rest h
  have hfind : c.pending.find? (fun response => response.requestId = requestId) = none := by rw [h.empty]; rfl
  have hwait := receiveOrCancel_spec true requestId c rest h.tracked
  unfold receiveOrCancel at hwait ⊢
  rw [hfind] at hwait ⊢
  have hids : [requestId].filter (· ≠ requestId) = [] := by simp
  cases rest with
  | nil => trivial
  | cons incoming rest =>
    cases incoming with
    | cancel => exact ⟨h.unread.symm, h.tracked.tail, h.empty, rfl⟩
    | readFailed error => cases error <;> exact hwait
    | response response =>
      simp only [Prog.await, receiveTurn] at hwait ⊢
      by_cases htracked : response.requestId ∈ c.outstanding
      · have hid : response.requestId = requestId := by simpa using (h.tracked.outstanding _).mp htracked
        rw [if_neg (not_not.mpr htracked), if_pos hid] at hwait ⊢
        rw [← hids]
        exact hwait.2
      · rw [if_pos htracked] at hwait ⊢
        exact hwait

/-- What arrived before the answer of the cancel: nothing, or the answer of the request, which is buffered. -/
def Buffered (requestId : String) (before : List Incoming) (c : HostClient) : Prop :=
  (before = [] ∧ c.pending = []) ∨
    ∃ answer : ReceivedResponse, before = [.response answer] ∧ answer.requestId = requestId ∧ c.pending = [answer]

theorem filter_pair {cancelId requestId : String} (hne : requestId ≠ cancelId) :
    [cancelId, requestId].filter (· ≠ cancelId) = [requestId] := by simp [hne]

theorem Buffered.take {cancelId requestId : String} {before : List Incoming} {c : HostClient} (hne : requestId ≠ cancelId)
    (h : Buffered requestId before c) : Buffered requestId before (c.take cancelId) := by
  rcases h with ⟨hbefore, hpending⟩ | ⟨answer, hbefore, hid, hpending⟩
  · exact Or.inl ⟨hbefore, by simp [HostClient.take, hpending]⟩
  · exact Or.inr ⟨answer, hbefore, hid, by simp [HostClient.take, hpending, hid, hne]⟩

/-- What a wait for the answer of the cancel ends with. -/
def Heard (n : Nat) (script : List Incoming) (cancelId requestId : String) : Wake → HostClient → List Incoming → Prop
  | .response result, c, rest => orError (fun response c rest => response.requestId = cancelId ∧
      Tracked (fun _ => True) n [requestId] c rest ∧
      ∃ before, arrivals script = before ++ .response response :: arrivals rest ∧ Buffered requestId before c)
      (fun e _ _ => Local e) result c rest
  | .cancelled, _, _ => True

theorem receiveForRequestRaw_heard {cancelId requestId : String} (hne : requestId ≠ cancelId) :
    Triple (Fresh n [cancelId, requestId] script) (receiveForRequestRaw cancelId)
      (orError (fun response c rest => response.requestId = cancelId ∧ Tracked (fun _ => True) n [requestId] c rest ∧
        ∃ before, arrivals script = before ++ .response response :: arrivals rest ∧ Buffered requestId before c)
        fun e _ _ => Local e) fun _ => True := by
  refine triple_andThen (R := Heard n script cancelId requestId) ?_ fun wake => ?_
  · intro c rest h
    have hfind : c.pending.find? (fun response => response.requestId = cancelId) = none := by rw [h.empty]; rfl
    unfold receiveOrCancel
    rw [hfind]
    refine triple_await (P := fun c rest => Tracked (fun _ => True) n [cancelId, requestId] c rest ∧
      ∃ before, arrivals script = before ++ arrivals rest ∧ Buffered requestId before c) (fun _ _ => trivial) ?_ c rest
      ⟨h.tracked, [], by rw [h.unread]; rfl, Or.inl ⟨rfl, h.empty⟩⟩
    intro incoming rest c h
    obtain ⟨htracked, before, harrivals, hbuffered⟩ := h
    cases incoming with
    | cancel =>
      rw [arrivals_cancel] at harrivals
      exact ⟨htracked.tail, before, harrivals, hbuffered⟩
    | readFailed error => cases error <;> exact fun _ => by simp
    | response response =>
      rw [arrivals_response] at harrivals
      simp only [receiveTurn]
      by_cases hmem : response.requestId ∈ c.outstanding
      · rw [if_neg (not_not.mpr hmem)]
        by_cases hid : response.requestId = cancelId
        · rw [if_pos hid]
          refine ⟨hid, ?_, before, harrivals, hbuffered.take hne⟩
          rw [← filter_pair hne]
          exact htracked.tail.take cancelId
        · rw [if_neg hid]
          have hrequest : response.requestId = requestId := by
            have := (htracked.outstanding _).mp hmem
            simpa [hid] using this
          rcases hbuffered with ⟨hbefore, hpending⟩ | ⟨answer, hbefore, hanswer, hpending⟩
          · rw [if_neg (by simp [hpending])]
            refine ⟨⟨htracked.outstanding, ?_, htracked.next, htracked.tail.coming⟩, [.response response], ?_, ?_⟩
            · simp [hpending, hrequest]
            · rw [harrivals, hbefore]
              rfl
            · exact Or.inr ⟨response, rfl, hrequest, by simp [hpending]⟩
          · rw [if_pos (by simp [hpending, hanswer, hrequest])]
            exact fun _ => by simp
      · rw [if_pos hmem]
        exact fun _ => by simp
  · cases wake with
    | response result => exact triple_ret fun _ _ h => h
    | cancelled => exact triple_dropped fun _ _ _ => trivial

/-- The answer of the request is buffered, or nothing else than it can arrive. -/
def Coming (requestId : String) (n : Nat) (c : HostClient) (rest : List Incoming) : Prop :=
  Tracked (fun _ => True) n [requestId] c rest ∧ ∃ before, Buffered requestId before c ∧
    (before = [] → ∀ next after, arrivals rest = next :: after → Answers requestId next)

theorem receiveOrCancel_coming (requestId : String) :
    Triple (Coming requestId n) (receiveOrCancel false requestId)
      (fun wake c rest => (∃ response, wake = .response (.ok response)) ∧ Tracked (fun _ => True) n [] c rest)
      fun _ => True := by
  intro c rest h
  obtain ⟨htracked, before, hbuffered, hcoming⟩ := h
  have hids : [requestId].filter (· ≠ requestId) = [] := by simp
  unfold receiveOrCancel
  rcases hbuffered with ⟨hbefore, hpending⟩ | ⟨answer, hbefore, hanswer, hpending⟩
  · have hfind : c.pending.find? (fun response => response.requestId = requestId) = none := by rw [hpending]; rfl
    rw [hfind]
    refine triple_await (P := fun c rest => Tracked (fun _ => True) n [requestId] c rest ∧
      ∀ next after, arrivals rest = next :: after → Answers requestId next) (fun _ _ => trivial) ?_ c rest
      ⟨htracked, hcoming hbefore⟩
    intro incoming rest c h
    obtain ⟨htracked, hcoming⟩ := h
    cases incoming with
    | cancel => exact ⟨htracked.tail, fun next after => hcoming next after⟩
    | readFailed error =>
      obtain ⟨response, heq, _⟩ := hcoming (.readFailed error) (arrivals rest) (by simp [arrivals])
      cases heq
    | response response =>
      obtain ⟨_, heq, hid⟩ := hcoming (.response response) (arrivals rest) (arrivals_response response rest)
      cases heq
      have hmem : response.requestId ∈ c.outstanding := (htracked.outstanding _).mpr (by simp [hid])
      simp only [receiveTurn]
      rw [if_neg (not_not.mpr hmem), if_pos hid]
      refine ⟨⟨response, rfl⟩, ?_⟩
      rw [← hids]
      exact htracked.tail.take requestId
  · have hfind : c.pending.find? (fun response => response.requestId = requestId) = some answer := by
      simp [hpending, hanswer]
    rw [hfind]
    refine ⟨⟨answer, rfl⟩, ?_⟩
    rw [← hids]
    exact htracked.take requestId

theorem receiveForRequest_coming (requestId : String) :
    Triple (Coming requestId n) (receiveForRequest requestId) (fun _ => Tracked (fun _ => True) n []) fun _ => True := by
  refine triple_tryThen (R := fun _ => Tracked (fun _ => True) n []) ?_ fun _ => triple_ret fun _ _ h => h
  refine triple_andThen (receiveOrCancel_coming requestId) fun wake => ?_
  intro c rest h
  obtain ⟨⟨response, rfl⟩, htracked⟩ := h
  exact htracked

/-- Every result other than an error of the connection leaves nothing outstanding and nothing buffered. -/
def Owes {α : Type} (result : Except HostClientError α) (c : HostClient) (rest : List Incoming) : Prop :=
  ∃ m, Settles (fun _ => True) m [] result c rest

theorem owes_local {α : Type} (e : HostClientError) (c : HostClient) (rest : List Incoming) (h : Local e) :
    Owes (.error e : Except HostClientError α) c rest := ⟨0, settles_local e c rest h⟩

theorem local_or_remote (e : HostClientError) : Local e ∨ ∃ response, e = .remote response := by
  cases e with
  | remote response => exact Or.inr ⟨response, rfl⟩
  | io message => exact Or.inl fun _ => by simp
  | protocol message => exact Or.inl fun _ => by simp

/-- The answer of the cancel is read while the one of the request is outstanding. -/
theorem receiveCancel_spec {cancelId requestId : String} (hne : requestId ≠ cancelId) :
    Triple (Fresh n [cancelId, requestId] script) (receiveForRequest cancelId)
      (fun result c rest => (∃ e, result = .error e ∧ Local e) ∨ Tracked (fun _ => True) n [requestId] c rest ∧
        ((∃ response, result = .ok response) ∨ ∃ refusal before, Refuses cancelId refusal ∧
          arrivals script = before ++ refusal :: arrivals rest ∧ Buffered requestId before c)) fun _ => True := by
  refine triple_tryThen (R := fun response c rest => response.requestId = cancelId ∧
    Tracked (fun _ => True) n [requestId] c rest ∧ ∃ before, arrivals script = before ++ .response response :: arrivals rest ∧
    Buffered requestId before c) ?_ fun response => ?_
  · refine triple_weaken (receiveForRequestRaw_heard hne) (fun _ _ h => h) fun result c rest h => ?_
    cases result with
    | ok response => exact h
    | error e => exact Or.inl ⟨e, rfl, h⟩
  · refine triple_ret fun c rest h => Or.inr ?_
    obtain ⟨hid, htracked, before, harrivals, hbuffered⟩ := h
    refine ⟨htracked, ?_⟩
    unfold ReceivedResponse.intoResult
    by_cases herror : response.isError = true
    · exact Or.inr ⟨.response response, before, ⟨response, rfl, hid, herror⟩, harrivals, hbuffered⟩
    · rw [if_neg herror]
      exact Or.inl ⟨response, rfl⟩

/-- A request that can be cancelled, with `cancelled` for what follows a cancel. -/
theorem cancellable_spec {sending : Sending} {cancelled : String → ClientProg ReceivedResponse}
    (hcancelled : sending = .sent → ∀ rest, script = .cancel :: rest →
      Triple (Fresh (saturatingAdd n 1) [requestIdOf n] rest) (cancelled (requestIdOf n)) Owes fun _ => True) :
    Triple (Fresh n [] script) (Prog.tryThen (sendRequest sending) fun requestId =>
      Prog.andThen (receiveOrCancel true requestId) fun
        | .response result => Prog.tryThen (Prog.ret result) fun response => Prog.ret response.intoResult
        | .cancelled => cancelled requestId) Owes fun _ => True := by
  refine afterFreshSend owes_local fun _ hsent => ?_
  refine triple_andThen (receiveOrCancel_fresh (requestIdOf n)) fun wake => ?_
  cases wake with
  | response result =>
    cases result with
    | error e => exact triple_ret fun c rest h => owes_local e c rest h
    | ok response => exact triple_ret fun c rest h => ⟨_, Or.inr h⟩
  | cancelled =>
    intro c rest h
    exact hcancelled hsent rest h.1 c rest h.2

theorem exchangeWindowWait_spec (sending cancelSending : Sending)
    (h : ¬GivesUp n (.waitForWindowWithCancel sending cancelSending) script) :
    Triple (Fresh n [] script) (exchangeWindowWait sending cancelSending) Owes fun _ => True := by
  refine cancellable_spec fun hsent script' hscript => afterFreshSend owes_local fun hnew hsent' => ?_
  subst hsent hsent' hscript
  have hne : requestIdOf n ≠ requestIdOf (saturatingAdd n 1) := fun heq => hnew (by simp [heq])
  intro c rest hfresh
  refine triple_tryThen (R := fun _ => Tracked (fun _ => True) (saturatingAdd (saturatingAdd n 1) 1) [requestIdOf n]) ?_
    (fun _ => ?_) c rest hfresh
  · refine triple_weaken (receiveCancel_spec hne) (fun _ _ h => h) fun result c rest hresult => ?_
    rcases hresult with ⟨e, rfl, he⟩ | ⟨htracked, ⟨response, rfl⟩ | ⟨refusal, before, hrefuses, harrivals, hbuffered⟩⟩
    · exact owes_local e c rest he
    · exact htracked
    · -- the refusal is the first answer, or the second after the one of the wait
      refine absurd ⟨refusal, arrivals rest, hrefuses, ?_⟩ h
      rcases hbuffered with ⟨rfl, _⟩ | ⟨answer, rfl, hid, _⟩
      · exact Or.inl harrivals
      · exact Or.inr ⟨.response answer, ⟨answer, rfl, hid⟩, harrivals⟩
  · exact triple_weaken (receiveForRequest_last (by simp)) (fun _ _ h => h) fun _ _ _ h => ⟨_, h⟩

theorem exchangeWithCancel_spec (sending cancelSending : Sending)
    (h : ¬GivesUp n (.requestWithCancel sending cancelSending) script) :
    Triple (Fresh n [] script) (exchangeWithCancel sending cancelSending) Owes fun _ => True := by
  refine cancellable_spec fun hsent script' hscript => afterFreshSend owes_local fun hnew hsent' => ?_
  subst hsent hsent' hscript
  have hne : requestIdOf n ≠ requestIdOf (saturatingAdd n 1) := fun heq => hnew (by simp [heq])
  refine triple_andThen (receiveCancel_spec hne) fun cancelResult => ?_
  intro c rest hcancel
  rcases hcancel with ⟨e, rfl, he⟩ | ⟨htracked, ⟨response, rfl⟩ | ⟨refusal, before, hrefuses, harrivals, hbuffered⟩⟩
  · have hany : Triple (fun _ _ => True) (receiveForRequest (requestIdOf n)) (fun _ _ _ => True) fun _ => True :=
      triple_true _
    exact triple_andThen hany (fun _ => triple_ret fun c rest _ => owes_local e c rest he) c rest trivial
  · refine triple_andThen (receiveForRequest_last (by simp)) (fun _ => ?_) c rest htracked
    exact triple_ret fun _ _ h => ⟨_, h⟩
  · have hcoming : Coming (requestIdOf n) (saturatingAdd (saturatingAdd n 1) 1) c rest := by
      refine ⟨htracked, before, hbuffered, fun hbefore next after hrest => ?_⟩
      by_contra hnext
      rw [hbefore, hrest] at harrivals
      exact h ⟨refusal, next, after, hrefuses, hnext, harrivals⟩
    refine triple_andThen (receiveForRequest_coming (requestIdOf n)) (fun _ => ?_) c rest hcoming
    intro c rest hdone
    cases cancelResult with
    | error e => exact ⟨_, Or.inr hdone⟩
    | ok response => exact ⟨_, Or.inr hdone⟩

/-! ### Whole operations -/

/-- Nothing is outstanding and nothing is buffered. -/
def Idle (c : HostClient) : Prop := c.outstanding = [] ∧ c.pending = []

theorem Tracked.idle {A : Incoming → Prop} {c : HostClient} (h : Tracked A n [] c script) : Idle c := by
  refine ⟨List.eq_nil_iff_forall_not_mem.mpr fun id hid => ?_, List.eq_nil_iff_forall_not_mem.mpr fun response hmem => ?_⟩
  · exact List.not_mem_nil ((h.outstanding id).mp hid)
  · exact List.not_mem_nil (h.buffered response hmem).1

theorem Idle.fresh {c : HostClient} (h : Idle c) (script : List Incoming) :
    Fresh c.nextRequestId [] script { c with connectionState := .inFlight } script := by
  obtain ⟨houtstanding, hpending⟩ := h
  exact ⟨⟨by simp [houtstanding], by simp [hpending], rfl, fun _ _ => trivial⟩, hpending, rfl⟩

/-- A ready connection is idle. -/
def Settled (c : HostClient) : Prop := c.connectionState = .ready → Idle c

theorem Settled.operation {α : Type} {exchange : ClientProg α} {c : HostClient} (h : Settled c) (script : List Incoming)
    (hexchange : Triple (Fresh c.nextRequestId [] script) exchange Owes fun _ => True) :
    Settled (operation exchange c script).2 := by
  unfold HostClient.operation
  cases hstate : c.connectionState with
  | unusable => exact h
  | inFlight => exact h
  | ready =>
    have hran := hexchange _ script ((h hstate).fresh script)
    cases hrun : exchange { c with connectionState := .inFlight } script with
    | cut c' => exact fun hready => by cases hready
    | done result c' rest =>
      rw [hrun] at hran
      obtain ⟨m, ⟨e, rfl, he⟩ | htracked⟩ := hran
      · cases e with
        | remote response => exact absurd rfl (he response)
        | io message => exact fun hready => by cases hready
        | protocol message => exact fun hready => by cases hready
      · cases result with
        | ok a => exact fun _ => htracked.idle
        | error e =>
          cases e with
          | remote response => exact fun _ => htracked.idle
          | io message => exact fun hready => by cases hready
          | protocol message => exact fun hready => by cases hready

theorem owes_of_tracked {α : Type} {m : Nat} {exchange : ClientProg α}
    (h : Triple (Tracked (fun _ => True) n []) exchange (Settles (fun _ => True) m []) fun _ => True) :
    Triple (Fresh n [] script) exchange Owes fun _ => True :=
  triple_weaken h (fun _ _ hfresh => hfresh.tracked) fun _ _ _ hsettles => ⟨m, hsettles⟩

theorem Settled.run {c : HostClient} (h : Settled c) (op : ClientOperation) (script : List Incoming)
    (hop : ¬GivesUp c.nextRequestId op script) : Settled (c.run op script).2 := by
  cases op with
  | request sending => exact h.operation script (owes_of_tracked (exchange_spec sending))
  | requestWithId requestId sending =>
    simp only [HostClient.run]
    split
    · exact h
    · exact h.operation script (owes_of_tracked (exchangeWithId_spec requestId sending))
  | batch requests allowed =>
    show Settled (requestBatchWithIdsAll requests allowed c script).2
    unfold requestBatchWithIdsAll
    repeat' split
    all_goals first
      | exact h
      | exact h.operation script (owes_of_tracked (exchangeAll_spec requests))
  | requestWithCancel sending cancelSending => exact h.operation script (exchangeWithCancel_spec sending cancelSending hop)
  | waitForWindowWithCancel sending cancelSending =>
    exact h.operation script (exchangeWindowWait_spec sending cancelSending hop)

/-- In a run in which no operation gives up an answer, a ready connection has no outstanding request and no
    buffered response. -/
theorem ready_connection_idle (operations : List (ClientOperation × List Incoming))
    (hoperations : ∀ call ∈ clientMachine.trace connected operations,
      ¬GivesUp call.before.nextRequestId call.input.1 call.input.2) :
    (clientMachine.final connected operations).connectionState = .ready →
      (clientMachine.final connected operations).outstanding = [] ∧ (clientMachine.final connected operations).pending = [] := by
  have hconnected : Settled connected := fun _ => ⟨rfl, rfl⟩
  have hsettled : Settled (clientMachine.final connected operations) :=
    Machine.inv_history (m := clientMachine) (fun c _ => Settled c) (fun call => ¬GivesUp call.before.nextRequestId call.input.1 call.input.2)
      (fun c input _ h hop => h.run input.1 input.2 hop) hconnected operations hoperations
  exact hsettled

/-- A cancelled request whose cancel is refused before the request is answered, and a cancelled wait. -/
def sampleOperations : List (ClientOperation × List Incoming) :=
  [(.requestWithCancel .sent .sent,
      [.cancel, .response ⟨"cua-client-2", "request_not_found", true⟩, .response ⟨"cua-client-1", "done", false⟩]),
    (.waitForWindowWithCancel .sent .sent,
      [.cancel, .response ⟨"cua-client-3", "cancelled", true⟩, .response ⟨"cua-client-4", "cancelling", false⟩])]

theorem ready_connection_idle_sample :
    (clientMachine.final connected sampleOperations).connectionState = .ready ∧
    (clientMachine.final connected sampleOperations).outstanding = [] ∧
    (clientMachine.final connected sampleOperations).pending = [] := by
  have hready : (clientMachine.final connected sampleOperations).connectionState = .ready := by decide
  refine ⟨hready, ready_connection_idle sampleOperations ?_ hready⟩
  intro call hcall
  simp only [sampleOperations, Machine.trace_cons, Machine.trace_nil, List.mem_cons, List.not_mem_nil, or_false] at hcall
  rcases hcall with rfl | rfl
  · rintro ⟨refusal, next, rest, _, hnext, harrivals⟩
    cases harrivals
    exact hnext ⟨_, rfl, rfl⟩
  · rintro ⟨refusal, rest, ⟨response, rfl, hid, herror⟩, harrivals | ⟨answer, _, harrivals⟩⟩
    · cases harrivals
      exact absurd hid (by rw [Machine.call_before]; exact by decide)
    · cases harrivals
      cases herror

/-- A cancelled wait whose cancel the Host refuses leaves the wait outstanding on a ready connection. -/
theorem refused_cancel_leaves_wait :
    let c := clientMachine.final connected [(.waitForWindowWithCancel .sent .sent,
      [.cancel, .response ⟨"cua-client-2", "request_not_found", true⟩])]
    c.connectionState = .ready ∧ c.outstanding = ["cua-client-1"] := by
  decide

end HostClient
end DccCua
