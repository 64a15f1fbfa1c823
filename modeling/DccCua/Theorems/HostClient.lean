import DccCua.Client.HostClient
import Mathlib.Data.List.Nodup
import Mathlib.Data.List.Perm.Basic

/-! What a client connection tracks: while an operation runs, every buffered response belongs to an outstanding
    request, and a response that is handed out leaves both sets. -/

namespace DccCua

open Runs Script

namespace HostClient

variable {c : HostClient} {ids : List String} {n : Nat} {script : List Incoming}

/-- What a wait that cannot be cancelled reads of a script. -/
def arrivals (script : List Incoming) : List Incoming := script.filter (· ≠ .cancel)

theorem arrivals_cancel (script : List Incoming) : arrivals (.cancel :: script) = arrivals script := by simp [arrivals]

theorem arrivals_response (response : ReceivedResponse) (script : List Incoming) :
    arrivals (.response response :: script) = .response response :: arrivals script := by simp [arrivals]

/-- The outstanding requests are `ids`, the next id is number `n`, and what is buffered or still to come has
    `A`. -/
structure Tracked (A : Incoming → Prop) (n : Nat) (ids : List String) (c : HostClient) (script : List Incoming) : Prop where
  outstanding : ∀ id, id ∈ c.outstanding ↔ id ∈ ids
  buffered : ∀ response ∈ c.pending, response.requestId ∈ ids ∧ A (.response response)
  next : c.nextRequestId = n
  coming : ∀ incoming ∈ script, A incoming

variable {A : Incoming → Prop}

theorem Tracked.take (h : Tracked A n ids c script) (requestId : String) :
    Tracked A n (ids.filter (· ≠ requestId)) (c.take requestId) script where
  outstanding id := by simp [HostClient.take, h.outstanding]
  buffered response hmem := by
    simp only [HostClient.take, List.mem_filter, decide_eq_true_eq] at hmem ⊢
    obtain ⟨hpending, hne⟩ := hmem
    exact ⟨⟨(h.buffered response hpending).1, hne⟩, (h.buffered response hpending).2⟩
  next := h.next
  coming := h.coming

theorem Tracked.tail {incoming : Incoming} (h : Tracked A n ids c (incoming :: script)) : Tracked A n ids c script where
  outstanding := h.outstanding
  buffered := h.buffered
  next := h.next
  coming other hmem := h.coming other (List.mem_cons_of_mem _ hmem)

/-- An error that is not the Host's: it leaves the connection unusable. -/
def Local (e : HostClientError) : Prop := ∀ response, e ≠ .remote response

theorem sendRequestWithId_spec (requestId : String) (sending : Sending) :
    Triple (Tracked A n ids) (sendRequestWithId requestId sending)
      (orError (fun id c rest => id = requestId ∧ requestId ∉ ids ∧ Tracked A n (requestId :: ids) c rest)
        fun e _ _ => Local e) fun _ => True := by
  have hregister : Triple (Tracked A n ids) (Prog.update (registerOutstandingRequest requestId))
      (orError (fun _ c rest => requestId ∉ ids ∧ Tracked A n (requestId :: ids) c rest) fun e _ _ => Local e)
      fun _ => True := by
    refine triple_update fun c rest h => ?_
    unfold registerOutstandingRequest
    split
    · exact fun _ => by simp
    · split
      · exact fun _ => by simp
      · rename_i hnew
        split
        · exact fun _ => by simp
        · refine ⟨(not_congr (h.outstanding _)).mp hnew, fun id => ?_, fun response hmem => ?_, h.next, h.coming⟩
          · simp [h.outstanding]
          · exact ⟨List.mem_cons_of_mem _ (h.buffered response hmem).1, (h.buffered response hmem).2⟩
  have hwrite : Triple (fun c rest => requestId ∉ ids ∧ Tracked A n (requestId :: ids) c rest) (write sending)
      (orError (fun _ c rest => requestId ∉ ids ∧ Tracked A n (requestId :: ids) c rest) fun e _ _ => Local e)
      fun _ => True := by
    cases sending with
    | sent => exact triple_ret fun _ _ h => h
    | failed => exact triple_ret fun _ _ _ _ => by simp
    | dropped => exact triple_dropped fun _ _ _ => trivial
  unfold sendRequestWithId
  split
  · exact triple_ret fun _ _ _ _ => by simp
  · exact triple_tryThen hregister fun _ => triple_tryThen hwrite fun _ => triple_ret fun _ _ h => ⟨rfl, h⟩

theorem sendRequest_spec (ids : List String) (sending : Sending) :
    Triple (Tracked A n ids) (sendRequest sending)
      (orError (fun id c rest => id = requestIdOf n ∧ requestIdOf n ∉ ids ∧
        Tracked A (saturatingAdd n 1) (requestIdOf n :: ids) c rest) fun e _ _ => Local e) fun _ => True := by
  refine triple_andThen (R := fun id c rest => id = requestIdOf n ∧ Tracked A (saturatingAdd n 1) ids c rest) ?_
    fun id => ?_
  · refine triple_update fun c rest h => ⟨by rw [h.next], h.outstanding, h.buffered, ?_, h.coming⟩
    rw [← h.next]
  · intro c rest h
    obtain ⟨rfl, h⟩ := h
    exact sendRequestWithId_spec (requestIdOf n) sending c rest h

/-- One wait for a response: it is the response of the request, or an error that is not the Host's. -/
theorem receiveOrCancel_spec (cancellable : Bool) (requestId : String) :
    Triple (Tracked A n ids) (receiveOrCancel cancellable requestId)
      (fun wake c rest => match wake with
        | .response (.ok response) => (response.requestId = requestId ∧ A (.response response)) ∧
            Tracked A n (ids.filter (· ≠ requestId)) c rest
        | .response (.error e) => Local e
        | .cancelled => cancellable = true ∧ Tracked A n ids c rest)
      fun _ => True := by
  intro c script h
  unfold receiveOrCancel
  split
  · rename_i response hfind
    have hid : response.requestId = requestId := by simpa using List.find?_some hfind
    exact ⟨⟨hid, (h.buffered response (List.mem_of_find?_eq_some hfind)).2⟩, h.take requestId⟩
  · refine triple_await (P := Tracked A n ids) (fun _ _ => trivial) ?_ c script h
    intro incoming rest c h
    have hincoming := h.coming incoming List.mem_cons_self
    cases incoming with
    | cancel =>
      cases cancellable with
      | true => exact ⟨rfl, h.tail⟩
      | false => exact h.tail
    | readFailed error =>
      cases error with
      | remote response => exact fun _ => by simp
      | io message => exact fun _ => by simp
      | protocol message => exact fun _ => by simp
    | response response =>
      simp only [receiveTurn]
      by_cases htracked : response.requestId ∈ c.outstanding
      · rw [if_neg (not_not.mpr htracked)]
        by_cases hid : response.requestId = requestId
        · rw [if_pos hid]
          exact ⟨⟨hid, hincoming⟩, h.tail.take requestId⟩
        · rw [if_neg hid]
          by_cases hdup : c.pending.any (fun other => other.requestId = response.requestId) = true
          · rw [if_pos hdup]
            exact fun _ => by simp
          · rw [if_neg hdup]
            refine ⟨h.outstanding, fun other hmem => ?_, h.next, h.tail.coming⟩
            rcases List.mem_cons.mp hmem with rfl | hmem
            · exact ⟨(h.outstanding _).mp htracked, hincoming⟩
            · exact h.buffered other hmem
      · rw [if_pos htracked]
        exact fun _ => by simp

/-- The response of the request, with the client after it. -/
def Answered (A : Incoming → Prop) (n : Nat) (ids : List String) (requestId : String) (response : ReceivedResponse)
    (c : HostClient) (rest : List Incoming) : Prop :=
  (response.requestId = requestId ∧ A (.response response)) ∧ Tracked A n (ids.filter (· ≠ requestId)) c rest

theorem receiveForRequestRaw_spec (requestId : String) :
    Triple (Tracked A n ids) (receiveForRequestRaw requestId)
      (orError (Answered A n ids requestId) fun e _ _ => Local e) fun _ => True := by
  refine triple_andThen (receiveOrCancel_spec false requestId) fun wake => ?_
  cases wake with
  | response result =>
    cases result with
    | ok response => exact triple_ret fun _ _ h => h
    | error e => exact triple_ret fun _ _ h => h
  | cancelled => exact triple_dropped fun _ _ _ => trivial

/-- Every response or Host error leaves only `ids` outstanding. -/
def Settles {α : Type} (A : Incoming → Prop) (n : Nat) (ids : List String) (result : Except HostClientError α)
    (c : HostClient) (rest : List Incoming) : Prop :=
  (∃ e, result = .error e ∧ Local e) ∨ Tracked A n ids c rest

theorem settles_intoResult {requestId : String} {response : ReceivedResponse} {rest : List Incoming}
    (h : Answered A n ids requestId response c rest) :
    Settles A n (ids.filter (· ≠ requestId)) response.intoResult c rest := Or.inr h.2

theorem receiveForRequest_spec (requestId : String) :
    Triple (Tracked A n ids) (receiveForRequest requestId) (Settles A n (ids.filter (· ≠ requestId))) fun _ => True := by
  refine triple_tryThen (R := Answered A n ids requestId) ?_ fun response => triple_ret fun _ _ h => settles_intoResult h
  refine triple_weaken (receiveForRequestRaw_spec requestId) (fun _ _ h => h) fun result c rest h => ?_
  cases result with
  | ok response => exact h
  | error e => exact Or.inl ⟨e, rfl, h⟩

/-- A program after a send. -/
theorem afterSend {α : Type} {sending : Sending} {f : String → ClientProg α} {Q : Except HostClientError α → HostClient →
    List Incoming → Prop} (hlocal : ∀ e c rest, Local e → Q (.error e) c rest)
    (hf : requestIdOf n ∉ ids → Triple (Tracked A (saturatingAdd n 1) (requestIdOf n :: ids)) (f (requestIdOf n)) Q fun _ => True) :
    Triple (Tracked A n ids) (Prog.tryThen (sendRequest sending) f) Q fun _ => True := by
  refine triple_tryThen (R := fun id c rest => id = requestIdOf n ∧ requestIdOf n ∉ ids ∧
    Tracked A (saturatingAdd n 1) (requestIdOf n :: ids) c rest) ?_ fun id => ?_
  · refine triple_weaken (sendRequest_spec _ sending) (fun _ _ h => h) fun result c rest h => ?_
    cases result with
    | ok id => exact h
    | error e => exact hlocal e c rest h
  · intro c rest h
    obtain ⟨rfl, hnew, h⟩ := h
    exact hf hnew c rest h

theorem settles_local {α : Type} (e : HostClientError) (c : HostClient) (rest : List Incoming) (h : Local e) :
    Settles A n ids (.error e : Except HostClientError α) c rest := Or.inl ⟨e, rfl, h⟩

theorem filter_cons_self {requestId : String} (h : requestId ∉ ids) : (requestId :: ids).filter (· ≠ requestId) = ids := by
  rw [List.filter_cons_of_neg (by simp), List.filter_eq_self]
  intro id hid
  have hne : id ≠ requestId := fun heq => h (heq ▸ hid)
  simpa using hne

theorem receiveForRequest_last {requestId : String} (h : requestId ∉ ids) :
    Triple (Tracked A n (requestId :: ids)) (receiveForRequest requestId) (Settles A n ids) fun _ => True := by
  have hspec : Triple (Tracked A n (requestId :: ids)) (receiveForRequest requestId)
      (Settles A n ((requestId :: ids).filter (· ≠ requestId))) fun _ => True := receiveForRequest_spec requestId
  rw [filter_cons_self h] at hspec
  exact hspec

theorem exchange_spec (sending : Sending) :
    Triple (Tracked A n []) (exchange sending) (Settles A (saturatingAdd n 1) []) fun _ => True :=
  afterSend settles_local fun hnew => receiveForRequest_last hnew

theorem exchangeWithId_spec (requestId : String) (sending : Sending) :
    Triple (Tracked A n []) (exchangeWithId requestId sending) (Settles A n []) fun _ => True := by
  refine triple_tryThen (R := fun id c rest => id = requestId ∧ requestId ∉ [] ∧ Tracked A n [requestId] c rest) ?_
    fun id => ?_
  · refine triple_weaken (sendRequestWithId_spec requestId sending) (fun _ _ h => h) fun result c rest h => ?_
    cases result with
    | ok id => exact h
    | error e => exact settles_local e c rest h
  · intro c rest h
    obtain ⟨rfl, hnew, h⟩ := h
    exact receiveForRequest_last hnew c rest h

theorem sendAll_spec : ∀ (requests : List (String × Sending)) (ids : List String),
    Triple (Tracked A n ids) (sendAll requests)
      (orError (fun _ c rest => (∀ id ∈ requests.map Prod.fst, id ∉ ids) ∧
        Tracked A n ((requests.map Prod.fst).reverse ++ ids) c rest) fun e _ _ => Local e) fun _ => True
  | [], _ => triple_ret fun _ _ h => ⟨by simp, h⟩
  | (requestId, sending) :: requests, ids => by
    refine triple_tryThen (sendRequestWithId_spec requestId sending) fun _ => ?_
    intro c rest h
    refine triple_weaken (sendAll_spec requests (requestId :: ids)) (fun _ _ h => h) (fun result c rest hall => ?_) c rest
      h.2.2
    cases result with
    | error e => exact hall
    | ok _ =>
      refine ⟨fun id hid => ?_, by simpa using hall.2⟩
      rcases List.mem_cons.mp hid with rfl | hid
      · exact h.2.1
      · exact fun hmem => hall.1 id hid (List.mem_cons_of_mem _ hmem)

theorem receiveAll_spec : ∀ (requestIds ids : List String),
    Triple (Tracked A n ids) (receiveAll requestIds)
      (orError (fun responses c rest => (responses.map (·.requestId) = requestIds ∧
          ∀ response ∈ responses, A (.response response)) ∧ Tracked A n (ids.filter (· ∉ requestIds)) c rest)
        fun e _ _ => Local e) fun _ => True
  | [], ids => by
    refine triple_ret fun _ _ h => ⟨⟨rfl, by simp⟩, ?_⟩
    rw [List.filter_eq_self.mpr (by simp)]
    exact h
  | requestId :: requestIds, ids => by
    refine triple_tryThen (receiveForRequestRaw_spec requestId) fun response => ?_
    refine triple_tryThen (R := fun responses c rest => ((response :: responses).map (·.requestId) = requestId :: requestIds ∧
      ∀ other ∈ response :: responses, A (.response other)) ∧
      Tracked A n (ids.filter (· ∉ requestId :: requestIds)) c rest) ?_ fun responses => triple_ret fun _ _ h => h
    intro c rest h
    obtain ⟨⟨hid, hA⟩, htracked⟩ := h
    refine triple_weaken (receiveAll_spec requestIds (ids.filter (· ≠ requestId))) (fun _ _ h => h)
      (fun result c rest hall => ?_) c rest htracked
    cases result with
    | error e => exact hall
    | ok responses =>
      obtain ⟨⟨hids, hall⟩, htracked⟩ := hall
      refine ⟨⟨?_, List.forall_mem_cons.mpr ⟨hA, hall⟩⟩, ?_⟩
      · rw [List.map_cons, hids, hid]
      · have hfilter : (ids.filter (· ≠ requestId)).filter (· ∉ requestIds) = ids.filter (· ∉ requestId :: requestIds) := by
          rw [List.filter_filter]
          refine List.filter_congr fun id _ => ?_
          simp [Bool.and_comm]
        rw [← hfilter]
        exact htracked

theorem exchangeAll_spec (requests : List (String × Sending)) :
    Triple (Tracked A n []) (exchangeAll requests) (Settles A n []) fun _ => True := by
  refine triple_tryThen (R := fun _ => Tracked A n ((requests.map Prod.fst).reverse ++ [])) ?_ fun _ => ?_
  · refine triple_weaken (sendAll_spec requests []) (fun _ _ h => h) fun result c rest h => ?_
    cases result with
    | ok _ => exact h.2
    | error e => exact settles_local e c rest h
  · refine triple_weaken (receiveAll_spec (requests.map Prod.fst) _) (fun _ _ h => h) fun result c rest h => ?_
    cases result with
    | error e => exact settles_local e c rest h
    | ok responses =>
      have hnil : ((requests.map Prod.fst).reverse ++ []).filter (· ∉ requests.map Prod.fst) = [] := by
        rw [List.filter_eq_nil_iff]
        intro id hid
        simpa using hid
      rw [← hnil]
      exact Or.inr h.2

end HostClient
end DccCua
