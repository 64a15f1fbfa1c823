import DccCua.Theorems.HostClient

/-! # Batches

The responses of a batch may arrive in any order. While the batch waits for one of them, the others are
buffered; what is buffered and what is still to come is together what the Host sends (`Holding`). -/

namespace DccCua

open Runs Script

namespace HostClient

variable {ids : List String} {held coming : List ReceivedResponse} {extra rest : List Incoming} {c : HostClient}

/-- The outstanding requests are `ids`; the responses `held` are buffered or arrive before `extra`. -/
structure Holding (ids : List String) (held : List ReceivedResponse) (extra : List Incoming) (c : HostClient)
    (rest : List Incoming) : Prop where
  outstanding : ∀ id, id ∈ c.outstanding ↔ id ∈ ids
  split : ∃ coming, arrivals rest = coming.map .response ++ extra ∧ (c.pending ++ coming).Perm held
  distinct : (held.map (·.requestId)).Nodup
  known : ∀ response ∈ held, response.requestId ∈ ids

theorem arrivals_readFailed (error : HostClientError) (script : List Incoming) :
    arrivals (.readFailed error :: script) = .readFailed error :: arrivals script := by simp [arrivals]

/-- The responses left after the one of `requestId` was handed out of `pending` or of `arrived`. -/
theorem perm_take {requestId : String} {pending arrived : List ReceivedResponse}
    (hperm : (pending ++ (arrived ++ coming)).Perm held) (hdistinct : (held.map (·.requestId)).Nodup)
    (hthere : requestId ∈ (pending ++ arrived).map (·.requestId)) (harrived : ∀ response ∈ arrived, response.requestId = requestId) :
    (pending.filter (·.requestId ≠ requestId) ++ coming).Perm (held.filter (·.requestId ≠ requestId)) := by
  have hnodup : ((pending ++ arrived ++ coming).map (·.requestId)).Nodup := by
    rw [List.append_assoc]
    exact (hperm.map _).nodup_iff.mpr hdistinct
  rw [List.map_append, List.nodup_append] at hnodup
  have hcoming : coming.filter (·.requestId ≠ requestId) = coming := by
    refine List.filter_eq_self.mpr fun response hmem => ?_
    have hne := hnodup.2.2 requestId hthere response.requestId (List.mem_map_of_mem hmem)
    simpa using Ne.symm hne
  have hgone : arrived.filter (·.requestId ≠ requestId) = [] :=
    List.filter_eq_nil_iff.mpr fun response hmem => by simp [harrived response hmem]
  have hfiltered := hperm.filter (·.requestId ≠ requestId)
  rw [List.filter_append, List.filter_append, hgone, hcoming] at hfiltered
  exact hfiltered

theorem Holding.take {requestId : String} {before : List Incoming} (h : Holding ids held extra c before)
    (arrived : List ReceivedResponse) (hrest : arrivals rest = coming.map .response ++ extra)
    (hperm : (c.pending ++ (arrived ++ coming)).Perm held) (hthere : requestId ∈ (c.pending ++ arrived).map (·.requestId))
    (harrived : ∀ response ∈ arrived, response.requestId = requestId) :
    Holding (ids.filter (· ≠ requestId)) (held.filter (·.requestId ≠ requestId)) extra (c.take requestId) rest where
  outstanding id := by simp [HostClient.take, h.outstanding]
  split := ⟨coming, hrest, perm_take hperm h.distinct hthere harrived⟩
  distinct := h.distinct.sublist (List.filter_sublist.map _)
  known response hmem := by
    rw [List.mem_filter] at hmem
    exact List.mem_filter.mpr ⟨h.known response hmem.1, hmem.2⟩

/-- A response for another request is buffered. -/
theorem Holding.buffer {response : ReceivedResponse} (h : Holding ids held extra c (.response response :: rest))
    (hrest : arrivals rest = coming.map .response ++ extra) (hperm : (c.pending ++ response :: coming).Perm held) :
    ¬(c.pending.any fun other => other.requestId = response.requestId) = true ∧
      Holding ids held extra { c with pending := response :: c.pending } rest := by
  refine ⟨fun hany => ?_, h.outstanding, ⟨coming, hrest, ?_⟩, h.distinct, h.known⟩
  · obtain ⟨other, hother, hid⟩ := List.any_eq_true.mp hany
    have hnodup := (hperm.map (·.requestId)).nodup_iff.mpr h.distinct
    rw [List.map_append, List.nodup_append] at hnodup
    refine hnodup.2.2 other.requestId (List.mem_map_of_mem hother) response.requestId ?_ (by simpa using hid)
    exact List.mem_map_of_mem List.mem_cons_self
  · exact List.perm_middle.symm.trans hperm

theorem Holding.cancel (h : Holding ids held extra c (.cancel :: rest)) : Holding ids held extra c rest where
  outstanding := h.outstanding
  split := h.split
  distinct := h.distinct
  known := h.known

/-- The responses that arrive belong to `held` as long as one of these is missing. -/
theorem Holding.next {response : ReceivedResponse} {incoming : Incoming} (h : Holding ids held extra c (incoming :: rest))
    (hcancel : incoming ≠ .cancel) (hheld : response ∈ held) (hmissing : response ∉ c.pending) :
    ∃ arrived coming, incoming = .response arrived ∧ arrivals rest = coming.map .response ++ extra ∧
      (c.pending ++ arrived :: coming).Perm held := by
  obtain ⟨coming, harrivals, hperm⟩ := h.split
  have hincoming : arrivals (incoming :: rest) = incoming :: arrivals rest := by simp [arrivals, hcancel]
  rw [hincoming] at harrivals
  cases coming with
  | nil =>
    rw [List.append_nil] at hperm
    exact absurd (hperm.mem_iff.mpr hheld) hmissing
  | cons arrived coming =>
    rw [List.map_cons, List.cons_append, List.cons.injEq] at harrivals
    exact ⟨arrived, coming, harrivals.1, harrivals.2, hperm⟩

/-- A response that is held is handed out. -/
theorem receive_held {response : ReceivedResponse} (hheld : response ∈ held) :
    Triple (Holding ids held extra) (receiveForRequestRaw response.requestId)
      (orError (fun received c rest => received = response ∧
        Holding (ids.filter (· ≠ response.requestId)) (held.filter (·.requestId ≠ response.requestId)) extra c rest)
        fun _ _ _ => False) fun _ => False := by
  have hunique : ∀ other ∈ held, (held.map (·.requestId)).Nodup → other.requestId = response.requestId → other = response :=
    fun other hother hdistinct hid => List.inj_on_of_nodup_map hdistinct hother hheld hid
  refine triple_andThen (R := fun wake c rest => wake = .response (.ok response) ∧
    Holding (ids.filter (· ≠ response.requestId)) (held.filter (·.requestId ≠ response.requestId)) extra c rest) ?_
    fun wake c rest h => ?_
  · intro c rest h
    unfold receiveOrCancel
    cases hfind : c.pending.find? (fun other => other.requestId = response.requestId) with
    | some other =>
      obtain ⟨coming, harrivals, hperm⟩ := h.split
      have hpending := List.mem_of_find?_eq_some hfind
      have hid : other.requestId = response.requestId := by simpa using List.find?_some hfind
      have hother := hunique other (hperm.subset (List.mem_append_left _ hpending)) h.distinct hid
      refine ⟨by rw [hother], h.take [] harrivals hperm ?_ (by simp)⟩
      rw [List.append_nil, ← hid]
      exact List.mem_map_of_mem hpending
    | none =>
      have hmissing : ∀ other ∈ c.pending, other.requestId ≠ response.requestId := by
        simpa using List.find?_eq_none.mp hfind
      refine triple_await (P := fun c rest => Holding ids held extra c rest ∧
        ∀ other ∈ c.pending, other.requestId ≠ response.requestId) ?_ ?_ c rest ⟨h, hmissing⟩
      · intro c h
        obtain ⟨coming, harrivals, hperm⟩ := h.1.split
        have hnil : coming = [] := by
          cases coming with
          | nil => rfl
          | cons _ _ => simp [arrivals] at harrivals
        rw [hnil, List.append_nil] at hperm
        exact h.2 response (hperm.mem_iff.mpr hheld) rfl
      · intro incoming rest c h
        obtain ⟨h, hmissing⟩ := h
        by_cases hcancel : incoming = .cancel
        · subst hcancel
          exact ⟨h.cancel, hmissing⟩
        · obtain ⟨arrived, coming, rfl, harrivals, hperm⟩ := h.next hcancel hheld fun hmem => hmissing response hmem rfl
          have harrived : arrived ∈ held := hperm.subset (by simp)
          simp only [receiveTurn]
          rw [if_neg (not_not.mpr ((h.outstanding _).mpr (h.known arrived harrived)))]
          by_cases hid : arrived.requestId = response.requestId
          · rw [if_pos hid]
            refine ⟨by rw [hunique arrived harrived h.distinct hid], ?_⟩
            exact h.take [arrived] harrivals hperm (by simp [← hid]) (by simp [hid])
          · rw [if_neg hid]
            obtain ⟨hnew, hbuffer⟩ := h.buffer harrivals hperm
            rw [if_neg hnew]
            exact ⟨hbuffer, List.forall_mem_cons.mpr ⟨hid, hmissing⟩⟩
  · obtain ⟨rfl, h⟩ := h
    exact ⟨rfl, h⟩

/-- A response for an unknown request, or a second one for a request of `held`. -/
def Stray (ids : List String) (held : List ReceivedResponse) (stray : ReceivedResponse) : Prop :=
  stray.requestId ∉ ids ∨ stray.requestId ∈ held.map (·.requestId)

/-- A wait for a response that does not arrive ends at the stray response. -/
theorem receive_stray {requestId : String} {stray : ReceivedResponse}
    (hmissing : requestId ∉ held.map (·.requestId)) (hstray : Stray ids held stray) :
    Triple (Holding ids held (.response stray :: extra)) (receiveForRequestRaw requestId)
      (orError (fun _ _ _ => False) fun e _ _ => Local e) fun _ => False := by
  have hother : ∀ response ∈ held, response.requestId ≠ requestId :=
    fun response hmem hid => hmissing (hid ▸ List.mem_map_of_mem hmem)
  refine triple_andThen (R := fun wake _ _ => ∃ e, wake = .response (.error e) ∧ Local e) ?_ fun wake c rest h => ?_
  · intro c rest h
    have hfind : c.pending.find? (fun other => other.requestId = requestId) = none := by
      obtain ⟨coming, -, hperm⟩ := h.split
      refine List.find?_eq_none.mpr fun response hmem => ?_
      simpa using hother response (hperm.subset (List.mem_append_left _ hmem))
    unfold receiveOrCancel
    rw [hfind]
    refine triple_await (P := Holding ids held (.response stray :: extra)) ?_ ?_ c rest h
    · intro c h
      obtain ⟨coming, harrivals, -⟩ := h.split
      exact absurd harrivals (by simp [arrivals])
    · intro incoming rest c h
      by_cases hcancel : incoming = .cancel
      · subst hcancel
        exact h.cancel
      · obtain ⟨coming, harrivals, hperm⟩ := h.split
        have hincoming : arrivals (incoming :: rest) = incoming :: arrivals rest := by simp [arrivals, hcancel]
        rw [hincoming] at harrivals
        cases coming with
        | cons arrived coming =>
          rw [List.map_cons, List.cons_append, List.cons.injEq] at harrivals
          obtain ⟨rfl, harrivals⟩ := harrivals
          have harrived : arrived ∈ held := hperm.subset (by simp)
          obtain ⟨hnew, hbuffer⟩ := h.buffer harrivals hperm
          simp only [receiveTurn]
          rw [if_neg (not_not.mpr ((h.outstanding _).mpr (h.known arrived harrived))), if_neg (hother arrived harrived),
            if_neg hnew]
          exact hbuffer
        | nil =>
          rw [List.map_nil, List.nil_append, List.cons.injEq] at harrivals
          obtain ⟨rfl, -⟩ := harrivals
          rw [List.append_nil] at hperm
          simp only [receiveTurn]
          rcases hstray with hunknown | htwice
          · rw [if_pos fun hmem => hunknown ((h.outstanding _).mp hmem)]
            exact ⟨_, rfl, fun _ => by simp⟩
          · obtain ⟨first, hfirst, hid⟩ := List.mem_map.mp htwice
            have hknown : stray.requestId ∈ c.outstanding := (h.outstanding _).mpr (hid ▸ h.known first hfirst)
            have hne : stray.requestId ≠ requestId := hid ▸ hother first hfirst
            have hany : (c.pending.any fun other => other.requestId = stray.requestId) = true :=
              List.any_eq_true.mpr ⟨first, hperm.mem_iff.mpr hfirst, by simpa using hid⟩
            rw [if_neg (not_not.mpr hknown), if_neg hne, if_pos hany]
            exact ⟨_, rfl, fun _ => by simp⟩
  · obtain ⟨e, rfl, he⟩ := h
    exact he

theorem receiveAll_held : ∀ (requestIds : List String) {ids : List String} {held : List ReceivedResponse},
    requestIds.Nodup → (∀ id ∈ requestIds, id ∈ held.map (·.requestId)) →
    Triple (Holding ids held extra) (receiveAll requestIds)
      (orError (fun responses _ _ => responses.map (·.requestId) = requestIds ∧ ∀ response ∈ responses, response ∈ held)
        fun _ _ _ => False) fun _ => False
  | [], _, _, _, _ => triple_ret fun _ _ _ => ⟨rfl, by simp⟩
  | requestId :: requestIds, ids, held, hnodup, hheld => by
    rw [List.nodup_cons] at hnodup
    rw [List.forall_mem_cons] at hheld
    obtain ⟨response, hresponse, rfl⟩ := List.mem_map.mp hheld.1
    refine triple_tryThen (R := fun received c rest => received = response ∧ Holding (ids.filter (· ≠ response.requestId))
      (held.filter (·.requestId ≠ response.requestId)) extra c rest) ?_ fun received c rest h => ?_
    · refine triple_weaken (receive_held hresponse) (fun _ _ h => h) fun result c rest h => ?_
      cases result with
      | ok received => exact h
      | error e => exact h.elim
    · obtain ⟨rfl, h⟩ := h
      have hrest : ∀ id ∈ requestIds, id ∈ (held.filter (·.requestId ≠ received.requestId)).map (·.requestId) := by
        intro id hid
        obtain ⟨other, hother, rfl⟩ := List.mem_map.mp (hheld.2 id hid)
        have hne : other.requestId ≠ received.requestId := fun heq => hnodup.1 (heq ▸ hid)
        exact List.mem_map_of_mem (List.mem_filter.mpr ⟨hother, by simpa using hne⟩)
      refine triple_tryThen (R := fun responses _ _ => responses.map (·.requestId) = requestIds ∧
        ∀ response ∈ responses, response ∈ held) ?_ (fun responses => triple_ret fun _ _ h => ⟨?_, ?_⟩) c rest h
      · refine triple_weaken (receiveAll_held requestIds hnodup.2 hrest) (fun _ _ h => h) fun result c rest h => ?_
        cases result with
        | ok responses => exact ⟨h.1, fun response hmem => List.mem_of_mem_filter (h.2 response hmem)⟩
        | error e => exact h.elim
      · rw [List.map_cons, h.1]
      · exact List.forall_mem_cons.mpr ⟨hresponse, h.2⟩

theorem receiveAll_stray {stray : ReceivedResponse} :
    ∀ (requestIds : List String) {ids : List String} {held : List ReceivedResponse}, requestIds.Nodup →
    (∃ id ∈ requestIds, id ∉ held.map (·.requestId)) → Stray ids held stray →
    Triple (Holding ids held (.response stray :: extra)) (receiveAll requestIds)
      (orError (fun _ _ _ => False) fun e _ _ => Local e) fun _ => False
  | [], _, _, _, hmissing, _ => by simp at hmissing
  | requestId :: requestIds, ids, held, hnodup, hmissing, hstray => by
    rw [List.nodup_cons] at hnodup
    by_cases hheld : requestId ∈ held.map (·.requestId)
    · obtain ⟨response, hresponse, rfl⟩ := List.mem_map.mp hheld
      refine triple_tryThen (R := fun _ => Holding (ids.filter (· ≠ response.requestId))
        (held.filter (·.requestId ≠ response.requestId)) (.response stray :: extra)) ?_ fun received => ?_
      · refine triple_weaken (receive_held hresponse) (fun _ _ h => h) fun result c rest h => ?_
        cases result with
        | ok received => exact h.2
        | error e => exact h.elim
      · have hrest : ∃ id ∈ requestIds, id ∉ (held.filter (·.requestId ≠ response.requestId)).map (·.requestId) := by
          obtain ⟨id, hid, hnot⟩ := hmissing
          rcases List.mem_cons.mp hid with rfl | hid
          · exact absurd hheld hnot
          · exact ⟨id, hid, fun hmem => hnot ((List.filter_sublist.map _).subset hmem)⟩
        have hstray' : Stray (ids.filter (· ≠ response.requestId)) (held.filter (·.requestId ≠ response.requestId)) stray := by
          by_cases hsame : stray.requestId = response.requestId
          · exact Or.inl (by simp [hsame])
          · rcases hstray with hunknown | htwice
            · exact Or.inl fun hmem => hunknown (List.mem_of_mem_filter hmem)
            · obtain ⟨first, hfirst, hid⟩ := List.mem_map.mp htwice
              exact Or.inr (hid ▸ List.mem_map_of_mem (List.mem_filter.mpr ⟨hfirst, by simpa [hid] using hsame⟩))
        refine triple_tryThen (R := fun _ _ _ => False) ?_ fun _ => triple_ret fun _ _ h => h.elim
        exact receiveAll_stray requestIds hnodup.2 hrest hstray'
    · refine triple_tryThen (R := fun _ _ _ => False) ?_ fun _ _ _ h => h.elim
      refine triple_weaken (receive_stray hheld hstray) (fun _ _ h => h) fun result c rest h => ?_
      cases result with
      | ok received => exact h.elim
      | error e => exact h

/-! ### Sending -/

/-- A batch that the connection accepts and that is sent as a whole. -/
structure Sent (requests : List (String × Sending)) (c : HostClient) : Prop where
  valid : ∀ request ∈ requests, validateRequestId request.1 = true
  distinct : (requests.map Prod.fst).Nodup
  written : ∀ request ∈ requests, request.2 = .sent
  new : ∀ request ∈ requests, request.1 ∉ c.outstanding
  room : c.outstanding.length + requests.length ≤ maxParallelDiscoveryRequests

/-- Every buffered response is the only one of an outstanding request. -/
structure Sound (c : HostClient) : Prop where
  tracked : ∀ response ∈ c.pending, response.requestId ∈ c.outstanding
  distinct : (c.pending.map (·.requestId)).Nodup

theorem sendAll_sent : ∀ (requests : List (String × Sending)) (c : HostClient) (script : List Incoming),
    Sent requests c → (∀ response ∈ c.pending, response.requestId ∈ c.outstanding) →
    sendAll requests c script =
      .done (.ok ()) { c with outstanding := (requests.map Prod.fst).reverse ++ c.outstanding } script
  | [], _, _, _, _ => rfl
  | (requestId, sending) :: requests, c, script, h, htracked => by
    have hvalid : validateRequestId requestId = true := h.valid _ List.mem_cons_self
    have hsent : sending = .sent := h.written _ List.mem_cons_self
    have hnew : requestId ∉ c.outstanding := h.new _ List.mem_cons_self
    have hroom := h.room
    rw [List.length_cons] at hroom
    have hpending : ¬(c.pending.any fun response => response.requestId = requestId) = true := by
      simpa using fun response hmem (hid : response.requestId = requestId) => hnew (hid ▸ htracked response hmem)
    have hregister : registerOutstandingRequest requestId c =
        (.ok (), { c with outstanding := requestId :: c.outstanding }) := by
      unfold registerOutstandingRequest
      rw [if_neg (by omega), if_neg hnew, if_neg hpending]
    have hsend : sendRequestWithId requestId sending c script =
        .done (.ok requestId) { c with outstanding := requestId :: c.outstanding } script := by
      subst hsent
      simp [sendRequestWithId, hvalid, Prog.tryThen, Prog.andThen, Prog.update, hregister, write, Prog.ret]
    have hdistinct := List.nodup_cons.mp h.distinct
    have hrest : Sent requests { c with outstanding := requestId :: c.outstanding } := by
      refine ⟨fun request hmem => h.valid request (List.mem_cons_of_mem _ hmem), hdistinct.2,
        fun request hmem => h.written request (List.mem_cons_of_mem _ hmem), fun request hmem hin => ?_, ?_⟩
      · rcases List.mem_cons.mp hin with heq | hin
        · refine hdistinct.1 ?_
          rw [← heq]
          exact List.mem_map.mpr ⟨request, hmem, rfl⟩
        · exact h.new request (List.mem_cons_of_mem _ hmem) hin
      · rw [List.length_cons]
        omega
    have hall := sendAll_sent requests { c with outstanding := requestId :: c.outstanding } script hrest
      fun response hmem => List.mem_cons_of_mem _ (htracked response hmem)
    simp only [sendAll, Prog.tryThen, Prog.andThen, hsend]
    rw [hall]
    simp

/-! ### Every operation keeps the buffer sound -/

theorem Sound.take (h : Sound c) (requestId : String) : Sound (c.take requestId) where
  tracked response hmem := by
    simp only [HostClient.take, List.mem_filter, decide_eq_true_eq] at hmem ⊢
    exact ⟨h.tracked response hmem.1, hmem.2⟩
  distinct := h.distinct.sublist (List.filter_sublist.map _)

theorem Sound.register (h : Sound c) (requestId : String) : Sound { c with outstanding := requestId :: c.outstanding } :=
  ⟨fun response hmem => List.mem_cons_of_mem _ (h.tracked response hmem), h.distinct⟩

theorem keeps_sendRequestWithId (requestId : String) (sending : Sending) : Keeps Sound (sendRequestWithId requestId sending) := by
  unfold sendRequestWithId
  split
  · exact keeps_ret _
  · refine keeps_tryThen (keeps_update fun c h => ?_) fun _ => keeps_tryThen ?_ fun _ => keeps_ret _
    · unfold registerOutstandingRequest
      split
      · exact h
      · split
        · exact h
        · split <;> exact h.register requestId
    · cases sending with
      | sent => exact keeps_ret _
      | failed => exact keeps_ret _
      | dropped => exact keeps_dropped

theorem keeps_sendRequest (sending : Sending) : Keeps Sound (sendRequest sending) :=
  keeps_andThen (keeps_update fun _ h => ⟨h.tracked, h.distinct⟩) fun id => keeps_sendRequestWithId id sending

theorem Sound.receiveTurn (h : Sound c) (cancellable : Bool) (requestId : String) (incoming : Incoming) :
    Sound (receiveTurn cancellable requestId incoming c).2 := by
  cases incoming with
  | cancel => exact h
  | readFailed error => cases error <;> exact h
  | response response =>
    simp only [HostClient.receiveTurn]
    by_cases hmem : response.requestId ∈ c.outstanding
    · rw [if_neg (not_not.mpr hmem)]
      by_cases hid : response.requestId = requestId
      · rw [if_pos hid]
        exact h.take requestId
      · rw [if_neg hid]
        by_cases hany : (c.pending.any fun other => other.requestId = response.requestId) = true
        · rw [if_pos hany]
          exact h
        · rw [if_neg hany]
          refine ⟨List.forall_mem_cons.mpr ⟨hmem, h.tracked⟩, List.nodup_cons.mpr ⟨fun hin => hany ?_, h.distinct⟩⟩
          obtain ⟨other, hother, heq⟩ := List.mem_map.mp hin
          exact List.any_eq_true.mpr ⟨other, hother, by simpa using heq⟩
    · rw [if_pos hmem]
      exact h

theorem keeps_receiveOrCancel (cancellable : Bool) (requestId : String) :
    Keeps Sound (receiveOrCancel cancellable requestId) := by
  intro c script h
  unfold receiveOrCancel
  split
  · exact h.take requestId
  · exact keeps_await (fun incoming c h => Sound.receiveTurn h cancellable requestId incoming) c script h

theorem keeps_receiveForRequestRaw (requestId : String) : Keeps Sound (receiveForRequestRaw requestId) := by
  refine keeps_andThen (keeps_receiveOrCancel false requestId) fun wake => ?_
  cases wake with
  | response result => exact keeps_ret _
  | cancelled => exact keeps_dropped

theorem keeps_receiveForRequest (requestId : String) : Keeps Sound (receiveForRequest requestId) :=
  keeps_tryThen (keeps_receiveForRequestRaw requestId) fun _ => keeps_ret _

theorem keeps_sendAll : ∀ requests : List (String × Sending), Keeps Sound (sendAll requests)
  | [] => keeps_ret _
  | (requestId, sending) :: requests => keeps_tryThen (keeps_sendRequestWithId requestId sending) fun _ => keeps_sendAll requests

theorem keeps_receiveAll : ∀ requestIds : List String, Keeps Sound (receiveAll requestIds)
  | [] => keeps_ret _
  | requestId :: requestIds =>
    keeps_tryThen (keeps_receiveForRequestRaw requestId) fun _ =>
      keeps_tryThen (keeps_receiveAll requestIds) fun _ => keeps_ret _

theorem Sound.operation {α : Type} {exchange : ClientProg α} (h : Sound c) (script : List Incoming)
    (hexchange : Keeps Sound exchange) : Sound (operation exchange c script).2 := by
  unfold HostClient.operation
  cases c.connectionState with
  | unusable => exact h
  | inFlight => exact h
  | ready =>
    have hran := hexchange { c with connectionState := .inFlight } script ⟨h.tracked, h.distinct⟩
    cases hrun : exchange { c with connectionState := .inFlight } script with
    | cut c' =>
      rw [hrun] at hran
      exact ⟨hran.tracked, hran.distinct⟩
    | done result c' rest =>
      rw [hrun] at hran
      cases result with
      | ok a => exact ⟨hran.tracked, hran.distinct⟩
      | error e => cases e <;> exact ⟨hran.tracked, hran.distinct⟩

theorem keeps_cancellable {sending : Sending} {cancelled : String → ClientProg ReceivedResponse}
    (hcancelled : ∀ id, Keeps Sound (cancelled id)) :
    Keeps Sound (Prog.tryThen (sendRequest sending) fun requestId =>
      Prog.andThen (receiveOrCancel true requestId) fun
        | .response result => Prog.tryThen (Prog.ret result) fun response => Prog.ret response.intoResult
        | .cancelled => cancelled requestId) := by
  refine keeps_tryThen (keeps_sendRequest sending) fun id => keeps_andThen (keeps_receiveOrCancel true id) fun wake => ?_
  cases wake with
  | response result => exact keeps_tryThen (keeps_ret _) fun _ => keeps_ret _
  | cancelled => exact hcancelled id

theorem Sound.run (h : Sound c) (op : ClientOperation) (script : List Incoming) : Sound (c.run op script).2 := by
  cases op with
  | request sending =>
    exact h.operation script (keeps_tryThen (keeps_sendRequest sending) keeps_receiveForRequest)
  | requestWithId requestId sending =>
    simp only [HostClient.run]
    split
    · exact h
    · exact h.operation script (keeps_tryThen (keeps_sendRequestWithId requestId sending) keeps_receiveForRequest)
  | batch requests allowed =>
    show Sound (requestBatchWithIdsAll requests allowed c script).2
    unfold requestBatchWithIdsAll
    repeat' split
    all_goals first
      | exact h
      | exact h.operation script (keeps_tryThen (keeps_sendAll requests) fun _ => keeps_receiveAll _)
  | requestWithCancel sending cancelSending =>
    refine h.operation script (keeps_cancellable fun id => keeps_tryThen (keeps_sendRequest cancelSending) fun cancelId => ?_)
    refine keeps_andThen (keeps_receiveForRequest cancelId) fun cancelResult => keeps_andThen (keeps_receiveForRequest id)
      fun requestResult => ?_
    cases cancelResult <;> exact keeps_ret _
  | waitForWindowWithCancel sending cancelSending =>
    exact h.operation script (keeps_cancellable fun id => keeps_tryThen (keeps_sendRequest cancelSending) fun cancelId =>
      keeps_tryThen (keeps_receiveForRequest cancelId) fun _ => keeps_receiveForRequest id)

theorem sound_final (history : List (ClientOperation × List Incoming)) : Sound (clientMachine.final connected history) :=
  Machine.inv_final (m := clientMachine) (fun _ input h => h.run input.1 input.2) history ⟨by simp [connected], List.nodup_nil⟩

/-- A connection that is unusable stays so. -/
theorem unusable_final (history : List (ClientOperation × List Incoming)) (h : c.connectionState = .unusable) :
    (clientMachine.final c history).connectionState = .unusable := by
  have keep : ∀ (c : HostClient) (input : ClientOperation × List Incoming), c.connectionState = .unusable →
      (clientMachine.step c input).2.connectionState = .unusable := by
    intro c input h
    have hoperation : ∀ {α : Type} (exchange : ClientProg α), (operation exchange c input.2).2.connectionState = .unusable := by
      intro α exchange
      simp [operation, h]
    show (c.run input.1 input.2).2.connectionState = .unusable
    cases input.1 with
    | request sending => exact hoperation (exchange sending)
    | requestWithId requestId sending =>
      simp only [HostClient.run]
      split
      · exact h
      · exact hoperation (exchangeWithId requestId sending)
    | batch requests allowed =>
      show (requestBatchWithIdsAll requests allowed c input.2).2.connectionState = .unusable
      unfold requestBatchWithIdsAll
      repeat' split
      all_goals first
        | exact h
        | exact hoperation (exchangeAll requests)
    | requestWithCancel sending cancelSending => exact hoperation (exchangeWithCancel sending cancelSending)
    | waitForWindowWithCancel sending cancelSending => exact hoperation (exchangeWindowWait sending cancelSending)
  exact Machine.inv_final keep history h

/-! ### The batch as a whole -/

variable {requests : List (String × Sending)} {script : List Incoming}

/-- The checks before the first request is sent. -/
structure Started (requests : List (String × Sending)) : Prop where
  fits : requests.length ≤ maxParallelDiscoveryRequests
  valid : ∀ request ∈ requests, validateRequestId request.1 = true
  distinct : (requests.map Prod.fst).Nodup

theorem Sent.started (h : Sent requests c) : Started requests := ⟨by have := h.room; omega, h.valid, h.distinct⟩

theorem Started.batch (h : Started requests) :
    requestBatchWithIdsAll requests true c script = operation (exchangeAll requests) c script := by
  unfold requestBatchWithIdsAll
  have hvalid : (requests.all fun request => validateRequestId request.1) = true := List.all_eq_true.mpr h.valid
  rw [if_neg (by have := h.fits; omega), if_neg (by simp), if_neg (by simp [hvalid]), if_neg (not_not.mpr h.distinct)]

/-- What the Host has answered when a batch starts: nothing of the batch, and of the requests that earlier
    operations gave up only what is buffered. -/
def Owed (requests : List (String × Sending)) (c : HostClient) (response : ReceivedResponse) : Prop :=
  response.requestId ∈ requests.map Prod.fst ∨
    (response.requestId ∈ c.outstanding ∧ response.requestId ∉ c.pending.map (·.requestId))

/-- The client when the whole batch is sent. -/
def sentAll (requests : List (String × Sending)) (c : HostClient) : HostClient :=
  { c with connectionState := .inFlight, outstanding := (requests.map Prod.fst).reverse ++ c.outstanding }

theorem Sent.holding {order : List ReceivedResponse} {extra : List Incoming} (h : Sent requests c) (hsound : Sound c)
    (hscript : arrivals script = order.map .response ++ extra) (hdistinct : (order.map (·.requestId)).Nodup)
    (howed : ∀ response ∈ order, Owed requests c response) :
    Holding ((requests.map Prod.fst).reverse ++ c.outstanding) (c.pending ++ order) extra
      (sentAll requests c) script where
  outstanding _ := Iff.rfl
  split := ⟨order, hscript, List.Perm.refl _⟩
  distinct := by
    rw [List.map_append, List.nodup_append]
    refine ⟨hsound.distinct, hdistinct, fun id hpending id' horder heq => ?_⟩
    subst heq
    obtain ⟨response, hresponse, rfl⟩ := List.mem_map.mp horder
    rcases howed response hresponse with hbatch | ⟨-, hnot⟩
    · obtain ⟨request, hrequest, heq⟩ := List.mem_map.mp hbatch
      obtain ⟨old, hold, hid⟩ := List.mem_map.mp hpending
      refine h.new request hrequest ?_
      rw [heq, ← hid]
      exact hsound.tracked old hold
    · exact hnot hpending
  known response hmem := by
    rw [List.mem_append, List.mem_reverse]
    rcases List.mem_append.mp hmem with hpending | horder
    · exact Or.inr (hsound.tracked response hpending)
    · rcases howed response horder with hbatch | ⟨hold, -⟩
      · exact Or.inl hbatch
      · exact Or.inr hold

theorem exchangeAll_sent (h : Sent requests c) (hsound : Sound c) :
    exchangeAll requests { c with connectionState := .inFlight } script =
      receiveAll (requests.map Prod.fst) (sentAll requests c) script := by
  have hsend := sendAll_sent requests { c with connectionState := .inFlight } script
    ⟨h.valid, h.distinct, h.written, h.new, h.room⟩ hsound.tracked
  simp only [exchangeAll, Prog.tryThen, Prog.andThen, hsend]
  rfl

/-- Every request of a batch gets the response with its id, in whatever order the responses arrive. -/
theorem batch_answered {order : List ReceivedResponse} {extra : List Incoming} (h : Sent requests c) (hsound : Sound c)
    (hready : c.connectionState = .ready) (hscript : arrivals script = order.map .response ++ extra)
    (hdistinct : (order.map (·.requestId)).Nodup) (howed : ∀ response ∈ order, Owed requests c response)
    (hanswered : ∀ id ∈ requests.map Prod.fst, id ∈ order.map (·.requestId)) :
    ∃ responses c', requestBatchWithIdsAll requests true c script = (.returned (.ok responses), c') ∧
      c'.connectionState = .ready ∧ responses.map (·.requestId) = requests.map Prod.fst ∧
      ∀ response, response ∈ responses ↔ response ∈ order ∧ response.requestId ∈ requests.map Prod.fst := by
  have hholding := h.holding hsound hscript hdistinct howed
  have hall : ∀ id ∈ requests.map Prod.fst, id ∈ (c.pending ++ order).map (·.requestId) := fun id hid => by
    rw [List.map_append]
    exact List.mem_append_right _ (hanswered id hid)
  have hran := receiveAll_held (requests.map Prod.fst) h.distinct hall _ script hholding
  rw [h.started.batch, operation, hready]
  simp only
  rw [exchangeAll_sent h hsound]
  cases hrun : receiveAll (requests.map Prod.fst) (sentAll requests c) script with
  | cut c' =>
    rw [hrun] at hran
    exact hran.elim
  | done result c' rest =>
    rw [hrun] at hran
    cases result with
    | error e => exact hran.elim
    | ok responses =>
      obtain ⟨hids, hheld⟩ := hran
      refine ⟨responses, _, rfl, rfl, hids, fun response => ⟨fun hmem => ?_, fun hmem => ?_⟩⟩
      · have hid : response.requestId ∈ requests.map Prod.fst := hids ▸ List.mem_map_of_mem hmem
        refine ⟨?_, hid⟩
        rcases List.mem_append.mp (hheld response hmem) with hpending | horder
        · obtain ⟨request, hrequest, heq⟩ := List.mem_map.mp hid
          exact absurd (heq ▸ hsound.tracked response hpending) (h.new request hrequest)
        · exact horder
      · obtain ⟨other, hother, heq⟩ := List.mem_map.mp (hids ▸ hmem.2)
        have hsame := List.inj_on_of_nodup_map hholding.distinct (hheld other hother) (List.mem_append_right _ hmem.1) heq
        exact hsame ▸ hother

/-- A response with an unknown id, or a second one with an answered id, ends the batch with an error. -/
theorem batch_stray {order : List ReceivedResponse} {stray : ReceivedResponse} {extra : List Incoming} (h : Sent requests c)
    (hsound : Sound c) (hready : c.connectionState = .ready)
    (hscript : arrivals script = order.map .response ++ .response stray :: extra)
    (hdistinct : (order.map (·.requestId)).Nodup) (howed : ∀ response ∈ order, Owed requests c response)
    (hmissing : ∃ id ∈ requests.map Prod.fst, id ∉ order.map (·.requestId))
    (hstray : stray.requestId ∈ order.map (·.requestId) ∨ ¬Owed requests c stray) :
    ∃ e c', requestBatchWithIdsAll requests true c script = (.returned (.error e), c') ∧
      c'.connectionState = .unusable := by
  have hholding := h.holding hsound hscript hdistinct howed
  have hpending : ∀ id ∈ requests.map Prod.fst, id ∉ c.pending.map (·.requestId) := fun id hid hin => by
    obtain ⟨request, hrequest, rfl⟩ := List.mem_map.mp hid
    obtain ⟨old, hold, heq⟩ := List.mem_map.mp hin
    exact h.new request hrequest (heq ▸ hsound.tracked old hold)
  have hall : ∃ id ∈ requests.map Prod.fst, id ∉ (c.pending ++ order).map (·.requestId) := by
    obtain ⟨id, hid, hnot⟩ := hmissing
    refine ⟨id, hid, fun hin => ?_⟩
    rw [List.map_append] at hin
    exact (List.mem_append.mp hin).elim (hpending id hid) hnot
  have hstray' : Stray ((requests.map Prod.fst).reverse ++ c.outstanding) (c.pending ++ order) stray := by
    rw [Stray, List.map_append, List.mem_append, List.mem_append, List.mem_reverse]
    rcases hstray with htwice | hunknown
    · exact Or.inr (Or.inr htwice)
    · unfold Owed at hunknown
      tauto
  have hran := receiveAll_stray (requests.map Prod.fst) h.distinct hall hstray' _ script hholding
  rw [h.started.batch, operation, hready]
  simp only
  rw [exchangeAll_sent h hsound]
  cases hrun : receiveAll (requests.map Prod.fst) (sentAll requests c) script with
  | cut c' =>
    rw [hrun] at hran
    exact hran.elim
  | done result c' rest =>
    rw [hrun] at hran
    cases result with
    | ok responses => exact hran.elim
    | error e =>
      cases e with
      | remote response => exact absurd rfl (hran response)
      | io message => exact ⟨_, _, rfl, rfl⟩
      | protocol message => exact ⟨_, _, rfl, rfl⟩

theorem exchangeAll_correlated {A : Incoming → Prop} {n : Nat} (requests : List (String × Sending)) :
    Triple (Tracked A n ids) (exchangeAll requests)
      (orError (fun responses _ _ => (∀ id ∈ requests.map Prod.fst, id ∉ ids) ∧
          responses.map (·.requestId) = requests.map Prod.fst ∧ ∀ response ∈ responses, A (.response response))
        fun e _ _ => Local e) fun _ => True := by
  refine triple_tryThen (sendAll_spec requests ids) fun _ c rest h => ?_
  refine triple_weaken (receiveAll_spec (requests.map Prod.fst) _) (fun _ _ h => h) (fun result c rest hall => ?_) c rest h.2
  cases result with
  | ok responses => exact ⟨h.1, hall.1⟩
  | error e => exact hall

/-- What can be read in a batch: what arrives, and what is buffered for other requests. -/
theorem Sound.tracked_batch (h : Sound c) (script : List Incoming) :
    Tracked (fun incoming => ∀ response, incoming = .response response →
        response.requestId ∈ c.outstanding ∨ incoming ∈ script) c.nextRequestId c.outstanding
      { c with connectionState := .inFlight } script where
  outstanding _ := Iff.rfl
  buffered response hmem := ⟨h.tracked response hmem, fun other heq => by cases heq; exact Or.inl (h.tracked response hmem)⟩
  next := rfl
  coming incoming hmem := fun _ _ => Or.inr hmem

theorem batch_returned {responses : List ReceivedResponse} {allowed : Bool} {c' : HostClient} (hsound : Sound c)
    (h : requestBatchWithIdsAll requests allowed c script = (.returned (.ok responses), c')) :
    responses.map (·.requestId) = requests.map Prod.fst ∧ ∀ response ∈ responses, .response response ∈ script := by
  have hoperation : operation (exchangeAll requests) c script = (.returned (.ok responses), c') := by
    unfold requestBatchWithIdsAll at h
    repeat' split at h
    all_goals first
      | cases h
      | exact h
  have hran := exchangeAll_correlated requests _ script (hsound.tracked_batch script)
  unfold operation at hoperation
  cases hstate : c.connectionState with
  | unusable => rw [hstate] at hoperation; cases hoperation
  | inFlight => rw [hstate] at hoperation; cases hoperation
  | ready =>
    rw [hstate] at hoperation
    simp only at hoperation
    cases hrun : exchangeAll requests { c with connectionState := .inFlight } script with
    | cut c'' => rw [hrun] at hoperation; cases hoperation
    | done result c'' rest =>
      rw [hrun] at hoperation hran
      cases result with
      | error e => cases e <;> cases hoperation
      | ok received =>
        cases hoperation
        obtain ⟨hnew, hids, hread⟩ := hran
        refine ⟨hids, fun response hmem => ?_⟩
        have hid : response.requestId ∈ requests.map Prod.fst := hids ▸ List.mem_map_of_mem hmem
        exact (hread response hmem response rfl).resolve_left (hnew _ hid)

/-- A batch that started and did not return its responses leaves the connection unusable. -/
theorem batch_failed (hsound : Sound c) (h : Started requests) (hready : c.connectionState = .ready)
    (hfailed : ∀ responses, (requestBatchWithIdsAll requests true c script).1 ≠ .returned (.ok responses)) :
    (requestBatchWithIdsAll requests true c script).2.connectionState = .unusable := by
  have hran := exchangeAll_correlated requests _ script (hsound.tracked_batch script)
  rw [h.batch, operation, hready] at hfailed ⊢
  simp only at hfailed ⊢
  cases hrun : exchangeAll requests { c with connectionState := .inFlight } script with
  | cut c' => rfl
  | done result c' rest =>
    rw [hrun] at hran hfailed
    cases result with
    | ok responses => exact absurd rfl (hfailed responses)
    | error e =>
      cases e with
      | remote response => exact absurd rfl (hran response)
      | io message => rfl
      | protocol message => rfl

/-- Batches on a connection after any operations: every request gets its own response, whatever order the
    Host answers in; what is returned is what arrived; a response that nobody waits for is an error; and after
    an error or a drop the connection is never ready again. -/
theorem batch_correlation (history : List (ClientOperation × List Incoming)) (requests : List (String × Sending))
    (hready : (clientMachine.final connected history).connectionState = .ready) (hstarted : Started requests) :
    let c := clientMachine.final connected history
    let ids := requests.map Prod.fst
    (Sent requests c → ∀ (order : List ReceivedResponse) (extra script : List Incoming),
      arrivals script = order.map .response ++ extra → (order.map (·.requestId)).Nodup →
      (∀ response ∈ order, Owed requests c response) →
      ((∀ id ∈ ids, id ∈ order.map (·.requestId)) →
        ∃ responses c', requestBatchWithIdsAll requests true c script = (.returned (.ok responses), c') ∧
          c'.connectionState = .ready ∧ responses.map (·.requestId) = ids ∧
          ∀ response, response ∈ responses ↔ response ∈ order ∧ response.requestId ∈ ids) ∧
      ((∃ id ∈ ids, id ∉ order.map (·.requestId)) → ∀ stray rest, extra = .response stray :: rest →
        stray.requestId ∈ order.map (·.requestId) ∨ ¬Owed requests c stray →
        ∃ e c', requestBatchWithIdsAll requests true c script = (.returned (.error e), c'))) ∧
    (∀ script responses c', requestBatchWithIdsAll requests true c script = (.returned (.ok responses), c') →
      responses.map (·.requestId) = ids ∧ ∀ response ∈ responses, .response response ∈ script) ∧
    (∀ script, (∀ responses, (requestBatchWithIdsAll requests true c script).1 ≠ .returned (.ok responses)) →
      ∀ later, (clientMachine.final (requestBatchWithIdsAll requests true c script).2 later).connectionState ≠ .ready) := by
  have hsound := sound_final history
  refine ⟨fun hsent order extra script hscript hdistinct howed => ⟨fun hanswered => ?_, ?_⟩, ?_, ?_⟩
  · exact batch_answered hsent hsound hready hscript hdistinct howed hanswered
  · rintro hmissing stray rest rfl hstray
    obtain ⟨e, c', hbatch, -⟩ := batch_stray hsent hsound hready hscript hdistinct howed hmissing hstray
    exact ⟨e, c', hbatch⟩
  · intro script responses c' hbatch
    exact batch_returned hsound hbatch
  · intro script hfailed later hlater
    rw [unusable_final later (batch_failed hsound hstarted hready hfailed)] at hlater
    cases hlater

theorem batch_correlation_two :
    ∃ responses c', requestBatchWithIdsAll [("a", .sent), ("b", .sent)] true connected
        [.response ⟨"b", "second", false⟩, .response ⟨"a", "first", true⟩] = (.returned (.ok responses), c') ∧
      c'.connectionState = .ready ∧ responses.map (·.requestId) = ["a", "b"] := by
  have hstarted : Started [("a", .sent), ("b", .sent)] := ⟨by decide, by decide, by decide⟩
  have hsent : Sent [("a", .sent), ("b", .sent)] connected :=
    ⟨hstarted.valid, hstarted.distinct, by decide, by decide, by decide⟩
  have hbatch := (batch_correlation [] [("a", .sent), ("b", .sent)] rfl hstarted).1 hsent
    [⟨"b", "second", false⟩, ⟨"a", "first", true⟩] []
    [.response ⟨"b", "second", false⟩, .response ⟨"a", "first", true⟩] rfl (by decide) ?_
  · obtain ⟨responses, c', hreturned, hready, hids, -⟩ := hbatch.1 (by decide)
    exact ⟨responses, c', hreturned, hready, hids⟩
  · simp [Owed]

end HostClient
end DccCua
