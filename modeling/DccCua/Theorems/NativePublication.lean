import DccCua.Core.NativePublication

/-! # One request at a time

The slot belongs to a request while the request is queued or in flight. In every run of the handles, in any order, the payload of a
request is handed out once at most, and its result once at most, to the handle of this request, in time. -/

namespace DccCua
namespace NativePublication

open Runs

variable {P R : Type}

/-- The request after `close_failed`. -/
def Request.closed (request : Request P R) (failure : Failure) (releaseInFlight : Bool) : Request P R :=
  { request with
    payload := none
    result := none
    outcome := (Channel.failedOutcome request.outcome failure).1
    location := if request.location = .queued || releaseInFlight then .released else request.location }

/-- What holds of each request. -/
structure Request.Sound (r : Request P R) : Prop where
  queued : r.location = .queued → r.outcome = .waiting ∧ r.work = none
  inFlight : r.location = .inFlight → r.work.isSome = true ∧ r.payload = none
  released : r.location = .released → r.outcome ≠ .waiting ∧ r.payload = none
  completed : r.outcome = .completed → r.location = .released ∧ r.work = none ∧ r.result.isSome = true
  consumed : r.outcome = .consumed → r.location = .released ∧ r.work = none
  result : r.result.isSome = true → r.outcome = .completed

namespace Channel

/-- The slot belongs to the request that is queued or in flight, if there is one. -/
structure Sound (c : Channel P R) : Prop where
  requests : ∀ (i : Nat) (r : Request P R), c.requests[i]? = some r → r.Sound
  owner : ∀ i, c.owner = some i ↔ ∃ r, c.requests[i]? = some r ∧ r.location ≠ .released
  stopped : c.stopped = true → c.owner = none

/-- The owner after a step that leaves request `i` at a location. -/
def ownerAfter (c : Channel P R) (i : Nat) (location : Location) : Option Nat :=
  if location = .released ∧ c.owner = some i then none else c.owner

/-- What a step does to the request that it touches. -/
inductive Touch (c : Channel P R) : PublicationCall P R → PublicationReply P R → Nat → Request P R → Request P R → Prop where
  | taken {clock i r} (queued : r.location = .queued) (live : c.liveFailure r clock clock = none) :
    Touch c (.take clock) (.taken (some i)) i r { r with location := .inFlight, payload := none, work := some r.payload }
  | expired {clock i r failure} (queued : r.location = .queued) : Touch c (.take clock) (.taken none) i r (r.closed failure true)
  | stopped {i r} (owned : c.owner = some i) : Touch c .stop .done i r (r.closed .stopped true)
  | delivered {i now clock r result} (live : c.liveFailure r now clock = none) (completed : r.outcome = .completed)
      (found : r.result = some result) : Touch c (.tryResult i now clock) (.polled (.ok (some result))) i r
        { r with pending := some true, outcome := .consumed, result := none }
  | pollFailed {i now clock r failure} :
    Touch c (.tryResult i now clock) (.polled (.error failure)) i r (Request.closed { r with pending := some true } failure false)
  | consumed {i now clock r} :
    Touch c (.tryResult i now clock) (.polled (.error .replyUnavailable)) i r { r with pending := some true }
  | dropped {i r} : Touch c (.dropPending i) .done i r { r with pending := none }
  | canceled {i r} : Touch c (.dropPending i) .done i r (Request.closed { r with pending := none } .canceled false)
  | dead {i now clock r failure} : Touch c (.ensureLive i now clock) (.live (.error failure)) i r (r.closed failure false)
  | payload {i r payload} (held : r.work = some (some payload)) :
    Touch c (.takePayload i) (.payload payload) i r { r with work := some none }
  | completed {i result now clock r} (held : r.work.isSome = true) (live : c.workFailure r now clock = none) :
    Touch c (.complete i result now clock) (.completed (.ok ())) i r
      { r with work := none, payload := none, result := some result, outcome := .completed, location := .released }
  | refused {i result now clock r failure} :
    Touch c (.complete i result now clock) (.completed (.error failure)) i r (Request.closed { r with work := none } failure true)
  | abandoned {i clock r failure} :
    Touch c (.dropWork i clock) .done i r (Request.closed { r with work := none } failure true)

end Channel

def PublicationCall.isStop : PublicationCall P R → Bool
  | stop => true
  | _ => false

/-- The reply hands something out. -/
def PublicationReply.gives : PublicationReply P R → Bool
  | submitted (.ok _) | taken (some _) | polled (.ok (some _)) | payload _ | completed (.ok _) => true
  | _ => false

namespace Channel

variable {c : Channel P R} {i : Nat} {r : Request P R}

theorem owner_ne_of_released (h : c.Sound) (hi : c.requests[i]? = some r) (hr : r.location = .released) : c.owner ≠ some i := by
  intro howner
  obtain ⟨r', hr', hnot⟩ := (h.owner i).mp howner
  rw [hi] at hr'
  cases hr'
  exact hnot hr

theorem ownerAfter_same (h : r.location = .released → c.owner ≠ some i) : c.ownerAfter i r.location = c.owner := by
  unfold ownerAfter
  rw [if_neg]
  rintro ⟨hr, howner⟩
  exact h hr howner

theorem closeFailed_eq (h : r.location = .released → c.owner ≠ some i) (request : Request P R)
    (hsame : request.location = r.location) (failure : Failure) (releaseInFlight : Bool) :
    (c.closeFailed i request failure releaseInFlight).2 =
      { (c.set i (request.closed failure releaseInFlight)) with
        owner := c.ownerAfter i (request.closed failure releaseInFlight).location } := by
  unfold closeFailed Request.closed
  rw [hsame]
  dsimp only
  congr 1
  by_cases hreleases : (decide (r.location = .queued) || releaseInFlight) = true
  · rw [if_pos hreleases, hreleases, Bool.true_and]
    simp [ownerAfter]
  · rw [if_neg hreleases, ownerAfter_same h, Bool.not_eq_true] at *
    simp [hreleases]

/-- What a step does: nothing to the requests, the first stop of an empty slot, a new request, or a change of one request, whose
    slot is free when it is released. -/
inductive Stepped (c : Channel P R) (call : PublicationCall P R) : PublicationResult P R → Prop where
  | idle {reply wakes} (quiet : reply.gives = false) : Stepped c call ((reply, wakes), c)
  | stopped {wakes} (stop : call = .stop) (empty : c.owner = none) : Stepped c call ((.done, wakes), { c with stopped := true })
  | submitted {payload metadata deadline clock} (submit : call = .submit payload metadata deadline clock)
      (running : c.stopped = false) (inTime : clock < deadline) (empty : c.owner = none) :
    Stepped c call ((.submitted (.ok c.requests.length), true), { c with
      owner := some c.requests.length
      requests := c.requests ++ [⟨metadata, deadline, some payload, none, .queued, .waiting, some false, none⟩] })
  | touched {i r r' reply wakes} (found : c.requests[i]? = some r) (touch : Touch c call reply i r r') :
    Stepped c call ((reply, wakes), { c with
      stopped := c.stopped || call.isStop
      owner := c.ownerAfter i r'.location
      requests := c.requests.set i r' })

theorem touched_of (hi : c.requests[i]? = some r) {call : PublicationCall P R} (hstop : call.isStop = false)
    {reply : PublicationReply P R} {r' : Request P R} (touch : Touch c call reply i r r') {wakes : Bool}
    {next : Channel P R} (hnext : next = { (c.set i r') with owner := c.ownerAfter i r'.location }) :
    Stepped c call ((reply, wakes), next) := by
  have touched : Stepped c call ((reply, wakes), _) := Stepped.touched hi touch
  rw [hstop, Bool.or_false] at touched
  rw [hnext]
  exact touched

/-- A change that leaves the request where it is leaves the slot as it is. -/
theorem touched_same (h : c.Sound) (hi : c.requests[i]? = some r) {call : PublicationCall P R} (hstop : call.isStop = false)
    {reply : PublicationReply P R} {r' : Request P R} (touch : Touch c call reply i r r') {wakes : Bool}
    (hsame : r'.location = r.location) : Stepped c call ((reply, wakes), c.set i r') := by
  refine touched_of hi hstop touch ?_
  rw [hsame, ownerAfter_same (owner_ne_of_released h hi)]
  rfl

theorem stepped (h : c.Sound) (call : PublicationCall P R) : Stepped c call ((publicationMachine P R).step c call) := by
  cases call with
  | submit payload metadata deadline clock =>
    simp only [publicationMachine, submit]
    split
    · exact .idle rfl
    rename_i hrunning
    split
    · exact .idle rfl
    rename_i hlate
    split
    · exact .idle rfl
    rename_i hempty
    exact .submitted rfl (Bool.not_eq_true _ |>.mp hrunning) (Nat.not_le.mp hlate) (by simpa using hempty)
  | hasPending => exact .idle rfl
  | take clock =>
    simp only [publicationMachine, take]
    split
    · exact .idle rfl
    rename_i i howner
    split
    · exact .idle rfl
    rename_i r hi
    split
    · exact .idle rfl
    rename_i hqueued
    rw [Decidable.not_not] at hqueued
    split
    · exact touched_of hi rfl (.expired hqueued) (closeFailed_eq (owner_ne_of_released h hi) r rfl _ _)
    · rename_i hlive
      refine touched_of hi rfl (.taken hqueued hlive) ?_
      simp [ownerAfter, set]
  | stop =>
    simp only [publicationMachine, stop]
    split
    · exact .idle rfl
    rename_i hrunning
    split
    · rename_i howner
      exact .stopped rfl howner
    rename_i i howner
    obtain ⟨r, hi, -⟩ := (h.owner i).mp howner
    rw [hi]
    have howned : r.location = .released → c.owner ≠ some i := owner_ne_of_released h hi
    have hclosed := closeFailed_eq (c := { c with stopped := true }) howned r rfl .stopped true
    have touched : Stepped c .stop ((.done, (closeFailed { c with stopped := true } i r .stopped true).1), _) :=
      Stepped.touched hi (Touch.stopped howner)
    dsimp only
    rw [hclosed]
    simpa [PublicationCall.isStop, set, ownerAfter] using touched
  | tryResult i now clock =>
    simp only [publicationMachine, withPending]
    split
    · exact .idle rfl
    rename_i r hi
    split
    · exact .idle rfl
    have hclosed := closeFailed_eq (owner_ne_of_released h hi) { r with pending := some true } rfl
    simp only [tryResult]
    split
    · rename_i failure _
      exact touched_of hi rfl .pollFailed (hclosed failure false)
    rename_i hlive
    split
    · exact .idle rfl
    · rename_i hcompleted
      split
      · rename_i result hresult
        exact touched_same h hi rfl (.delivered hlive hcompleted hresult) rfl
      · exact touched_of hi rfl .pollFailed (hclosed .replyUnavailable false)
    · exact touched_same h hi rfl .consumed rfl
  | dropPending i =>
    simp only [publicationMachine, withPending]
    split
    · exact .idle rfl
    rename_i r hi
    split
    · exact .idle rfl
    simp only [dropPending]
    split
    · exact touched_same h hi rfl .dropped rfl
    · exact touched_of hi rfl .canceled (closeFailed_eq (owner_ne_of_released h hi) { r with pending := none } rfl .canceled false)
  | ensureLive i now clock =>
    simp only [publicationMachine, withWork]
    split
    · exact .idle rfl
    rename_i r hi
    split
    · exact .idle rfl
    simp only [ensureLive]
    split
    · rename_i failure _
      exact touched_of hi rfl .dead (closeFailed_eq (owner_ne_of_released h hi) r rfl failure false)
    · exact .idle rfl
  | takePayload i =>
    simp only [publicationMachine, withWork]
    split
    · exact .idle rfl
    rename_i r hi
    split
    · exact .idle rfl
    rename_i payload hwork
    cases payload with
    | none => exact .idle rfl
    | some payload => exact touched_same h hi rfl (.payload hwork) rfl
  | complete i result now clock =>
    simp only [publicationMachine, withWork]
    split
    · exact .idle rfl
    rename_i r hi
    split
    · exact .idle rfl
    rename_i payload hwork
    simp only [complete]
    split
    · rename_i failure _
      exact touched_of hi rfl .refused (closeFailed_eq (owner_ne_of_released h hi) { r with work := none } rfl failure true)
    · rename_i hlive
      exact touched_of hi rfl (.completed (by rw [hwork]; rfl) hlive) (by simp [ownerAfter])
  | dropWork i clock =>
    simp only [publicationMachine, withWork]
    split
    · exact .idle rfl
    rename_i r hi
    split
    · exact .idle rfl
    simp only [dropWork]
    exact touched_of hi rfl .abandoned (closeFailed_eq (owner_ne_of_released h hi) { r with work := none } rfl _ true)

/-! ### Soundness -/

theorem closed_sound (request : Request P R) (failure : Failure) (releaseInFlight : Bool)
    (h : request.location = .inFlight → releaseInFlight = false → request.work.isSome = true) :
    (request.closed failure releaseInFlight).Sound := by
  have hfailed : ∃ f, (request.closed failure releaseInFlight).outcome = .failed f := by
    unfold Request.closed failedOutcome
    dsimp only
    split
    · exact ⟨_, rfl⟩
    · exact ⟨_, rfl⟩
  obtain ⟨f, hf⟩ := hfailed
  have hlocation : (request.closed failure releaseInFlight).location ≠ .queued := by
    unfold Request.closed
    dsimp only
    split
    · exact fun hq => by cases hq
    · rename_i hstays
      intro hqueued
      exact hstays (by simp [hqueued])
  refine ⟨fun hq => absurd hq hlocation, fun hin => ⟨?_, rfl⟩, fun _ => ⟨by rw [hf]; exact fun hw => (by cases hw), rfl⟩, ?_, ?_, ?_⟩
  · unfold Request.closed at hin
    dsimp only at hin
    split at hin
    · cases hin
    · rename_i hstays
      rw [Bool.not_eq_true, Bool.or_eq_false_iff] at hstays
      exact h hin hstays.2
  · rw [hf]
    exact fun hc => (by cases hc)
  · rw [hf]
    exact fun hc => (by cases hc)
  · exact fun hc => (by cases hc)

theorem touch_sound (hr : r.Sound) {call : PublicationCall P R} {reply : PublicationReply P R} {r' : Request P R}
    (touch : Touch c call reply i r r') : r'.Sound := by
  cases touch with
  | taken queued live =>
    have hwaiting := (hr.queued queued).1
    refine ⟨fun hq => (by cases hq), fun _ => ⟨rfl, rfl⟩, fun hq => (by cases hq), fun hc => ?_, fun hc => ?_, hr.result⟩
    · rw [hwaiting] at hc
      cases hc
    · rw [hwaiting] at hc
      cases hc
  | expired queued => exact closed_sound r _ true fun _ h => (by cases h)
  | stopped owned => exact closed_sound r _ true fun _ h => (by cases h)
  | delivered live completed found =>
    obtain ⟨hreleased, hwork, -⟩ := hr.completed completed
    refine ⟨fun hq => ?_, fun hq => ?_, fun hq => ⟨fun hc => (by cases hc), (hr.released hq).2⟩, fun hc => (by cases hc),
      fun _ => ⟨hreleased, hwork⟩, fun hc => (by cases hc)⟩
    · rw [hreleased] at hq
      cases hq
    · rw [hreleased] at hq
      cases hq
  | pollFailed => exact closed_sound _ _ false fun h _ => (hr.inFlight h).1
  | consumed => exact ⟨hr.queued, hr.inFlight, hr.released, hr.completed, hr.consumed, hr.result⟩
  | dropped => exact ⟨hr.queued, hr.inFlight, hr.released, hr.completed, hr.consumed, hr.result⟩
  | canceled => exact closed_sound _ _ false fun h _ => (hr.inFlight h).1
  | dead => exact closed_sound r _ false fun h _ => (hr.inFlight h).1
  | payload held =>
    have hsome : r.work ≠ none := by simp [held]
    refine ⟨fun hq => absurd (hr.queued hq).2 hsome, fun hq => ⟨rfl, (hr.inFlight hq).2⟩, hr.released,
      fun hc => absurd (hr.completed hc).2.1 hsome, fun hc => absurd (hr.consumed hc).2 hsome, hr.result⟩
  | completed held live =>
    exact ⟨fun hq => (by cases hq), fun hq => (by cases hq), fun _ => ⟨fun hc => (by cases hc), rfl⟩, fun _ => ⟨rfl, rfl, rfl⟩,
      fun _ => ⟨rfl, rfl⟩, fun _ => rfl⟩
  | refused => exact closed_sound _ _ true fun _ h => (by cases h)
  | abandoned => exact closed_sound _ _ true fun _ h => (by cases h)

/-- Nothing goes back from being released, or to being queued. -/
theorem touch_location (hr : r.Sound) {call : PublicationCall P R} {reply : PublicationReply P R} {r' : Request P R}
    (touch : Touch c call reply i r r') :
    (r'.location ≠ .released → r.location ≠ .released) ∧ (r'.location = .queued → r.location = .queued) := by
  have hclosed : ∀ (request : Request P R) (failure : Failure) (releaseInFlight : Bool), request.location = r.location →
      ((request.closed failure releaseInFlight).location ≠ .released → r.location ≠ .released) ∧
        ((request.closed failure releaseInFlight).location = .queued → r.location = .queued) := by
    intro request failure releaseInFlight hsame
    unfold Request.closed
    rw [hsame]
    dsimp only
    split
    · exact ⟨fun h => absurd rfl h, fun h => (by cases h)⟩
    · exact ⟨fun h => h, fun h => h⟩
  cases touch with
  | taken queued live => exact ⟨fun _ h => (by rw [queued] at h; cases h), fun h => (by cases h)⟩
  | expired queued => exact hclosed r _ _ rfl
  | stopped owned => exact hclosed r _ _ rfl
  | delivered live completed found => exact ⟨fun h => h, fun h => h⟩
  | pollFailed => exact hclosed _ _ _ rfl
  | consumed => exact ⟨fun h => h, fun h => h⟩
  | dropped => exact ⟨fun h => h, fun h => h⟩
  | canceled => exact hclosed _ _ _ rfl
  | dead => exact hclosed r _ _ rfl
  | payload held => exact ⟨fun h => h, fun h => h⟩
  | completed held live => exact ⟨fun h => absurd rfl h, fun h => (by cases h)⟩
  | refused => exact hclosed _ _ _ rfl
  | abandoned => exact hclosed _ _ _ rfl

theorem stop_releases {call : PublicationCall P R} {reply : PublicationReply P R} {r' : Request P R}
    (touch : Touch c call reply i r r') (hstop : call.isStop = true) :
    r'.location = .released ∧ c.owner = some i := by
  cases touch with
  | stopped owned => exact ⟨by simp [Request.closed], owned⟩
  | _ => cases hstop

theorem concat_cases {xs : List (Request P R)} {j : Nat} {x y : Request P R} (h : (xs ++ [x])[j]? = some y) :
    xs[j]? = some y ∨ j = xs.length ∧ y = x := by
  rw [List.getElem?_append] at h
  split at h
  · exact Or.inl h
  · rw [List.getElem?_singleton] at h
    split at h
    · exact Or.inr ⟨by omega, (Option.some.inj h).symm⟩
    · cases h

theorem sound_new : (new : Channel P R).Sound where
  requests i r h := by simp [new] at h
  owner i := by simp [new]
  stopped h := by cases h

theorem sound_step (h : c.Sound) (call : PublicationCall P R) : ((publicationMachine P R).step c call).2.Sound := by
  have hstepped := stepped h call
  generalize (publicationMachine P R).step c call = result at hstepped ⊢
  cases hstepped with
  | idle quiet => exact h
  | stopped stop empty => exact ⟨h.requests, h.owner, fun _ => empty⟩
  | submitted submit running inTime empty =>
    have hfree : ∀ (j : Nat) (r : Request P R), c.requests[j]? = some r → r.location = .released := by
      intro j r hj
      by_contra hnot
      have howner := (h.owner j).mpr ⟨r, hj, hnot⟩
      rw [empty] at howner
      cases howner
    refine ⟨fun j r hj => ?_, fun j => ⟨fun howner => ?_, fun ⟨r, hj, hlive⟩ => ?_⟩, fun hstopped => ?_⟩
    · rcases concat_cases hj with hold | ⟨-, rfl⟩
      · exact h.requests j r hold
      · exact ⟨fun _ => ⟨rfl, rfl⟩, fun hq => (by cases hq), fun hq => (by cases hq), fun hc => (by cases hc),
          fun hc => (by cases hc), fun hc => (by cases hc)⟩
    · cases howner
      exact ⟨_, List.getElem?_concat_length, fun hq => (by cases hq)⟩
    · rcases concat_cases hj with hold | ⟨rfl, -⟩
      · exact absurd (hfree j r hold) hlive
      · rfl
    · rw [running] at hstopped
      cases hstopped
  | touched found touch =>
    rename_i i r r' reply wakes
    have hr := h.requests i r found
    have hlength : i < c.requests.length := (List.getElem?_eq_some_iff.mp found).1
    refine ⟨fun j s hj => ?_, fun j => ?_, fun hstopped => ?_⟩
    · rw [List.getElem?_set] at hj
      split at hj
      · cases hj
        exact touch_sound hr touch
      · exact h.requests j s hj
    · rw [List.getElem?_set]
      dsimp only
      by_cases hij : i = j
      · subst hij
        simp only [if_true, hlength, Option.some.injEq, exists_eq_left']
        unfold ownerAfter
        split
        · rename_i hreleased
          exact iff_of_false (fun hnone => by cases hnone) (fun hnot => hnot hreleased.1)
        · rename_i hkept
          rw [h.owner i]
          refine ⟨fun ⟨s, hs, hlive⟩ hreleased => ?_, fun hlive => ⟨r, found, (touch_location hr touch).1 hlive⟩⟩
          exact hkept ⟨hreleased, (h.owner i).mpr ⟨s, hs, hlive⟩⟩
      · rw [if_neg hij, ← h.owner j]
        unfold ownerAfter
        split
        · rename_i hreleased
          rw [hreleased.2]
          exact iff_of_false (fun hnone => by cases hnone) (fun hother => hij (Option.some.inj hother))
        · rfl
    · unfold ownerAfter
      rw [Bool.or_eq_true] at hstopped
      split
      · rfl
      · rename_i hkept
        rcases hstopped with hstopped | hstop
        · exact h.stopped hstopped
        · exact absurd (stop_releases touch hstop) hkept

theorem sound_reached (calls : List (PublicationCall P R)) : ((publicationMachine P R).final new calls).Sound :=
  Machine.inv_final (I := Sound) (fun _ call h => sound_step h call) calls sound_new

/-! ### Liveness of a request -/

theorem liveFailure_eq_none {now clock : Nat} :
    c.liveFailure r now clock = none ↔ (∀ f, r.outcome ≠ .failed f) ∧ c.stopped = false ∧ max now clock < r.deadline := by
  unfold liveFailure
  cases houtcome : r.outcome <;> cases c.stopped <;> simp

theorem workFailure_eq_none {now clock : Nat} :
    c.workFailure r now clock = none ↔ r.outcome = .waiting ∧ c.stopped = false ∧ max now clock < r.deadline := by
  unfold workFailure
  rw [Option.or_eq_none_iff, liveFailure_eq_none]
  by_cases hwaiting : r.outcome = .waiting
  · simp [hwaiting]
  · simp [hwaiting]

/-! ### One request -/

theorem request_after (h : c.Sound) (call : PublicationCall P R) {j : Nat} (hj : c.requests[j]? = some r) :
    ∃ r', ((publicationMachine P R).step c call).2.requests[j]? = some r' ∧
      (r' = r ∨ Touch c call ((publicationMachine P R).step c call).1.1 j r r') := by
  have hstepped := stepped h call
  generalize (publicationMachine P R).step c call = result at hstepped ⊢
  cases hstepped with
  | idle quiet => exact ⟨r, hj, Or.inl rfl⟩
  | stopped stop empty => exact ⟨r, hj, Or.inl rfl⟩
  | submitted submit running inTime empty =>
    exact ⟨r, by rw [List.getElem?_append_left (List.getElem?_eq_some_iff.mp hj).1, hj], Or.inl rfl⟩
  | touched found touch =>
    rename_i i s s' reply wakes
    by_cases hij : i = j
    · subst hij
      rw [found] at hj
      cases hj
      exact ⟨s', List.getElem?_set_self (List.getElem?_eq_some_iff.mp found).1, Or.inr touch⟩
    · exact ⟨r, by rw [List.getElem?_set_ne hij, hj], Or.inl rfl⟩

/-- The call admits request `j` with this payload. -/
def Admits (call : PublicationCall P R) (reply : PublicationReply P R) (j : Nat) (payload : P) : Prop :=
  ∃ metadata deadline clock, call = .submit payload metadata deadline clock ∧ reply = .submitted (.ok j)

theorem request_before (h : c.Sound) (call : PublicationCall P R) {j : Nat} {r' : Request P R}
    (hj : ((publicationMachine P R).step c call).2.requests[j]? = some r') :
    (∃ r, c.requests[j]? = some r ∧ (r' = r ∨ Touch c call ((publicationMachine P R).step c call).1.1 j r r')) ∨
      ∃ payload, Admits call ((publicationMachine P R).step c call).1.1 j payload ∧ r'.payload = some payload ∧ r'.work = none ∧
        r'.result = none := by
  have hstepped := stepped h call
  generalize (publicationMachine P R).step c call = result at hstepped hj ⊢
  cases hstepped with
  | idle quiet => exact Or.inl ⟨r', hj, Or.inl rfl⟩
  | stopped stop empty => exact Or.inl ⟨r', hj, Or.inl rfl⟩
  | submitted submit running inTime empty =>
    rcases concat_cases hj with hold | ⟨rfl, rfl⟩
    · exact Or.inl ⟨r', hold, Or.inl rfl⟩
    · exact Or.inr ⟨_, ⟨_, _, _, submit, rfl⟩, rfl, rfl, rfl⟩
  | touched found touch =>
    rename_i i s s' reply wakes
    by_cases hij : i = j
    · subst hij
      rw [List.getElem?_set_self (List.getElem?_eq_some_iff.mp found).1, Option.some.injEq] at hj
      exact Or.inl ⟨s, found, Or.inr (hj ▸ touch)⟩
    · rw [List.getElem?_set_ne hij] at hj
      exact Or.inl ⟨r', hj, Or.inl rfl⟩

theorem touch_of_gives (h : c.Sound) (call : PublicationCall P R)
    (hgives : ((publicationMachine P R).step c call).1.1.gives = true)
    (hsubmit : ∀ payload metadata deadline clock, call ≠ .submit payload metadata deadline clock) :
    ∃ i r r', c.requests[i]? = some r ∧ Touch c call ((publicationMachine P R).step c call).1.1 i r r' ∧
      ((publicationMachine P R).step c call).2.requests[i]? = some r' := by
  have hstepped := stepped h call
  generalize (publicationMachine P R).step c call = result at hstepped hgives ⊢
  cases hstepped with
  | idle quiet =>
    rw [quiet] at hgives
    cases hgives
  | stopped stop empty => cases hgives
  | submitted submit running inTime empty => exact absurd submit (hsubmit _ _ _ _)
  | touched found touch => exact ⟨_, _, _, found, touch, List.getElem?_set_self (List.getElem?_eq_some_iff.mp found).1⟩

/-! ### At most once -/

/-- The payload of the request has been handed out, or it never will be. -/
def Emptied (c : Channel P R) (i : Nat) : Prop :=
  ∃ r, c.requests[i]? = some r ∧ r.location ≠ .queued ∧ ∀ payload, r.work ≠ some (some payload)

theorem emptied_step (h : c.Sound) (call : PublicationCall P R) (hempty : c.Emptied i) :
    ((publicationMachine P R).step c call).2.Emptied i := by
  obtain ⟨r, hi, hlocation, hwork⟩ := hempty
  obtain ⟨r', hi', rfl | touch⟩ := request_after h call hi
  · exact ⟨r', hi', hlocation, hwork⟩
  · refine ⟨r', hi', fun hq => hlocation ((touch_location (h.requests i r hi) touch).2 hq), ?_⟩
    generalize ((publicationMachine P R).step c call).1.1 = reply at touch
    cases touch with
    | taken queued live => exact absurd queued hlocation
    | payload held => exact fun payload hp => (by cases hp)
    | completed held live => exact fun payload hp => (by cases hp)
    | refused => exact fun payload hp => (by cases hp)
    | abandoned => exact fun payload hp => (by cases hp)
    | _ => exact hwork

/-- The result of the request has been delivered, or it never will be. -/
def Spent (c : Channel P R) (i : Nat) : Prop :=
  ∃ r, c.requests[i]? = some r ∧ r.outcome ≠ .waiting ∧ r.outcome ≠ .completed

theorem closed_outcome (request : Request P R) (failure : Failure) (releaseInFlight : Bool) :
    ∃ f, (request.closed failure releaseInFlight).outcome = .failed f ∧ ∀ f', request.outcome = .failed f' → f = f' := by
  unfold Request.closed failedOutcome
  dsimp only
  split
  · rename_i existing hfailed
    rw [hfailed]
    exact ⟨existing, rfl, fun f' hf => (by cases hf; rfl)⟩
  · rename_i hfailed
    exact ⟨failure, rfl, fun f' hf => absurd hf (hfailed f')⟩

theorem spent_step (h : c.Sound) (call : PublicationCall P R) (hspent : c.Spent i) :
    ((publicationMachine P R).step c call).2.Spent i := by
  obtain ⟨r, hi, hwaiting, hcompleted⟩ := hspent
  obtain ⟨r', hi', rfl | touch⟩ := request_after h call hi
  · exact ⟨r', hi', hwaiting, hcompleted⟩
  refine ⟨r', hi', ?_⟩
  have closed : ∀ (request : Request P R) (failure : Failure) (releaseInFlight : Bool),
      (request.closed failure releaseInFlight).outcome ≠ .waiting ∧ (request.closed failure releaseInFlight).outcome ≠ .completed := by
    intro request failure releaseInFlight
    obtain ⟨f, hf, -⟩ := closed_outcome request failure releaseInFlight
    rw [hf]
    exact ⟨fun hw => (by cases hw), fun hc => (by cases hc)⟩
  generalize ((publicationMachine P R).step c call).1.1 = reply at touch
  cases touch with
  | taken queued live => exact absurd ((h.requests i r hi).queued queued).1 hwaiting
  | delivered live completed found => exact absurd completed hcompleted
  | completed held live => exact absurd (workFailure_eq_none.mp live).1 hwaiting
  | consumed => exact ⟨hwaiting, hcompleted⟩
  | dropped => exact ⟨hwaiting, hcompleted⟩
  | payload held => exact ⟨hwaiting, hcompleted⟩
  | _ => exact closed _ _ _

theorem failed_step (h : c.Sound) (call : PublicationCall P R) (hi : c.requests[i]? = some r) {failure : Failure}
    (hfailed : r.outcome = .failed failure) :
    ∃ r', ((publicationMachine P R).step c call).2.requests[i]? = some r' ∧ r'.outcome = .failed failure := by
  obtain ⟨r', hi', rfl | touch⟩ := request_after h call hi
  · exact ⟨r', hi', hfailed⟩
  refine ⟨r', hi', ?_⟩
  have closed : ∀ (request : Request P R) (other : Failure) (releaseInFlight : Bool), request.outcome = r.outcome →
      (request.closed other releaseInFlight).outcome = .failed failure := by
    intro request other releaseInFlight hsame
    obtain ⟨f, hf, hkept⟩ := closed_outcome request other releaseInFlight
    rw [hf, hkept failure (hsame.trans hfailed)]
  generalize ((publicationMachine P R).step c call).1.1 = reply at touch
  cases touch with
  | delivered live completed found =>
    rw [hfailed] at completed
    cases completed
  | completed held live =>
    rw [(workFailure_eq_none.mp live).1] at hfailed
    cases hfailed
  | taken queued live => exact hfailed
  | consumed => exact hfailed
  | dropped => exact hfailed
  | payload held => exact hfailed
  | _ => exact closed _ _ _ rfl

/-- A request in flight stays so until its work ends or the inbox stops. -/
theorem leaves_flight (h : c.Sound) (call : PublicationCall P R) (hi : c.requests[i]? = some r) (hflight : r.location = .inFlight) :
    (∃ r', ((publicationMachine P R).step c call).2.requests[i]? = some r' ∧ r'.location = .inFlight) ∨
      call = .stop ∨ (∃ result now clock, call = .complete i result now clock) ∨ ∃ clock, call = .dropWork i clock := by
  obtain ⟨r', hi', rfl | touch⟩ := request_after h call hi
  · exact Or.inl ⟨r', hi', hflight⟩
  have closed : ∀ (request : Request P R) (failure : Failure), request.location = r.location →
      (request.closed failure false).location = .inFlight := by
    intro request failure hsame
    unfold Request.closed
    rw [hsame, hflight]
    rfl
  generalize ((publicationMachine P R).step c call).1.1 = reply at touch
  cases touch with
  | taken queued live => exact Or.inl ⟨_, hi', rfl⟩
  | expired queued =>
    rw [hflight] at queued
    cases queued
  | stopped owned => exact Or.inr (Or.inl rfl)
  | completed held live => exact Or.inr (Or.inr (Or.inl ⟨_, _, _, rfl⟩))
  | refused => exact Or.inr (Or.inr (Or.inl ⟨_, _, _, rfl⟩))
  | abandoned => exact Or.inr (Or.inr (Or.inr ⟨_, rfl⟩))
  | pollFailed => exact Or.inl ⟨_, hi', closed _ _ rfl⟩
  | canceled => exact Or.inl ⟨_, hi', closed _ _ rfl⟩
  | dead => exact Or.inl ⟨_, hi', closed _ _ rfl⟩
  | _ => exact Or.inl ⟨_, hi', hflight⟩

end Channel

/-! ### Runs -/

abbrev PublicationStep (P R : Type) := Call (Channel P R) (PublicationCall P R) (PublicationReply P R × Bool)

namespace PublicationStep

def HandsPayload (a : PublicationStep P R) (i : Nat) (payload : P) : Prop :=
  a.input = .takePayload i ∧ a.output.1 = .payload payload

def Delivers (a : PublicationStep P R) (i : Nat) (result : R) : Prop :=
  ∃ now clock, a.input = .tryResult i now clock ∧ a.output.1 = .polled (.ok (some result))

/-- The call completes the request, which waits, before the deadline and the stop. -/
def CompletesInTime (a : PublicationStep P R) (i : Nat) (result : R) (deadline : Nat) : Prop :=
  ∃ now clock, a.input = .complete i result now clock ∧ a.output.1 = .completed (.ok ()) ∧ a.before.stopped = false ∧
    max now clock < deadline ∧ ∃ r, a.before.requests[i]? = some r ∧ r.outcome = .waiting

end PublicationStep

namespace Channel

variable {c : Channel P R}

theorem handsPayload_inv (h : c.Sound) {call : PublicationCall P R} {i : Nat} {payload : P}
    (hands : PublicationStep.HandsPayload ((publicationMachine P R).call c call) i payload) :
    (∃ r, c.requests[i]? = some r ∧ r.work = some (some payload)) ∧ ((publicationMachine P R).step c call).2.Emptied i := by
  obtain ⟨hcall, hreply⟩ := hands
  rw [Machine.call_output] at hreply
  obtain rfl : call = .takePayload i := hcall
  obtain ⟨j, r, r', found, touch, hafter⟩ := touch_of_gives h (.takePayload i) (by rw [hreply]; rfl) fun _ _ _ _ h => (by cases h)
  rw [hreply] at touch
  cases touch with
  | payload held =>
    refine ⟨⟨r, found, held⟩, _, hafter, fun hq => ?_, fun payload hp => (by cases hp)⟩
    rw [((h.requests i r found).queued hq).2] at held
    cases held

theorem delivers_inv (h : c.Sound) {call : PublicationCall P R} {i : Nat} {result : R}
    (delivers : PublicationStep.Delivers ((publicationMachine P R).call c call) i result) :
    ∃ r now clock, call = .tryResult i now clock ∧ c.requests[i]? = some r ∧ r.result = some result ∧ r.outcome = .completed ∧
      c.stopped = false ∧ max now clock < r.deadline ∧ ((publicationMachine P R).step c call).2.Spent i := by
  obtain ⟨now, clock, hcall, hreply⟩ := delivers
  rw [Machine.call_output] at hreply
  obtain rfl : call = .tryResult i now clock := hcall
  obtain ⟨j, r, r', found, touch, hafter⟩ := touch_of_gives h (.tryResult i now clock) (by rw [hreply]; rfl)
    fun _ _ _ _ h => (by cases h)
  rw [hreply] at touch
  cases touch with
  | delivered live completed hresult =>
    obtain ⟨-, hrunning, htime⟩ := liveFailure_eq_none.mp live
    exact ⟨r, now, clock, rfl, found, hresult, completed, hrunning, htime, _, hafter, fun hw => (by cases hw),
      fun hc => (by cases hc)⟩

/-- Where the results and the payloads that are held come from. -/
structure Grounds (c : Channel P R) (past : List (PublicationStep P R)) : Prop where
  result : ∀ (i : Nat) (r : Request P R) (result : R), c.requests[i]? = some r → r.result = some result →
    ∃ a ∈ past, PublicationStep.CompletesInTime a i result r.deadline
  payload : ∀ (i : Nat) (r : Request P R) (payload : P), c.requests[i]? = some r →
    r.payload = some payload ∨ r.work = some (some payload) → ∃ a ∈ past, Admits a.input a.output.1 i payload

theorem grounds_step (h : c.Sound) {past : List (PublicationStep P R)} (hg : c.Grounds past) (call : PublicationCall P R) :
    ((publicationMachine P R).step c call).2.Grounds (past ++ [(publicationMachine P R).call c call]) where
  result i r' result hi hresult := by
    have before : ∀ r, c.requests[i]? = some r → r.result = some result → r.deadline = r'.deadline →
        ∃ a ∈ past ++ [(publicationMachine P R).call c call], PublicationStep.CompletesInTime a i result r'.deadline := by
      intro r hr hfound hsame
      obtain ⟨a, ha, hcompletes⟩ := hg.result i r result hr hfound
      exact ⟨a, List.mem_append_left _ ha, hsame ▸ hcompletes⟩
    rcases request_before h call hi with ⟨r, hr, rfl | touch⟩ | ⟨payload, -, -, -, hnone⟩
    · exact before r' hr hresult rfl
    · generalize hreply : ((publicationMachine P R).step c call).1.1 = reply at touch
      cases touch with
      | taken queued live => exact before r hr hresult rfl
      | consumed => exact before r hr hresult rfl
      | dropped => exact before r hr hresult rfl
      | payload held => exact before r hr hresult rfl
      | completed held live =>
        obtain ⟨hwaiting, hrunning, htime⟩ := workFailure_eq_none.mp live
        cases hresult
        exact ⟨_, List.mem_append_right _ (List.mem_singleton_self _), _, _, rfl, hreply, hrunning, htime, r, hr, hwaiting⟩
      | _ => cases hresult
    · rw [hnone] at hresult
      cases hresult
  payload i r' payload hi hheld := by
    have before : ∀ r, c.requests[i]? = some r → r.payload = some payload ∨ r.work = some (some payload) →
        ∃ a ∈ past ++ [(publicationMachine P R).call c call], Admits a.input a.output.1 i payload := by
      intro r hr hfound
      obtain ⟨a, ha, hadmits⟩ := hg.payload i r payload hr hfound
      exact ⟨a, List.mem_append_left _ ha, hadmits⟩
    rcases request_before h call hi with ⟨r, hr, rfl | touch⟩ | ⟨other, hadmits, hpayload, hwork, -⟩
    · exact before r' hr hheld
    · refine before r hr ?_
      generalize ((publicationMachine P R).step c call).1.1 = reply at touch
      cases touch with
      | taken queued live =>
        rcases hheld with hheld | hheld
        · cases hheld
        · exact Or.inl (Option.some.inj hheld)
      | delivered live completed found => exact hheld
      | consumed => exact hheld
      | dropped => exact hheld
      | payload held =>
        rcases hheld with hheld | hheld
        · exact Or.inl hheld
        · cases hheld
      | completed held live =>
        rcases hheld with hheld | hheld
        · cases hheld
        · cases hheld
      | refused =>
        rcases hheld with hheld | hheld
        · cases hheld
        · cases hheld
      | abandoned =>
        rcases hheld with hheld | hheld
        · cases hheld
        · cases hheld
      | _ =>
        rcases hheld with hheld | hheld
        · cases hheld
        · exact Or.inr hheld
    · rcases hheld with hheld | hheld
      · rw [hpayload] at hheld
        cases hheld
        exact ⟨_, List.mem_append_right _ (List.mem_singleton_self _), hadmits⟩
      · rw [hwork] at hheld
        cases hheld

theorem grounds_reached (calls : List (PublicationCall P R)) :
    ((publicationMachine P R).final new calls).Grounds ((publicationMachine P R).trace new calls) := by
  refine (Machine.inv_history (fun (c : Channel P R) past => c.Sound ∧ c.Grounds past) (fun _ => True)
    (fun c call past h _ => ⟨sound_step h.1 call, grounds_step h.1 h.2 call⟩) ⟨sound_new, ?_, ?_⟩ calls fun _ _ => trivial).2
  · intro i r result hi
    simp [new] at hi
  · intro i r payload hi
    simp [new] at hi

theorem submit_ok_iff (h : c.Sound) (payload : P) (metadata : Metadata) (deadline clock : Nat) :
    (c.submit payload metadata deadline clock).1.isOk = true ↔ c.stopped = false ∧ clock < deadline ∧
      ∀ (i : Nat) (r : Request P R), c.requests[i]? = some r → r.location = .released := by
  have hfree : c.owner = none ↔ ∀ (i : Nat) (r : Request P R), c.requests[i]? = some r → r.location = .released := by
    constructor
    · intro hnone i r hi
      by_contra hlive
      have howner := (h.owner i).mpr ⟨r, hi, hlive⟩
      rw [hnone] at howner
      cases howner
    · intro hall
      by_contra howned
      obtain ⟨i, howner⟩ := Option.ne_none_iff_exists'.mp howned
      obtain ⟨r, hi, hlive⟩ := (h.owner i).mp howner
      exact hlive (hall i r hi)
  rw [← hfree]
  unfold submit
  cases hstopped : c.stopped with
  | true => exact iff_of_false (fun hok => by cases hok) (fun hall => by cases hall.1)
  | false =>
    by_cases hlate : deadline ≤ clock
    · rw [if_neg Bool.false_ne_true, if_pos hlate]
      exact iff_of_false (fun hok => by cases hok) (fun hall => absurd hall.2.1 (Nat.not_lt.mpr hlate))
    · rw [if_neg Bool.false_ne_true, if_neg hlate]
      cases howner : c.owner with
      | none => exact iff_of_true rfl ⟨rfl, Nat.not_le.mp hlate, rfl⟩
      | some i => exact iff_of_false (fun hok => by cases hok) (fun hall => by cases hall.2.2)

end Channel

open Channel

/-- In every run of the handles, whatever their order: the slot belongs to the one request that is queued or in flight; a request is
    admitted exactly when there is none, in time and before the stop; and a request in flight, canceled or late as it may be, keeps
    the slot until its work ends or the inbox stops. -/
theorem one_request_at_a_time (calls : List (PublicationCall P R)) :
    (∀ i, ((publicationMachine P R).final new calls).owner = some i ↔
      ∃ r, ((publicationMachine P R).final new calls).requests[i]? = some r ∧ r.location ≠ .released) ∧
    (∀ payload metadata deadline clock,
      (((publicationMachine P R).final new calls).submit payload metadata deadline clock).1.isOk = true ↔
        ((publicationMachine P R).final new calls).stopped = false ∧ clock < deadline ∧
          ∀ (i : Nat) (r : Request P R), ((publicationMachine P R).final new calls).requests[i]? = some r → r.location = .released) ∧
    ∀ a ∈ (publicationMachine P R).trace new calls, ∀ (i : Nat) (r : Request P R), a.before.requests[i]? = some r →
      r.location = .inFlight → a.after.owner = some i ∨ a.input = .stop ∨
        (∃ result now clock, a.input = .complete i result now clock) ∨ ∃ clock, a.input = .dropWork i clock := by
  have hsound := sound_reached calls
  refine ⟨hsound.owner, submit_ok_iff hsound, fun a ha i r hi hflight => ?_⟩
  have hbefore := Machine.inv_before (I := Sound) (fun _ call h => sound_step h call) sound_new ha
  rw [Machine.eq_call_of_mem ha]
  rcases leaves_flight hbefore a.input hi hflight with ⟨r', hi', hstays⟩ | hleaves
  · refine Or.inl (((sound_step hbefore a.input).owner i).mpr ⟨r', hi', fun hreleased => ?_⟩)
    rw [hstays] at hreleased
    cases hreleased
  · exact Or.inr hleaves

/-- In every run of the handles, the payload of a request is handed out once at most and is the one that was submitted, and its
    result is delivered once at most. A delivery is in time and before the stop, and so was the completion that it comes of. A
    request that has failed keeps its failure. -/
theorem handed_over_once (calls : List (PublicationCall P R)) :
    (∀ i, ((publicationMachine P R).trace new calls).Pairwise fun a b =>
      (∃ payload, PublicationStep.HandsPayload a i payload) → ¬∃ payload, PublicationStep.HandsPayload b i payload) ∧
    (∀ i, ((publicationMachine P R).trace new calls).Pairwise fun a b =>
      (∃ result, PublicationStep.Delivers a i result) → ¬∃ result, PublicationStep.Delivers b i result) ∧
    (∀ pre a post, (publicationMachine P R).trace new calls = pre ++ a :: post → ∀ i,
      (∀ payload, PublicationStep.HandsPayload a i payload → ∃ b ∈ pre, Admits b.input b.output.1 i payload) ∧
      ∀ result, PublicationStep.Delivers a i result → ∃ r now clock, a.input = .tryResult i now clock ∧
        a.before.requests[i]? = some r ∧ a.before.stopped = false ∧ max now clock < r.deadline ∧
        ∃ b ∈ pre, PublicationStep.CompletesInTime b i result r.deadline) ∧
    ∀ a ∈ (publicationMachine P R).trace new calls, ∀ (i : Nat) (r : Request P R) (failure : Failure),
      a.before.requests[i]? = some r → r.outcome = .failed failure →
        ∃ r', a.after.requests[i]? = some r' ∧ r'.outcome = .failed failure := by
  refine ⟨fun i => ?_, fun i => ?_, fun pre a post htrace i => ?_, fun a ha i r failure hi hfailed => ?_⟩
  · refine Machine.never_after (I := Sound) (P := fun c => c.Emptied i) (fun _ call h => sound_step h call) ?_
      (fun _ call h hempty => emptied_step h call hempty) ?_ calls sound_new
    · rintro c call h ⟨payload, hands⟩
      exact (handsPayload_inv h hands).2
    · rintro c call h ⟨r, hr, -, hempty⟩ ⟨payload, hands⟩
      obtain ⟨⟨r', hr', hheld⟩, -⟩ := handsPayload_inv h hands
      rw [hr] at hr'
      cases hr'
      exact hempty payload hheld
  · refine Machine.never_after (I := Sound) (P := fun c => c.Spent i) (fun _ call h => sound_step h call) ?_
      (fun _ call h hspent => spent_step h call hspent) ?_ calls sound_new
    · rintro c call h ⟨result, delivers⟩
      obtain ⟨r, now, clock, -, -, -, -, -, -, hspent⟩ := delivers_inv h delivers
      exact hspent
    · rintro c call h ⟨r, hr, -, hnot⟩ ⟨result, delivers⟩
      obtain ⟨r', now, clock, -, hr', -, hcompleted, -⟩ := delivers_inv h delivers
      rw [hr] at hr'
      cases hr'
      exact hnot hcompleted
  · obtain ⟨before, call, rfl, rfl⟩ := Machine.trace_split htrace
    have hsound := sound_reached before
    have hgrounds := grounds_reached before
    constructor
    · intro payload hands
      obtain ⟨⟨r, hr, hheld⟩, -⟩ := handsPayload_inv hsound hands
      exact hgrounds.payload i r payload hr (Or.inr hheld)
    · intro result delivers
      obtain ⟨r, now, clock, rfl, hr, hresult, -, hrunning, htime, -⟩ := delivers_inv hsound delivers
      exact ⟨r, now, clock, rfl, hr, hrunning, htime, hgrounds.result i r result hr hresult⟩
  · have hbefore := Machine.inv_before (I := Sound) (fun _ call h => sound_step h call) sound_new ha
    rw [Machine.eq_call_of_mem ha]
    exact failed_step hbefore a.input hi hfailed

end NativePublication
end DccCua
