import DccCua.Theorems.GuardedSteps
import DccCua.Theorems.HeldInput

/-! # Every press is released

A transaction inserts a part of its plan, in order, and keeps the releases that are due. When it ends these are one last
batch. It succeeds only when the whole plan and this batch are inserted, and the check after them has passed. -/

namespace DccCua
namespace PhysicalInput

open Script

/-! ### Plans -/

def clickBatch (point : Point) (button : WindowsPointerButton) : List Event :=
  [.move point.1 point.2, .mouse button false, .mouse button true]

/-- The events that a request is meant to insert. -/
def Request.plan : Request → List Event
  | .click point count button modifiers =>
    match checkedKeys modifiers true with
    | .error _ => []
    | .ok keys => (keys.map fun key => .key key false) ++ (List.replicate count (clickBatch point button)).flatten
  | .drag points _ button =>
    [Event.mouse button false] ++ (points.tail.map fun point => .move point.1 point.2) ++ [.mouse button true]
  | .keypress keys duration =>
    match checkedKeys keys false with
    | .error _ => []
    | .ok keys =>
      match duration with
      | some _ => keys.map fun key => .key key false
      | none => (keys.map fun key => Event.key key false) ++ keys.reverse.map fun key => Event.key key true
  | .text content =>
    match textEvents content with
    | .error _ => []
    | .ok events => events

theorem checkedFrom_nodup {modifiersOnly : Bool} {names : List String} {seen keys : List Nat} (hseen : seen.Nodup)
    (h : checkedFrom modifiersOnly names seen = .ok keys) : keys.Nodup := by
  induction names generalizing seen with
  | nil =>
    rw [checkedFrom] at h
    cases h
    exact hseen
  | cons name names ih =>
    rw [checkedFrom] at h
    -- which key is named does not matter
    generalize ((modifierVirtualKey name).orElse fun _ => if modifiersOnly then none else virtualKey name) = found at h
    cases found with
    | none => cases h
    | some key =>
      dsimp only at h
      split at h
      · cases h
      · rename_i hfresh
        rw [List.contains_eq_mem, decide_eq_true_eq] at hfresh
        exact ih (List.nodup_append'.mpr ⟨hseen, by simp, by simpa using hfresh⟩) h

theorem checkedKeys_nodup {modifiersOnly : Bool} {names : List String} {keys : List Nat}
    (h : checkedKeys names modifiersOnly = .ok keys) : keys.Nodup := by
  unfold checkedKeys at h
  split at h
  · cases h
  · exact checkedFrom_nodup List.nodup_nil h

/-- Batches that leave what is held alone. -/
theorem orderly_flatten {held : List Event} : ∀ {batches : List (List Event)},
    (∀ batch ∈ batches, Orderly held batch ∧ settle held batch = held) →
    Orderly held batches.flatten ∧ settle held batches.flatten = held
  | [], _ => ⟨trivial, rfl⟩
  | batch :: batches, h => by
    rw [List.forall_mem_cons] at h
    obtain ⟨⟨horderly, hsettle⟩, hrest⟩ := h
    obtain ⟨hrestOrderly, hrestSettle⟩ := orderly_flatten hrest
    rw [List.flatten_cons]
    refine ⟨orderly_append.mpr ⟨horderly, ?_⟩, ?_⟩
    · rw [hsettle]
      exact hrestOrderly
    · rw [settle_append, hsettle, hrestSettle]

theorem orderly_clickBatch {held : List Event} {point : Point} {button : WindowsPointerButton}
    (hfree : Event.mouse button true ∉ held) :
    Orderly held (clickBatch point button) ∧ settle held (clickBatch point button) = held := by
  obtain ⟨horderly, hsettle⟩ := @orderly_pair held (.mouse button false) _ rfl hfree
  exact ⟨⟨nofun, horderly⟩, hsettle⟩

/-- The events of a text leave nothing held. -/
theorem orderly_eventsFrom : ∀ {text : List Char} {previousCr : Bool},
    Orderly [] (eventsFrom previousCr text) ∧ settle [] (eventsFrom previousCr text) = []
  | [], _ => ⟨trivial, rfl⟩
  | c :: text, previousCr => by
    have happend : ∀ {events rest : List Event}, (Orderly [] events ∧ settle [] events = []) →
        (Orderly [] rest ∧ settle [] rest = []) → Orderly [] (events ++ rest) ∧ settle [] (events ++ rest) = [] := by
      rintro events rest ⟨horderly, hsettle⟩ hrest
      refine ⟨orderly_append.mpr ⟨horderly, ?_⟩, ?_⟩
      · rw [hsettle]
        exact hrest.1
      · rw [settle_append, hsettle, hrest.2]
    unfold eventsFrom
    split
    · exact orderly_eventsFrom
    · split
      · exact happend (orderly_pair rfl (by simp)) orderly_eventsFrom
      · refine happend ?_ orderly_eventsFrom
        rw [List.flatMap_def]
        refine orderly_flatten fun batch hbatch => ?_
        obtain ⟨unit, -, rfl⟩ := List.mem_map.mp hbatch
        exact orderly_pair rfl (by simp)

/-- No plan presses what it holds. -/
theorem Request.plan_orderly (request : Request) : Orderly [] request.plan := by
  unfold Request.plan
  cases request with
  | click point count button modifiers =>
    dsimp only
    cases hkeys : checkedKeys modifiers true with
    | error _ => trivial
    | ok keys =>
      obtain ⟨horderly, hsettle⟩ := @orderly_presses keys [] (checkedKeys_nodup hkeys) (by simp)
      refine orderly_append.mpr ⟨horderly, ?_⟩
      rw [hsettle]
      refine (orderly_flatten fun batch hbatch => ?_).1
      rw [List.eq_of_mem_replicate hbatch]
      exact orderly_clickBatch (by simp)
  | drag points _ button =>
    obtain ⟨horderly, hsettle⟩ := @orderly_moves [.mouse button true] points.tail
    refine orderly_append.mpr ⟨orderly_append.mpr ⟨⟨fun release hrelease => ?_, trivial⟩, horderly⟩, orderly_releases (by simp [Event.isRelease])⟩
    simp
  | keypress names duration =>
    dsimp only
    cases hkeys : checkedKeys names false with
    | error _ => trivial
    | ok keys =>
      obtain ⟨horderly, -⟩ := @orderly_presses keys [] (checkedKeys_nodup hkeys) (by simp)
      cases duration with
      | some _ => exact horderly
      | none => exact orderly_append.mpr ⟨horderly, orderly_releases (by simp [Event.isRelease])⟩
  | text content =>
    dsimp only
    cases hevents : textEvents content with
    | error _ => trivial
    | ok events =>
      unfold textEvents at hevents
      split at hevents
      · cases hevents
      · cases hevents
        exact orderly_eventsFrom.1

/-! ### What is sent -/

structure Dispatch where
  cleanup : Bool
  events : List Event
  inserted : Nat

/-- The batches of a record, the first first. -/
def dispatches : List Step → List Dispatch
  | [] => []
  | .batch cleanup events inserted :: record => dispatches record ++ [⟨cleanup, events, inserted⟩]
  | _ :: record => dispatches record

def insertedBy (sent : List Dispatch) : List Event := sent.flatMap fun dispatch => dispatch.events.take dispatch.inserted

/-- The transaction has inserted some events and keeps the releases that are due. -/
structure Track (fence : WindowsPhysicalInputFence) (done : List Event) (t : NativeTransaction) : Prop where
  fence : t.fence = fence
  sent : ∀ dispatch ∈ dispatches t.backend, dispatch.cleanup = false
  inserted : insertedBy (dispatches t.backend) = done
  pending : t.pendingReleases = settle [] done

section Tracks
variable {fence : WindowsPhysicalInputFence} {done : List Event}

/-- A step that sends nothing. -/
theorem Track.after {t : NativeTransaction} (h : Track fence done t) {step : Step}
    (hstep : ∀ record, dispatches (step :: record) = dispatches record) : Track fence done (t.after [step]) where
  fence := h.fence
  sent := by
    show ∀ dispatch ∈ dispatches (step :: t.backend), _
    rw [hstep]
    exact h.sent
  inserted := by
    show insertedBy (dispatches (step :: t.backend)) = done
    rw [hstep]
    exact h.inserted
  pending := h.pending

theorem Track.received {t : NativeTransaction} (h : Track fence done t) {events : List Event} {cursor : Option Point}
    {receipt : MutationReceipt} {step : Step} (hstep : Dispatched false events cursor receipt step) :
    Track fence (done ++ events.take receipt.inserted)
      ((t.after [step, .check t.fence t.point false (.ok ())]).received events receipt) where
  fence := h.fence
  sent := by
    cases hstep with
    | batch count =>
      show ∀ dispatch ∈ dispatches t.backend ++ [⟨false, events, count⟩], dispatch.cleanup = false
      intro dispatch hdispatch
      rcases List.mem_append.mp hdispatch with hdispatch | hdispatch
      · exact h.sent dispatch hdispatch
      · rw [List.mem_singleton.mp hdispatch]
    | cursor point moved => exact h.sent
  inserted := by
    cases hstep with
    | batch count =>
      show insertedBy (dispatches t.backend ++ [⟨false, events, count⟩]) = _
      rw [insertedBy, List.flatMap_append, ← insertedBy, h.inserted]
      simp
    | cursor point moved =>
      rw [List.take_zero, List.append_nil]
      exact h.inserted
  pending := by
    show settle t.pendingReleases (events.take receipt.inserted) = _
    rw [h.pending, settle_append]

/-- The program inserts the plan, or stops after a part of it. -/
def Plans (fence : WindowsPhysicalInputFence) (plan : List Event) (prog : TransactionProg NativeRecord NativeAnswer) : Prop :=
  ∀ done, Triple (fun t _ => Track fence done t) prog
    (orError (fun _ t _ => Track fence (done ++ plan) t) fun _ t _ => ∃ part, part <+: plan ∧ Track fence (done ++ part) t)
    fun _ => True

theorem plans_refused (plan : List Event) (reason : Reason) : Plans fence plan (Prog.ret (.error reason)) :=
  fun done => triple_ret fun t _ h => ⟨[], List.nil_prefix, by rwa [List.append_nil]⟩

theorem plans_done : Plans fence [] (Prog.ret (.ok ())) :=
  fun done => triple_ret fun t _ h => by
    show Track fence (done ++ []) t
    rwa [List.append_nil]

theorem plans_tryThen {first second : List Event} {p : TransactionProg NativeRecord NativeAnswer}
    {f : Unit → TransactionProg NativeRecord NativeAnswer} (hp : Plans fence first p) (hf : ∀ u, Plans fence second (f u)) :
    Plans fence (first ++ second) (p.tryThen f) := by
  intro done
  refine triple_tryThen (R := fun _ t _ => Track fence (done ++ first) t) ?_ fun u => ?_
  · refine triple_weaken (hp done) (fun _ _ h => h) fun result t rest h => ?_
    cases result with
    | ok _ => exact h
    | error reason =>
      obtain ⟨part, hpart, htrack⟩ := h
      exact ⟨part, hpart.trans (List.prefix_append _ _), htrack⟩
  · refine triple_weaken (hf u (done ++ first)) (fun _ _ h => h) fun result t rest h => ?_
    rw [List.append_assoc] at h
    cases result with
    | ok _ => exact h
    | error reason =>
      obtain ⟨part, hpart, htrack⟩ := h
      rw [List.append_assoc] at htrack
      exact ⟨first ++ part, (List.prefix_append_right_inj first).mpr hpart, htrack⟩

/-- A program before a plan that sends nothing. -/
theorem plans_andThen {α : Type} {plan : List Event} {p : Prog NativeTransaction NativeAnswer α}
    {f : α → TransactionProg NativeRecord NativeAnswer}
    (hp : ∀ done, Triple (fun t _ => Track fence done t) p (fun _ t _ => Track fence done t) fun _ => True)
    (hf : ∀ a, Plans fence plan (f a)) : Plans fence plan (p.andThen f) :=
  fun done => triple_andThen (hp done) fun a => hf a done

theorem plans_mutate {events : List Event} {cursor : Option Point} (h : cursor = none ∨ events = []) :
    Plans fence events (mutate nativeBackend events cursor) := by
  intro done
  have hinserted : ∀ {receipt : MutationReceipt} {step : Step}, Dispatched false events cursor receipt step →
      receipt.inserted = receipt.requested → events.take receipt.inserted = events := by
    intro receipt step hstep hcomplete
    cases hstep with
    | batch count => rw [hcomplete, List.take_length]
    | cursor point moved =>
      rcases h with hnone | rfl
      · cases hnone
      · rfl
  refine triple_weaken (mutate_spec (R := fun t => Track fence done t) (fun _ _ => trivial) fun _ _ => trivial) (fun _ _ h => h)
    fun result t rest h => ?_
  cases result with
  | ok _ =>
    obtain ⟨t₀, step, receipt, ht₀, hstep, hcomplete, rfl⟩ := h
    have htrack := ht₀.received hstep
    rw [hinserted hstep hcomplete] at htrack
    exact htrack
  | error reason =>
    rcases h with ⟨t₀, reason, ht₀, rfl⟩ | ⟨t₀, step, receipt, ht₀, hstep, rfl⟩
    · refine ⟨[], List.nil_prefix, ?_⟩
      rw [List.append_nil]
      exact ht₀.after fun _ => rfl
    · exact ⟨_, List.take_prefix _ _, ht₀.received hstep⟩

/-- Programs that send nothing. -/
theorem plans_silent {p : TransactionProg NativeRecord NativeAnswer}
    (h : ∀ done, Triple (fun t _ => Track fence done t) p (fun _ t _ => Track fence done t) fun _ => True) : Plans fence [] p := by
  intro done
  refine triple_weaken (h done) (fun _ _ h => h) fun result t rest h => ?_
  cases result with
  | ok _ =>
    show Track fence (done ++ []) t
    rwa [List.append_nil]
  | error reason => exact ⟨[], List.nil_prefix, by rwa [List.append_nil]⟩

theorem track_checkAt (point : Option Point) (done : List Event) :
    Triple (fun t _ => Track fence done t) (checkAt nativeBackend point) (fun _ t _ => Track fence done t) fun _ => True :=
  triple_weaken (checkAt_spec fun _ _ => trivial) (fun _ _ h => h) fun _ _ _ ⟨_, ht₀, ht⟩ => ht ▸ ht₀.after fun _ => rfl

theorem track_checkHere (done : List Event) :
    Triple (fun t _ => Track fence done t) (checkHere nativeBackend) (fun _ t _ => Track fence done t) fun _ => True :=
  triple_weaken (checkHere_spec fun _ _ => trivial) (fun _ _ h => h) fun _ _ _ ⟨_, ht₀, ht⟩ => ht ▸ ht₀.after fun _ => rfl

theorem track_elapsedMs (done : List Event) :
    Triple (fun t _ => Track fence done t) (onBackend nativeBackend.elapsedMs) (fun _ t _ => Track fence done t) fun _ => True :=
  triple_weaken (elapsedMs_spec fun _ _ => trivial) (fun _ _ h => h) fun _ _ _ ⟨_, ht₀, ht⟩ => ht ▸ ht₀.after fun _ => rfl

theorem track_pause (ms : Nat) (done : List Event) :
    Triple (fun t _ => Track fence done t) (onBackend (nativeBackend.pause ms)) (fun _ t _ => Track fence done t) fun _ => True :=
  triple_weaken pause_spec (fun _ _ h => h) fun _ _ _ ⟨_, ht₀, ht⟩ => ht ▸ ht₀.after fun _ => rfl

theorem track_holdGuard (done : List Event) :
    Triple (fun t _ => Track fence done t) (holdGuard nativeBackend) (fun _ t _ => Track fence done t) fun _ => True := by
  refine triple_andThen (triple_weaken (interrupted_spec fun _ _ => trivial) (fun _ _ h => h) fun _ _ _ ⟨_, ht₀, ht⟩ =>
    ht ▸ ht₀.after fun _ => rfl) fun interrupted => ?_
  split
  · exact triple_ret fun _ _ h => h
  · exact track_checkAt none done

theorem track_waitUntil {guard : TransactionProg NativeRecord NativeAnswer}
    (h : ∀ done, Triple (fun t _ => Track fence done t) guard (fun _ t _ => Track fence done t) fun _ => True) (deadline : Nat)
    (done : List Event) : Triple (fun t _ => Track fence done t) (waitUntil nativeBackend guard deadline) (fun _ t _ => Track fence done t)
      fun _ => True := by
  refine triple_roundsUntil (S := fun _ t => Track fence done t) (fun _ _ => trivial) ?_
  refine triple_andThen (track_elapsedMs done) fun now => ?_
  split
  · refine triple_andThen (h done) fun result => ?_
    cases result with
    | error reason => exact triple_ret fun _ _ h => h
    | ok _ => exact triple_andThen (track_elapsedMs done) fun now => triple_andThen (track_pause _ done) fun _ => triple_ret fun _ _ h => h
  · exact triple_ret fun _ _ h => h

/-! ### Operations -/

theorem plans_clicks (batch : List Event) : ∀ count, Plans fence (List.replicate count batch).flatten (clicks nativeBackend batch count)
  | 0 => plans_done
  | n + 1 => by
    rw [List.replicate_succ, List.flatten_cons]
    refine plans_tryThen (plans_mutate (Or.inl rfl)) fun _ => plans_andThen (fun done => ?_) fun _ => plans_clicks batch n
    split
    · exact triple_ret fun _ _ h => h
    · exact track_pause 80 done

theorem plans_preflight : ∀ points, Plans fence [] (preflight nativeBackend points)
  | [] => plans_done
  | point :: points => plans_tryThen (plans_silent (track_checkAt (some point))) fun _ => plans_preflight points

theorem plans_setPoint (point : Point) : Plans fence [] (setPoint point) :=
  plans_silent fun _ => triple_update fun _ _ h => ⟨h.fence, h.sent, h.inserted, h.pending⟩

theorem plans_dragMoves (started durationMs total : Nat) : ∀ (index : Nat) (points : List Point),
    Plans fence (points.map fun point => .move point.1 point.2) (dragMoves nativeBackend started durationMs total index points)
  | _, [] => plans_done
  | index, point :: points =>
    plans_tryThen (plans_silent (track_waitUntil track_checkHere _)) fun _ => plans_tryThen (plans_setPoint point) fun _ =>
      plans_tryThen (@plans_mutate _ [.move point.1 point.2] _ (Or.inl rfl)) fun _ =>
        plans_dragMoves started durationMs total (index + 1) points

/-- Each operation inserts its plan, or a part of it. -/
theorem Request.plans (request : Request) : Plans fence request.plan (request.body nativeBackend) := by
  unfold Request.plan Request.body
  cases request with
  | click point count button modifiers =>
    dsimp only
    unfold clickBody
    cases hkeys : checkedKeys modifiers true with
    | error reason =>
      dsimp only
      split
      · exact plans_refused _ _
      · exact plans_refused _ _
    | ok keys =>
      dsimp only
      split
      · exact plans_refused _ _
      · refine @plans_tryThen _ [] _ _ _ (plans_mutate (Or.inr rfl)) fun _ => plans_tryThen ?_ fun _ => plans_clicks _ count
        split
        · rename_i hempty
          rw [List.isEmpty_iff.mp hempty]
          exact plans_done
        · exact plans_mutate (Or.inl rfl)
  | drag points durationMs button =>
    dsimp only
    unfold dragBody
    split
    · exact plans_refused _ _
    · rw [List.append_assoc]
      refine @plans_tryThen _ [] _ _ _ (plans_preflight points) fun _ =>
        @plans_tryThen _ [] _ _ _ (plans_mutate (Or.inr rfl)) fun _ => plans_tryThen (plans_mutate (Or.inl rfl)) fun _ =>
          plans_andThen track_elapsedMs fun started => plans_tryThen (plans_dragMoves _ _ _ _ _) fun _ => plans_mutate (Or.inl rfl)
  | keypress names duration =>
    dsimp only
    unfold keypressBody
    cases hkeys : checkedKeys names false with
    | error reason => exact plans_refused _ _
    | ok keys =>
      cases duration with
      | none =>
        dsimp only
        split
        · exact plans_refused _ _
        · exact plans_mutate (Or.inl rfl)
      | some duration =>
        dsimp only
        split
        · exact plans_refused _ _
        · have hplan := plans_tryThen (@plans_mutate fence (keys.map fun key => .key key false) _ (Or.inl rfl)) fun _ =>
            plans_andThen track_elapsedMs fun now => plans_silent (track_waitUntil track_holdGuard (saturatingAdd now duration))
          rw [List.append_nil] at hplan
          exact hplan
  | text content =>
    dsimp only
    unfold textBody
    cases hevents : textEvents content with
    | error reason => exact plans_refused _ _
    | ok events => exact plans_mutate (Or.inl rfl)

/-! ### The end -/

/-- A transaction that has ended: some batches, and one cleanup if releases are due. -/
structure Ended (fence : WindowsPhysicalInputFence) (plan : List Event) (success : Prop) (t : NativeTransaction) (normal : List Dispatch)
    (cleanup : List Dispatch) : Prop where
  sent : dispatches t.backend = normal ++ cleanup
  plain : ∀ dispatch ∈ normal, dispatch.cleanup = false
  cleaned : (outstanding (insertedBy normal) = [] ∧ cleanup = []) ∨
    ∃ count, cleanup = [⟨true, (outstanding (insertedBy normal)).reverse, count⟩]
  success : success → insertedBy normal = plan ∧ (∀ dispatch ∈ cleanup, dispatch.inserted = dispatch.events.length) ∧
    ∃ earlier, t.backend = .check fence t.point false (.ok ()) :: earlier

/-- What the body of an operation leaves. -/
def Left (fence : WindowsPhysicalInputFence) (plan : List Event) (result : Except Reason Unit) (t : NativeTransaction) : Prop :=
  ∃ done, done <+: plan ∧ Track fence done t ∧ (result = .ok () → done = plan)

/-- The cleanup sends what is due. -/
theorem cleanup_ended {plan : List Event} {result : Except Reason Unit} (horderly : Orderly [] plan) :
    Triple (fun t _ => Left fence plan result t) (cleanup nativeBackend)
      (fun cleaned t _ => t.fence = fence ∧ ∃ normal cleanup, Ended fence plan False t normal cleanup ∧
        (result = .ok () → insertedBy normal = plan) ∧
        (cleaned = .ok () → ∀ dispatch ∈ cleanup, dispatch.inserted = dispatch.events.length)) fun _ => True := by
  refine triple_weaken (cleanup_spec (R := fun t => Left fence plan result t) (fun _ _ => trivial) ?_) (fun _ _ h => h) ?_
  · rintro t ⟨done, -, htrack, -⟩
    rw [htrack.pending]
    exact releases_settle (by simp)
  · rintro cleaned t _ (⟨⟨done, hpart, htrack, hplan⟩, hnone, -⟩ | ⟨t₀, count, ⟨done, hpart, htrack, hplan⟩, hsome, hcount, hrecord, hfence, -⟩)
    · have hsettled := settle_outstanding (horderly.initial hpart)
      rw [htrack.pending, hsettled] at hnone
      refine ⟨htrack.fence, dispatches t.backend, [], ⟨by rw [List.append_nil], htrack.sent, Or.inl ⟨?_, rfl⟩, False.elim⟩, fun hok => ?_, by simp⟩
      · rw [htrack.inserted]
        exact hnone
      · rw [htrack.inserted]
        exact hplan hok
    · have hsettled := settle_outstanding (horderly.initial hpart)
      have hdue : t₀.pendingReleases = outstanding (insertedBy (dispatches t₀.backend)) := by
        rw [htrack.pending, hsettled, htrack.inserted]
      refine ⟨hfence.trans htrack.fence, dispatches t₀.backend, [⟨true, t₀.pendingReleases.reverse, count⟩],
        ⟨?_, htrack.sent, Or.inr ⟨count, by rw [hdue]⟩, False.elim⟩, fun hok => ?_, fun hok dispatch hdispatch => ?_⟩
      · rw [hrecord]
        rfl
      · rw [htrack.inserted]
        exact hplan hok
      · rw [List.mem_singleton.mp hdispatch, hcount hok, List.length_reverse]

theorem finish_ended {plan : List Event} (horderly : Orderly [] plan) (result : Except Reason Unit) :
    Triple (fun t _ => Left fence plan result t) (finish nativeBackend result)
      (fun outcome t _ => ∃ normal cleanup, Ended fence plan (∃ o, outcome = .ok o) t normal cleanup) fun _ => True := by
  refine triple_andThen (cleanup_ended horderly) fun cleaned => ?_
  refine triple_andThen (R := fun checked t _ => ∃ normal cleanup, Ended fence plan (checked = .ok ()) t normal cleanup) ?_ fun checked => ?_
  · unfold postcheck
    split
    · refine triple_ret ?_
      rintro t _ ⟨-, normal, cleanup, hended, -⟩
      exact ⟨normal, cleanup, hended.sent, hended.plain, hended.cleaned, nofun⟩
    · refine triple_ret ?_
      rintro t _ ⟨-, normal, cleanup, hended, -⟩
      exact ⟨normal, cleanup, hended.sent, hended.plain, hended.cleaned, nofun⟩
    · refine triple_weaken (checkHere_spec fun _ _ => trivial) (fun _ _ h => h) ?_
      rintro checked t _ ⟨t₀, ⟨hfence, normal, cleanup, hended, hplan, hfull⟩, rfl⟩
      refine ⟨normal, cleanup, hended.sent, hended.plain, hended.cleaned, ?_⟩
      rintro rfl
      exact ⟨hplan rfl, hfull rfl, t₀.backend, by rw [← hfence]; rfl⟩
  · refine triple_read ?_
    rintro t _ ⟨normal, cleanup, hended⟩
    refine ⟨normal, cleanup, hended.sent, hended.plain, hended.cleaned, ?_⟩
    rintro ⟨outcome, houtcome⟩
    cases checked with
    | ok _ => exact hended.success rfl
    | error reason => cases houtcome

end Tracks

/-- When a guarded transaction has ended, its releases are inserted or requested. -/
theorem guarded_releases (request : Request) (fence : WindowsPhysicalInputFence) (script rest : List NativeAnswer)
    (result : Except WindowsGuardedInputError WindowsGuardedInputOutcome) (t : NativeTransaction)
    (h : request.run nativeBackend (request.begin [] fence) script = .done result t rest) :
    ∃ normal cleanup, dispatches t.backend = normal ++ cleanup ∧ (∀ dispatch ∈ normal, dispatch.cleanup = false) ∧
      ((outstanding (insertedBy normal) = [] ∧ cleanup = []) ∨
        ∃ count, cleanup = [⟨true, (outstanding (insertedBy normal)).reverse, count⟩]) ∧
      (∀ before press release after, insertedBy normal = before ++ press :: after → press.release = some release →
        release ∈ after ∨ ∃ dispatch ∈ cleanup, release ∈ dispatch.events) ∧
      ((∃ outcome, result = .ok outcome) → insertedBy normal = request.plan ∧
        (∀ dispatch ∈ cleanup, dispatch.inserted = dispatch.events.length) ∧
        ∃ earlier, t.backend = .check fence t.point false (.ok ()) :: earlier) := by
  have hbegin : Track fence [] (request.begin [] fence) := ⟨rfl, by simp [Request.begin, dispatches], rfl, rfl⟩
  have hended : ∃ normal cleanup, Ended fence request.plan (∃ outcome, result = .ok outcome) t normal cleanup := by
    have hrun : Triple (fun t _ => Track fence [] t) (request.run nativeBackend)
        (fun outcome t _ => ∃ normal cleanup, Ended fence request.plan (∃ o, outcome = .ok o) t normal cleanup) fun _ => True := by
      rw [request.run_eq]
      refine triple_andThen (R := fun result t _ => Left fence request.plan result t) ?_ (finish_ended request.plan_orderly)
      refine triple_weaken (request.plans []) (fun _ _ h => h) fun result t rest h => ?_
      cases result with
      | ok _ => exact ⟨request.plan, List.prefix_refl _, h, fun _ => rfl⟩
      | error reason =>
        obtain ⟨part, hpart, htrack⟩ := h
        exact ⟨part, hpart, htrack, nofun⟩
    have hran := hrun _ script hbegin
    rw [h] at hran
    exact hran
  obtain ⟨normal, cleanup, hended⟩ := hended
  refine ⟨normal, cleanup, hended.sent, hended.plain, hended.cleaned, fun before press release after hsplit hrelease => ?_, hended.success⟩
  refine (@released_or_outstanding before _ _ _ hrelease).imp_right fun hin => ?_
  rw [← hsplit] at hin
  rcases hended.cleaned with ⟨hnone, -⟩ | ⟨count, rfl⟩
  · rw [hnone] at hin
    cases hin
  · exact ⟨_, List.mem_singleton_self _, List.mem_reverse.mpr hin⟩

def sampleFence : WindowsPhysicalInputFence := ⟨9, 1, ⟨5, 6, 7, 0⟩, ⟨0, 0, 10, 10⟩, ⟨0, 0, 10, 10⟩, 96⟩

/-- A press is inserted, and its release is not. -/
theorem guarded_releases_press : ∃ normal cleanup, dispatches [.batch true [.unicode 97 true] 1,
      .batch false [.unicode 97 false, .unicode 97 true] 1, .check sampleFence none false (.ok ())] = normal ++ cleanup ∧
    ((outstanding (insertedBy normal) = [] ∧ cleanup = []) ∨
      ∃ count, cleanup = [⟨true, (outstanding (insertedBy normal)).reverse, count⟩]) := by
  obtain ⟨normal, cleanup, hsent, -, hcleaned, -⟩ := guarded_releases (.text "a") sampleFence [.check (.ok ()), .inserted 1, .inserted 1] []
    (.error ⟨.injectionIncomplete, ⟨.text, true, false, false, 2, 1, 1, 1, false, false, true⟩⟩)
    ⟨_, sampleFence, none, ⟨.text, true, false, false, 2, 1, 1, 1, false, false, true⟩, []⟩ rfl
  exact ⟨normal, cleanup, hsent, hcleaned⟩

end PhysicalInput
end DccCua
