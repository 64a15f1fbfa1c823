import DccCua.Core.DragSequences

/-! # Drags release what they press

The calls of a drag are few: up to the release each of its ways has one record, and the outcome is compared with it. -/

namespace DccCua
namespace DragSequences

open Calls Runs Script

/-! ### The combined-down drag -/

namespace CombinedCall
variable {T P E : Type}

def isRelease : CombinedCall T P E → Bool
  | .leftUp _ => true
  | _ => false

/-- Both events of the press were inserted. -/
def presses : CombinedCall T P E → Bool
  | .injectMoveAndLeftDown injection => injection.inserted = 2
  | _ => false

/-- The phase of a call that failed, up to the release. -/
def failurePhase : CombinedCall T P E → Option String
  | .inspectPreBatch (.error _) => some "pre_batch_target_fence"
  | .allowsBatchInjection false => some "pre_batch_fence"
  | .injectMoveAndLeftDown injection => if injection.wasAccepted then none else some "combined_move_down_batch"
  | .inspectAfterDown _ (.error _) => some "after_button_down_probe"
  | .allowsDragPath false => some "after_button_down_fence"
  | .moveAbsolutePath (.error _) => some "absolute_path"
  | _ => none

/-- The phase of a call that failed, from the release on. -/
def cleanupFailurePhase : CombinedCall T P E → Option String
  | .leftUp release => if release.wasAccepted then none else some "button_up_injection"
  | .inspectPostUp (.error _) => some "post_button_up_probe"
  | .postUpAllowsRelease false => some "post_button_up_fence"
  | _ => none

/-- A press, with the fence before it and the fence after it passed. -/
def FencesPassed (earlier : List (CombinedCall T P E)) : Prop :=
  ∃ preBatch afterDown injection, injection.wasAccepted = true ∧
    earlier = [.settle rawDragPreDownSettle, .allowsDragPath true, .inspectAfterDown injection.inserted (.ok afterDown),
      .injectMoveAndLeftDown injection, .allowsBatchInjection true, .inspectPreBatch (.ok preBatch)]

/-- What a release and a path need. -/
def Permitted : CombinedCall T P E → List (CombinedCall T P E) → Prop
  | .leftUp _, earlier => earlier.any presses = true
  | .moveAbsolutePath _, earlier => FencesPassed earlier
  | _, _ => True

end CombinedCall

open CombinedCall

section Combined
variable {κ T P E : Type} {env : CombinedClosures κ T P E} {outcome : CombinedDownDragSequenceOutcome T P E}

/-- The outcome of a drag matches its calls. -/
structure Matches (outcome : CombinedDownDragSequenceOutcome T P E) (calls : List (CombinedCall T P E)) : Prop where
  releases : calls.countP isRelease = if calls.any presses then 1 else 0
  grounded : Justified Permitted calls
  failure : outcome.failurePhase = firstOf CombinedCall.failurePhase calls
  cleanup : outcome.cleanupFailurePhase = firstOf CombinedCall.cleanupFailurePhase calls

/-- It matches the calls up to the release that is due. -/
structure Owes (outcome : CombinedDownDragSequenceOutcome T P E) (calls : List (CombinedCall T P E)) : Prop where
  unreleased : calls.countP isRelease = 0
  pressed : calls.any presses = true
  grounded : Justified Permitted calls
  failure : outcome.failurePhase = firstOf CombinedCall.failurePhase calls
  cleanup : outcome.cleanupFailurePhase = none ∧ firstOf CombinedCall.cleanupFailurePhase calls = none

/-- It matches the calls up to the release that was made. -/
structure Pays (release : SingleInputInjection E) (outcome : CombinedDownDragSequenceOutcome T P E)
    (calls : List (CombinedCall T P E)) : Prop where
  released : calls.countP isRelease = 1
  pressed : calls.any presses = true
  grounded : Justified Permitted calls
  failure : outcome.failurePhase = firstOf CombinedCall.failurePhase calls
  cleanup : (outcome.released release).cleanupFailurePhase = firstOf CombinedCall.cleanupFailurePhase calls

theorem Owes.release {calls : List (CombinedCall T P E)} (h : Owes outcome calls) (release : SingleInputInjection E) :
    Pays release outcome (.leftUp release :: calls) where
  released := by rw [List.countP_cons_of_pos rfl, h.unreleased]
  pressed := by rw [List.any_cons, h.pressed, Bool.or_true]
  grounded := h.grounded.cons h.pressed
  failure := by rw [firstOf_cons, ← h.failure]; exact (Option.or_none).symm
  cleanup := by
    rw [firstOf_cons, h.cleanup.2, Option.none_or, CombinedDownDragSequenceOutcome.released, h.cleanup.1]
    cases hrelease : release.wasAccepted <;> simp [CombinedCall.cleanupFailurePhase, hrelease]

theorem Pays.settle {release : SingleInputInjection E} {calls : List (CombinedCall T P E)} (h : Pays release outcome calls) (ms : Nat) :
    Pays release outcome (.settle ms :: calls) where
  released := by rw [List.countP_cons_of_neg (by simp [isRelease]), h.released]
  pressed := by rw [List.any_cons, h.pressed, Bool.or_true]
  grounded := justified_cons_iff.mpr ⟨trivial, h.grounded⟩
  failure := by rw [firstOf_cons, ← h.failure]; exact (Option.or_none).symm
  cleanup := by rw [firstOf_cons, ← h.cleanup]; exact (Option.or_none).symm

theorem Pays.inspect_ok {release : SingleInputInjection E} {calls : List (CombinedCall T P E)} (h : Pays release outcome calls)
    (postUp : P) (released : Bool) :
    Matches { outcome.released release with
      postUp := some postUp
      postUpReleased := some released
      cleanupFailurePhase :=
        if !released && (outcome.released release).cleanupFailurePhase.isNone then some "post_button_up_fence"
        else (outcome.released release).cleanupFailurePhase }
      (.postUpAllowsRelease released :: .inspectPostUp (.ok postUp) :: calls) where
  releases := by simp [isRelease, presses, h.released, h.pressed]
  grounded := justified_cons_iff.mpr ⟨trivial, justified_cons_iff.mpr ⟨trivial, h.grounded⟩⟩
  failure := by simp [CombinedCall.failurePhase, ← h.failure, CombinedDownDragSequenceOutcome.released]
  cleanup := by
    rw [firstOf_cons, firstOf_cons, ← h.cleanup]
    cases released <;> cases (outcome.released release).cleanupFailurePhase <;> rfl

theorem Pays.inspect_error {release : SingleInputInjection E} {calls : List (CombinedCall T P E)} (h : Pays release outcome calls)
    (error : E) :
    Matches { outcome.released release with
      postUpError := some error
      cleanupFailurePhase :=
        if (outcome.released release).cleanupFailurePhase.isNone then some "post_button_up_probe"
        else (outcome.released release).cleanupFailurePhase }
      (.inspectPostUp (.error error) :: calls) where
  releases := by simp [isRelease, presses, h.released, h.pressed]
  grounded := justified_cons_iff.mpr ⟨trivial, h.grounded⟩
  failure := by simp [CombinedCall.failurePhase, ← h.failure, CombinedDownDragSequenceOutcome.released]
  cleanup := by
    rw [firstOf_cons, ← h.cleanup]
    cases (outcome.released release).cleanupFailurePhase <;> rfl

theorem finish_spec : Does (Owes outcome) (finishCombinedDownDragWithRelease env outcome) Matches := by
  refine does_andThen (does_call fun _ release h => h.release release) fun release => ?_
  refine does_andThen (R := fun _ => Pays release outcome) ?_ fun _ => ?_
  · split
    · exact does_note fun _ h => h.settle _
    · exact does_ret fun _ h => h
  -- The probe after the release is recorded with its answer.
  refine does_andThen (R := fun result record => ∃ calls, Pays release outcome calls ∧ record = .inspectPostUp result :: calls)
    (does_call fun record _ h => ⟨record, h, rfl⟩) fun result => does_exists fun calls => ?_
  rcases result with error | postUp
  · refine does_ret fun record ⟨h, hrecord⟩ => ?_
    rw [hrecord]
    exact h.inspect_error error
  · refine does_andThen (does_call (Q := fun released record => Matches _ record) fun record released ⟨h, hrecord⟩ => ?_)
      fun released => does_ret fun _ h => h
    rw [hrecord]
    exact h.inspect_ok postUp released

section Moves
variable {injection : CombinedDownInjection E} {preBatch : T}

/-- The calls up to the press. -/
def pressCalls (preBatch : T) (injection : CombinedDownInjection E) : List (CombinedCall T P E) :=
  [.injectMoveAndLeftDown injection, .allowsBatchInjection true, .inspectPreBatch (.ok preBatch)]

/-- The calls up to the path. -/
def movedCalls (afterDown preBatch : T) (injection : CombinedDownInjection E) : List (CombinedCall T P E) :=
  [.settle rawDragPreDownSettle, .allowsDragPath true, .inspectAfterDown injection.inserted (.ok afterDown)] ++ pressCalls preBatch injection

theorem justified_pressCalls : Justified Permitted (pressCalls preBatch injection : List (CombinedCall T P E)) := by
  simp [justified_cons_iff, justified_nil, Permitted, pressCalls]

theorem justified_movedCalls {afterDown : T} :
    Justified Permitted (movedCalls afterDown preBatch injection : List (CombinedCall T P E)) := by
  simp [justified_cons_iff, justified_nil, Permitted, movedCalls, pressCalls]

theorem inserted_of_wasAccepted (h : injection.wasAccepted = true) : injection.inserted = 2 := by
  simp only [CombinedDownInjection.wasAccepted, Bool.and_eq_true, decide_eq_true_eq] at h
  exact h.1

/-- A release is due after a press, whatever of the calls after it fails first. -/
theorem owes_after_press (calls : List (CombinedCall T P E)) (hinserted : injection.inserted = 2)
    (hcalls : calls.countP isRelease = 0) (hgrounded : Justified Permitted (calls ++ pressCalls preBatch injection))
    (hfailure : outcome.failurePhase = firstOf CombinedCall.failurePhase (calls ++ pressCalls preBatch injection))
    (hcleanup : outcome.cleanupFailurePhase = none ∧ firstOf CombinedCall.cleanupFailurePhase calls = none) :
    Owes outcome (calls ++ pressCalls preBatch injection) where
  unreleased := by simp [List.countP_append, hcalls, pressCalls, isRelease]
  pressed := by simp [pressCalls, presses, hinserted]
  grounded := hgrounded
  failure := hfailure
  cleanup := ⟨hcleanup.1, by
    have hpress : firstOf CombinedCall.cleanupFailurePhase (pressCalls preBatch injection : List (CombinedCall T P E)) = none := rfl
    simp only [firstOf, List.reverse_append, List.findSome?_append] at hpress ⊢
    rw [hpress, Option.none_or]
    exact hcleanup.2⟩

/-- The part that follows an accepted press. -/
theorem move_spec (haccepted : injection.wasAccepted = true)
    (hfailure : outcome.failurePhase = none) (hcleanup : outcome.cleanupFailurePhase = none) :
    Does (fun calls => calls = pressCalls preBatch injection) (moveCombined env injection.inserted outcome) Matches := by
  have hinserted := inserted_of_wasAccepted haccepted
  refine does_andThen (R := fun result calls => calls = [.inspectAfterDown injection.inserted result] ++ pressCalls preBatch injection)
    (does_call fun _ result h => by rw [h]; rfl) fun result => ?_
  rcases result with error | afterDown
  · refine does_weaken finish_spec (fun record h => ?_) fun _ _ h => h
    rw [h]
    refine owes_after_press _ hinserted rfl (justified_cons_iff.mpr ⟨trivial, justified_pressCalls⟩) ?_ ⟨hcleanup, rfl⟩
    simp [pressCalls, CombinedCall.failurePhase, haccepted]
  refine does_andThen (R := fun allowed calls =>
    calls = [.allowsDragPath allowed, .inspectAfterDown injection.inserted (.ok afterDown)] ++ pressCalls preBatch injection)
    (does_call fun _ allowed h => by rw [h]; rfl) fun allowed => ?_
  cases allowed with
  | false =>
    refine does_weaken finish_spec (fun record h => ?_) fun _ _ h => h
    rw [h]
    refine owes_after_press _ hinserted rfl ?_ ?_ ⟨hcleanup, rfl⟩
    · exact justified_cons_iff.mpr ⟨trivial, justified_cons_iff.mpr ⟨trivial, justified_pressCalls⟩⟩
    · simp [pressCalls, CombinedCall.failurePhase, haccepted]
  | true =>
    simp only [Bool.not_true, Bool.false_eq_true, ↓reduceIte]
    refine does_andThen (R := fun _ calls => calls = movedCalls afterDown preBatch injection)
      (does_note fun _ h => by rw [h]; rfl) fun _ => ?_
    refine does_andThen (R := fun result calls => calls = .moveAbsolutePath result :: movedCalls afterDown preBatch injection)
      (does_call fun _ result h => by rw [h]) fun result => ?_
    have hmoved : ∀ result : Except E Unit,
        Justified Permitted (.moveAbsolutePath result :: movedCalls afterDown preBatch injection : List (CombinedCall T P E)) :=
      fun _ => justified_cons_iff.mpr ⟨⟨preBatch, afterDown, injection, haccepted, rfl⟩, justified_movedCalls⟩
    rcases result with error | _
    · refine does_weaken finish_spec (fun record h => ?_) fun _ _ h => h
      rw [h]
      refine owes_after_press (.moveAbsolutePath _ :: _) hinserted rfl (hmoved _) ?_ ⟨hcleanup, rfl⟩
      simp [pressCalls, CombinedCall.failurePhase, haccepted]
    · refine does_andThen (R := fun _ calls =>
        calls = .settle rawDragDropSettle :: .moveAbsolutePath (.ok ()) :: movedCalls afterDown preBatch injection)
        (does_note fun _ h => by rw [h]) fun _ => ?_
      refine does_weaken finish_spec (fun record h => ?_) fun _ _ h => h
      rw [h]
      refine owes_after_press (.settle _ :: .moveAbsolutePath _ :: _) hinserted rfl
        (justified_cons_iff.mpr ⟨trivial, hmoved _⟩) ?_ ⟨hcleanup, rfl⟩
      simp [pressCalls, CombinedCall.failurePhase, haccepted, hfailure]

end Moves

/-- The outcome of the combined-down drag matches its calls. -/
theorem combined_matches (env : CombinedClosures κ T P E) : Yields (runCombinedDownDragSequence env) Matches := by
  unfold Yields runCombinedDownDragSequence
  refine does_andThen (R := fun result calls => calls = [.inspectPreBatch result]) (does_call fun _ _ h => by rw [h]) fun result => ?_
  rcases result with error | preBatch
  · refine does_ret fun record h => ?_
    rw [h]
    exact ⟨rfl, justified_cons_iff.mpr ⟨trivial, justified_nil⟩, rfl, rfl⟩
  refine does_andThen (R := fun allowed calls => calls = [.allowsBatchInjection allowed, .inspectPreBatch (.ok preBatch)])
    (does_call fun _ _ h => by rw [h]) fun allowed => ?_
  cases allowed with
  | false =>
    refine does_ret fun record h => ?_
    rw [h]
    exact ⟨rfl, justified_cons_iff.mpr ⟨trivial, justified_cons_iff.mpr ⟨trivial, justified_nil⟩⟩, rfl, rfl⟩
  | true =>
    simp only [Bool.not_true, Bool.false_eq_true, ↓reduceIte]
    refine does_andThen (R := fun injection calls => calls = pressCalls preBatch injection)
      (does_call fun _ _ h => by rw [h]; rfl) fun injection => ?_
    cases haccepted : injection.wasAccepted with
    | true =>
      simp only [Bool.not_true, Bool.false_eq_true, ↓reduceIte]
      exact move_spec haccepted rfl rfl
    | false =>
      simp only [Bool.not_false, ↓reduceIte]
      cases howns : injection.ownsButtonDown with
      | true =>
        simp only [↓reduceIte]
        refine does_weaken finish_spec (fun record h => ?_) fun _ _ h => h
        rw [h]
        refine owes_after_press [] (of_decide_eq_true howns) rfl justified_pressCalls ?_ ⟨rfl, rfl⟩
        simp [pressCalls, CombinedCall.failurePhase, haccepted]
      | false =>
        simp only [Bool.false_eq_true, ↓reduceIte]
        refine does_ret fun record h => ?_
        rw [h]
        refine ⟨?_, justified_pressCalls, ?_, rfl⟩
        · have hpresses : injection.inserted ≠ 2 := of_decide_eq_false howns
          simp [pressCalls, isRelease, presses, hpresses]
        · simp [pressCalls, CombinedCall.failurePhase, haccepted]

end Combined

/-! ### The separated drag -/

namespace SeparatedCall
variable {T E : Type}

def isRelease : SeparatedCall T E → Bool
  | .up _ => true
  | _ => false

def presses : SeparatedCall T E → Bool
  | .down (.ok _) => true
  | _ => false

/-- What a release needs. -/
def Permitted : SeparatedCall T E → List (SeparatedCall T E) → Prop
  | .up _, earlier => earlier.any presses = true
  | _, _ => True

end SeparatedCall

section Separated
variable {κ T E : Type} {env : SeparatedClosures κ T E}

/-- A press is released once, and nothing else is. -/
structure Releases (calls : List (SeparatedCall T E)) : Prop where
  count : calls.countP SeparatedCall.isRelease = if calls.any SeparatedCall.presses then 1 else 0
  justified : Justified SeparatedCall.Permitted calls

/-- A press is to be released. -/
structure Pressed (calls : List (SeparatedCall T E)) : Prop where
  unreleased : calls.countP SeparatedCall.isRelease = 0
  pressed : calls.any SeparatedCall.presses = true
  justified : Justified SeparatedCall.Permitted calls

theorem Pressed.up {calls : List (SeparatedCall T E)} (h : Pressed calls) (result : Except E Unit) : Releases (.up result :: calls) where
  count := by rw [List.countP_cons_of_pos rfl, h.unreleased, List.any_cons, h.pressed, Bool.or_true, if_pos rfl]
  justified := h.justified.cons h.pressed

/-- A call that neither presses nor releases changes nothing of it. -/
theorem Pressed.other {calls : List (SeparatedCall T E)} (h : Pressed calls) {c : SeparatedCall T E} (hc : c.isRelease = false) :
    Pressed (c :: calls) where
  unreleased := by rw [List.countP_cons_of_neg (by simp [hc]), h.unreleased]
  pressed := by rw [List.any_cons, h.pressed, Bool.or_true]
  justified := h.justified.cons (by
    cases c with
    | up result => cases hc
    | _ => trivial)

theorem Releases.settle {calls : List (SeparatedCall T E)} (h : Releases calls) (ms : Nat) : Releases (.settle ms :: calls) where
  count := by simp [SeparatedCall.isRelease, SeparatedCall.presses, h.count]
  justified := justified_cons_iff.mpr ⟨trivial, h.justified⟩

theorem releaseSeparated_spec : Does Pressed (releaseSeparated env) fun _ => Releases := by
  refine does_andThen (does_call fun _ result h => h.up result) fun result => ?_
  refine does_andThen (R := fun _ => Releases) ?_ fun _ => does_ret fun _ h => h
  split
  · exact does_note fun _ h => h.settle _
  · exact does_ret fun _ h => h

theorem separated_releases (env : SeparatedClosures κ T E) : Yields (runSeparatedRawDragSequence env) fun _ => Releases := by
  unfold Yields runSeparatedRawDragSequence
  refine does_tryThen (does_tryCall (R := fun _ calls => calls = [.sourceMove (.ok ())]) (fun _ _ h => by rw [h]) fun _ _ h => ?_)
    fun _ => ?_
  · rw [h]
    exact ⟨rfl, justified_cons_iff.mpr ⟨trivial, justified_nil⟩⟩
  refine does_andThen (R := fun _ calls => calls = [.settle rawDragPreDownSettle, .sourceMove (.ok ())]) (does_note fun _ h => by rw [h])
    fun _ => ?_
  refine does_tryThen (does_tryCall (R := fun _ => Pressed) (fun _ _ h => ?_) fun _ _ h => ?_) fun inserted => ?_
  · rw [h]
    exact ⟨rfl, rfl, justified_cons_iff.mpr ⟨trivial, justified_cons_iff.mpr ⟨trivial, justified_cons_iff.mpr ⟨trivial, justified_nil⟩⟩⟩⟩
  · rw [h]
    exact ⟨rfl, justified_cons_iff.mpr ⟨trivial, justified_cons_iff.mpr ⟨trivial, justified_cons_iff.mpr ⟨trivial, justified_nil⟩⟩⟩⟩
  refine does_andThen (does_call fun _ _ h => h.other rfl) fun trace => ?_
  refine does_andThen (does_call (Q := fun _ => Pressed) fun _ _ h => h.other rfl) fun allowed => ?_
  split
  · exact does_andThen releaseSeparated_spec fun _ => does_ret fun _ h => h
  · refine does_andThen (R := fun _ => Pressed) (does_note fun _ h => h.other rfl) fun _ => ?_
    refine does_andThen (R := fun _ => Pressed) (does_call fun _ _ h => h.other rfl) fun path => ?_
    refine does_andThen (R := fun _ => Pressed) ?_ fun _ => ?_
    · split
      · exact does_note fun _ h => h.other rfl
      · exact does_ret fun _ h => h
    · exact does_andThen releaseSeparated_spec fun _ => does_ret fun _ h => h

end Separated

/-- A drag releases the button once when its press was inserted and not at all otherwise; its path follows both fences, and
its phases name the first step that failed. -/
theorem drag_release_once {κ T P E : Type} :
    (∀ env : CombinedClosures κ T P E, Yields (runCombinedDownDragSequence env) Matches) ∧
      ∀ env : SeparatedClosures κ T E, Yields (runSeparatedRawDragSequence env) fun _ => Releases :=
  ⟨combined_matches, separated_releases⟩

end DragSequences
end DccCua
