import DccCua.Windows.RestoreActivate

/-! # Requests to restore and to activate follow reads

The record of the sequence is justified: before each call nothing has failed and every read has shown the instance of the
first one, and directly before a request are the read that asks for it and the gate. -/

namespace DccCua
namespace RestoreActivate

open Calls Checks Runs Script

inductive Request where
  | restore (stage : RestoreStage)
  | activate
  deriving DecidableEq, Repr

namespace Request

/-- The state that a request needs. -/
def Ready (state : ExactWindowNativeState) : Request → Prop
  | .restore stage => stage.required state = true
  | .activate => state.minimized = false ∧ state.maximized = false ∧ state.visible = true

/-- The gate of a request, passed. -/
def gate : Request → RestoreCall
  | .restore _ => .restoreAvailable (.ok ())
  | .activate => .activateAvailable (.ok ())

end Request

namespace RestoreCall

def request : RestoreCall → Option Request
  | .restore stage _ => some (.restore stage)
  | .activate _ => some .activate
  | _ => none

def isRestore : RestoreCall → Bool
  | .restore _ _ => true
  | _ => false

def isActivate : RestoreCall → Bool
  | .activate _ => true
  | _ => false

/-- The instance that a read shows. -/
def shown : RestoreCall → Option ExactWindowPixelInstanceEvidence
  | .read (.ok state) => some state.instanceEvidence
  | _ => none

end RestoreCall

/-- The instance that the first read has shown. -/
def firstShown (record : List RestoreCall) : Option ExactWindowPixelInstanceEvidence := record.reverse.findSome? RestoreCall.shown

theorem firstShown_cons {c : RestoreCall} {record : List RestoreCall} :
    firstShown (c :: record) = (firstShown record).or c.shown := by
  simp [firstShown, List.findSome?_append]

section
variable {target : UiaTarget} {expected : ExactWindowPixelInstanceEvidence}

/-- The state is one of the window and its instance. -/
def Same (target : UiaTarget) (expected : ExactWindowPixelInstanceEvidence) (state : ExactWindowNativeState) : Prop :=
  validateInstance target expected state = .ok ()

theorem same_iff {state : ExactWindowNativeState} : Same target expected state ↔
    target.processId ≠ 0 ∧ target.windowHandle ≠ 0 ∧ expected.processCreationTime ≠ 0 ∧ expected.windowThreadId ≠ 0 ∧
      state.processId = target.processId ∧ state.windowHandle = target.windowHandle ∧ state.instanceEvidence = expected := by
  simp [Same, validateInstance, require_eq_ok, and_assoc]

/-- The call has not failed, and a read has shown the instance. -/
def Fine (target : UiaTarget) (expected : ExactWindowPixelInstanceEvidence) : RestoreCall → Prop
  | .restoreAvailable result => result = .ok ()
  | .activateAvailable result => result = .ok ()
  | .read result => ∃ state, result = .ok state ∧ Same target expected state
  | .restore _ result => result = .ok ()
  | .activate result => result = .ok ()
  | .wait => True

def Allowed (target : UiaTarget) (expected : ExactWindowPixelInstanceEvidence) (c : RestoreCall) (earlier : List RestoreCall) : Prop :=
  (∀ before ∈ earlier, Fine target expected before) ∧
  ∀ request, c.request = some request →
    (∃ state rest, earlier = request.gate :: .read (.ok state) :: rest ∧ Same target expected state ∧ request.Ready state) ∧
    ∀ before ∈ earlier, before.request ≠ some request

structure Sound (target : UiaTarget) (expected : ExactWindowPixelInstanceEvidence) (record : List RestoreCall) : Prop where
  justified : Justified (Allowed target expected) record
  first : ∀ shown, firstShown record = some shown → shown = expected

/-- Nothing has failed, and no requests but some have been made. -/
structure Going (target : UiaTarget) (expected : ExactWindowPixelInstanceEvidence) (made : List Request) (record : List RestoreCall) :
    Prop where
  justified : Justified (Allowed target expected) record
  first : firstShown record = some expected
  fine : ∀ c ∈ record, Fine target expected c
  requests : ∀ c ∈ record, ∀ request, c.request = some request → request ∈ made

variable {made : List Request} {record : List RestoreCall} {c : RestoreCall}

theorem Going.sound (h : Going target expected made record) : Sound target expected record where
  justified := h.justified
  first shown hshown := Option.some.inj (hshown.symm.trans h.first)

theorem Going.first_cons (h : Going target expected made record) : firstShown (c :: record) = some expected := by
  rw [firstShown_cons, h.first, Option.some_or]

theorem Going.mono {more : List Request} (h : Going target expected made record) (hmore : made ⊆ more) : Going target expected more record :=
  { h with requests := fun c hc request hrequest => hmore (h.requests c hc request hrequest) }

/-- A call that is no request may always be made. -/
theorem Going.justified_look (h : Going target expected made record) (hlook : c.request = none) :
    Justified (Allowed target expected) (c :: record) := by
  refine h.justified.cons ⟨h.fine, fun request hrequest => ?_⟩
  rw [hlook] at hrequest
  cases hrequest

theorem Going.sound_look (h : Going target expected made record) (hlook : c.request = none) : Sound target expected (c :: record) where
  justified := h.justified_look hlook
  first shown hshown := Option.some.inj (hshown.symm.trans h.first_cons)

theorem Going.look (h : Going target expected made record) (hlook : c.request = none) (hfine : Fine target expected c) :
    Going target expected made (c :: record) where
  justified := h.justified_look hlook
  first := h.first_cons
  fine := List.forall_mem_cons.mpr ⟨hfine, h.fine⟩
  requests := by
    refine List.forall_mem_cons.mpr ⟨fun request hrequest => ?_, h.requests⟩
    rw [hlook] at hrequest
    cases hrequest

/-- A request after its read and its gate. -/
theorem Going.justified_request (h : Going target expected made record) {request : Request} (hrequest : c.request = some request)
    (hnew : request ∉ made) {state : ExactWindowNativeState} {rest : List RestoreCall} (hrecord : record = request.gate :: .read (.ok state) :: rest)
    (hsame : Same target expected state) (hready : request.Ready state) : Justified (Allowed target expected) (c :: record) := by
  refine h.justified.cons ⟨h.fine, fun request' hrequest' => ?_⟩
  obtain rfl := Option.some.inj (hrequest.symm.trans hrequest')
  exact ⟨⟨state, rest, hrecord, hsame, hready⟩, fun before hbefore hsame => hnew (h.requests before hbefore request hsame)⟩

theorem Going.requested (h : Going target expected made record) {request : Request} (hrequest : c.request = some request)
    (hjustified : Justified (Allowed target expected) (c :: record)) (hfine : Fine target expected c) :
    Going target expected (request :: made) (c :: record) where
  justified := hjustified
  first := h.first_cons
  fine := List.forall_mem_cons.mpr ⟨hfine, h.fine⟩
  requests := by
    refine List.forall_mem_cons.mpr ⟨fun request' hrequest' => ?_, fun b hb request' hrequest' => ?_⟩
    · obtain rfl := Option.some.inj (hrequest.symm.trans hrequest')
      exact List.mem_cons_self
    · exact List.mem_cons_of_mem _ (h.requests b hb request' hrequest')

/-! ### The parts of the sequence -/

variable {κ : Type} {env : RestoreClosures κ}

/-- The last call is a read of the instance. -/
def ReadSame (target : UiaTarget) (expected : ExactWindowPixelInstanceEvidence) (state : ExactWindowNativeState) (record : List RestoreCall) :
    Prop :=
  Same target expected state ∧ ∃ rest, record = .read (.ok state) :: rest

theorem does_gate {closure : κ → Except UiaError Unit × κ} {entry : Except UiaError Unit → RestoreCall} {P : List RestoreCall → Prop}
    (hlook : ∀ result, (entry result).request = none) (hfine : Fine target expected (entry (.ok ()))) :
    Does (fun record => Going target expected made record ∧ P record) (call closure entry)
      (either (fun _ record => Going target expected made record ∧ ∃ rest, P rest ∧ record = entry (.ok ()) :: rest)
        fun _ record => Sound target expected record) := by
  refine does_tryCall (fun record u h => ?_) fun record e h => h.1.sound_look (hlook _)
  exact ⟨h.1.look (hlook _) hfine, record, h.2, rfl⟩

theorem does_readInstance : Does (fun record => Going target expected made record) (readInstance env target expected)
    (either (fun state record => Going target expected made record ∧ ReadSame target expected state record)
      fun _ record => Sound target expected record) := by
  refine does_tryThen (R := fun state record => Sound target expected record ∧ (Same target expected state →
    Going target expected made record ∧ ReadSame target expected state record)) ?_ fun state => ?_
  · refine does_tryCall (fun record state h => ⟨h.sound_look rfl, fun hsame => ?_⟩) fun record e h => h.sound_look rfl
    exact ⟨h.look rfl ⟨state, rfl, hsame⟩, hsame, record, rfl⟩
  · refine does_tryThen (does_check (R := fun _ record => Going target expected made record ∧ ReadSame target expected state record)
      (fun record _ hsame h => h.2 hsame) fun record e h => h.1) fun _ => does_ret fun record h => h

theorem does_readback {stage : RestoreStage} : ∀ left, Does (fun record => Going target expected made record)
    (readback env target stage expected left)
    (either (fun _ record => Going target expected made record) fun _ record => Sound target expected record)
  | 0 => does_ret fun record h => h.sound
  | left + 1 => by
    refine does_tryThen (does_weaken (does_gate (P := fun _ => True) (fun _ => rfl) rfl) (fun _ h => ⟨h, trivial⟩) fun _ _ h => h) fun _ => ?_
    refine does_tryThen (does_weaken does_readInstance (fun _ h => h.1) fun _ _ h => h) fun current => ?_
    split
    · exact does_ret fun record h => h.1
    · refine does_andThen (R := fun _ record => Going target expected made record) ?_ fun _ => does_readback left
      split
      · exact does_ret fun record h => h.1
      · exact does_note fun record h => h.1.look rfl trivial

theorem does_runStage {stage : RestoreStage} {current : ExactWindowNativeState} (hnew : .restore stage ∉ made) :
    Does (fun record => Going target expected made record) (runStage env target expected stage current)
      (either (fun _ record => Going target expected (.restore stage :: made) record) fun _ record => Sound target expected record) := by
  have hmore : made ⊆ .restore stage :: made := List.subset_cons_self _ _
  unfold runStage
  split
  · exact does_ret fun record h => h.mono hmore
  · refine does_tryThen (does_weaken (does_gate (P := fun _ => True) (fun _ => rfl) rfl) (fun _ h => ⟨h, trivial⟩) fun _ _ h => h) fun _ => ?_
    refine does_tryThen (does_weaken does_readInstance (fun _ h => h.1) fun _ _ h => h) fun current => ?_
    split
    · exact does_ret fun record h => h.1.mono hmore
    · rename_i hrequired
      rw [Bool.not_eq_true, Bool.not_eq_false'] at hrequired
      refine does_tryThen (does_gate (fun _ => rfl) rfl) fun _ => ?_
      refine does_tryThen (R := fun _ record => Going target expected (.restore stage :: made) record) ?_ fun _ => does_readback _
      have hjustified : ∀ record result, Going target expected made record ∧ (∃ rest, ReadSame target expected current rest ∧
          record = .restoreAvailable (.ok ()) :: rest) → Justified (Allowed target expected) (.restore stage result :: record) := by
        rintro record result ⟨h, _, ⟨hsame, rest, rfl⟩, hrecord⟩
        exact h.justified_request rfl hnew hrecord hsame hrequired
      refine does_tryCall (fun record u h => ?_) fun record e h => ?_
      · exact h.1.requested rfl (hjustified record _ h) rfl
      · exact ⟨hjustified record _ h, fun shown hshown => Option.some.inj (hshown.symm.trans h.1.first_cons)⟩

/-- The last read shows the window restored, visible and in the foreground. -/
def Finished (target : UiaTarget) (expected : ExactWindowPixelInstanceEvidence) (state : ExactWindowNativeState) (record : List RestoreCall) :
    Prop :=
  (∃ rest, record = .activateAvailable (.ok ()) :: .read (.ok state) :: rest) ∧ Same target expected state ∧
    state.minimized = false ∧ state.maximized = false ∧ state.visible = true ∧ state.foreground = true

theorem does_activateRestored (hnew : .activate ∉ made) :
    Does (fun record => Going target expected made record) (activateRestored env target expected)
      (either (fun state record => Going target expected (.activate :: made) record ∧ Finished target expected state record)
        fun _ record => Sound target expected record) := by
  refine does_tryThen (does_weaken (does_gate (P := fun _ => True) (fun _ => rfl) rfl) (fun _ h => ⟨h, trivial⟩) fun _ _ h => h) fun _ => ?_
  refine does_tryThen (does_weaken does_readInstance (fun _ h => h.1) fun _ _ h => h) fun restored => ?_
  refine does_tryThen (does_check (R := fun _ record => Going target expected made record ∧ (ReadSame target expected restored record ∧
    Request.activate.Ready restored)) (fun record _ hready h => ⟨h.1, h.2, ?_⟩) fun record _ h => h.1.sound) fun _ => ?_
  · simpa [require_eq_ok, Request.Ready, and_assoc] using hready
  refine does_tryThen (does_gate (fun _ => rfl) rfl) fun _ => ?_
  refine does_tryThen (R := fun _ record => Going target expected (.activate :: made) record) ?_ fun _ => ?_
  · have hjustified : ∀ record result, Going target expected made record ∧ (∃ rest, (ReadSame target expected restored rest ∧
        Request.activate.Ready restored) ∧ record = .activateAvailable (.ok ()) :: rest) →
        Justified (Allowed target expected) (.activate result :: record) := by
      rintro record result ⟨h, _, ⟨⟨hsame, rest, rfl⟩, hready⟩, hrecord⟩
      exact h.justified_request rfl hnew hrecord hsame hready
    refine does_tryCall (fun record u h => ?_) fun record e h => ?_
    · exact h.1.requested rfl (hjustified record _ h) rfl
    · exact ⟨hjustified record _ h, fun shown hshown => Option.some.inj (hshown.symm.trans h.1.first_cons)⟩
  · refine does_tryThen does_readInstance fun final => ?_
    refine does_tryThen (does_gate (fun _ => rfl) rfl) fun _ => ?_
    refine does_tryThen (does_check (R := fun _ record => Going target expected (.activate :: made) record ∧ Finished target expected final record)
      (fun record _ hfinal h => ?_) fun record _ h => h.1.sound) fun _ => does_ret fun record h => h
    obtain ⟨hgoing, _, ⟨hsame, rest, rfl⟩, hrecord⟩ := h
    refine ⟨hgoing, ⟨rest, hrecord⟩, hsame, ?_⟩
    simpa [require_eq_ok, and_assoc] using hfinal

/-! ### The sequence -/

theorem Sound.restores (h : Sound target expected record) : record.countP RestoreCall.isRestore ≤ 2 := by
  have hstage : ∀ stage, record.countP (fun c => c.request = some (.restore stage)) ≤ 1 := fun stage =>
    countP_le_one (fun a earlier hallowed ha b hb => by
      simpa using (hallowed.2 (.restore stage) (by simpa using ha)).2 b hb) h.justified
  have hcount : ∀ l : List RestoreCall, l.countP RestoreCall.isRestore =
      l.countP (fun c => c.request = some (.restore .minimized)) + l.countP (fun c => c.request = some (.restore .maximized)) := by
    intro l
    induction l with
    | nil => rfl
    | cons c l ih =>
      rw [List.countP_cons, List.countP_cons, List.countP_cons, ih]
      cases c with
      | restore stage result => cases stage <;> simp [RestoreCall.isRestore, RestoreCall.request] <;> omega
      | _ => simp [RestoreCall.isRestore, RestoreCall.request]
  have hminimized := hstage .minimized
  have hmaximized := hstage .maximized
  rw [hcount]
  omega

theorem Sound.activates (h : Sound target expected record) : record.countP RestoreCall.isActivate ≤ 1 := by
  have hactivate : ∀ c : RestoreCall, c.isActivate = true ↔ c.request = some .activate := by
    intro c
    cases c <;> simp [RestoreCall.isActivate, RestoreCall.request]
  refine countP_le_one (P := Allowed target expected) (fun a earlier hallowed ha b hb => ?_) h.justified
  have hother := (hallowed.2 .activate ((hactivate a).mp ha)).2 b hb
  rw [← Bool.not_eq_true, hactivate]
  exact hother

/-- Before the first read there is no instance to be kept. -/
theorem sound_of_unshown {expected : ExactWindowPixelInstanceEvidence} (h : Justified (Allowed target expected) record)
    (hnone : firstShown record = none) : Sound target expected record where
  justified := h
  first shown hshown := by rw [hnone] at hshown; cases hshown

theorem does_runExactRestoreActivateSequence (env : RestoreClosures κ) (target : UiaTarget) :
    Yields (runExactRestoreActivateSequence env target)
      (either (fun state record => ∃ expected, Sound target expected record ∧ firstShown record = some expected ∧
          Finished target expected state record)
        fun _ record => ∃ expected, Sound target expected record) := by
  have hlook : ∀ {expected} {c : RestoreCall} {record}, c.request = none → (∀ before ∈ record, Fine target expected before) →
      Allowed target expected c record := by
    intro expected c record hlook hfine
    refine ⟨hfine, fun request hrequest => ?_⟩
    rw [hlook] at hrequest
    cases hrequest
  have hopened : ∀ expected, Justified (Allowed target expected) [.restoreAvailable (.ok ())] := fun expected =>
    justified_nil.cons (hlook rfl (by simp))
  refine does_tryThen (R := fun _ record => record = [.restoreAvailable (.ok ())]) (does_tryCall ?_ ?_) fun _ => ?_
  · rintro record u rfl
    rfl
  · rintro record e rfl
    exact ⟨⟨0, 0, 0, 0⟩, sound_of_unshown (justified_nil.cons (hlook rfl (by simp))) rfl⟩
  refine does_tryThen (R := fun before record => record = [.read (.ok before), .restoreAvailable (.ok ())]) (does_tryCall ?_ ?_) fun before => ?_
  · rintro record before rfl
    rfl
  · rintro record e rfl
    exact ⟨⟨0, 0, 0, 0⟩, sound_of_unshown ((hopened _).cons (hlook rfl (by simp [Fine]))) rfl⟩
  have hread : Justified (Allowed target before.instanceEvidence) [.read (.ok before), .restoreAvailable (.ok ())] :=
    (hopened _).cons (hlook rfl (by simp [Fine]))
  refine does_tryThen (does_check (R := fun _ record => Going target before.instanceEvidence [] record) ?_ ?_) fun _ => ?_
  · rintro record _ hsame rfl
    exact ⟨hread, rfl, by simp [Fine, Same, hsame], by simp [RestoreCall.request]⟩
  · rintro record e rfl
    exact ⟨before.instanceEvidence, hread, fun shown hshown => (Option.some.inj hshown).symm⟩
  have hsafe : ∀ {α : Type} {R : α → List RestoreCall → Prop} (result : Except UiaError α) (record : List RestoreCall),
      either R (fun _ record => Sound target before.instanceEvidence record) result record →
        either R (fun _ record => ∃ expected, Sound target expected record) result record := by
    intro α R result record h
    cases result with
    | ok a => exact h
    | error e => exact ⟨_, h⟩
  refine does_tryThen (does_weaken (does_runStage (by simp)) (fun _ h => h) hsafe) fun current => ?_
  refine does_tryThen (does_weaken (does_runStage (by simp)) (fun _ h => h) hsafe) fun _ => ?_
  refine does_weaken (does_activateRestored (by simp)) (fun _ h => h) fun result record h => ?_
  cases result with
  | ok state => exact ⟨_, h.1.sound, h.1.first, h.2⟩
  | error e => exact ⟨_, h⟩

end

/-- Whatever the closures answer, each call is allowed by those before it, no stage restores twice, and what is returned
    is the last read. -/
theorem restore_activate_safe (κ : Type) (env : RestoreClosures κ) (target : UiaTarget) :
    Yields (runExactRestoreActivateSequence env target) fun result record =>
      (∃ expected, (∀ shown, firstShown record = some shown → shown = expected) ∧ Justified (Allowed target expected) record) ∧
      record.countP RestoreCall.isRestore ≤ 2 ∧ record.countP RestoreCall.isActivate ≤ 1 ∧
      ∀ state, result = .ok state → ∃ expected, firstShown record = some expected ∧ Finished target expected state record := by
  refine does_weaken (does_runExactRestoreActivateSequence env target) (fun _ h => h) fun result record h => ?_
  cases result with
  | ok state =>
    obtain ⟨expected, hsound, hfirst, hfinished⟩ := h
    refine ⟨⟨expected, hsound.first, hsound.justified⟩, hsound.restores, hsound.activates, fun state' hstate => ?_⟩
    obtain rfl := Except.ok.inj hstate
    exact ⟨expected, hfirst, hfinished⟩
  | error e =>
    obtain ⟨expected, hsound⟩ := h
    exact ⟨⟨expected, hsound.first, hsound.justified⟩, hsound.restores, hsound.activates, fun state hstate => by cases hstate⟩

end RestoreActivate
end DccCua
