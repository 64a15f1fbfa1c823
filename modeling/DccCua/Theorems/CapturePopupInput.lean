import Mathlib.Data.List.Induction
import DccCua.Lib.Runs
import DccCua.Theorems.GuardedSteps
import DccCua.Theorems.GuardedReleases
import DccCua.Theorems.HeldInput
import DccCua.Theorems.NativeCapturePopup
import DccCua.Windows.CapturePopupInput

/-! # Input over capture popups is strict

Each check leaves the steps of its reads behind it. A strict check reads once, and only the exact proof lets it pass. A
check that tolerates a popup which has closed is begun only when each press that was inserted has its release inserted. -/

namespace DccCua
namespace PhysicalInput

open Runs Script NativeCapturePopup

/-- A step that accepts a proof, or a popup that has closed. -/
def IsProof : Step → Prop
  | .proved _ => True
  | .closed => True
  | _ => False

/-- A step of a check, or a look at the clock or at interruptions. -/
def Minor : Step → Prop
  | .proved _ => True
  | .closed => True
  | .read _ _ => True
  | .elapsed _ => True
  | .pause _ => True
  | .interrupted _ => True
  | .clock _ => True
  | _ => False

theorem IsProof.minor {step : Step} (h : IsProof step) : Minor step := by
  cases step <;> first
    | exact h.elim
    | trivial

def isRead : Step → Bool
  | .read _ _ => true
  | _ => false

def reads (steps : List Step) : Nat := steps.countP isRead

theorem reads_proofs {seen : List Step} (h : ∀ step ∈ seen, IsProof step) : reads seen = 0 := by
  refine List.countP_eq_zero.mpr fun step hstep => ?_
  have hproof := h step hstep
  cases step <;> first
    | exact hproof.elim
    | simp [isRead]

/-! ### One read -/

section Reads
variable {l : List Step} {f : Bool}

/-- What a read has recorded: a strict one passes with the exact proof only. -/
structure Reading (allowClosed : Bool) (l : List Step) (f : Bool) (passed : Prop) (b : CapturePopupBackend) : Prop where
  flag : b.closedPostcheckAllowed = f
  record : ∃ seen, b.record = seen ++ l ∧ (∀ step ∈ seen, IsProof step) ∧ (passed → allowClosed = false → seen = [.proved true])

theorem Reading.failed {allowClosed : Bool} {passed : Prop} {b : CapturePopupBackend} (h : Reading allowClosed l f passed b) :
    Reading allowClosed l f False b := by
  obtain ⟨seen, hrecord, hproofs, -⟩ := h.record
  exact ⟨h.flag, seen, hrecord, hproofs, False.elim⟩

/-- A wait for an answer leaves the backend alone. -/
theorem triple_asked {α : Type} {answer : PopupAnswer → Option α} {P C : CapturePopupBackend → Prop} (hcut : ∀ b, P b → C b) :
    Triple (fun b _ => P b) (Prog.wait answer) (fun _ b _ => P b) C :=
  triple_wait hcut (fun _ _ _ _ h _ => h) fun _ _ _ h => h

/-- The looks around the proof leave the backend alone. -/
theorem checkCapturePopupFence_spec {fence : WindowsPhysicalInputFence} {readProof : PopupProg (Except Reason Unit)}
    {P Q E C : CapturePopupBackend → Prop} (hPE : ∀ b, P b → E b) (hQE : ∀ b, Q b → E b) (hEC : ∀ b, E b → C b)
    (h : Triple (fun b _ => P b) readProof (orError (fun _ b _ => Q b) fun _ b _ => E b) C) :
    Triple (fun b _ => P b) (checkCapturePopupFence fence readProof) (orError (fun _ b _ => Q b) fun _ b _ => E b) C := by
  have hask : ∀ {α : Type} {answer : PopupAnswer → Option (Except Reason α)} {R : CapturePopupBackend → Prop}, (∀ b, R b → E b) →
      Triple (fun b _ => R b) (Prog.wait answer) (orError (fun _ b _ => R b) fun _ b _ => E b) C := by
    intro α answer R hR
    refine triple_weaken (triple_asked (P := R) fun b hb => hEC b (hR b hb)) (fun _ _ h => h) fun result b rest hb => ?_
    cases result with
    | ok _ => exact hb
    | error _ => exact hR b hb
  refine triple_tryThen (hask hPE) fun _ => triple_tryThen (hask hPE) fun _ => triple_tryThen h fun _ =>
    triple_tryThen (hask hQE) fun _ => triple_tryThen (hask hQE) fun state => triple_tryThen (hask hQE) fun _ => triple_ret ?_
  intro b _ hb
  cases validateRootFence fence state with
  | ok _ => exact hb
  | error _ => exact hQE b hb

theorem reading_begin {allowClosed : Bool} {b : CapturePopupBackend} (h : b.record = l ∧ b.closedPostcheckAllowed = f) :
    Reading allowClosed l f False b := ⟨h.2, [], h.1, by simp, False.elim⟩

theorem readCompleteProof_spec (allowClosed : Bool) :
    Triple (fun b _ => b.record = l ∧ b.closedPostcheckAllowed = f) (readCompleteProof allowClosed)
      (orError (fun _ b _ => Reading allowClosed l f True b) fun _ b _ => Reading allowClosed l f False b)
      (Reading allowClosed l f False) := by
  have hproof : ∀ {b : CapturePopupBackend} {step : Step}, b.record = l ∧ b.closedPostcheckAllowed = f → IsProof step →
      (allowClosed = false → step = .proved true) → Reading allowClosed l f True { b with record := step :: b.record } := by
    rintro b step ⟨hrecord, hflag⟩ hstep hexact
    refine ⟨hflag, [step], by rw [← hrecord]; rfl, by simpa using hstep, fun _ hstrict => by rw [hexact hstrict]⟩
  refine triple_andThen (triple_asked fun _ h => reading_begin h) fun proof => ?_
  cases proof with
  | ok current =>
    refine triple_andThen (R := fun _ b _ => b.record = l ∧ b.closedPostcheckAllowed = f) (triple_read fun _ _ h => h) fun expected => ?_
    cases hvalid : validateCurrentProof expected current allowClosed with
    | error reason => exact triple_ret fun _ _ h => reading_begin h
    | ok _ =>
      refine triple_andThen (triple_update fun b _ h => @hproof b (.proved (current = expected)) h trivial fun hstrict => ?_)
        fun _ => triple_ret fun _ _ h => h
      subst hstrict
      unfold validateCurrentProof at hvalid
      split at hvalid
      · rename_i hsame
        rw [Bool.false_and, Bool.or_false] at hsame
        rw [hsame]
      · cases hvalid
  | error refusal =>
    refine triple_andThen (R := fun _ b _ => b.record = l ∧ b.closedPostcheckAllowed = f) (triple_update fun _ _ h => h) fun _ => ?_
    split
    · rename_i hallow
      refine triple_tryThen (R := fun _ b _ => b.record = l ∧ b.closedPostcheckAllowed = f) ?_ fun _ => ?_
      · refine triple_weaken (triple_asked fun _ h => reading_begin h) (fun _ _ h => h) fun result b rest h => ?_
        cases result with
        | ok _ => exact h
        | error _ => exact reading_begin h
      · exact triple_andThen (triple_update fun b _ h => @hproof b .closed h trivial fun hstrict => by rw [hallow] at hstrict; cases hstrict)
          fun _ => triple_ret fun _ _ h => h
    · exact triple_ret fun _ _ h => reading_begin h

theorem checkModeOnce_spec (fence : WindowsPhysicalInputFence) (allowClosed : Bool) :
    Triple (fun b _ => b.record = l ∧ b.closedPostcheckAllowed = f) (checkModeOnce fence allowClosed)
      (orError (fun _ b _ => Reading allowClosed l f True b) fun _ b _ => Reading allowClosed l f False b)
      (Reading allowClosed l f False) := by
  refine triple_tryThen (R := fun _ b _ => b.record = l ∧ b.closedPostcheckAllowed = f) (triple_read fun b _ h => ?_) fun _ => ?_
  · cases validateRootFence fence b.proof.root with
    | ok _ => exact h
    | error _ => exact reading_begin h
  · refine triple_andThen (R := fun _ b _ => b.record = l ∧ b.closedPostcheckAllowed = f) (triple_update fun _ _ h => h) fun _ => ?_
    refine triple_andThen (checkCapturePopupFence_spec (fun _ h => reading_begin h) (fun _ h => h.failed) (fun _ h => h)
      (readCompleteProof_spec allowClosed)) fun result => triple_update fun b rest h => ?_
    have hkept : ∀ {passed : Prop} {b : CapturePopupBackend}, Reading allowClosed l f passed b →
        Reading allowClosed l f passed (if result = .error .targetOccluded then b else { b with rejection := none }) := by
      intro passed b hb
      split
      · exact hb
      · exact ⟨hb.flag, hb.record⟩
    cases result with
    | ok _ => exact hkept h
    | error _ => exact hkept h

/-- A read is recorded with its result. -/
theorem popupRead_spec (fence : WindowsPhysicalInputFence) (allowClosed settling : Bool) :
    Triple (fun b _ => b.record = l ∧ b.closedPostcheckAllowed = f) (popupRead fence allowClosed settling)
      (fun outcome b _ => b.closedPostcheckAllowed = f ∧ ∃ seen, b.record = .read settling outcome.1 :: seen ++ l ∧
        (∀ step ∈ seen, IsProof step) ∧ (outcome.1 = .ok () → allowClosed = false → seen = [.proved true]))
      (Reading allowClosed l f False) := by
  refine triple_andThen (R := fun outcome b _ => Reading allowClosed l f (outcome.1 = .ok ()) b) ?_ fun outcome => ?_
  · refine triple_andThen (checkModeOnce_spec fence allowClosed) fun result => ?_
    refine triple_andThen (R := fun _ b rest => orError (fun _ b _ => Reading allowClosed l f True b)
      (fun _ b _ => Reading allowClosed l f False b) result b rest) (triple_read fun _ _ h => h) fun mayWait => ?_
    have hdone : ∀ b rest, orError (fun _ b _ => Reading allowClosed l f True b) (fun _ b _ => Reading allowClosed l f False b) result b
        (rest : List PopupAnswer) → Reading allowClosed l f (result = .ok ()) b := by
      intro b rest h
      cases result with
      | ok _ => exact ⟨h.flag, h.record.imp fun seen hseen => ⟨hseen.1, hseen.2.1, fun _ => hseen.2.2 trivial⟩⟩
      | error _ => exact ⟨h.flag, h.record.imp fun seen hseen => ⟨hseen.1, hseen.2.1, nofun⟩⟩
    split
    · exact triple_ret hdone
    · rename_i hwaits
      have hoccluded : result = .error .targetOccluded := by
        by_contra hother
        simp [hother] at hwaits
      subst hoccluded
      refine triple_andThen (R := fun _ b _ => Reading allowClosed l f False b) ?_ fun unchanged => ?_
      · refine triple_weaken (checkCapturePopupFence_spec (P := Reading allowClosed l f False) (Q := Reading allowClosed l f False)
          (fun _ h => h) (fun _ h => h) (fun _ h => h) ?_) (fun _ _ h => h) fun unchanged b rest h => ?_
        · refine triple_weaken (triple_asked fun _ h => h) (fun _ _ h => h) fun result b rest h => ?_
          cases result <;> exact h
        · cases unchanged <;> exact h
      · have hfailed : ∀ {reason : Reason} {b : CapturePopupBackend}, Reading allowClosed l f False b →
            Reading allowClosed l f ((Except.error reason : Except Reason Unit) = .ok ()) b := fun h =>
          ⟨h.flag, h.record.imp fun seen hseen => ⟨hseen.1, hseen.2.1, nofun⟩⟩
        cases unchanged with
        | ok _ => exact triple_ret fun _ _ h => hfailed h
        | error reason => exact triple_ret fun _ _ h => hfailed h
  · refine triple_andThen (triple_update fun b _ h => ?_) fun _ => triple_ret fun _ _ h => h
    obtain ⟨seen, hrecord, hproofs, hstrict⟩ := h.record
    refine ⟨h.flag, seen, ?_, hproofs, hstrict⟩
    show _ :: b.record = _
    rw [hrecord]
    rfl

end Reads

/-! ### The settling loop -/

section Loop
variable {fence : WindowsPhysicalInputFence} {allowClosed : Bool} {l : List Step} {f : Bool} {started : Nat}

/-- A loop that has begun, with the steps that it has recorded. -/
structure Looping (allowClosed : Bool) (l : List Step) (f : Bool) (started remaining : Nat) (settling : Bool) (new : List Step)
    (b : CapturePopupBackend) : Prop where
  flag : b.closedPostcheckAllowed = f
  record : b.record = new ++ .elapsed started :: l
  minor : ∀ step ∈ new, Minor step
  reads : reads new + remaining ≤ 21
  first : settling = false → new = []
  strict : allowClosed = false → settling = false

/-- The end of a loop: it passes with its first read, or with one in time. -/
def Passes (allowClosed : Bool) (started : Nat) (new : List Step) : Prop :=
  ∃ now settling seen earlier, new = .elapsed now :: .read settling (.ok ()) :: (seen ++ earlier) ∧ (∀ step ∈ seen, IsProof step) ∧
    (earlier = [] ∨ now - started < milliseconds 100) ∧ (allowClosed = false → settling = false ∧ seen = [.proved true] ∧ earlier = [])

structure Looped (allowClosed : Bool) (l : List Step) (f : Bool) (started : Nat) (result : Option (Except Reason Unit))
    (b : CapturePopupBackend) : Prop where
  flag : b.closedPostcheckAllowed = f
  returns : result ≠ none
  record : ∃ new, b.record = new ++ .elapsed started :: l ∧ (∀ step ∈ new, Minor step) ∧ reads new ≤ 21 ∧
    (result = some (.ok ()) → Passes allowClosed started new)

/-- A backend that has recorded minor steps. -/
def Grown (l : List Step) (f : Bool) (b : CapturePopupBackend) : Prop :=
  b.closedPostcheckAllowed = f ∧ ∃ new, b.record = new ++ l ∧ ∀ step ∈ new, Minor step

theorem Looping.grown {remaining : Nat} {settling : Bool} {new : List Step} {b : CapturePopupBackend}
    (h : Looping allowClosed l f started remaining settling new b) : Grown (.elapsed started :: l) f b :=
  ⟨h.flag, new, h.record, h.minor⟩

theorem reads_cons_minor {step : Step} (h : isRead step = false) (new : List Step) : reads (step :: new) = reads new :=
  List.countP_cons_of_neg (by simp [h])

/-- A look at the clock is recorded. -/
theorem popupElapsed_spec {P C : CapturePopupBackend → Prop} (hcut : ∀ b, P b → C b) :
    Triple (fun b _ => P b) popupElapsed (fun now b _ => ∃ b₀, P b₀ ∧ b = { b₀ with record := .elapsed now :: b₀.record }) C :=
  triple_andThen (triple_asked hcut) fun _ => triple_andThen (triple_update fun b _ h => ⟨b, h, rfl⟩) fun _ => triple_ret fun _ _ h => h

/-- Whether the time is up before a read; the first read is not limited. -/
theorem late_spec {remaining : Nat} (settling : Bool) :
    Triple (fun b _ => ∃ new, Looping allowClosed l f started remaining settling new b)
      (if settling then popupElapsed.andThen fun now => Prog.ret (decide (milliseconds 100 ≤ now - started)) else Prog.ret false)
      (fun _ b _ => ∃ new, Looping allowClosed l f started remaining settling new b) (Grown (.elapsed started :: l) f) := by
  split
  · rename_i hsettling
    refine triple_andThen (popupElapsed_spec fun _ ⟨_, h⟩ => h.grown) fun now => triple_ret ?_
    rintro b _ ⟨b₀, ⟨new, h⟩, rfl⟩
    refine ⟨.elapsed now :: new, h.flag, ?_, List.forall_mem_cons.mpr ⟨trivial, h.minor⟩, ?_, fun hfirst => ?_, h.strict⟩
    · show _ :: b₀.record = _
      rw [h.record]
      rfl
    · rw [reads_cons_minor rfl]
      exact h.reads
    · rw [hsettling] at hfirst
      cases hfirst
  · exact triple_ret fun _ _ h => h

/-- A read of the loop, after what the loop has recorded earlier. -/
structure Attempted (allowClosed : Bool) (l : List Step) (f : Bool) (started remaining : Nat) (settling : Bool) (result : Except Reason Unit)
    (seen earlier : List Step) (b : CapturePopupBackend) : Prop where
  flag : b.closedPostcheckAllowed = f
  record : b.record = .read settling result :: (seen ++ earlier) ++ .elapsed started :: l
  proofs : ∀ step ∈ seen, IsProof step
  minor : ∀ step ∈ earlier, Minor step
  reads : reads earlier + (remaining + 1) ≤ 21
  first : settling = false → earlier = []
  strict : allowClosed = false → settling = false
  exact : result = .ok () → allowClosed = false → seen = [.proved true]

namespace Attempted

variable {remaining : Nat} {settling : Bool} {result : Except Reason Unit} {seen earlier : List Step} {b : CapturePopupBackend}

theorem minors (h : Attempted allowClosed l f started remaining settling result seen earlier b) :
    ∀ step ∈ .read settling result :: (seen ++ earlier), Minor step :=
  List.forall_mem_cons.mpr ⟨trivial, fun step hstep =>
    (List.mem_append.mp hstep).elim (fun hseen => (h.proofs step hseen).minor) (h.minor step)⟩

theorem grown (h : Attempted allowClosed l f started remaining settling result seen earlier b) : Grown (.elapsed started :: l) f b :=
  ⟨h.flag, _, h.record, h.minors⟩

theorem count (h : Attempted allowClosed l f started remaining settling result seen earlier b) :
    PhysicalInput.reads (.read settling result :: (seen ++ earlier)) + remaining ≤ 21 := by
  have hcount : PhysicalInput.reads (.read settling result :: (seen ++ earlier)) = PhysicalInput.reads earlier + 1 := by
    have hnone := reads_proofs h.proofs
    unfold PhysicalInput.reads at hnone ⊢
    rw [List.countP_cons_of_pos rfl, List.countP_append, hnone, Nat.zero_add]
  have := h.reads
  omega

/-- The look at the clock after the read. -/
theorem looked (h : Attempted allowClosed l f started remaining settling result seen earlier b) (now : Nat) :
    ({ b with record := .elapsed now :: b.record } : CapturePopupBackend).record =
        (.elapsed now :: .read settling result :: (seen ++ earlier)) ++ .elapsed started :: l ∧
      (∀ step ∈ .elapsed now :: .read settling result :: (seen ++ earlier), Minor step) ∧
      PhysicalInput.reads (.elapsed now :: .read settling result :: (seen ++ earlier)) + remaining ≤ 21 := by
  refine ⟨?_, List.forall_mem_cons.mpr ⟨trivial, h.minors⟩, ?_⟩
  · rw [h.record]
    rfl
  · rw [reads_cons_minor rfl]
    exact h.count

/-- The loop ends with the result of the read. -/
theorem ends (h : Attempted allowClosed l f started remaining settling result seen earlier b) {now : Nat}
    (hintime : ¬(result = .ok () ∧ settling = true ∧ milliseconds 100 ≤ now - started)) :
    Looped allowClosed l f started (some result) { b with record := .elapsed now :: b.record } := by
  obtain ⟨hrecord, hminor, hcount⟩ := h.looked now
  refine ⟨h.flag, nofun, _, hrecord, hminor, by omega, fun hok => ?_⟩
  cases hok
  refine ⟨now, settling, seen, earlier, rfl, h.proofs, ?_, fun hallow =>
    ⟨h.strict hallow, h.exact rfl hallow, h.first (h.strict hallow)⟩⟩
  cases hsettling : settling with
  | false => exact Or.inl (h.first hsettling)
  | true => exact Or.inr (Nat.lt_of_not_le fun hlate => hintime ⟨rfl, hsettling, hlate⟩)

theorem refused (h : Attempted allowClosed l f started remaining settling result seen earlier b) (now : Nat) :
    Looped allowClosed l f started (some (.error .targetOccluded)) { b with record := .elapsed now :: b.record } := by
  obtain ⟨hrecord, hminor, hcount⟩ := h.looked now
  exact ⟨h.flag, nofun, _, hrecord, hminor, by omega, nofun⟩

/-- The loop goes on, to settle. -/
theorem again (h : Attempted allowClosed l f started remaining settling result seen earlier b) (hallow : allowClosed = true) (now : Nat) :
    ∃ new, Looping allowClosed l f started remaining true new { b with record := .elapsed now :: b.record } := by
  obtain ⟨hrecord, hminor, hcount⟩ := h.looked now
  refine ⟨_, h.flag, hrecord, hminor, hcount, nofun, fun hstrict => ?_⟩
  rw [hallow] at hstrict
  cases hstrict

end Attempted

theorem loopRead_spec {remaining : Nat} (settling : Bool) :
    Triple (fun b _ => ∃ new, Looping allowClosed l f started (remaining + 1) settling new b) (popupRead fence allowClosed settling)
      (fun outcome b _ => ∃ seen earlier, Attempted allowClosed l f started remaining settling outcome.1 seen earlier b)
      (Grown (.elapsed started :: l) f) := by
  refine triple_exists fun new => ?_
  intro b script h
  have hread := popupRead_spec (l := new ++ .elapsed started :: l) (f := f) fence allowClosed settling b script ⟨h.record, h.flag⟩
  cases hrun : popupRead fence allowClosed settling b script with
  | done outcome b' rest =>
    rw [hrun] at hread
    obtain ⟨hflag, seen, hrecord, hproofs, hexact⟩ := hread
    refine ⟨seen, new, hflag, ?_, hproofs, h.minor, h.reads, h.first, h.strict, hexact⟩
    rw [hrecord, List.cons_append, List.cons_append, List.append_assoc]
  | cut b' =>
    rw [hrun] at hread
    obtain ⟨hflag, seen, hrecord, hproofs, -⟩ := hread
    refine ⟨hflag, seen ++ new, by rw [hrecord, List.append_assoc], fun step hstep => ?_⟩
    exact (List.mem_append.mp hstep).elim (fun hseen => (hproofs step hseen).minor) (h.minor step)

theorem attempts_spec : ∀ {remaining : Nat} {settling : Bool}, remaining ≠ 0 →
    Triple (fun b _ => ∃ new, Looping allowClosed l f started remaining settling new b)
      (attempts allowClosed (popupRead fence allowClosed) popupPause popupElapsed started remaining settling)
      (fun result b _ => Looped allowClosed l f started result b) (Grown (.elapsed started :: l) f)
  | 0, _, h => absurd rfl h
  | remaining + 1, settling, _ => by
    refine triple_andThen (late_spec settling) fun late => ?_
    split
    · refine triple_ret ?_
      rintro b _ ⟨new, h⟩
      exact ⟨h.flag, nofun, new, h.record, h.minor, by have := h.reads; omega, nofun⟩
    · refine triple_andThen (loopRead_spec settling) fun ⟨result, unchangedTeardown⟩ => ?_
      refine triple_andThen (popupElapsed_spec fun b ⟨_, _, h⟩ => h.grown) fun now => ?_
      dsimp only
      split
      · refine triple_ret ?_
        rintro b _ ⟨b₀, ⟨seen, earlier, h⟩, rfl⟩
        exact h.refused now
      · rename_i hintime
        rw [decide_eq_true_eq] at hintime
        split
        · refine triple_ret ?_
          rintro b _ ⟨b₀, ⟨seen, earlier, h⟩, rfl⟩
          exact h.ends hintime
        · rename_i hagain
          have hremaining : remaining ≠ 0 := by
            rintro rfl
            simp at hagain
          have hallow : allowClosed = true := by
            cases allowClosed with
            | true => rfl
            | false => simp at hagain
          refine triple_andThen (R := fun _ b _ => ∃ new, Looping allowClosed l f started remaining true new b) ?_ fun later => ?_
          · refine triple_weaken (popupElapsed_spec (P := fun b => ∃ new, Looping allowClosed l f started remaining true new b)
              fun _ ⟨_, h⟩ => h.grown) ?_ ?_
            · rintro b _ ⟨b₀, ⟨seen, earlier, h⟩, rfl⟩
              exact h.again hallow now
            · rintro later b _ ⟨b₀, ⟨new, h⟩, rfl⟩
              refine ⟨.elapsed later :: new, h.flag, ?_, List.forall_mem_cons.mpr ⟨trivial, h.minor⟩, ?_, nofun, h.strict⟩
              · show _ :: b₀.record = _
                rw [h.record]
                rfl
              · rw [reads_cons_minor rfl]
                exact h.reads
          · refine triple_andThen (R := fun _ b _ => ∃ new, Looping allowClosed l f started remaining true new b) (triple_update ?_) fun _ =>
              attempts_spec hremaining
            rintro b _ ⟨new, h⟩
            refine ⟨.pause (min (milliseconds 5) (milliseconds 100 - (later - started))) :: new, h.flag, ?_,
              List.forall_mem_cons.mpr ⟨trivial, h.minor⟩, ?_, nofun, h.strict⟩
            · show _ :: b.record = _
              rw [h.record]
              rfl
            · rw [reads_cons_minor rfl]
              exact h.reads

/-- The loop returns, after 21 reads at most. -/
theorem postcheckMode_spec (fence : WindowsPhysicalInputFence) (allowClosed : Bool) :
    Triple (fun b _ => b.record = l ∧ b.closedPostcheckAllowed = f) (postcheckMode fence allowClosed)
      (fun result b _ => ∃ started, Looped allowClosed l f started result b) (Grown l f) := by
  refine triple_andThen (popupElapsed_spec (C := Grown l f) fun b h => ⟨h.2, [], h.1, by simp⟩) fun started => ?_
  refine triple_weaken (triple_cut (attempts_spec (l := l) (f := f) (by decide)) fun b h => ?_) ?_ fun result b rest h => ⟨started, h⟩
  · obtain ⟨hflag, new, hrecord, hminor⟩ := h
    refine ⟨hflag, new ++ [.elapsed started], by rw [hrecord, List.append_assoc]; rfl, fun step hstep => ?_⟩
    rcases List.mem_append.mp hstep with hstep | hstep
    · exact hminor step hstep
    · rw [List.mem_singleton.mp hstep]
      trivial
  · rintro b _ ⟨b₀, ⟨hrecord, hflag⟩, rfl⟩
    exact ⟨[], hflag, by rw [← hrecord]; rfl, by simp, by simp [reads], fun _ => rfl, fun _ => rfl⟩

end Loop

/-! ### What is allowed -/

/-- The events that a record has inserted, cleanups among them. -/
def sentEvents : List Step → List Event
  | [] => []
  | .batch _ events inserted :: record => sentEvents record ++ events.take inserted
  | _ :: record => sentEvents record

/-- Each press has a release after it, and no two have the same. -/
def Released (events : List Event) : Prop :=
  ∀ before after press release, events = before ++ after → press.release = some release → after.count press ≤ after.count release

/-- Input follows a strict check that has passed, with the exact proof. A check tolerates a popup that has closed only
when all that was pressed is released. The pointer is left alone. -/
def PopupAllowed (fence : WindowsPhysicalInputFence) : Step → List Step → Prop
  | .batch false events _, earlier => earlier.head? = some (.check fence none false (.ok ())) ∧ ∀ event ∈ events, event.isPointer = false
  | .batch true events _, _ => ∀ event ∈ events, event.isRelease = true ∧ event.isPointer = false
  | .cursor _ _, _ => False
  | .checking true, earlier => Released (sentEvents earlier)
  | .check _ _ false (.ok _), earlier => ∃ now started rest,
      earlier = .elapsed now :: .read false (.ok ()) :: .proved true :: .elapsed started :: .checking false :: rest
  | _, _ => True

theorem count_settleStep {press release : Event} (h : press.release = some release) (held : List Event) (event : Event) :
    held.count release + [event].count press ≤ (settleStep held event).count release + [event].count release := by
  obtain ⟨hrelease, hpress⟩ := isRelease_of_release h
  cases hnext : event.release with
  | some next =>
    rw [settleStep_press hnext, List.count_append]
    by_cases hsame : event = press
    · rw [hsame, h] at hnext
      cases hnext
      rw [hsame, List.count_singleton_self, List.count_singleton_self]
      omega
    · rw [List.count_singleton (a := press), if_neg (by simpa using hsame)]
      omega
  | none =>
    have hne : event ≠ press := by
      rintro rfl
      rw [h] at hnext
      cases hnext
    rw [List.count_singleton (a := press), if_neg (by simpa using hne)]
    by_cases his : event.isRelease = true
    · rw [settleStep_release his, removeLast, List.count_reverse, List.count_erase, List.count_reverse, List.count_singleton]
      split <;> omega
    · rw [Bool.not_eq_true] at his
      rw [settleStep_other hnext his]
      omega

theorem count_settle {press release : Event} (h : press.release = some release) : ∀ (events held : List Event),
    held.count release + events.count press ≤ (settle held events).count release + events.count release
  | [], held => by simp
  | event :: events, held => by
    have hstep := count_settleStep h held event
    have hrest := count_settle h events (settleStep held event)
    rw [settle_cons, ← List.singleton_append, List.count_append, List.count_append]
    omega

/-- What is settled is released. -/
theorem released_of_settle {events : List Event} (h : settle [] events = []) : Released events := by
  rintro before after press release rfl hrelease
  have hcount := count_settle hrelease after (settle [] before)
  rw [← settle_append, h, List.count_nil] at hcount
  omega

theorem settle_reverse : ∀ {held : List Event}, (∀ release ∈ held, release.isRelease = true) → settle held held.reverse = [] := by
  intro held
  induction held using List.reverseRecOn with
  | nil => exact fun _ => rfl
  | append_singleton held release ih =>
    intro h
    rw [List.reverse_append, List.reverse_singleton, List.singleton_append, settle_cons,
      settleStep_release (h release (by simp)), removeLast_concat]
    exact ih fun other hother => h other (List.mem_append_left _ hother)

theorem settle_of_releaseLoop : ∀ {events pending : List Event}, (∀ release ∈ pending, release.isRelease = true) →
    releaseLoop pending events = true → settle pending events = []
  | [], pending, _, h => List.isEmpty_iff.mp h
  | event :: events, pending, hpending, h => by
    unfold releaseLoop at h
    rw [settle_cons]
    have hnext := @releases_settleStep _ event hpending
    cases hrelease : event.release with
    | some release =>
      rw [hrelease] at h
      rw [settleStep_press hrelease] at hnext ⊢
      exact settle_of_releaseLoop hnext h
    | none =>
      rw [hrelease] at h
      dsimp only at h
      split at h
      · rename_i hmem
        rw [settleStep_release (hpending event hmem)] at hnext ⊢
        exact settle_of_releaseLoop hnext h
      · cases h

/-! ### The backend -/

section Backend
variable {fence : WindowsPhysicalInputFence} {sent : List Event} {f : Bool}

/-- The record is allowed; these events are sent, and a popup may have closed at the next check or not. -/
structure Strict (fence : WindowsPhysicalInputFence) (sent : List Event) (f : Bool) (b : CapturePopupBackend) : Prop where
  record : Justified (PopupAllowed fence) b.record
  sent : sentEvents b.record = sent
  flag : b.closedPostcheckAllowed = f

abbrev Just (fence : WindowsPhysicalInputFence) (b : CapturePopupBackend) : Prop := Justified (PopupAllowed fence) b.record

theorem allowed_minor {step : Step} (h : Minor step) (earlier : List Step) : PopupAllowed fence step earlier := by
  cases step <;> first
    | exact h.elim
    | trivial

theorem sent_minor {step : Step} (h : Minor step) (record : List Step) : sentEvents (step :: record) = sentEvents record := by
  cases step <;> first
    | exact h.elim
    | rfl

theorem justified_minors {new record : List Step} (h : Justified (PopupAllowed fence) record) (hnew : ∀ step ∈ new, Minor step) :
    Justified (PopupAllowed fence) (new ++ record) := by
  induction new with
  | nil => exact h
  | cons step new ih =>
    rw [List.forall_mem_cons] at hnew
    exact (ih hnew.2).cons (allowed_minor hnew.1 _)

theorem sent_minors {new record : List Step} (hnew : ∀ step ∈ new, Minor step) : sentEvents (new ++ record) = sentEvents record := by
  induction new with
  | nil => rfl
  | cons step new ih =>
    rw [List.forall_mem_cons] at hnew
    rw [List.cons_append, sent_minor hnew.1, ih hnew.2]

theorem Strict.note {b : CapturePopupBackend} (h : Strict fence sent f b) {step : Step} (hstep : Minor step) :
    Strict fence sent f { b with record := step :: b.record } :=
  ⟨h.record.cons (allowed_minor hstep _), (sent_minor hstep _).trans h.sent, h.flag⟩

/-- A check is allowed, if it does not tolerate too much; a strict one is the last step when it has passed. -/
theorem checkMode_spec {allowClosed : Bool} (hallow : allowClosed = true → settle [] sent = []) :
    Triple (fun b _ => Strict fence sent f b) (checkMode fence allowClosed)
      (fun result b _ => Strict fence sent f b ∧
        (allowClosed = false → b.record.head? = some (.check fence none false result))) (Just fence) := by
  intro b script h
  have hbegun : Justified (PopupAllowed fence) (.checking allowClosed :: b.record) := by
    refine h.record.cons ?_
    cases allowClosed with
    | true =>
      rw [← h.sent] at hallow
      exact released_of_settle (hallow rfl)
    | false => trivial
  have hpostcheck := postcheckMode_spec (l := .checking allowClosed :: b.record) (f := f) fence allowClosed
    { b with record := .checking allowClosed :: b.record } script ⟨rfl, h.flag⟩
  show Ends _ _ (((postcheckMode fence allowClosed).andThen _) { b with record := .checking allowClosed :: b.record } script)
  unfold Prog.andThen
  cases hrun : postcheckMode fence allowClosed { b with record := .checking allowClosed :: b.record } script with
  | cut b' =>
    rw [hrun] at hpostcheck
    obtain ⟨-, new, hrecord, hminor⟩ := hpostcheck
    show Justified (PopupAllowed fence) b'.record
    rw [hrecord]
    exact justified_minors hbegun hminor
  | done result b' rest =>
    rw [hrun] at hpostcheck
    obtain ⟨started, hflag, hreturns, new, hrecord, hminor, -, hpasses⟩ := hpostcheck
    have hstarted : Minor (.elapsed started) := trivial
    have hold : Justified (PopupAllowed fence) b'.record := by
      rw [hrecord]
      exact justified_minors (hbegun.cons (allowed_minor hstarted _)) hminor
    have hsent : sentEvents b'.record = sent := by
      rw [hrecord, sent_minors hminor, sent_minor hstarted]
      exact h.sent
    cases result with
    | none => exact absurd rfl hreturns
    | some result =>
      refine ⟨⟨hold.cons ?_, hsent, hflag⟩, fun hstrict => by rw [hstrict]; rfl⟩
      cases allowClosed with
      | true => trivial
      | false =>
        cases result with
        | error reason => trivial
        | ok _ =>
          obtain ⟨now, settling, seen, earlier, rfl, -, -, hexact⟩ := hpasses rfl
          obtain ⟨rfl, rfl, rfl⟩ := hexact rfl
          exact ⟨now, started, b.record, hrecord⟩

theorem popupCheck_spec {point : Option Point} (hallow : f = true → settle [] sent = []) :
    Triple (fun b _ => Strict fence sent f b) (popupCheck fence point) (fun _ b _ => Strict fence sent f b) (Just fence) := by
  unfold popupCheck
  split
  · exact triple_ret fun _ _ h => h
  · refine triple_andThen (R := fun allowed b _ => Strict fence sent f b ∧ allowed = f) (triple_read fun b _ h => ⟨h, h.flag⟩) fun allowed => ?_
    refine triple_fact fun hallowed => ?_
    subst hallowed
    exact triple_weaken (checkMode_spec hallow) (fun _ _ h => h) fun _ _ _ h => h.1

theorem popupDispatch_spec {events : List Event} {cleanupOnly : Bool}
    (hallowed : ∀ b, Strict fence sent f b → (cleanupOnly = false → b.record.head? = some (.check fence none false (.ok ()))) →
      ∀ count, PopupAllowed fence (.batch cleanupOnly events count) b.record) :
    Triple (fun b _ => Strict fence sent f b ∧ (cleanupOnly = false → b.record.head? = some (.check fence none false (.ok ()))))
      (popupDispatch events cleanupOnly)
      (fun receipt b _ => ∃ count, receipt = ⟨events.length, count, false, false⟩ ∧ Strict fence (sent ++ events.take count) f b)
      (Just fence) := by
  refine triple_andThen (R := fun count b _ => Strict fence (sent ++ events.take count) f b) ?_ fun count => triple_ret fun _ _ h => ⟨count, rfl, h⟩
  refine triple_andThen (triple_asked fun _ h => h.1.record) fun count => ?_
  refine triple_andThen (triple_update fun b _ h => ?_) fun _ => triple_ret fun _ _ h => h
  refine ⟨h.1.record.cons (hallowed b h.1 h.2 count), ?_, h.1.flag⟩
  show sentEvents b.record ++ events.take count = _
  rw [h.1.sent]

/-- A batch of input: when it is sent, the next check may tolerate a closed popup if the batch is released. -/
theorem popupMutate_spec {point cursor : Option Point} {events : List Event} :
    Triple (fun b _ => Strict fence sent f b) (popupMutate fence point events cursor false)
      (orError
        (fun receipt b _ => ∃ count, receipt = ⟨events.length, count, false, false⟩ ∧
          Strict fence (sent ++ events.take count) (keyboardReleaseCompleted events receipt false) b)
        fun _ b _ => Strict fence sent f b) (Just fence) := by
  unfold popupMutate
  split
  · exact triple_ret fun _ _ h => h
  · rename_i hkeyboard
    have hpointer : ∀ event ∈ events, event.isPointer = false := by
      simp only [Bool.or_eq_true, not_or, List.any_eq_true, not_exists, not_and, Bool.not_eq_true] at hkeyboard
      exact hkeyboard.2
    refine triple_tryThen (R := fun receipt b _ => ∃ count, receipt = ⟨events.length, count, false, false⟩ ∧
      Strict fence (sent ++ events.take count) f b) ?_ fun receipt => triple_update ?_
    · unfold finalPhysicalBoundary
      rw [if_neg (by decide)]
      refine triple_tryThen (R := fun _ b _ => Strict fence sent f b ∧ (false = false → b.record.head? = some (.check fence none false (.ok ())))) ?_
        fun _ => triple_andThen (popupDispatch_spec fun _ _ hhead _ => ⟨hhead rfl, hpointer⟩) fun receipt => triple_ret fun _ _ h => h
      refine triple_weaken (checkMode_spec (f := f) nofun) (fun _ _ h => h) fun result b rest h => ?_
      cases result with
      | ok _ => exact ⟨h.1, h.2⟩
      | error reason => exact h.1
    · rintro b _ ⟨count, hreceipt, h⟩
      exact ⟨count, hreceipt, h.record, h.sent, rfl⟩

/-- A cleanup, which needs no check. -/
theorem popupCleanup_spec {point : Option Point} {events : List Event} (hreleases : ∀ event ∈ events, event.isRelease = true) :
    Triple (fun b _ => Strict fence sent f b) (popupMutate fence point events none true)
      (orError
        (fun receipt b _ => ∃ count, receipt = ⟨events.length, count, false, false⟩ ∧
          Strict fence (sent ++ events.take count) (keyboardReleaseCompleted events receipt true) b)
        fun _ b _ => Strict fence sent f b) (Just fence) := by
  unfold popupMutate
  split
  · exact triple_ret fun _ _ h => h
  · rename_i hkeyboard
    have hpointer : ∀ event ∈ events, event.isPointer = false := by
      simp only [Bool.or_eq_true, not_or, List.any_eq_true, not_exists, not_and, Bool.not_eq_true] at hkeyboard
      exact hkeyboard.2
    refine triple_tryThen (R := fun receipt b _ => ∃ count, receipt = ⟨events.length, count, false, false⟩ ∧
      Strict fence (sent ++ events.take count) f b) ?_ fun receipt => triple_update ?_
    · unfold finalPhysicalBoundary
      rw [if_pos rfl]
      split
      · refine triple_andThen (triple_weaken (popupDispatch_spec fun _ _ _ _ event hevent => ⟨hreleases event hevent, hpointer event hevent⟩)
          (fun _ _ h => ⟨h, nofun⟩) fun _ _ _ h => h) fun receipt => triple_ret fun _ _ h => h
      · exact triple_ret fun _ _ h => h
    · rintro b _ ⟨count, hreceipt, h⟩
      exact ⟨count, hreceipt, h.record, h.sent, rfl⟩

end Backend

/-! ### Transactions -/

abbrev PopupTransaction := Transaction CapturePopupBackend

section PopupTransactions
variable {fence : WindowsPhysicalInputFence}

/-- The next check may tolerate a closed popup only if all that is pressed is released. -/
structure Episode (fence : WindowsPhysicalInputFence) (sent : List Event) (f : Bool) (t : PopupTransaction) : Prop where
  target : t.fence = fence
  strict : Strict fence sent f t.backend
  settled : f = true → settle [] sent = []

/-- It also keeps the releases that are due. -/
def Kept (fence : WindowsPhysicalInputFence) (t : PopupTransaction) : Prop :=
  ∃ sent f, Episode fence sent f t ∧ t.pendingReleases = settle [] sent

/-- Nothing is sent yet. -/
def Fresh (fence : WindowsPhysicalInputFence) (t : PopupTransaction) : Prop := Episode fence [] false t ∧ t.pendingReleases = []

def JustTransaction (fence : WindowsPhysicalInputFence) (t : PopupTransaction) : Prop := Just fence t.backend

theorem Fresh.kept {t : PopupTransaction} (h : Fresh fence t) : Kept fence t := ⟨[], false, h.1, h.2⟩

theorem Kept.just {t : PopupTransaction} (h : Kept fence t) : JustTransaction fence t := by
  obtain ⟨sent, f, hepisode, -⟩ := h
  exact hepisode.strict.record

/-- A program of the backend that keeps what is sent. -/
theorem kept_withTransaction {α : Type} {p : PopupTransaction → PopupProg α}
    (h : ∀ t sent f, t.fence = fence → (f = true → settle [] sent = []) →
      Triple (fun b _ => Strict fence sent f b) (p t) (fun _ b _ => Strict fence sent f b) (Just fence)) :
    Triple (fun t _ => Kept fence t) (withTransaction p) (fun _ t _ => Kept fence t) (JustTransaction fence) := by
  refine triple_withTransaction fun t ht => ?_
  obtain ⟨sent, f, hepisode, hpending⟩ := ht
  refine triple_weaken (h t sent f hepisode.target hepisode.settled) ?_ fun _ b _ hb =>
    ⟨sent, f, ⟨hepisode.target, hb, hepisode.settled⟩, hpending⟩
  rintro b _ rfl
  exact hepisode.strict

theorem kept_checkAt (point : Option Point) : Triple (fun t _ => Kept fence t) (checkAt capturePopupBackend point)
    (fun _ t _ => Kept fence t) (JustTransaction fence) :=
  kept_withTransaction fun _ _ _ htarget hsettled => htarget ▸ popupCheck_spec hsettled

theorem kept_noted {α : Type} {answer : PopupAnswer → Option α} {step : α → Step} (hstep : ∀ a, Minor (step a)) :
    Triple (fun t _ => Kept fence t) (onBackend (noted answer step)) (fun _ t _ => Kept fence t) (JustTransaction fence) :=
  kept_withTransaction fun _ _ _ _ _ => triple_andThen (triple_asked fun _ h => h.record) fun a =>
    triple_andThen (triple_update fun _ _ h => h.note (hstep a)) fun _ => triple_ret fun _ _ h => h

theorem kept_pause (ms : Nat) : Triple (fun t _ => Kept fence t) (onBackend (capturePopupBackend.pause ms)) (fun _ t _ => Kept fence t)
    (JustTransaction fence) := by
  have hminor : Minor (.pause ms) := trivial
  exact kept_withTransaction fun _ _ _ _ _ => triple_update fun _ _ h => h.note hminor

theorem kept_elapsedMs : Triple (fun t _ => Kept fence t) (onBackend capturePopupBackend.elapsedMs) (fun _ t _ => Kept fence t)
    (JustTransaction fence) := kept_noted fun _ => trivial

theorem kept_holdGuard : Triple (fun t _ => Kept fence t) (holdGuard capturePopupBackend) (fun _ t _ => Kept fence t)
    (JustTransaction fence) := by
  refine triple_andThen (kept_noted fun _ => trivial) fun interrupted => ?_
  split
  · exact triple_ret fun _ _ h => h
  · exact kept_checkAt none

theorem kept_waitUntil (deadline : Nat) :
    Triple (fun t _ => Kept fence t) (waitUntil capturePopupBackend (holdGuard capturePopupBackend) deadline)
      (fun _ t _ => Kept fence t) (JustTransaction fence) := by
  refine triple_roundsUntil (S := fun _ t => Kept fence t) (fun _ h => h.just) ?_
  refine triple_andThen kept_elapsedMs fun now => ?_
  split
  · refine triple_andThen kept_holdGuard fun result => ?_
    cases result with
    | error reason => exact triple_ret fun _ _ h => h
    | ok _ => exact triple_andThen kept_elapsedMs fun now => triple_andThen (kept_pause _) fun _ => triple_ret fun _ _ h => h
  · exact triple_ret fun _ _ h => h

/-- What is inserted of a batch is what it has sent. -/
theorem episode_receipt {t : PopupTransaction} {events : List Event} {receipt : MutationReceipt} {count : Nat} {b : CapturePopupBackend}
    (htarget : t.fence = fence) (hreceipt : receipt = ⟨events.length, count, false, false⟩)
    (hstrict : Strict fence ([] ++ events.take count) (keyboardReleaseCompleted events receipt false) b) :
    Episode fence (events.take count) (keyboardReleaseCompleted events receipt false) { t with backend := b } := by
  refine ⟨htarget, hstrict, fun hcompleted => ?_⟩
  subst hreceipt
  unfold keyboardReleaseCompleted at hcompleted
  split at hcompleted
  · cases hcompleted
  · rename_i hfull
    simp only [ne_eq, Bool.or_eq_true, decide_eq_true_eq, not_or, not_not] at hfull
    rw [← hfull.2, List.take_length]
    exact settle_of_releaseLoop (by simp) hcompleted

theorem fresh_mutate {events : List Event} : Triple (fun t _ => Fresh fence t) (mutate capturePopupBackend events none)
    (fun _ t _ => Kept fence t) (JustTransaction fence) := by
  let Sent : Except Reason MutationReceipt → PopupTransaction → Prop := fun result t =>
    match result with
    | .ok receipt => ∃ count f, receipt.inserted = count ∧ Episode fence (events.take count) f t ∧ t.pendingReleases = []
    | .error _ => Kept fence t
  refine triple_andThen (R := fun result t _ => Sent result t) ?_ fun result => ?_
  · refine triple_withTransaction fun t ht => ?_
    have hmutate : Triple (fun b _ => Strict fence [] false b) (popupMutate t.fence t.point events none false)
        (orError (fun receipt b _ => ∃ count, receipt = ⟨events.length, count, false, false⟩ ∧
            Strict fence ([] ++ events.take count) (keyboardReleaseCompleted events receipt false) b)
          fun _ b _ => Strict fence [] false b) (Just fence) := by
      rw [ht.1.target]
      exact popupMutate_spec
    refine triple_weaken hmutate ?_ fun result b rest hb => ?_
    · rintro b _ rfl
      exact ht.1.strict
    · cases result with
      | ok receipt =>
        obtain ⟨count, hreceipt, hstrict⟩ := hb
        exact ⟨count, _, by rw [hreceipt], episode_receipt ht.1.target hreceipt hstrict, ht.2⟩
      | error reason => exact Fresh.kept ⟨⟨ht.1.target, hb, ht.1.settled⟩, ht.2⟩
  · cases result with
    | error reason => exact triple_ret fun _ _ h => h
    | ok receipt =>
      refine triple_update ?_
      rintro t _ ⟨count, f, rfl, hepisode, hpending⟩
      refine ⟨_, f, ⟨hepisode.target, hepisode.strict, hepisode.settled⟩, ?_⟩
      show settle t.pendingReleases _ = _
      rw [hpending]

/-- A cleanup that is wholly inserted releases all that is pressed. -/
theorem settled_cleanup {sent : List Event} {count : Nat} {receipt : MutationReceipt}
    (hreceipt : receipt = ⟨(settle [] sent).reverse.length, count, false, false⟩)
    (hcompleted : keyboardReleaseCompleted (settle [] sent).reverse receipt true = true) :
    settle [] (sent ++ (settle [] sent).reverse.take count) = [] := by
  subst hreceipt
  unfold keyboardReleaseCompleted at hcompleted
  split at hcompleted
  · cases hcompleted
  · rename_i hfull
    simp only [ne_eq, Bool.or_eq_true, decide_eq_true_eq, not_or, not_not] at hfull
    rw [← hfull.2, List.take_length, settle_append]
    exact settle_reverse (releases_settle (by simp))

/-- After the cleanup the releases that are due do not matter. -/
def Over (fence : WindowsPhysicalInputFence) (t : PopupTransaction) : Prop := ∃ sent f, Episode fence sent f t

theorem over_cleanup : Triple (fun t _ => Kept fence t) (cleanup capturePopupBackend) (fun _ t _ => Over fence t)
    (JustTransaction fence) := by
  refine triple_andThen (R := fun pending t _ => Kept fence t ∧ pending = t.pendingReleases) (triple_read fun t _ ht => ⟨ht, rfl⟩) fun pending => ?_
  split
  · exact triple_ret fun _ _ ⟨⟨sent, f, hepisode, _⟩, _⟩ => ⟨sent, f, hepisode⟩
  · refine triple_andThen (R := fun _ t _ => Over fence t) ?_ fun result => ?_
    · refine triple_withTransaction fun t ht => ?_
      obtain ⟨⟨sent, f, hepisode, hpending⟩, rfl⟩ := ht
      have hmutate : Triple (fun b _ => Strict fence sent f b) (popupMutate t.fence t.point t.pendingReleases.reverse none true)
          (orError (fun receipt b _ => ∃ count, receipt = ⟨t.pendingReleases.reverse.length, count, false, false⟩ ∧
              Strict fence (sent ++ t.pendingReleases.reverse.take count) (keyboardReleaseCompleted t.pendingReleases.reverse receipt true) b)
            fun _ b _ => Strict fence sent f b) (Just fence) := by
        rw [hepisode.target]
        refine popupCleanup_spec fun event hevent => ?_
        rw [hpending] at hevent
        exact releases_settle (by simp) event (List.mem_reverse.mp hevent)
      refine triple_weaken hmutate ?_ fun result b rest hb => ?_
      · rintro b _ rfl
        exact hepisode.strict
      · cases result with
        | ok receipt =>
          obtain ⟨count, hreceipt, hstrict⟩ := hb
          rw [hpending] at hreceipt hstrict
          exact ⟨_, _, hepisode.target, hstrict, settled_cleanup hreceipt⟩
        | error reason => exact ⟨sent, f, hepisode.target, hb, hepisode.settled⟩
    · cases result with
      | error reason => exact triple_ret fun _ _ h => h
      | ok receipt => exact triple_update fun _ _ ⟨sent, f, h⟩ => ⟨sent, f, h.target, h.strict, h.settled⟩

theorem over_finish (result : Except Reason Unit) : Triple (fun t _ => Kept fence t) (finish capturePopupBackend result)
    (fun _ t _ => Over fence t) (JustTransaction fence) := by
  refine triple_andThen over_cleanup fun cleaned => triple_andThen (R := fun _ t _ => Over fence t) ?_ fun checked => triple_read fun _ _ h => h
  unfold postcheck
  split
  · exact triple_ret fun _ _ h => h
  · exact triple_ret fun _ _ h => h
  · refine triple_withTransaction fun t ht => ?_
    obtain ⟨sent, f, hepisode⟩ := ht
    have hcheck : Triple (fun b _ => Strict fence sent f b) (popupCheck t.fence t.point) (fun _ b _ => Strict fence sent f b) (Just fence) := by
      rw [hepisode.target]
      exact popupCheck_spec hepisode.settled
    refine triple_weaken hcheck ?_ fun _ b _ hb => ⟨sent, f, hepisode.target, hb, hepisode.settled⟩
    rintro b _ rfl
    exact hepisode.strict

theorem kept_body (request : KeyboardRequest) : Triple (fun t _ => Fresh fence t) (request.request.body capturePopupBackend)
    (fun _ t _ => Kept fence t) (JustTransaction fence) := by
  have hrefused : ∀ reason : Reason, Triple (fun t _ => Fresh fence t) (Prog.ret (.error reason) : TransactionProg CapturePopupBackend PopupAnswer)
      (fun _ t _ => Kept fence t) (JustTransaction fence) := fun _ => triple_ret fun _ _ h => h.kept
  cases request with
  | keypress keys holdDurationMs =>
    show Triple _ (keypressBody capturePopupBackend keys holdDurationMs) _ _
    unfold keypressBody
    cases checkedKeys keys false with
    | error reason => exact hrefused reason
    | ok keys =>
      dsimp only
      split
      · exact hrefused _
      · cases holdDurationMs with
        | none => exact fresh_mutate
        | some duration =>
          refine triple_andThen fresh_mutate fun result => ?_
          cases result with
          | error reason => exact triple_ret fun _ _ h => h
          | ok _ => exact triple_andThen kept_elapsedMs fun now => kept_waitUntil _
  | text content =>
    show Triple _ (textBody capturePopupBackend content) _ _
    unfold textBody
    cases textEvents content with
    | error reason => exact hrefused reason
    | ok events => exact fresh_mutate

end PopupTransactions

/-- Input over capture popups is strict in every state that is reached, and the settling loop ends in time. -/
theorem capture_popup_keyboard (request : KeyboardRequest) (fence : WindowsPhysicalInputFence) (proof : NativeCapturePopupProof)
    (script : List PopupAnswer) :
    Justified (PopupAllowed fence) ((sendGuardedCapturePopup request) (beginCapturePopup request fence proof) script).state.backend.record ∧
    ∀ (allowClosed : Bool) (b b' : CapturePopupBackend) (result : Option (Except Reason Unit)) (script rest : List PopupAnswer),
      postcheckMode fence allowClosed b script = .done result b' rest →
      result ≠ none ∧ ∃ started new, b'.record = new ++ .elapsed started :: b.record ∧ reads new ≤ 21 ∧
        (result = some (.ok ()) → Passes allowClosed started new) := by
  constructor
  · have hbegin : Fresh fence (beginCapturePopup request fence proof) := by
      refine ⟨⟨rfl, ⟨justified_nil, rfl, rfl⟩, nofun⟩, rfl⟩
    have hrun : Triple (fun t _ => Fresh fence t) (sendGuardedCapturePopup request) (fun _ t _ => Over fence t) (JustTransaction fence) := by
      unfold sendGuardedCapturePopup
      rw [Request.run_eq]
      exact triple_andThen (kept_body request) over_finish
    have hran := hrun _ script hbegin
    cases hcase : sendGuardedCapturePopup request (beginCapturePopup request fence proof) script with
    | done result t rest =>
      rw [hcase] at hran
      obtain ⟨sent, f, hepisode⟩ := hran
      exact hepisode.strict.record
    | cut t =>
      rw [hcase] at hran
      exact hran
  · intro allowClosed b b' result script rest hdone
    have hpostcheck := postcheckMode_spec (l := b.record) (f := b.closedPostcheckAllowed) fence allowClosed b script ⟨rfl, rfl⟩
    rw [hdone] at hpostcheck
    obtain ⟨started, hlooped⟩ := hpostcheck
    obtain ⟨new, hrecord, -, hreads, hpasses⟩ := hlooped.record
    exact ⟨hlooped.returns, started, new, hrecord, hreads, hpasses⟩

/-! ### A first read that takes long -/

open NativeCapturePopup in
/-- The popup is unchanged, and the read of it takes 150 ms. -/
def slowAnswers : List PopupAnswer :=
  [.elapsed 0, .interrupted false, .gate true, .proof (.ok cloakedProof), .gate true, .state (some (sampleState 1 ⟨0, 0, 10, 10⟩ true)),
    .interrupted false, .elapsed 150000000]

def slowRecord : List Step := [.elapsed 150000000, .read false (.ok ()), .proved true, .elapsed 0]

theorem slow_read : postcheckMode sampleFence false ⟨cloakedProof, false, none, []⟩ slowAnswers =
    .done (some (.ok ())) ⟨cloakedProof, false, none, slowRecord⟩ [] := rfl

theorem capture_popup_keyboard_slow : ∃ started new, slowRecord = new ++ [.elapsed started] ∧ reads new ≤ 21 ∧ Passes false started new := by
  obtain ⟨-, hloop⟩ := capture_popup_keyboard (.text "a") sampleFence cloakedProof []
  obtain ⟨-, started, new, hrecord, hreads, hpasses⟩ := hloop _ _ _ _ _ _ slow_read
  exact ⟨started, new, hrecord, hreads, hpasses rfl⟩

/-- The loop succeeds although no read of it ends in the first 100 ms. -/
theorem success_after_deadline : ∃ now started, milliseconds 100 ≤ now - started ∧
    postcheckMode sampleFence false ⟨cloakedProof, false, none, []⟩ slowAnswers =
      .done (some (.ok ())) ⟨cloakedProof, false, none, [.elapsed now, .read false (.ok ()), .proved true, .elapsed started]⟩ [] :=
  ⟨150000000, 0, by decide, slow_read⟩

end PhysicalInput
end DccCua
