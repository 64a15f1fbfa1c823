import DccCua.Lib.Runs
import DccCua.Theorems.GuardedSteps
import DccCua.Theorems.HeldInput

/-! # Every mutation is checked

The record of a transaction is justified: directly before each mutation the target has passed a check, for the point in
effect, and nothing has failed until then. A drag has checked its whole path before it begins. -/

namespace DccCua
namespace PhysicalInput

open Runs Script

/-- The cursor is moved, or events are sent that are no cleanup. -/
def Mutation : Step → Prop
  | .batch cleanup _ _ => cleanup = false
  | .cursor _ _ => True
  | _ => False

/-- A check has failed, or the input was interrupted. -/
def Failed : Step → Prop
  | .check _ _ _ (.error _) => True
  | .interrupted value => value = true
  | _ => False

/-- The point in effect at a mutation. -/
def Request.pointFor : Request → Step → Option Point
  | .click point _ _ _, _ => some point
  | .drag _ _ _, .batch _ [.move x y] _ => some (x, y)
  | .drag points _ _, .batch _ [.mouse _ true] _ => points.getLast?
  | .drag points _ _, _ => points.head?
  | _, _ => none

/-- The path of a drag. -/
def Request.path : Request → List Point
  | .drag points _ _ => points
  | _ => []

/-- A mutation follows a check that has passed, and a cleanup only releases. -/
def Allowed (fence : WindowsPhysicalInputFence) (request : Request) (step : Step) (earlier : List Step) : Prop :=
  (Mutation step → earlier.head? = some (.check fence (request.pointFor step) false (.ok ())) ∧ (∀ before ∈ earlier, ¬Failed before) ∧
    ∀ point ∈ request.path, .check fence (some point) false (.ok ()) ∈ earlier) ∧
  ∀ events count, step = .batch true events count → ∀ event ∈ events, event.isRelease = true

structure Sound (fence : WindowsPhysicalInputFence) (request : Request) (t : NativeTransaction) : Prop where
  target : t.fence = fence
  record : Justified (Allowed fence request) t.backend

/-- It is sound, and keeps releases only. -/
structure Ready (fence : WindowsPhysicalInputFence) (request : Request) (t : NativeTransaction) : Prop extends Sound fence request t where
  releases : ∀ event ∈ t.pendingReleases, event.isRelease = true

/-- Nothing has failed, some points are checked, and one is in effect. -/
structure Going (fence : WindowsPhysicalInputFence) (request : Request) (path : List Point) (point : Option Point)
    (t : NativeTransaction) : Prop extends Ready fence request t where
  unfailed : ∀ step ∈ t.backend, ¬Failed step
  checked : ∀ point ∈ path, .check fence (some point) false (.ok ()) ∈ t.backend
  here : t.point = point

section
variable {fence : WindowsPhysicalInputFence} {request : Request} {path : List Point} {point : Option Point}

/-- A look changes nothing, and is always allowed. -/
def Look : Step → Prop
  | .batch _ _ _ => False
  | .cursor _ _ => False
  | _ => True

theorem allowed_look {step : Step} (h : Look step) (earlier : List Step) : Allowed fence request step earlier := by
  cases step with
  | batch cleanup events count => exact h.elim
  | cursor point moved => exact h.elim
  | _ => exact ⟨False.elim, nofun⟩

theorem Sound.look {t : NativeTransaction} (h : Sound fence request t) {step : Step} (hlook : Look step) :
    Sound fence request (t.after [step]) :=
  ⟨h.target, h.record.cons (allowed_look hlook _)⟩

theorem Ready.look {t : NativeTransaction} (h : Ready fence request t) {step : Step} (hlook : Look step) :
    Ready fence request (t.after [step]) :=
  ⟨h.toSound.look hlook, h.releases⟩

theorem Going.look {t : NativeTransaction} (h : Going fence request path point t) {step : Step} (hlook : Look step)
    (hstep : ¬Failed step) : Going fence request path point (t.after [step]) where
  toReady := h.toReady.look hlook
  unfailed := List.forall_mem_cons.mpr ⟨hstep, h.unfailed⟩
  checked p hp := List.mem_cons_of_mem _ (h.checked p hp)
  here := h.here

/-- A mutation right after its check. -/
theorem Going.received {t : NativeTransaction} (h : Going fence request request.path point t) {events : List Event} {cursor : Option Point}
    {receipt : MutationReceipt} {step : Step} (hstep : Dispatched false events cursor receipt step)
    (hpoint : request.pointFor step = point) :
    Going fence request request.path point ((t.after [step, .check t.fence t.point false (.ok ())]).received events receipt) := by
  have hchecked := h.look (show Look (.check t.fence t.point false (.ok ())) from trivial) not_false
  have hallowed : Allowed fence request step (.check t.fence t.point false (.ok ()) :: t.backend) := by
    refine ⟨fun _ => ⟨?_, hchecked.unfailed, hchecked.checked⟩, ?_⟩
    · rw [List.head?_cons, h.target, h.here, hpoint]
    · rintro sent count rfl
      cases hstep
  have hunfailed : ¬Failed step := by
    cases hstep <;> exact not_false
  exact ⟨⟨⟨h.target, hchecked.record.cons hallowed⟩, releases_settle h.releases⟩, List.forall_mem_cons.mpr ⟨hunfailed, hchecked.unfailed⟩,
    fun p hp => List.mem_cons_of_mem _ (hchecked.checked p hp), h.here⟩

/-- A program goes on, or ends ready for the cleanup. -/
abbrev Goes (fence : WindowsPhysicalInputFence) (request : Request) (before after : List Point × Option Point)
    (prog : TransactionProg NativeRecord NativeAnswer) : Prop :=
  Triple (fun t _ => Going fence request before.1 before.2 t) prog
    (orError (fun _ t _ => Going fence request after.1 after.2 t) fun _ t _ => Ready fence request t) (Sound fence request)

theorem goes_mutate {events : List Event} {cursor : Option Point}
    (hpoint : ∀ receipt step, Dispatched false events cursor receipt step → request.pointFor step = point) :
    Goes fence request (request.path, point) (request.path, point) (mutate nativeBackend events cursor) := by
  refine triple_weaken (mutate_spec (R := fun t => Going fence request request.path point t) (fun _ h => h.toSound)
    fun t h => h.toSound.look trivial) (fun _ _ h => h) fun result t rest h => ?_
  cases result with
  | ok _ =>
    obtain ⟨t₀, step, receipt, ht₀, hstep, -, rfl⟩ := h
    exact ht₀.received hstep (hpoint receipt step hstep)
  | error reason =>
    rcases h with ⟨t₀, reason, ht₀, rfl⟩ | ⟨t₀, step, receipt, ht₀, hstep, rfl⟩
    · exact ht₀.toReady.look trivial
    · exact (ht₀.received hstep (hpoint receipt step hstep)).toReady

theorem goes_checkAt (point' : Point) : Goes fence request (path, point) (point' :: path, point) (checkAt nativeBackend (some point')) := by
  refine triple_weaken (checkAt_spec (R := fun t => Going fence request path point t) fun _ h => h.toSound) (fun _ _ h => h) ?_
  rintro result t _ ⟨t₀, ht₀, rfl⟩
  cases result with
  | ok _ =>
    have hgoing := ht₀.look (show Look (.check t₀.fence (some point') false (.ok ())) from trivial) not_false
    refine ⟨hgoing.toReady, hgoing.unfailed, List.forall_mem_cons.mpr ⟨?_, hgoing.checked⟩, hgoing.here⟩
    rw [← ht₀.target]
    exact List.mem_cons_self
  | error reason => exact ht₀.toReady.look trivial

theorem goes_checkNone : Goes fence request (path, point) (path, point) (checkAt nativeBackend none) := by
  refine triple_weaken (checkAt_spec (R := fun t => Going fence request path point t) fun _ h => h.toSound) (fun _ _ h => h) ?_
  rintro result t _ ⟨t₀, ht₀, rfl⟩
  cases result with
  | ok _ => exact ht₀.look trivial not_false
  | error reason => exact ht₀.toReady.look trivial

theorem goes_checkHere : Goes fence request (path, point) (path, point) (checkHere nativeBackend) := by
  refine triple_weaken (checkHere_spec (R := fun t => Going fence request path point t) fun _ h => h.toSound) (fun _ _ h => h) ?_
  rintro result t _ ⟨t₀, ht₀, rfl⟩
  cases result with
  | ok _ => exact ht₀.look trivial not_false
  | error reason => exact ht₀.toReady.look trivial

theorem going_elapsedMs : Triple (fun t _ => Going fence request path point t) (onBackend nativeBackend.elapsedMs)
    (fun _ t _ => Going fence request path point t) (Sound fence request) :=
  triple_weaken (elapsedMs_spec fun _ h => h.toSound) (fun _ _ h => h) fun _ _ _ ⟨_, ht₀, ht⟩ => ht ▸ ht₀.look trivial not_false

theorem going_pause (ms : Nat) : Triple (fun t _ => Going fence request path point t) (onBackend (nativeBackend.pause ms))
    (fun _ t _ => Going fence request path point t) (Sound fence request) :=
  triple_weaken pause_spec (fun _ _ h => h) fun _ _ _ ⟨_, ht₀, ht⟩ => ht ▸ ht₀.look trivial not_false

theorem goes_holdGuard : Goes fence request (path, point) (path, point) (holdGuard nativeBackend) := by
  refine triple_andThen (interrupted_spec (R := fun t => Going fence request path point t) fun _ h => h.toSound) fun interrupted => ?_
  split
  · refine triple_ret ?_
    rintro t _ ⟨t₀, ht₀, rfl⟩
    exact ht₀.toReady.look trivial
  · rename_i hclear
    refine triple_weaken goes_checkNone ?_ fun _ _ _ h => h
    rintro t _ ⟨t₀, ht₀, rfl⟩
    exact ht₀.look trivial hclear

theorem goes_refused (reason : Reason) : Goes fence request (path, point) (path, point) (Prog.ret (.error reason)) :=
  triple_ret fun _ _ h => h.toReady

theorem goes_done : Goes fence request (path, point) (path, point) (Prog.ret (.ok ())) := triple_ret fun _ _ h => h

theorem goes_waitUntil {guard : TransactionProg NativeRecord NativeAnswer} (h : Goes fence request (path, point) (path, point) guard)
    (deadline : Nat) : Goes fence request (path, point) (path, point) (waitUntil nativeBackend guard deadline) := by
  let after : Except Reason Unit → NativeTransaction → Prop := fun result t =>
    orError (fun _ t _ => Going fence request path point t) (fun _ t _ => Ready fence request t) result t ([] : List NativeAnswer)
  refine triple_weaken (triple_roundsUntil (I := fun t => Going fence request path point t) (S := after) (fun _ h => h.toSound) ?_)
    (fun _ _ h => h) fun result t rest h => by cases result <;> exact h
  refine triple_andThen going_elapsedMs fun now => ?_
  split
  · refine triple_andThen h fun result => ?_
    cases result with
    | error reason => exact triple_ret fun _ _ h => h
    | ok _ => exact triple_andThen going_elapsedMs fun now => triple_andThen (going_pause _) fun _ => triple_ret fun _ _ h => h
  · exact triple_ret fun _ _ h => h

theorem goes_tryThen {before between after : List Point × Option Point} {p : TransactionProg NativeRecord NativeAnswer}
    {f : Unit → TransactionProg NativeRecord NativeAnswer} (hp : Goes fence request before between p)
    (hf : ∀ u, Goes fence request between after (f u)) : Goes fence request before after (p.tryThen f) :=
  triple_tryThen hp hf

/-! ### Operations -/

theorem goes_clicks {batch : List Event}
    (hpoint : ∀ receipt step, Dispatched false batch none receipt step → request.pointFor step = point) : ∀ count,
    Goes fence request (request.path, point) (request.path, point) (clicks nativeBackend batch count)
  | 0 => goes_done
  | n + 1 => by
    refine goes_tryThen (goes_mutate hpoint) fun _ => triple_andThen (R := fun _ t _ => Going fence request request.path point t) ?_ fun _ =>
      goes_clicks hpoint n
    split
    · exact triple_ret fun _ _ h => h
    · exact going_pause 80

theorem goes_preflight : ∀ (points path : List Point), Goes fence request (path, point) (points.reverse ++ path, point)
    (preflight nativeBackend points)
  | [], _ => goes_done
  | p :: points, path => by
    rw [List.reverse_cons, List.append_assoc, List.singleton_append]
    exact goes_tryThen (goes_checkAt p) fun _ => goes_preflight points (p :: path)

theorem goes_setPoint (p : Point) : Goes fence request (path, point) (path, some p) (setPoint p) :=
  triple_update fun _ _ h => ⟨⟨⟨h.target, h.record⟩, h.releases⟩, h.unfailed, h.checked, rfl⟩

/-- The pointer moves under a check for the point that it reaches. -/
theorem goes_dragMoves {points : List Point} {durationMs : Nat} {button : WindowsPointerButton} {started total : Nat} :
    ∀ (index : Nat) (rest : List Point) (here : Option Point),
      Goes fence (.drag points durationMs button) (points, here) (points, rest.getLast?.or here)
        (dragMoves nativeBackend started durationMs total index rest)
  | _, [], _ => goes_done
  | index, p :: rest, here => by
    have hlast : (p :: rest).getLast?.or here = rest.getLast?.or (some p) := by
      cases rest with
      | nil => rfl
      | cons q rest =>
        rw [List.getLast?_cons_cons, List.getLast?_cons, Option.or_some]
        rfl
    rw [hlast]
    refine goes_tryThen (goes_waitUntil goes_checkHere _) fun _ => goes_tryThen (goes_setPoint p) fun _ => goes_tryThen ?_ fun _ =>
      goes_dragMoves (index + 1) rest (some p)
    refine goes_mutate fun receipt step hstep => ?_
    cases hstep
    rfl

/-- Each operation goes on to its end, or stops ready for the cleanup. -/
theorem Request.goes (request : Request) : ∃ after, Goes fence request ([], request.startPoint) after (request.body nativeBackend) := by
  cases request with
  | click p count button modifiers =>
    refine ⟨([], some p), ?_⟩
    have hpoint : ∀ {events : List Event} {cursor : Option Point} (receipt : MutationReceipt) (step : Step),
        Dispatched false events cursor receipt step → (Request.click p count button modifiers).pointFor step = some p := fun _ _ _ => rfl
    show Goes _ _ _ _ (clickBody nativeBackend p count button modifiers)
    unfold clickBody
    split
    · exact goes_refused _
    · cases hkeys : checkedKeys modifiers true with
      | error reason => exact goes_refused reason
      | ok keys =>
        refine goes_tryThen (goes_mutate hpoint) fun _ => goes_tryThen ?_ fun _ => goes_clicks hpoint count
        split
        · exact goes_done
        · exact goes_mutate hpoint
  | drag points durationMs button =>
    show ∃ after, Goes _ _ _ after (dragBody nativeBackend points durationMs button)
    unfold dragBody
    split
    · exact ⟨([], points.head?), goes_refused _⟩
    · rename_i hvalid
      have hlast : points.tail.getLast?.or points.head? = points.getLast? := by
        cases points with
        | nil => rfl
        | cons p rest => rw [List.tail_cons, List.head?_cons, Option.or_some, List.getLast?_cons]
      refine ⟨(points, points.getLast?), ?_⟩
      have hmembers : ∀ {p : Point}, p ∈ points → p ∈ points.reverse ++ [] := by
        intro p hp
        rw [List.append_nil]
        exact List.mem_reverse.mpr hp
      have hpreflight : Goes fence (.drag points durationMs button) ([], points.head?) (points, points.head?)
          (preflight nativeBackend points) := by
        refine triple_weaken (goes_preflight points []) (fun _ _ h => h) fun result t rest h => ?_
        cases result with
        | ok _ => exact ⟨h.toReady, h.unfailed, fun p hp => h.checked p (hmembers hp), h.here⟩
        | error reason => exact h
      have hstart : ∀ {cursor : Option Point} (receipt : MutationReceipt) (step : Step), Dispatched false [] cursor receipt step →
          (Request.drag points durationMs button).pointFor step = points.head? := by
        intro cursor receipt step hstep
        cases hstep with
        | batch count => rfl
        | cursor p moved => rfl
      refine goes_tryThen hpreflight fun _ => goes_tryThen (goes_mutate hstart) fun _ => goes_tryThen (goes_mutate ?_) fun _ =>
        triple_andThen going_elapsedMs fun started => goes_tryThen (goes_dragMoves 1 points.tail points.head?) fun _ => ?_
      · intro receipt step hstep
        cases hstep
        rfl
      · rw [hlast]
        refine goes_mutate fun receipt step hstep => ?_
        cases hstep
        rfl
  | keypress names duration =>
    refine ⟨([], none), ?_⟩
    have hpoint : ∀ {events : List Event} {cursor : Option Point} (receipt : MutationReceipt) (step : Step),
        Dispatched false events cursor receipt step → (Request.keypress names duration).pointFor step = none := fun _ _ _ => rfl
    show Goes _ _ _ _ (keypressBody nativeBackend names duration)
    unfold keypressBody
    cases hkeys : checkedKeys names false with
    | error reason => exact goes_refused reason
    | ok keys =>
      dsimp only
      split
      · exact goes_refused _
      · cases duration with
        | none => exact goes_mutate hpoint
        | some duration =>
          exact goes_tryThen (goes_mutate hpoint) fun _ => triple_andThen going_elapsedMs fun now => goes_waitUntil goes_holdGuard _
  | text content =>
    refine ⟨([], none), ?_⟩
    show Goes _ _ _ _ (textBody nativeBackend content)
    unfold textBody
    cases hevents : textEvents content with
    | error reason => exact goes_refused reason
    | ok events => exact goes_mutate fun _ _ _ => rfl

theorem finish_sound (result : Except Reason Unit) :
    Triple (fun t _ => Ready fence request t) (finish nativeBackend result) (fun _ t _ => Sound fence request t) (Sound fence request) := by
  refine triple_andThen (R := fun _ t _ => Sound fence request t) ?_ fun cleaned => ?_
  · refine triple_weaken (cleanup_spec (R := fun t => Ready fence request t) (fun _ h => h.toSound) fun _ h => h.releases) (fun _ _ h => h) ?_
    rintro cleaned t _ (⟨hready, -, -⟩ | ⟨t₀, count, hready, -, -, hrecord, hfence, -⟩)
    · exact hready.toSound
    · refine ⟨hfence.trans hready.target, ?_⟩
      rw [hrecord]
      refine hready.record.cons ⟨nofun, ?_⟩
      rintro events count heq event hevent
      cases heq
      exact hready.releases event (List.mem_reverse.mp hevent)
  · refine triple_andThen (R := fun _ t _ => Sound fence request t) ?_ fun checked => triple_read fun _ _ h => h
    unfold postcheck
    split
    · exact triple_ret fun _ _ h => h
    · exact triple_ret fun _ _ h => h
    · refine triple_weaken (checkHere_spec fun _ h => h) (fun _ _ h => h) ?_
      rintro checked t _ ⟨t₀, ht₀, rfl⟩
      exact ht₀.look trivial

end

/-- In every state that is reached, each mutation was allowed by what came before it. -/
theorem guarded_checks (request : Request) (fence : WindowsPhysicalInputFence) (script : List NativeAnswer) :
    Justified (Allowed fence request) (request.run nativeBackend (request.begin [] fence) script).state.backend := by
  have hbegin : Going fence request [] request.startPoint (request.begin [] fence) :=
    ⟨⟨⟨rfl, justified_nil⟩, by simp [Request.begin]⟩, by simp [Request.begin], by simp, rfl⟩
  obtain ⟨after, hbody⟩ := @Request.goes fence request
  have hrun : Triple (fun t _ => Going fence request [] request.startPoint t) (request.run nativeBackend)
      (fun _ t _ => Sound fence request t) (Sound fence request) := by
    rw [request.run_eq]
    refine triple_andThen (R := fun _ t _ => Ready fence request t) ?_ finish_sound
    refine triple_weaken hbody (fun _ _ h => h) fun result t rest h => ?_
    cases result with
    | ok _ => exact h.toReady
    | error reason => exact h
  have hran := hrun _ script hbegin
  cases hcase : request.run nativeBackend (request.begin [] fence) script with
  | done result t rest =>
    rw [hcase] at hran
    exact hran.record
  | cut t =>
    rw [hcase] at hran
    exact hran.record

end PhysicalInput
end DccCua
