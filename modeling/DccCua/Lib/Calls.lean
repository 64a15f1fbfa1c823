import DccCua.Lib.Runs
import DccCua.Lib.Script

/-! # Calls of closures

All that a sequence does to its environment is to call the closures that it is given. What they capture is a world of
which nothing is known: a statement about all worlds and closures is one about every behaviour of the environment. Beside
it is kept which calls were made, with their answers, the last first.

`Does P prog Q`: from calls with `P` the program ends, with `Q` of its value and of the calls. -/

namespace Calls

open Runs Script

variable {κ ε δ α β : Type}

structure Logged (κ ε : Type) where
  world : κ
  calls : List ε

abbrev CallProg (κ ε α : Type) := Prog (Logged κ ε) Unit α

/-- Call a closure. -/
def call (closure : κ → α × κ) (entry : α → ε) : CallProg κ ε α :=
  Prog.update fun s => ((closure s.world).1, ⟨(closure s.world).2, entry (closure s.world).1 :: s.calls⟩)

/-- Call a closure that answers nothing. -/
def note (closure : κ → κ) (entry : ε) : CallProg κ ε Unit := Prog.update fun s => ((), ⟨closure s.world, entry :: s.calls⟩)

def Does (P : List ε → Prop) (prog : CallProg κ ε α) (Q : α → List ε → Prop) : Prop :=
  Triple (fun s _ => P s.calls) prog (fun a s _ => Q a s.calls) fun _ => False

/-- The program ends so when nothing has been called before it. -/
def Yields (prog : CallProg κ ε α) (Q : α → List ε → Prop) : Prop := Does (fun calls => calls = []) prog Q

/-- A postcondition from one for values and one for errors. -/
def either (R : α → List ε → Prop) (E : δ → List ε → Prop) : Except δ α → List ε → Prop
  | .ok a => R a
  | .error e => E e

section Rules
variable {P : List ε → Prop} {Q : α → List ε → Prop}

theorem does_ret {a : α} (h : ∀ record, P record → Q a record) : Does P (Prog.ret a : CallProg κ ε α) Q :=
  triple_ret fun s _ hP => h s.calls hP

theorem does_call {closure : κ → α × κ} {entry : α → ε} (h : ∀ record a, P record → Q a (entry a :: record)) :
    Does P (call closure entry) Q :=
  triple_update fun s _ hP => h s.calls _ hP

theorem does_note {closure : κ → κ} {entry : ε} {Q : Unit → List ε → Prop} (h : ∀ record, P record → Q () (entry :: record)) : Does P (note closure entry) Q :=
  triple_update fun s _ hP => h s.calls hP

theorem does_andThen {R : β → List ε → Prop} {p : CallProg κ ε β} {f : β → CallProg κ ε α} (hp : Does P p R)
    (hf : ∀ b, Does (R b) (f b) Q) : Does P (p.andThen f) Q :=
  triple_andThen hp hf

theorem does_weaken {R : List ε → Prop} {S : α → List ε → Prop} {prog : CallProg κ ε α} (h : Does R prog S)
    (hP : ∀ record, P record → R record) (hQ : ∀ a record, S a record → Q a record) : Does P prog Q :=
  triple_weaken h (fun s _ hP' => hP s.calls hP') fun a s _ hS => hQ a s.calls hS

/-- A fact that does not depend on the record. -/
theorem does_fact {fact : Prop} {prog : CallProg κ ε α} (h : fact → Does P prog Q) : Does (fun record => P record ∧ fact) prog Q :=
  triple_fact h

theorem does_exists {γ : Type} {P : γ → List ε → Prop} {prog : CallProg κ ε α} (h : ∀ c, Does (P c) prog Q) :
    Does (fun record => ∃ c, P c record) prog Q :=
  triple_exists h

end Rules

section Errors
variable {P : List ε → Prop} {R : α → List ε → Prop} {Q : Except δ β → List ε → Prop}

theorem does_tryThen {p : CallProg κ ε (Except δ α)} {f : α → CallProg κ ε (Except δ β)}
    (hp : Does P p (either R fun e => Q (.error e))) (hf : ∀ a, Does (R a) (f a) Q) : Does P (p.tryThen f) Q := by
  refine does_andThen hp fun result => ?_
  cases result with
  | ok a => exact hf a
  | error e => exact does_ret fun _ h => h

/-- A call that may fail. -/
theorem does_tryCall {E : δ → List ε → Prop} {closure : κ → Except δ α × κ} {entry : Except δ α → ε}
    (hok : ∀ record a, P record → R a (entry (.ok a) :: record))
    (herror : ∀ record e, P record → E e (entry (.error e) :: record)) : Does P (call closure entry) (either R E) := by
  refine does_call fun record result hP => ?_
  cases result with
  | ok a => exact hok record a hP
  | error e => exact herror record e hP

/-- A check calls nothing. -/
theorem does_check {E : δ → List ε → Prop} {check : Except δ α} (hok : ∀ record a, check = .ok a → P record → R a record)
    (herror : ∀ record e, P record → E e record) : Does P (Prog.ret check : CallProg κ ε _) (either R E) := by
  refine does_ret fun record hP => ?_
  cases hcheck : check with
  | ok a => exact hok record a hcheck hP
  | error e => exact herror record e hP

end Errors

/-! ### Counting calls -/

/-- A call that none like it may come before is made once at most. -/
theorem countP_le_one {P : ε → List ε → Prop} {p : ε → Bool} (honce : ∀ a earlier, P a earlier → p a = true → ∀ b ∈ earlier, p b = false) :
    ∀ {record : List ε}, Justified P record → record.countP p ≤ 1
  | [], _ => Nat.zero_le 1
  | a :: record, h => by
    obtain ⟨hfirst, hrest⟩ := justified_cons_iff.mp h
    have ih := countP_le_one honce hrest
    by_cases ha : p a = true
    · have hnone : record.countP p = 0 := by
        refine List.countP_eq_zero.mpr fun b hb hpb => ?_
        rw [honce a record hfirst ha b hb] at hpb
        cases hpb
      exact Nat.le_of_eq (by rw [List.countP_cons_of_pos ha, hnone])
    · rwa [List.countP_cons_of_neg ha]

/-! ### The first answer -/

/-- What the first call gives that gives anything. -/
def firstOf (f : ε → Option α) (record : List ε) : Option α := record.reverse.findSome? f

@[simp] theorem firstOf_nil {f : ε → Option α} : firstOf f [] = none := rfl

@[simp] theorem firstOf_cons {f : ε → Option α} {a : ε} {record : List ε} : firstOf f (a :: record) = (firstOf f record).or (f a) := by
  simp [firstOf, List.findSome?_append]

end Calls
