import Mathlib.Logic.Basic

/-! # Validators with early returns

A validator is a sequence of checks in `Except ε`, each of which returns its error at once. It
succeeds exactly when every check holds; `simp` with the lemmas of this file turns "it returned `ok`"
into the conjunction of its tests. -/

namespace Checks

variable {ε α β : Type}

/-- Go on if `c` holds, else return the error `e`. -/
def require (c : Bool) (e : ε) : Except ε Unit := if c then .ok () else .error e

@[simp] theorem require_eq_ok {c : Bool} {e : ε} {u : Unit} : require c e = .ok u ↔ c = true := by
  cases c <;> simp [require]

theorem require_eq_error {c : Bool} {e e' : ε} : require c e = .error e' ↔ c = false ∧ e = e' := by
  cases c <;> simp [require]

/-- The check, if `c` holds. -/
def onlyIf (c : Bool) (check : Except ε Unit) : Except ε Unit := if c then check else .ok ()

@[simp] theorem onlyIf_eq_ok {c : Bool} {check : Except ε Unit} {u : Unit} :
    onlyIf c check = .ok u ↔ (c = true → check = .ok ()) := by
  cases c <;> simp [onlyIf]

@[simp] theorem bind_eq_ok {x : Except ε α} {f : α → Except ε β} {b : β} :
    (x >>= f) = .ok b ↔ ∃ a, x = .ok a ∧ f a = .ok b := by
  cases x <;> simp [bind, Except.bind]

@[simp] theorem elim_eq_ok {o : Option α} {f : α → Except ε Unit} {u : Unit} :
    o.elim (.ok ()) f = .ok u ↔ ∀ a, o = some a → f a = .ok () := by
  cases o <;> simp

/-- A check under another error. -/
def mapError (f : ε → α) (x : Except ε β) : Except α β :=
  match x with
  | .ok b => .ok b
  | .error e => .error (f e)

@[simp] theorem mapError_eq_ok {f : ε → α} {x : Except ε β} {b : β} : mapError f x = .ok b ↔ x = .ok b := by
  cases x <;> simp [mapError]

/-! ### Errors -/

theorem error_of_require {P : ε → Prop} {c : Bool} {e : ε} (he : P e) (e' : ε) (h : require c e = .error e') : P e' := by
  cases c with
  | true => cases h
  | false =>
    cases h
    exact he

/-- An error of two checks is one of the first or of the second. -/
theorem error_of_bind {P : ε → Prop} {x : Except ε α} {f : α → Except ε β} (hx : ∀ e, x = .error e → P e)
    (hf : ∀ a e, f a = .error e → P e) (e : ε) (h : (x >>= f) = .error e) : P e := by
  cases x with
  | ok a => exact hf a e h
  | error e' =>
    cases h
    exact hx e rfl

end Checks
