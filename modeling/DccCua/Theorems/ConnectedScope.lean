import DccCua.Windows.ConnectedScope
import DccCua.Lib.Checks

/-! # Connected scopes are the windows that owners connect

The passes find the windows that links lead to, and the walk finds that the owners of each end. The number of rows is
compared with the number of windows, which tells that every window is listed once only if every one is listed. -/

namespace DccCua
namespace ConnectedScope

open Checks Relation Saturation

section
variable (census : Census)

def Owns (a b : Nat) : Prop := (a, b) ∈ census.windows ∧ b ≠ 0

def Listed (w : Nat) : Prop := w ∈ census.windows.map (·.1)

/-- The owners of a window, by the first row of each, end with none. -/
inductive Ends : Nat → Prop where
  | none : Ends 0
  | owner {w : Nat} {row : Nat × Nat} (hw : w ≠ 0) (hrow : census.windows.find? (fun row => row.1 = w) = some row) (h : Ends row.2) : Ends w

/-- The scope of a root may be mutated. -/
structure Sound (root : Nat) (members : Finset Nat) : Prop where
  listed : Listed census root
  small : members.card ≤ maxAffectedWindows
  once : ∀ w ∈ members, (census.windows.map (·.1)).count w = 1
  acyclic : ∀ w ∈ members, ¬TransGen (Owns census) w w

/-- What the function tests. -/
structure Passes (root : Nat) (members : Finset Nat) : Prop where
  listed : Listed census root
  small : members.card ≤ maxAffectedWindows
  rows : (inOrder census.windows members).length = members.card
  ends : ∀ w ∈ inOrder census.windows members, Ends census w

end

/-! ### The passes -/

section
variable {census : Census} {root : Nat} {members : Finset Nat}

/-- The walk of a window takes as many steps as owners follow. -/
inductive EndsIn (census : Census) : Nat → Nat → Prop where
  | none : EndsIn census 0 0
  | owner {n w : Nat} {row : Nat × Nat} (hw : w ≠ 0) (hrow : census.windows.find? (fun row => row.1 = w) = some row)
      (h : EndsIn census n row.2) : EndsIn census (n + 1) w

theorem EndsIn.unique {n m w : Nat} (h : EndsIn census n w) (h' : EndsIn census m w) : n = m := by
  induction h generalizing m with
  | none =>
    cases h' with
    | none => rfl
    | owner hw => exact absurd rfl hw
  | owner hw hrow _ ih =>
    cases h' with
    | none => exact absurd rfl hw
    | owner _ hrow' h' =>
      rw [hrow, Option.some.injEq] at hrow'
      exact congrArg Nat.succ (ih (hrow' ▸ h'))

/-- The handles in the census. -/
def handles (census : Census) : Finset Nat := (census.windows.map (·.1)).toFinset

end

end ConnectedScope
end DccCua
