import Mathlib.Data.Finset.Card
import Mathlib.Logic.Relation

/-! # Saturation

A set is passed over until a pass adds nothing, or it has more members than a limit. A pass adds what is related to a
member, and may add what that leads to. -/

namespace Saturation

open Relation

variable {α : Type} [DecidableEq α]

structure Adds (R : α → α → Prop) (pass : Finset α → Finset α) : Prop where
  kept : ∀ group, group ⊆ pass group
  reached : ∀ group, ∀ b ∈ pass group, ∃ a ∈ group, ReflTransGen R a b
  related : ∀ group, ∀ a ∈ group, ∀ b, R a b → b ∈ pass group

section
variable {R : α → α → Prop} {pass : Finset α → Finset α} {limit : Nat}

/-- A set to which a pass adds nothing holds all that its members lead to. -/
theorem Adds.closed {group : Finset α} (h : Adds R pass) (hpass : pass group = group) {a b : α} (ha : a ∈ group) (hab : ReflTransGen R a b) :
    b ∈ group := by
  induction hab with
  | refl => exact ha
  | tail _ hstep ih => exact hpass ▸ h.related group _ ih _ hstep

theorem Adds.trans {group : Finset α} (h : Adds R pass) {c : α} (hc : ∃ b ∈ pass group, ReflTransGen R b c) :
    ∃ a ∈ group, ReflTransGen R a c := by
  obtain ⟨b, hb, hbc⟩ := hc
  obtain ⟨a, ha, hab⟩ := h.reached group b hb
  exact ⟨a, ha, hab.trans hbc⟩

end

end Saturation
