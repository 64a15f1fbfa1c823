import Mathlib.Algebra.Order.Floor.Ring
import Mathlib.Data.Rat.Floor
import Mathlib.Tactic.Linarith

/-! # Rounding to the nearest integer

The nearest integer, and halfway the one that is farther from zero. -/

namespace Rounding

variable {K : Type} [Field K] [LinearOrder K] [IsStrictOrderedRing K] [FloorRing K]

def roundAway (q : K) : Int := if 0 ≤ q then ⌊q + 1 / 2⌋ else -⌊1 / 2 - q⌋

theorem roundAway_of_nonneg {q : K} (h : 0 ≤ q) : roundAway q = ⌊q + 1 / 2⌋ := if_pos h

theorem roundAway_neg {q : K} : roundAway (-q) = -roundAway q := by
  unfold roundAway
  rcases lt_trichotomy q 0 with hq | rfl | hq
  · rw [if_pos (by linarith), if_neg (by linarith), neg_neg]
    congr 1
    ring
  · simp only [neg_zero, le_refl, if_pos, zero_add]
    norm_num
  · rw [if_neg (by linarith), if_pos (by linarith)]
    congr 2
    ring

@[simp] theorem roundAway_intCast (n : Int) : roundAway (n : K) = n := by
  have hhalf : ∀ m : Int, ⌊(m : K) + 1 / 2⌋ = m := by
    intro m
    rw [Int.floor_eq_iff]
    constructor <;> linarith
  unfold roundAway
  split
  · exact hhalf n
  · rw [show (1 / 2 - n : K) = ((-n : Int) : K) + 1 / 2 by push_cast; ring, hhalf, neg_neg]

theorem roundAway_mono {p q : K} (h : p ≤ q) : roundAway p ≤ roundAway q := by
  unfold roundAway
  split
  · rename_i hp
    rw [if_pos (le_trans hp h)]
    exact Int.floor_le_floor (by linarith)
  · split
    · rename_i hp hq
      have hleft : 0 ≤ ⌊1 / 2 - p⌋ := Int.floor_nonneg.mpr (by linarith)
      have hright : 0 ≤ ⌊q + 1 / 2⌋ := Int.floor_nonneg.mpr (by linarith)
      omega
    · exact neg_le_neg (Int.floor_le_floor (by linarith))

end Rounding
