import Mathlib.Algebra.Order.Field.Basic
import Mathlib.Tactic.Linarith
import DccCua.Core.DragPath

/-! # The path test is exact

A fraction of a segment that lies in the rectangle is one of the clip; one strictly between the bounds of the clip lies
in the rectangle. Between them are the fractions at the bounds, which the source tests when they are the same. -/

namespace DccCua
namespace DragPath

open Checks CapturePopup

/-! ### Slabs -/

section Slabs
variable {K : Type} [Field K] [LinearOrder K] [IsStrictOrderedRing K] {start delta low high t : K}

theorem slab_le (hdelta : delta ≠ 0) (hlow : low ≤ start + delta * t) (hhigh : start + delta * t ≤ high) :
    min ((low - start) / delta) ((high - start) / delta) ≤ t ∧ t ≤ max ((low - start) / delta) ((high - start) / delta) := by
  rcases lt_or_gt_of_ne hdelta with hneg | hpos
  · have hlow' : t ≤ (low - start) / delta := by
      rw [le_div_iff_of_neg hneg]
      linarith
    have hhigh' : (high - start) / delta ≤ t := by
      rw [div_le_iff_of_neg hneg]
      linarith
    exact ⟨le_trans (min_le_right _ _) hhigh', le_trans hlow' (le_max_left _ _)⟩
  · have hlow' : (low - start) / delta ≤ t := by
      rw [div_le_iff₀ hpos]
      linarith
    have hhigh' : t ≤ (high - start) / delta := by
      rw [le_div_iff₀ hpos]
      linarith
    exact ⟨le_trans (min_le_left _ _) hlow', le_trans hhigh' (le_max_right _ _)⟩

theorem slab_lt (hdelta : delta ≠ 0) (hle : low ≤ high) (hmin : min ((low - start) / delta) ((high - start) / delta) < t)
    (hmax : t < max ((low - start) / delta) ((high - start) / delta)) :
    low < start + delta * t ∧ start + delta * t < high := by
  rcases lt_or_gt_of_ne hdelta with hneg | hpos
  · have horder : (high - start) / delta ≤ (low - start) / delta := by
      rw [div_le_div_right_of_neg hneg]
      linarith
    rw [min_eq_right horder, div_lt_iff_of_neg hneg] at hmin
    rw [max_eq_left horder, lt_div_iff_of_neg hneg] at hmax
    constructor <;> linarith
  · have horder : (low - start) / delta ≤ (high - start) / delta := by
      rw [div_le_div_iff_of_pos_right hpos]
      linarith
    rw [min_eq_left horder, div_lt_iff₀ hpos] at hmin
    rw [max_eq_right horder, lt_div_iff₀ hpos] at hmax
    constructor <;> linarith

end Slabs

/-! ### One axis -/

/-- The coordinate at a fraction lies from the minimum on within the extent. -/
def Within (start stop minimum extent : Int) (t : Rat) : Prop :=
  (minimum : Rat) ≤ start + ((stop : Rat) - start) * t ∧ start + ((stop : Rat) - start) * t < (minimum : Rat) + extent

section Axis
variable {clip : Clip} {start stop minimum extent : Int} {t : Rat}

theorem within_still (hstill : (stop : Rat) - start = 0) :
    Within start stop minimum extent t ↔ minimum ≤ start ∧ start < minimum + extent := by
  unfold Within
  rw [hstill, zero_mul, add_zero]
  exact_mod_cast Iff.rfl

theorem clipAxis_lower : clip.lower ≤ (clipAxis clip start stop minimum extent).lower := by
  unfold clipAxis
  dsimp only
  split
  · split
    · exact le_refl _
    · exact le_refl _
  · exact le_max_left _ _

theorem clipAxis_upper (hupper : clip.upper ≤ 1) : (clipAxis clip start stop minimum extent).upper ≤ 1 := by
  unfold clipAxis
  dsimp only
  split
  · split
    · norm_num
    · exact hupper
  · exact le_trans (min_le_left _ _) hupper

/-- What lies in the rectangle is kept. -/
theorem clipAxis_keeps (hin : clip.lower ≤ t ∧ t ≤ clip.upper) (hwithin : Within start stop minimum extent t) :
    (clipAxis clip start stop minimum extent).lower ≤ t ∧ t ≤ (clipAxis clip start stop minimum extent).upper := by
  unfold clipAxis
  dsimp only
  split
  · rename_i hstill
    rw [within_still hstill] at hwithin
    rw [if_neg (by omega)]
    exact hin
  · rename_i hmoves
    obtain ⟨hmin, hmax⟩ := slab_le hmoves hwithin.1 (le_of_lt hwithin.2)
    exact ⟨max_le hin.1 hmin, le_min hin.2 hmax⟩

/-- What is strictly inside the clip lies in the rectangle. -/
theorem clipAxis_inside (hextent : 0 ≤ extent) (hclip : 0 ≤ clip.lower)
    (hlower : (clipAxis clip start stop minimum extent).lower < t)
    (hupper : t < (clipAxis clip start stop minimum extent).upper) :
    (clip.lower < t ∧ t < clip.upper) ∧ Within start stop minimum extent t := by
  unfold clipAxis at hlower hupper
  dsimp only at hlower hupper
  split at hlower
  · rename_i hstill
    rw [if_pos hstill] at hupper
    split at hlower
    · -- the segment is beside the rectangle
      rename_i hout
      rw [if_pos hout] at hupper
      dsimp only at hlower hupper
      linarith
    · rename_i hinside
      rw [if_neg hinside] at hupper
      exact ⟨⟨hlower, hupper⟩, (within_still hstill).mpr (by omega)⟩
  · rename_i hmoves
    rw [if_neg hmoves] at hupper
    obtain ⟨hlower, hmin⟩ := max_lt_iff.mp hlower
    obtain ⟨hupper, hmax⟩ := lt_min_iff.mp hupper
    have hle : (minimum : Rat) ≤ (minimum : Rat) + extent := by
      have : (0 : Rat) ≤ extent := by exact_mod_cast hextent
      linarith
    obtain ⟨hlow, hhigh⟩ := slab_lt hmoves hle hmin hmax
    exact ⟨⟨hlower, hupper⟩, le_of_lt hlow, hhigh⟩

end Axis

/-! ### Segments -/

/-- The rectangle holds a point of the segment. -/
def Crosses (start stop : Int × Int) (r : Rect) : Prop :=
  ∃ t : Rat, 0 ≤ t ∧ t ≤ 1 ∧ holds r (pointAlong start stop t) = true

theorem holds_iff {start stop : Int × Int} {r : Rect} {t : Rat} : holds r (pointAlong start stop t) = true ↔
    Within start.1 stop.1 r.left r.width t ∧ Within start.2 stop.2 r.top r.height t := by
  unfold holds pointAlong Within
  rw [Bool.and_eq_true, Bool.and_eq_true, Bool.and_eq_true, decide_eq_true_iff, decide_eq_true_iff, decide_eq_true_iff,
    decide_eq_true_iff, and_assoc]

theorem segmentCrosses_iff {start stop : Int × Int} {r : Rect} (hwidth : 0 ≤ r.width) (hheight : 0 ≤ r.height) :
    segmentCrosses start stop r = true ↔ Crosses start stop r := by
  have hzero : (0 : Rat) ≤ (clipAxis ⟨0, 1⟩ start.1 stop.1 r.left r.width).lower := @clipAxis_lower ⟨0, 1⟩ _ _ _ _
  have hlow : (clipAxis ⟨0, 1⟩ start.1 stop.1 r.left r.width).lower ≤
    (clipAxis (clipAxis ⟨0, 1⟩ start.1 stop.1 r.left r.width) start.2 stop.2 r.top r.height).lower := clipAxis_lower
  have hhigh : (clipAxis (clipAxis ⟨0, 1⟩ start.1 stop.1 r.left r.width) start.2 stop.2 r.top r.height).upper ≤ 1 :=
    clipAxis_upper (@clipAxis_upper ⟨0, 1⟩ _ _ _ _ (le_refl _))
  unfold segmentCrosses
  dsimp only
  rw [Bool.or_eq_true, Bool.and_eq_true, decide_eq_true_eq, decide_eq_true_eq]
  constructor
  · rintro (hlt | ⟨heq, hholds⟩)
    · obtain ⟨t, hbelow, habove⟩ := exists_between hlt
      obtain ⟨⟨hbelow, habove⟩, hsecond⟩ := clipAxis_inside hheight hzero hbelow habove
      obtain ⟨⟨hbelow, habove⟩, hfirst⟩ := clipAxis_inside hwidth (le_refl (0 : Rat)) hbelow habove
      exact ⟨t, le_of_lt hbelow, le_of_lt habove, holds_iff.mpr ⟨hfirst, hsecond⟩⟩
    · exact ⟨_, le_trans hzero hlow, by rw [heq]; exact hhigh, hholds⟩
  · rintro ⟨t, hbelow, habove, hholds⟩
    obtain ⟨hfirst, hsecond⟩ := holds_iff.mp hholds
    obtain ⟨hlower, hupper⟩ := clipAxis_keeps (@clipAxis_keeps ⟨0, 1⟩ _ _ _ _ _ ⟨hbelow, habove⟩ hfirst) hsecond
    rcases lt_or_eq_of_le (le_trans hlower hupper) with hlt | heq
    · exact Or.inl hlt
    · -- the clip is a single fraction
      have ht : t = (clipAxis (clipAxis ⟨0, 1⟩ start.1 stop.1 r.left r.width) start.2 stop.2 r.top r.height).lower :=
        le_antisymm (by rw [heq]; exact hupper) hlower
      exact Or.inr ⟨heq, ht ▸ hholds⟩

theorem mem_segments {points : List (Int × Int)} {start stop : Int × Int} :
    (start, stop) ∈ segments points ↔ ∃ k, points[k]? = some start ∧ points[k + 1]? = some stop := by
  unfold segments
  rw [List.mem_iff_getElem?]
  refine exists_congr fun k => ?_
  rw [List.getElem?_zip_eq_some, List.getElem?_tail]

/-- A point of a segment between consecutive points lies in a region. -/
def Crossed (points : List (Int × Int)) (regions : List Rect) : Prop :=
  ∃ (k : Nat) (start stop : Int × Int), points[k]? = some start ∧ points[k + 1]? = some stop ∧
    ∃ r ∈ regions, Crosses start stop r

theorem pathCrosses_iff {points : List (Int × Int)} {regions : List Rect}
    (hregions : ∀ r ∈ regions, 0 ≤ r.width ∧ 0 ≤ r.height) : pathCrosses points regions = true ↔ Crossed points regions := by
  have hsegment : ∀ start stop : Int × Int, regions.any (segmentCrosses start stop) = true ↔ ∃ r ∈ regions, Crosses start stop r := by
    intro start stop
    rw [List.any_eq_true]
    refine exists_congr fun r => and_congr_right fun hr => ?_
    obtain ⟨hwidth, hheight⟩ := hregions r hr
    rw [segmentCrosses_iff hwidth hheight]
  unfold pathCrosses
  rw [List.any_eq_true]
  constructor
  · rintro ⟨⟨start, stop⟩, hmem, hany⟩
    obtain ⟨k, hstart, hstop⟩ := mem_segments.mp hmem
    exact ⟨k, start, stop, hstart, hstop, (hsegment start stop).mp hany⟩
  · rintro ⟨k, start, stop, hstart, hstop, hcrosses⟩
    exact ⟨(start, stop), mem_segments.mpr ⟨k, hstart, hstop⟩, (hsegment start stop).mpr hcrosses⟩

/-- A path is refused exactly when a point of it lies in a redacted rectangle. -/
theorem path_exact (points : List (Int × Int)) (regions : List Rect) (hregions : ∀ r ∈ regions, 0 ≤ r.width ∧ 0 ≤ r.height) :
    (pathCrosses points regions = true ↔ Crossed points regions) ∧
    ∀ provenance visibility, Json.field? "visibility" provenance = some visibility →
      readRects (visibility.get "redacted_rectangles") = some regions →
      (requireUnredacted points provenance ≠ .ok () ↔ Crossed points regions) := by
  refine ⟨pathCrosses_iff hregions, fun provenance visibility hvisibility hread => ?_⟩
  unfold requireUnredacted
  simp only [hvisibility, hread]
  rw [← pathCrosses_iff hregions, Ne, require_eq_ok, Bool.not_eq_true', Bool.not_eq_false]

/-- A diagonal that touches a region at its left top corner only. -/
theorem path_exact_corner : Crossed [(0, 2), (2, 0)] [⟨1, 1, 3, 3⟩] ∧
    requireUnredacted [(0, 2), (2, 0)] (.obj [("visibility", .obj [("redacted_rectangles", .arr [.arr [.int 1, .int 1, .int 3, .int 3]])])]) ≠
      .ok () := by
  have hexact := path_exact [(0, 2), (2, 0)] [⟨1, 1, 3, 3⟩] (by decide)
  have hcrossed := hexact.1.mp (by decide +kernel)
  exact ⟨hcrossed, (hexact.2 _ _ rfl rfl).mpr hcrossed⟩

/-- The points of an accepted drag leave every redacted rectangle alone. -/
theorem physicalDragPoints_ok {physicalPoint : Nat → Except ComputerUseError (Int × Int)} {steps : Nat} {provenance visibility : Json}
    {points : List (Int × Int)} {regions : List Rect} (hvisibility : Json.field? "visibility" provenance = some visibility)
    (hread : readRects (visibility.get "redacted_rectangles") = some regions)
    (hregions : ∀ r ∈ regions, 0 ≤ r.width ∧ 0 ≤ r.height)
    (h : physicalDragPoints physicalPoint steps provenance = .ok points) : ¬Crossed points regions := by
  simp only [physicalDragPoints, bind_eq_ok, requireUnredacted, hvisibility, hread, require_eq_ok, Except.ok.injEq] at h
  obtain ⟨sampled, -, -, -, -, hopen, rfl⟩ := h
  rw [← pathCrosses_iff hregions, Bool.not_eq_true]
  exact Bool.not_eq_true' _ ▸ hopen

end DragPath
end DccCua
