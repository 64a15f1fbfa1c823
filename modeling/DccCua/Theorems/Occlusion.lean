import DccCua.Windows.Occlusion

/-! # Redaction is exact

What is hidden of a target is what a visible root above it holds. The spans of a row are merged in the order of their
starts; a row state stands for the spans that are merged, and keeps count of the columns below the last of their ends. -/

namespace DccCua
namespace Occlusion

open Rect

/-! ### Pixels -/

def pixelAt (pixels : List UInt8) (k : Nat) : List UInt8 := (pixels.drop (k * 4)).take 4

theorem length_setPixel {pixels : List UInt8} {k : Nat} (h : k * 4 + 4 ≤ pixels.length) :
    (setPixel pixels k).length = pixels.length := by
  simp only [setPixel, blackPixel, List.length_append, List.length_take, List.length_drop, List.length_cons, List.length_nil]
  omega

theorem pixelAt_setPixel {pixels : List UInt8} {k : Nat} (h : k * 4 + 4 ≤ pixels.length) (j : Nat) :
    pixelAt (setPixel pixels k) j = if j = k then blackPixel else pixelAt pixels j := by
  have hlength : (pixels.take (k * 4)).length = k * 4 := by
    rw [List.length_take]
    omega
  unfold pixelAt setPixel
  rw [List.append_assoc]
  rcases Nat.lt_trichotomy j k with hlt | rfl | hgt
  · rw [if_neg (Nat.ne_of_lt hlt), List.drop_append_of_le_length (by omega), List.take_append_of_le_length (by
      rw [List.length_drop]
      omega), List.drop_take, List.take_take]
    congr 1
    omega
  · rw [if_pos rfl, List.drop_left' hlength]
    rfl
  · rw [if_neg (Nat.ne_of_gt hgt), List.drop_append, hlength, List.drop_eq_nil_of_le (by omega), List.nil_append,
      List.drop_append, List.drop_eq_nil_of_le (by simp [blackPixel]; omega), List.nil_append, List.drop_drop]
    congr 2
    simp only [blackPixel, List.length_cons, List.length_nil]
    omega

theorem blacken_pixels : ∀ {count : Nat} {pixels : List UInt8} {first : Nat}, (first + count) * 4 ≤ pixels.length →
    (blacken pixels first count).length = pixels.length ∧
      ∀ k, pixelAt (blacken pixels first count) k = if first ≤ k ∧ k < first + count then blackPixel else pixelAt pixels k
  | 0, pixels, first, _ => ⟨rfl, fun k => by rw [blacken, if_neg (by omega)]⟩
  | count + 1, pixels, first, h => by
    have hfits : first * 4 + 4 ≤ pixels.length := by omega
    obtain ⟨hlength, hpixel⟩ := @blacken_pixels count (setPixel pixels first) (first + 1)
      (by rw [length_setPixel hfits]; omega)
    refine ⟨hlength.trans (length_setPixel hfits), fun k => ?_⟩
    rw [blacken, hpixel, pixelAt_setPixel hfits]
    by_cases hafter : first + 1 ≤ k ∧ k < first + 1 + count
    · rw [if_pos hafter, if_pos (by omega)]
    · rw [if_neg hafter]
      by_cases hfirst : k = first
      · rw [if_pos hfirst, if_pos (by omega)]
      · rw [if_neg hfirst, if_neg (by omega)]

/-! ### Rows -/

def InSpans (spans : List (Nat × Nat)) (x : Nat) : Prop := ∃ span ∈ spans, span.1 ≤ x ∧ x < span.2

/-- The row state after some spans. -/
structure Merged (row width : Nat) (original : List UInt8) (done : List (Nat × Nat)) (s : RowState) : Prop where
  length : s.pixels.length = original.length
  black : ∀ x, InSpans done x → pixelAt s.pixels (row + x) = blackPixel
  kept : ∀ k, (∀ x, InSpans done x → k ≠ row + x) → pixelAt s.pixels k = pixelAt original k
  stop : s.stop ≤ width
  below : ∀ span ∈ done, span.2 ≤ s.stop
  reached : s.stop = 0 ∨ ∃ span ∈ done, span.2 = s.stop
  covered : s.covered ≤ s.stop
  full : s.covered = s.stop ↔ ∀ x, x < s.stop → InSpans done x

theorem merged_nil (row width : Nat) (pixels : List UInt8) : Merged row width pixels [] ⟨pixels, 0, 0⟩ where
  length := rfl
  black := by
    rintro x ⟨span, hspan, -⟩
    cases hspan
  kept _ _ := rfl
  stop := Nat.zero_le _
  below := by simp
  reached := Or.inl rfl
  covered := Nat.le_refl _
  full := by simp

theorem inSpans_concat {done : List (Nat × Nat)} {start next x : Nat} :
    InSpans (done ++ [(start, next)]) x ↔ InSpans done x ∨ start ≤ x ∧ x < next := by
  simp [InSpans, or_and_right, exists_or]

/-- A column of the next span that is below the last end lies in the span that ends there. -/
theorem Merged.inSpans_of_lt {row width start x : Nat} {original : List UInt8} {done : List (Nat × Nat)} {s : RowState}
    (h : Merged row width original done s) (hsorted : ∀ span ∈ done, span.1 ≤ start) (hstart : start ≤ x) (hx : x < s.stop) :
    InSpans done x := by
  rcases h.reached with hzero | ⟨span, hspan, hend⟩
  · omega
  · exact ⟨span, hspan, Nat.le_trans (hsorted span hspan) hstart, by omega⟩

theorem Merged.step {row width start next : Nat} {original : List UInt8} {done : List (Nat × Nat)} {s : RowState}
    (h : Merged row width original done s) (hsorted : ∀ span ∈ done, span.1 ≤ start) (hnext : next ≤ width)
    (hfits : (row + width) * 4 ≤ original.length) (hmore : max start s.stop < next) :
    Merged row width original (done ++ [(start, next)])
      ⟨blacken s.pixels (row + max start s.stop) (next - max start s.stop), s.covered + (next - max start s.stop), next⟩ := by
  have hlength := h.length
  obtain ⟨hblackLength, hblack⟩ := @blacken_pixels (next - max start s.stop) s.pixels (row + max start s.stop)
    (by omega)
  have hstop := h.covered
  constructor
  · exact hblackLength.trans hlength
  · intro x hx
    dsimp only
    rw [hblack]
    split
    · rfl
    · rename_i hout
      refine h.black x ?_
      rcases inSpans_concat.mp hx with hx | hx
      · exact hx
      · exact h.inSpans_of_lt hsorted hx.1 (by omega)
  · intro k hk
    dsimp only
    rw [hblack, if_neg]
    · exact h.kept k fun x hx => hk x (inSpans_concat.mpr (Or.inl hx))
    · rintro ⟨hlow, hhigh⟩
      exact hk (k - row) (inSpans_concat.mpr (Or.inr (by omega))) (by omega)
  · exact hnext
  · intro span hspan
    rcases List.mem_append.mp hspan with hspan | hspan
    · have := h.below span hspan
      dsimp only
      omega
    · rw [List.mem_singleton.mp hspan]
  · exact Or.inr ⟨(start, next), by simp, rfl⟩
  · dsimp only
    omega
  · dsimp only
    refine ⟨fun hfull x hx => ?_, fun hall => ?_⟩
    · rw [inSpans_concat]
      by_cases hbelow : x < s.stop
      · exact Or.inl (h.full.mp (by omega) x hbelow)
      · exact Or.inr (by omega)
    · -- a gap between the last end and the start would leave its first column uncovered
      have hnogap : start ≤ s.stop := by
        by_contra hgap
        rcases inSpans_concat.mp (hall s.stop (by omega)) with ⟨span, hspan, -, hlt⟩ | hin
        · have := h.below span hspan
          omega
        · omega
      have hfull : s.covered = s.stop := h.full.mpr fun x hx => by
        rcases inSpans_concat.mp (hall x (by omega)) with hin | hin
        · exact hin
        · exact h.inSpans_of_lt hsorted hin.1 hx
      omega

/-- A span that ends below the last end adds nothing. -/
theorem Merged.skip {row width start next : Nat} {original : List UInt8} {done : List (Nat × Nat)} {s : RowState}
    (h : Merged row width original done s) (hsorted : ∀ span ∈ done, span.1 ≤ start) (hless : next ≤ s.stop) :
    Merged row width original (done ++ [(start, next)]) s := by
  have hsame : ∀ x, InSpans (done ++ [(start, next)]) x ↔ InSpans done x := by
    intro x
    rw [inSpans_concat]
    exact ⟨fun hx => hx.elim id fun hx => h.inSpans_of_lt hsorted hx.1 (by omega), Or.inl⟩
  refine ⟨h.length, fun x hx => h.black x ((hsame x).mp hx), fun k hk => h.kept k fun x hx => hk x ((hsame x).mpr hx),
    h.stop, fun span hspan => ?_, ?_, h.covered, ?_⟩
  · rcases List.mem_append.mp hspan with hspan | hspan
    · exact h.below span hspan
    · rw [List.mem_singleton.mp hspan]
      exact hless
  · exact h.reached.imp_right fun ⟨span, hspan, hend⟩ => ⟨span, List.mem_append_left _ hspan, hend⟩
  · simp only [hsame]
    exact h.full

/-- Fewer columns are covered than the row has, if one of them lies in no span. -/
theorem Merged.covered_lt {row width : Nat} {original : List UInt8} {done : List (Nat × Nat)} {s : RowState}
    (h : Merged row width original done s) : s.covered < width ↔ ∃ x, x < width ∧ ¬InSpans done x := by
  have hstop := h.stop
  have hcovered := h.covered
  constructor
  · intro hless
    by_cases hfull : s.covered = s.stop
    · -- the first column after the last end
      refine ⟨s.stop, by omega, ?_⟩
      rintro ⟨columns, hcolumns, -, hlt⟩
      exact absurd (h.below columns hcolumns) (Nat.not_le_of_lt hlt)
    · by_contra hnone
      refine hfull (h.full.mpr fun x hx => ?_)
      by_contra hopen
      exact hnone ⟨x, Nat.lt_of_lt_of_le hx hstop, hopen⟩
  · rintro ⟨x, hx, hopen⟩
    by_contra hall
    exact hopen (h.full.mp (by omega) x (by omega))

theorem redactSpans_merged {row width : Nat} {original : List UInt8} (hfits : (row + width) * 4 ≤ original.length) :
    ∀ {spans done : List (Nat × Nat)} {s : RowState}, Merged row width original done s →
      (∀ span ∈ spans, span.1 < span.2 ∧ span.2 ≤ width) → spans.Pairwise (fun a b => a.1 ≤ b.1) →
      (∀ a ∈ done, ∀ b ∈ spans, a.1 ≤ b.1) → Merged row width original (done ++ spans) (redactSpans row spans s)
  | [], done, s, h, _, _, _ => by
    rw [List.append_nil]
    exact h
  | (start, next) :: spans, done, s, h, hin, hsorted, hdone => by
    rw [List.forall_mem_cons] at hin
    rw [List.pairwise_cons] at hsorted
    have hstart : ∀ span ∈ done, span.1 ≤ start := fun span hspan => hdone span hspan _ List.mem_cons_self
    have hafter : ∀ a ∈ done ++ [(start, next)], ∀ b ∈ spans, a.1 ≤ b.1 := by
      intro a ha b hb
      rcases List.mem_append.mp ha with ha | ha
      · exact hdone a ha b (List.mem_cons_of_mem _ hb)
      · rw [List.mem_singleton.mp ha]
        exact hsorted.1 b hb
    have hmerged : Merged row width original (done ++ [(start, next)]) (if max start s.stop < next then
        ⟨blacken s.pixels (row + max start s.stop) (next - max start s.stop), s.covered + (next - max start s.stop), next⟩
        else s) := by
      by_cases hmore : max start s.stop < next
      · rw [if_pos hmore]
        exact h.step hstart hin.1.2 hfits hmore
      · rw [if_neg hmore]
        exact h.skip hstart (by have := hin.1.1; omega)
    have hrest := redactSpans_merged hfits hmerged hin.2 hsorted.2 hafter
    rw [List.append_assoc, List.singleton_append] at hrest
    unfold redactSpans
    by_cases hmore : max start s.stop < next
    · rw [if_pos hmore] at hrest
      simp only [if_pos hmore]
      exact hrest
    · rw [if_neg hmore] at hrest
      simp only [if_neg hmore]
      exact hrest

/-! ### Rectangles -/

theorem intersection_eq {a b : Rect} (ha : a.Valid) (hb : b.Valid) :
    intersection a b = if 0 < (meet a b).width ∧ 0 < (meet a b).height then some (meet a b) else none := by
  have hwidth : 0 < (meet a b).width ↔ max a.left b.left < min (a.left + a.width) (b.left + b.width) := by
    rw [meet, width_ofEdges, Rect.right, Rect.right]
    omega
  have hheight : 0 < (meet a b).height ↔ max a.top b.top < min (a.top + a.height) (b.top + b.height) := by
    rw [meet, height_ofEdges, Rect.bottom, Rect.bottom]
    omega
  simp only [hwidth, hheight]
  unfold intersection
  rw [ha.isValid, hb.isValid]
  rfl

theorem intersection_some {a b r : Rect} (ha : a.Valid) (hb : b.Valid) (h : intersection a b = some r) :
    r = meet a b ∧ r.Valid := by
  rw [intersection_eq ha hb] at h
  split at h
  · rename_i hextent
    cases h
    exact ⟨rfl, ha.meet hextent.1 hextent.2⟩
  · cases h

theorem intersection_of_contains {a b : Rect} (ha : a.Valid) (hb : b.Valid) {p : Int × Int} (h : a.Contains p)
    (h' : b.Contains p) : intersection a b = some (meet a b) := by
  rw [intersection_eq ha hb, if_pos (extent_of_contains (contains_meet.mpr ⟨h, h'⟩))]

theorem containsPoint_iff {r : Rect} (h : r.Valid) {p : Int × Int} : containsPoint p r = true ↔ r.Contains p := by
  rw [containsPoint, h.isValid, Bool.true_and, decide_eq_true_eq, Contains, Rect.right, Rect.bottom]
  omega

/-- The columns that a redaction hides are those whose points it holds. -/
theorem span_iff {bounds r : Rect} (hbounds : bounds.Valid) (hr : r.Valid) {x y : Nat} (hx : x < bounds.width.toNat)
    (hy : y < bounds.height.toNat) :
    (∃ columns, span bounds (bounds.top + y) r = some columns ∧ columns.1 ≤ x ∧ x < columns.2) ↔
      r.Contains (bounds.left + x, bounds.top + y) := by
  have hinside : bounds.Contains (bounds.left + x, bounds.top + y) := by
    unfold Contains Rect.right Rect.bottom
    omega
  constructor
  · rintro ⟨columns, hspan, hlow, hhigh⟩
    unfold span at hspan
    rw [Option.bind_eq_some_iff] at hspan
    obtain ⟨shared, hshared, hspan⟩ := hspan
    obtain ⟨rfl, -⟩ := intersection_some hbounds hr hshared
    split at hspan
    · rename_i hrow
      cases hspan
      have hpoint : (meet bounds r).Contains (bounds.left + x, bounds.top + y) := by
        unfold Contains Rect.right Rect.bottom
        have hleft : bounds.left ≤ (meet bounds r).left := Int.le_max_left _ _
        dsimp only at hlow hhigh ⊢
        omega
      exact (contains_meet.mp hpoint).2
    · cases hspan
  · intro hpoint
    have hboth := contains_meet.mpr ⟨hinside, hpoint⟩
    refine ⟨_, by
      rw [span, intersection_of_contains hbounds hr hinside hpoint, Option.bind_some, if_pos ⟨hboth.2.2.1, hboth.2.2.2⟩], ?_⟩
    obtain ⟨hleft, hright, -, -⟩ := hboth
    unfold Rect.right at hright
    dsimp only at hleft hright ⊢
    omega

theorem span_bounds {bounds r : Rect} (hbounds : bounds.Valid) (hr : r.Valid) {y : Int} {columns : Nat × Nat}
    (h : span bounds y r = some columns) : columns.1 < columns.2 ∧ columns.2 ≤ bounds.width.toNat := by
  unfold span at h
  rw [Option.bind_eq_some_iff] at h
  obtain ⟨shared, hshared, h⟩ := h
  obtain ⟨rfl, hvalid⟩ := intersection_some hbounds hr hshared
  split at h
  · cases h
    have hwidth := hvalid.width
    have hleft : bounds.left ≤ (meet bounds r).left := Int.le_max_left _ _
    have hright : (meet bounds r).right ≤ bounds.right := by
      rw [meet, right_ofEdges]
      exact Int.min_le_left _ _
    unfold Rect.right at hright
    dsimp only
    omega
  · cases h

/-! ### The buffer -/

/-- The point of the screen at a column and a row of the target. -/
def pointAt (bounds : Rect) (x y : Nat) : Int × Int := (bounds.left + x, bounds.top + y)

theorem mem_rowSpans {bounds : Rect} {redactions : List Rect} {y : Nat} {columns : Nat × Nat} :
    columns ∈ rowSpans bounds redactions y ↔ ∃ r ∈ redactions, span bounds (bounds.top + y) r = some columns := by
  rw [rowSpans, List.mem_mergeSort, List.mem_filterMap]

theorem sorted_rowSpans (bounds : Rect) (redactions : List Rect) (y : Nat) :
    (rowSpans bounds redactions y).Pairwise fun a b => a.1 ≤ b.1 := by
  have htrans : ∀ a b c : Nat × Nat, spanLe a b = true → spanLe b c = true → spanLe a c = true := by
    intro a b c
    simp only [spanLe, Bool.or_eq_true, Bool.and_eq_true, decide_eq_true_eq]
    omega
  have htotal : ∀ a b : Nat × Nat, (spanLe a b || spanLe b a) = true := by
    intro a b
    simp only [spanLe, Bool.or_eq_true, Bool.and_eq_true, decide_eq_true_eq]
    omega
  refine (List.pairwise_mergeSort htrans htotal _).imp fun {a b} h => ?_
  simp only [spanLe, Bool.or_eq_true, Bool.and_eq_true, decide_eq_true_eq] at h
  omega

section
variable {bounds : Rect} {redactions : List Rect} (hbounds : bounds.Valid) (hredactions : ∀ r ∈ redactions, r.Valid)
include hbounds hredactions

theorem inSpans_iff {x y : Nat} (hx : x < bounds.width.toNat) (hy : y < bounds.height.toNat) :
    InSpans (rowSpans bounds redactions y) x ↔ Covers redactions (pointAt bounds x y) := by
  constructor
  · rintro ⟨columns, hcolumns, hin⟩
    obtain ⟨r, hr, hspan⟩ := mem_rowSpans.mp hcolumns
    exact ⟨r, hr, (span_iff hbounds (hredactions r hr) hx hy).mp ⟨columns, hspan, hin⟩⟩
  · rintro ⟨r, hr, hpoint⟩
    obtain ⟨columns, hspan, hin⟩ := (span_iff hbounds (hredactions r hr) hx hy).mpr hpoint
    exact ⟨columns, mem_rowSpans.mpr ⟨r, hr, hspan⟩, hin⟩

/-- What the redaction of one row does. -/
theorem row_merged {pixels : List UInt8} {y : Nat} (hy : y < bounds.height.toNat)
    (hlength : pixels.length = bounds.width.toNat * bounds.height.toNat * 4) :
    Merged (y * bounds.width.toNat) bounds.width.toNat pixels (rowSpans bounds redactions y)
      (redactSpans (y * bounds.width.toNat) (rowSpans bounds redactions y) ⟨pixels, 0, 0⟩) := by
  have hfits : (y * bounds.width.toNat + bounds.width.toNat) * 4 ≤ pixels.length := by
    rw [hlength, ← Nat.succ_mul, Nat.mul_comm bounds.width.toNat]
    exact Nat.mul_le_mul_right 4 (Nat.mul_le_mul_right _ hy)
  refine redactSpans_merged hfits (merged_nil _ _ _) (fun columns hcolumns => ?_) (sorted_rowSpans _ _ _) (by simp)
  obtain ⟨r, hr, hspan⟩ := mem_rowSpans.mp hcolumns
  exact span_bounds hbounds (hredactions r hr) hspan

theorem row_visible {pixels : List UInt8} {y : Nat} (hy : y < bounds.height.toNat)
    (hlength : pixels.length = bounds.width.toNat * bounds.height.toNat * 4) :
    (redactSpans (y * bounds.width.toNat) (rowSpans bounds redactions y) ⟨pixels, 0, 0⟩).covered < bounds.width.toNat ↔
      ∃ x, x < bounds.width.toNat ∧ ¬Covers redactions (pointAt bounds x y) := by
  rw [(row_merged hbounds hredactions hy hlength).covered_lt]
  refine exists_congr fun x => and_congr_right fun hx => ?_
  rw [inSpans_iff hbounds hredactions hx hy]

/-- The rows from `y` on are redacted, those above are left alone. -/
theorem redactRows_spec : ∀ {rows y : Nat} {pixels : List UInt8}, y + rows = bounds.height.toNat →
    pixels.length = bounds.width.toNat * bounds.height.toNat * 4 →
    (redactRows bounds redactions bounds.width.toNat y rows pixels).2.length = pixels.length ∧
    (∀ k, k < y * bounds.width.toNat → pixelAt (redactRows bounds redactions bounds.width.toNat y rows pixels).2 k = pixelAt pixels k) ∧
    (∀ x y', x < bounds.width.toNat → y ≤ y' → y' < bounds.height.toNat →
      pixelAt (redactRows bounds redactions bounds.width.toNat y rows pixels).2 (y' * bounds.width.toNat + x) =
        if Covers redactions (pointAt bounds x y') then blackPixel else pixelAt pixels (y' * bounds.width.toNat + x)) ∧
    ((redactRows bounds redactions bounds.width.toNat y rows pixels).1 = true ↔
      ∃ x y', x < bounds.width.toNat ∧ y ≤ y' ∧ y' < bounds.height.toNat ∧ ¬Covers redactions (pointAt bounds x y'))
  | 0, y, pixels, hrows, _ => by
    refine ⟨rfl, fun _ _ => rfl, fun x y' _ hlow hhigh => by omega, ?_⟩
    simp only [redactRows, Bool.false_eq_true, false_iff]
    rintro ⟨x, y', -, hlow, hhigh, -⟩
    omega
  | rows + 1, y, pixels, hrows, hlength => by
    have hy : y < bounds.height.toNat := by omega
    have hmerged := row_merged hbounds hredactions hy hlength
    have hvisible := row_visible hbounds hredactions hy hlength
    have hcovers := fun x hx => inSpans_iff hbounds hredactions (x := x) hx hy
    unfold redactRows
    dsimp only
    generalize redactSpans (y * bounds.width.toNat) (rowSpans bounds redactions y) ⟨pixels, 0, 0⟩ = row at hmerged hvisible ⊢
    obtain ⟨hrestLength, hrestAbove, hrestPixel, hrestVisible⟩ := @redactRows_spec rows (y + 1) row.pixels
      (by omega) (hmerged.length.trans hlength)
    have hnext : (y + 1) * bounds.width.toNat = y * bounds.width.toNat + bounds.width.toNat := Nat.succ_mul _ _
    refine ⟨hrestLength.trans hmerged.length, fun k hk => ?_, fun x y' hx hlow hhigh => ?_, ?_⟩
    · rw [hrestAbove k (by omega)]
      exact hmerged.kept k fun x _ => by omega
    · rcases Nat.eq_or_lt_of_le hlow with rfl | hlow
      · rw [hrestAbove _ (by omega)]
        by_cases hin : Covers redactions (pointAt bounds x y)
        · rw [if_pos hin]
          exact hmerged.black x ((hcovers x hx).mpr hin)
        · rw [if_neg hin]
          refine hmerged.kept _ fun x' hx' heq => hin ((hcovers x hx).mp ?_)
          rwa [show x = x' by omega]
      · rw [hrestPixel x y' hx hlow hhigh]
        congr 1
        -- a lower row is not touched yet
        refine hmerged.kept _ fun x' hx' heq => ?_
        obtain ⟨columns, hcolumns, -, hlt⟩ := hx'
        have hwidth := Nat.le_trans (hmerged.below columns hcolumns) hmerged.stop
        have hmul := Nat.mul_le_mul_right bounds.width.toNat hlow
        have hsucc : (y + 1) * bounds.width.toNat = y * bounds.width.toNat + bounds.width.toNat := hnext
        have : y.succ * bounds.width.toNat ≤ y' * bounds.width.toNat := hmul
        rw [Nat.succ_eq_add_one, hsucc] at this
        omega
    · rw [Bool.or_eq_true, decide_eq_true_eq, hvisible, hrestVisible]
      constructor
      · rintro (⟨x, hx, hopen⟩ | ⟨x, y', hx, hlow, hhigh, hopen⟩)
        · exact ⟨x, y, hx, Nat.le_refl _, hy, hopen⟩
        · exact ⟨x, y', hx, by omega, hhigh, hopen⟩
      · rintro ⟨x, y', hx, hlow, hhigh, hopen⟩
        rcases Nat.eq_or_lt_of_le hlow with rfl | hlow
        · exact Or.inl ⟨x, hx, hopen⟩
        · exact Or.inr ⟨x, y', hx, hlow, hhigh, hopen⟩

end

/-! ### Roots -/

/-- The roots above the target. -/
def above (target : Nat) (roots : List RootWindow) : List RootWindow := roots.takeWhile fun root => root.handle ≠ target

/-- A visible root above the target holds the point. -/
def Hidden (target : Nat) (roots : List RootWindow) (p : Int × Int) : Prop :=
  ∃ root ∈ above target roots, root.visible = true ∧ root.bounds.Contains p

instance (target : Nat) (roots : List RootWindow) (p : Int × Int) : Decidable (Hidden target roots p) :=
  inferInstanceAs (Decidable (∃ root ∈ above target roots, _))

theorem intersection_of_apart {a b : Rect} (ha : a.Valid) (hb : b.Valid) (h : rectanglesIntersect a b = false) :
    intersection a b = none := by
  rw [intersection_eq ha hb, if_neg]
  have := ha.width
  have := ha.height
  have := hb.width
  have := hb.height
  rw [rectanglesIntersect, if_neg (by omega)] at h
  simp only [Bool.and_eq_false_iff, decide_eq_false_iff_not] at h
  rw [meet, width_ofEdges, height_ofEdges]
  unfold Rect.right Rect.bottom
  omega

theorem occlusionFrom_ok {target : Nat} {bounds : Rect} (hbounds : bounds.Valid) : ∀ {roots : List RootWindow}
    {regions result : List Rect}, (∀ root ∈ roots, root.visible = true → root.bounds.Valid) →
    occlusionFrom target bounds roots regions = .ok result →
      result = regions ++ (above target roots).filterMap fun root =>
        if root.visible then intersection root.bounds bounds else none
  | [], regions, result, _, h => by cases h
  | root :: roots, regions, result, hvalid, h => by
    rw [List.forall_mem_cons] at hvalid
    unfold occlusionFrom at h
    split at h
    · rename_i hhandle
      split at h
      · cases h
      · split at h
        · cases h
          simp [above, hhandle]
        · cases h
    · rename_i hhandle
      have habove : above target (root :: roots) = root :: above target roots := by simp [above, hhandle]
      rw [habove, List.filterMap_cons]
      split at h
      · rename_i hintersects
        rw [Bool.and_eq_true] at hintersects
        rw [if_pos hintersects.1]
        split at h
        · rename_i region hregion
          rw [hregion, occlusionFrom_ok hbounds hvalid.2 h]
          simp
        · cases h
      · rename_i hapart
        have hnone : (if root.visible = true then intersection root.bounds bounds else none) = none := by
          by_cases hvisible : root.visible = true
          · rw [if_pos hvisible]
            refine intersection_of_apart (hvalid.1 hvisible) hbounds ?_
            simpa [hvisible] using hapart
          · rw [if_neg hvisible]
        rw [hnone, occlusionFrom_ok hbounds hvalid.2 h]

theorem mem_above {target : Nat} {roots : List RootWindow} {root : RootWindow} (h : root ∈ above target roots) : root ∈ roots :=
  (List.takeWhile_sublist _).subset h

section
variable {target : Nat} {bounds : Rect} {roots : List RootWindow} {regions : List Rect} (hbounds : bounds.Valid)
  (hroots : ∀ root ∈ roots, root.visible = true → root.bounds.Valid)
  (h : rootOcclusionRegions target bounds roots = .ok regions)
include hbounds hroots h

theorem mem_regions {r : Rect} : r ∈ regions ↔
    ∃ root ∈ above target roots, root.visible = true ∧ intersection root.bounds bounds = some r := by
  have hregions := occlusionFrom_ok hbounds hroots h
  rw [hregions, List.nil_append, List.mem_filterMap]
  refine exists_congr fun root => and_congr_right fun _ => ?_
  by_cases hvisible : root.visible = true
  · simp [hvisible]
  · simp [hvisible]

theorem regions_valid : ∀ r ∈ regions, r.Valid := by
  intro r hr
  obtain ⟨root, hroot, hvisible, hregion⟩ := (mem_regions hbounds hroots h).mp hr
  exact (intersection_some (hroots root (mem_above hroot) hvisible) hbounds hregion).2

theorem covers_regions {p : Int × Int} (hp : bounds.Contains p) : Covers regions p ↔ Hidden target roots p := by
  constructor
  · rintro ⟨r, hr, hpoint⟩
    obtain ⟨root, hroot, hvisible, hregion⟩ := (mem_regions hbounds hroots h).mp hr
    obtain ⟨rfl, -⟩ := intersection_some (hroots root (mem_above hroot) hvisible) hbounds hregion
    exact ⟨root, hroot, hvisible, (contains_meet.mp hpoint).1⟩
  · rintro ⟨root, hroot, hvisible, hpoint⟩
    have hregion := intersection_of_contains (hroots root (mem_above hroot) hvisible) hbounds hpoint hp
    exact ⟨_, (mem_regions hbounds hroots h).mpr ⟨root, hroot, hvisible, hregion⟩, contains_meet.mpr ⟨hpoint, hp⟩⟩

theorem regions_eq_nil : regions = [] ↔ ∀ p, bounds.Contains p → ¬Hidden target roots p := by
  constructor
  · rintro rfl p hp hhidden
    exact covers_nil ((covers_regions hbounds hroots h hp).mpr hhidden)
  · intro hnone
    rcases hcases : regions with _ | ⟨r, rest⟩
    · rfl
    · have hr : r ∈ regions := by rw [hcases]; exact List.mem_cons_self
      have hvalid := regions_valid hbounds hroots h r hr
      obtain ⟨root, hroot, hvisible, hregion⟩ := (mem_regions hbounds hroots h).mp hr
      obtain ⟨rfl, -⟩ := intersection_some (hroots root (mem_above hroot) hvisible) hbounds hregion
      obtain ⟨hin, hinside⟩ := contains_meet.mp (contains_corner hvalid.width hvalid.height)
      exact absurd ⟨root, hroot, hvisible, hin⟩ (hnone _ hinside)

end

theorem redactBgra_ok {bounds : Rect} {redactions : List Rect} {pixels : List UInt8} (hbounds : bounds.Valid)
    (hredactions : ∀ r ∈ redactions, r.Valid)
    (hlength : pixels.length = bounds.width.toNat * bounds.height.toNat * 4) :
    redactBgra pixels bounds redactions =
      .ok (redactRows bounds redactions bounds.width.toNat 0 bounds.height.toNat pixels) := by
  have hnone : redactions.any (fun r => !r.isValid) = false := by
    rw [List.any_eq_false]
    intro r hr
    simp [(hredactions r hr).isValid]
  have hwidth : bounds.width.toNat ≤ 2 ^ 31 - 1 := by
    have := hbounds.widthFits
    omega
  have hheight : bounds.height.toNat ≤ 2 ^ 31 - 1 := by
    have := hbounds.heightFits
    omega
  have hproduct := Nat.mul_le_mul hwidth hheight
  have hchecked : (checkedMul bounds.width.toNat bounds.height.toNat).bind (checkedMul · 4) = some pixels.length := by
    rw [checkedMul, if_pos (by omega), Option.bind_some, checkedMul, if_pos (by omega), hlength]
  rw [redactBgra, hbounds.isValid, hnone, if_neg (by simp)]
  dsimp only
  rw [if_neg (by simp [hchecked])]

theorem pointVisible_iff {bounds : Rect} {redactions : List Rect} (hbounds : bounds.Valid)
    (hredactions : ∀ r ∈ redactions, r.Valid) (p : Int × Int) :
    pointVisible p bounds redactions = true ↔ bounds.Contains p ∧ ¬Covers redactions p := by
  rw [pointVisible, Bool.and_eq_true, containsPoint_iff hbounds, List.all_eq_true]
  refine and_congr_right fun _ => ⟨?_, fun hopen r hr => ?_⟩
  · rintro hall ⟨r, hr, hpoint⟩
    have := hall r hr
    rw [Bool.and_eq_true, Bool.not_eq_true', (containsPoint_iff (hredactions r hr)).mpr hpoint] at this
    exact absurd this.2 (by decide)
  · rw [(hredactions r hr).isValid, Bool.true_and, Bool.not_eq_true', ← Bool.not_eq_true, containsPoint_iff (hredactions r hr)]
    exact fun hpoint => hopen ⟨r, hr, hpoint⟩

theorem pointAt_mem {bounds : Rect} {x y : Nat} (hx : x < bounds.width.toNat) (hy : y < bounds.height.toNat) :
    bounds.Contains (pointAt bounds x y) := by
  unfold Contains pointAt Rect.right Rect.bottom
  omega

theorem rootZOrderProof_ok {target : Nat} {bounds : Rect} {roots : List RootWindow} {regions : List Rect}
    (h : rootOcclusionRegions target bounds roots = .ok regions) :
    rootZOrderProof target bounds roots = .ok () ↔ regions = [] := by
  unfold rootZOrderProof
  rw [h]
  rcases regions with _ | ⟨r, rest⟩
  · exact iff_of_true rfl rfl
  · exact iff_of_false nofun nofun

/-- The target is hidden, in the buffer and for the pointer, exactly where a visible root above it is. -/
theorem occlusion_exact (target : Nat) (bounds : Rect) (roots : List RootWindow) (pixels : List UInt8) (regions : List Rect)
    (hbounds : bounds.Valid) (hroots : ∀ root ∈ roots, root.visible = true → root.bounds.Valid)
    (hlength : pixels.length = bounds.width.toNat * bounds.height.toNat * 4)
    (h : rootOcclusionRegions target bounds roots = .ok regions) :
    (∃ visible redacted, redactBgra pixels bounds regions = .ok (visible, redacted) ∧
      redacted.length = pixels.length ∧
      (∀ x y, x < bounds.width.toNat → y < bounds.height.toNat → pixelAt redacted (y * bounds.width.toNat + x) =
        if Hidden target roots (pointAt bounds x y) then blackPixel else pixelAt pixels (y * bounds.width.toNat + x)) ∧
      (visible = true ↔ ∃ x y, x < bounds.width.toNat ∧ y < bounds.height.toNat ∧ ¬Hidden target roots (pointAt bounds x y))) ∧
    (∀ p, pointVisible p bounds regions = true ↔ bounds.Contains p ∧ ¬Hidden target roots p) ∧
    (rootZOrderProof target bounds roots = .ok () ↔ ∀ p, bounds.Contains p → ¬Hidden target roots p) := by
  have hregions := regions_valid hbounds hroots h
  have hcovers := fun p hp => covers_regions hbounds hroots h (p := p) hp
  refine ⟨?_, fun p => ?_, ?_⟩
  · obtain ⟨hsame, -, hpixel, hvisible⟩ := redactRows_spec hbounds hregions (Nat.zero_add _) hlength
    refine ⟨_, _, redactBgra_ok hbounds hregions hlength, hsame, fun x y hx hy => ?_, ?_⟩
    · rw [hpixel x y hx (Nat.zero_le y) hy]
      simp only [hcovers _ (pointAt_mem hx hy)]
    · rw [hvisible]
      refine exists_congr fun x => exists_congr fun y => ?_
      constructor
      · rintro ⟨hx, -, hy, hopen⟩
        exact ⟨hx, hy, fun hhidden => hopen ((hcovers _ (pointAt_mem hx hy)).mpr hhidden)⟩
      · rintro ⟨hx, hy, hopen⟩
        exact ⟨hx, Nat.zero_le y, hy, fun hcovered => hopen ((hcovers _ (pointAt_mem hx hy)).mp hcovered)⟩
  · rw [pointVisible_iff hbounds hregions]
    exact and_congr_right fun hp => not_congr (hcovers p hp)
  · rw [rootZOrderProof_ok h, regions_eq_nil hbounds hroots h]

/-- A root over the right column of a target of two pixels. -/
theorem occlusion_exact_column : ¬Hidden 7 [⟨3, ⟨1, 0, 5, 5⟩, true⟩, ⟨7, ⟨0, 0, 2, 1⟩, true⟩] (0, 0) ∧
    pointVisible (0, 0) ⟨0, 0, 2, 1⟩ [⟨1, 0, 1, 1⟩] = true := by
  have hexact := occlusion_exact 7 ⟨0, 0, 2, 1⟩ [⟨3, ⟨1, 0, 5, 5⟩, true⟩, ⟨7, ⟨0, 0, 2, 1⟩, true⟩] [9, 9, 9, 9, 8, 8, 8, 8]
    [⟨1, 0, 1, 1⟩] (by decide) (by decide) (by decide) (by rfl)
  have hvisible : pointVisible (0, 0) ⟨0, 0, 2, 1⟩ [⟨1, 0, 1, 1⟩] = true := by decide
  exact ⟨((hexact.2.1 (0, 0)).mp hvisible).2, hvisible⟩

end Occlusion
end DccCua
