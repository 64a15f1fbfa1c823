import DccCua.Core.CapturePopup

/-! # Composite coverage is exact

What is left of rectangles after others are subtracted is the pixels that lie in none of these, as long as the bound on
the number of pieces is kept. So the coverage of the redacted pixels of a root is decided exactly. -/

namespace DccCua
namespace CapturePopup

open Checks Rect

/-! ### One rectangle -/

theorem edges_ok {r : Rect} (h : r.Valid) : edges r = .ok ⟨r.left, r.top, r.right, r.bottom⟩ := by
  simp only [edges, extent, h.right_checked, h.bottom_checked, bind_eq_ok, require_eq_ok, Bool.and_eq_true,
    decide_eq_true_eq]
  exact ⟨(), ⟨h.width, h.height⟩, _, rfl, _, rfl, rfl⟩

/-- The pieces hold the pixels of the regions that lie in no cover. -/
structure Remains (pieces regions covers : List Rect) : Prop where
  valid : ∀ r ∈ pieces, r.Valid
  exact : ∀ p, Covers pieces p ↔ Covers regions p ∧ ¬Covers covers p

theorem covers_filter {rects : List Rect} {p : Int × Int} :
    Covers (rects.filter fun r => 0 < r.width && 0 < r.height) p ↔ Covers rects p := by
  simp only [Covers, List.mem_filter, Bool.and_eq_true, decide_eq_true_eq]
  constructor
  · rintro ⟨r, ⟨hr, -⟩, hp⟩
    exact ⟨r, hr, hp⟩
  · rintro ⟨r, hr, hp⟩
    exact ⟨r, ⟨hr, extent_of_contains hp⟩, hp⟩

theorem subtract_eq {rect cover : Rect} (hrect : rect.Valid) (hcover : cover.Valid) :
    subtract rect cover = if (meet rect cover).width ≤ 0 ∨ (meet rect cover).height ≤ 0 then .ok [rect]
      else .ok ((rect.around (meet rect cover)).filter fun r => 0 < r.width && 0 < r.height) := by
  have hwidth : (meet rect cover).width ≤ 0 ↔ min rect.right cover.right ≤ max rect.left cover.left := by
    rw [meet, width_ofEdges]
    omega
  have hheight : (meet rect cover).height ≤ 0 ↔ min rect.bottom cover.bottom ≤ max rect.top cover.top := by
    rw [meet, height_ofEdges]
    omega
  simp only [hwidth, hheight]
  simp only [around, meet, top_ofEdges, bottom_ofEdges, left_ofEdges, right_ofEdges]
  unfold subtract
  rw [edges_ok hrect, edges_ok hcover]
  rfl

theorem subtract_ok {rect cover : Rect} (hrect : rect.Valid) (hcover : cover.Valid) :
    ∃ pieces, subtract rect cover = .ok pieces ∧ Remains pieces [rect] [cover] := by
  rw [subtract_eq hrect hcover]
  by_cases hapart : (meet rect cover).width ≤ 0 ∨ (meet rect cover).height ≤ 0
  · rw [if_pos hapart]
    refine ⟨[rect], rfl, by simpa using hrect, fun p => ?_⟩
    simp only [covers_cons, covers_nil, or_false]
    refine ⟨fun hp => ⟨hp, fun hp' => ?_⟩, fun hp => hp.1⟩
    have hshared := extent_of_contains (contains_meet.mpr ⟨hp, hp'⟩)
    omega
  · rw [if_neg hapart]
    rw [not_or, Int.not_le, Int.not_le] at hapart
    obtain ⟨hwidth, hheight⟩ := hapart
    refine ⟨_, rfl, fun piece hpiece => ?_, fun p => ?_⟩
    · simp only [List.mem_filter, Bool.and_eq_true, decide_eq_true_eq] at hpiece
      exact hrect.around hwidth hheight hpiece.1 hpiece.2.1 hpiece.2.2
    · rw [covers_filter, covers_around hwidth hheight]
      simp only [covers_cons, covers_nil, or_false]

/-! ### Lists of rectangles -/

theorem subtractEach_ok {cover : Rect} (hcover : cover.Valid) : ∀ {regions : List Rect}, (∀ r ∈ regions, r.Valid) →
    ∃ pieces, subtractEach cover regions = .ok pieces ∧ Remains pieces regions [cover]
  | [], _ => ⟨[], rfl, by simp, fun p => by simp [covers_nil]⟩
  | region :: regions, hregions => by
    rw [List.forall_mem_cons] at hregions
    obtain ⟨pieces, hpieces, hvalid, hexact⟩ := subtract_ok hregions.1 hcover
    obtain ⟨rest, hrest, hrestValid, hrestExact⟩ := subtractEach_ok hcover hregions.2
    refine ⟨pieces ++ rest, ?_, ?_, fun p => ?_⟩
    · unfold subtractEach
      rw [hpieces, hrest]
      rfl
    · intro r hr
      exact (List.mem_append.mp hr).elim (hvalid r) (hrestValid r)
    · rw [covers_append, hexact, hrestExact]
      simp only [covers_cons, covers_nil, or_false]
      tauto

/-- The pieces are exact, unless there are too many. -/
theorem subtractCovers_result : ∀ {covers regions : List Rect}, (∀ r ∈ covers, r.Valid) → (∀ r ∈ regions, r.Valid) →
    (∃ pieces, subtractCovers regions covers = .ok pieces ∧ Remains pieces regions covers) ∨
      subtractCovers regions covers = .error piecesExceeded
  | [], regions, _, hregions => Or.inl ⟨regions, rfl, hregions, fun p => by simp [covers_nil]⟩
  | cover :: covers, regions, hcovers, hregions => by
    rw [List.forall_mem_cons] at hcovers
    obtain ⟨remaining, hremaining, hvalid, hexact⟩ := subtractEach_ok hcovers.1 hregions
    have hstep : subtractCovers regions (cover :: covers) =
        (require (decide (remaining.length ≤ maxPieces)) piecesExceeded >>= fun _ => subtractCovers remaining covers) := by
      rw [subtractCovers, hremaining]
      rfl
    rw [hstep]
    by_cases hbound : remaining.length ≤ maxPieces
    · rw [decide_eq_true hbound]
      rcases subtractCovers_result hcovers.2 hvalid with ⟨pieces, hpieces, hpiecesValid, hpiecesExact⟩ | herror
      · refine Or.inl ⟨pieces, hpieces, hpiecesValid, fun p => ?_⟩
        rw [hpiecesExact, hexact, covers_cons, covers_cons]
        simp only [covers_nil, or_false]
        tauto
      · exact Or.inr herror
    · rw [decide_eq_false hbound]
      exact Or.inr rfl

theorem subtractAll_result {regions covers : List Rect} (hregions : ∀ r ∈ regions, r.Valid) (hcovers : ∀ r ∈ covers, r.Valid) :
    (∃ pieces, subtractAll regions covers = .ok pieces ∧ Remains pieces regions covers) ∨
      subtractAll regions covers = .error piecesExceeded := by
  have hall : (regions ++ covers).all isValid = true := by
    rw [List.all_eq_true]
    intro r hr
    exact ((List.mem_append.mp hr).elim (hregions r) (hcovers r)).isValid
  have hstep : subtractAll regions covers = subtractCovers regions covers := by
    rw [subtractAll, hall]
    rfl
  rw [hstep]
  exact subtractCovers_result hcovers hregions

/-! ### Coverage -/

/-- A frame shows the pixel. -/
def Shown (frames : List Frame) (p : Int × Int) : Prop := ∃ frame ∈ frames, frame.1.Contains p ∧ ¬Covers frame.2 p

/-- Its rectangles are valid. -/
def ValidFrame (frame : Frame) : Prop := frame.1.Valid ∧ ∀ r ∈ frame.2, r.Valid

/-- The bound on the number of pieces is exceeded. -/
def Exceeded (error : ComputerUseError) : Prop := error = piecesExceeded ∨ error = visibleExceeded

theorem visiblePieces_result : ∀ {frames : List Frame} {visible : List Rect}, (∀ frame ∈ frames, ValidFrame frame) →
    (∀ r ∈ visible, r.Valid) →
    (∃ pieces, visiblePieces frames visible = .ok pieces ∧ (∀ r ∈ pieces, r.Valid) ∧
      ∀ p, Covers pieces p ↔ Covers visible p ∨ Shown frames p) ∨
      ∃ error, visiblePieces frames visible = .error error ∧ Exceeded error
  | [], visible, _, hvisible => Or.inl ⟨visible, rfl, hvisible, fun p => by simp [Shown]⟩
  | (source, redactions) :: frames, visible, hframes, hvisible => by
    rw [List.forall_mem_cons] at hframes
    obtain ⟨⟨hsource, hredactions⟩, hframes⟩ := hframes
    rcases subtractAll_result (List.forall_mem_singleton.mpr hsource) hredactions with
      ⟨pieces, hpieces, hvalid, hexact⟩ | herror
    · have hstep : visiblePieces ((source, redactions) :: frames) visible =
          (require (decide ((visible ++ pieces).length ≤ maxPieces)) visibleExceeded >>= fun _ =>
            visiblePieces frames (visible ++ pieces)) := by
        rw [visiblePieces, hpieces]
        rfl
      rw [hstep]
      by_cases hbound : (visible ++ pieces).length ≤ maxPieces
      · rw [decide_eq_true hbound]
        have hboth : ∀ r ∈ visible ++ pieces, r.Valid := fun r hr => (List.mem_append.mp hr).elim (hvisible r) (hvalid r)
        rcases visiblePieces_result hframes hboth with ⟨all, hall, hallValid, hallExact⟩ | herror
        · refine Or.inl ⟨all, hall, hallValid, fun p => ?_⟩
          rw [hallExact, covers_append, hexact]
          simp only [Shown, List.mem_cons, exists_eq_or_imp, covers_cons, covers_nil, or_false]
          exact or_assoc
        · exact Or.inr herror
      · rw [decide_eq_false hbound]
        exact Or.inr ⟨_, rfl, Or.inr rfl⟩
    · refine Or.inr ⟨piecesExceeded, ?_, Or.inl rfl⟩
      rw [visiblePieces, herror]
      rfl

theorem eq_nil_iff_covers {pieces : List Rect} (h : ∀ r ∈ pieces, r.Valid) : pieces = [] ↔ ∀ p, ¬Covers pieces p := by
  refine ⟨fun hnil p => by rw [hnil]; exact covers_nil, fun hnone => ?_⟩
  rcases pieces with _ | ⟨r, rest⟩
  · rfl
  · have hr : r.Valid := h r List.mem_cons_self
    exact absurd ⟨r, List.mem_cons_self, contains_corner hr.width hr.height⟩ (hnone (r.left, r.top))

theorem requireCompleteCoverage_result {rootRedactions : List Rect} {frames : List Frame}
    (hroot : ∀ r ∈ rootRedactions, r.Valid) (hframes : ∀ frame ∈ frames, ValidFrame frame) :
    (requireCompleteCoverage rootRedactions frames = .ok () → ∀ p, Covers rootRedactions p → Shown frames p) ∧
    ((∀ p, Covers rootRedactions p → Shown frames p) → requireCompleteCoverage rootRedactions frames = .ok () ∨
      ∃ error, requireCompleteCoverage rootRedactions frames = .error error ∧ Exceeded error) := by
  unfold requireCompleteCoverage
  rcases visiblePieces_result hframes (List.forall_mem_nil Valid) with ⟨visible, hvisible, hvalid, hshown⟩ | ⟨error, herror, hexceeded⟩
  · rw [hvisible]
    rcases subtractAll_result hroot hvalid with ⟨pieces, hpieces, hpiecesValid, hexact⟩ | herror
    · have hempty : pieces = [] ↔ ∀ p, Covers rootRedactions p → Shown frames p := by
        rw [eq_nil_iff_covers hpiecesValid]
        refine forall_congr' fun p => ?_
        rw [hexact, hshown]
        have hnil := covers_nil (p := p)
        tauto
      simp only [bind_eq_ok, Except.ok.injEq, require_eq_ok, List.isEmpty_iff]
      refine ⟨?_, fun hcovered => Or.inl ⟨visible, rfl, pieces, hpieces, hempty.mpr hcovered⟩⟩
      rintro ⟨visible', rfl, remaining, hremaining, hnil⟩
      rw [hpieces] at hremaining
      cases hremaining
      exact hempty.mp hnil
    · refine ⟨fun hok => ?_, fun _ => Or.inr ⟨piecesExceeded, ?_, Or.inl rfl⟩⟩
      · simp only [bind_eq_ok, Except.ok.injEq] at hok
        obtain ⟨visible', rfl, remaining, hok, -⟩ := hok
        rw [herror] at hok
        cases hok
      · show (subtractAll rootRedactions visible >>= _) = _
        rw [herror]
        rfl
  · rw [herror]
    refine ⟨fun hok => ?_, fun _ => Or.inr ⟨error, rfl, hexceeded⟩⟩
    cases hok

/-- An accepted root capture is covered by the frames of the popups. -/
theorem accepted_root_covered {provenance : Json} {nativeRedactions rootRedactions : List Rect} {frames : List Frame}
    (hread : readRects ((provenance.get "visibility").get "redacted_rectangles") = some rootRedactions)
    (hroot : ∀ r ∈ rootRedactions, r.Valid) (hframes : ∀ frame ∈ frames, ValidFrame frame)
    (h : validateRootCaptureCoverage provenance nativeRedactions frames = .ok ()) :
    ∀ p, Covers rootRedactions p → Shown frames p := by
  simp only [validateRootCaptureCoverage, bind_eq_ok, hread] at h
  obtain ⟨desktop, -, h⟩ := h
  refine (requireCompleteCoverage_result hroot hframes).1 ?_
  cases desktop <;> simp only [if_true, if_false, bind_eq_ok, Bool.false_eq_true] at h
  · obtain ⟨-, -, h⟩ := h
    exact h
  · obtain ⟨-, -, h⟩ := h
    exact h

end CapturePopup
end DccCua
