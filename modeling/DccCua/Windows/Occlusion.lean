import DccCua.Lib.Rects

/-! # Occlusion by other windows

`occlusion.rs`, and the regions of a target that the roots above it hide, of `visible_capture.rs`. A buffer holds the
pixels of the target row by row, each in four bytes. -/

namespace DccCua
namespace Occlusion

open Rect

def intersection (a b : Rect) : Option Rect :=
  if !a.isValid || !b.isValid then none
  else
    let left := max a.left b.left
    let top := max a.top b.top
    let right := min (a.left + a.width) (b.left + b.width)
    let bottom := min (a.top + a.height) (b.top + b.height)
    if left < right ∧ top < bottom then some ⟨left, top, right - left, bottom - top⟩ else none

def containsPoint (point : Int × Int) (r : Rect) : Bool :=
  r.isValid && decide (r.left ≤ point.1 ∧ r.top ≤ point.2 ∧ point.1 < r.left + r.width ∧ point.2 < r.top + r.height)

def pointVisible (point : Int × Int) (bounds : Rect) (redactions : List Rect) : Bool :=
  containsPoint point bounds && redactions.all fun r => r.isValid && !containsPoint point r

/-! ### Redaction -/

def blackPixel : List UInt8 := [0, 0, 0, 255]

def setPixel (pixels : List UInt8) (k : Nat) : List UInt8 := pixels.take (k * 4) ++ blackPixel ++ pixels.drop (k * 4 + 4)

/-- Pixels from the first on are set to black. -/
def blacken (pixels : List UInt8) (first : Nat) : Nat → List UInt8
  | 0 => pixels
  | count + 1 => blacken (setPixel pixels first) (first + 1) count

/-- A row of the buffer: the pixels, how many of them are covered, and where the last covered span ended. -/
structure RowState where
  pixels : List UInt8
  covered : Nat
  stop : Nat

/-- The sorted spans of a row, the first of whose pixels is `row`. -/
def redactSpans (row : Nat) : List (Nat × Nat) → RowState → RowState
  | [], s => s
  | (start, next) :: spans, s =>
    let start := max start s.stop
    if start < next then
      redactSpans row spans ⟨blacken s.pixels (row + start) (next - start), s.covered + (next - start), next⟩
    else redactSpans row spans s

/-- The columns of a row that a redaction hides. -/
def span (bounds : Rect) (y : Int) (r : Rect) : Option (Nat × Nat) :=
  (intersection bounds r).bind fun r =>
    if r.top ≤ y ∧ y < r.top + r.height then some ((r.left - bounds.left).toNat, (r.left - bounds.left + r.width).toNat)
    else none

def spanLe (a b : Nat × Nat) : Bool := a.1 < b.1 || a.1 = b.1 && a.2 ≤ b.2

def rowSpans (bounds : Rect) (redactions : List Rect) (y : Nat) : List (Nat × Nat) :=
  (redactions.filterMap (span bounds (bounds.top + y))).mergeSort spanLe

/-- The rows from `y` on; whether any of their pixels is left. -/
def redactRows (bounds : Rect) (redactions : List Rect) (width : Nat) : Nat → Nat → List UInt8 → Bool × List UInt8
  | _, 0, pixels => (false, pixels)
  | y, rows + 1, pixels =>
    let row := redactSpans (y * width) (rowSpans bounds redactions y) ⟨pixels, 0, 0⟩
    let (visible, pixels) := redactRows bounds redactions width (y + 1) rows row.pixels
    (row.covered < width || visible, pixels)

/-- `checked_mul` of `usize`. -/
def checkedMul (a b : Nat) : Option Nat := if a * b < 2 ^ 64 then some (a * b) else none

def redactBgra (pixels : List UInt8) (bounds : Rect) (redactions : List Rect) : Except String (Bool × List UInt8) :=
  if !bounds.isValid || redactions.any (fun r => !r.isValid) then .error "invalid redaction rectangle"
  else
    let width := bounds.width.toNat
    let height := bounds.height.toNat
    if (checkedMul width height).bind (checkedMul · 4) ≠ some pixels.length then
      .error "redaction buffer does not match its physical bounds"
    else .ok (redactRows bounds redactions width 0 height pixels)

/-! ### Roots -/

inductive VisibleWindowCaptureReason where
  | targetNotVisible
  | rootBoundsInvalid
  | targetNotReached
  | targetBoundsChanged
  | rootOverlap
  deriving DecidableEq, Repr

structure VisibleWindowCaptureError where
  reason : VisibleWindowCaptureReason
  message : String
  blockerBounds : Option Rect
  blockerWindowHandle : Option Nat
  cloaked : Option Nat
  deriving DecidableEq, Repr

def proofError (reason : VisibleWindowCaptureReason) (message : String) : VisibleWindowCaptureError :=
  ⟨reason, message, none, none, none⟩

structure RootWindow where
  handle : Nat
  bounds : Rect
  visible : Bool

def rectanglesIntersect (left right : Rect) : Bool :=
  if left.width ≤ 0 ∨ left.height ≤ 0 ∨ right.width ≤ 0 ∨ right.height ≤ 0 then false
  else left.left < right.left + right.width && right.left < left.left + left.width &&
    left.top < right.top + right.height && right.top < left.top + left.height

/-- The loop of `root_occlusion_regions`, over the roots from the top. -/
def occlusionFrom (target : Nat) (targetBounds : Rect) :
    List RootWindow → List Rect → Except VisibleWindowCaptureError (List Rect)
  | [], _ => .error (proofError .targetNotReached
      "the exact target was not reached in the complete root-window z-order")
  | root :: roots, regions =>
    if root.handle = target then
      if !root.visible then
        .error (proofError .targetNotVisible "the exact target is not composited on the visible desktop")
      else if root.bounds = targetBounds then .ok regions
      else .error (proofError .targetBoundsChanged "the exact target bounds changed during root-window enumeration")
    else if root.visible && rectanglesIntersect root.bounds targetBounds then
      match intersection root.bounds targetBounds with
      | some region => occlusionFrom target targetBounds roots (regions ++ [region])
      | none => .error (proofError .rootBoundsInvalid "invalid occluder rectangle")
    else occlusionFrom target targetBounds roots regions

def rootOcclusionRegions (target : Nat) (targetBounds : Rect) (roots : List RootWindow) :
    Except VisibleWindowCaptureError (List Rect) := occlusionFrom target targetBounds roots []

def rootZOrderProof (target : Nat) (targetBounds : Rect) (roots : List RootWindow) : Except VisibleWindowCaptureError Unit :=
  match rootOcclusionRegions target targetBounds roots with
  | .error error => .error error
  | .ok [] => .ok ()
  | .ok (bounds :: _) =>
    let error := proofError .rootOverlap "a higher composited root window overlaps the exact target"
    let blocker := roots.find? fun root => root.visible && intersection root.bounds targetBounds = some bounds
    .error { error with
      blockerBounds := blocker.map RootWindow.bounds
      blockerWindowHandle := blocker.map RootWindow.handle
      cloaked := some 0 }

end Occlusion
end DccCua
