import Mathlib.Algebra.Order.Field.Rat
import DccCua.Core.CapturePopup

/-! # The path of a drag

`physical_drag_points` of `windows_pixel_input.rs`: no part of the path may cross a region that is redacted in the
observation. A segment is clipped against a rectangle one axis after the other, in fractions of its way. -/

namespace DccCua
namespace DragPath

open Checks CapturePopup

/-- The fractions of a segment, from `lower` to `upper`. -/
structure Clip where
  lower : Rat
  upper : Rat

/-- One axis of a segment, clipped to what starts at `minimum` and is `extent` wide. -/
def clipAxis (clip : Clip) (start stop minimum extent : Int) : Clip :=
  let delta : Rat := stop - start
  if delta = 0 then
    if start < minimum ∨ minimum + extent ≤ start then { clip with upper := -1 } else clip
  else
    let a := ((minimum : Rat) - start) / delta
    let b := ((minimum : Rat) + extent - start) / delta
    ⟨max clip.lower (min a b), min clip.upper (max a b)⟩

/-- The point at a fraction of a segment. -/
def pointAlong (start stop : Int × Int) (fraction : Rat) : Rat × Rat :=
  (start.1 + ((stop.1 : Rat) - start.1) * fraction, start.2 + ((stop.2 : Rat) - start.2) * fraction)

/-- Whether a rectangle holds a point between the pixels. -/
def holds (r : Rect) (point : Rat × Rat) : Bool :=
  (r.left : Rat) ≤ point.1 && point.1 < (r.left : Rat) + r.width && (r.top : Rat) ≤ point.2 && point.2 < (r.top : Rat) + r.height

def segmentCrosses (start stop : Int × Int) (r : Rect) : Bool :=
  let clip := clipAxis (clipAxis ⟨0, 1⟩ start.1 stop.1 r.left r.width) start.2 stop.2 r.top r.height
  clip.lower < clip.upper || clip.lower = clip.upper && holds r (pointAlong start stop clip.lower)

/-- The segments between consecutive points. -/
def segments (points : List (Int × Int)) : List ((Int × Int) × (Int × Int)) := points.zip points.tail

def pathCrosses (points : List (Int × Int)) (regions : List Rect) : Bool :=
  (segments points).any fun segment => regions.any (segmentCrosses segment.1 segment.2)

def invalidAction (message : String) : ComputerUseError := ⟨.invalidAction, message⟩

/-- The test of the path; observations without visibility evidence have no redactions. -/
def requireUnredacted (points : List (Int × Int)) (provenance : Json) : Except ComputerUseError Unit :=
  match provenance.field? "visibility" with
  | none => .ok ()
  | some visibility =>
    match readRects (visibility.get "redacted_rectangles") with
    | none => .error (stale "invalid pixel redaction evidence")
    | some regions =>
      require (!pathCrosses points regions) (invalidAction "drag path crosses a redacted region in the latest observation")

/-- The samples of the path, numbered up to `steps`, have their physical points from the observation. -/
def physicalDragPoints (physicalPoint : Nat → Except ComputerUseError (Int × Int)) (steps : Nat) (provenance : Json) :
    Except ComputerUseError (List (Int × Int)) := do
  let points ← (List.range (steps + 1)).mapM physicalPoint
  require (points.head? ≠ points.getLast?) (invalidAction "drag endpoints must be distinct physical pixels")
  requireUnredacted points provenance
  .ok points

end DragPath
end DccCua
