import DccCua.Core.LiveObservation
import DccCua.Lib.Checks
import DccCua.Lib.Json
import DccCua.Lib.Rects

/-! # The pixels of a composite observation

`capture_popup.rs` of the core: the pixels of the root that popups hide have to be seen in the frames of these popups.
Rectangles are subtracted from each other, within a bound on their number. -/

namespace DccCua
namespace CapturePopup

open Checks

def stale (message : String) : ComputerUseError := ⟨.staleObservation, message⟩

structure Edges where
  left : Int
  top : Int
  right : Int
  bottom : Int

def extent (start size : Int) : Except ComputerUseError Int :=
  match Rect.checkedAdd start size with
  | some stop => .ok stop
  | none => .error (stale "pixel extent overflow")

def edges (r : Rect) : Except ComputerUseError Edges := do
  require (0 < r.width && 0 < r.height) (stale "invalid composite pixel rectangle")
  let right ← extent r.left r.width
  let bottom ← extent r.top r.height
  .ok ⟨r.left, r.top, right, bottom⟩

def subtract (rect cover : Rect) : Except ComputerUseError (List Rect) := do
  let a ← edges rect
  let b ← edges cover
  let i : Edges := ⟨max a.left b.left, max a.top b.top, min a.right b.right, min a.bottom b.bottom⟩
  if i.right ≤ i.left ∨ i.bottom ≤ i.top then .ok [rect]
  else .ok ([(⟨a.left, a.top, a.right - a.left, i.top - a.top⟩ : Rect),
      ⟨a.left, i.bottom, a.right - a.left, a.bottom - i.bottom⟩,
      ⟨a.left, i.top, i.left - a.left, i.bottom - i.top⟩,
      ⟨i.right, i.top, a.right - i.right, i.bottom - i.top⟩].filter fun r => 0 < r.width && 0 < r.height)

def maxPieces : Nat := 4096

def piecesExceeded : ComputerUseError := stale "composite rectangle proof exceeded its bound"
def visibleExceeded : ComputerUseError := stale "composite visible pixel proof exceeded its bound"

/-- One cover, subtracted from every region. -/
def subtractEach (cover : Rect) : List Rect → Except ComputerUseError (List Rect)
  | [] => .ok []
  | region :: regions => do
    let pieces ← subtract region cover
    let rest ← subtractEach cover regions
    .ok (pieces ++ rest)

/-- The loop of `subtract_all` over the covers. -/
def subtractCovers : List Rect → List Rect → Except ComputerUseError (List Rect)
  | regions, [] => .ok regions
  | regions, cover :: covers => do
    let remaining ← subtractEach cover regions
    require (remaining.length ≤ maxPieces) piecesExceeded
    subtractCovers remaining covers

def subtractAll (regions covers : List Rect) : Except ComputerUseError (List Rect) := do
  require ((regions ++ covers).all Rect.isValid) (stale "invalid composite pixel rectangle")
  subtractCovers regions covers

/-- A frame of a popup: where it was taken, and what is redacted in it. -/
abbrev Frame := Rect × List Rect

/-- The pixels that the frames show. -/
def visiblePieces : List Frame → List Rect → Except ComputerUseError (List Rect)
  | [], visible => .ok visible
  | (source, redactions) :: frames, visible => do
    let pieces ← subtractAll [source] redactions
    require ((visible ++ pieces).length ≤ maxPieces) visibleExceeded
    visiblePieces frames (visible ++ pieces)

def requireCompleteCoverage (rootRedactions : List Rect) (frames : List Frame) : Except ComputerUseError Unit := do
  let visible ← visiblePieces frames []
  let remaining ← subtractAll rootRedactions visible
  require remaining.isEmpty (stale "selected popup observations do not cover every redacted root pixel")

def readI32 : Json → Option Int
  | .int value => if -2 ^ 31 ≤ value ∧ value < 2 ^ 31 then some value else none
  | _ => none

def readRect : Json → Option Rect
  | .arr [left, top, width, height] => do
    let left ← readI32 left
    let top ← readI32 top
    let width ← readI32 width
    let height ← readI32 height
    some ⟨left, top, width, height⟩
  | _ => none

def readRects (value : Json) : Option (List Rect) := value.asArray.bind fun items => items.mapM readRect

/-- Whether the root was taken from the desktop, by the capture mode. -/
def desktopCrop (provenance : Json) : Except ComputerUseError Bool :=
  match (provenance.get "capture_mode").asStr with
  | some "window_content" => .ok false
  | some "visible_desktop_crop" => .ok true
  | some "redacted_desktop_crop" => .ok true
  | _ => .error (stale "root capture mode metadata is unavailable or unsupported")

/-- The redactions are compared when they are sorted. -/
def validateRootCaptureCoverage (provenance : Json) (nativeRedactions : List Rect) (frames : List Frame) :
    Except ComputerUseError Unit := do
  let desktopCrop ← desktopCrop provenance
  match readRects ((provenance.get "visibility").get "redacted_rectangles") with
  | none => .error (stale "root redaction metadata is unavailable")
  | some rootRedactions => do
    if desktopCrop then
      require (nativeRedactions.isPerm rootRedactions) (stale "root pixel redactions differ from the native popup proof")
    else require rootRedactions.isEmpty (stale "window-content root pixels cannot claim desktop redactions")
    requireCompleteCoverage rootRedactions frames

end CapturePopup
end DccCua
