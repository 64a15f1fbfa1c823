import Mathlib.Data.List.Basic
import Mathlib.Algebra.Group.Int.Defs
import Mathlib.Algebra.Group.Nat.Defs

/-! # Resizing a frame

`resize_bgra` of the showcase: nearest neighbours, four bytes a pixel. A slice that reaches out of its buffer is a panic, and
so is a buffer that is larger than can be allocated: where its size wraps around, the loop leaves the buffer. -/

namespace DccCua
namespace Showcase

/-- The largest allocation, `isize::MAX` bytes. -/
def maxAllocation : Nat := 2 ^ 63 - 1

/-- `u32::saturating_mul`. -/
def saturatingMul (a b : Nat) : Nat := min (a * b) (2 ^ 32 - 1)

/-- `&buffer[index..index + 4]`. -/
def slicePixel (buffer : List UInt8) (index : Nat) : Option (List UInt8) :=
  if index + 4 ≤ buffer.length then some ((buffer.drop index).take 4) else none

/-- `output[index..index + 4].copy_from_slice(pixel)`. -/
def copyPixel (output : List UInt8) (index : Nat) (pixel : List UInt8) : Option (List UInt8) :=
  if index + 4 ≤ output.length then some (output.take index ++ pixel ++ output.drop (index + 4)) else none

/-- The bodies of the two loops: the index that is read and the one that is written. -/
def copies (sourceWidth sourceHeight width height : Nat) : List (Nat × Nat) :=
  (List.range height).flatMap fun y => (List.range width).map fun x =>
    let sourceY := saturatingMul y sourceHeight / height
    let sourceX := saturatingMul x sourceWidth / width
    ((sourceY * sourceWidth + sourceX) * 4, (y * width + x) * 4)

def copyAll (source : List UInt8) : List (Nat × Nat) → List UInt8 → Option (List UInt8)
  | [], output => some output
  | (sourceIndex, outputIndex) :: rest, output => do
    let pixel ← slicePixel source sourceIndex
    let output ← copyPixel output outputIndex pixel
    copyAll source rest output

def resizeBgra (source : List UInt8) (sourceWidth sourceHeight width height : Nat) : Option (List UInt8) :=
  if (sourceWidth, sourceHeight) = (width, height) then some source
  else if maxAllocation < width * height * 4 then none
  else copyAll source (copies sourceWidth sourceHeight width height) (List.replicate (width * height * 4) 0)

end Showcase
end DccCua
