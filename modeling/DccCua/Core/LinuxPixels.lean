import DccCua.Core.LiveObservation
import DccCua.Lib.Checks
import DccCua.Lib.Rects

/-! # Unobscured windows

`require_unobscured` of `linux_pixels.rs`, over a static tree of windows. What the X server answers to a request is read
off the tree; a request may be lost instead. Selecting events changes nothing of the tree. -/

namespace DccCua
namespace LinuxPixels

open Checks

/-! ### The tree -/

inductive MapState where
  | unmapped
  | unviewable
  | viewable
  deriving DecidableEq, Repr

inductive WindowClass where
  | inputOutput
  | inputOnly
  deriving DecidableEq, Repr

/-- A window: its place is that of its border's corner, counted from the parent's origin, and its children are listed from the
bottom of the stack to the top. -/
structure Window where
  parent : Nat
  children : List Nat
  mapState : MapState
  windowClass : WindowClass
  x : Int
  y : Int
  width : Nat
  height : Nat
  borderWidth : Nat
  boundingShaped : Bool
  boundingShapeExtentsWidth : Nat
  boundingShapeExtentsHeight : Nat
  clipShaped : Bool

/-- The windows by their ids, and the origin of each within the root: the corner inside its border. -/
structure WindowTree where
  root : Nat
  windows : List (Nat × Window)
  origin : Nat → Int × Int
  none_is_zero : windows.lookup 0 = none
  root_parent : ∀ w, windows.lookup root = some w → w.parent = 0
  child_parent : ∀ e ∈ windows, ∀ id ∈ e.2.children, (windows.lookup id).map Window.parent = some e.1
  children_nodup : ∀ e ∈ windows, e.2.children.Nodup
  origin_root : origin root = (0, 0)
  origin_child : ∀ e ∈ windows, e.2.parent ≠ 0 →
    origin e.1 = ((origin e.2.parent).1 + e.2.x + e.2.borderWidth, (origin e.2.parent).2 + e.2.y + e.2.borderWidth)

def WindowTree.window (tree : WindowTree) (id : Nat) : Option Window := tree.windows.lookup id

/-! ### Requests -/

inductive XRequest where
  | queryTree (id : Nat)
  | getWindowAttributes (id : Nat)
  | changeWindowAttributes (id : Nat)
  | shapeSelectInput (id : Nat)
  | shapeQueryExtents (id : Nat)
  | getGeometry (id : Nat)
  | translateCoordinates (id : Nat)

def XRequest.id : XRequest → Nat
  | .queryTree id => id
  | .getWindowAttributes id => id
  | .changeWindowAttributes id => id
  | .shapeSelectInput id => id
  | .shapeQueryExtents id => id
  | .getGeometry id => id
  | .translateCoordinates id => id

/-- A connection to the server: the error of a request that is lost, and that of one for no window. -/
structure Connection where
  tree : WindowTree
  lost : XRequest → Option String
  badWindow : String

def native (error : String) : ComputerUseError := ⟨.captureFailed, "exact X11 capture failed: " ++ error⟩

def Connection.ask (c : Connection) (request : XRequest) : Except ComputerUseError Window :=
  match c.lost request with
  | some error => .error (native error)
  | none =>
    match c.tree.window request.id with
    | none => .error (native c.badWindow)
    | some w => .ok w

/-! ### The check -/

/-- Whether two rectangles overlap. -/
def overlap (bounds other : Rect) : Bool :=
  bounds.left < other.left + other.width && other.left < bounds.left + bounds.width &&
    bounds.top < other.top + other.height && other.top < bounds.top + bounds.height

/-- A window with its border, from the place of its origin. -/
def bordered (origin : Int × Int) (w : Window) : Rect :=
  ⟨origin.1 - w.borderWidth, origin.2 - w.borderWidth, w.width + 2 * w.borderWidth, w.height + 2 * w.borderWidth⟩

def Window.hasEmptyShape (w : Window) : Bool :=
  w.boundingShaped && (w.boundingShapeExtentsWidth = 0 || w.boundingShapeExtentsHeight = 0)

section
variable (c : Connection) (bounds : Rect)

/-- A window above the target or one of its ancestors. -/
def checkSibling (window : Nat) : Except ComputerUseError Unit := do
  let attrs ← c.ask (.getWindowAttributes window)
  if attrs.mapState ≠ .viewable || attrs.windowClass ≠ .inputOutput then .ok ()
  else
    let _ ← c.ask (.shapeSelectInput window)
    let shape ← c.ask (.shapeQueryExtents window)
    if shape.hasEmptyShape then .ok ()
    else
      let geometry ← c.ask (.getGeometry window)
      let _ ← c.ask (.translateCoordinates window)
      require (!overlap bounds (bordered (c.tree.origin window) geometry))
        ⟨.captureFailed, "the exact X11 target is occluded; pixels were discarded"⟩

def checkSiblings : List Nat → Except ComputerUseError Unit
  | [] => .ok ()
  | window :: rest => do
    checkSibling c bounds window
    checkSiblings rest

/-- An ancestor below the root. -/
def checkParent (parent : Nat) : Except ComputerUseError Unit := do
  let _ ← c.ask (.changeWindowAttributes parent)
  let _ ← c.ask (.shapeSelectInput parent)
  let attributes ← c.ask (.getWindowAttributes parent)
  let geometry ← c.ask (.getGeometry parent)
  let _ ← c.ask (.translateCoordinates parent)
  let position := c.tree.origin parent
  let shape ← c.ask (.shapeQueryExtents parent)
  require (!(attributes.mapState ≠ .viewable || shape.boundingShaped || shape.clipShaped || bounds.left < position.1 ||
    bounds.top < position.2 || bounds.left + bounds.width > position.1 + geometry.width ||
    bounds.top + bounds.height > position.2 + geometry.height))
    ⟨.targetUnavailable, "X11 target is clipped or shaped by an ancestor"⟩

/-- The levels that are left, with as many siblings as remain. -/
def climb : Nat → Nat → Nat → Except ComputerUseError Unit
  | 0, _, _ => .error (native "X11 ancestry exceeded its bound")
  | levels + 1, child, remaining => do
    let tree ← c.ask (.queryTree child)
    if tree.parent = 0 then .error (native "X11 target ancestry ended before its root")
    else
      let above ← c.ask (.queryTree tree.parent)
      let siblings := above.children
      if siblings.length > remaining then .error (native "X11 stacking inventory exceeded its bound")
      else
        match siblings.idxOf? child with
        | none => .error (native "target missing from X11 stack")
        | some index => do
          checkSiblings c bounds (siblings.drop (index + 1))
          if tree.parent = c.tree.root then .ok ()
          else do
            checkParent c bounds tree.parent
            climb levels tree.parent (remaining - siblings.length)

def maxWindows : Nat := 4096

def requireUnobscured (target : Nat) : Except ComputerUseError Unit := climb c bounds 32 target maxWindows

end

end LinuxPixels
end DccCua
