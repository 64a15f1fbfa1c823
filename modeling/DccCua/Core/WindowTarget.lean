import DccCua.Lib.Json
import DccCua.Lib.Rounding

/-! # Windows of a driver's list

`window_target.rs` and `list_windows` of the core: the rows of a driver's window list. Indexing a value gives `null` for a
key that is missing; indexing the map of an object panics there. A number is what the parser has read it as. -/

namespace DccCua
namespace WindowList

open Rounding

/-- The index that panicked. -/
structure MissingKey where
  key : String
  deriving DecidableEq, Repr

structure Bounds where
  x : Int
  y : Int
  width : Int
  height : Int
  deriving DecidableEq, Repr

structure WindowTarget where
  pid : Nat
  windowId : Nat
  title : String
  appName : String
  bounds : Bounds
  isOnScreen : Bool
  isMinimized : Bool
  zIndex : Option Int
  isForeground : Bool
  deriving DecidableEq, Repr

/-- `as_f64`. -/
def asF64 : Json → Option Rat
  | .int value => some value
  | .real value => some value
  | _ => none

/-- `as_i64`. -/
def asI64 : Json → Option Int
  | .int value => if -2 ^ 63 ≤ value ∧ value < 2 ^ 63 then some value else none
  | _ => none

/-- `try_into` of a `u64` as a `u32`, and of an `i64` as an `i32`. -/
def toU32 (value : Nat) : Option Nat := if value < 2 ^ 32 then some value else none

def toI32 (value : Int) : Option Int := if -2 ^ 31 ≤ value ∧ value < 2 ^ 31 then some value else none

def bound (value : Json) : Option Int :=
  match asF64 value with
  | none => none
  | some value => if -2 ^ 31 ≤ value ∧ value ≤ 2 ^ 31 - 1 then some (roundAway value) else none

/-- `&map[key]`. -/
def index (fields : List (String × Json)) (key : String) : Except MissingKey Json :=
  match Json.lookup key fields with
  | some value => .ok value
  | none => .error ⟨key⟩

def bounds (fields : List (String × Json)) : Except MissingKey (Option Bounds) := do
  let some x := bound (← index fields "x") | return none
  let some y := bound (← index fields "y") | return none
  let some width := bound (← index fields "width") | return none
  let some height := bound (← index fields "height") | return none
  return some ⟨x, y, width, height⟩

def fromValue (value : Json) : Except MissingKey (Option WindowTarget) := do
  let some pid := (value.get "pid").asU64 | return none
  let some pid := toU32 pid | return none
  let some windowId := (value.get "window_id").asU64 | return none
  let some fields := (value.get "bounds").asObject | return none
  let some bounds ← bounds fields | return none
  return some {
    pid
    windowId
    title := ((value.get "title").asStr).getD ""
    appName := ((value.get "app_name").asStr).getD ""
    bounds
    isOnScreen := ((value.get "is_on_screen").asBool).getD false
    isMinimized := ((value.get "minimized").asBool).getD false
    zIndex := (asI64 (value.get "z_index")).bind toI32
    isForeground := ((value.get "is_foreground").asBool).getD false }

/-- `filter_map(from_value)`, collected. -/
def parseRows : List Json → Except MissingKey (List WindowTarget)
  | [] => .ok []
  | row :: rows => do
    let target ← fromValue row
    let targets ← parseRows rows
    return target.toList ++ targets

def markForegroundByZIndex (windows : List WindowTarget) : List WindowTarget :=
  match (windows.filterMap WindowTarget.zIndex).max? with
  | none => windows
  | some highest => windows.map fun window => { window with isForeground := window.zIndex = some highest }

/-- The foreground window is that of the system where it can be asked for, and else by the stacking. -/
def markForegroundWindow (system : Option Nat) (windows : List WindowTarget) : List WindowTarget :=
  match system with
  | some foreground => windows.map fun window => { window with isForeground := window.windowId = foreground }
  | none => if windows.any WindowTarget.isForeground then windows else markForegroundByZIndex windows

def listWindows (system : Option Nat) (rows : List Json) : Except MissingKey (List WindowTarget) := do
  let windows ← parseRows rows
  return markForegroundWindow system windows

end WindowList
end DccCua
