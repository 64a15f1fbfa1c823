import DccCua.Text
import DccCua.Lib.Checks
import DccCua.Lib.Unicode

/-! # The policy of actions

`validate_action` of `policy.rs` with `validate_scroll`: the checks of an action before a session sees it. Every refusal
has the code `InvalidAction`; its message is the error. -/

namespace DccCua

open Checks

namespace ActionPolicy

def maxTextUtf16Units : Nat := 4096
def maxTypeCharDelayMs : Nat := 200
def maxKeyTokens : Nat := 16
def maxModifierTokens : Nat := 8
def maxModifierChars : Nat := 32
def maxInputBackendIdChars : Nat := 64
def maxDragPoints : Nat := 256
def maxDragDurationMs : Nat := 10000
def maxDragSteps : Nat := 200
def maxElementTokenChars : Nat := 512
def maxScrollAmount : Nat := 50

/-- A double: its value, or `none` where it is no finite number. -/
abbrev Coordinate := Option Rat

structure ComputerUsePoint where
  x : Coordinate
  y : Coordinate
  deriving DecidableEq, Repr

structure ComputerUseAction where
  action : String
  observationId : Option String
  elementIndex : Option UInt32
  elementToken : Option String
  deliveryMode : Option String
  inputBackendId : Option String
  x : Option Coordinate
  y : Option Coordinate
  button : Option String
  scrollX : Option Int
  scrollY : Option Int
  scrollBy : Option String
  path : List ComputerUsePoint
  text : Option String
  delayMs : Option Nat
  durationMs : Option Nat
  steps : Option Nat
  typeCharsOnly : Bool
  keys : List String
  modifiers : List String
  deriving DecidableEq, Repr

/-- `str::eq_ignore_ascii_case`. -/
def eqIgnoreAsciiCase (a b : String) : Bool := Text.toAsciiLowercase a = Text.toAsciiLowercase b

def actions : List String :=
  ["click", "double_click", "right_click", "toggle", "move", "scroll", "drag", "type", "type_chars", "set_text",
    "set_value", "keypress", "keyboard_shortcut"]

/-- A token that can be sent to the driver. -/
def usableToken (token : String) : Bool := !(token == "") && token.length ≤ maxElementTokenChars

def inputBackendIdentifier (backendId : String) : Bool :=
  !(backendId == "" || maxInputBackendIdChars < Unicode.utf8Length backendId ||
    (Text.split (· = '.') backendId).any fun segment =>
      segment == "" || !segment.toList.all fun c => ('a' ≤ c && c ≤ 'z') || ('0' ≤ c && c ≤ '9') || c == '_')

namespace ComputerUseAction

def hasElement (action : ComputerUseAction) : Bool := action.elementIndex.isSome || action.elementToken.isSome

/-- The points of the path and the coordinates. -/
def points (action : ComputerUseAction) : List ComputerUsePoint :=
  action.path ++ (match action.x, action.y with
    | some x, some y => [⟨x, y⟩]
    | _, _ => [])

def validateScroll (action : ComputerUseAction) : Except String Unit := do
  let horizontal := action.scrollX.getD 0
  let vertical := action.scrollY.getD 0
  require (!(horizontal ≠ 0 && vertical ≠ 0)) "scroll supports one axis per action"
  let amount := if horizontal ≠ 0 then horizontal.natAbs else vertical.natAbs
  require (amount ≤ maxScrollAmount) ("scroll amount must be at most " ++ toString maxScrollAmount)
  require (!(amount = 0 && !action.hasElement && action.x.isNone))
    "scroll requires a non-zero axis, element locator, or coordinates"
  require (action.scrollBy.all fun value => value == "line" || value == "page") "scroll_by must be line or page"

/-- The key names that can be held. -/
def heldKeyNames : List String := ["w", "a", "s", "d", "up", "down", "left", "right"]

/-- A key that is also an earlier one, up to the case of its letters. -/
def repeatsKey (action : ComputerUseAction) : Bool :=
  action.keys.zipIdx.any fun (key, index) => (action.keys.take index).any fun previous => eqIgnoreAsciiCase previous key

def validateDuration (action : ComputerUseAction) (durationMs : Nat) : Except String Unit := do
  require (durationMs ≤ maxDragDurationMs) "duration_ms must be at most 10000"
  require (action.action == "click" || action.action == "drag" || action.action == "keypress")
    "duration_ms is supported only for coordinate click, drag, and keypress"
  require (!(action.action == "click" && (action.x.isNone || action.hasElement || !action.modifiers.isEmpty)))
    "click duration_ms requires coordinates and no modifiers"
  require (!(action.action == "keypress" && (durationMs = 0 || action.keys.isEmpty || 2 < action.keys.length ||
      !action.modifiers.isEmpty ||
      action.keys.any (fun key => !heldKeyNames.contains (Text.toAsciiLowercase (Text.trim key))) || action.repeatsKey)))
    "keypress duration_ms requires one or two unique WASD/arrow keys, no modifiers, and a non-zero duration"

def validateTypeChars (action : ComputerUseAction) : Except String Unit := do
  require action.text.isSome "type_chars requires text"
  require (!(action.typeCharsOnly && action.hasElement)) "type_chars_only cannot be combined with an element locator"
  require (!(!action.typeCharsOnly && !action.hasElement))
    "type_chars requires an element locator unless type_chars_only is true"
  require (!(action.x.isSome || action.y.isSome)) "type_chars does not accept screen coordinates"

/-- The checks of `validate_action` up to the duration. -/
def validateFields (action : ComputerUseAction) : Except String Unit := do
  require (actions.contains action.action) "unsupported Computer Use action"
  require (!(maxKeyTokens < action.keys.length || maxModifierTokens < action.modifiers.length ||
    maxDragPoints < action.path.length)) "action exceeds the host safety limits"
  require (!action.modifiers.any fun modifier => modifier == "" || maxModifierChars < modifier.length)
    "modifiers must be non-empty and at most 32 characters"
  require (action.button.all fun button => button == "left" || button == "middle" || button == "right")
    "button must be left, middle, or right"
  require (action.x.isSome == action.y.isSome) "x and y must be supplied together"
  require (action.text.all fun text => Unicode.utf16Length text ≤ maxTextUtf16Units) "text exceeds the host UTF-16 limit"
  require (action.delayMs.all fun delay => delay ≤ maxTypeCharDelayMs) "delay_ms must be at most 200"
  require (action.elementToken.all usableToken) "element_token must be non-empty and at most 512 characters"
  require (action.deliveryMode.all fun mode => mode == "background" || mode == "foreground")
    "delivery_mode must be background or foreground"
  require (action.inputBackendId.all inputBackendIdentifier)
    "input_backend_id must be a lowercase dotted identifier of at most 64 characters"
  if action.action = "scroll" then action.validateScroll
  else
    require (!(action.scrollX.isSome || action.scrollY.isSome || action.scrollBy.isSome))
      "scroll_x, scroll_y, and scroll_by are supported only for scroll"
  require (!action.points.any fun point => point.x.isNone || point.y.isNone) "coordinates must be finite"
  require (!((action.action == "set_text" || action.action == "set_value") && !action.hasElement))
    "set_text and set_value require a semantic element_index"
  if action.action = "type_chars" then action.validateTypeChars
  require (!(action.action == "type" && action.text.isNone)) "type requires text"

def validateSteps (action : ComputerUseAction) (steps : Nat) : Except String Unit := do
  require (1 ≤ steps && steps ≤ maxDragSteps) "steps must be between 1 and 200"
  require (action.action == "drag") "steps is supported only for drag"

def validateAction (action : ComputerUseAction) : Except String Unit := do
  action.validateFields
  action.durationMs.elim (.ok ()) action.validateDuration
  action.steps.elim (.ok ()) action.validateSteps

end ComputerUseAction
end ActionPolicy
end DccCua
