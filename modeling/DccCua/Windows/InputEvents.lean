import DccCua.Lib.Unicode
import DccCua.Text

/-! # Events of physical input

The events of `physical_input_fence.rs`, the keys that a request may name, and the events that type a text. -/

namespace DccCua
namespace PhysicalInput

inductive WindowsPhysicalInputFailureReason where
  | invalidRequest
  | targetUnavailable
  | instanceChanged
  | boundsChanged
  | dpiChanged
  | targetHidden
  | targetMinimized
  | targetNotForeground
  | targetOccluded
  | pointOutsideTarget
  | targetOutsideDesktop
  | desktopUnavailable
  | injectionIncomplete
  | interrupted
  deriving DecidableEq, Repr

abbrev Reason := WindowsPhysicalInputFailureReason

inductive WindowsPointerButton where
  | left
  | right
  | middle
  deriving DecidableEq, Repr

/-- Keys, units of UTF-16 and buttons are pressed, or released with `up`. -/
inductive Event where
  | key (code : Nat) (up : Bool)
  | unicode (unit : Nat) (up : Bool)
  | mouse (button : WindowsPointerButton) (up : Bool)
  | move (x y : Int)
  deriving DecidableEq, Repr

namespace Event

def release : Event → Option Event
  | .key code false => some (.key code true)
  | .unicode unit false => some (.unicode unit true)
  | .mouse button false => some (.mouse button true)
  | _ => none

def isRelease : Event → Bool
  | .key _ up => up
  | .unicode _ up => up
  | .mouse _ up => up
  | .move _ _ => false

/-- It is an event of the pointer. -/
def isPointer : Event → Bool
  | .mouse _ _ => true
  | .move _ _ => true
  | _ => false

end Event

def vkReturn : Nat := 0x0D

def modifierVirtualKey (modifier : String) : Option Nat :=
  match Text.toAsciiLowercase (Text.trim modifier) with
  | "ctrl" | "control" => some 0x11
  | "shift" => some 0x10
  | "alt" | "menu" | "option" => some 0x12
  | "win" | "meta" | "windows" | "cmd" | "command" => some 0x5B
  | _ => none

def asciiAlphanumericKey (normalized : String) : Option Nat :=
  match normalized.toList with
  | [c] => if '0' ≤ c ∧ c ≤ '9' then some c.toNat else if 'a' ≤ c ∧ c ≤ 'z' then some (c.toNat - 32) else none
  | _ => none

def virtualKey (key : String) : Option Nat :=
  let normalized := Text.toAsciiLowercase (Text.trim key)
  match normalized with
  | "enter" | "return" => some vkReturn
  | "tab" => some 0x09
  | "escape" | "esc" => some 0x1B
  | "space" | " " => some 0x20
  | "backspace" | "back" => some 0x08
  | "delete" | "del" => some 0x2E
  | "up" => some 0x26
  | "down" => some 0x28
  | "left" => some 0x25
  | "right" => some 0x27
  | "home" => some 0x24
  | "end" => some 0x23
  | "pageup" | "pgup" => some 0x21
  | "pagedown" | "pgdn" => some 0x22
  | "f1" => some 0x70
  | "f2" => some 0x71
  | "f3" => some 0x72
  | "f4" => some 0x73
  | "f5" => some 0x74
  | "f6" => some 0x75
  | "f7" => some 0x76
  | "f8" => some 0x77
  | "f9" => some 0x78
  | "f10" => some 0x79
  | "f11" => some 0x7A
  | "f12" => some 0x7B
  | _ => asciiAlphanumericKey normalized

/-- The loop of `checked_keys`, which refuses a key that it has seen. -/
def checkedFrom (modifiersOnly : Bool) : List String → List Nat → Except Reason (List Nat)
  | [], result => .ok result
  | key :: keys, result =>
    match (modifierVirtualKey key).orElse fun _ => if modifiersOnly then none else virtualKey key with
    | none => .error .invalidRequest
    | some value =>
      if result.contains value then .error .invalidRequest else checkedFrom modifiersOnly keys (result ++ [value])

def checkedKeys (keys : List String) (modifiersOnly : Bool) : Except Reason (List Nat) :=
  if keys.length > 16 || (!modifiersOnly && keys.isEmpty) then .error .invalidRequest
  else checkedFrom modifiersOnly keys []

/-- The loop of `text_events`; whether the last character was a carriage return is carried along. -/
def eventsFrom : Bool → List Char → List Event
  | _, [] => []
  | previousCr, character :: text =>
    if character = '\n' ∧ previousCr then eventsFrom false text
    else if character = '\r' ∨ character = '\n' then
      [.key vkReturn false, .key vkReturn true] ++ eventsFrom (character = '\r') text
    else (Unicode.encodeUtf16 character).flatMap (fun unit => [Event.unicode unit false, Event.unicode unit true]) ++
      eventsFrom (character = '\r') text

def textEvents (text : String) : Except Reason (List Event) :=
  if text.isEmpty || Unicode.utf16Length text > 4096 then .error .invalidRequest
  else .ok (eventsFrom false text.toList)

end PhysicalInput
end DccCua
