import DccCua.Core.ActionPolicy
import DccCua.Lib.Json

/-! # Element tokens of the SDK

`remember_sdk_element_tokens` and `resolve_sdk_element_action` of `sdk_action_compat.rs`: an action that names a row by its
index is sent with the token that the observation gave for this row. -/

namespace DccCua

open ActionPolicy

/-- The fields of an observation that are compared. -/
structure ObservationIdentity where
  observationId : String
  sessionId : String
  processId : Nat
  windowHandle : Nat
  deriving DecidableEq, Repr

structure ObservedSdkElementTokens where
  observation : ObservationIdentity
  /-- By index; `none` stands for an index without a unique usable token. -/
  tokens : List (UInt32 × Option String)
  deriving DecidableEq, Repr

namespace SdkActionCompat

/-- The rows of a snapshot. -/
def elements (accessibility : Json) : List Json := ((accessibility.get "elements").asArray).getD []

/-- `u32::try_from`. -/
def toU32 (value : Nat) : Option UInt32 := if value < 2 ^ 32 then some (UInt32.ofNat value) else none

def rowIndex (element : Json) : Option UInt32 := ((element.get "element_index").asU64).bind toU32

def rowToken (element : Json) : Option String := ((element.get "element_token").asStr).filter usableToken

/-- `entry(index).and_modify(..).or_insert(token)`. -/
def enter (index : UInt32) (token : Option String) : List (UInt32 × Option String) → List (UInt32 × Option String)
  | [] => [(index, token)]
  | (other, known) :: tokens =>
    if other = index then (other, none) :: tokens else (other, known) :: enter index token tokens

def rememberElement (tokens : List (UInt32 × Option String)) (element : Json) : List (UInt32 × Option String) :=
  match rowIndex element with
  | none => tokens
  | some index => enter index (rowToken element) tokens

def rememberSdkElementTokens (accessibility : Json) (observation : ObservationIdentity) : ObservedSdkElementTokens where
  observation := observation
  tokens := (elements accessibility).foldl rememberElement []

def noUniqueToken : String :=
  "element_index has no unique SDK element_token in the current observation; take a fresh semantic snapshot"

/-- The action with a token in the place of its index; `none` for an action that stays as it is. The refusal has the
    code `StaleObservation`. -/
def resolveSdkElementAction (sdkElementTokens : Option ObservedSdkElementTokens) (action : ActionPolicy.ComputerUseAction)
    (observation : ObservationIdentity) : Except String (Option ActionPolicy.ComputerUseAction) :=
  match action.elementIndex.filter fun _ => action.elementToken.isNone with
  | none => .ok none
  | some index =>
    match ((sdkElementTokens.filter fun tokens => tokens.observation = observation).bind fun tokens =>
        tokens.tokens.lookup index).bind id with
    | none => .error noUniqueToken
    | some token => .ok (some { action with elementIndex := none, elementToken := some token })

end SdkActionCompat
end DccCua
