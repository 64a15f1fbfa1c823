import DccCua.Core.SdkActionCompat

/-! # Actions of the command line

`bind_fresh_element_token` of `actions.rs`: the command line binds an action to the row of the snapshot that it has just
taken, before the session sees the action. -/

namespace DccCua
namespace CliActions

open ActionPolicy

/-- The first row with the index. -/
def firstRow (accessibility : Json) (index : UInt32) : Option Json :=
  ((accessibility.get "elements").asArray).bind fun elements =>
    elements.find? fun element => (element.get "element_index").asU64 == some index.toNat

def bindFreshElementToken (action : ActionPolicy.ComputerUseAction) (accessibility : Json) : ActionPolicy.ComputerUseAction :=
  match action.elementIndex with
  | none => action
  | some index =>
    match (firstRow accessibility index).bind fun element => (element.get "element_token").asStr with
    | none => action
    | some token => { action with elementToken := some token, elementIndex := none }

end CliActions
end DccCua
