import DccCua.Windows.InputEvents

/-! # Held keys

`send_held_keys_exact_foreground`: the keys of a request are pressed together, and released after a while in the opposite
order. -/

namespace DccCua
namespace PhysicalInput

inductive WindowsHeldKeyError where
  | targetNotForeground
  | invalidKey (key : String)
  | injection
  | interrupted
  deriving DecidableEq, Repr

/-- What Windows answers: whether the target is in the foreground, whether the presses were accepted and how many of them
    were inserted, whether the wait was interrupted, and whether every release was accepted. -/
structure HeldKeyAnswers where
  foreground : Bool
  accepted : Bool
  inserted : Nat
  interrupted : Bool
  released : Bool
  deriving DecidableEq, Repr

def heldVirtualKeys (keys : List String) : Except WindowsHeldKeyError (List Nat) :=
  keys.mapM fun key => ((virtualKey key).elim (.error (.invalidKey key)) .ok : Except WindowsHeldKeyError Nat)

/-- The events that are submitted, in order, and the result. -/
def sendHeldKeysExactForeground (keys : List String) (answers : HeldKeyAnswers) :
    List Event × Except WindowsHeldKeyError Unit :=
  if !answers.foreground then ([], .error .targetNotForeground)
  else match heldVirtualKeys keys with
    | .error e => ([], .error e)
    | .ok virtualKeys =>
      let keyDowns := virtualKeys.map (Event.key · false)
      if !answers.accepted then
        (keyDowns ++ (virtualKeys.take answers.inserted).reverse.map (Event.key · true), .error .injection)
      else
        (keyDowns ++ virtualKeys.reverse.map (Event.key · true),
          if !answers.released then .error .injection else if answers.interrupted then .error .interrupted else .ok ())

end PhysicalInput
end DccCua
