import DccCua.Lib.Saturation

/-! # Connected scopes

`connected_scope` of `capture_preparation/native.rs`: the windows that a mutation of the root may affect, with their
owners. A census lists the top-level windows from top to bottom; an owner of zero is none. -/

namespace DccCua
namespace ConnectedScope

open Saturation

inductive PreparationFailure where
  | invalidBinding
  | authorizationDenied
  | parentUnavailable
  | supervisorNotIndependent
  | targetUnavailable
  | targetOutsideDesktop
  | identityChanged
  | affectedScopeChanged
  | enumerationIncomplete
  | desktopUnavailable
  | geometryChanged
  | anchorChanged
  | mutationFailed
  | readbackFailed
  | journalFailed
  | gateBusy
  | expired
  | stopped
  | parentDied
  | disconnected
  | workerLost
  | protocolMismatch
  | notActive
  | captureFailed
  deriving DecidableEq, Repr

structure PreparationError where
  reason : PreparationFailure
  osError : Option Int
  deriving DecidableEq, Repr

def PreparationError.new (reason : PreparationFailure) : PreparationError := ⟨reason, none⟩

def maxAffectedWindows : Nat := 32

/-- The windows with their owners; the enumeration gives no null handle. -/
structure Census where
  windows : List (Nat × Nat)
  handles : ∀ row ∈ windows, row.1 ≠ 0

def inOrder (windows : List (Nat × Nat)) (group : Finset Nat) : List Nat := (windows.filter fun row => row.1 ∈ group).map (·.1)

end ConnectedScope
end DccCua
