import DccCua.Core.NativeAuthority
import DccCua.Lib.Calls

/-! # Restoring and activating a window

`run_exact_restore_activate_sequence` of `exact_window_restore.rs`. A minimized window may be restored to its maximized
state, so that there are two stages, each with one request at most. -/

namespace DccCua
namespace RestoreActivate

open Calls Checks Script

structure UiaTarget where
  processId : Nat
  windowHandle : Nat
  deriving DecidableEq, Repr

/-- `validate_instance` of `exact_window_state.rs`. -/
def validateInstance (target : UiaTarget) (expected : ExactWindowPixelInstanceEvidence) (state : ExactWindowNativeState) :
    Except UiaError Unit :=
  require (!(target.processId = 0 || target.windowHandle = 0 || expected.processCreationTime = 0 || expected.windowThreadId = 0
    || state.processId ≠ target.processId || state.windowHandle ≠ target.windowHandle || state.instanceEvidence ≠ expected))
    (.invalidTarget "exact observed native instance changed")

inductive RestoreStage where
  | minimized
  | maximized
  deriving DecidableEq, Repr

namespace RestoreStage

def required (stage : RestoreStage) (state : ExactWindowNativeState) : Bool :=
  match stage with
  | .minimized => state.minimized
  | .maximized => state.maximized

def completed (stage : RestoreStage) (state : ExactWindowNativeState) : Bool :=
  !state.minimized && (stage = .minimized || !state.maximized)

end RestoreStage

/-- The calls of the sequence; a request to restore is that of its stage. -/
inductive RestoreCall where
  | restoreAvailable (result : Except UiaError Unit)
  | activateAvailable (result : Except UiaError Unit)
  | read (result : Except UiaError ExactWindowNativeState)
  | restore (stage : RestoreStage) (result : Except UiaError Unit)
  | activate (result : Except UiaError Unit)
  | wait

structure RestoreClosures (κ : Type) where
  restoreAvailable : κ → Except UiaError Unit × κ
  activateAvailable : κ → Except UiaError Unit × κ
  read : κ → Except UiaError ExactWindowNativeState × κ
  restore : κ → Except UiaError Unit × κ
  activate : κ → Except UiaError Unit × κ
  wait : κ → κ

def readbackAttempts : Nat := 40

abbrev RestoreProg (κ α : Type) := CallProg κ RestoreCall (Except UiaError α)

section Sequence
variable {κ : Type} (env : RestoreClosures κ) (target : UiaTarget)

/-- A read, which has to show the instance. -/
def readInstance (expected : ExactWindowPixelInstanceEvidence) : RestoreProg κ ExactWindowNativeState :=
  (call env.read .read).tryThen fun state =>
  (Prog.ret (validateInstance target expected state)).tryThen fun _ => Prog.ret (.ok state)

/-- The readback of a stage; `left` more readings are allowed. -/
def readback (stage : RestoreStage) (expected : ExactWindowPixelInstanceEvidence) : Nat → RestoreProg κ ExactWindowNativeState
  | 0 => Prog.ret (.error (.operationFailed
      "the exact target remained minimized or maximized after the explicit restore request"))
  | left + 1 =>
    (call env.restoreAvailable .restoreAvailable).tryThen fun _ =>
    (readInstance env target expected).tryThen fun current =>
    if stage.completed current then Prog.ret (.ok current)
    else (if left = 0 then Prog.ret () else note env.wait .wait).andThen fun _ => readback stage expected left

/-- The turn of the loop for a stage. -/
def runStage (expected : ExactWindowPixelInstanceEvidence) (stage : RestoreStage) (current : ExactWindowNativeState) :
    RestoreProg κ ExactWindowNativeState :=
  if !stage.required current then Prog.ret (.ok current)
  else
    (call env.restoreAvailable .restoreAvailable).tryThen fun _ =>
    (readInstance env target expected).tryThen fun current =>
    if !stage.required current then Prog.ret (.ok current)
    else
      (call env.restoreAvailable .restoreAvailable).tryThen fun _ =>
      (call env.restore (.restore stage)).tryThen fun _ =>
      readback env target stage expected readbackAttempts

/-- From the end of the stages on. -/
def activateRestored (expected : ExactWindowPixelInstanceEvidence) : RestoreProg κ ExactWindowNativeState :=
  (call env.activateAvailable .activateAvailable).tryThen fun _ =>
  (readInstance env target expected).tryThen fun restored =>
  (Prog.ret (require (!(restored.minimized || restored.maximized || !restored.visible))
    (UiaError.invalidTarget "the exact target must be restored and visible before activation"))).tryThen fun _ =>
  (call env.activateAvailable .activateAvailable).tryThen fun _ =>
  (call env.activate .activate).tryThen fun _ =>
  (readInstance env target expected).tryThen fun final =>
  (call env.activateAvailable .activateAvailable).tryThen fun _ =>
  (Prog.ret (require (!(final.minimized || final.maximized || !final.visible || !final.foreground))
    (UiaError.operationFailed "the exact target did not finish restored, visible, and foreground"))).tryThen fun _ =>
  Prog.ret (.ok final)

def runExactRestoreActivateSequence : RestoreProg κ ExactWindowNativeState :=
  (call env.restoreAvailable .restoreAvailable).tryThen fun _ =>
  (call env.read .read).tryThen fun before =>
  (Prog.ret (validateInstance target before.instanceEvidence before)).tryThen fun _ =>
  (runStage env target before.instanceEvidence .minimized before).tryThen fun current =>
  (runStage env target before.instanceEvidence .maximized current).tryThen fun _ =>
  activateRestored env target before.instanceEvidence

end Sequence

end RestoreActivate
end DccCua
