import DccCua.Core.NativeAuthority
import DccCua.Lib.Calls

/-! # Setting the frame of a window

`run_exact_window_frame_sequence` of `exact_window_frame.rs`, with its closures called one by one; its checks are those of
`Core.NativeAuthority`. The phase of an error says on which side of the dispatch it was. -/

namespace DccCua
namespace WindowFrame

open Calls Checks Script NativeSession

inductive ExactWindowFrameError where
  | beforeDispatch (error : UiaError)
  | afterDispatch (error : UiaError)
  deriving DecidableEq, Repr

inductive FrameCall where
  | gate (result : Except UiaError Unit)
  | read (result : Except UiaError ExactWindowNativeState)
  | dispatch (result : Except UiaError Unit)
  | wait

structure FrameClosures (κ : Type) where
  gate : κ → Except UiaError Unit × κ
  read : κ → Except UiaError ExactWindowNativeState × κ
  dispatch : κ → Except UiaError Unit × κ
  wait : κ → κ

def readbackAttempts : Nat := 40

abbrev FrameProg (κ α : Type) := CallProg κ FrameCall (Except ExactWindowFrameError α)

section Sequence
variable {κ : Type} (env : FrameClosures κ) (target : ExactWindowTarget) (expected : ExactWindowNativeState) (requested : NativeRect)

/-- A call whose error gets its phase. -/
def callIn {α : Type} (phase : UiaError → ExactWindowFrameError) (closure : κ → Except UiaError α × κ) (entry : Except UiaError α → FrameCall) :
    FrameProg κ α :=
  (call closure entry).andThen fun result => Prog.ret (mapError phase result)

/-- The readback; `left` more readings are allowed. -/
def readback : Nat → FrameProg κ ExactWindowNativeState
  | 0 => Prog.ret (.error (.afterDispatch (.operationFailed "exact physical frame readback deadline elapsed")))
  | left + 1 =>
    (callIn .afterDispatch env.read .read).tryThen fun after =>
    (Prog.ret (mapError .afterDispatch (checkFrameAfter target expected requested after))).tryThen fun
      | some after => Prog.ret (.ok after)
      | none => (if left = 0 then Prog.ret () else note env.wait .wait).andThen fun _ => readback left

def runExactWindowFrameSequence : FrameProg κ ExactWindowNativeState :=
  (Prog.ret (mapError .beforeDispatch (checkExpectedFrame target expected requested))).tryThen fun _ =>
  (callIn .beforeDispatch env.gate .gate).tryThen fun _ =>
  (callIn .beforeDispatch env.read .read).tryThen fun before =>
  (Prog.ret (mapError .beforeDispatch (checkFrameBefore target expected before))).tryThen fun _ =>
  (callIn .beforeDispatch env.gate .gate).tryThen fun _ =>
  (callIn .afterDispatch env.dispatch .dispatch).tryThen fun _ =>
  readback env target expected requested readbackAttempts

end Sequence

end WindowFrame
end DccCua
