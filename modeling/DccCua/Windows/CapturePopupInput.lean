import DccCua.Windows.GuardedInput

/-! # Keyboard input over capture popups

`physical_input_fence/capture_popup.rs`: keys and texts for a main root with popups that were observed. A check before
input is strict. After input that is released again, a popup may have closed, and for a moment it may be closing. -/

namespace DccCua
namespace PhysicalInput

open Script NativeCapturePopup

def validateRootFence (fence : WindowsPhysicalInputFence) (state : NativeCapturePopup.ExactWindowNativeState) : Except Reason Unit :=
  if state.processId ≠ fence.processId ∨ state.windowHandle ≠ fence.windowHandle ∨ state.inst ≠ fence.nativeInstance then
    .error .instanceChanged
  else if state.bounds ≠ some fence.nativeWindowBounds ∨ state.visibleBounds ≠ some fence.nativeVisibleBounds then .error .boundsChanged
  else if state.dpi ≠ fence.windowDpi then .error .dpiChanged
  else if !state.visible then .error .targetHidden
  else if state.minimized then .error .targetMinimized
  else if !state.foreground then .error .targetNotForeground
  else .ok ()

/-- The loop of `keyboard_release_completed`: what is released was pressed, and in the end nothing is due. -/
def releaseLoop : List Event → List Event → Bool
  | pending, [] => pending.isEmpty
  | pending, event :: events =>
    match event.release with
    | some release => releaseLoop (pending ++ [release]) events
    | none => if event ∈ pending then releaseLoop (removeLast event pending) events else false

def keyboardReleaseCompleted (events : List Event) (receipt : MutationReceipt) (cleanupOnly : Bool) : Bool :=
  if events.isEmpty || receipt.requested ≠ receipt.inserted then false
  else if cleanupOnly then events.all Event.isRelease
  else releaseLoop [] events

def validateCurrentProof (expected current : NativeCapturePopupProof) (completedKeyboard : Bool) : Except Reason Unit :=
  if current = expected || (completedKeyboard && expected.matchesCompletedKeyboardPostcheck current) then .ok ()
  else .error .instanceChanged

def mayWaitForCompletedPopup (settling : Bool) (reason : Option NativeCapturePopupRefusal) : Bool :=
  reason = some .popupNotUsable || reason = some .popupUnavailable || reason = some .nativeStateUnavailable ||
    (settling && reason = some .captureNotSelected)

/-! ### The settling loop -/

/-- Durations are nanoseconds. -/
def milliseconds (n : Nat) : Nat := n * 1000000

section Postcheck
variable {σ ρ : Type} (completedKeyboard : Bool) (read : Bool → Prog σ ρ (Except Reason Unit × Bool)) (pause : Nat → Prog σ ρ Unit)
  (elapsed : Prog σ ρ Nat)

/-- The attempts that remain; with none, the loop is at its unreachable end. -/
def attempts (started : Nat) : Nat → Bool → Prog σ ρ (Option (Except Reason Unit))
  | 0, _ => Prog.ret none
  | remaining + 1, settling =>
    (if settling then elapsed.andThen fun now => Prog.ret (decide (milliseconds 100 ≤ now - started)) else Prog.ret false).andThen fun late =>
    if late then Prog.ret (some (.error .targetOccluded))
    else (read settling).andThen fun (result, unchangedTeardown) =>
      elapsed.andThen fun now =>
      let expired := decide (milliseconds 100 ≤ now - started)
      if result = .ok () ∧ settling ∧ expired then Prog.ret (some (.error .targetOccluded))
      else if !completedKeyboard || result ≠ .error .targetOccluded || !unchangedTeardown || expired || remaining = 0 then
        Prog.ret (some result)
      else elapsed.andThen fun now =>
        (pause (min (milliseconds 5) (milliseconds 100 - (now - started)))).andThen fun _ => attempts started remaining true

/-- There are 21 attempts at most. -/
def completedPopupPostcheck : Prog σ ρ (Option (Except Reason Unit)) :=
  elapsed.andThen fun started => attempts completedKeyboard read pause elapsed started 21 false

end Postcheck

/-! ### The backend -/

/-- What the system and the caller answer. `proof` is the complete proof of the popups, `closed` what is found when it is
refused: the focus of the root and the fence of the root alone. -/
inductive PopupAnswer where
  | interrupted (value : Bool)
  | gate (available : Bool)
  | proof (result : Except NativeCapturePopupRefusal NativeCapturePopupProof)
  | closed (result : Except Reason Unit)
  | state (state : Option NativeCapturePopup.ExactWindowNativeState)
  | teardown (pending : Bool)
  | elapsed (duration : Nat)
  | inserted (count : Nat)
  | clock (ms : Nat)

structure CapturePopupBackend where
  proof : NativeCapturePopupProof
  closedPostcheckAllowed : Bool
  rejection : Option NativeCapturePopupRefusal
  record : List Step

abbrev PopupProg (α : Type) := Prog CapturePopupBackend PopupAnswer α

def note (step : Step) : PopupProg Unit := Prog.update fun b => ((), { b with record := step :: b.record })

/-- Wait for an answer, and record what it says. -/
def noted {α : Type} (answer : PopupAnswer → Option α) (step : α → Step) : PopupProg α :=
  (Prog.wait answer).andThen fun a => (note (step a)).andThen fun _ => Prog.ret a

def askInterrupted : PopupProg (Except Reason Unit) := Prog.wait fun
  | .interrupted value => some (if value then .error .interrupted else .ok ())
  | _ => none

def askGate : PopupProg (Except Reason Unit) := Prog.wait fun
  | .gate available => some (if available then .ok () else .error .desktopUnavailable)
  | _ => none

def askState : PopupProg (Except Reason NativeCapturePopup.ExactWindowNativeState) := Prog.wait fun
  | .state (some state) => some (.ok state)
  | .state none => some (.error .targetUnavailable)
  | _ => none

def checkCapturePopupFence (fence : WindowsPhysicalInputFence) (readCompleteProof : PopupProg (Except Reason Unit)) :
    PopupProg (Except Reason Unit) :=
  askInterrupted.tryThen fun _ =>
  askGate.tryThen fun _ =>
  readCompleteProof.tryThen fun _ =>
  askGate.tryThen fun _ =>
  askState.tryThen fun state =>
  askInterrupted.tryThen fun _ => Prog.ret (validateRootFence fence state)

/-- The proof of the popups has to be the expected one; if it is refused, the popup may have closed. -/
def readCompleteProof (allowClosed : Bool) : PopupProg (Except Reason Unit) :=
  (Prog.wait fun
    | .proof result => some result
    | _ => none).andThen fun proof =>
  match proof with
  | .ok current =>
    (Prog.read fun b => b.proof).andThen fun expected =>
      match validateCurrentProof expected current allowClosed with
      | .ok _ => (note (.proved (current = expected))).andThen fun _ => Prog.ret (.ok ())
      | .error reason => Prog.ret (.error reason)
  | .error refusal =>
    (Prog.update fun b => ((), { b with rejection := some refusal })).andThen fun _ =>
      if allowClosed then
        (Prog.wait fun
          | .closed result => some result
          | _ => none).tryThen fun _ => (note .closed).andThen fun _ => Prog.ret (.ok ())
      else Prog.ret (.error .targetOccluded)

/-- The refusal is kept with an error that says that the target is occluded. -/
def checkModeOnce (fence : WindowsPhysicalInputFence) (allowClosed : Bool) : PopupProg (Except Reason Unit) :=
  (Prog.read fun b => validateRootFence fence b.proof.root).tryThen fun _ =>
  (Prog.update fun b => ((), { b with rejection := none })).andThen fun _ =>
  (checkCapturePopupFence fence (readCompleteProof allowClosed)).andThen fun result =>
  Prog.update fun b => (result, if result = .error .targetOccluded then b else { b with rejection := none })

/-- A read of the popup, and whether it is the unchanged teardown of the popup that stands in the way. -/
def popupRead (fence : WindowsPhysicalInputFence) (allowClosed settling : Bool) : PopupProg (Except Reason Unit × Bool) :=
  ((checkModeOnce fence allowClosed).andThen fun result =>
    (Prog.read fun b => mayWaitForCompletedPopup settling b.rejection).andThen fun mayWait =>
    if !allowClosed || result ≠ .error .targetOccluded || !mayWait then Prog.ret (result, false)
    else
      (checkCapturePopupFence fence (Prog.wait fun
        | .teardown pending => some (if pending then .ok () else .error .targetOccluded)
        | _ => none)).andThen fun unchanged =>
      match unchanged with
      | .ok _ => Prog.ret (result, true)
      | .error reason => Prog.ret (.error reason, false)).andThen fun outcome =>
  (note (.read settling outcome.1)).andThen fun _ => Prog.ret outcome

def popupElapsed : PopupProg Nat := noted (fun | .elapsed duration => some duration | _ => none) fun duration => .elapsed duration

def popupPause (duration : Nat) : PopupProg Unit := note (.pause duration)

def postcheckMode (fence : WindowsPhysicalInputFence) (allowClosed : Bool) : PopupProg (Option (Except Reason Unit)) :=
  completedPopupPostcheck allowClosed (popupRead fence allowClosed) popupPause popupElapsed

/-- The unreachable end of the loop would be a panic. -/
def checkMode (fence : WindowsPhysicalInputFence) (allowClosed : Bool) : PopupProg (Except Reason Unit) :=
  (note (.checking allowClosed)).andThen fun _ =>
  (postcheckMode fence allowClosed).andThen fun
    | some result => (note (.check fence none allowClosed result)).andThen fun _ => Prog.ret result
    | none => Prog.dropped

def popupCheck (fence : WindowsPhysicalInputFence) (point : Option Point) : PopupProg (Except Reason Unit) :=
  if point.isSome then Prog.ret (.error .invalidRequest)
  else (Prog.read fun b => b.closedPostcheckAllowed).andThen fun allowed => checkMode fence allowed

def popupDispatch (events : List Event) (cleanupOnly : Bool) : PopupProg MutationReceipt :=
  (noted (fun | .inserted count => some count | _ => none) fun count => .batch cleanupOnly events count).andThen fun count =>
    Prog.ret ⟨events.length, count, false, false⟩

def popupMutate (fence : WindowsPhysicalInputFence) (point : Option Point) (events : List Event) (cursor : Option Point)
    (cleanupOnly : Bool) : PopupProg (Except Reason MutationReceipt) :=
  if point.isSome || cursor.isSome || events.any Event.isPointer then Prog.ret (.error .invalidRequest)
  else
    (finalPhysicalBoundary cleanupOnly (!events.isEmpty && events.all Event.isRelease) (checkMode fence false)
      (popupDispatch events cleanupOnly)).tryThen fun receipt =>
    Prog.update fun b =>
      (.ok receipt, { b with closedPostcheckAllowed := keyboardReleaseCompleted events receipt cleanupOnly })

def capturePopupBackend : InputBackend CapturePopupBackend PopupAnswer where
  check := popupCheck
  mutate := popupMutate
  interrupted := noted (fun | .interrupted value => some value | _ => none) fun value => .interrupted value
  elapsedMs := noted (fun | .clock ms => some ms | _ => none) fun ms => .clock ms
  pause ms := note (.pause ms)

/-- The requests that are sent over capture popups. -/
inductive KeyboardRequest where
  | keypress (keys : List String) (holdDurationMs : Option Nat)
  | text (content : String)

def KeyboardRequest.request : KeyboardRequest → Request
  | .keypress keys holdDurationMs => .keypress keys holdDurationMs
  | .text content => .text content

/-- `send_guarded_capture_popup_keypress` and `send_guarded_capture_popup_text`. -/
def sendGuardedCapturePopup (request : KeyboardRequest) :
    Prog (Transaction CapturePopupBackend) PopupAnswer (Except WindowsGuardedInputError WindowsGuardedInputOutcome) :=
  request.request.run capturePopupBackend

def beginCapturePopup (request : KeyboardRequest) (fence : WindowsPhysicalInputFence) (proof : NativeCapturePopupProof) :
    Transaction CapturePopupBackend := request.request.begin ⟨proof, false, none, []⟩ fence

end PhysicalInput
end DccCua
