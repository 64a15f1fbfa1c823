import DccCua.Lib.Script
import DccCua.Windows.InputEvents
import DccCua.Windows.NativeCapturePopup

/-! # Guarded input

The transactions of `physical_input_fence.rs`: clicks, drags, keys and texts over a backend that checks the target and
sends events. A backend keeps a record of what it has done, the last first; `batch` and `cursor` are what it does to the
desktop. The checks, the numbers of inserted events, the interruptions and the clock are answers of the environment. -/

namespace DccCua
namespace PhysicalInput

open Script NativeCapturePopup

abbrev Point := Int × Int

structure WindowsPhysicalInputFence where
  processId : Nat
  windowHandle : Nat
  nativeInstance : NativeCapturePopup.ExactWindowPixelInstanceEvidence
  nativeWindowBounds : Rect
  nativeVisibleBounds : Rect
  windowDpi : Nat
  deriving DecidableEq, Repr

inductive WindowsGuardedInputOperation where
  | click
  | drag
  | keypress
  | text
  deriving DecidableEq, Repr

structure WindowsGuardedInputOutcome where
  operation : WindowsGuardedInputOperation
  mutationAttempted : Bool
  cursorMoveAttempted : Bool
  cursorMoveSucceeded : Bool
  requestedEvents : Nat
  insertedEvents : Nat
  cleanupRequestedEvents : Nat
  cleanupInsertedEvents : Nat
  deliveryCompleted : Bool
  postDispatchValidated : Bool
  freshObservationRequired : Bool
  deriving DecidableEq, Repr

def WindowsGuardedInputOutcome.new (operation : WindowsGuardedInputOperation) : WindowsGuardedInputOutcome :=
  ⟨operation, false, false, false, 0, 0, 0, 0, false, false, true⟩

structure WindowsGuardedInputError where
  reason : Reason
  outcome : WindowsGuardedInputOutcome
  deriving DecidableEq, Repr

structure MutationReceipt where
  requested : Nat
  inserted : Nat
  cursorAttempted : Bool
  cursorSucceeded : Bool
  deriving DecidableEq, Repr

/-- What a backend does: checks with their results, which may tolerate a popup that has closed, what it sends to the
desktop, and its looks at the clock and at interruptions. A check of a popup begins with `checking`; it reads the popup
once or more often, and accepts a proof, which is exact or differs in geometry, or a popup that has closed. -/
inductive Step where
  | check (fence : WindowsPhysicalInputFence) (point : Option Point) (tolerant : Bool) (result : Except Reason Unit)
  | batch (cleanup : Bool) (events : List Event) (inserted : Nat)
  | cursor (point : Point) (moved : Bool)
  | interrupted (value : Bool)
  | clock (ms : Nat)
  | pause (ms : Nat)
  | checking (tolerant : Bool)
  | elapsed (duration : Nat)
  | proved (exact : Bool)
  | closed
  | read (settling : Bool) (result : Except Reason Unit)

/-- The methods of a backend with state `β`. -/
structure InputBackend (β ρ : Type) where
  check : WindowsPhysicalInputFence → Option Point → Prog β ρ (Except Reason Unit)
  mutate : WindowsPhysicalInputFence → Option Point → List Event → Option Point → Bool →
    Prog β ρ (Except Reason MutationReceipt)
  interrupted : Prog β ρ Bool
  elapsedMs : Prog β ρ Nat
  pause : Nat → Prog β ρ Unit

def finalPhysicalBoundary {σ ρ α : Type} (cleanupOnly releasesOnly : Bool) (check : Prog σ ρ (Except Reason Unit))
    (dispatch : Prog σ ρ α) : Prog σ ρ (Except Reason α) :=
  if cleanupOnly then
    if releasesOnly then dispatch.andThen fun receipt => Prog.ret (.ok receipt) else Prog.ret (.error .invalidRequest)
  else check.tryThen fun _ => dispatch.andThen fun receipt => Prog.ret (.ok receipt)

/-! ### Transactions -/

structure Transaction (β : Type) where
  backend : β
  fence : WindowsPhysicalInputFence
  point : Option Point
  outcome : WindowsGuardedInputOutcome
  pendingReleases : List Event

/-- The last entry that is the event is removed. -/
def removeLast (event : Event) (pending : List Event) : List Event := (pending.reverse.erase event).reverse

def settleStep (pending : List Event) (event : Event) : List Event :=
  match event.release with
  | some release => pending ++ [release]
  | none => if event.isRelease then removeLast event pending else pending

/-- The releases that are due after some events. -/
def settle (pending events : List Event) : List Event := events.foldl settleStep pending

section Transactions
variable {β ρ : Type} (B : InputBackend β ρ)

def onBackend {α : Type} (p : Prog β ρ α) : Prog (Transaction β) ρ α :=
  p.within Transaction.backend fun t backend => { t with backend }

abbrev TransactionProg (β ρ : Type) := Prog (Transaction β) ρ (Except Reason Unit)

/-- The outcome and the due releases after a receipt. -/
def Transaction.received (t : Transaction β) (events : List Event) (receipt : MutationReceipt) : Transaction β :=
  { t with
    outcome := { t.outcome with
      mutationAttempted := true
      cursorMoveAttempted := t.outcome.cursorMoveAttempted || receipt.cursorAttempted
      cursorMoveSucceeded := t.outcome.cursorMoveSucceeded || receipt.cursorSucceeded
      requestedEvents := t.outcome.requestedEvents + receipt.requested
      insertedEvents := t.outcome.insertedEvents + receipt.inserted }
    pendingReleases := settle t.pendingReleases (events.take receipt.inserted) }

/-- Run a program of the backend that depends on the transaction. -/
def withTransaction {α : Type} (p : Transaction β → Prog β ρ α) : Prog (Transaction β) ρ α := fun t => onBackend (p t) t

def mutate (events : List Event) (cursor : Option Point) : TransactionProg β ρ :=
  (withTransaction fun t => B.mutate t.fence t.point events cursor false).tryThen fun receipt =>
    Prog.update fun t =>
      (if receipt.inserted ≠ receipt.requested ∨ (receipt.cursorAttempted ∧ !receipt.cursorSucceeded) then
        .error .injectionIncomplete else .ok (), t.received events receipt)

def cleanup : TransactionProg β ρ :=
  (Prog.read fun t : Transaction β => t.pendingReleases).andThen fun pending =>
    if pending.isEmpty then Prog.ret (.ok ())
    else (withTransaction fun t => B.mutate t.fence t.point pending.reverse none true).tryThen fun receipt =>
      Prog.update fun t =>
        (if receipt.requested ≠ receipt.inserted then .error .injectionIncomplete else .ok (),
          { t with
            outcome := { t.outcome with
              cleanupRequestedEvents := t.outcome.cleanupRequestedEvents + receipt.requested
              cleanupInsertedEvents := t.outcome.cleanupInsertedEvents + receipt.inserted }
            pendingReleases := [] })

/-- A check for a point, or for the point in effect. -/
def checkAt (point : Option Point) : TransactionProg β ρ := withTransaction fun t => B.check t.fence point

def checkHere : TransactionProg β ρ := withTransaction fun t => B.check t.fence t.point

/-- The check after the events, unless they or their cleanup have failed. -/
def postcheck (result cleaned : Except Reason Unit) : TransactionProg β ρ :=
  match result, cleaned with
  | .error reason, _ => Prog.ret (.error reason)
  | .ok _, .error reason => Prog.ret (.error reason)
  | .ok _, .ok _ => checkHere B

def finish (result : Except Reason Unit) : Prog (Transaction β) ρ (Except WindowsGuardedInputError WindowsGuardedInputOutcome) :=
  (cleanup B).andThen fun cleaned =>
  (postcheck B result cleaned).andThen fun result =>
  Prog.read fun t =>
    match result with
    | .ok _ => .ok { t.outcome with deliveryCompleted := true, postDispatchValidated := true }
    | .error reason => .error ⟨reason, t.outcome⟩

/-- `saturating_add` of numbers of 64 bits. -/
def saturatingAdd (a b : Nat) : Nat := min (a + b) (2 ^ 64 - 1)

/-- Until the deadline the guard is looked at, and the thread sleeps in between. -/
def waitUntil (guard : TransactionProg β ρ) (deadline : Nat) : TransactionProg β ρ :=
  Prog.roundsUntil <| (onBackend B.elapsedMs).andThen fun now =>
    if now < deadline then
      guard.andThen fun
        | .error reason => Prog.ret (some (.error reason))
        | .ok _ => (onBackend B.elapsedMs).andThen fun now =>
          (onBackend (B.pause (min (deadline - now) 20))).andThen fun _ => Prog.ret none
    else Prog.ret (some (.ok ()))

/-! ### Operations -/

/-- The clicks of a batch, with a pause between them. -/
def clicks (batch : List Event) : Nat → TransactionProg β ρ
  | 0 => Prog.ret (.ok ())
  | n + 1 => (mutate B batch none).tryThen fun _ =>
    (if n = 0 then Prog.ret () else onBackend (B.pause 80)).andThen fun _ => clicks batch n

def clickBody (point : Point) (count : Nat) (button : WindowsPointerButton) (modifiers : List String) : TransactionProg β ρ :=
  if ¬(1 ≤ count ∧ count ≤ 2) then Prog.ret (.error .invalidRequest)
  else
    match checkedKeys modifiers true with
    | .error reason => Prog.ret (.error reason)
    | .ok modifiers =>
      (mutate B [] (some point)).tryThen fun _ =>
      (if modifiers.isEmpty then Prog.ret (.ok ()) else mutate B (modifiers.map fun key => .key key false) none).tryThen fun _ =>
      clicks B [.move point.1 point.2, .mouse button false, .mouse button true] count

def runClick (point : Point) (count : Nat) (button : WindowsPointerButton) (modifiers : List String) :
    Prog (Transaction β) ρ (Except WindowsGuardedInputError WindowsGuardedInputOutcome) :=
  (clickBody B point count button modifiers).andThen fun result => finish B result

/-- Every point of a path passes a check. -/
def preflight : List Point → TransactionProg β ρ
  | [] => Prog.ret (.ok ())
  | point :: points => (checkAt B (some point)).tryThen fun _ => preflight points

def setPoint (point : Point) : TransactionProg β ρ := Prog.update fun t => (.ok (), { t with point := some point })

/-- The moves of a drag to the points from an index on, spread over its duration. -/
def dragMoves (started durationMs total : Nat) : Nat → List Point → TransactionProg β ρ
  | _, [] => Prog.ret (.ok ())
  | index, point :: points =>
    (waitUntil B (checkHere B) (saturatingAdd started (durationMs * index / total))).tryThen fun _ =>
    (setPoint point).tryThen fun _ =>
    (mutate B [.move point.1 point.2] none).tryThen fun _ =>
    dragMoves started durationMs total (index + 1) points

def dragBody (points : List Point) (durationMs : Nat) (button : WindowsPointerButton) : TransactionProg β ρ :=
  if ¬(2 ≤ points.length ∧ points.length ≤ 201) ∨ ¬(1 ≤ durationMs ∧ durationMs ≤ 10000) ∨ points.head? = points.getLast? then
    Prog.ret (.error .invalidRequest)
  else
    (preflight B points).tryThen fun _ =>
    (mutate B [] points.head?).tryThen fun _ =>
    (mutate B [.mouse button false] none).tryThen fun _ =>
    (onBackend B.elapsedMs).andThen fun started =>
    (dragMoves B started durationMs (points.length - 1) 1 points.tail).tryThen fun _ =>
    mutate B [.mouse button true] none

def runDrag (points : List Point) (durationMs : Nat) (button : WindowsPointerButton) :
    Prog (Transaction β) ρ (Except WindowsGuardedInputError WindowsGuardedInputOutcome) :=
  (dragBody B points durationMs button).andThen fun result => finish B result

/-- Held keys are released early when the input is interrupted. -/
def holdGuard : TransactionProg β ρ :=
  (onBackend B.interrupted).andThen fun interrupted =>
    if interrupted then Prog.ret (.error .interrupted) else checkAt B none

def keypressBody (keys : List String) (duration : Option Nat) : TransactionProg β ρ :=
  match checkedKeys keys false with
  | .error reason => Prog.ret (.error reason)
  | .ok keys =>
    if duration.any fun duration => duration = 0 || duration > 60000 then Prog.ret (.error .invalidRequest)
    else
      match duration with
      | some duration =>
        (mutate B (keys.map fun key => .key key false) none).tryThen fun _ =>
        (onBackend B.elapsedMs).andThen fun now => waitUntil B (holdGuard B) (saturatingAdd now duration)
      | none =>
        mutate B ((keys.map fun key => Event.key key false) ++ keys.reverse.map fun key => Event.key key true) none

def runKeypress (keys : List String) (duration : Option Nat) :
    Prog (Transaction β) ρ (Except WindowsGuardedInputError WindowsGuardedInputOutcome) :=
  (keypressBody B keys duration).andThen fun result => finish B result

def textBody (text : String) : TransactionProg β ρ :=
  match textEvents text with
  | .error reason => Prog.ret (.error reason)
  | .ok events => mutate B events none

def runText (text : String) : Prog (Transaction β) ρ (Except WindowsGuardedInputError WindowsGuardedInputOutcome) :=
  (textBody B text).andThen fun result => finish B result

end Transactions

/-! ### The native backend -/

inductive NativeAnswer where
  | check (result : Except Reason Unit)
  | inserted (count : Nat)
  | cursor (moved : Bool)
  | interrupted (value : Bool)
  | clock (ms : Nat)

/-- The record of the native backend. -/
abbrev NativeRecord := List Step

/-- Wait for an answer, and record what it says. -/
def recorded {ρ α : Type} (answer : ρ → Option α) (step : α → Step) : Prog (List Step) ρ α :=
  (Prog.wait answer).andThen fun a => Prog.update fun record => (a, step a :: record)

def nativeCheck (fence : WindowsPhysicalInputFence) (point : Option Point) : Prog NativeRecord NativeAnswer (Except Reason Unit) :=
  recorded (fun | .check result => some result | _ => none) fun result => .check fence point false result

/-- The one mutation of the desktop: the cursor is set, or events are sent. -/
def nativeDispatch (events : List Event) (cursor : Option Point) (cleanupOnly : Bool) :
    Prog NativeRecord NativeAnswer MutationReceipt :=
  match cursor with
  | some point =>
    (recorded (fun | .cursor moved => some moved | _ => none) fun moved => .cursor point moved).andThen fun moved =>
      Prog.ret ⟨0, 0, true, moved⟩
  | none =>
    (recorded (fun | .inserted count => some count | _ => none) fun count => .batch cleanupOnly events count).andThen fun count =>
      Prog.ret ⟨events.length, count, false, false⟩

def nativeMutate (fence : WindowsPhysicalInputFence) (point : Option Point) (events : List Event) (cursor : Option Point)
    (cleanupOnly : Bool) : Prog NativeRecord NativeAnswer (Except Reason MutationReceipt) :=
  finalPhysicalBoundary cleanupOnly (cursor.isNone && !events.isEmpty && events.all Event.isRelease)
    (nativeCheck fence point) (nativeDispatch events cursor cleanupOnly)

def nativeBackend : InputBackend NativeRecord NativeAnswer where
  check := nativeCheck
  mutate := nativeMutate
  interrupted := recorded (fun | .interrupted value => some value | _ => none) fun value => .interrupted value
  elapsedMs := recorded (fun | .clock ms => some ms | _ => none) fun ms => .clock ms
  pause ms := Prog.update fun record => ((), .pause ms :: record)

/-! ### Requests -/

inductive Request where
  | click (point : Point) (count : Nat) (button : WindowsPointerButton) (modifiers : List String)
  | drag (points : List Point) (durationMs : Nat) (button : WindowsPointerButton)
  | keypress (keys : List String) (duration : Option Nat)
  | text (content : String)

/-- The point of the transaction when it begins. -/
def Request.startPoint : Request → Option Point
  | .click point _ _ _ => some point
  | .drag points _ _ => points.head?
  | _ => none

def Request.operation : Request → WindowsGuardedInputOperation
  | .click .. => .click
  | .drag .. => .drag
  | .keypress .. => .keypress
  | .text _ => .text

def Request.run {β ρ : Type} (B : InputBackend β ρ) :
    Request → Prog (Transaction β) ρ (Except WindowsGuardedInputError WindowsGuardedInputOutcome)
  | .click point count button modifiers => runClick B point count button modifiers
  | .drag points durationMs button => runDrag B points durationMs button
  | .keypress keys duration => runKeypress B keys duration
  | .text content => runText B content

def Request.begin {β : Type} (request : Request) (backend : β) (fence : WindowsPhysicalInputFence) : Transaction β :=
  ⟨backend, fence, request.startPoint, .new request.operation, []⟩

end PhysicalInput
end DccCua
