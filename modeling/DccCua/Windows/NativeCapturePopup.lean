import DccCua.Lib.Checks
import DccCua.Windows.Occlusion

/-! # Native capture popups

`native_capture_popup.rs`: popups that a main root has captured the mouse for. A sample of the roots, from the top down
to the main root, is a proof when only selected popups are above the main root and nothing else is above these. -/

namespace DccCua
namespace NativeCapturePopup

open Checks Occlusion

inductive NativeCapturePopupRefusal where
  | invalidSelection
  | rootUnavailable
  | rootNotUsable
  | guiStateUnavailable
  | focusOutsideRoot
  | captureNotSelected
  | popupUnavailable
  | popupIdentityMismatch
  | popupNotUsable
  | enumerationIncomplete
  | unselectedOccluder
  | nativeStateChanged
  | nativeStateUnavailable
  deriving DecidableEq, Repr

structure ExactWindowPixelInstanceEvidence where
  processCreationTime100ns : Nat
  windowThreadId : Nat
  windowClassHash : Nat
  ownerWindowHandle : Nat
  deriving DecidableEq, Repr

structure ExactWindowNativeState where
  processId : Nat
  windowHandle : Nat
  bounds : Option Rect
  visibleBounds : Option Rect
  dpi : Nat
  visible : Bool
  minimized : Bool
  maximized : Bool
  foreground : Bool
  inst : ExactWindowPixelInstanceEvidence
  deriving DecidableEq, Repr

inductive RootProofDecision where
  | hidden
  | cloaked
  | composited
  | disjoint
  | empty
  | overlap
  | targetReached
  | rejectCloakingQuery
  | rejectBoundsQuery
  | rejectBounds
  deriving DecidableEq, Repr

/-- A rectangle between four edges of 32 bits. -/
structure Edges32 where
  left : Int
  top : Int
  right : Int
  bottom : Int
  leftFits : -2 ^ 31 ≤ left
  topFits : -2 ^ 31 ≤ top
  rightFits : right < 2 ^ 31
  bottomFits : bottom < 2 ^ 31

def physicalRootBounds (physical : Edges32) : Option Rect :=
  let width := physical.right - physical.left
  let height := physical.bottom - physical.top
  if 2 ^ 31 ≤ width ∨ 2 ^ 31 ≤ height then none
  else if width ≤ 0 ∨ height ≤ 0 then none
  else some ⟨physical.left, physical.top, width, height⟩

theorem physicalRootBounds_valid {physical : Edges32} {r : Rect} (h : physicalRootBounds physical = some r) : r.Valid := by
  have := physical.leftFits
  have := physical.topFits
  have hright := physical.rightFits
  have hbottom := physical.bottomFits
  unfold physicalRootBounds at h
  dsimp only at h
  split at h
  · cases h
  · split at h
    · cases h
    · cases h
      constructor <;> simp only [Rect.right, Rect.bottom] <;> omega

/-- The bounds from the compositor are those that `physical_root_bounds` gives. -/
structure RootProofTraceEntry where
  windowHandle : Nat
  processId : Nat
  threadId : Nat
  rootWindowHandle : Nat
  ownerWindowHandle : Nat
  visible : Bool
  minimized : Bool
  dpi : Nat
  win32Bounds : Option Rect
  cloaked : Option Nat
  dwmBounds : Option Rect
  decision : RootProofDecision
  dwmValid : ∀ r ∈ dwmBounds, r.Valid
  deriving DecidableEq

structure FocusState where
  active : Nat
  foreground : Nat
  focus : Nat
  focusRoot : Nat
  focusInstance : ExactWindowPixelInstanceEvidence
  capture : Nat
  flags : Nat
  enabled : Bool
  visible : Bool
  deriving DecidableEq

/-- A popup, with the bits `WS_POPUP` and `WS_CHILD` of its style. -/
structure PopupState where
  state : ExactWindowNativeState
  root : Nat
  popupStyle : Bool
  childStyle : Bool
  enabled : Bool
  ownerIsLocalOrAbsent : Bool
  deriving DecidableEq

structure Sample where
  root : ExactWindowNativeState
  rootIsRoot : Bool
  rootEnabled : Bool
  focus : FocusState
  overlays : List PopupState
  roots : List RootProofTraceEntry
  desktop : Rect
  deriving DecidableEq

structure NativeCapturePopupProof where
  root : ExactWindowNativeState
  capture : ExactWindowNativeState
  overlays : List ExactWindowNativeState
  redactedRegions : List Rect
  focus : FocusState
  orderedOccluders : List ExactWindowNativeState
  desktop : Rect
  deriving DecidableEq

/-- A refusal, with the process, the handle and the bounds of the root that is in the way. -/
structure NativeCapturePopupReadError where
  reason : NativeCapturePopupRefusal
  blocker : Option (Nat × Nat × Rect)
  deriving DecidableEq

def refused (reason : NativeCapturePopupRefusal) : NativeCapturePopupReadError := ⟨reason, none⟩

def NativeCapturePopupReadError.withBlocker (error : NativeCapturePopupReadError) (blocker : RootProofTraceEntry) :
    NativeCapturePopupReadError :=
  { error with blocker := blocker.dwmBounds.map fun bounds => (blocker.processId, blocker.windowHandle, bounds) }

def maxSelected : Nat := 8

/-- Handles that are none of those before them. -/
def distinctFrom : List Nat → List Nat → Bool
  | _, [] => true
  | seen, handle :: handles => !seen.contains handle && distinctFrom (seen ++ [handle]) handles

def validSelection (root : Nat) (selected : List Nat) : Bool :=
  !selected.isEmpty && selected.length ≤ maxSelected && selected.all (fun handle => handle ≠ 0 && handle ≠ root) &&
    distinctFrom [] selected

def physicalRectangleWithinDesktop (target desktop : Rect) : Bool :=
  0 < target.width && 0 < target.height && 0 < desktop.width && 0 < desktop.height &&
    desktop.left ≤ target.left && desktop.top ≤ target.top &&
    target.left + target.width ≤ desktop.left + desktop.width && target.top + target.height ≤ desktop.top + desktop.height

def usable (state : ExactWindowNativeState) (desktop : Rect) : Bool :=
  state.visible && !state.minimized && state.dpi ≠ 0 && state.inst.processCreationTime100ns ≠ 0 &&
    state.inst.windowThreadId ≠ 0 && state.inst.windowClassHash ≠ 0 &&
    state.bounds.any (physicalRectangleWithinDesktop · desktop) &&
    state.visibleBounds.any (physicalRectangleWithinDesktop · desktop)

def guiCaretBlinking : Nat := 1

def rootFocus (root : ExactWindowNativeState) (focus : FocusState) : Bool :=
  root.foreground && focus.foreground = root.windowHandle && focus.active = root.windowHandle &&
    focus.focusRoot = root.windowHandle && focus.focus ≠ 0 && focus.enabled && focus.visible &&
    (focus.flags = 0 || focus.flags = guiCaretBlinking) &&
    focus.focusInstance.processCreationTime100ns = root.inst.processCreationTime100ns &&
    focus.focusInstance.windowThreadId = root.inst.windowThreadId && focus.focusInstance.windowClassHash ≠ 0

/-- A root that is composited on the desktop. -/
def RootProofTraceEntry.composited (entry : RootProofTraceEntry) : Bool := entry.visible && entry.cloaked = some 0

/-- The bounds of two windows share a point, as far as they are known. -/
def boundsIntersect (a b : Option Rect) : Bool := a.any fun a => b.any fun b => (intersection a b).isSome

/-- The last root of the sample is the main root, as its state says. -/
def rootEntryMatches (processId : Nat) (root : ExactWindowNativeState) (entry : RootProofTraceEntry) : Bool :=
  entry.processId = processId && entry.threadId = root.inst.windowThreadId && entry.dwmBounds = root.visibleBounds &&
    entry.win32Bounds = root.bounds && entry.dpi = root.dpi && entry.composited && entry.decision = .targetReached

/-- What is known of a visible root is not enough. -/
def incomplete (entry : RootProofTraceEntry) : Bool :=
  entry.visible && (entry.cloaked.isNone ||
    (entry.cloaked = some 0 && entry.dwmBounds.isNone && entry.decision ≠ .empty))

def popupIdentity (processId : Nat) (root : ExactWindowNativeState) (handle : Nat) (state : ExactWindowNativeState) : Bool :=
  state.windowHandle = handle && state.processId = processId &&
    state.inst.processCreationTime100ns = root.inst.processCreationTime100ns &&
    state.inst.windowThreadId = root.inst.windowThreadId

def popupUsable (popup : PopupState) (desktop : Rect) : Bool :=
  popup.root = popup.state.windowHandle && popup.popupStyle && !popup.childStyle && popup.enabled &&
    popup.ownerIsLocalOrAbsent && usable popup.state desktop

def popupEntryMatches (processId : Nat) (bounds : Rect) (state : ExactWindowNativeState) (entry : RootProofTraceEntry) : Bool :=
  entry.composited && entry.dwmBounds = state.visibleBounds && entry.win32Bounds = state.bounds && entry.dpi = state.dpi &&
    !entry.minimized && entry.rootWindowHandle = state.windowHandle && entry.processId = processId &&
    entry.threadId = state.inst.windowThreadId && (state.visibleBounds.bind (intersection bounds)).isSome

/-- A root above a popup that hides a part of it and is not selected. -/
def hidesPopup (selected : List Nat) (state : ExactWindowNativeState) (higher : RootProofTraceEntry) : Bool :=
  higher.composited && boundsIntersect higher.dwmBounds state.visibleBounds && !selected.contains higher.windowHandle

def unselectedOccluder (entry : RootProofTraceEntry) : NativeCapturePopupReadError :=
  (refused .unselectedOccluder).withBlocker entry

/-- The roots above a window, and its own entry. -/
def splitAtHandle (handle : Nat) : List RootProofTraceEntry → Option (List RootProofTraceEntry × RootProofTraceEntry)
  | [] => none
  | entry :: entries =>
    if entry.windowHandle = handle then some ([], entry)
    else (splitAtHandle handle entries).map fun found => (entry :: found.1, found.2)

/-- One pass of the loop of `validate_sample` over the popups. -/
def validatePopup (processId : Nat) (selected : List Nat) (sample : Sample) (bounds : Rect) (handle : Nat) (popup : PopupState) :
    Except NativeCapturePopupReadError ExactWindowNativeState := do
  require (popupIdentity processId sample.root handle popup.state) (refused .popupIdentityMismatch)
  require (popupUsable popup sample.desktop) (refused .popupNotUsable)
  match splitAtHandle popup.state.windowHandle sample.roots with
  | none => .error (refused .popupUnavailable)
  | some (higher, entry) => do
    require (popupEntryMatches processId bounds popup.state entry) (refused .popupNotUsable)
    match higher.find? (hidesPopup selected popup.state) with
    | some blocker => .error (unselectedOccluder blocker)
    | none => .ok popup.state

def validatePopups (processId : Nat) (selected : List Nat) (sample : Sample) (bounds : Rect) :
    List Nat → List PopupState → Except NativeCapturePopupReadError (List ExactWindowNativeState)
  | handle :: handles, popup :: popups => do
    let state ← validatePopup processId selected sample bounds handle popup
    let states ← validatePopups processId selected sample bounds handles popups
    .ok (state :: states)
  | _, _ => .ok []

/-- The part of a root that hides the main root. -/
def occluding (bounds : Rect) (entry : RootProofTraceEntry) : Option Rect :=
  if entry.composited then entry.dwmBounds.bind (intersection bounds) else none

/-- The roots above the main root that hide a part of it, and these parts. -/
def occluders (bounds : Rect) (overlays : List ExactWindowNativeState) :
    List RootProofTraceEntry → Except NativeCapturePopupReadError (List (ExactWindowNativeState × Rect))
  | [] => .ok []
  | entry :: entries =>
    match occluding bounds entry with
    | none => occluders bounds overlays entries
    | some region =>
      match overlays.find? fun state => state.windowHandle = entry.windowHandle with
      | none => .error (unselectedOccluder entry)
      | some state => do
        let rest ← occluders bounds overlays entries
        .ok ((state, region) :: rest)

/-- The order of four numbers. -/
def rectLe (a b : Rect) : Bool :=
  a.left < b.left || a.left = b.left && (a.top < b.top || a.top = b.top && (a.width < b.width ||
    a.width = b.width && a.height ≤ b.height))

/-- `Vec::dedup`: equal neighbours are one. -/
def dedup : List Rect → List Rect
  | [] => []
  | [r] => [r]
  | a :: b :: rest => if a = b then dedup (b :: rest) else a :: dedup (b :: rest)

def validateSample (processId rootHandle : Nat) (selected : List Nat) (sample : Sample) :
    Except NativeCapturePopupReadError NativeCapturePopupProof := do
  require (validSelection rootHandle selected) (refused .invalidSelection)
  let root := sample.root
  require (root.processId = processId && root.windowHandle = rootHandle && sample.rootIsRoot) (refused .rootUnavailable)
  require (sample.rootEnabled && usable root sample.desktop) (refused .rootNotUsable)
  require (rootFocus root sample.focus) (refused .focusOutsideRoot)
  require (selected.contains sample.focus.capture) (refused .captureNotSelected)
  require (sample.overlays.length = selected.length) (refused .enumerationIncomplete)
  match sample.roots.getLast? with
  | none => .error (refused .enumerationIncomplete)
  | some rootEntry => do
    require (rootEntry.windowHandle = rootHandle) (refused .enumerationIncomplete)
    require (rootEntryMatches processId root rootEntry) (refused .rootNotUsable)
    require (!sample.roots.any incomplete) (refused .enumerationIncomplete)
    match root.visibleBounds with
    | none => .error (refused .rootNotUsable)
    | some bounds => do
      let overlays ← validatePopups processId selected sample bounds selected sample.overlays
      let occluders ← occluders bounds overlays sample.roots.dropLast
      require (occluders.length = selected.length) (refused .enumerationIncomplete)
      match overlays.find? fun state => state.windowHandle = sample.focus.capture with
      | none => .error (refused .captureNotSelected)
      | some capture =>
        .ok ⟨root, capture, overlays, dedup ((occluders.map Prod.snd).mergeSort rectLe), sample.focus,
          occluders.map Prod.fst, sample.desktop⟩

/-- The geometry of a state, as it was observed. -/
def copyGeometry (expected observed : ExactWindowNativeState) : ExactWindowNativeState :=
  { expected with bounds := observed.bounds, visibleBounds := observed.visibleBounds }

/-- As many states as are observed have their geometry copied. -/
def copyGeometries : List ExactWindowNativeState → List ExactWindowNativeState → List ExactWindowNativeState
  | expected :: rest, observed :: more => copyGeometry expected observed :: copyGeometries rest more
  | expected, _ => expected

/-- Two proofs differ in the geometry of the popups only. -/
def NativeCapturePopupProof.matchesCompletedKeyboardPostcheck (expected current : NativeCapturePopupProof) : Bool :=
  { expected with
    capture := copyGeometry expected.capture current.capture
    overlays := copyGeometries expected.overlays current.overlays
    orderedOccluders := copyGeometries expected.orderedOccluders current.orderedOccluders
    redactedRegions := current.redactedRegions } = current

/-- Two samples after one another have to be the same. -/
def proofOfSamples (processId root : Nat) (selected : List Nat) (before after : Sample) :
    Except NativeCapturePopupReadError NativeCapturePopupProof := do
  require (validSelection root selected) (refused .invalidSelection)
  let before ← validateSample processId root selected before
  let after ← validateSample processId root selected after
  require (before = after) (refused .nativeStateChanged)
  .ok after

end NativeCapturePopup
end DccCua
