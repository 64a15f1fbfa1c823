import DccCua.Lib.Json
import DccCua.Host.Wire
import DccCua.Words
import DccCua.Core.LiveObservation

/-! # Images in responses

How the Host sends images: `prepare_image_transport`, `snapshot_image_transport` and the builders of every
response that carries images. A builder gives the JSON response and the bytes of the second frame, if there
is one. Creating a region of shared memory may fail; `region` is its id or the error. -/

namespace DccCua

inductive SnapshotTransport where
  | binaryFrame
  | sharedMemory
  deriving DecidableEq, Repr

/-- An encoded image in memory. -/
structure TransportImage where
  data : Bytes
  mimeType : String
  allocated : data.length < 2 ^ 63

structure PreparedImageTransport where
  primary : Option Json
  attachments : List Json
  attachment : Option Bytes
  useSharedMemory : Bool

abbrev Region := Except String String

namespace ImageTransport

def png (data : Bytes) (allocated : data.length < 2 ^ 63) : TransportImage := ⟨data, "image/png", allocated⟩

/-- `SharedImage::from_bytes` and the descriptor of the region. -/
def sharedDescriptor (region : Region) (image : TransportImage) : Except String Json :=
  if image.data = [] then .error "shared image is empty"
  else if maxBinaryFrameBytes < image.data.length then
    .error ("shared image is larger than " ++ toString maxBinaryFrameBytes ++ " bytes")
  else match region with
    | .error message => .error ("shared memory failed: " ++ message)
    | .ok id => .ok (.obj [("name", .str ("cua_" ++ id)), ("id", .str id), ("length", .int image.data.length),
        ("mime_type", .str image.mimeType), ("encoding", .str "shared_memory")])

def encodingName (useSharedMemory : Bool) : String := if useSharedMemory then "shared_memory" else "binary_frame"

/-- The descriptors of the images from `index` on, whose bytes start at `offset`. -/
def descriptorsFrom (useSharedMemory : Bool) : Nat → Nat → List TransportImage → List Json
  | _, _, [] => []
  | index, offset, image :: images =>
    .obj [("index", .int index), ("offset", .int offset), ("length", .int image.data.length),
      ("mime_type", .str image.mimeType), ("encoding", .str (encodingName useSharedMemory))] ::
      descriptorsFrom useSharedMemory (index + 1) (offset + image.data.length) images

/-- The sum of the lengths, unless it overflows. -/
def combinedLength (images : List TransportImage) : Except String Nat :=
  images.foldlM (fun total image =>
    if u64Max < total + image.data.length then .error "combined image payload length overflowed"
    else .ok (total + image.data.length)) 0

def prepareImageTransportWithLimit (images : List TransportImage) (mode : SnapshotTransport) (region : Region)
    (binaryFrameLimit : Nat) : Except String PreparedImageTransport := do
  let useSharedMemory := mode = .sharedMemory ∧ images.length = 1
  let combined ← if useSharedMemory then .ok 0 else combinedLength images
  if binaryFrameLimit < combined then
    .error ("combined image payload exceeds the " ++ toString binaryFrameLimit ++ "-byte binary frame limit")
  else
    let attachments := descriptorsFrom useSharedMemory 0 0 images
    match images with
    | [] => .ok ⟨none, attachments, none, useSharedMemory⟩
    | image :: _ =>
      if useSharedMemory then
        let descriptor ← sharedDescriptor region image
        .ok ⟨some descriptor, attachments, none, true⟩
      else .ok ⟨attachments.head?, attachments, some (images.flatMap (·.data)), false⟩

def prepareImageTransport (images : List TransportImage) (mode : SnapshotTransport) (region : Region) :
    Except String PreparedImageTransport :=
  prepareImageTransportWithLimit images mode region maxBinaryFrameBytes

/-- The image items of `content`, in order, get the descriptors. -/
def annotateItems : Nat → List Json → List Json → List Json
  | index, descriptor :: descriptors, item :: items =>
    if (item.get "type").asStr = some "image" then
      ((((item.set "data" .null).set "encoding" (descriptor.get "encoding")).set "attachment_index" (.int index)).set
        "offset" (descriptor.get "offset")).set "length" (descriptor.get "length") ::
        annotateItems (index + 1) descriptors items
    else item :: annotateItems index (descriptor :: descriptors) items
  | _, _, items => items

def annotateContent (prepared : PreparedImageTransport) (value : Json) : Json :=
  match (value.get "content").asArray with
  | none => value
  | some items => value.set "content" (.arr (annotateItems 0 prepared.attachments items))

/-- An image alone, without a limit: the transport of the snapshots. -/
def singleImage (image : TransportImage) (id : String) (mode : SnapshotTransport) (region : Region) :
    Except String (Json × Option Bytes) :=
  match mode with
  | .sharedMemory => (sharedDescriptor region image).map fun descriptor => (descriptor, none)
  | .binaryFrame =>
    .ok (.obj [("name", .str ""), ("id", .str id), ("length", .int image.data.length), ("mime_type", .str "image/png"),
      ("encoding", .str "binary_frame")], some image.data)

/-- The overlays of the popup metadata get the descriptors after the first. -/
def imageOverlays (popup : Json) (attachments : List Json) : Except String Json :=
  match (popup.get "overlays").asArray with
  | none => .error "selected popup metadata is missing"
  | some items =>
    if items.length + 1 ≠ attachments.length then .error "selected popup images and metadata differ"
    else .ok (popup.set "overlays" (.arr (List.zipWith (fun item image => item.set "image" image) items attachments.tail)))

/-- `snapshot_image_transport`, with the popup metadata. -/
def snapshotImageTransport (root : TransportImage) (observationId : String) (overlays : List TransportImage) (popup : Json)
    (mode : SnapshotTransport) (region : Region) : Except String (PreparedImageTransport × Json) :=
  if overlays.isEmpty then do
    let (primary, attachment) ← singleImage root observationId mode region
    .ok (⟨some primary, [], attachment, mode = .sharedMemory⟩, popup)
  else do
    let prepared ← prepareImageTransport (root :: overlays) mode region
    let popup ← imageOverlays popup prepared.attachments
    .ok (prepared, popup)

end ImageTransport

/-! ### The builders -/

structure ComputerUseToolResult where
  status : ComputerUseToolStatus
  value : Json
  text : String
  images : List TransportImage
  degraded : Bool

abbrev Response := Json × Option Bytes

namespace ImageTransport

def statusJson : ComputerUseToolStatus → Json
  | .succeeded => .str "succeeded"
  | .rejected => .str "rejected"

/-- The image fields of a response. -/
def setImage (response : Json) : Option Json → Json
  | none => response
  | some image => response.set "image" image

def nativeToolResponseWithTransport (sessionId : Option String) (tool : String) (result : ComputerUseToolResult)
    (mode : SnapshotTransport) (region : Region) : Except String Response := do
  let prepared ← prepareImageTransport result.images mode region
  let value := annotateContent prepared (result.value.set "success" (.bool (result.status = .succeeded)))
  let response := Json.obj [("type", .str "tool_result"), ("session_id", sessionId.elim .null .str), ("tool", .str tool),
    ("status", statusJson result.status), ("result", value), ("text", .str result.text), ("degraded", .bool result.degraded)]
  match prepared.primary with
  | none => .ok (response, prepared.attachment)
  | some image =>
    let response := response.set "image" image
    .ok (if prepared.useSharedMemory then response else response.set "attachments" (.arr prepared.attachments),
      prepared.attachment)

/-- A field of the tool response, if it is not null. -/
def copyField (source response : Json) (name : String) : Json :=
  match source.get name with
  | .null => response
  | value => response.set name value

def actionCompletedResponse (sessionId actionId message : String) (result : ComputerUseToolResult)
    (mode : SnapshotTransport) (region : Region) : Except String Response := do
  let (tool, attachment) ← nativeToolResponseWithTransport (some sessionId) "action" result mode region
  let response := Json.obj [("type", .str "action_completed"), ("success", .bool (result.status = .succeeded)),
    ("status", tool.get "status"), ("action_id", .str actionId), ("target_closed", .bool false),
    ("policy_tier", .str "task_grant"), ("message", .str message), ("result", tool.get "result"),
    ("text", tool.get "text"), ("degraded", tool.get "degraded")]
  .ok (copyField tool (copyField tool response "image") "attachments", attachment)

def responseImageDescriptor (response : Json) (imageIndex : Nat) : Option Json :=
  match ((response.get "attachments").asArray.bind (·[imageIndex]?)) with
  | some descriptor => some descriptor
  | none =>
    match response.get "image" with
    | .null => none
    | image => if imageIndex = 0 then some image else none

/-- `action_completed_with_snapshot_response` and its desktop sibling: the snapshot is one more image.
    `postSnapshot` is what they say of it. -/
def actionWithSnapshotResponse (sessionId actionId message : String) (result : ComputerUseToolResult)
    (screenshot : TransportImage) (postSnapshot : Json) (mode : SnapshotTransport) (region : Region) :
    Except String Response := do
  let imageIndex := result.images.length
  let result := { result with images := result.images ++ [screenshot] }
  let (response, attachment) ← actionCompletedResponse sessionId actionId message result mode region
  .ok (response.set "post_snapshot" (setImage postSnapshot (responseImageDescriptor response imageIndex)), attachment)

def browserResponse (responseType sessionId : String) (value : Json) (images : List TransportImage)
    (mode : SnapshotTransport) (region : Region) : Except String Response := do
  let prepared ← prepareImageTransport images mode region
  let response := setImage (.obj [("type", .str responseType), ("session_id", .str sessionId),
    ("result", annotateContent prepared value)]) prepared.primary
  .ok (if 1 < prepared.attachments.length then response.set "attachments" (.arr prepared.attachments) else response,
    prepared.attachment)

def imageResponse (image : TransportImage) (mode : SnapshotTransport) (region : Region) :
    Except String (Option Json × Option Bytes) := do
  let prepared ← prepareImageTransport [image] mode region
  .ok (prepared.primary.map fun descriptor =>
    if (descriptor.get "encoding").asStr = some "binary_frame" then
      (descriptor.set "name" (.str "")).set "id" (.str "")
    else descriptor, prepared.attachment)

/-- The response to `verify_state`. -/
def stateVerifiedResponse (sessionId : String) (value : Json) (image : Option TransportImage) (mode : SnapshotTransport)
    (region : Region) : Except String Response :=
  let response := Json.obj [("type", .str "state_verified"), ("session_id", .str sessionId), ("result", value)]
  match image with
  | none => .ok (response, none)
  | some image => do
    let (descriptor, attachment) ← imageResponse image mode region
    .ok (setImage response descriptor, attachment)

/-- What the response to `snapshot` says apart from its images. -/
structure SnapshotFields where
  observationId : String
  accessibilityStateId : Json
  observationMode : Json
  target : Json
  observation : Json
  root : Json
  nodeCount : Nat
  activation : Json

/-- The response to `snapshot`. -/
def snapshotResponse (fields : SnapshotFields) (root : TransportImage) (overlays : List TransportImage) (popup : Json)
    (mode : SnapshotTransport) (region : Region) : Except String Response := do
  let (prepared, popup) ← snapshotImageTransport root fields.observationId overlays popup mode region
  let response := Json.obj [("type", .str "snapshot"), ("observation_id", .str fields.observationId),
    ("accessibility_state_id", fields.accessibilityStateId), ("observation_mode", fields.observationMode),
    ("target", fields.target), ("observation", fields.observation), ("root", fields.root),
    ("node_count", .int fields.nodeCount), ("image", prepared.primary.getD .null), ("activation", fields.activation)]
  .ok (if prepared.attachments.isEmpty then response
    else (response.set "attachments" (.arr prepared.attachments)).set "native_capture_popup_observation" popup,
    prepared.attachment)

/-- The response to `desktop_snapshot`. -/
def desktopSnapshotResponse (id : String) (state : Json) (image : TransportImage) (mode : SnapshotTransport)
    (region : Region) : Except String Response := do
  let (descriptor, attachment) ← singleImage image ("desktop-" ++ id) mode region
  .ok (.obj [("type", .str "desktop_snapshot"), ("state", state), ("image", descriptor)], attachment)

/-- The response to `desktop_session_snapshot`. -/
def desktopSessionSnapshotResponse (sessionId observationId : String) (state : Json) (image : TransportImage)
    (mode : SnapshotTransport) (region : Region) : Except String Response := do
  let (descriptor, attachment) ← singleImage image observationId mode region
  .ok (.obj [("type", .str "desktop_snapshot"), ("session_id", .str sessionId), ("observation_id", .str observationId),
    ("state", state), ("image", descriptor)], attachment)

/-- The response to `capture_preparation_snapshot`. -/
def passivePreparationSnapshotResponse (sessionId : String) (metadata : Json) (image : TransportImage)
    (mode : SnapshotTransport) (region : Region) : Except String Response := do
  let prepared ← prepareImageTransport [image] mode region
  if (metadata.get "passive").asBool ≠ some true ∨ (metadata.get "input_authorized").asBool ≠ some false ∨
      ["observation_id", "accessibility_state_id", "element_token", "window_state_id"].any
        (fun key => (metadata.field? key).isSome) then
    .error "prepared pixels cannot publish an actionable observation or input token"
  else .ok (.obj [("type", .str "capture_preparation_snapshot"), ("session_id", .str sessionId), ("passive", .bool true),
    ("input_authorized", .bool false), ("metadata", metadata), ("image", prepared.primary.getD .null),
    ("images", .arr prepared.attachments), ("use_shared_memory", .bool prepared.useSharedMemory)], prepared.attachment)

/-- The builders of responses with images, with what they are called with. `action` also stands for the
    responses that say what became of the snapshot after the action. -/
inductive Builder where
  | tool (sessionId : Option String) (name : String) (result : ComputerUseToolResult)
  | zoom (sessionId observationId : String) (result : ComputerUseToolResult)
  | action (sessionId actionId message : String) (result : ComputerUseToolResult) (postSnapshot : Option Json)
      (observationRequired : Option Bool)
  | actionWithSnapshot (sessionId actionId message : String) (result : ComputerUseToolResult) (screenshot : TransportImage)
      (postSnapshot : Json)
  | browser (responseType sessionId : String) (value : Json) (images : List TransportImage)
  | stateVerified (sessionId : String) (value : Json) (image : Option TransportImage)
  | snapshot (fields : SnapshotFields) (root : TransportImage) (overlays : List TransportImage) (popup : Json)
  | desktopSnapshot (id : String) (state : Json) (image : TransportImage)
  | desktopSessionSnapshot (sessionId observationId : String) (state : Json) (image : TransportImage)
  | preparationSnapshot (sessionId : String) (metadata : Json) (image : TransportImage)

/-- A field that is set after the response is built. -/
def setField (response : Json) (name : String) : Option Json → Json
  | none => response
  | some value => response.set name value

def Builder.build (mode : SnapshotTransport) (region : Region) : Builder → Except String Response
  | .tool sessionId name result => nativeToolResponseWithTransport sessionId name result mode region
  | .zoom sessionId observationId result => do
    let (response, attachment) ← nativeToolResponseWithTransport (some sessionId) "zoom" result mode region
    .ok ((response.set "type" (.str "zoom")).set "observation_id" (.str observationId), attachment)
  | .action sessionId actionId message result postSnapshot observationRequired => do
    let (response, attachment) ← actionCompletedResponse sessionId actionId message result mode region
    .ok (setField (setField response "post_snapshot" postSnapshot) "observation_required"
      (observationRequired.map .bool), attachment)
  | .actionWithSnapshot sessionId actionId message result screenshot postSnapshot =>
    actionWithSnapshotResponse sessionId actionId message result screenshot postSnapshot mode region
  | .browser responseType sessionId value images => browserResponse responseType sessionId value images mode region
  | .stateVerified sessionId value image => stateVerifiedResponse sessionId value image mode region
  | .snapshot fields root overlays popup => snapshotResponse fields root overlays popup mode region
  | .desktopSnapshot id state image => desktopSnapshotResponse id state image mode region
  | .desktopSessionSnapshot sessionId observationId state image =>
    desktopSessionSnapshotResponse sessionId observationId state image mode region
  | .preparationSnapshot sessionId metadata image => passivePreparationSnapshotResponse sessionId metadata image mode region

/-- The images of a response, in the order of their descriptors. -/
def Builder.images : Builder → List TransportImage
  | .tool _ _ result => result.images
  | .zoom _ _ result => result.images
  | .action _ _ _ result _ _ => result.images
  | .actionWithSnapshot _ _ _ result screenshot _ => result.images ++ [screenshot]
  | .browser _ _ _ images => images
  | .stateVerified _ _ image => image.toList
  | .snapshot _ root overlays _ => root :: overlays
  | .desktopSnapshot _ _ image => [image]
  | .desktopSessionSnapshot _ _ _ image => [image]
  | .preparationSnapshot _ _ image => [image]

end ImageTransport
end DccCua
