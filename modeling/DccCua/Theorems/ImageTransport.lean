import DccCua.Host.ImageTransport
import DccCua.Client.Attachments
import DccCua.Lib.Checks
import DccCua.Theorems.Wire

/-! # Host and client agree on the second frame

The Host lays the images of a response out one after another and announces them by descriptors; the client
finds the length of the second frame and the bytes of each image from the descriptors alone. -/

namespace DccCua
namespace ImageTransport

open Attachments DccCua.Frame Wire Checks

variable {images : List TransportImage}

/-- The bytes of the images, one after another. -/
def payload (images : List TransportImage) : Bytes := images.flatMap (·.data)

/-- The descriptor of one image in a binary frame. -/
def binaryDescriptor (index offset : Nat) (image : TransportImage) : Json :=
  .obj [("index", .int index), ("offset", .int offset), ("length", .int image.data.length),
    ("mime_type", .str image.mimeType), ("encoding", .str "binary_frame")]

theorem descriptorsFrom_cons (index offset : Nat) (image : TransportImage) (images : List TransportImage) :
    descriptorsFrom false index offset (image :: images) =
      binaryDescriptor index offset image :: descriptorsFrom false (index + 1) (offset + image.data.length) images := rfl

@[simp] theorem get_binaryDescriptor_encoding (index offset : Nat) (image : TransportImage) :
    ((binaryDescriptor index offset image).get "encoding").asStr = some "binary_frame" := by
  simp [binaryDescriptor, Json.get, Json.field?, Json.lookup, Json.asStr]

@[simp] theorem get_binaryDescriptor_offset (index offset : Nat) (image : TransportImage) :
    (binaryDescriptor index offset image).get "offset" = .int offset := by
  simp [binaryDescriptor, Json.get, Json.field?, Json.lookup]

@[simp] theorem get_binaryDescriptor_length (index offset : Nat) (image : TransportImage) :
    (binaryDescriptor index offset image).get "length" = .int image.data.length := by
  simp [binaryDescriptor, Json.get, Json.field?, Json.lookup]

theorem length_payload_cons (image : TransportImage) (images : List TransportImage) :
    (payload (image :: images)).length = image.data.length + (payload images).length := by simp [payload]

theorem attachmentEnd_binaryDescriptor {index offset : Nat} {image : TransportImage}
    (h : offset + image.data.length ≤ u64Max) :
    attachmentEnd (binaryDescriptor index offset image) = some (offset + image.data.length) := by
  have hmax : u64Max < 2 ^ 64 := by decide
  unfold attachmentEnd
  rw [if_neg (by simp), get_binaryDescriptor_offset, get_binaryDescriptor_length, Json.asU64_natCast (by omega),
    Json.asU64_natCast (by omega)]
  simp only [Option.bind_eq_bind, Option.bind_some]
  rw [if_neg (by omega)]

/-- The client adds the descriptors up to the end of the last image. -/
theorem foldlM_attachmentEnd : ∀ (images : List TransportImage) (index offset : Nat),
    offset + (payload images).length ≤ u64Max →
    (descriptorsFrom false index offset images).foldlM
      (fun total attachment => (attachmentEnd attachment).map (max total)) offset = some (offset + (payload images).length)
  | [], _, _, _ => by simp [descriptorsFrom, payload]
  | image :: images, index, offset, h => by
    rw [length_payload_cons] at h ⊢
    rw [descriptorsFrom_cons, List.foldlM_cons, attachmentEnd_binaryDescriptor (by omega), Option.map_some,
      Option.bind_eq_bind, Option.bind_some, Nat.max_eq_right (by omega),
      foldlM_attachmentEnd images (index + 1) (offset + image.data.length) (by omega)]
    congr 1
    omega

theorem imageRange_binaryDescriptor {index offset total : Nat} {image : TransportImage}
    (h : offset + image.data.length ≤ u64Max) :
    imageRange total (binaryDescriptor index offset image) = (offset, image.data.length) := by
  have hmax : u64Max < 2 ^ 64 := by decide
  unfold imageRange
  rw [get_binaryDescriptor_offset, get_binaryDescriptor_length, Json.asU64_natCast (by omega), Json.asU64_natCast (by omega)]
  rfl

/-- Each descriptor names the bytes of its image. -/
theorem nativeImage_descriptors : ∀ (images : List TransportImage) (index : Nat) (before : Bytes),
    before.length + (payload images).length ≤ u64Max →
    (descriptorsFrom false index before.length images).map (nativeImage (before ++ payload images)) =
      images.map fun image => some image.data
  | [], _, _, _ => rfl
  | image :: images, index, before, h => by
    rw [length_payload_cons] at h
    rw [descriptorsFrom_cons, List.map_cons, List.map_cons]
    have hpayload : before ++ payload (image :: images) = (before ++ image.data) ++ payload images := by simp [payload]
    have hhead : nativeImage (before ++ payload (image :: images)) (binaryDescriptor index before.length image) =
        some image.data := by
      unfold nativeImage
      rw [imageRange_binaryDescriptor (by omega)]
      simp [payload]
    have hrest := nativeImage_descriptors images (index + 1) (before ++ image.data) (by rw [List.length_append]; omega)
    rw [List.length_append] at hrest
    rw [hhead, hpayload, hrest]

/-- No two ranges overlap, and together they cover the positions from `start` to `stop`. -/
def Tile (start stop : Nat) (ranges : List (Nat × Nat)) : Prop :=
  ranges.Pairwise (fun a b => a.1 + a.2 ≤ b.1) ∧
    ∀ position, start ≤ position → position < stop → ∃ range ∈ ranges, range.1 ≤ position ∧ position < range.1 + range.2

theorem ranges_start {total : Nat} : ∀ (images : List TransportImage) (index offset : Nat),
    offset + (payload images).length ≤ u64Max →
    ∀ range ∈ (descriptorsFrom false index offset images).map (imageRange total), offset ≤ range.1
  | [], _, _, _ => by simp [descriptorsFrom]
  | image :: images, index, offset, h => by
    rw [length_payload_cons] at h
    rw [descriptorsFrom_cons, List.map_cons, List.forall_mem_cons, imageRange_binaryDescriptor (by omega)]
    refine ⟨Nat.le_refl _, fun range hrange => ?_⟩
    have hstart := ranges_start images (index + 1) (offset + image.data.length) (by omega) range hrange
    omega

theorem tile_descriptors (total : Nat) : ∀ (images : List TransportImage) (index offset : Nat),
    offset + (payload images).length ≤ u64Max →
    Tile offset (offset + (payload images).length) ((descriptorsFrom false index offset images).map (imageRange total))
  | [], _, offset, _ => by
    refine ⟨by simp [descriptorsFrom], fun position hstart hstop => ?_⟩
    simp only [payload, List.flatMap_nil, List.length_nil] at hstop
    omega
  | image :: images, index, offset, h => by
    rw [length_payload_cons] at h ⊢
    rw [descriptorsFrom_cons, List.map_cons, imageRange_binaryDescriptor (by omega)]
    obtain ⟨hpairwise, hcover⟩ := tile_descriptors total images (index + 1) (offset + image.data.length) (by omega)
    refine ⟨List.pairwise_cons.mpr ⟨fun range hrange => ?_, hpairwise⟩, fun position hstart hstop => ?_⟩
    · exact ranges_start images (index + 1) (offset + image.data.length) (by omega) range hrange
    · by_cases hfirst : position < offset + image.data.length
      · exact ⟨_, List.mem_cons_self, hstart, hfirst⟩
      · obtain ⟨range, hmem, hrange⟩ := hcover position (by omega) (by omega)
        exact ⟨range, List.mem_cons_of_mem _ hmem, hrange⟩

/-! ### What a response announces -/

/-- The three shapes of a response: no second frame; one image that is the whole second frame; and the images
    one after another, each with its descriptor. -/
inductive Announces (images : List TransportImage) (response : Json) : Option Bytes → Prop where
  | nothing (hattachments : (response.get "attachments").asArray = none)
      (himage : ((response.get "image").get "encoding").asStr ≠ some "binary_frame") : Announces images response none
  | whole (image : TransportImage) (himages : images = [image]) (hattachments : (response.get "attachments").asArray = none)
      (descriptor : Json) (hdescriptor : response.field? "image" = some descriptor)
      (hencoding : (descriptor.get "encoding").asStr = some "binary_frame")
      (hlength : descriptor.get "length" = .int image.data.length) (hoffset : (descriptor.get "offset").asU64.getD 0 = 0) :
      Announces images response (some image.data)
  | tiled (hne : images ≠ []) (hattachments : response.get "attachments" = .arr (descriptorsFrom false 0 0 images)) :
      Announces images response (some (payload images))

/-- The client reads a second frame exactly when the Host writes one, expects its length, and finds in it
    every image at its descriptor; the descriptors do not overlap and cover the frame. -/
def Agrees (images : List TransportImage) (response : Json) (attachment : Option Bytes) : Prop :=
  ∀ body, Fits maxJsonFrameBytes body → ∃ second : Option Bytes,
    (writeResponse body attachment).2 = encode body ++ second.elim [] encode ∧
    binaryAttachmentLength response = second.map List.length ∧
    ∀ bytes, second = some bytes →
      (imageDescriptors response).map (nativeImage bytes) = images.map (fun image => some image.data) ∧
      Tile 0 bytes.length ((imageDescriptors response).map (imageRange bytes.length))

variable {response : Json} {attachment : Option Bytes}

theorem writeResponse_written {body : Bytes} (hbody : Fits maxJsonFrameBytes body)
    (hfits : ∀ bytes, attachment = some bytes → Fits maxBinaryFrameBytes bytes) :
    (writeResponse body attachment).2 = encode body ++ attachment.elim [] encode := by
  unfold writeResponse
  rw [writeFrame_fits (by decide) hbody]
  cases attachment with
  | none => simp
  | some bytes => simp [writeFrame_fits (by decide) (hfits bytes rfl)]

theorem Announces.length (h : Announces images response attachment)
    (hnonempty : ∀ image ∈ images, image.data ≠ []) (hsize : ∀ bytes, attachment = some bytes → bytes.length ≤ u64Max) :
    binaryAttachmentLength response = attachment.map List.length := by
  have hmax : u64Max < 2 ^ 64 := by decide
  unfold binaryAttachmentLength
  cases h with
  | nothing hattachments himage => rw [hattachments]; simp [himage]
  | whole image himages hattachments descriptor hdescriptor hencoding hlength hoffset =>
    have hget : response.get "image" = descriptor := by simp [Json.get, hdescriptor]
    have := hsize _ rfl
    rw [hattachments, hget, hlength]
    simp only [hencoding, if_true, Option.map_some]
    exact Json.asU64_natCast (by omega)
  | tiled hne hattachments =>
    have hsum := foldlM_attachmentEnd images 0 0 (by have := hsize _ rfl; omega)
    rw [hattachments]
    simp only [Json.asArray, hsum, Option.bind_eq_bind, Option.bind_some, Option.map_some]
    obtain ⟨image, rest, rfl⟩ := List.exists_cons_of_ne_nil hne
    have hpos : 0 < image.data.length := List.length_pos_iff.mpr (hnonempty image List.mem_cons_self)
    rw [length_payload_cons, if_pos (by omega), Nat.zero_add]

theorem Announces.layout (h : Announces images response attachment) {bytes : Bytes} (hbytes : attachment = some bytes)
    (hsize : bytes.length ≤ u64Max) :
    (imageDescriptors response).map (nativeImage bytes) = images.map (fun image => some image.data) ∧
      Tile 0 bytes.length ((imageDescriptors response).map (imageRange bytes.length)) := by
  have hmax : u64Max < 2 ^ 64 := by decide
  cases h with
  | nothing _ _ => cases hbytes
  | whole image himages hattachments descriptor hdescriptor hencoding hlength hoffset =>
    cases hbytes
    have hdescriptors : imageDescriptors response = [descriptor] := by
      unfold imageDescriptors
      rw [hattachments, hdescriptor]
      rfl
    have hrange : imageRange image.data.length descriptor = (0, image.data.length) := by
      unfold imageRange
      rw [hlength, hoffset, Json.asU64_natCast (by omega)]
      rfl
    rw [hdescriptors, himages]
    refine ⟨?_, ?_⟩
    · simp [nativeImage, hrange]
    · refine ⟨by simp, fun position _ hstop => ⟨(0, image.data.length), by simp [hrange], ?_⟩⟩
      exact ⟨Nat.zero_le _, by simpa using hstop⟩
  | tiled hne hattachments =>
    cases hbytes
    have hdescriptors : imageDescriptors response = descriptorsFrom false 0 0 images := by
      obtain ⟨image, rest, rfl⟩ := List.exists_cons_of_ne_nil hne
      unfold imageDescriptors
      rw [hattachments]
      rfl
    rw [hdescriptors]
    have himages := nativeImage_descriptors images 0 [] (by simpa using hsize)
    have htile := tile_descriptors (payload images).length images 0 0 (by simpa using hsize)
    rw [Nat.zero_add] at htile
    exact ⟨himages, htile⟩

/-- Agreement, for an attachment that its frame can carry. -/
theorem Announces.agrees (h : Announces images response attachment) (hnonempty : ∀ image ∈ images, image.data ≠ [])
    (hfits : ∀ bytes, attachment = some bytes → Fits maxBinaryFrameBytes bytes) : Agrees images response attachment := by
  have hsize : ∀ bytes, attachment = some bytes → bytes.length ≤ u64Max := fun bytes hbytes =>
    Nat.le_trans (hfits bytes hbytes).2 (by decide)
  intro body hbody
  exact ⟨attachment, writeResponse_written hbody hfits, h.length hnonempty hsize,
    fun bytes hbytes => h.layout hbytes (hsize bytes hbytes)⟩

/-- An attachment that its frame cannot carry is announced and not written. -/
theorem Announces.not_agrees {bytes : Bytes} (h : Announces images response (some bytes))
    (hnonempty : ∀ image ∈ images, image.data ≠ []) (hlarge : maxBinaryFrameBytes < bytes.length)
    (hsize : bytes.length ≤ u64Max) : ¬Agrees images response (some bytes) := by
  intro hagrees
  have hbody : Fits maxJsonFrameBytes [123, 125] := ⟨by decide, by decide⟩
  obtain ⟨second, hwritten, hlength, -⟩ := hagrees [123, 125] hbody
  have hrefused : ¬Fits maxBinaryFrameBytes bytes := fun hfits => Nat.not_le.mpr hlarge hfits.2
  obtain ⟨e, he⟩ := writeFrame_not_fits hrefused
  unfold writeResponse at hwritten
  rw [writeFrame_fits (by decide) hbody] at hwritten
  simp only [he, List.append_nil] at hwritten
  rw [h.length hnonempty fun _ hbytes => by cases hbytes; exact hsize] at hlength
  cases second with
  | none => cases hlength
  | some frame =>
    have hnil := List.append_cancel_left ((List.append_nil _).trans hwritten)
    exact encode_ne_nil frame hnil.symm

/-! ### Every builder announces what it attaches -/

variable {mode : SnapshotTransport} {region : Region}

theorem foldlM_length : ∀ (images : List TransportImage) (start total : Nat),
    images.foldlM (fun total image =>
      if u64Max < total + image.data.length then (.error "combined image payload length overflowed" : Except String Nat)
      else .ok (total + image.data.length)) start = .ok total → total = start + (payload images).length
  | [], start, total, h => by
    cases h
    simp [payload]
  | image :: images, start, total, h => by
    rw [List.foldlM_cons, bind_eq_ok] at h
    obtain ⟨next, hnext, hrest⟩ := h
    split at hnext
    · cases hnext
    · cases hnext
      rw [foldlM_length images _ total hrest, length_payload_cons]
      omega

/-- What `prepare_image_transport` gives: nothing, an image in shared memory, or the images one after another. -/
inductive Prepares (images : List TransportImage) : PreparedImageTransport → Prop where
  | nothing (himages : images = []) : Prepares images ⟨none, [], none, false⟩
  | shared (image : TransportImage) (himages : images = [image]) (descriptor : Json)
      (hencoding : (descriptor.get "encoding").asStr = some "shared_memory") :
      Prepares images ⟨some descriptor, descriptorsFrom true 0 0 images, none, true⟩
  | tiled (hne : images ≠ []) (hsize : (payload images).length ≤ maxBinaryFrameBytes) :
      Prepares images ⟨(descriptorsFrom false 0 0 images).head?, descriptorsFrom false 0 0 images, some (payload images), false⟩

theorem sharedDescriptor_encoding {image : TransportImage} {descriptor : Json}
    (h : sharedDescriptor region image = .ok descriptor) : (descriptor.get "encoding").asStr = some "shared_memory" := by
  unfold sharedDescriptor at h
  split at h
  · cases h
  · split at h
    · cases h
    · cases region with
      | error message => cases h
      | ok id =>
        cases h
        simp [Json.get, Json.field?, Json.lookup, Json.asStr]

theorem prepareImageTransport_spec {prepared : PreparedImageTransport}
    (h : prepareImageTransport images mode region = .ok prepared) : Prepares images prepared := by
  unfold prepareImageTransport prepareImageTransportWithLimit at h
  by_cases hshared : mode = .sharedMemory ∧ images.length = 1
  · obtain ⟨image, rfl⟩ := List.length_eq_one_iff.mp hshared.2
    simp only [hshared, and_self, if_true, bind_eq_ok] at h
    obtain ⟨combined, hcombined, h⟩ := h
    cases hcombined
    rw [if_neg (by simp)] at h
    simp only [decide_true, bind_eq_ok] at h
    obtain ⟨descriptor, hdescriptor, h⟩ := h
    cases h
    exact .shared image rfl descriptor (sharedDescriptor_encoding hdescriptor)
  · simp only [hshared, if_false, bind_eq_ok] at h
    obtain ⟨combined, hcombined, h⟩ := h
    split at h
    · cases h
    · rename_i hlimit
      have hlength := foldlM_length images 0 combined hcombined
      cases images with
      | nil =>
        cases h
        exact .nothing rfl
      | cons image images =>
        cases h
        exact .tiled (by simp) (by omega)

/-- The attachment is within the limit of its frame. -/
def Checked (attachment : Option Bytes) : Prop := ∀ bytes, attachment = some bytes → bytes.length ≤ maxBinaryFrameBytes

theorem Prepares.checked {prepared : PreparedImageTransport} (h : Prepares images prepared) : Checked prepared.attachment := by
  cases h with
  | nothing _ => intro bytes hbytes; cases hbytes
  | shared _ _ _ _ => intro bytes hbytes; cases hbytes
  | tiled _ hsize =>
    intro bytes hbytes
    cases hbytes
    exact hsize

/-- The primary descriptor stands under `image`; the descriptors stand under `attachments`, or are left out
    because there are not several of them. -/
theorem Prepares.announces {prepared : PreparedImageTransport} (h : Prepares images prepared)
    (himage : response.get "image" = prepared.primary.getD .null) (hfield : prepared.primary = none ∨ response.field? "image" = prepared.primary)
    (hattachments : (images ≠ [] ∧ prepared.useSharedMemory = false ∧ response.get "attachments" = .arr prepared.attachments) ∨
      ((response.get "attachments").asArray = none ∧ (prepared.useSharedMemory = true ∨ images.length ≤ 1))) :
    Announces images response prepared.attachment := by
  cases h with
  | nothing himages =>
    rcases hattachments with ⟨hne, -⟩ | ⟨hnone, -⟩
    · exact absurd himages hne
    · exact .nothing hnone (by rw [himage]; simp [Json.get, Json.field?, Json.asStr])
  | shared image himages descriptor hencoding =>
    rcases hattachments with ⟨-, hshared, -⟩ | ⟨hnone, -⟩
    · cases hshared
    · exact .nothing hnone (by rw [himage, Option.getD_some, hencoding]; simp)
  | tiled hne hsize =>
    rcases hattachments with ⟨-, -, harr⟩ | ⟨hnone, hshared | hlength⟩
    · exact .tiled hne harr
    · cases hshared
    · obtain ⟨image, rest, rfl⟩ := List.exists_cons_of_ne_nil hne
      have hrest : rest = [] := List.length_eq_zero_iff.mp (by simpa using hlength)
      subst hrest
      have hpayload : payload [image] = image.data := by simp [payload]
      have hprimary := hfield.resolve_left (by simp [descriptorsFrom])
      rw [hpayload]
      refine .whole image rfl hnone (binaryDescriptor 0 0 image) hprimary ?_ ?_ ?_
      · simp
      · simp
      · rw [get_binaryDescriptor_offset]
        rfl

/-- The response of a tool: the primary descriptor, and the descriptors of all images in a binary frame. -/
structure Carries (prepared : PreparedImageTransport) (response : Json) : Prop where
  image : response.field? "image" = prepared.primary
  attachments : response.field? "attachments" =
    if prepared.primary.isSome ∧ prepared.useSharedMemory = false then some (.arr prepared.attachments) else none

theorem Carries.announces {prepared : PreparedImageTransport} (h : Carries prepared response) (hp : Prepares images prepared) :
    Announces images response prepared.attachment := by
  have himage : response.get "image" = prepared.primary.getD .null := by rw [Json.get, h.image]
  have hattachments : response.get "attachments" = (response.field? "attachments").getD .null := rfl
  rw [h.attachments] at hattachments
  refine hp.announces himage (Or.inr h.image) ?_
  cases hp with
  | nothing himages => exact Or.inr ⟨by rw [hattachments]; rfl, Or.inr (by simp [himages])⟩
  | shared image himages descriptor hencoding => exact Or.inr ⟨by rw [hattachments]; rfl, Or.inl rfl⟩
  | tiled hne hsize =>
    obtain ⟨image, rest, rfl⟩ := List.exists_cons_of_ne_nil hne
    exact Or.inl ⟨hne, rfl, by rw [hattachments]; rfl⟩

theorem Carries.set {prepared : PreparedImageTransport} (h : Carries prepared response) {name : String} (value : Json)
    (himage : "image" ≠ name) (hattachments : "attachments" ≠ name) : Carries prepared (response.set name value) :=
  ⟨by rw [Json.field?_set_ne _ _ himage, h.image], by rw [Json.field?_set_ne _ _ hattachments, h.attachments]⟩

theorem Carries.setField {prepared : PreparedImageTransport} (h : Carries prepared response) {name : String}
    (value : Option Json) (himage : "image" ≠ name) (hattachments : "attachments" ≠ name) :
    Carries prepared (setField response name value) := by
  cases value with
  | none => exact h
  | some value => exact h.set value himage hattachments

theorem tool_carries {sessionId : Option String} {tool : String} {result : ComputerUseToolResult}
    (h : nativeToolResponseWithTransport sessionId tool result mode region = .ok (response, attachment)) :
    ∃ prepared, Prepares result.images prepared ∧ attachment = prepared.attachment ∧ Carries prepared response := by
  unfold nativeToolResponseWithTransport at h
  rw [bind_eq_ok] at h
  obtain ⟨prepared, hprepared, h⟩ := h
  refine ⟨prepared, prepareImageTransport_spec hprepared, ?_⟩
  cases hprimary : prepared.primary with
  | none =>
    simp only [hprimary] at h
    cases h
    exact ⟨rfl, by simp [hprimary, Json.field?, Json.lookup], by simp [hprimary, Json.field?, Json.lookup]⟩
  | some image =>
    simp only [hprimary] at h
    cases h
    cases hshared : prepared.useSharedMemory with
    | true =>
      refine ⟨rfl, ?_, ?_⟩
      · rw [if_pos rfl, hprimary]
        exact Json.field?_set_self _ _ _
      · simp [hshared, Json.field?, Json.set, Json.insert, Json.lookup]
    | false =>
      refine ⟨rfl, ?_, ?_⟩
      · rw [if_neg (by decide), hprimary, Json.field?_set_ne _ _ (by decide)]
        exact Json.field?_set_self _ _ _
      · simp [hshared, hprimary, Json.field?, Json.set, Json.insert, Json.lookup]

theorem Prepares.primary_ne_null {prepared : PreparedImageTransport} {descriptor : Json} (h : Prepares images prepared)
    (hprimary : prepared.primary = some descriptor) : descriptor ≠ .null := by
  rintro rfl
  cases h with
  | nothing _ => cases hprimary
  | shared image himages descriptor hencoding =>
    cases hprimary
    exact absurd hencoding (by simp [Json.get, Json.field?, Json.asStr])
  | tiled hne hsize =>
    obtain ⟨image, rest, rfl⟩ := List.exists_cons_of_ne_nil hne
    cases hprimary

theorem copyField_of_none {source response : Json} {name : String} (h : source.field? name = none) :
    copyField source response name = response := by simp [copyField, Json.get, h]

theorem copyField_of_some {source response value : Json} {name : String} (h : source.field? name = some value)
    (hne : value ≠ .null) : copyField source response name = response.set name value := by
  have hget : source.get name = value := by rw [Json.get, h]; rfl
  unfold copyField
  rw [hget]
  split
  · exact absurd rfl hne
  · rfl

theorem Carries.copy {prepared : PreparedImageTransport} {tool : Json} {fields : List (String × Json)}
    (h : Carries prepared tool) (hp : Prepares images prepared) (himage : Json.lookup "image" fields = none)
    (hattachments : Json.lookup "attachments" fields = none) :
    Carries prepared (copyField tool (copyField tool (.obj fields) "image") "attachments") := by
  have hbase : (Json.obj fields).field? "image" = none ∧ (Json.obj fields).field? "attachments" = none :=
    ⟨himage, hattachments⟩
  cases hprimary : prepared.primary with
  | none =>
    have hnone : tool.field? "attachments" = none := by rw [h.attachments, if_neg (by simp [hprimary])]
    rw [copyField_of_none (h.image.trans hprimary), copyField_of_none hnone]
    exact ⟨by rw [hbase.1, hprimary], by rw [hbase.2, if_neg (by simp [hprimary])]⟩
  | some descriptor =>
    rw [copyField_of_some (h.image.trans hprimary) (hp.primary_ne_null hprimary)]
    by_cases hshared : prepared.useSharedMemory = false
    · have hsome : tool.field? "attachments" = some (.arr prepared.attachments) := by
        rw [h.attachments, if_pos ⟨by simp [hprimary], hshared⟩]
      rw [copyField_of_some hsome (by simp)]
      refine ⟨?_, ?_⟩
      · rw [Json.field?_set_ne _ _ (by decide), Json.field?_set_self, hprimary]
      · rw [if_pos ⟨by simp [hprimary], hshared⟩]
        exact Json.field?_set_self _ _ _
    · have hnone : tool.field? "attachments" = none := by rw [h.attachments, if_neg (by simp [hshared])]
      rw [copyField_of_none hnone]
      refine ⟨?_, ?_⟩
      · rw [Json.field?_set_self, hprimary]
      · rw [Json.field?_set_ne _ _ (by decide), hbase.2, if_neg (by simp [hshared])]

theorem action_carries {sessionId actionId message : String} {result : ComputerUseToolResult}
    (h : actionCompletedResponse sessionId actionId message result mode region = .ok (response, attachment)) :
    ∃ prepared, Prepares result.images prepared ∧ attachment = prepared.attachment ∧ Carries prepared response := by
  unfold actionCompletedResponse at h
  rw [bind_eq_ok] at h
  obtain ⟨⟨tool, toolAttachment⟩, htool, h⟩ := h
  obtain ⟨prepared, hp, hattachment, hcarries⟩ := tool_carries htool
  cases h
  exact ⟨prepared, hp, hattachment, hcarries.copy hp (by simp [Json.lookup]) (by simp [Json.lookup])⟩

/-- A response that announces an attachment within its limit. -/
def Announced (images : List TransportImage) (response : Json) (attachment : Option Bytes) : Prop :=
  Announces images response attachment ∧ Checked attachment

theorem announced_of_carries {prepared : PreparedImageTransport} (hp : Prepares images prepared)
    (h : Carries prepared response) : Announced images response prepared.attachment := ⟨h.announces hp, hp.checked⟩

theorem length_descriptorsFrom (useSharedMemory : Bool) : ∀ (images : List TransportImage) (index offset : Nat),
    (descriptorsFrom useSharedMemory index offset images).length = images.length
  | [], _, _ => rfl
  | _ :: images, _, _ => by rw [descriptorsFrom, List.length_cons, List.length_cons, length_descriptorsFrom]

theorem setImage_image (fields : List (String × Json)) (hfields : Json.lookup "image" fields = none) (primary : Option Json) :
    (setImage (.obj fields) primary).field? "image" = primary := by
  cases primary with
  | none => exact hfields
  | some image => exact Json.field?_set_self _ _ _

theorem setImage_ne (response : Json) (primary : Option Json) {name : String} (hne : name ≠ "image") :
    (setImage response primary).field? name = response.field? name := by
  cases primary with
  | none => rfl
  | some image => exact Json.field?_set_ne _ _ hne

theorem browser_announced {responseType sessionId : String} {value : Json}
    (h : browserResponse responseType sessionId value images mode region = .ok (response, attachment)) :
    Announced images response attachment := by
  unfold browserResponse at h
  rw [bind_eq_ok] at h
  obtain ⟨prepared, hprepared, h⟩ := h
  have hp := prepareImageTransport_spec hprepared
  cases h
  refine ⟨?_, hp.checked⟩
  have hbase := setImage_image [("type", .str responseType), ("session_id", .str sessionId),
    ("result", annotateContent prepared value)] (by simp [Json.lookup]) prepared.primary
  by_cases hmany : 1 < prepared.attachments.length
  · rw [if_pos hmany]
    have himage : ∀ response : Json, (response.set "attachments" (.arr prepared.attachments)).field? "image" =
        response.field? "image" := fun response => Json.field?_set_ne _ _ (by decide)
    have hobject : ∃ fields, setImage (.obj [("type", .str responseType), ("session_id", .str sessionId),
        ("result", annotateContent prepared value)]) prepared.primary = .obj fields := by
      cases prepared.primary with
      | none => exact ⟨_, rfl⟩
      | some image => exact ⟨_, rfl⟩
    have hfield := (himage _).trans hbase
    refine hp.announces (by rw [Json.get, hfield]) (Or.inr hfield) (Or.inl ?_)
    obtain ⟨fields, hfields⟩ := hobject
    rw [hfields]
    cases hp with
    | nothing himages => simp at hmany
    | shared image himages descriptor hencoding => simp [himages, descriptorsFrom] at hmany
    | tiled hne hsize => exact ⟨hne, rfl, Json.get_set_self _ _ _⟩
  · rw [if_neg hmany]
    refine hp.announces (by rw [Json.get, hbase]) (Or.inr hbase) (Or.inr ⟨?_, ?_⟩)
    · rw [Json.get, setImage_ne _ _ (by decide)]
      simp [Json.field?, Json.lookup, Json.asArray]
    · cases hp with
      | nothing himages => exact Or.inr (by simp [himages])
      | shared image himages descriptor hencoding => exact Or.inl rfl
      | tiled hne hsize =>
        rw [length_descriptorsFrom] at hmany
        exact Or.inr (Nat.not_lt.mp hmany)

theorem stateVerified_announced {sessionId : String} {value : Json} {image : Option TransportImage}
    (h : stateVerifiedResponse sessionId value image mode region = .ok (response, attachment)) :
    Announced image.toList response attachment := by
  cases image with
  | none =>
    cases h
    refine ⟨.nothing ?_ ?_, fun _ hbytes => by cases hbytes⟩
    · simp [Json.get, Json.field?, Json.lookup, Json.asArray]
    · simp [Json.get, Json.field?, Json.lookup, Json.asStr]
  | some image =>
    simp only [stateVerifiedResponse, imageResponse, bind_eq_ok] at h
    obtain ⟨⟨descriptor, descriptorAttachment⟩, ⟨prepared, hprepared, hdescriptor⟩, h⟩ := h
    have hp := prepareImageTransport_spec hprepared
    cases hdescriptor
    cases h
    refine ⟨?_, hp.checked⟩
    have hattachments : ∀ primary : Option Json, ((setImage (Json.obj [("type", .str "state_verified"),
        ("session_id", .str sessionId), ("result", value)]) primary).get "attachments").asArray = none := by
      intro primary
      rw [Json.get, setImage_ne _ _ (by decide)]
      simp [Json.field?, Json.lookup, Json.asArray]
    have himage := setImage_image [("type", .str "state_verified"), ("session_id", .str sessionId), ("result", value)]
      (by simp [Json.lookup])
    have hget : ∀ primary : Option Json, (setImage (Json.obj [("type", .str "state_verified"),
        ("session_id", .str sessionId), ("result", value)]) primary).get "image" = primary.getD .null := by
      intro primary
      rw [Json.get, himage]
    cases hp with
    | nothing himages => cases himages
    | shared other himages descriptor hencoding =>
      refine .nothing (hattachments _) ?_
      dsimp only [Option.map_some]
      rw [if_neg (by rw [hencoding]; decide), hget, Option.getD_some, hencoding]
      decide
    | tiled hne hsize =>
      have hpayload : payload [image] = image.data := by simp [payload]
      show Announces [image] _ (some (payload [image]))
      rw [hpayload]
      refine .whole image rfl (hattachments _) (((binaryDescriptor 0 0 image).set "name" (.str "")).set "id" (.str ""))
        ?_ ?_ ?_ ?_
      · rw [himage]
        show some (if ((binaryDescriptor 0 0 image).get "encoding").asStr = some "binary_frame" then _ else _) = _
        rw [if_pos (get_binaryDescriptor_encoding 0 0 image)]
        rfl
      · rw [Json.get_set_ne _ _ (by decide), Json.get_set_ne _ _ (by decide), get_binaryDescriptor_encoding]
      · rw [Json.get_set_ne _ _ (by decide), Json.get_set_ne _ _ (by decide), get_binaryDescriptor_length]
      · rw [Json.get_set_ne _ _ (by decide), Json.get_set_ne _ _ (by decide), get_binaryDescriptor_offset]
        rfl

theorem preparation_announced {sessionId : String} {metadata : Json} {image : TransportImage}
    (h : passivePreparationSnapshotResponse sessionId metadata image mode region = .ok (response, attachment)) :
    Announced [image] response attachment := by
  simp only [passivePreparationSnapshotResponse, bind_eq_ok] at h
  obtain ⟨prepared, hprepared, h⟩ := h
  have hp := prepareImageTransport_spec hprepared
  split at h
  · cases h
  · cases h
    refine ⟨?_, hp.checked⟩
    have hne : prepared.primary ≠ none := by
      cases hp with
      | nothing himages => cases himages
      | shared other himages descriptor hencoding => simp
      | tiled hne hsize => simp [descriptorsFrom]
    obtain ⟨descriptor, hprimary⟩ := Option.ne_none_iff_exists'.mp hne
    refine hp.announces ?_ (Or.inr ?_) (Or.inr ⟨?_, Or.inr (by simp)⟩)
    · simp [Json.get, Json.field?, Json.lookup]
    · simp [Json.field?, Json.lookup, hprimary]
    · simp [Json.get, Json.field?, Json.lookup, Json.asArray]

/-- An image that is sent alone, and is not checked against the limit of its frame. -/
theorem singleImage_announces {image : TransportImage} {id : String} {descriptor : Json}
    (h : singleImage image id mode region = .ok (descriptor, attachment)) (himage : response.field? "image" = some descriptor)
    (hattachments : (response.get "attachments").asArray = none) :
    Announces [image] response attachment ∧ attachment = if mode = .binaryFrame then some image.data else none := by
  have hget : response.get "image" = descriptor := by rw [Json.get, himage]; rfl
  cases mode with
  | sharedMemory =>
    simp only [singleImage] at h
    cases hshared : sharedDescriptor region image with
    | error message => rw [hshared] at h; cases h
    | ok shared =>
      rw [hshared] at h
      cases h
      refine ⟨.nothing hattachments ?_, rfl⟩
      rw [hget, sharedDescriptor_encoding hshared]
      simp
  | binaryFrame =>
    cases h
    refine ⟨.whole image rfl hattachments _ himage ?_ ?_ ?_, rfl⟩
    · simp [Json.get, Json.field?, Json.lookup, Json.asStr]
    · simp [Json.get, Json.field?, Json.lookup]
    · simp [Json.get, Json.field?, Json.lookup, Json.asU64]

/-- The builders that send an image alone. -/
def Builder.alone : Builder → Option TransportImage
  | .snapshot _ root [] _ => some root
  | .desktopSnapshot _ _ image => some image
  | .desktopSessionSnapshot _ _ _ image => some image
  | _ => none

theorem snapshot_announced {fields : SnapshotFields} {root : TransportImage} {overlays : List TransportImage} {popup : Json}
    (h : snapshotResponse fields root overlays popup mode region = .ok (response, attachment)) (hne : overlays ≠ []) :
    Announced (root :: overlays) response attachment := by
  simp only [snapshotResponse, snapshotImageTransport, bind_eq_ok] at h
  obtain ⟨⟨prepared, popup'⟩, hsnapshot, h⟩ := h
  rw [if_neg (by simpa using hne)] at hsnapshot
  simp only [bind_eq_ok] at hsnapshot
  obtain ⟨prepared', hprepared, popup'', -, heq⟩ := hsnapshot
  cases heq
  have hp := prepareImageTransport_spec hprepared
  have hattachments : prepared.attachments.isEmpty = false := by
    cases hp with
    | nothing himages => cases himages
    | shared image himages descriptor hencoding => rfl
    | tiled hne' hsize => rfl
  cases h
  refine ⟨?_, hp.checked⟩
  rw [if_neg (by simp [hattachments])]
  refine hp.announces ?_ ?_ (Or.inl ⟨by simp, ?_, ?_⟩)
  · simp [Json.get, Json.field?, Json.set, Json.insert, Json.lookup]
  · cases prepared.primary with
    | none => exact Or.inl rfl
    | some image => exact Or.inr (by simp [Json.field?, Json.set, Json.insert, Json.lookup])
  · cases hp with
    | nothing himages => cases himages
    | shared image himages descriptor hencoding =>
      obtain ⟨overlay, rest, rfl⟩ := List.exists_cons_of_ne_nil hne
      cases himages
    | tiled hne' hsize => rfl
  · simp [Json.get, Json.field?, Json.set, Json.insert, Json.lookup]

/-- A builder that does not send its image alone keeps the limit of the second frame. -/
theorem build_announced {builder : Builder} (h : builder.build mode region = .ok (response, attachment))
    (halone : builder.alone = none) : Announced builder.images response attachment := by
  cases builder with
  | tool sessionId name result =>
    obtain ⟨prepared, hp, rfl, hcarries⟩ := tool_carries h
    exact announced_of_carries hp hcarries
  | zoom sessionId observationId result =>
    simp only [Builder.build, bind_eq_ok] at h
    obtain ⟨⟨tool, toolAttachment⟩, htool, h⟩ := h
    obtain ⟨prepared, hp, hattachment, hcarries⟩ := tool_carries htool
    cases h
    subst hattachment
    exact announced_of_carries hp ((hcarries.set _ (by decide) (by decide)).set _ (by decide) (by decide))
  | action sessionId actionId message result postSnapshot observationRequired =>
    simp only [Builder.build, bind_eq_ok] at h
    obtain ⟨⟨base, baseAttachment⟩, hbase, h⟩ := h
    obtain ⟨prepared, hp, hattachment, hcarries⟩ := action_carries hbase
    cases h
    subst hattachment
    exact announced_of_carries hp ((hcarries.setField _ (by decide) (by decide)).setField _ (by decide) (by decide))
  | actionWithSnapshot sessionId actionId message result screenshot postSnapshot =>
    simp only [Builder.build, actionWithSnapshotResponse, bind_eq_ok] at h
    obtain ⟨⟨base, baseAttachment⟩, hbase, h⟩ := h
    obtain ⟨prepared, hp, hattachment, hcarries⟩ := action_carries hbase
    cases h
    subst hattachment
    exact announced_of_carries hp (hcarries.set _ (by decide) (by decide))
  | browser responseType sessionId value images => exact browser_announced h
  | stateVerified sessionId value image => exact stateVerified_announced h
  | snapshot fields root overlays popup =>
    refine snapshot_announced h fun hnil => ?_
    subst hnil
    cases halone
  | desktopSnapshot id state image => cases halone
  | desktopSessionSnapshot sessionId observationId state image => cases halone
  | preparationSnapshot sessionId metadata image => exact preparation_announced h

theorem build_alone {builder : Builder} {image : TransportImage} (h : builder.build mode region = .ok (response, attachment))
    (halone : builder.alone = some image) :
    builder.images = [image] ∧ Announces [image] response attachment ∧
      attachment = if mode = .binaryFrame then some image.data else none := by
  cases builder with
  | snapshot fields root overlays popup =>
    cases overlays with
    | cons overlay overlays => cases halone
    | nil =>
      cases halone
      simp only [Builder.build, snapshotResponse, snapshotImageTransport, List.isEmpty_nil, if_true, bind_eq_ok] at h
      obtain ⟨⟨prepared, popup'⟩, ⟨⟨descriptor, single⟩, hsingle, heq⟩, h⟩ := h
      cases heq
      cases h
      refine ⟨rfl, singleImage_announces hsingle ?_ ?_⟩
      · simp [Json.field?, Json.lookup]
      · simp [Json.get, Json.field?, Json.lookup, Json.asArray]
  | desktopSnapshot id state image =>
    cases halone
    simp only [Builder.build, desktopSnapshotResponse, bind_eq_ok] at h
    obtain ⟨⟨descriptor, single⟩, hsingle, h⟩ := h
    cases h
    refine ⟨rfl, singleImage_announces hsingle ?_ ?_⟩
    · simp [Json.field?, Json.lookup]
    · simp [Json.get, Json.field?, Json.lookup, Json.asArray]
  | desktopSessionSnapshot sessionId observationId state image =>
    cases halone
    simp only [Builder.build, desktopSessionSnapshotResponse, bind_eq_ok] at h
    obtain ⟨⟨descriptor, single⟩, hsingle, h⟩ := h
    cases h
    refine ⟨rfl, singleImage_announces hsingle ?_ ?_⟩
    · simp [Json.field?, Json.lookup]
    · simp [Json.get, Json.field?, Json.lookup, Json.asArray]
  | tool _ _ _ => cases halone
  | zoom _ _ _ => cases halone
  | action _ _ _ _ _ _ => cases halone
  | actionWithSnapshot _ _ _ _ _ _ => cases halone
  | browser _ _ _ _ => cases halone
  | stateVerified _ _ _ => cases halone
  | preparationSnapshot _ _ _ => cases halone

theorem Announces.nonempty (h : Announces images response attachment) (hnonempty : ∀ image ∈ images, image.data ≠ [])
    {bytes : Bytes} (hbytes : attachment = some bytes) : 1 ≤ bytes.length := by
  cases h with
  | nothing _ _ => cases hbytes
  | whole image himages _ _ _ _ _ _ =>
    cases hbytes
    exact List.length_pos_iff.mpr (hnonempty image (by simp [himages]))
  | tiled hne _ =>
    cases hbytes
    obtain ⟨image, rest, rfl⟩ := List.exists_cons_of_ne_nil hne
    have hpos := List.length_pos_iff.mpr (hnonempty image List.mem_cons_self)
    rw [length_payload_cons]
    omega

/-- Host and client agree on the second frame of every response, unless an image that is sent alone in a
    binary frame is larger than a frame. -/
theorem host_client_agree_iff (builder : Builder) (mode : SnapshotTransport) (region : Region) (response : Json)
    (attachment : Option Bytes) (hbuild : builder.build mode region = .ok (response, attachment))
    (hnonempty : ∀ image ∈ builder.images, image.data ≠ []) :
    Agrees builder.images response attachment ↔
      ∀ image, builder.alone = some image → mode = .binaryFrame → image.data.length ≤ maxBinaryFrameBytes := by
  cases halone : builder.alone with
  | none =>
    obtain ⟨hannounces, hchecked⟩ := build_announced hbuild halone
    refine ⟨fun _ image himage => (by cases himage), fun _ => hannounces.agrees hnonempty fun bytes hbytes => ?_⟩
    exact ⟨hannounces.nonempty hnonempty hbytes, hchecked bytes hbytes⟩
  | some image =>
    obtain ⟨himages, hannounces, hattachment⟩ := build_alone hbuild halone
    rw [himages] at hnonempty ⊢
    refine ⟨fun hagrees other hother hmode => ?_, fun hlimit => hannounces.agrees hnonempty fun bytes hbytes => ?_⟩
    · cases hother
      rw [if_pos hmode] at hattachment
      subst hattachment
      by_contra hlarge
      have hallocated : image.data.length ≤ u64Max := Nat.le_trans (Nat.le_of_lt image.allocated) (by decide)
      exact hannounces.not_agrees hnonempty (Nat.not_le.mp hlarge) hallocated hagrees
    · refine ⟨hannounces.nonempty hnonempty hbytes, ?_⟩
      by_cases hmode : mode = .binaryFrame
      · rw [if_pos hmode] at hattachment
        rw [hattachment] at hbytes
        cases hbytes
        exact hlimit image rfl hmode
      · rw [if_neg hmode] at hattachment
        rw [hattachment] at hbytes
        cases hbytes

/-- A browser response with two images. -/
def sampleBrowser : Builder :=
  .browser "browser_snapshot" "session" .null [⟨[1, 2], "image/png", by decide⟩, ⟨[3], "image/jpeg", by decide⟩]

theorem host_client_agree_two : ∃ response attachment,
    sampleBrowser.build .sharedMemory (.ok "region") = .ok (response, attachment) ∧
    Agrees sampleBrowser.images response attachment := by
  refine ⟨_, _, rfl, (host_client_agree_iff sampleBrowser .sharedMemory (.ok "region") _ _ rfl (by decide)).mpr ?_⟩
  intro image himage
  cases himage

/-- An image one byte larger than a frame. -/
def largeImage : TransportImage := ⟨List.replicate (maxBinaryFrameBytes + 1) 0, "image/png", by
  rw [List.length_replicate]; decide⟩

theorem desktop_snapshot_too_large : ∃ response attachment,
    (Builder.desktopSnapshot "id" .null largeImage).build .binaryFrame (.ok "region") = .ok (response, attachment) ∧
    largeImage.data ≠ [] ∧ ¬Agrees (Builder.desktopSnapshot "id" .null largeImage).images response attachment := by
  have hlength : largeImage.data.length = maxBinaryFrameBytes + 1 := List.length_replicate
  have hne : largeImage.data ≠ [] := fun hnil => by
    rw [hnil] at hlength
    cases hlength
  have hbuild : (Builder.desktopSnapshot "id" .null largeImage).build .binaryFrame (.ok "region") =
      .ok (_, some largeImage.data) := rfl
  refine ⟨_, _, hbuild, hne, (build_alone hbuild rfl).2.1.not_agrees (by simpa using hne) ?_ ?_⟩
  · rw [hlength]
    exact Nat.lt_succ_self _
  · rw [hlength]
    decide

end ImageTransport
end DccCua
