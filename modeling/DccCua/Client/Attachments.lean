import DccCua.Lib.Json
import DccCua.Protocol.Frame
import DccCua.Words

/-! # Images on the client side

What the client reads off a response: the length of the second frame (`binary_attachment_length`), the
descriptors of the images and the bytes that each of them names. -/

namespace DccCua
namespace Attachments

/-- The end of the range of one attachment: nothing for another encoding, an error for a range without
    offset or length or past the end of memory. -/
def attachmentEnd (attachment : Json) : Option Nat :=
  if (attachment.get "encoding").asStr ≠ some "binary_frame" then some 0
  else do
    let offset ← (attachment.get "offset").asU64
    let length ← (attachment.get "length").asU64
    if u64Max < offset + length then none else some (offset + length)

def binaryAttachmentLength (response : Json) : Option Nat :=
  match (response.get "attachments").asArray with
  | some attachments => do
    let total ← attachments.foldlM (fun total attachment => (attachmentEnd attachment).map (max total)) 0
    if 0 < total then some total else none
  | none =>
    if ((response.get "image").get "encoding").asStr = some "binary_frame" then ((response.get "image").get "length").asU64
    else none

def imageDescriptors (response : Json) : List Json :=
  match (response.get "attachments").asArray with
  | some (first :: rest) => first :: rest
  | _ => (response.field? "image").toList

/-- The offset and the length of a descriptor in an attachment of `total` bytes. -/
def imageRange (total : Nat) (descriptor : Json) : Nat × Nat :=
  let offset := (descriptor.get "offset").asU64.getD 0
  (offset, (descriptor.get "length").asU64.getD (total - offset))

/-- The bytes that a descriptor names. -/
def nativeImage (bytes : Bytes) (descriptor : Json) : Option Bytes :=
  let (offset, length) := imageRange bytes.length descriptor
  if offset + length ≤ bytes.length then some ((bytes.drop offset).take length) else none

end Attachments
end DccCua
