import DccCua.Protocol.Frame

/-! # Responses on the wire

`write_response`: the JSON frame of a response and the frame of its attachment. The JSON value is the
bytes that it serializes to. -/

namespace DccCua

def maxBinaryFrameBytes : Nat := 64 * 1024 * 1024

namespace Wire

/-- `write_response` on a writer that does not fail: the result and the bytes written. -/
def writeResponse (body : Bytes) (attachment : Option Bytes) : Except FrameError Unit × Bytes :=
  match Frame.writeFrame maxJsonFrameBytes body with
  | (.error e, written) => (.error e, written)
  | (.ok (), written) =>
    match attachment with
    | none => (.ok (), written)
    | some bytes =>
      let (result, rest) := Frame.writeFrame maxBinaryFrameBytes bytes
      (result, written ++ rest)

end Wire
end DccCua
