import Mathlib.Data.List.Basic
import Mathlib.Algebra.Group.Int.Defs
import Mathlib.Algebra.Group.Nat.Defs

/-! # Length-prefixed frames

`read_frame` and `write_frame` of the protocol crate: four bytes of big-endian length, then the body.
A reader is the bytes it will still give before its end of stream. The future of `read_frame` is
modelled too, as the bytes it has taken from its reader so far, for readers whose bytes arrive in
parts. -/

namespace DccCua

abbrev Bytes := List UInt8

def maxJsonFrameBytes : Nat := 4 * 1024 * 1024

def maxRequestIdChars : Nat := 128

/-- `FrameError`; the only transport error of a reader that does not fail itself is an unexpected end. -/
inductive FrameError where
  | unexpectedEof
  | protocol (message : String)
  deriving DecidableEq, Repr

namespace Frame

/-- `u32::to_be_bytes`. -/
def toBeBytes (n : Nat) : Bytes :=
  [UInt8.ofNat (n / 2 ^ 24), UInt8.ofNat (n / 2 ^ 16), UInt8.ofNat (n / 2 ^ 8), UInt8.ofNat n]

/-- `u32::from_be_bytes`. -/
def fromBeBytes (bytes : Bytes) : Nat := bytes.foldl (fun n byte => n * 2 ^ 8 + byte.toNat) 0

/-- `read_exact` on what the reader gives before its end: `none` is `UnexpectedEof`. -/
def readExact (n : Nat) (input : Bytes) : Option (Bytes × Bytes) :=
  if n ≤ input.length then some (input.take n, input.drop n) else none

def limitMessage (length : Nat) : String :=
  "frame length " ++ toString length ++ " exceeds the configured limit"

/-- `read_frame`: the result and what is left of the reader. An end inside the length is the end of the
    stream; one inside the body is an error. -/
def readFrame (max : Nat) (input : Bytes) : Except FrameError (Option Bytes) × Bytes :=
  match readExact 4 input with
  | none => (.ok none, [])
  | some (header, rest) =>
    let length := fromBeBytes header
    if length = 0 ∨ max < length then (.error (.protocol (limitMessage length)), rest)
    else match readExact length rest with
      | none => (.error .unexpectedEof, [])
      | some (body, rest) => (.ok (some body), rest)

/-- `write_frame_unflushed` on a writer that does not fail: the result and the bytes written. -/
def writeFrame (max : Nat) (body : Bytes) : Except FrameError Unit × Bytes :=
  if body = [] ∨ max < body.length ∨ 2 ^ 32 - 1 < body.length then
    (.error (.protocol "frame payload is outside the configured limit"), [])
  else (.ok (), toBeBytes body.length ++ body)

theorem readFrame_length {max : Nat} {input body rest : Bytes} (h : readFrame max input = (.ok (some body), rest)) :
    rest.length < input.length := by
  unfold readFrame readExact at h
  split at h
  · cases h
  · rename_i header rest' hread
    split at hread
    · cases hread
      dsimp only at h
      split at h
      · cases h
      · split at h
        · cases h
        · rename_i hread'
          split at hread'
          · cases hread'
            cases h
            simp only [List.length_drop]
            omega
          · cases hread'
    · cases hread

/-- How a sequence of reads ends. -/
inductive StreamEnd where
  | endOfStream
  | failed (error : FrameError)
  deriving DecidableEq, Repr

/-- Frames are read until the end of the stream or an error. -/
def readFrames (max : Nat) (input : Bytes) : List Bytes × StreamEnd :=
  match h : readFrame max input with
  | (.ok none, _) => ([], .endOfStream)
  | (.error e, _) => ([], .failed e)
  | (.ok (some body), rest) =>
    let (bodies, fin) := readFrames max rest
    (body :: bodies, fin)
termination_by input.length
decreasing_by exact readFrame_length h

/-! ### The future of `read_frame` -/

/-- What a poll of the future gives. -/
inductive FramePoll where
  | pending (taken : Bytes)
  | ready (result : Except FrameError (Option Bytes))
  deriving DecidableEq, Repr

/-- One poll, when the future has taken `taken` and the reader has `available`, which is all it will
    have if `eof`: the outcome, and what stays with the reader. The future takes no byte past its frame,
    and it takes whatever of its frame is there. -/
def pollFrame (max : Nat) (taken available : Bytes) (eof : Bool) : FramePoll × Bytes :=
  let input := taken ++ available
  match readExact 4 input with
  | none => if eof then (.ready (.ok none), []) else (.pending input, [])
  | some (header, rest) =>
    let length := fromBeBytes header
    if length = 0 ∨ max < length then (.ready (.error (.protocol (limitMessage length))), rest)
    else match readExact length rest with
      | none => if eof then (.ready (.error .unexpectedEof), []) else (.pending input, [])
      | some (body, rest) => (.ready (.ok (some body)), rest)

end Frame
end DccCua
