import DccCua.Lib.Lines
import DccCua.Protocol.Frame

/-! # Bounded lines of JSON

The two readers of `private_worker.rs` and `bounded_jsonl.rs`, of which one blocks and the other waits. Their
underlying reader hands a stream out in chunks; errors of that reader are left out. -/

namespace DccCua

/-- What the underlying reader has in its buffer. Only at the end of the stream there is nothing. -/
structure Chunk where
  bytes : Bytes
  nonempty : bytes ≠ []

namespace BoundedJsonl

/-- An `io::Error` of the kind `InvalidData`. -/
inductive InvalidData where
  | utf8
  | message (text : String)
  deriving DecidableEq, Repr

def newline : UInt8 := 0xa

/-- What is left of the stream. -/
def unread (reader : List Chunk) : Bytes := (reader.map Chunk.bytes).flatten

def consume (amount : Nat) : List Chunk → List Chunk
  | [] => []
  | chunk :: reader =>
    if h : chunk.bytes.drop amount ≠ [] then ⟨chunk.bytes.drop amount, h⟩ :: reader else reader

def position (chunk : Bytes) : Option Nat := chunk.findIdx? (· = newline)

/-- `String::from_utf8`. -/
def fromUtf8 (line : Bytes) : Except InvalidData (Option String) :=
  match String.fromUTF8? ⟨line.toArray⟩ with
  | some text => .ok (some text)
  | none => .error .utf8

def discardUntilNewline : List Chunk → List Chunk
  | [] => []
  | chunk :: reader =>
    let take := (position chunk.bytes).elim chunk.bytes.length (· + 1)
    if take < chunk.bytes.length ∨ chunk.bytes.getLast? = some newline then consume take (chunk :: reader)
    -- without a newline the whole chunk is consumed
    else discardUntilNewline reader

def tooLong (maximum : Nat) : InvalidData :=
  .message ("JSONL request exceeds maximum frame size of " ++ toString maximum ++ " bytes")

/-- The loop of `next_line`, with what the line holds so far. -/
def nextLineFrom (maximum : Nat) : Bytes → List Chunk → Except InvalidData (Option String) × List Chunk
  | line, [] => (if line = [] then .ok none else fromUtf8 line, [])
  | line, chunk :: reader =>
    match position chunk.bytes with
    | some index =>
      let take := index + 1
      if maximum < line.length + take then (.error (tooLong maximum), consume take (chunk :: reader))
      else (fromUtf8 (line ++ chunk.bytes.take take), consume take (chunk :: reader))
    | none =>
      if maximum < line.length + chunk.bytes.length then (.error (tooLong maximum), discardUntilNewline reader)
      else nextLineFrom maximum (line ++ chunk.bytes) reader

/-- `next_line` of the private worker. -/
def nextLine (reader : List Chunk) : Except InvalidData (Option String) × List Chunk :=
  nextLineFrom maxJsonFrameBytes [] reader

/-- `next_line` of the command line. -/
def nextLineAsync (reader : List Chunk) : Except InvalidData (Option String) × List Chunk :=
  nextLineFrom maxJsonFrameBytes [] reader

/-- The results of the first `n` calls, and the reader after them. -/
def calls (next : List Chunk → Except InvalidData (Option String) × List Chunk) :
    Nat → List Chunk → List (Except InvalidData (Option String)) × List Chunk
  | 0, reader => ([], reader)
  | n + 1, reader =>
    let (result, reader) := next reader
    let (results, reader) := calls next n reader
    (result :: results, reader)

end BoundedJsonl
end DccCua
