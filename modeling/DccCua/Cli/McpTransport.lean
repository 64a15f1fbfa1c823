import DccCua.Lib.Json
import DccCua.Lib.Lines
import DccCua.Protocol.Frame
import DccCua.Text

/-! # The stdio transport of the MCP server

`run_transport` of `mcp_server/transport.rs` and `handle_rpc` of `mcp_server.rs`. The stream comes in reads of at least
one byte; it may stop without an end. `serde_json::from_slice` and what each method answers are parameters, and a value
that is written makes one line. Diagnostics and errors of the output are left out. -/

namespace DccCua
namespace Mcp

/-- The bytes of one read. -/
structure Read where
  bytes : Bytes
  nonempty : bytes ≠ []

/-- `u8::is_ascii_whitespace`. -/
def isAsciiWhitespace (byte : UInt8) : Bool :=
  byte = 0x20 || byte = 0x9 || byte = 0xa || byte = 0xc || byte = 0xd

def newline : UInt8 := 0xa

def rpcResult (id result : Json) : Json := .obj [("jsonrpc", .str "2.0"), ("id", id), ("result", result)]

def rpcError (id : Json) (code : Int) (message : String) : Json :=
  .obj [("jsonrpc", .str "2.0"), ("id", id), ("error", .obj [("code", .int code), ("message", .str message)])]

def parseError : Json := rpcError .null (-32700) "Parse error"

def rpcMethods : List String :=
  ["initialize", "ping", "tools/list", "tools/call", "resources/list", "resources/read", "resources/templates/list",
    "prompts/list"]

/-- The messages that get no answer. -/
def isNotification (message : Json) : Bool :=
  match (message.get "method").asStr with
  | some method => Text.startsWith method "notifications/" || method = "$/cancelRequest"
  | none => false

def rpcParams (message : Json) : Json :=
  match message.get "params" with
  | .obj fields => .obj fields
  | _ => .obj []

section
variable {Server : Type} (answer : String → Json → Server → Except String Json × Server)

def handleRpc (message : Json) (server : Server) : Option Json × Server :=
  let id := message.get "id"
  match (message.get "method").asStr with
  | none => (some (rpcError id (-32600) "Invalid Request"), server)
  | some method =>
    if Text.startsWith method "notifications/" || method = "$/cancelRequest" then (none, server)
    else if method ∉ rpcMethods then (some (rpcError id (-32601) "Method not found"), server)
    else match answer method (rpcParams message) server with
      | (.ok result, server) => (some (rpcResult id result), server)
      | (.error message, server) => (some (rpcError id (-32602) message), server)

/-- The responses of the messages of a batch. -/
def handleBatch : List Json → Server → List Json × Server
  | [], server => ([], server)
  | message :: batch, server =>
    let (response, server) := handleRpc answer message server
    let (responses, server) := handleBatch batch server
    (response.toList ++ responses, server)

/-- What is written for a list of responses. -/
def response : List Json → Option Json
  | [] => none
  | [response] => some response
  | responses => some (.arr responses)

variable (fromSlice : Bytes → Option Json)

def handleLine (line : Bytes) (server : Server) : Option Json × Server :=
  if line.all isAsciiWhitespace then (none, server)
  else match fromSlice line with
    | none => (some parseError, server)
    | some (.arr batch) =>
      let (responses, server) := handleBatch answer batch server
      (response responses, server)
    | some message =>
      let (responses, server) := handleRpc answer message server
      (response responses.toList, server)

/-- A turn of the loop: the line that was read and what was written for it. -/
structure Turn where
  line : Bytes
  written : Option Json

/-- `CloseReason`, or the stream has stopped. -/
inductive TransportEnd where
  | waiting
  | stdinEof
  | frameLimit
  deriving DecidableEq, Repr

/-- At most `turns` turns of the loop. -/
def runTurns (max : Nat) (ended : Bool) : Nat → Bytes → List Bytes → Server → List Turn × TransportEnd
  | 0, _, _, _ => ([], .waiting)
  | turns + 1, buffer, reads, server =>
    match Lines.readUntil newline ended (max + 1) buffer reads with
    | none => ([], .waiting)
    | some (line, buffer, reads) =>
      if line = [] then ([], .stdinEof)
      else if max < line.length then ([], .frameLimit)
      else
        let (written, server) := handleLine answer fromSlice line server
        let (later, reason) := runTurns max ended turns buffer reads server
        (⟨line, written⟩ :: later, reason)

def stream (reads : List Read) : Bytes := (reads.map (·.bytes)).flatten

/-- Each turn takes a byte at least, so that no turn comes after as many as there are bytes. -/
def runTransport (max : Nat) (ended : Bool) (reads : List Read) (server : Server) : List Turn × TransportEnd :=
  runTurns answer fromSlice max ended ((stream reads).length + 1) [] (reads.map (·.bytes)) server

end

end Mcp
end DccCua
