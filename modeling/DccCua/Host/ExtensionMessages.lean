import DccCua.Lib.Json
import DccCua.Lib.Checks
import DccCua.Lib.Unicode
import DccCua.Protocol.Frame

/-! # Messages of the browser extension, on the Host

The checks of `browser_extension.rs` on what the extension sends: its hello and its responses. A text is
counted in bytes. -/

namespace DccCua
namespace BrowserExtension

open Checks Unicode

def extensionSchema : String := "dcc-cua.browser-extension.v1"

def extensionProtocolVersion : Nat := 1

structure ExtensionPairing where
  sessionNonce : String
  tabId : Nat
  windowId : Nat
  origin : String
  documentId : String
  deriving DecidableEq, Repr

structure ExtensionHello where
  extensionId : String
  extensionVersion : String
  capabilities : List String
  pairing : ExtensionPairing
  deriving DecidableEq, Repr

def ensureExactFields (value : Json) (expected : List String) (objectName : String) : Except String Unit :=
  match value with
  | .obj fields =>
    require (fields.length = expected.length && expected.all fun field => (Json.keys fields).contains field)
      ("browser extension " ++ objectName ++ " fields do not match protocol v1")
  | _ => .error ("browser extension " ++ objectName ++ " must be an object")

def boundedString (value : Json) (field : String) (maximum : Nat) : Except String String :=
  match (value.get field).asStr with
  | some text =>
    if text ≠ "" ∧ utf8Length text ≤ maximum then .ok text
    else .error ("browser extension " ++ field ++ " must contain 1.." ++ toString maximum ++ " characters")
  | none => .error ("browser extension " ++ field ++ " must contain 1.." ++ toString maximum ++ " characters")

def positiveId (value : Json) (field : String) : Except String Nat :=
  match (value.get field).asU64 with
  | some id => if 0 < id then .ok id else .error ("browser extension " ++ field ++ " must be positive")
  | none => .error ("browser extension " ++ field ++ " must be positive")

def invocationMatchesExtension (invocationOrigin extensionId : String) : Bool :=
  invocationOrigin = extensionId || invocationOrigin = "chrome-extension://" ++ extensionId ++ "/" ||
    invocationOrigin = "moz-extension://" ++ extensionId ++ "/"

def parseCapability (value : Json) : Except String String :=
  match value.asStr with
  | some text =>
    if text ≠ "" ∧ utf8Length text ≤ 128 then .ok text else .error "browser extension capability is invalid"
  | none => .error "browser extension capability is invalid"

def parseCapabilities (value : Json) : Except String (List String) :=
  match value.asArray with
  | some values =>
    if values ≠ [] ∧ values.length ≤ 32 then do
      let capabilities ← values.mapM parseCapability
      require (decide capabilities.Nodup) "browser extension capabilities must not contain duplicates"
      .ok capabilities
    else .error "browser extension capabilities must contain between 1 and 32 entries"
  | none => .error "browser extension capabilities must contain between 1 and 32 entries"

def parsePairing (pairing : Json) : Except String ExtensionPairing := do
  let sessionNonce ← boundedString pairing "session_nonce" 64
  let tabId ← positiveId pairing "tab_id"
  let windowId ← positiveId pairing "window_id"
  let origin ← boundedString pairing "origin" 2048
  let documentId ← boundedString pairing "document_id" 128
  .ok ⟨sessionNonce, tabId, windowId, origin, documentId⟩

def parseExtensionHello (hello : Json) (invocationOrigin : String) : Except String ExtensionHello := do
  ensureExactFields hello ["schema", "type", "protocol", "extension", "capabilities", "pairing"] "hello"
  require ((hello.get "schema").asStr = some extensionSchema && (hello.get "type").asStr = some "hello")
    "browser extension hello schema is unsupported"
  ensureExactFields (hello.get "protocol") ["min", "max"] "protocol"
  let minimum := ((hello.get "protocol").get "min").asU64.getD 0
  let maximum := ((hello.get "protocol").get "max").asU64.getD 0
  require (minimum ≤ extensionProtocolVersion && extensionProtocolVersion ≤ maximum)
    "browser extension protocol ranges do not overlap"
  ensureExactFields (hello.get "extension") ["id", "version"] "extension"
  let extensionId ← boundedString (hello.get "extension") "id" 128
  let extensionVersion ← boundedString (hello.get "extension") "version" 64
  require (invocationMatchesExtension invocationOrigin extensionId)
    "native messaging invocation origin does not match the extension id"
  ensureExactFields (hello.get "pairing") ["session_nonce", "tab_id", "window_id", "origin", "document_id"] "pairing"
  let capabilities ← parseCapabilities (hello.get "capabilities")
  let pairing ← parsePairing (hello.get "pairing")
  .ok ⟨extensionId, extensionVersion, capabilities, pairing⟩

def validateExtensionResponse (response : Json) : Except String Unit := do
  require ((response.get "schema").asStr = some extensionSchema && (response.get "type").asStr = some "response")
    "browser extension returned an invalid response envelope"
  let _ ← boundedString response "request_id" maxRequestIdChars
  match (response.get "ok").asBool with
  | some true => ensureExactFields response ["schema", "type", "request_id", "ok", "result"] "success response"
  | some false => do
    ensureExactFields response ["schema", "type", "request_id", "ok", "error"] "error response"
    ensureExactFields (response.get "error") ["code", "message"] "response error"
    let _ ← boundedString (response.get "error") "code" 64
    let _ ← boundedString (response.get "error") "message" 256
    .ok ()
  | none => .error "browser extension response ok field must be boolean"

end BrowserExtension
end DccCua
