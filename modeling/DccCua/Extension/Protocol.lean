import DccCua.Lib.Json
import DccCua.Lib.Checks
import DccCua.Lib.Unicode

/-! # The protocol of the browser extension

`protocol.ts`: the messages between the extension and the native host, with the checks of the extension. A
message is a JSON value and a text is counted in UTF-16 units, as JavaScript counts it. The URL parser is the
browser's; `parseUrl` gives nothing for a text on which `new URL` throws. -/

namespace DccCua
namespace Extension

open Checks Unicode

def protocolSchema : String := "dcc-cua.browser-extension.v1"
def protocolMin : Nat := 1
def protocolMax : Nat := 1
def maxRequestIdChars : Nat := 128
def maxTextChars : Nat := 4096
def maxSnapshotNodes : Nat := 300

inductive NativeMethod where
  | ping
  | snapshot
  | click
  | type
  | navigate
  | unpair
  deriving DecidableEq, Repr

structure PairedRequestBase where
  requestId : String
  sessionNonce : String
  tabId : Nat
  deriving DecidableEq, Repr

inductive NativeRequest where
  | ping (requestId : String)
  | snapshot (base : PairedRequestBase) (maxNodes : Nat)
  | click (base : PairedRequestBase) (snapshotId ref : String)
  | type (base : PairedRequestBase) (snapshotId ref text : String)
  | navigate (base : PairedRequestBase) (snapshotId url : String) (deadlineUnixMs : Nat)
  | unpair (base : PairedRequestBase)
  deriving DecidableEq, Repr

structure Pairing where
  sessionNonce : String
  tabId : Nat
  windowId : Nat
  origin : String
  documentId : String
  deriving DecidableEq, Repr

/-- What the code reads of a `URL`. -/
structure Url where
  protocol : String
  username : String
  password : String
  origin : String
  href : String
  deriving DecidableEq, Repr

def NativeMethod.name : NativeMethod → String
  | .ping => "ping"
  | .snapshot => "snapshot"
  | .click => "click"
  | .type => "type"
  | .navigate => "navigate"
  | .unpair => "unpair"

/-- The fields of a method beside the common ones. -/
def NativeMethod.keys : NativeMethod → List String
  | .ping => []
  | .snapshot => ["max_nodes"]
  | .click => ["snapshot_id", "ref"]
  | .type => ["snapshot_id", "ref", "text", "replace"]
  | .navigate => ["snapshot_id", "url", "deadline_unix_ms"]
  | .unpair => []

def commonKeys : List String := ["schema", "request_id", "method", "session_nonce", "tab_id"]

def methods : List NativeMethod := [.ping, .snapshot, .click, .type, .navigate, .unpair]

def maxSafeInteger : Nat := 2 ^ 53 - 1

/-- The integer that a JavaScript number is, if `Number.isSafeInteger` holds of it. -/
def safeInteger? : Json → Option Int
  | .int n => if n.natAbs ≤ maxSafeInteger then some n else none
  | .real q => if q.den = 1 ∧ q.num.natAbs ≤ maxSafeInteger then some q.num else none
  | _ => none

def boundedString (value : Json) (name : String) (maximum : Nat) : Except String String :=
  match value with
  | .str text =>
    if text = "" ∨ maximum < utf16Length text then
      .error (name ++ " must be a non-empty string of at most " ++ toString maximum ++ " characters")
    else .ok text
  | _ => .error (name ++ " must be a non-empty string of at most " ++ toString maximum ++ " characters")

def positiveInteger (value : Json) (name : String) : Except String Nat :=
  match safeInteger? value with
  | some n => if 0 < n then .ok n.toNat else .error (name ++ " must be a positive safe integer")
  | none => .error (name ++ " must be a positive safe integer")

def nativeMethod (value : Json) : Except String NativeMethod := do
  let name ← boundedString value "method" 32
  match methods.find? (·.name = name) with
  | some method => .ok method
  | none => .error ("unsupported native method: " ++ name)

/-- The fields of a message are among the allowed ones; `subject` is how the error calls the message. -/
def allowedFields (fields : List (String × Json)) (allowed : List String) (subject : String) : Except String Unit :=
  match (Json.keys fields).find? (· ∉ allowed) with
  | some key => .error ("unexpected " ++ subject ++ " field: " ++ key)
  | none => .ok ()

/-- `max_nodes` between 1 and the most a snapshot lists. -/
def boundedNodes (value : Json) : Except String Nat :=
  match safeInteger? value with
  | some n =>
    if 1 ≤ n ∧ n ≤ maxSnapshotNodes then .ok n.toNat
    else .error ("max_nodes must be between 1 and " ++ toString maxSnapshotNodes)
  | none => .error ("max_nodes must be between 1 and " ++ toString maxSnapshotNodes)

/-- `text` of a `type` command. -/
def boundedTypedText (value : Json) : Except String String :=
  match value with
  | .str text =>
    if maxTextChars < utf16Length text then
      .error ("text must be a string of at most " ++ toString maxTextChars ++ " characters")
    else .ok text
  | _ => .error ("text must be a string of at most " ++ toString maxTextChars ++ " characters")

section
variable (parseUrl : String → Option Url)

/-- The URL of a navigation: HTTP(S) without credentials. -/
def navigationUrl (value : Json) : Except String Url := do
  let text ← boundedString value "url" 2048
  match parseUrl text with
  | none => .error "Invalid URL"
  | some url =>
    require ((url.protocol = "http:" || url.protocol = "https:") && url.username = "" && url.password = "")
      "navigation requires an HTTP(S) URL without credentials"
    .ok url

def validateNativeRequest (message : Json) : Except String NativeRequest :=
  match message with
  | .obj fields => do
    require ((message.get "schema").asStr = some protocolSchema) "native request schema is unsupported"
    let requestId ← boundedString (message.get "request_id") "request_id" maxRequestIdChars
    let method ← nativeMethod (message.get "method")
    allowedFields fields (commonKeys ++ method.keys) "native request"
    if method = .ping then return .ping requestId
    let sessionNonce ← boundedString (message.get "session_nonce") "session_nonce" 64
    let tabId ← positiveInteger (message.get "tab_id") "tab_id"
    let base : PairedRequestBase := ⟨requestId, sessionNonce, tabId⟩
    match method with
    | .ping => .ok (.ping requestId)
    | .snapshot =>
      match message.get "max_nodes" with
      | .null => .ok (.snapshot base maxSnapshotNodes)
      | maxNodes => do
        let maxNodes ← boundedNodes maxNodes
        .ok (.snapshot base maxNodes)
    | .unpair => .ok (.unpair base)
    | .navigate => do
      let url ← navigationUrl parseUrl (message.get "url")
      let snapshotId ← boundedString (message.get "snapshot_id") "snapshot_id" 128
      let deadline ← positiveInteger (message.get "deadline_unix_ms") "deadline_unix_ms"
      .ok (.navigate base snapshotId url.href deadline)
    | .click => do
      let snapshotId ← boundedString (message.get "snapshot_id") "snapshot_id" 128
      let ref ← boundedString (message.get "ref") "ref" 128
      .ok (.click base snapshotId ref)
    | .type => do
      let snapshotId ← boundedString (message.get "snapshot_id") "snapshot_id" 128
      let ref ← boundedString (message.get "ref") "ref" 128
      let text ← boundedTypedText (message.get "text")
      require ((message.get "replace").asBool = some true) "type currently requires replace=true"
      .ok (.type base snapshotId ref text)
  | _ => .error "native request must be an object"

end

/-! ### Messages of the extension -/

def pairingJson (pairing : Pairing) : Json :=
  .obj [("session_nonce", .str pairing.sessionNonce), ("tab_id", .int pairing.tabId), ("window_id", .int pairing.windowId),
    ("origin", .str pairing.origin), ("document_id", .str pairing.documentId)]

def buildHello (pairing : Pairing) (extensionId extensionVersion : String) : Except String Json := do
  let id ← boundedString (.str extensionId) "extension id" 128
  let version ← boundedString (.str extensionVersion) "extension version" 64
  .ok (.obj [("schema", .str protocolSchema), ("type", .str "hello"),
    ("protocol", .obj [("min", .int protocolMin), ("max", .int protocolMax)]),
    ("extension", .obj [("id", .str id), ("version", .str version)]),
    ("capabilities", .arr [.str "explicit_tab_pairing_v1", .str "semantic_snapshot_v1", .str "dom_click_v1",
      .str "dom_replace_text_v1", .str "tab_navigation_v1"]),
    ("pairing", pairingJson pairing)])

def successResponse (requestId : String) (result : Json) : Json :=
  .obj [("schema", .str protocolSchema), ("type", .str "response"), ("request_id", .str requestId), ("ok", .bool true),
    ("result", result)]

/-- The id that an error response carries. -/
def errorRequestId (requestId : Json) : String :=
  match requestId with
  | .str text => if utf16Length text ≤ maxRequestIdChars then text else "invalid-request"
  | _ => "invalid-request"

def errorResponse (requestId : Json) (code message : String) : Except String Json := do
  let code ← boundedString (.str code) "error code" 64
  let message ← boundedString (.str message) "error message" 256
  .ok (.obj [("schema", .str protocolSchema), ("type", .str "response"), ("request_id", .str (errorRequestId requestId)),
    ("ok", .bool false), ("error", .obj [("code", .str code), ("message", .str message)])])

end Extension
end DccCua
