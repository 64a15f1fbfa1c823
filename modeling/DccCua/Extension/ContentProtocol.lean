import DccCua.Extension.Protocol

/-! # Commands to a tab

`content-protocol.ts`: the commands that the background page sends to the bridge in a paired tab, with the
checks on both sides. -/

namespace DccCua
namespace Extension

open Checks

inductive Action where
  | click
  | type
  deriving DecidableEq, Repr

inductive ContentCommand where
  | pair (sessionNonce : String)
  | snapshot (sessionNonce : String) (maxNodes : Nat)
  | click (sessionNonce snapshotId ref : String)
  | type (sessionNonce snapshotId ref text : String)
  | prepareNavigation (sessionNonce snapshotId : String)
  deriving DecidableEq, Repr

inductive ContentMethod where
  | pair
  | snapshot
  | click
  | type
  | prepareNavigation
  deriving DecidableEq, Repr

namespace ContentMethod

def name : ContentMethod → String
  | .pair => "pair"
  | .snapshot => "snapshot"
  | .click => "click"
  | .type => "type"
  | .prepareNavigation => "prepare_navigation"

/-- The fields of a method beside the common ones. -/
def keys : ContentMethod → List String
  | .pair => []
  | .snapshot => ["max_nodes"]
  | .click => ["snapshot_id", "ref"]
  | .type => ["snapshot_id", "ref", "text", "replace"]
  | .prepareNavigation => ["snapshot_id"]

def all : List ContentMethod := [.pair, .snapshot, .click, .type, .prepareNavigation]

end ContentMethod

def contentCommonKeys : List String := ["schema", "method", "session_nonce"]

def contentMethod (value : Json) : Except String ContentMethod := do
  let name ← boundedString value "method" 32
  match ContentMethod.all.find? (·.name = name) with
  | some method => .ok method
  | none => .error ("unsupported content method: " ++ name)

/-- `parseContentCommand`; `validateContentCommand` only adds a code to its errors. -/
def validateContentCommand (value : Json) : Except String ContentCommand :=
  match value with
  | .obj fields => do
    require ((value.get "schema").asStr = some protocolSchema) "content command schema is unsupported"
    let method ← contentMethod (value.get "method")
    allowedFields fields (contentCommonKeys ++ method.keys) "content command"
    let sessionNonce ← boundedString (value.get "session_nonce") "session_nonce" 64
    match method with
    | .pair => .ok (.pair sessionNonce)
    | .snapshot => do
      let maxNodes ← boundedNodes (value.get "max_nodes")
      .ok (.snapshot sessionNonce maxNodes)
    | .prepareNavigation => do
      let snapshotId ← boundedString (value.get "snapshot_id") "snapshot_id" 128
      .ok (.prepareNavigation sessionNonce snapshotId)
    | .click => do
      let snapshotId ← boundedString (value.get "snapshot_id") "snapshot_id" 128
      let ref ← boundedString (value.get "ref") "ref" 128
      .ok (.click sessionNonce snapshotId ref)
    | .type => do
      let snapshotId ← boundedString (value.get "snapshot_id") "snapshot_id" 128
      let ref ← boundedString (value.get "ref") "ref" 128
      let text ← boundedTypedText (value.get "text")
      require ((value.get "replace").asBool = some true) "type currently requires replace=true"
      .ok (.type sessionNonce snapshotId ref text)
  | _ => .error "content command schema is unsupported"

/-- The fields of a command, before its method adds its own. -/
def contentFields (method : ContentMethod) (sessionNonce : String) (fields : List (String × Json)) : Json :=
  .obj ([("schema", .str protocolSchema), ("method", .str method.name), ("session_nonce", .str sessionNonce)] ++ fields)

def buildPairCommand (sessionNonce : String) : Except String ContentCommand :=
  validateContentCommand (contentFields .pair sessionNonce [])

/-- The value that `contentCommandFromNative` hands to `validateContentCommand`; `ping` and `unpair` have none. -/
def contentValueFromNative : NativeRequest → Option Json
  | .ping _ => none
  | .unpair _ => none
  | .navigate base snapshotId _ _ =>
    some (contentFields .prepareNavigation base.sessionNonce [("snapshot_id", .str snapshotId)])
  | .snapshot base maxNodes => some (contentFields .snapshot base.sessionNonce [("max_nodes", .int maxNodes)])
  | .click base snapshotId ref =>
    some (contentFields .click base.sessionNonce [("snapshot_id", .str snapshotId), ("ref", .str ref)])
  | .type base snapshotId ref text =>
    some (contentFields .type base.sessionNonce [("snapshot_id", .str snapshotId), ("ref", .str ref), ("text", .str text),
      ("replace", .bool true)])

def contentCommandFromNative (request : NativeRequest) : Option (Except String ContentCommand) :=
  (contentValueFromNative request).map validateContentCommand

end Extension
end DccCua
