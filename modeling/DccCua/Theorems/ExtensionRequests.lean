import DccCua.Extension.ContentProtocol
import DccCua.Theorems.ExtensionMessages

/-! # Requests and the commands made of them

Every request that `validateNativeRequest` gives is within the bounds of the protocol, so the command that
`contentCommandFromNative` makes of it passes the checks in the tab. -/

namespace DccCua
namespace Extension

open Checks Unicode

/-- A text of 1 to `maximum` UTF-16 units. -/
def Bounded (text : String) (maximum : Nat) : Prop := text ≠ "" ∧ utf16Length text ≤ maximum

structure PairedRequestBase.Valid (base : PairedRequestBase) : Prop where
  requestId : Bounded base.requestId maxRequestIdChars
  sessionNonce : Bounded base.sessionNonce 64
  tabId : 0 < base.tabId ∧ base.tabId ≤ maxSafeInteger

def NativeRequest.Valid : NativeRequest → Prop
  | .ping requestId => Bounded requestId maxRequestIdChars
  | .snapshot base maxNodes => base.Valid ∧ 1 ≤ maxNodes ∧ maxNodes ≤ maxSnapshotNodes
  | .click base snapshotId ref => base.Valid ∧ Bounded snapshotId 128 ∧ Bounded ref 128
  | .type base snapshotId ref text =>
    base.Valid ∧ Bounded snapshotId 128 ∧ Bounded ref 128 ∧ utf16Length text ≤ maxTextChars
  | .navigate base snapshotId _ deadline => base.Valid ∧ Bounded snapshotId 128 ∧ 0 < deadline ∧ deadline ≤ maxSafeInteger
  | .unpair base => base.Valid

/-- The request has a command in the tab. -/
def NativeRequest.HasCommand : NativeRequest → Prop
  | .ping _ => False
  | .unpair _ => False
  | _ => True

/-! ### The checks of one field -/

section
variable {value : Json} {name text : String} {maximum n : Nat}

theorem boundedString_eq_ok : boundedString value name maximum = .ok text ↔ value = .str text ∧ Bounded text maximum := by
  cases value with
  | str other =>
    rw [boundedString_str_eq_ok]
    constructor
    · rintro ⟨rfl, hbound⟩
      exact ⟨rfl, hbound⟩
    · rintro ⟨h, hbound⟩
      cases h
      exact ⟨rfl, hbound⟩
  | null => simp [boundedString]
  | bool _ => simp [boundedString]
  | int _ => simp [boundedString]
  | real _ => simp [boundedString]
  | arr _ => simp [boundedString]
  | obj _ => simp [boundedString]

theorem safeInteger?_le {k : Int} (h : safeInteger? value = some k) : k.natAbs ≤ maxSafeInteger := by
  cases value with
  | int m =>
    simp only [safeInteger?] at h
    split at h
    · rename_i hle
      cases h
      exact hle
    · cases h
  | real q =>
    simp only [safeInteger?] at h
    split at h
    · rename_i hle
      cases h
      exact hle.2
    · cases h
  | null => cases h
  | bool _ => cases h
  | str _ => cases h
  | arr _ => cases h
  | obj _ => cases h

theorem positiveInteger_eq_ok :
    positiveInteger value name = .ok n ↔ 0 < n ∧ safeInteger? value = some (n : Int) := by
  unfold positiveInteger
  cases safeInteger? value with
  | none => simp
  | some k =>
    simp only [Option.some.injEq]
    by_cases hpos : 0 < k
    · rw [if_pos hpos]
      constructor
      · intro h
        cases h
        exact ⟨by omega, by omega⟩
      · rintro ⟨-, rfl⟩
        rfl
    · rw [if_neg hpos]
      constructor
      · intro h
        cases h
      · rintro ⟨hn, rfl⟩
        exact absurd (Int.natCast_pos.mpr hn) hpos

theorem positiveInteger_le (h : positiveInteger value name = .ok n) : 0 < n ∧ n ≤ maxSafeInteger := by
  obtain ⟨hpos, hsafe⟩ := positiveInteger_eq_ok.mp h
  have := safeInteger?_le hsafe
  exact ⟨hpos, by omega⟩

theorem positiveInteger_int : positiveInteger (.int n) name = .ok n ↔ 0 < n ∧ n ≤ maxSafeInteger := by
  rw [positiveInteger_eq_ok, safeInteger?]
  simp

theorem positiveInteger_int_eq {m : Nat} (h : positiveInteger (.int n) name = .ok m) : n = m := by
  obtain ⟨-, hsafe⟩ := positiveInteger_eq_ok.mp h
  simp only [safeInteger?] at hsafe
  split at hsafe
  · injection hsafe with hsafe
    exact Int.ofNat.inj hsafe
  · cases hsafe

theorem boundedNodes_eq_ok : boundedNodes value = .ok n ↔
    safeInteger? value = some (n : Int) ∧ 1 ≤ n ∧ n ≤ maxSnapshotNodes := by
  unfold boundedNodes
  cases safeInteger? value with
  | none => simp
  | some k =>
    simp only [Option.some.injEq]
    by_cases hbound : 1 ≤ k ∧ k ≤ maxSnapshotNodes
    · rw [if_pos hbound]
      constructor
      · intro h
        cases h
        exact ⟨by omega, by omega, by omega⟩
      · rintro ⟨rfl, -⟩
        rfl
    · rw [if_neg hbound]
      constructor
      · intro h
        cases h
      · rintro ⟨rfl, hn⟩
        exact absurd ⟨by omega, by omega⟩ hbound

theorem boundedTypedText_eq_ok : boundedTypedText value = .ok text ↔ value = .str text ∧ utf16Length text ≤ maxTextChars := by
  cases value with
  | str other =>
    simp only [boundedTypedText]
    by_cases hlong : maxTextChars < utf16Length other
    · rw [if_pos hlong]
      constructor
      · intro h
        cases h
      · rintro ⟨h, hle⟩
        cases h
        exact absurd hle (Nat.not_le.mpr hlong)
    · rw [if_neg hlong]
      constructor
      · intro h
        cases h
        exact ⟨rfl, Nat.not_lt.mp hlong⟩
      · rintro ⟨h, -⟩
        cases h
        rfl
  | null => simp [boundedTypedText]
  | bool _ => simp [boundedTypedText]
  | int _ => simp [boundedTypedText]
  | real _ => simp [boundedTypedText]
  | arr _ => simp [boundedTypedText]
  | obj _ => simp [boundedTypedText]

theorem asBool_eq_some {b : Bool} : value.asBool = some b ↔ value = .bool b := by
  cases value <;> simp [Json.asBool]

theorem asStr_eq_some : value.asStr = some text ↔ value = .str text := by
  cases value <;> simp [Json.asStr]

theorem allowedFields_eq_ok {fields : List (String × Json)} {allowed : List String} {subject : String} {u : Unit} :
    allowedFields fields allowed subject = .ok u ↔ ∀ key ∈ Json.keys fields, key ∈ allowed := by
  unfold allowedFields
  cases hfind : (Json.keys fields).find? (· ∉ allowed) with
  | none =>
    simp only [true_iff]
    intro key hkey
    have := List.find?_eq_none.mp hfind key hkey
    simpa using this
  | some key =>
    have hkey := List.find?_some hfind
    constructor
    · intro h
      cases h
    · intro h
      have := h key (List.mem_of_find?_eq_some hfind)
      simp [this] at hkey

theorem nativeMethod_name (method : NativeMethod) : nativeMethod (.str method.name) = .ok method := by
  cases method <;> rfl

end

/-! ### A request as a whole -/

section
variable {parseUrl : String → Option Url} {fields : List (String × Json)} {message : Json} {native : NativeRequest}

/-- What `validateNativeRequest` does once the common fields of a request have been checked. -/
def pairedRequest (parseUrl : String → Option Url) (message : Json) (base : PairedRequestBase) :
    NativeMethod → Except String NativeRequest
  | .ping => .ok (.ping base.requestId)
  | .snapshot =>
    match message.get "max_nodes" with
    | .null => .ok (.snapshot base maxSnapshotNodes)
    | maxNodes => do
      let maxNodes ← boundedNodes maxNodes
      .ok (.snapshot base maxNodes)
  | .unpair => .ok (.unpair base)
  | .navigate => do
    let url ← navigationUrl parseUrl (message.get "url")
    let snapshotId ← boundedString (message.get "snapshot_id") "snapshot_id" 128
    let deadline ← positiveInteger (message.get "deadline_unix_ms") "deadline_unix_ms"
    .ok (.navigate base snapshotId url.href deadline)
  | .click => do
    let snapshotId ← boundedString (message.get "snapshot_id") "snapshot_id" 128
    let ref ← boundedString (message.get "ref") "ref" 128
    .ok (.click base snapshotId ref)
  | .type => do
    let snapshotId ← boundedString (message.get "snapshot_id") "snapshot_id" 128
    let ref ← boundedString (message.get "ref") "ref" 128
    let text ← boundedTypedText (message.get "text")
    require ((message.get "replace").asBool = some true) "type currently requires replace=true"
    .ok (.type base snapshotId ref text)

/-- The common fields of a request, its method and the names of its fields are as the extension wants them. -/
structure Addressed (fields : List (String × Json)) (method : NativeMethod) (base : PairedRequestBase) : Prop where
  schema : (Json.obj fields).get "schema" = .str protocolSchema
  requestId : (Json.obj fields).get "request_id" = .str base.requestId
  name : nativeMethod ((Json.obj fields).get "method") = .ok method
  sessionNonce : (Json.obj fields).get "session_nonce" = .str base.sessionNonce
  tabId : positiveInteger ((Json.obj fields).get "tab_id") "tab_id" = .ok base.tabId
  known : ∀ key ∈ Json.keys fields, key ∈ commonKeys ++ method.keys
  bounded : Bounded base.requestId maxRequestIdChars ∧ Bounded base.sessionNonce 64

theorem validateNativeRequest_eq_ok : validateNativeRequest parseUrl (.obj fields) = .ok native ↔
    (∃ requestId, native = .ping requestId ∧ (Json.obj fields).get "schema" = .str protocolSchema ∧
      (Json.obj fields).get "request_id" = .str requestId ∧ Bounded requestId maxRequestIdChars ∧
      nativeMethod ((Json.obj fields).get "method") = .ok .ping ∧ ∀ key ∈ Json.keys fields, key ∈ commonKeys) ∨
    ∃ method base, method ≠ .ping ∧ Addressed fields method base ∧
      pairedRequest parseUrl (.obj fields) base method = .ok native := by
  simp only [validateNativeRequest, bind_eq_ok, require_eq_ok, decide_eq_true_eq, asStr_eq_some, boundedString_eq_ok,
    allowedFields_eq_ok]
  constructor
  · rintro ⟨_, hschema, requestId, ⟨hid, hbound⟩, method, hmethod, _, hknown, h⟩
    by_cases hping : method = .ping
    · subst hping
      cases h
      refine Or.inl ⟨requestId, rfl, hschema, hid, hbound, hmethod, ?_⟩
      simpa [NativeMethod.keys] using hknown
    · rw [if_neg hping] at h
      simp only [bind_eq_ok, boundedString_eq_ok] at h
      obtain ⟨nonce, ⟨hnonce, hnonceBound⟩, tab, htab, h⟩ := h
      refine Or.inr ⟨method, ⟨requestId, nonce, tab⟩, hping, ⟨hschema, hid, hmethod, hnonce, htab, hknown, hbound, hnonceBound⟩,
        ?_⟩
      cases method <;> exact h
  · rintro (⟨requestId, rfl, hschema, hid, hbound, hmethod, hknown⟩ | ⟨method, base, hping, haddressed, h⟩)
    · refine ⟨(), hschema, requestId, ⟨hid, hbound⟩, .ping, hmethod, (), ?_, rfl⟩
      simpa [NativeMethod.keys] using hknown
    · refine ⟨(), haddressed.schema, base.requestId, ⟨haddressed.requestId, haddressed.bounded.1⟩, method, haddressed.name, (),
        haddressed.known, ?_⟩
      rw [if_neg hping]
      simp only [bind_eq_ok, boundedString_eq_ok]
      refine ⟨base.sessionNonce, ⟨haddressed.sessionNonce, haddressed.bounded.2⟩, base.tabId, haddressed.tabId, ?_⟩
      cases method <;> exact h

theorem Addressed.base_valid {method : NativeMethod} {base : PairedRequestBase} (h : Addressed fields method base) :
    base.Valid := ⟨h.bounded.1, h.bounded.2, positiveInteger_le h.tabId⟩

theorem pairedRequest_snapshot_eq_ok {base : PairedRequestBase} :
    pairedRequest parseUrl message base .snapshot = .ok native ↔
      ∃ maxNodes, native = .snapshot base maxNodes ∧ ((message.get "max_nodes" = .null ∧ maxNodes = maxSnapshotNodes) ∨
        boundedNodes (message.get "max_nodes") = .ok maxNodes) := by
  have hnull : ∀ n, boundedNodes .null ≠ .ok n := fun n h => by cases h
  by_cases hget : message.get "max_nodes" = .null
  · simp only [pairedRequest, hget, Except.ok.injEq, hnull, or_false, true_and]
    constructor
    · rintro rfl
      exact ⟨_, rfl, rfl⟩
    · rintro ⟨_, rfl, rfl⟩
      rfl
  · have htail : pairedRequest parseUrl message base .snapshot =
        boundedNodes (message.get "max_nodes") >>= fun maxNodes => .ok (.snapshot base maxNodes) := by
      cases hvalue : message.get "max_nodes" with
      | null => exact absurd hvalue hget
      | bool _ => simp only [pairedRequest, hvalue]
      | int _ => simp only [pairedRequest, hvalue]
      | real _ => simp only [pairedRequest, hvalue]
      | str _ => simp only [pairedRequest, hvalue]
      | arr _ => simp only [pairedRequest, hvalue]
      | obj _ => simp only [pairedRequest, hvalue]
    rw [htail]
    simp only [bind_eq_ok, Except.ok.injEq, hget, false_and, false_or]
    constructor
    · rintro ⟨n, hn, rfl⟩
      exact ⟨n, rfl, hn⟩
    · rintro ⟨n, rfl, hn⟩
      exact ⟨n, hn, rfl⟩

/-- What is given for a paired request is within the bounds. -/
theorem pairedRequest_valid {base : PairedRequestBase} {method : NativeMethod} (hbase : base.Valid)
    (h : pairedRequest parseUrl message base method = .ok native) : native.Valid := by
  cases method with
  | ping =>
    cases h
    exact hbase.requestId
  | unpair =>
    cases h
    exact hbase
  | snapshot =>
    obtain ⟨maxNodes, rfl, ⟨-, rfl⟩ | hnodes⟩ := pairedRequest_snapshot_eq_ok.mp h
    · exact ⟨hbase, by decide, by decide⟩
    · exact ⟨hbase, (boundedNodes_eq_ok.mp hnodes).2⟩
  | navigate =>
    simp only [pairedRequest, bind_eq_ok, boundedString_eq_ok] at h
    obtain ⟨url, -, snapshotId, ⟨-, hsnapshot⟩, deadline, hdeadline, h⟩ := h
    cases h
    exact ⟨hbase, hsnapshot, positiveInteger_le hdeadline⟩
  | click =>
    simp only [pairedRequest, bind_eq_ok, boundedString_eq_ok] at h
    obtain ⟨snapshotId, ⟨-, hsnapshot⟩, ref, ⟨-, href⟩, h⟩ := h
    cases h
    exact ⟨hbase, hsnapshot, href⟩
  | type =>
    simp only [pairedRequest, bind_eq_ok, boundedString_eq_ok, boundedTypedText_eq_ok] at h
    obtain ⟨snapshotId, ⟨-, hsnapshot⟩, ref, ⟨-, href⟩, text, ⟨-, htext⟩, _, -, h⟩ := h
    cases h
    exact ⟨hbase, hsnapshot, href, htext⟩

/-- What `validateContentCommand` does once the common fields of a command have been checked. -/
def contentArguments (value : Json) (sessionNonce : String) : ContentMethod → Except String ContentCommand
  | .pair => .ok (.pair sessionNonce)
  | .snapshot => do
    let maxNodes ← boundedNodes (value.get "max_nodes")
    .ok (.snapshot sessionNonce maxNodes)
  | .prepareNavigation => do
    let snapshotId ← boundedString (value.get "snapshot_id") "snapshot_id" 128
    .ok (.prepareNavigation sessionNonce snapshotId)
  | .click => do
    let snapshotId ← boundedString (value.get "snapshot_id") "snapshot_id" 128
    let ref ← boundedString (value.get "ref") "ref" 128
    .ok (.click sessionNonce snapshotId ref)
  | .type => do
    let snapshotId ← boundedString (value.get "snapshot_id") "snapshot_id" 128
    let ref ← boundedString (value.get "ref") "ref" 128
    let text ← boundedTypedText (value.get "text")
    require ((value.get "replace").asBool = some true) "type currently requires replace=true"
    .ok (.type sessionNonce snapshotId ref text)

theorem contentMethod_name (method : ContentMethod) : contentMethod (.str method.name) = .ok method := by
  cases method <;> rfl

theorem validateContentCommand_contentFields {method : ContentMethod} {nonce : String} {extra : List (String × Json)}
    {command : ContentCommand} (hnonce : Bounded nonce 64) (hknown : ∀ key ∈ Json.keys extra, key ∈ method.keys)
    (h : contentArguments (contentFields method nonce extra) nonce method = .ok command) :
    validateContentCommand (contentFields method nonce extra) = .ok command := by
  have hkeys : ∀ key ∈ Json.keys ([("schema", Json.str protocolSchema), ("method", Json.str method.name),
      ("session_nonce", Json.str nonce)] ++ extra), key ∈ contentCommonKeys ++ method.keys := by
    intro key hkey
    rw [Json.keys, List.map_append, List.mem_append] at hkey
    rcases hkey with hcommon | hextra
    · exact List.mem_append_left _ hcommon
    · exact List.mem_append_right _ (hknown key hextra)
  simp only [validateContentCommand, contentFields, bind_eq_ok, boundedString_eq_ok, allowedFields_eq_ok]
  refine ⟨(), rfl, method, contentMethod_name method, (), hkeys, nonce, ⟨rfl, hnonce⟩, ?_⟩
  cases method <;> exact h

/-- The command made of a request within the bounds passes the checks in the tab. -/
theorem contentCommandFromNative_valid (hvalid : native.Valid) (hcommand : native.HasCommand) :
    ∃ command, contentCommandFromNative native = some (.ok command) := by
  cases native with
  | ping _ => exact hcommand.elim
  | unpair _ => exact hcommand.elim
  | snapshot base maxNodes =>
    obtain ⟨hbase, hlow, hhigh⟩ := hvalid
    have hsafe : maxNodes ≤ maxSafeInteger := Nat.le_trans hhigh (by decide)
    refine ⟨.snapshot base.sessionNonce maxNodes, congrArg some ?_⟩
    refine validateContentCommand_contentFields hbase.sessionNonce (fun _ h => h) ?_
    simp only [contentArguments, bind_eq_ok, boundedNodes_eq_ok]
    exact ⟨maxNodes, ⟨if_pos hsafe, hlow, hhigh⟩, rfl⟩
  | click base snapshotId ref =>
    obtain ⟨hbase, hsnapshot, href⟩ := hvalid
    refine ⟨.click base.sessionNonce snapshotId ref, congrArg some ?_⟩
    refine validateContentCommand_contentFields hbase.sessionNonce (fun _ h => h) ?_
    simp only [contentArguments, bind_eq_ok, boundedString_eq_ok]
    exact ⟨snapshotId, ⟨rfl, hsnapshot⟩, ref, ⟨rfl, href⟩, rfl⟩
  | type base snapshotId ref text =>
    obtain ⟨hbase, hsnapshot, href, htext⟩ := hvalid
    refine ⟨.type base.sessionNonce snapshotId ref text, congrArg some ?_⟩
    refine validateContentCommand_contentFields hbase.sessionNonce (fun _ h => h) ?_
    simp only [contentArguments, bind_eq_ok, boundedString_eq_ok, boundedTypedText_eq_ok]
    exact ⟨snapshotId, ⟨rfl, hsnapshot⟩, ref, ⟨rfl, href⟩, text, ⟨rfl, htext⟩, (), rfl, rfl⟩
  | navigate base snapshotId url deadline =>
    obtain ⟨hbase, hsnapshot, -⟩ := hvalid
    refine ⟨.prepareNavigation base.sessionNonce snapshotId, congrArg some ?_⟩
    refine validateContentCommand_contentFields hbase.sessionNonce (fun _ h => h) ?_
    simp only [contentArguments, bind_eq_ok, boundedString_eq_ok]
    exact ⟨snapshotId, ⟨rfl, hsnapshot⟩, rfl⟩

end

end Extension
end DccCua
