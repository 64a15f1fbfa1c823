import DccCua.Extension.Protocol
import DccCua.Host.ExtensionMessages
import DccCua.Text

/-! # What the extension sends and what the Host takes

The extension counts a text in UTF-16 units and puts the origin of the tab into the document id; the Host
counts bytes and takes document ids of at most 128 of them. -/

namespace DccCua
namespace BrowserExtension

open Checks Unicode

variable {value : Json} {field text : String} {maximum : Nat}

theorem boundedString_eq_ok : boundedString value field maximum = .ok text ↔
    value.get field = .str text ∧ text ≠ "" ∧ utf8Length text ≤ maximum := by
  unfold boundedString
  cases hvalue : value.get field with
  | str other =>
    simp only [Json.asStr]
    by_cases hbound : other ≠ "" ∧ utf8Length other ≤ maximum
    · rw [if_pos hbound]
      constructor
      · intro h
        cases h
        exact ⟨rfl, hbound⟩
      · rintro ⟨h, -⟩
        cases h
        rfl
    · rw [if_neg hbound]
      constructor
      · intro h
        cases h
      · rintro ⟨h, hother⟩
        cases h
        exact absurd hother hbound
  | null => simp [Json.asStr]
  | bool _ => simp [Json.asStr]
  | int _ => simp [Json.asStr]
  | real _ => simp [Json.asStr]
  | arr _ => simp [Json.asStr]
  | obj _ => simp [Json.asStr]

theorem positiveId_eq_ok {id : Nat} (hvalue : value.get field = .int id) (hpos : 0 < id) (hid : id < 2 ^ 64) :
    positiveId value field = .ok id := by
  unfold positiveId
  rw [hvalue, Json.asU64_natCast hid]
  simp only
  rw [if_pos hpos]

end BrowserExtension

namespace Extension

open Checks Unicode

theorem boundedString_str_eq_ok {name text result : String} {maximum : Nat} :
    boundedString (.str text) name maximum = .ok result ↔ result = text ∧ text ≠ "" ∧ utf16Length text ≤ maximum := by
  simp only [boundedString]
  by_cases hbound : text = "" ∨ maximum < utf16Length text
  · rw [if_pos hbound]
    constructor
    · intro h
      cases h
    · rintro ⟨-, hne, hle⟩
      rcases hbound with hempty | hlong
      · exact absurd hempty hne
      · exact absurd hle (Nat.not_le.mpr hlong)
  · rw [if_neg hbound]
    rw [not_or, Nat.not_lt] at hbound
    constructor
    · intro h
      cases h
      exact ⟨rfl, hbound⟩
    · rintro ⟨rfl, -⟩
      rfl

/-- What `crypto.randomUUID` gives: 36 hexadecimal digits and hyphens. -/
structure RandomUUID where
  text : String
  length : text.toList.length = 36
  digits : ∀ c ∈ text.toList, c ∈ "0123456789abcdef-".toList

/-- The origin of an HTTP or HTTPS tab. -/
structure TabOrigin where
  text : String
  scheme : (Text.startsWith text "http://" || Text.startsWith text "https://") = true

/-- The id of a tab or of a window. -/
structure BrowserId where
  id : Nat
  positive : 0 < id
  safe : id ≤ maxSafeInteger

/-- The pairing of a tab: its document id names the origin. -/
def pairingOf (origin : TabOrigin) (nonce document : RandomUUID) (tab window : BrowserId) : Pairing :=
  ⟨nonce.text, tab.id, window.id, origin.text, origin.text ++ ":" ++ document.text⟩

theorem RandomUUID.utf8Length_text (uuid : RandomUUID) : utf8Length uuid.text = 36 := by
  have hall : ("0123456789abcdef-".toList.all fun c => utf8Size c = 1) = true := by decide
  have hone : ∀ c ∈ "0123456789abcdef-".toList, utf8Size c = 1 := fun c hc => of_decide_eq_true (List.all_eq_true.mp hall c hc)
  have hsizes : uuid.text.toList.map utf8Size = List.replicate 36 1 := by
    rw [← uuid.length]
    exact List.map_eq_replicate_iff.mpr fun c hc => hone c (uuid.digits c hc)
  rw [utf8Length, hsizes]
  rfl

theorem RandomUUID.text_ne_empty (uuid : RandomUUID) : uuid.text ≠ "" := by
  intro hempty
  have hlength := uuid.length
  rw [hempty] at hlength
  cases hlength

theorem TabOrigin.text_ne_empty (origin : TabOrigin) : origin.text ≠ "" := by
  intro hempty
  have hscheme := origin.scheme
  rw [hempty] at hscheme
  cases hscheme

theorem utf8Length_documentId (origin : TabOrigin) (document : RandomUUID) :
    utf8Length (origin.text ++ ":" ++ document.text) = utf8Length origin.text + 37 := by
  rw [utf8Length_append, utf8Length_append, document.utf8Length_text]
  rfl

theorem documentId_ne_empty (origin : TabOrigin) (document : RandomUUID) : origin.text ++ ":" ++ document.text ≠ "" := by
  intro hempty
  have hlength := utf8Length_documentId origin document
  rw [hempty] at hlength
  cases hlength

section Hello
variable (origin : TabOrigin) (nonce document : RandomUUID) (tab window : BrowserId)

theorem positiveId_browserId {value : Json} {field : String} (b : BrowserId) (hvalue : value.get field = .int b.id) :
    BrowserExtension.positiveId value field = .ok b.id := by
  refine BrowserExtension.positiveId_eq_ok hvalue b.positive ?_
  have hsafe := b.safe
  unfold maxSafeInteger at hsafe
  omega

theorem parsePairing_pairingOf :
    (∃ parsed, BrowserExtension.parsePairing (pairingJson (pairingOf origin nonce document tab window)) = .ok parsed) ↔
      utf8Length origin.text ≤ 91 := by
  have hdocumentId := utf8Length_documentId origin document
  unfold BrowserExtension.parsePairing
  simp only [bind_eq_ok, BrowserExtension.boundedString_eq_ok]
  constructor
  · rintro ⟨parsed, _, -, _, -, _, -, _, -, documentId, ⟨hdocument, -, hbound⟩, -⟩
    cases hdocument
    simp only [pairingOf] at hbound
    omega
  · intro horigin
    refine ⟨_, nonce.text, ⟨rfl, nonce.text_ne_empty, ?_⟩, tab.id, positiveId_browserId tab rfl, window.id,
      positiveId_browserId window rfl, origin.text, ⟨rfl, origin.text_ne_empty, by omega⟩, _,
      ⟨rfl, documentId_ne_empty origin document, Nat.le_trans (Nat.le_of_eq hdocumentId) (by omega)⟩, rfl⟩
    rw [nonce.utf8Length_text]
    decide

/-- The Host takes the hello of a pairing exactly when the document id, the extension id and the version fit its
    bounds in bytes. -/
theorem parseExtensionHello_buildHello {extensionId version invocationOrigin : String} {hello : Json}
    (hhello : buildHello (pairingOf origin nonce document tab window) extensionId version = .ok hello)
    (hinvocation : BrowserExtension.invocationMatchesExtension invocationOrigin extensionId = true) :
    (∃ parsed, BrowserExtension.parseExtensionHello hello invocationOrigin = .ok parsed) ↔
      utf8Length origin.text ≤ 91 ∧ utf8Length extensionId ≤ 128 ∧ utf8Length version ≤ 64 := by
  simp only [buildHello, bind_eq_ok, boundedString_str_eq_ok] at hhello
  obtain ⟨_, ⟨rfl, hid, -⟩, _, ⟨rfl, hversion, -⟩, hhello⟩ := hhello
  cases hhello
  simp only [BrowserExtension.parseExtensionHello, bind_eq_ok, BrowserExtension.boundedString_eq_ok]
  constructor
  · rintro ⟨parsed, _, -, _, -, _, -, _, -, _, -, id, ⟨hidField, -, hidBound⟩, ver, ⟨hverField, -, hverBound⟩, _, -, _, -,
      _, -, pairing, hpairing, -⟩
    cases hidField
    cases hverField
    exact ⟨(parsePairing_pairingOf origin nonce document tab window).mp ⟨pairing, hpairing⟩, hidBound, hverBound⟩
  · rintro ⟨horigin, hidBound, hverBound⟩
    obtain ⟨pairing, hpairing⟩ := (parsePairing_pairingOf origin nonce document tab window).mpr horigin
    refine ⟨_, (), rfl, (), rfl, (), rfl, (), rfl, (), rfl, _, ⟨rfl, hid, hidBound⟩, _, ⟨rfl, hversion, hverBound⟩, (), ?_,
      (), rfl, _, rfl, pairing, hpairing, rfl⟩
    exact require_eq_ok.mpr hinvocation

end Hello

/-- The Host takes a success response exactly when its request id fits the bound in bytes. -/
theorem validateExtensionResponse_successResponse (requestId : String) (result : Json) :
    BrowserExtension.validateExtensionResponse (successResponse requestId result) = .ok () ↔
      requestId ≠ "" ∧ utf8Length requestId ≤ 128 := by
  simp only [BrowserExtension.validateExtensionResponse, bind_eq_ok, BrowserExtension.boundedString_eq_ok]
  constructor
  · rintro ⟨_, -, _, ⟨hfield, hbound⟩, -⟩
    cases hfield
    exact hbound
  · intro hbound
    exact ⟨(), rfl, requestId, ⟨rfl, hbound⟩, rfl⟩

/-- The Host takes an error response exactly when its request id and its texts fit the bounds in bytes. -/
theorem validateExtensionResponse_errorResponse {requestId response : Json} {code message : String}
    (hresponse : errorResponse requestId code message = .ok response) :
    BrowserExtension.validateExtensionResponse response = .ok () ↔
      (errorRequestId requestId ≠ "" ∧ utf8Length (errorRequestId requestId) ≤ 128) ∧ utf8Length code ≤ 64 ∧
        utf8Length message ≤ 256 := by
  simp only [errorResponse, bind_eq_ok, boundedString_str_eq_ok] at hresponse
  obtain ⟨_, ⟨rfl, hcode, -⟩, _, ⟨rfl, hmessage, -⟩, hresponse⟩ := hresponse
  injection hresponse with hresponse
  have hok : (response.get "ok").asBool = some false := by rw [← hresponse]; rfl
  simp only [BrowserExtension.validateExtensionResponse, hok, bind_eq_ok, BrowserExtension.boundedString_eq_ok]
  subst hresponse
  constructor
  · rintro ⟨_, -, _, ⟨hfield, hbound⟩, _, -, _, -, _, ⟨hcodeField, -, hcodeBound⟩, _, ⟨hmessageField, -, hmessageBound⟩, -⟩
    cases hfield
    cases hcodeField
    cases hmessageField
    exact ⟨hbound, hcodeBound, hmessageBound⟩
  · rintro ⟨hbound, hcodeBound, hmessageBound⟩
    exact ⟨(), rfl, _, ⟨rfl, hbound⟩, (), rfl, (), rfl, _, ⟨rfl, hcode, hcodeBound⟩, _, ⟨rfl, hmessage, hmessageBound⟩, trivial⟩

/-- Which messages of the extension the Host takes. An origin stands in the document id too, which leaves it 91 bytes;
    a request id is repeated in an error response even when it is empty. -/
theorem host_accepts_messages_iff (origin : TabOrigin) (nonce document : RandomUUID) (tab window : BrowserId)
    (extensionId version invocationOrigin : String) (hello : Json)
    (hhello : buildHello (pairingOf origin nonce document tab window) extensionId version = .ok hello)
    (hinvocation : BrowserExtension.invocationMatchesExtension invocationOrigin extensionId = true) :
    ((∃ parsed, BrowserExtension.parseExtensionHello hello invocationOrigin = .ok parsed) ↔
      utf8Length origin.text ≤ 91 ∧ utf8Length extensionId ≤ 128 ∧ utf8Length version ≤ 64) ∧
    (∀ requestId result, BrowserExtension.validateExtensionResponse (successResponse requestId result) = .ok () ↔
      requestId ≠ "" ∧ utf8Length requestId ≤ 128) ∧
    (∀ requestId code message response, errorResponse requestId code message = .ok response →
      (BrowserExtension.validateExtensionResponse response = .ok () ↔
        (errorRequestId requestId ≠ "" ∧ utf8Length (errorRequestId requestId) ≤ 128) ∧ utf8Length code ≤ 64 ∧
          utf8Length message ≤ 256)) := by
  refine ⟨parseExtensionHello_buildHello origin nonce document tab window hhello hinvocation, ?_, ?_⟩
  · intro requestId result
    exact validateExtensionResponse_successResponse requestId result
  · intro requestId code message response hresponse
    exact validateExtensionResponse_errorResponse hresponse

def sampleUUID : RandomUUID where
  text := "01234567-89ab-4cde-8f01-23456789abcd"
  length := by decide
  digits :=
    have hall : ("01234567-89ab-4cde-8f01-23456789abcd".toList.all fun c => "0123456789abcdef-".toList.contains c) = true := by
      decide
    fun c hc => List.contains_iff_mem.mp (List.all_eq_true.mp hall c hc)

def sampleOrigin : TabOrigin := ⟨"https://example.com", by decide⟩

/-- The host name has 84 characters in five labels. -/
def longOrigin : TabOrigin :=
  ⟨"https://assets-preview-7f3c2.render-pipeline-staging-eu.studio-tools.example-productions.com", by decide⟩

def sampleTab : BrowserId := ⟨7, by decide, by decide⟩

def sampleHello (origin : TabOrigin) : Json :=
  .obj [("schema", .str protocolSchema), ("type", .str "hello"),
    ("protocol", .obj [("min", .int 1), ("max", .int 1)]),
    ("extension", .obj [("id", .str "abcdefghijklmnop"), ("version", .str "0.3.1")]),
    ("capabilities", .arr [.str "explicit_tab_pairing_v1", .str "semantic_snapshot_v1", .str "dom_click_v1",
      .str "dom_replace_text_v1", .str "tab_navigation_v1"]),
    ("pairing", pairingJson (pairingOf origin sampleUUID sampleUUID sampleTab sampleTab))]

theorem host_accepts_messages_sample :
    (∃ parsed, BrowserExtension.parseExtensionHello (sampleHello sampleOrigin) "chrome-extension://abcdefghijklmnop/" =
      .ok parsed) ∧
    BrowserExtension.validateExtensionResponse (successResponse "r-1" (.obj [])) = .ok () := by
  obtain ⟨hhello, hsuccess, -⟩ := host_accepts_messages_iff sampleOrigin sampleUUID sampleUUID sampleTab sampleTab
    "abcdefghijklmnop" "0.3.1" "chrome-extension://abcdefghijklmnop/" (sampleHello sampleOrigin) rfl (by decide)
  exact ⟨hhello.mpr (by decide), (hsuccess "r-1" (.obj [])).mpr (by decide)⟩

/-- The Host refuses the hello of a tab whose origin has 92 bytes, for its document id. -/
theorem long_origin_hello_refused :
    buildHello (pairingOf longOrigin sampleUUID sampleUUID sampleTab sampleTab) "abcdefghijklmnop" "0.3.1" =
      .ok (sampleHello longOrigin) ∧
    BrowserExtension.invocationMatchesExtension "chrome-extension://abcdefghijklmnop/" "abcdefghijklmnop" = true ∧
    BrowserExtension.parseExtensionHello (sampleHello longOrigin) "chrome-extension://abcdefghijklmnop/" =
      .error "browser extension document_id must contain 1..128 characters" := by
  exact ⟨rfl, by decide, by decide +kernel⟩

end Extension
end DccCua
