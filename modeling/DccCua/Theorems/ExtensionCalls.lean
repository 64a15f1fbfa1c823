import DccCua.Host.ExtensionCalls
import DccCua.Theorems.ExtensionRequests

/-! # Which calls of the Host the extension takes

A command that the Host queues has passed the checks of the Host, and what the relay sends of it is checked once
more by the extension. The Host looks at no other params than those it needs and counts a typed text in scalar
values; the extension refuses unknown fields and counts UTF-16 units. -/

namespace DccCua
namespace BrowserExtension

open Checks Unicode

/-! ### What the checks of the Host give -/

theorem claim_eq_ok {provider claimed : Provider} {pid hwnd : Nat} {origin taskCapability : String}
    (h : claim provider pid hwnd origin taskCapability = .ok claimed) :
    claimed.hello = provider.hello ∧ ∃ owner, claimed.owner = some owner := by
  simp only [claim, bind_eq_ok] at h
  obtain ⟨_, -, _, -, h⟩ := h
  cases h
  exact ⟨rfl, _, rfl⟩

theorem callCommand_eq_ok {sha256 : String → String} {provider : Provider} {method requestId : String} {params command : Json}
    {deadline : Nat} (h : callCommand sha256 provider method params requestId deadline = .ok command) :
    ∃ fields, params = .obj fields ∧ (∀ name ∈ forbiddenParams, name ∉ Json.keys fields) ∧
      command = .obj (Json.insertAll (boundFields sha256 provider method requestId deadline) fields) := by
  unfold callCommand at h
  split at h
  · rename_i fields
    split at h
    · cases h
    · rename_i hforbidden
      refine ⟨fields, rfl, ?_, ?_⟩
      · intro name hname hmem
        have := List.find?_eq_none.mp hforbidden name hname
        simp [hmem] at this
      · injection h with h
        exact h.symm
  · cases h

theorem sameStr_iff {a b : Json} : sameStr a b = true ↔ ∃ text, a = .str text ∧ b = .str text := by
  cases a <;> cases b <;> simp [sameStr, Json.asStr, eq_comm]

theorem isBounded_iff {value : Json} {maximum : Nat} :
    isBounded value maximum = true ↔ ∃ text, value = .str text ∧ text ≠ "" ∧ utf8Length text ≤ maximum := by
  cases value <;> simp [isBounded, Json.asStr]

theorem checkRefs_bounded : ∀ {nodes : List Json} {ids : List String}, checkRefs nodes ids = .ok () →
    ∀ node ∈ nodes, ∃ id, node.get "ref" = .str id ∧ id ≠ "" ∧ utf8Length id ≤ 128
  | node :: nodes, ids, h, other, hmem => by
    unfold checkRefs at h
    cases hid : node.get "ref" with
    | str id =>
      simp only [hid, Json.asStr, bind_eq_ok, require_eq_ok, Bool.and_eq_true, decide_eq_true_eq] at h
      obtain ⟨_, hbound, _, -, hrest⟩ := h
      rcases List.mem_cons.mp hmem with rfl | hmem
      · exact ⟨id, hid, hbound⟩
      · exact checkRefs_bounded hrest other hmem
    | null => simp [hid, Json.asStr] at h
    | bool _ => simp [hid, Json.asStr] at h
    | int _ => simp [hid, Json.asStr] at h
    | real _ => simp [hid, Json.asStr] at h
    | arr _ => simp [hid, Json.asStr] at h
    | obj _ => simp [hid, Json.asStr] at h

/-- The identity of a checked snapshot is bounded, and so are its refs. -/
theorem checkSnapshot_eq_ok {origin : String} {snapshot : Json} (h : checkSnapshot origin snapshot = .ok ()) :
    (∃ id, snapshot.get "snapshot_id" = .str id ∧ id ≠ "" ∧ utf8Length id ≤ 128) ∧
      ∀ node ∈ (snapshot.get "refs").asArray.getD [], ∃ id, node.get "ref" = .str id ∧ id ≠ "" ∧ utf8Length id ≤ 128 := by
  unfold checkSnapshot at h
  split at h
  · cases h
  · rename_i refs hrefs
    simp only [bind_eq_ok, require_eq_ok, Bool.and_eq_true] at h
    obtain ⟨_, ⟨⟨-, hid⟩, -⟩, hnodes⟩ := h
    refine ⟨isBounded_iff.mp hid, ?_⟩
    rw [hrefs]
    exact checkRefs_bounded hnodes

/-- A text of 1 to `maximum` bytes under a name. -/
def HasText (params : Json) (name : String) (maximum : Nat) : Prop :=
  ∃ text, params.get name = .str text ∧ text ≠ "" ∧ utf8Length text ≤ maximum

section
variable {parseUrl : String → Option HostUrl} {sha256 : String → String} {provider origin method : String}
  {params action : Json}

theorem navigateAction_eq_ok (h : navigateAction parseUrl sha256 provider origin params = .ok action) :
    ∃ fields target url, params = .obj fields ∧ fields.length = 2 ∧ params.get "url" = .str target ∧ target ≠ "" ∧
      utf8Length target ≤ 2048 ∧ parseUrl target = some url ∧ (url.scheme = "http" ∨ url.scheme = "https") ∧
      url.username = "" ∧ url.password = none := by
  unfold navigateAction at h
  split at h
  · rename_i fields
    split at h
    · rename_i hlength
      split at h
      · rename_i target htarget
        split at h
        · rename_i hbound
          split at h
          · cases h
          · rename_i url hurl
            simp only [bind_eq_ok, require_eq_ok, Bool.and_eq_true, Bool.or_eq_true, decide_eq_true_eq,
              Option.isNone_iff_eq_none] at h
            obtain ⟨_, ⟨⟨⟨hscheme, huser⟩, hpassword⟩, -⟩, -⟩ := h
            refine ⟨fields, target, url, rfl, hlength, ?_, hbound.1, hbound.2, hurl, hscheme, huser, hpassword⟩
            cases hget : (Json.obj fields).get "url" <;> simp [hget, Json.asStr] at htarget
            rw [htarget]
        · cases h
      · cases h
    · cases h
  · cases h

theorem nodeAction_eq_ok {snapshot : Json} (h : nodeAction sha256 snapshot provider origin method params = .ok action)
    (hrefs : ∀ node ∈ (snapshot.get "refs").asArray.getD [],
      ∃ id, node.get "ref" = .str id ∧ id ≠ "" ∧ utf8Length id ≤ 128) :
    HasText params "ref" 128 ∧
      (method = "type" → params.get "replace" = .bool true ∧ ∃ text, params.get "text" = .str text ∧ text.length ≤ 4096) := by
  unfold nodeAction at h
  split at h
  · cases h
  · rename_i node hnode
    simp only [bind_eq_ok, require_eq_ok] at h
    obtain ⟨_, -, _, htype, -⟩ := h
    have hsame := List.find?_some hnode
    obtain ⟨id, hid, hbound⟩ := hrefs node (List.mem_of_find?_eq_some hnode)
    obtain ⟨text, htext, hparam⟩ := sameStr_iff.mp hsame
    rw [hid] at htext
    cases htext
    refine ⟨⟨id, hparam, hbound⟩, ?_⟩
    rintro rfl
    simp only [ne_eq, not_true_eq_false, decide_false, Bool.false_or, Bool.and_eq_true, decide_eq_true_eq] at htype
    obtain ⟨⟨-, hreplace⟩, htext⟩ := htype
    constructor
    · cases hget : params.get "replace" <;> simp [hget, Json.asBool] at hreplace
      rw [hreplace]
    · cases hget : params.get "text" <;> simp [hget, Json.asStr] at htext
      exact ⟨_, rfl, htext⟩

end

/-- What the Host has checked of the params of a queued call. -/
structure CheckedParams (parseUrl : String → Option HostUrl) (method : String) (params : Json) : Prop where
  supported : method ∈ ["snapshot", "click", "type", "navigate"]
  snapshotId : method ≠ "snapshot" → HasText params "snapshot_id" 128
  navigate : method = "navigate" → ∃ fields target url, params = .obj fields ∧ fields.length = 2 ∧
    params.get "url" = .str target ∧ target ≠ "" ∧ utf8Length target ≤ 2048 ∧ parseUrl target = some url ∧
    (url.scheme = "http" ∨ url.scheme = "https") ∧ url.username = "" ∧ url.password = none
  ref : method = "click" ∨ method = "type" → HasText params "ref" 128
  type : method = "type" →
    params.get "replace" = .bool true ∧ ∃ text, params.get "text" = .str text ∧ text.length ≤ 4096

section
variable {parseUrl : String → Option HostUrl} {sha256 : String → String} {host : HostSession} {around : Surroundings}
  {provider : Provider} {request : BrowserExtensionCall} {requestId : String} {command : Json}

theorem authorizeInput_checked (hmethod : request.method ∈ ["snapshot", "click", "type", "navigate"])
    (h : authorizeInput parseUrl sha256 host around request = .ok ()) :
    CheckedParams parseUrl request.method request.params := by
  unfold authorizeInput at h
  simp only [bind_eq_ok] at h
  obtain ⟨_, -, _, -, h⟩ := h
  split at h
  · cases h
  · rename_i observation hobservation
    simp only [bind_eq_ok, ExtensionObservation.action, require_eq_ok, Bool.and_eq_true] at h
    obtain ⟨action, ⟨_, ⟨-, hsnapshot⟩, haction⟩, -⟩ := h
    obtain ⟨⟨id, hid, hbound⟩, hrefs⟩ := checkSnapshot_eq_ok observation.checked
    obtain ⟨text, hparam, htext⟩ := sameStr_iff.mp hsnapshot
    rw [hid] at htext
    cases htext
    split at haction
    · rename_i hnavigate
      refine ⟨hmethod, fun _ => ⟨id, hparam, hbound⟩, fun _ => navigateAction_eq_ok haction, ?_, ?_⟩
      · rintro (h | h)
        · exact absurd (hnavigate.symm.trans h) (by decide)
        · exact absurd (hnavigate.symm.trans h) (by decide)
      · intro h
        exact absurd (hnavigate.symm.trans h) (by decide)
    · rename_i hnavigate
      obtain ⟨href, htype⟩ := nodeAction_eq_ok haction hrefs
      exact ⟨hmethod, fun _ => ⟨id, hparam, hbound⟩, fun h => absurd h hnavigate, fun _ => href, htype⟩

theorem saturatingAdd_pos {a b : Nat} (hb : 0 < b) : 0 < saturatingAdd a b := by
  unfold saturatingAdd u64Max
  omega

/-- A queued command is made of checked params by a provider that a task owns. -/
theorem queuedCommand_eq_ok (h : queuedCommand parseUrl sha256 host around provider request requestId = .ok command) :
    CheckedParams parseUrl request.method request.params ∧ 0 < callDeadline host around request ∧
      ∃ claimed owner, claimed.hello = provider.hello ∧ claimed.owner = some owner ∧
        callCommand sha256 claimed request.method request.params requestId (callDeadline host around request) =
          .ok command := by
  simp only [queuedCommand, bind_eq_ok, require_eq_ok, onlyIf_eq_ok, decide_eq_true_eq] at h
  obtain ⟨_, -, _, -, _, -, _, hmethod, _, -, claimed, hclaim, _, -, _, hinput, _, hcall, hcommand⟩ := h
  obtain ⟨hhello, owner, howner⟩ := claim_eq_ok hclaim
  simp only [checkCall, bind_eq_ok, require_eq_ok, Bool.and_eq_true, decide_eq_true_eq] at hcall
  obtain ⟨_, ⟨htimeout, -⟩, -⟩ := hcall
  refine ⟨?_, saturatingAdd_pos htimeout, claimed, owner, hhello, howner, hcommand⟩
  by_cases hsnapshot : request.method = "snapshot"
  · refine ⟨hmethod, fun h => absurd hsnapshot h, ?_, ?_, ?_⟩
    · intro h
      exact absurd (hsnapshot.symm.trans h) (by decide)
    · rintro (h | h)
      · exact absurd (hsnapshot.symm.trans h) (by decide)
      · exact absurd (hsnapshot.symm.trans h) (by decide)
    · intro h
      exact absurd (hsnapshot.symm.trans h) (by decide)
  · exact authorizeInput_checked hmethod (hinput hsnapshot)

end

/-! ### What the relay sends -/

/-- The fields that the relay sends for the params `fields`: those of the Host and the params themselves. -/
structure Relayed (provider : Provider) (method requestId : String) (deadline : Nat) (fields body : List (String × Json)) :
    Prop where
  schema : (Json.obj body).get "schema" = .str extensionSchema
  id : (Json.obj body).get "request_id" = .str requestId
  name : (Json.obj body).get "method" = .str method
  nonce : (Json.obj body).get "session_nonce" = .str provider.pairing.sessionNonce
  tab : (Json.obj body).get "tab_id" = .int provider.pairing.tabId
  expires : method = "navigate" → (Json.obj body).get "deadline_unix_ms" = .int deadline
  param : ∀ name, name ∉ forbiddenParams → (Json.obj body).get name = (Json.obj fields).get name
  keys : ∀ key, key ∈ Json.keys body ↔ key ∈ Json.keys fields ∨ key ∈ Extension.commonKeys ∨
    (method = "navigate" ∧ key = "deadline_unix_ms")

section
variable {sha256 : String → String} {provider : Provider} {method requestId owner : String} {deadline : Nat}
  {fields : List (String × Json)}

theorem keys_boundFields_nodup : (Json.keys (boundFields sha256 provider method requestId deadline)).Nodup := by
  unfold boundFields
  split <;> split <;> simp [Json.keys]

theorem keys_boundFields (howner : provider.owner = some owner) {key : String} :
    key ∈ Json.keys (boundFields sha256 provider method requestId deadline) ↔
      key ∈ Extension.commonKeys ∨ key = "_dcc_deadline_unix_ms" ∨ (method = "navigate" ∧ key = "deadline_unix_ms") ∨
        key = "_dcc_task_owner" := by
  unfold boundFields
  rw [howner]
  by_cases hmethod : method = "navigate"
  · simp [hmethod, Json.keys, Extension.commonKeys, or_assoc]
  · simp [hmethod, Json.keys, Extension.commonKeys, or_assoc]

/-- The fields of the command without the private ones. -/
def sentFields (bound fields : List (String × Json)) : List (String × Json) :=
  Json.remove "_dcc_deadline_unix_ms" (Json.remove "_dcc_task_owner" (Json.insertAll bound fields))

theorem sentFields_get {bound : List (String × Json)} {name : String} (howner : name ≠ "_dcc_task_owner")
    (hdeadline : name ≠ "_dcc_deadline_unix_ms") :
    (Json.obj (sentFields bound fields)).get name = (Json.lookup name (Json.insertAll bound fields)).getD .null := by
  rw [Json.get, Json.field?, sentFields, Json.lookup_remove_ne hdeadline, Json.lookup_remove_ne howner]

theorem sentFields_get_bound {name : String} {value : Json} (howner : name ≠ "_dcc_task_owner")
    (hdeadline : name ≠ "_dcc_deadline_unix_ms")
    (hmem : (name, value) ∈ boundFields sha256 provider method requestId deadline) :
    (Json.obj (sentFields (boundFields sha256 provider method requestId deadline) fields)).get name = value := by
  rw [sentFields_get howner hdeadline, Json.lookup_insertAll _ _ keys_boundFields_nodup hmem]
  rfl

theorem sentFields_get_param (howner : provider.owner = some owner) {name : String} (hname : name ∉ forbiddenParams) :
    (Json.obj (sentFields (boundFields sha256 provider method requestId deadline) fields)).get name =
      (Json.obj fields).get name := by
  have hnot : name ∉ Json.keys (boundFields sha256 provider method requestId deadline) := by
    rw [keys_boundFields howner]
    simp only [forbiddenParams, List.mem_cons, List.not_mem_nil, or_false, not_or] at hname
    simp [Extension.commonKeys, hname]
  have hprivate : ∀ other ∈ forbiddenParams, name ≠ other := fun other hother heq => hname (heq ▸ hother)
  rw [sentFields_get (hprivate _ (by decide)) (hprivate _ (by decide)), Json.lookup_insertAll_ne _ _ hnot]
  rfl

theorem keys_sentFields (howner : provider.owner = some owner)
    (hforbidden : ∀ name ∈ forbiddenParams, name ∉ Json.keys fields) {key : String} :
    key ∈ Json.keys (sentFields (boundFields sha256 provider method requestId deadline) fields) ↔
      key ∈ Json.keys fields ∨ key ∈ Extension.commonKeys ∨ (method = "navigate" ∧ key = "deadline_unix_ms") := by
  rw [sentFields, Json.keys_remove, Json.keys_remove, Json.keys_insertAll, keys_boundFields howner]
  constructor
  · rintro ⟨⟨(h | h | h | h) | h, hne⟩, hne'⟩
    · exact Or.inr (Or.inl h)
    · exact absurd h hne'
    · exact Or.inr (Or.inr h)
    · exact absurd h hne
    · exact Or.inl h
  · rintro (h | h | h)
    · have hprivate : ∀ name ∈ forbiddenParams, key ≠ name := fun name hname heq => hforbidden name hname (heq ▸ h)
      exact ⟨⟨Or.inr h, hprivate _ (by decide)⟩, hprivate _ (by decide)⟩
    · refine ⟨⟨Or.inl (Or.inl h), ?_⟩, ?_⟩
      · rintro rfl
        exact absurd h (by decide)
      · rintro rfl
        exact absurd h (by decide)
    · obtain ⟨hmethod, rfl⟩ := h
      exact ⟨⟨Or.inl (Or.inr (Or.inr (Or.inl ⟨hmethod, rfl⟩))), by decide⟩, by decide⟩

theorem relayBody_sent (howner : provider.owner = some owner) (hdeadline : deadline < 2 ^ 64) :
    relayBody (.obj (Json.insertAll (boundFields sha256 provider method requestId deadline) fields)) =
      some (.obj (sentFields (boundFields sha256 provider method requestId deadline) fields)) := by
  have howned : Json.lookup "_dcc_task_owner"
      (Json.insertAll (boundFields sha256 provider method requestId deadline) fields) = some (.str (sha256 owner)) :=
    Json.lookup_insertAll _ _ keys_boundFields_nodup (by simp [boundFields, howner])
  have hexpires : Json.lookup "_dcc_deadline_unix_ms"
      (Json.insertAll (boundFields sha256 provider method requestId deadline) fields) = some (.int deadline) :=
    Json.lookup_insertAll _ _ keys_boundFields_nodup (by simp [boundFields])
  simp only [relayBody, Json.get, Json.field?, howned, hexpires, Option.getD_some, Json.asStr, Json.asU64_natCast hdeadline]
  rfl

theorem relayBody_callCommand (howner : provider.owner = some owner) (hdeadline : deadline < 2 ^ 64)
    (hforbidden : ∀ name ∈ forbiddenParams, name ∉ Json.keys fields) :
    ∃ body, relayBody (.obj (Json.insertAll (boundFields sha256 provider method requestId deadline) fields)) =
      some (.obj body) ∧ Relayed provider method requestId deadline fields body := by
  refine ⟨_, relayBody_sent howner hdeadline, ?_⟩
  refine ⟨?_, ?_, ?_, ?_, ?_, ?_, fun name hname => sentFields_get_param howner hname,
    fun key => keys_sentFields howner hforbidden⟩
  · exact sentFields_get_bound (by decide) (by decide) (by simp [boundFields])
  · exact sentFields_get_bound (by decide) (by decide) (by simp [boundFields])
  · exact sentFields_get_bound (by decide) (by decide) (by simp [boundFields])
  · exact sentFields_get_bound (by decide) (by decide) (by simp [boundFields])
  · exact sentFields_get_bound (by decide) (by decide) (by simp [boundFields])
  · intro hmethod
    exact sentFields_get_bound (by decide) (by decide) (by simp [boundFields, hmethod])

end

/-! ### What the extension takes -/

/-- The session nonce of a provider is bounded and its tab positive. -/
theorem Provider.pairing_bounded (provider : Provider) :
    Extension.Bounded provider.pairing.sessionNonce 64 ∧ 0 < provider.pairing.tabId := by
  obtain ⟨message, haccepted⟩ := provider.accepted
  simp only [parseExtensionHello, parsePairing, bind_eq_ok, boundedString_eq_ok] at haccepted
  obtain ⟨_, -, _, -, _, -, _, -, _, -, _, -, _, -, _, -, _, -, _, -, pairing, ⟨nonce, ⟨-, hne, hbound⟩, tab, htab, _, -, _, -,
    _, -, hpairing⟩, hhello⟩ := haccepted
  cases hpairing
  have htabPos : 0 < tab := by
    unfold positiveId at htab
    split at htab
    · split at htab
      · rename_i hpos
        cases htab
        exact hpos
      · cases htab
    · cases htab
  injection hhello with hhello
  rw [Provider.pairing, ← hhello]
  exact ⟨⟨hne, Nat.le_trans (utf16Length_le_utf8Length nonce) hbound⟩, htabPos⟩

def paramKeys : Json → List String
  | .obj fields => Json.keys fields
  | _ => []

/-- What the extension wants of a call beyond the checks of the Host: a tab id and, for a navigation, a deadline that a
    JavaScript number holds, no other params than those of the method, `max_nodes` in its range and a typed text of at
    most 4096 UTF-16 units. -/
def ExtensionTakes (provider : Provider) (deadline : Nat) (method : String) (params : Json) : Prop :=
  provider.pairing.tabId ≤ Extension.maxSafeInteger ∧
    (method = "snapshot" → (∀ key ∈ paramKeys params, key = "max_nodes") ∧ (params.get "max_nodes" = .null ∨
      ∃ n : Nat, Extension.safeInteger? (params.get "max_nodes") = some (n : Int) ∧ 1 ≤ n ∧ n ≤ 300)) ∧
    (method = "click" → ∀ key ∈ paramKeys params, key ∈ ["snapshot_id", "ref"]) ∧
    (method = "type" → (∀ key ∈ paramKeys params, key ∈ ["snapshot_id", "ref", "text", "replace"]) ∧
      ∀ text, params.get "text" = .str text → utf16Length text ≤ 4096) ∧
    (method = "navigate" → deadline ≤ Extension.maxSafeInteger)

/-- Both URL parsers follow the URL Standard: what the Host parses the browser parses to the same parts. -/
def SameUrls (hostUrl : String → Option HostUrl) (browserUrl : String → Option Extension.Url) : Prop :=
  ∀ text url, hostUrl text = some url → ∃ other, browserUrl text = some other ∧ other.protocol = url.scheme ++ ":" ∧
    other.username = url.username ∧ other.password = url.password.getD ""

theorem navigationUrl_of_host {hostUrl : String → Option HostUrl} {browserUrl : String → Option Extension.Url}
    {target : String} {url : HostUrl} (hurls : SameUrls hostUrl browserUrl) (hurl : hostUrl target = some url)
    (hne : target ≠ "") (hbound : utf8Length target ≤ 2048) (hscheme : url.scheme = "http" ∨ url.scheme = "https")
    (huser : url.username = "") (hpassword : url.password = none) :
    ∃ other, Extension.navigationUrl browserUrl (.str target) = .ok other := by
  obtain ⟨other, hother, hprotocol, hotherUser, hotherPassword⟩ := hurls target url hurl
  refine ⟨other, ?_⟩
  simp only [Extension.navigationUrl, bind_eq_ok, Extension.boundedString_eq_ok]
  refine ⟨target, ⟨rfl, hne, Nat.le_trans (utf16Length_le_utf8Length target) hbound⟩, ?_⟩
  rw [hother]
  simp only [bind_eq_ok, require_eq_ok]
  refine ⟨(), ?_, trivial⟩
  rw [hprotocol, hotherUser, hotherPassword, huser, hpassword]
  rcases hscheme with h | h
  · rw [h]
    decide
  · rw [h]
    decide

/-- Two distinct names that a list of two fields has are all its names. -/
theorem keys_of_two {fields : List (String × Json)} {a b : String} (hlength : fields.length = 2) (hne : a ≠ b)
    (ha : a ∈ Json.keys fields) (hb : b ∈ Json.keys fields) : ∀ key ∈ Json.keys fields, key = a ∨ key = b := by
  obtain ⟨first, second, rfl⟩ := List.length_eq_two.mp hlength
  simp only [Json.keys, List.map_cons, List.map_nil, List.mem_cons, List.not_mem_nil, or_false] at ha hb ⊢
  rintro key (rfl | rfl)
  · rcases ha with ha | ha
    · exact Or.inl ha.symm
    · rcases hb with hb | hb
      · exact Or.inr hb.symm
      · exact absurd (ha.trans hb.symm) hne
  · rcases ha with ha | ha
    · rcases hb with hb | hb
      · exact absurd (ha.trans hb.symm) hne
      · exact Or.inr hb.symm
    · exact Or.inl ha.symm

section
variable {browserUrl : String → Option Extension.Url} {provider : Provider} {requestId : Extension.RandomUUID}
  {deadline : Nat} {fields body : List (String × Json)} {method : Extension.NativeMethod}

/-- The request that the extension sees. -/
def requestBase (provider : Provider) (requestId : Extension.RandomUUID) : Extension.PairedRequestBase :=
  ⟨requestId.text, provider.pairing.sessionNonce, provider.pairing.tabId⟩

theorem requestId_bounded (requestId : Extension.RandomUUID) :
    Extension.Bounded requestId.text Extension.maxRequestIdChars := by
  refine ⟨requestId.text_ne_empty, ?_⟩
  have hunits := utf16Length_le_utf8Length requestId.text
  rw [requestId.utf8Length_text] at hunits
  exact Nat.le_trans hunits (by decide)

variable (method)

/-- The common fields pass when a JavaScript number holds the tab id; what is left are the names of the fields. -/
theorem addressed_iff (h : Relayed provider method.name requestId.text deadline fields body) :
    Extension.Addressed body method (requestBase provider requestId) ↔
      provider.pairing.tabId ≤ Extension.maxSafeInteger ∧
        ∀ key ∈ Json.keys body, key ∈ Extension.commonKeys ++ method.keys := by
  obtain ⟨hnonce, htab⟩ := provider.pairing_bounded
  constructor
  · intro haddressed
    refine ⟨?_, haddressed.known⟩
    have := haddressed.tabId
    rw [h.tab] at this
    exact (Extension.positiveInteger_int.mp this).2
  · rintro ⟨hsafe, hknown⟩
    refine ⟨h.schema, h.id, ?_, h.nonce, ?_, hknown, requestId_bounded requestId, hnonce⟩
    · rw [h.name]
      exact Extension.nativeMethod_name method
    · rw [h.tab]
      exact Extension.positiveInteger_int.mpr ⟨htab, hsafe⟩

/-- The names of the fields pass when the method has all params. -/
theorem known_iff (h : Relayed provider method.name requestId.text deadline fields body)
    (hforbidden : ∀ name ∈ forbiddenParams, name ∉ Json.keys fields) :
    (∀ key ∈ Json.keys body, key ∈ Extension.commonKeys ++ method.keys) ↔ ∀ key ∈ Json.keys fields, key ∈ method.keys := by
  constructor
  · intro hknown key hkey
    rcases List.mem_append.mp (hknown key ((h.keys key).mpr (Or.inl hkey))) with hcommon | hmethod
    · have hprotected : ∀ name ∈ Extension.commonKeys, name ∈ forbiddenParams := by decide
      exact absurd hkey (hforbidden key (hprotected key hcommon))
    · exact hmethod
  · intro hparams key hkey
    rcases (h.keys key).mp hkey with hparam | hcommon | ⟨hname, rfl⟩
    · exact List.mem_append_right _ (hparams key hparam)
    · exact List.mem_append_left _ hcommon
    · have hnavigate : method = .navigate := by
        cases method with
        | navigate => rfl
        | ping => exact absurd hname (by decide)
        | snapshot => exact absurd hname (by decide)
        | click => exact absurd hname (by decide)
        | type => exact absurd hname (by decide)
        | unpair => exact absurd hname (by decide)
      subst hnavigate
      decide

/-- A method with a command in the tab: the extension takes the body when its common fields pass and the arguments of
    the method do. -/
theorem accepted_iff (h : Relayed provider method.name requestId.text deadline fields body)
    (hcommand : ∀ base native, Extension.pairedRequest browserUrl (.obj body) base method = .ok native → native.HasCommand)
    (hping : method ≠ .ping) :
    (∃ native content, Extension.validateNativeRequest browserUrl (.obj body) = .ok native ∧
      Extension.contentCommandFromNative native = some (.ok content)) ↔
    Extension.Addressed body method (requestBase provider requestId) ∧
      ∃ native, Extension.pairedRequest browserUrl (.obj body) (requestBase provider requestId) method = .ok native := by
  constructor
  · rintro ⟨native, content, hvalidate, hcontent⟩
    rcases Extension.validateNativeRequest_eq_ok.mp hvalidate with ⟨_, rfl, -⟩ | ⟨other, base, -, haddressed, hpaired⟩
    · cases hcontent
    · have hmethod : other = method := by
        have := haddressed.name
        rw [h.name, Extension.nativeMethod_name] at this
        injection this with this
        exact this.symm
      subst hmethod
      have hbase : base = requestBase provider requestId := by
        obtain ⟨id, nonce, tab⟩ := base
        have hid := h.id.symm.trans haddressed.requestId
        have hnonce := h.nonce.symm.trans haddressed.sessionNonce
        have htab := haddressed.tabId
        rw [h.tab] at htab
        cases hid
        cases hnonce
        rw [requestBase, Extension.positiveInteger_int_eq htab]
      subst hbase
      exact ⟨haddressed, native, hpaired⟩
  · rintro ⟨haddressed, native, hpaired⟩
    obtain ⟨content, hcontent⟩ := Extension.contentCommandFromNative_valid
      (Extension.pairedRequest_valid haddressed.base_valid hpaired) (hcommand _ _ hpaired)
    exact ⟨native, content, Extension.validateNativeRequest_eq_ok.mpr
      (Or.inr ⟨method, requestBase provider requestId, hping, haddressed, hpaired⟩), hcontent⟩

variable {hostUrl : String → Option HostUrl}

theorem HasText.bounded {params : Json} {name : String} (h : HasText params name 128) :
    ∃ text, params.get name = .str text ∧ Extension.Bounded text 128 := by
  obtain ⟨text, hget, hne, hbound⟩ := h
  exact ⟨text, hget, hne, Nat.le_trans (utf16Length_le_utf8Length text) hbound⟩

/-- The extension takes the body when the tab id and the names of the params pass and the arguments of the method do. -/
theorem relayed_accepted_iff (h : Relayed provider method.name requestId.text deadline fields body)
    (hforbidden : ∀ name ∈ forbiddenParams, name ∉ Json.keys fields)
    (hcommand : ∀ base native, Extension.pairedRequest browserUrl (.obj body) base method = .ok native → native.HasCommand)
    (hping : method ≠ .ping) :
    (∃ native content, Extension.validateNativeRequest browserUrl (.obj body) = .ok native ∧
      Extension.contentCommandFromNative native = some (.ok content)) ↔
    (provider.pairing.tabId ≤ Extension.maxSafeInteger ∧ ∀ key ∈ Json.keys fields, key ∈ method.keys) ∧
      ∃ native, Extension.pairedRequest browserUrl (.obj body) (requestBase provider requestId) method = .ok native := by
  rw [accepted_iff method h hcommand hping, addressed_iff method h, known_iff method h hforbidden]

theorem accepted_snapshot_iff (h : Relayed provider "snapshot" requestId.text deadline fields body)
    (hforbidden : ∀ name ∈ forbiddenParams, name ∉ Json.keys fields) :
    (∃ native content, Extension.validateNativeRequest browserUrl (.obj body) = .ok native ∧
      Extension.contentCommandFromNative native = some (.ok content)) ↔
    ExtensionTakes provider deadline "snapshot" (.obj fields) := by
  have hnodes : (Json.obj body).get "max_nodes" = (Json.obj fields).get "max_nodes" := h.param _ (by decide)
  have htakes : ExtensionTakes provider deadline "snapshot" (.obj fields) ↔
      (provider.pairing.tabId ≤ Extension.maxSafeInteger ∧ ∀ key ∈ Json.keys fields, key = "max_nodes") ∧
        ((Json.obj fields).get "max_nodes" = .null ∨
          ∃ n : Nat, Extension.safeInteger? ((Json.obj fields).get "max_nodes") = some (n : Int) ∧ 1 ≤ n ∧ n ≤ 300) := by
    simp [ExtensionTakes, paramKeys, and_assoc]
  have hkeys : ∀ key, key ∈ Extension.NativeMethod.snapshot.keys ↔ key = "max_nodes" := fun key => List.mem_singleton
  rw [relayed_accepted_iff .snapshot h hforbidden ?_ (by decide), htakes]
  · simp only [Extension.pairedRequest_snapshot_eq_ok, hnodes, Extension.boundedNodes_eq_ok, hkeys]
    refine and_congr_right fun _ => ⟨?_, ?_⟩
    · rintro ⟨_, maxNodes, -, ⟨hnull, -⟩ | hbound⟩
      · exact Or.inl hnull
      · exact Or.inr ⟨maxNodes, hbound⟩
    · rintro (hnull | ⟨maxNodes, hbound⟩)
      · exact ⟨_, _, rfl, Or.inl ⟨hnull, rfl⟩⟩
      · exact ⟨_, maxNodes, rfl, Or.inr hbound⟩
  · intro base native hpaired
    obtain ⟨maxNodes, rfl, -⟩ := Extension.pairedRequest_snapshot_eq_ok.mp hpaired
    exact trivial

theorem accepted_click_iff (h : Relayed provider "click" requestId.text deadline fields body)
    (hforbidden : ∀ name ∈ forbiddenParams, name ∉ Json.keys fields)
    (hchecked : CheckedParams hostUrl "click" (.obj fields)) :
    (∃ native content, Extension.validateNativeRequest browserUrl (.obj body) = .ok native ∧
      Extension.contentCommandFromNative native = some (.ok content)) ↔
    ExtensionTakes provider deadline "click" (.obj fields) := by
  obtain ⟨snapshotId, hsnapshotId⟩ := (hchecked.snapshotId (by decide)).bounded
  obtain ⟨ref, href⟩ := (hchecked.ref (Or.inl rfl)).bounded
  have htakes : ExtensionTakes provider deadline "click" (.obj fields) ↔
      provider.pairing.tabId ≤ Extension.maxSafeInteger ∧ ∀ key ∈ Json.keys fields, key ∈ ["snapshot_id", "ref"] := by
    simp [ExtensionTakes, paramKeys]
  rw [relayed_accepted_iff .click h hforbidden ?_ (by decide), htakes]
  · refine and_iff_left ⟨.click (requestBase provider requestId) snapshotId ref, ?_⟩
    simp only [Extension.pairedRequest, bind_eq_ok, Extension.boundedString_eq_ok]
    rw [h.param "snapshot_id" (by decide), h.param "ref" (by decide)]
    exact ⟨snapshotId, hsnapshotId, ref, href, rfl⟩
  · intro base native hpaired
    simp only [Extension.pairedRequest, bind_eq_ok] at hpaired
    obtain ⟨_, -, _, -, hnative⟩ := hpaired
    cases hnative
    exact trivial

theorem accepted_type_iff (h : Relayed provider "type" requestId.text deadline fields body)
    (hforbidden : ∀ name ∈ forbiddenParams, name ∉ Json.keys fields)
    (hchecked : CheckedParams hostUrl "type" (.obj fields)) :
    (∃ native content, Extension.validateNativeRequest browserUrl (.obj body) = .ok native ∧
      Extension.contentCommandFromNative native = some (.ok content)) ↔
    ExtensionTakes provider deadline "type" (.obj fields) := by
  obtain ⟨snapshotId, hsnapshotId⟩ := (hchecked.snapshotId (by decide)).bounded
  obtain ⟨ref, href⟩ := (hchecked.ref (Or.inr rfl)).bounded
  obtain ⟨hreplace, text, htext, -⟩ := hchecked.type rfl
  have htakes : ExtensionTakes provider deadline "type" (.obj fields) ↔
      (provider.pairing.tabId ≤ Extension.maxSafeInteger ∧
        ∀ key ∈ Json.keys fields, key ∈ ["snapshot_id", "ref", "text", "replace"]) ∧ utf16Length text ≤ 4096 := by
    simp [ExtensionTakes, paramKeys, htext, and_assoc]
  rw [relayed_accepted_iff .type h hforbidden ?_ (by decide), htakes]
  · refine and_congr_right fun _ => ?_
    simp only [Extension.pairedRequest, bind_eq_ok, Extension.boundedString_eq_ok, Extension.boundedTypedText_eq_ok,
      require_eq_ok, decide_eq_true_eq]
    rw [h.param "snapshot_id" (by decide), h.param "ref" (by decide), h.param "text" (by decide),
      h.param "replace" (by decide), hreplace]
    constructor
    · rintro ⟨_, _, -, _, -, other, ⟨hother, hbound⟩, -⟩
      rw [htext] at hother
      cases hother
      exact hbound
    · intro hbound
      exact ⟨_, snapshotId, hsnapshotId, ref, href, text, ⟨htext, hbound⟩, (), rfl, rfl⟩
  · intro base native hpaired
    simp only [Extension.pairedRequest, bind_eq_ok] at hpaired
    obtain ⟨_, -, _, -, _, -, _, -, hnative⟩ := hpaired
    cases hnative
    exact trivial

theorem accepted_navigate_iff (hurls : SameUrls hostUrl browserUrl)
    (h : Relayed provider "navigate" requestId.text deadline fields body) (hdeadline : 0 < deadline)
    (hforbidden : ∀ name ∈ forbiddenParams, name ∉ Json.keys fields)
    (hchecked : CheckedParams hostUrl "navigate" (.obj fields)) :
    (∃ native content, Extension.validateNativeRequest browserUrl (.obj body) = .ok native ∧
      Extension.contentCommandFromNative native = some (.ok content)) ↔
    ExtensionTakes provider deadline "navigate" (.obj fields) := by
  obtain ⟨snapshotId, hsnapshotId⟩ := (hchecked.snapshotId (by decide)).bounded
  obtain ⟨_, target, url, hobj, hlength, htarget, hne, hbound, hurl, hscheme, huser, hpassword⟩ := hchecked.navigate rfl
  cases hobj
  obtain ⟨other, hother⟩ := navigationUrl_of_host hurls hurl hne hbound hscheme huser hpassword
  have hknown : ∀ key ∈ Json.keys fields, key ∈ Extension.NativeMethod.navigate.keys := by
    have htwo := keys_of_two hlength (show "snapshot_id" ≠ "url" by decide) (Json.mem_keys_of_get hsnapshotId.1)
      (Json.mem_keys_of_get htarget)
    intro key hkey
    rcases htwo key hkey with rfl | rfl
    · decide
    · decide
  have htakes : ExtensionTakes provider deadline "navigate" (.obj fields) ↔
      provider.pairing.tabId ≤ Extension.maxSafeInteger ∧ deadline ≤ Extension.maxSafeInteger := by
    simp [ExtensionTakes]
  rw [relayed_accepted_iff .navigate h hforbidden ?_ (by decide), htakes]
  · rw [and_iff_left hknown]
    refine and_congr_right fun _ => ?_
    simp only [Extension.pairedRequest, bind_eq_ok, Extension.boundedString_eq_ok]
    rw [h.param "snapshot_id" (by decide), h.param "url" (by decide), h.expires rfl, htarget, hother]
    constructor
    · rintro ⟨_, _, -, _, -, expires, hexpires, -⟩
      rw [← Extension.positiveInteger_int_eq hexpires] at hexpires
      exact (Extension.positiveInteger_int.mp hexpires).2
    · intro hsafe
      exact ⟨_, other, rfl, snapshotId, hsnapshotId, deadline, Extension.positiveInteger_int.mpr ⟨hdeadline, hsafe⟩, rfl⟩
  · intro base native hpaired
    simp only [Extension.pairedRequest, bind_eq_ok] at hpaired
    obtain ⟨_, -, _, -, _, -, hnative⟩ := hpaired
    cases hnative
    exact trivial

end

theorem callDeadline_lt {host : HostSession} {around : Surroundings} {request : BrowserExtensionCall} :
    callDeadline host around request < 2 ^ 64 := by
  unfold callDeadline saturatingAdd u64Max
  omega

section
variable {hostUrl : String → Option HostUrl} {browserUrl : String → Option Extension.Url} {sha256 : String → String}

/-- A command of a task that the Host has queued is taken by the extension, and the command made of it by the tab, exactly
    when `ExtensionTakes` holds of the call. -/
theorem queued_call_accepted_iff (hurls : SameUrls hostUrl browserUrl) (host : HostSession) (around : Surroundings)
    (provider : Provider) (request : BrowserExtensionCall) (requestId : Extension.RandomUUID) (command : Json)
    (hqueued : queuedCommand hostUrl sha256 host around provider request requestId.text = .ok command) :
    (∃ body native content, relayBody command = some body ∧ Extension.validateNativeRequest browserUrl body = .ok native ∧
      Extension.contentCommandFromNative native = some (.ok content)) ↔
    ExtensionTakes provider (callDeadline host around request) request.method request.params := by
  obtain ⟨hchecked, hpositive, claimed, owner, hhello, howner, hcommand⟩ := queuedCommand_eq_ok hqueued
  obtain ⟨fields, hparams, hforbidden, rfl⟩ := callCommand_eq_ok hcommand
  obtain ⟨body, hrelay, hrelayed⟩ := relayBody_callCommand howner callDeadline_lt hforbidden
  have hbody : (∃ body native content,
      relayBody (.obj (Json.insertAll (boundFields sha256 claimed request.method requestId.text
        (callDeadline host around request)) fields)) = some body ∧
      Extension.validateNativeRequest browserUrl body = .ok native ∧
      Extension.contentCommandFromNative native = some (.ok content)) ↔
      ∃ native content, Extension.validateNativeRequest browserUrl (.obj body) = .ok native ∧
        Extension.contentCommandFromNative native = some (.ok content) := by
    rw [hrelay]
    simp
  have htakes : ExtensionTakes provider (callDeadline host around request) request.method (.obj fields) ↔
      ExtensionTakes claimed (callDeadline host around request) request.method (.obj fields) := by
    rw [ExtensionTakes, ExtensionTakes, Provider.pairing, Provider.pairing, hhello]
  rw [hbody, hparams, htakes]
  rw [hparams] at hchecked
  have hsupported := hchecked.supported
  simp only [List.mem_cons, List.not_mem_nil, or_false] at hsupported
  rcases hsupported with hmethod | hmethod | hmethod | hmethod
  · rw [hmethod] at hrelayed ⊢
    exact accepted_snapshot_iff hrelayed hforbidden
  · rw [hmethod] at hrelayed hchecked ⊢
    exact accepted_click_iff hrelayed hforbidden hchecked
  · rw [hmethod] at hrelayed hchecked ⊢
    exact accepted_type_iff hrelayed hforbidden hchecked
  · rw [hmethod] at hrelayed hchecked ⊢
    exact accepted_navigate_iff hurls hrelayed hpositive hforbidden hchecked

end

/-! ### A call of each kind -/

def sampleProviderHello : ExtensionHello :=
  ⟨"abcdefghijklmnop", "0.3.1",
    ["explicit_tab_pairing_v1", "semantic_snapshot_v1", "dom_click_v1", "dom_replace_text_v1", "tab_navigation_v1"],
    ⟨Extension.sampleUUID.text, 7, 7, "https://example.com", "https://example.com:" ++ Extension.sampleUUID.text⟩⟩

theorem sampleProviderHello_accepted :
    parseExtensionHello (Extension.sampleHello Extension.sampleOrigin) "chrome-extension://abcdefghijklmnop/" =
      .ok sampleProviderHello := by decide

def sampleProvider : Provider :=
  ⟨none, "secret", "chrome-extension://abcdefghijklmnop/", 41, some 99, sampleProviderHello, _, sampleProviderHello_accepted⟩

/-- A snapshot with one button. -/
def samplePage : Json :=
  .obj [("snapshot_id", .str "s-1"),
    ("document", .obj [("origin", .str "https://example.com"), ("id", .str "https://example.com:d")]),
    ("refs", .arr [.obj [("ref", .str "e-1"), ("actions", .arr [.str "click"]), ("visibility", .str "in_viewport"),
      ("states", .obj [("disabled", .bool false), ("sensitive", .bool false)])]])]

theorem samplePage_checked : checkSnapshot "https://example.com" samplePage = .ok () := by decide

def sampleSession : HostSession :=
  ⟨"capability", 41, 99, true, none, [], some ⟨"p-1", "https://example.com", samplePage, 0, samplePage_checked⟩⟩

def sampleSurroundings : Surroundings := ⟨.ok (), .ok (), .ok (), fun _ => .ok (), 1000, 1700000000000⟩

def sampleHostUrl (text : String) : Option HostUrl :=
  if text = "https://example.com/next" then some ⟨"https", "", none, "https://example.com"⟩ else none

def sampleBrowserUrl (text : String) : Option Extension.Url :=
  if text = "https://example.com/next" then some ⟨"https:", "", "", "https://example.com", text⟩ else none

def sampleCall (fields : List (String × Json)) : BrowserExtensionCall :=
  ⟨"p-1", "https://example.com", "click", .obj ([("snapshot_id", .str "s-1"), ("ref", .str "e-1")] ++ fields), 5000⟩

def sampleQueued (fields : List (String × Json)) : Except String Json :=
  queuedCommand sampleHostUrl id sampleSession sampleSurroundings sampleProvider (sampleCall fields) Extension.sampleUUID.text

theorem sameUrls_sample : SameUrls sampleHostUrl sampleBrowserUrl := by
  intro text url hurl
  unfold sampleHostUrl at hurl
  split at hurl
  · rename_i htext
    cases hurl
    exact ⟨_, if_pos htext, rfl, rfl, rfl⟩
  · cases hurl

theorem queued_call_accepted_sample :
    ∃ command body native content, sampleQueued [] = .ok command ∧ relayBody command = some body ∧
      Extension.validateNativeRequest sampleBrowserUrl body = .ok native ∧
      Extension.contentCommandFromNative native = some (.ok content) := by
  have hok : (sampleQueued []).toOption.isSome = true := by decide
  cases hqueued : sampleQueued [] with
  | error _ =>
    rw [hqueued] at hok
    cases hok
  | ok command =>
    have htakes : ExtensionTakes sampleProvider 1700000005000 "click" (sampleCall []).params := by
      refine ⟨by decide, ?_, ?_, ?_, ?_⟩
      · intro h
        exact absurd h (by decide)
      · intro _
        decide
      · intro h
        exact absurd h (by decide)
      · intro h
        exact absurd h (by decide)
    obtain ⟨body, native, content, h⟩ := (queued_call_accepted_iff sameUrls_sample sampleSession sampleSurroundings
      sampleProvider (sampleCall []) Extension.sampleUUID command hqueued).mpr htakes
    exact ⟨command, body, native, content, rfl, h⟩

/-- A click with a param that the Host does not look at is queued, and refused by the extension. -/
theorem unknown_param_refused :
    ((sampleQueued [("button", .str "left")]).toOption.bind relayBody).map
      (Extension.validateNativeRequest sampleBrowserUrl) = some (.error "unexpected native request field: button") := by
  decide

end BrowserExtension
end DccCua
