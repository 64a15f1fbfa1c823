import DccCua.Lib.Runs
import DccCua.Extension.ContentProtocol

/-! # The bridge in a paired tab

`tab-bridge.ts`: the script that takes snapshots of the page, and clicks and types for the background page.
The page may change between any two commands; each command finds it in some state. What the script reads of
an element is what the browser says of it at that moment (`DomElement`), the results of `matches` and the
computed style included. A slice that would cut a character in two drops it. -/

namespace DccCua
namespace Extension

open Runs Checks Unicode

/-- What the browser says of an element; lengths are in layout units. -/
structure DomElement where
  isConnected : Bool
  hidden : Bool
  getAttribute : String → Option String
  tagName : String
  /-- The `type` of an `HTMLInputElement`. -/
  inputType : Option String
  isTextArea : Bool
  isMatch : String → Bool
  isContentEditable : Bool
  display : String
  visibility : String
  /-- `Number(style.opacity) === 0`. -/
  transparent : Bool
  width : Int
  height : Int
  top : Int
  left : Int
  bottom : Int
  right : Int
  textContent : String
  innerText : String
  tabIndex : Int

structure Page (Element : Type) where
  href : String
  origin : String
  title : String
  innerWidth : Int
  innerHeight : Int
  /-- `document.querySelectorAll` of the snapshot's selectors. -/
  candidates : List Element
  read : Element → DomElement
  /-- The prototypes of the text controls have a setter for `value`. -/
  valueSetter : Bool

inductive Visibility where
  | inViewport
  | offscreen
  deriving DecidableEq, Repr

structure RefEntry (Element : Type) where
  element : Element
  actions : List Action
  name : String
  role : String

structure BridgeState (Element : Type) where
  sessionNonce : Option String
  documentId : Option String
  documentUrl : Option String
  generation : Nat
  snapshotId : Option String
  refs : List (String × RefEntry Element)

/-! ### Text -/

/-- The characters of `\s`, which are also those that `trim` removes. -/
def isJsSpace (c : Char) : Bool :=
  let n := c.toNat
  (0x9 ≤ n && n ≤ 0xd) || n == 0x20 || n == 0xa0 || n == 0x1680 || (0x2000 ≤ n && n ≤ 0x200a) || n == 0x2028 ||
    n == 0x2029 || n == 0x202f || n == 0x205f || n == 0x3000 || n == 0xfeff

/-- Every run of white space becomes one blank; `blank` says that the last character was white space. -/
def collapseSpaces (blank : Bool) : List Char → List Char
  | [] => []
  | c :: cs =>
    if isJsSpace c then if blank then collapseSpaces true cs else ' ' :: collapseSpaces true cs
    else c :: collapseSpaces false cs

def jsTrim (cs : List Char) : List Char := ((cs.dropWhile isJsSpace).reverse.dropWhile isJsSpace).reverse

/-- The characters that fit into `units` units of UTF-16. -/
def utf16Take : Nat → List Char → List Char
  | _, [] => []
  | units, c :: cs => if utf16Size c ≤ units then c :: utf16Take (units - utf16Size c) cs else []

def boundedText (value : String) (maximum : Nat) : String :=
  String.ofList (utf16Take maximum (jsTrim (collapseSpaces false value.toList)))

def maxNameChars : Nat := 256

/-- `a || b` on texts that may be absent. -/
def orText (a b : Option String) : Option String :=
  match a with
  | some text => if text = "" then b else some text
  | none => b

def snapshotElementName (ariaLabel alt title placeholder innerText : Option String) : String :=
  boundedText ((orText ariaLabel (orText alt (orText title (orText placeholder innerText)))).getD "") maxNameChars

namespace DomElement

variable (toLowerCase : String → String) (element : DomElement)

def elementRole : String :=
  let explicit := toLowerCase (boundedText ((element.getAttribute "role").getD "") 64)
  if explicit ≠ "" then explicit
  else match toLowerCase element.tagName with
    | "a" => "link"
    | "button" => "button"
    | "input" => if element.inputType = some "checkbox" then "checkbox" else "textbox"
    | "select" => "combobox"
    | "summary" => "button"
    | "textarea" => "textbox"
    | _ => "generic"

def elementName : String :=
  let ariaLabel := element.getAttribute "aria-label"
  let alt := element.getAttribute "alt"
  let title := element.getAttribute "title"
  let placeholder := element.getAttribute "placeholder"
  if (orText ariaLabel (orText alt (orText title placeholder))).getD "" ≠ "" then
    snapshotElementName ariaLabel alt title placeholder none
  else if jsTrim element.textContent.toList ≠ [] then
    snapshotElementName none none none none (some element.textContent)
  else snapshotElementName none none none none (some element.innerText)

/-- `visibility` in a window of `innerWidth` by `innerHeight`. -/
def visible (innerWidth innerHeight : Int) : Option Visibility :=
  if element.hidden || element.getAttribute "aria-hidden" = some "true" then none
  else if element.display = "none" || element.visibility = "hidden" || element.transparent then none
  else if element.width ≤ 0 || element.height ≤ 0 then none
  else if 0 < element.bottom && 0 < element.right && element.top < innerHeight && element.left < innerWidth then
    some .inViewport
  else some .offscreen

def elementActions : List Action :=
  if element.isMatch ":disabled" || element.getAttribute "aria-disabled" = some "true" then []
  else
    (if element.isMatch "a[href],button,input[type=button],input[type=submit],summary" ||
        element.getAttribute "role" = some "button" || (element.getAttribute "onclick").isSome then [.click] else []) ++
    (if element.isMatch "input:not([type=button]):not([type=submit]),textarea" || element.isContentEditable then [.type]
      else [])

/-- An input whose value belongs to the user. -/
def sensitive : Bool := element.inputType = some "password" || element.inputType = some "file" || element.inputType = some "hidden"

end DomElement

/-! ### Commands -/

structure BridgeError where
  code : String
  message : String
  deriving DecidableEq, Repr

/-- One control of a snapshot; `disabled` is false and `frame` is `main` in all of them. -/
structure SnapshotNode where
  ref : String
  role : String
  name : String
  actions : List Action
  focusable : Bool
  sensitive : Bool
  visibility : Visibility
  deriving DecidableEq, Repr

structure Snapshot where
  snapshotId : String
  generation : Nat
  complete : Bool
  documentId : Option String
  origin : String
  url : String
  title : String
  refs : List SnapshotNode
  deriving DecidableEq, Repr

inductive BridgeResult where
  | paired (documentId origin url : String)
  | snapshot (snapshot : Snapshot)
  | invalidated
  | attempted
  deriving DecidableEq, Repr

/-- What a command does to the page. -/
inductive Effect (Element : Type) where
  | clicked (element : Element)
  | typed (element : Element) (text : String)

structure BridgeReply (Element : Type) where
  result : Except BridgeError BridgeResult
  effect : Option (Effect Element)

/-- A message to the bridge, with the page that it finds and the random id that it may draw. -/
structure BridgeInput (Element : Type) where
  message : Json
  page : Page Element
  randomUUID : String

namespace Bridge

variable {Element : Type} (toLowerCase : String → String)

def start : BridgeState Element := ⟨none, none, none, 0, none, []⟩

def refName (generation index : Nat) : String := "p" ++ toString generation ++ ":" ++ toString index

def snapshotName (generation : Nat) (randomUUID : String) : String := toString generation ++ "-" ++ randomUUID

/-- The controls among the candidates, after `count` of them. -/
def collect (page : Page Element) (generation maxNodes : Nat) : Nat → List Element → List (String × RefEntry Element)
  | _, [] => []
  | count, element :: rest =>
    if maxNodes ≤ count then []
    else
      let reading := page.read element
      if reading.elementActions = [] then collect page generation maxNodes count rest
      else match reading.visible page.innerWidth page.innerHeight with
        | none => collect page generation maxNodes count rest
        | some _ =>
          (refName generation (count + 1),
            ⟨element, reading.elementActions, reading.elementName, reading.elementRole toLowerCase⟩) ::
            collect page generation maxNodes (count + 1) rest

/-- How a snapshot lists a control. -/
def listNode (page : Page Element) (entry : String × RefEntry Element) : SnapshotNode :=
  let reading := page.read entry.2.element
  ⟨entry.1, entry.2.role, entry.2.name, entry.2.actions, 0 ≤ reading.tabIndex, reading.sensitive,
    (reading.visible page.innerWidth page.innerHeight).getD .offscreen⟩

def semanticSnapshot (page : Page Element) (randomUUID : String) (maxNodes : Nat) (s : BridgeState Element) :
    Snapshot × BridgeState Element :=
  let generation := s.generation + 1
  let snapshotId := snapshotName generation randomUUID
  let candidateLimit := min (maxNodes * 4) 1200
  let refs := collect toLowerCase page generation maxNodes 0 (page.candidates.take candidateLimit)
  (⟨snapshotId, generation, decide (refs.length < maxNodes) && decide (page.candidates.length ≤ candidateLimit), s.documentId,
      page.origin, boundedText page.href 2048, boundedText page.title maxNameChars, refs.map (listNode page)⟩,
    { s with generation := generation, snapshotId := some snapshotId, documentUrl := some page.href, refs := refs })

def staleSnapshot : BridgeError := ⟨"stale_observation", "snapshot is no longer current"⟩

/-- The element that a ref of the current snapshot stands for; the snapshot is used up. -/
def resolveRef (page : Page Element) (snapshotId ref : String) (action : Action) (s : BridgeState Element) :
    Except BridgeError (Element × BridgeState Element) :=
  if s.documentUrl ≠ some page.href ∨ s.snapshotId ≠ some snapshotId then .error staleSnapshot
  else match s.refs.lookup ref with
    | none => .error ⟨"stale_observation", "semantic ref is stale or does not allow this action"⟩
    | some entry =>
      let reading := page.read entry.element
      if !reading.isConnected ∨ action ∉ entry.actions ∨ action ∉ reading.elementActions ∨
          reading.visible page.innerWidth page.innerHeight ≠ some .inViewport ∨ reading.elementName ≠ entry.name ∨
          reading.elementRole toLowerCase ≠ entry.role then
        .error ⟨"stale_observation", "semantic ref is stale or does not allow this action"⟩
      else .ok (entry.element, { s with refs := [], snapshotId := none })

def click (page : Page Element) (snapshotId ref : String) (s : BridgeState Element) :
    BridgeReply Element × BridgeState Element :=
  match resolveRef toLowerCase page snapshotId ref .click s with
  | .error e => (⟨.error e, none⟩, s)
  | .ok (element, s) => (⟨.ok .attempted, some (.clicked element)⟩, s)

def replaceText (page : Page Element) (snapshotId ref text : String) (s : BridgeState Element) :
    BridgeReply Element × BridgeState Element :=
  match resolveRef toLowerCase page snapshotId ref .type s with
  | .error e => (⟨.error e, none⟩, s)
  | .ok (element, s) =>
    let reading := page.read element
    if reading.sensitive then
      (⟨.error ⟨"trusted_human_required", "password fields remain a trusted human boundary"⟩, none⟩, s)
    else if reading.inputType.isSome || reading.isTextArea then
      if page.valueSetter then (⟨.ok .attempted, some (.typed element text)⟩, s)
      else (⟨.error ⟨"unsupported_control", "text control has no native value setter"⟩, none⟩, s)
    else if reading.isContentEditable then (⟨.ok .attempted, some (.typed element text)⟩, s)
    else (⟨.error ⟨"unsupported_control", "semantic ref is not a supported text control"⟩, none⟩, s)

def commandNonce : ContentCommand → String
  | .pair nonce => nonce
  | .snapshot nonce _ => nonce
  | .click nonce _ _ => nonce
  | .type nonce _ _ _ => nonce
  | .prepareNavigation nonce _ => nonce

def handle (page : Page Element) (randomUUID : String) (command : ContentCommand) (s : BridgeState Element) :
    BridgeReply Element × BridgeState Element :=
  match command with
  | .pair nonce =>
    let documentId := page.origin ++ ":" ++ randomUUID
    (⟨.ok (.paired documentId page.origin (boundedText page.href 2048)), none⟩,
      { s with sessionNonce := some nonce, documentId := some documentId, documentUrl := some page.href, refs := [],
               snapshotId := none })
  | command =>
    if s.sessionNonce ≠ some (commandNonce command) ∨ commandNonce command = "" then
      (⟨.error ⟨"pairing_mismatch", "command does not match the paired session"⟩, none⟩, s)
    else match command with
      | .snapshot _ maxNodes =>
        let (snapshot, s) := semanticSnapshot toLowerCase page randomUUID maxNodes s
        (⟨.ok (.snapshot snapshot), none⟩, s)
      | .prepareNavigation _ snapshotId =>
        if s.documentUrl ≠ some page.href ∨ s.snapshotId ≠ some snapshotId then (⟨.error staleSnapshot, none⟩, s)
        else (⟨.ok .invalidated, none⟩,
          { s with sessionNonce := none, documentId := none, documentUrl := none, snapshotId := none, refs := [] })
      | .click _ snapshotId ref => click toLowerCase page snapshotId ref s
      | .type _ snapshotId ref text => replaceText toLowerCase page snapshotId ref text s
      | .pair _ => (⟨.error staleSnapshot, none⟩, s)

/-- The listener: a message of another type gets no answer, and a command that throws one with its error. -/
def onMessage (input : BridgeInput Element) (s : BridgeState Element) : Option (BridgeReply Element) × BridgeState Element :=
  if (input.message.get "type").asStr ≠ some "dcc_cua_command" then (none, s)
  else match validateContentCommand (input.message.get "command") with
    | .error message => (some ⟨.error ⟨"invalid_request", String.ofList (utf16Take 256 message.toList)⟩, none⟩, s)
    | .ok command =>
      let (reply, s) := handle toLowerCase input.page input.randomUUID command s
      (some reply, s)

def machine : Machine (BridgeState Element) (BridgeInput Element) (Option (BridgeReply Element)) where
  step s input := onMessage toLowerCase input s

end Bridge
end Extension
end DccCua
