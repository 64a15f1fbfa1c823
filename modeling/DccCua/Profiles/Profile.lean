import DccCua.Lib.Checks
import DccCua.Lib.Keyed
import DccCua.Lib.Unicode
import DccCua.Text

/-! # Semantic profiles

The profiles of `dcc-cua-semantic-profiles`, their validation and their inheritance. `semver` and `url` are parameters.
A map from names to lists is the list of its entries. -/

namespace DccCua

open Checks Unicode

def profileSchemaVersion : Nat := 3

inductive SemanticRoute where
  | unrealTypedApi
  | accessibility
  | browserDom
  | osNativeDialog
  | visualFallback
  deriving DecidableEq, Repr

inductive DialogStyle where
  | osNative
  | hostOwned
  | applicationRendered
  deriving DecidableEq, Repr

structure ProfileBinding where
  requireExactPid : Bool := true
  requireExactWindowHandle : Bool := true
  requireWindowVersionMatch : Bool := true
  failClosedOnAmbiguity : Bool := true
  deriving DecidableEq, Repr

structure CapabilityProbe where
  id : String
  route : SemanticRoute
  capabilities : List String
  optional : Bool := false
  deriving DecidableEq, Repr

structure ProfileFlow where
  id : String
  surfaceId : String
  actionTargetId : String
  verifyTargetId : String
  route : SemanticRoute
  requiresFreshSnapshot : Bool := true
  requiresPostActionVerification : Bool := true
  prohibitCoordinates : Bool := true
  prohibitKeyboardShortcuts : Bool := true
  deriving DecidableEq, Repr

structure ProfileApplication where
  family : String
  versions : List String := []
  deriving DecidableEq, Repr

structure ProfileReference where
  id : String
  version : String
  deriving DecidableEq, Repr

/-- `type` and `mode` have one value each. -/
structure StateSource where
  id : String
  url : String
  expectedSchemaVersion : String
  schemaVersionPointer : String
  tickPointer : String
  useEtag : Bool := false
  timeoutMs : Nat
  maxResponseBytes : Nat
  optional : Bool := false
  deriving DecidableEq, Repr

structure ProfileSelector where
  applicationNames : List String := []
  windowTitleContains : List String := []
  localizedWindowTitleContains : List (String × List String) := []
  urlHosts : List String := []
  deriving DecidableEq, Repr

structure SemanticFallback where
  profileId : String
  surfaceId : String
  deriving DecidableEq, Repr

structure SemanticTarget where
  id : String
  label : String
  role : String
  names : List String := []
  localizedNames : List (String × List String) := []
  automationIds : List String := []
  supportedActions : List String := []
  keyBindings : List (String × List String) := []
  fallback : Option SemanticFallback := none
  deriving DecidableEq, Repr

structure SemanticSurface where
  id : String
  label : String
  role : String
  route : SemanticRoute
  targets : List SemanticTarget := []
  deriving DecidableEq, Repr

structure ProfileSettings where
  dialogStyle : DialogStyle
  preferredRoute : SemanticRoute
  defaultLocale : Option String := none
  destructiveConfirmationRequired : Bool := true
  deriving DecidableEq, Repr

structure SemanticProfile where
  schemaVersion : Nat
  id : String
  profileVersion : String
  application : ProfileApplication
  extends? : Option ProfileReference := none
  displayName : String
  selectors : List ProfileSelector := []
  surfaces : List SemanticSurface := []
  stateSources : List StateSource := []
  binding : ProfileBinding := {}
  capabilityProbes : List CapabilityProbe := []
  flows : List ProfileFlow := []
  settings : ProfileSettings
  deriving DecidableEq, Repr

/-- The first field of each error is the id of the profile. -/
inductive ProfileError where
  | unsupportedSchema (profile : String) (version : Nat)
  | missingId
  | invalidIdentifier (profile field value : String)
  | invalidProfileVersion (profile version : String)
  | invalidApplication (profile : String)
  | invalidParent (profile : String)
  | parentVersionMismatch (profile parent version : String)
  | parentApplicationMismatch (profile family : String)
  | missingSelector (profile : String)
  | duplicateSurface (profile surface : String)
  | duplicateTarget (profile surface target : String)
  | invalidKeyBinding (profile target action : String)
  | invalidLocale (profile locale : String)
  | invalidLocalizedAliases (profile locale : String)
  | duplicateStateSource (profile source : String)
  | invalidStateSourceUrl (profile source : String)
  | invalidStateContract (profile source : String)
  | invalidStateSourceBounds (profile source : String)
  | duplicateCapabilityProbe (profile probe : String)
  | emptyCapabilityProbe (profile probe : String)
  | invalidCapabilityProbeRoute (profile probe : String)
  | duplicateFlow (profile flow : String)
  | invalidFlowReference (profile flow : String)
  | flowRouteMismatch (profile flow : String)
  | invalidFlowActions (profile flow : String)
  | unsafeFlowPolicy (profile flow : String)
  deriving DecidableEq, Repr

/-- What the code reads of a `url::Url`. -/
structure StateUrl where
  scheme : String
  hostStr : Option String
  port : Option Nat
  username : String
  password : Option String
  query : Option String
  fragment : Option String
  deriving DecidableEq, Repr

/-- The parsers of the crates `semver` and `url`. -/
structure ProfileParsers where
  Version : Type
  Requirement : Type
  version : String → Option Version
  requirement : String → Option Requirement
  satisfied : Requirement → Version → Bool
  url : String → Option StateUrl

/-! ### Validation -/

/-- `str::eq_ignore_ascii_case`. -/
def eqIgnoreAsciiCase (a b : String) : Bool := Text.toAsciiLowercase a = Text.toAsciiLowercase b

def SemanticTarget.supportsAction (target : SemanticTarget) (action : String) : Bool :=
  target.supportedActions.any fun candidate => eqIgnoreAsciiCase candidate action

/-- A lower-case letter or a digit of ASCII, or one of `-_.`. -/
def isIdentifierChar (c : Char) : Bool := ('a' ≤ c && c ≤ 'z') || ('0' ≤ c && c ≤ '9') || c = '-' || c = '_' || c = '.'

def isIdentifier (value : String) : Bool := value ≠ "" && utf8Length value ≤ 80 && value.toList.all isIdentifierChar

def validateIdentifier (profileId value field : String) : Except ProfileError Unit :=
  require (isIdentifier value) (.invalidIdentifier profileId field value)

def isAsciiAlphabetic (c : Char) : Bool := ('a' ≤ c && c ≤ 'z') || ('A' ≤ c && c ≤ 'Z')

def isAsciiAlphanumeric (c : Char) : Bool := isAsciiAlphabetic c || ('0' ≤ c && c ≤ '9')

def validLocaleTag (value : String) : Bool :=
  if value = "" || 35 < utf8Length value || Text.trim value ≠ value then false
  else match Text.split (· = '-') value with
    | [] => false
    | language :: parts =>
      2 ≤ utf8Length language && utf8Length language ≤ 8 && language.toList.all isAsciiAlphabetic &&
        parts.all fun part => 1 ≤ utf8Length part && utf8Length part ≤ 8 && part.toList.all isAsciiAlphanumeric

/-- The check of every entry of a list, in order. -/
def checkAll {α : Type} (check : α → Except ProfileError Unit) : List α → Except ProfileError Unit
  | [] => .ok ()
  | a :: rest => do
    check a
    checkAll check rest

def validateLocalizedAliases (profileId : String) (aliases : List (String × List String)) : Except ProfileError Unit :=
  checkAll (fun (locale, values) => do
    require (validLocaleTag locale) (.invalidLocale profileId locale)
    require (!values.isEmpty && values.all (Text.trim · ≠ "")) (.invalidLocalizedAliases profileId locale)) aliases

/-- Entries with identifiers that are all different, those in `seen` included, and a check of each. -/
def checkEntries {α : Type} (profileId : String) (id : α → String) (field : String) (duplicate : String → ProfileError)
    (check : α → Except ProfileError Unit) : List String → List α → Except ProfileError Unit
  | _, [] => .ok ()
  | seen, a :: rest => do
    validateIdentifier profileId (id a) field
    require (decide (id a ∉ seen)) (duplicate (id a))
    check a
    checkEntries profileId id field duplicate check (id a :: seen) rest

def validJsonPointer (pointer : String) : Bool :=
  pointer ≠ "" && utf8Length pointer ≤ 256 && Text.startsWith pointer "/" && !pointer.toList.any Text.isControl

section
variable (parsers : ProfileParsers)

def StateSource.validate (source : StateSource) (profileId : String) : Except ProfileError Unit :=
  match parsers.url source.url with
  | none => .error (.invalidStateSourceUrl profileId source.id)
  | some url => do
    require (url.scheme = "http" && (url.hostStr = some "127.0.0.1" || url.hostStr = some "[::1]" || url.hostStr = some "::1") &&
      url.port.isSome && url.username = "" && url.password.isNone && url.query.isNone && url.fragment.isNone)
      (.invalidStateSourceUrl profileId source.id)
    require (Text.trim source.expectedSchemaVersion ≠ "" && utf8Length source.expectedSchemaVersion ≤ 64 &&
      validJsonPointer source.schemaVersionPointer && validJsonPointer source.tickPointer)
      (.invalidStateContract profileId source.id)
    require (50 ≤ source.timeoutMs && source.timeoutMs ≤ 10000 && 1024 ≤ source.maxResponseBytes &&
      source.maxResponseBytes ≤ 8 * 1024 * 1024) (.invalidStateSourceBounds profileId source.id)

end

def validateFallback (profileId : String) : Option SemanticFallback → Except ProfileError Unit
  | none => .ok ()
  | some fallback => do
    validateIdentifier profileId fallback.profileId "surfaces[].targets[].fallback.profile_id"
    validateIdentifier profileId fallback.surfaceId "surfaces[].targets[].fallback.surface_id"

def SemanticTarget.validate (profileId : String) (target : SemanticTarget) : Except ProfileError Unit := do
  validateFallback profileId target.fallback
  checkAll (fun (action, keys) => require (target.supportsAction action && !keys.isEmpty && keys.length ≤ 4 &&
    keys.all fun key => key ≠ "" && key.length ≤ 32) (.invalidKeyBinding profileId target.id action)) target.keyBindings
  validateLocalizedAliases profileId target.localizedNames

def SemanticSurface.validate (profileId : String) (surface : SemanticSurface) : Except ProfileError Unit :=
  checkEntries profileId SemanticTarget.id "surfaces[].targets[].id" (.duplicateTarget profileId surface.id)
    (SemanticTarget.validate profileId) [] surface.targets

def CapabilityProbe.validate (profileId : String) (probe : CapabilityProbe) : Except ProfileError Unit := do
  require (!probe.capabilities.isEmpty && probe.capabilities.all fun capability =>
    Text.trim capability ≠ "" && utf8Length capability ≤ 128) (.emptyCapabilityProbe profileId probe.id)
  require (probe.route = .browserDom || probe.route = .accessibility) (.invalidCapabilityProbeRoute profileId probe.id)

def validateDefaultLocale (profileId : String) : Option String → Except ProfileError Unit
  | none => .ok ()
  | some locale => require (validLocaleTag locale) (.invalidLocale profileId locale)

namespace SemanticProfile

def surface (profile : SemanticProfile) (id : String) : Option SemanticSurface := profile.surfaces.find? (·.id = id)

def validateFlow (profile : SemanticProfile) (flow : ProfileFlow) : Except ProfileError Unit :=
  match profile.surface flow.surfaceId with
  | none => .error (.invalidFlowReference profile.id flow.id)
  | some surface =>
    match surface.targets.find? (·.id = flow.actionTargetId), surface.targets.find? (·.id = flow.verifyTargetId) with
    | some action, some verify => do
      require (action.supportsAction "click" && verify.supportsAction "verify") (.invalidFlowActions profile.id flow.id)
      require (surface.route = flow.route) (.flowRouteMismatch profile.id flow.id)
      require (flow.requiresFreshSnapshot && flow.requiresPostActionVerification && flow.prohibitCoordinates &&
        flow.prohibitKeyboardShortcuts) (.unsafeFlowPolicy profile.id flow.id)
    | _, _ => .error (.invalidFlowReference profile.id flow.id)

def hasSelector (profile : SemanticProfile) : Bool :=
  profile.selectors.any fun selector => !selector.applicationNames.isEmpty || !selector.windowTitleContains.isEmpty ||
    (selector.localizedWindowTitleContains.any fun (_, aliases) => !aliases.isEmpty) || !selector.urlHosts.isEmpty

section
variable (parsers : ProfileParsers) (profile : SemanticProfile)

def validate : Except ProfileError Unit := do
  require (profile.schemaVersion = profileSchemaVersion) (.unsupportedSchema profile.id profile.schemaVersion)
  require (Text.trim profile.id ≠ "") .missingId
  validateIdentifier profile.id profile.id "id"
  require (parsers.version profile.profileVersion).isSome (.invalidProfileVersion profile.id profile.profileVersion)
  require (Text.trim profile.application.family ≠ "" && profile.application.family.length ≤ 80 &&
    profile.application.versions.all fun version => Text.trim version ≠ "" && version.length ≤ 32)
    (.invalidApplication profile.id)
  require (profile.extends?.all fun parent => Text.trim parent.id ≠ "" && parent.id ≠ profile.id &&
    (parsers.requirement parent.version).isSome) (.invalidParent profile.id)
  require (profile.hasSelector || profile.extends?.isSome) (.missingSelector profile.id)
  validateDefaultLocale profile.id profile.settings.defaultLocale
  checkAll (fun selector => validateLocalizedAliases profile.id selector.localizedWindowTitleContains) profile.selectors
  checkEntries profile.id StateSource.id "state_sources[].id" (.duplicateStateSource profile.id)
    (StateSource.validate parsers · profile.id) [] profile.stateSources
  checkEntries profile.id SemanticSurface.id "surfaces[].id" (.duplicateSurface profile.id)
    (SemanticSurface.validate profile.id) [] profile.surfaces
  checkEntries profile.id CapabilityProbe.id "capability_probes[].id" (.duplicateCapabilityProbe profile.id)
    (CapabilityProbe.validate profile.id) [] profile.capabilityProbes
  checkEntries profile.id ProfileFlow.id "flows[].id" (.duplicateFlow profile.id) profile.validateFlow [] profile.flows

end

end SemanticProfile

/-! ### Inheritance -/

/-- `merge_by_id`. -/
def mergeById {α : Type} (id : α → String) (parent child : List α) : List α :=
  Keyed.overlay id (fun _ value => value) parent child

/-- A surface of the child in the place of one of the parent. -/
def mergeSurface (surface child : SemanticSurface) : SemanticSurface :=
  { child with targets := mergeById SemanticTarget.id surface.targets child.targets }

def mergeSurfaces (parent child : List SemanticSurface) : List SemanticSurface :=
  Keyed.overlay SemanticSurface.id mergeSurface parent child

/-- The profile that a child is before it is validated again. -/
def mergedProfile (parent child : SemanticProfile) : SemanticProfile :=
  { child with
    selectors := if child.selectors.isEmpty then parent.selectors else child.selectors
    stateSources := mergeById StateSource.id parent.stateSources child.stateSources
    surfaces := mergeSurfaces parent.surfaces child.surfaces }

def resolveProfile (parsers : ProfileParsers) (parent child : SemanticProfile) : Except ProfileError SemanticProfile := do
  parent.validate parsers
  child.validate parsers
  match child.extends? with
  | none => .ok child
  | some reference =>
    match parsers.requirement reference.version, parsers.version parent.profileVersion with
    | none, _ => .error (.invalidParent child.id)
    | some _, none => .error (.invalidProfileVersion parent.id parent.profileVersion)
    | some requirement, some version => do
      require (reference.id = parent.id && parsers.satisfied requirement version)
        (.parentVersionMismatch child.id reference.id reference.version)
      require (eqIgnoreAsciiCase child.application.family parent.application.family)
        (.parentApplicationMismatch child.id parent.application.family)
      (mergedProfile parent child).validate parsers
      .ok (mergedProfile parent child)

end DccCua
