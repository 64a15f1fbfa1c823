import DccCua.Profiles.Profile

/-! # Profile packages

What the validation of a package reads in its directory, and how the profile of a package inherits from a built-in one or
from that of another package. An error stands for its text. -/

namespace DccCua

open Checks Unicode

inductive ProfilePlatform where
  | windows
  | macos
  | linux
  deriving DecidableEq, Repr

inductive ProfilePackageArtifactType where
  | semanticProfile
  | contextIndex
  | contextDocument
  | agentSkill
  | documentation
  | fixtures
  | companionSource
  | license
  deriving DecidableEq, Repr

structure ProfilePackageArtifact where
  artifactType : ProfilePackageArtifactType
  path : String
  deriving DecidableEq, Repr

structure ProfilePackageManifest where
  schemaVersion : Nat
  kind : String
  id : String
  version : String
  displayName : String
  description : String
  license : String
  artifacts : List ProfilePackageArtifact
  /-- `requires.dcc_cua`. -/
  requires : String
  platforms : List ProfilePlatform := []
  deriving DecidableEq, Repr

inductive PackageError where
  | unreadable (text : String)
  | unsupportedSchema (version : Nat)
  | wrongKind
  | invalidId (id : String)
  | missingTexts
  | invalidVersion
  | noArtifacts
  | requirementForm
  | requirementVersion
  | newerRuntime (required : String)
  | semanticProfileCount
  | idMismatch (manifest profile : String)
  | displayNameMismatch (manifest profile : String)
  | versionMismatch (manifest profile : String)
  | profile (error : ProfileError)
  | duplicateIdentity
  | unsupportedPlatform
  | missingParent (profile parent version : String)
  | inheritanceCycle (profile : String)
  | danglingFallback (profile target fallbackProfile fallbackSurface : String)
  | alreadyInstalled (id : String)
  | notInstalled (id : String)
  | dependedOn (id : String) (profiles : List String)
  deriving DecidableEq, Repr

/-- What is read in the directory of a package: the manifest, the checks of the paths and the sizes of its artifacts, and
    the artifact that holds the profile. -/
structure PackageFiles where
  manifest : Except PackageError ProfilePackageManifest
  artifacts : Except PackageError Unit
  profile : Except PackageError SemanticProfile

structure ValidatedProfilePackage where
  manifest : ProfilePackageManifest
  profile : SemanticProfile
  /-- The name of its directory. -/
  root : String
  deriving DecidableEq

def ValidatedProfilePackage.id (package : ValidatedProfilePackage) : String := package.manifest.id

/-- `builtin_profile`. -/
def builtinProfile (profiles : List SemanticProfile) (id : String) : Option SemanticProfile :=
  let normalized := Text.toAsciiLowercase (Text.trim id)
  profiles.find? fun profile => profile.id = normalized || (normalized = "unreal" && profile.id = "ue") ||
    (normalized = "unreal-engine" && profile.id = "ue")

/-- The parsers, the version and the platform of the runtime, and the built-in profiles. A built-in profile that inherits
    is stored as it was resolved, against one that does not inherit. -/
structure ProfileRuntime extends ProfileParsers where
  current : Version
  older : Version → Version → Bool
  platform : ProfilePlatform
  builtins : List SemanticProfile
  distinct : (builtins.map SemanticProfile.id).Nodup
  valid : ∀ profile ∈ builtins, profile.validate toProfileParsers = .ok ()
  inherited : ∀ profile ∈ builtins, ∀ reference, profile.extends? = some reference →
    ∃ parent, builtinProfile builtins reference.id = some parent ∧ parent.extends? = none ∧
      resolveProfile toProfileParsers parent profile = .ok profile

section
variable (runtime : ProfileRuntime)

def validatePackageId (id : String) : Except PackageError Unit := require (isIdentifier id) (.invalidId id)

def validateRequirement (required : String) : Except PackageError Unit :=
  if Text.startsWith required ">=" then
    match runtime.version (String.ofList (required.toList.drop 2)) with
    | none => .error .requirementVersion
    | some version => require (!runtime.older runtime.current version) (.newerRuntime required)
  else .error .requirementForm

def validateManifest (manifest : ProfilePackageManifest) : Except PackageError Unit := do
  require (manifest.schemaVersion = 2) (.unsupportedSchema manifest.schemaVersion)
  require (manifest.kind = "dcc-cua-profile-package") .wrongKind
  validatePackageId manifest.id
  require (Text.trim manifest.displayName ≠ "" && Text.trim manifest.description ≠ "" && Text.trim manifest.license ≠ "")
    .missingTexts
  require (runtime.version manifest.version).isSome .invalidVersion
  require (!manifest.artifacts.isEmpty) .noArtifacts
  validateRequirement runtime manifest.requires
  require ((manifest.artifacts.countP (·.artifactType = .semanticProfile)) = 1) .semanticProfileCount

/-- `validate_package`, of the directory with the given name. -/
def validatePackage (root : String) (files : PackageFiles) : Except PackageError ValidatedProfilePackage := do
  let manifest ← files.manifest
  validateManifest runtime manifest
  files.artifacts
  let profile ← files.profile
  mapError .profile (profile.validate runtime.toProfileParsers)
  require (profile.id = manifest.id) (.idMismatch manifest.id profile.id)
  require (profile.displayName = manifest.displayName) (.displayNameMismatch manifest.displayName profile.displayName)
  require (profile.profileVersion = manifest.version) (.versionMismatch manifest.version profile.profileVersion)
  .ok { manifest, profile, root }

def packageSupportsCurrentPlatform (package : ValidatedProfilePackage) : Bool :=
  package.manifest.platforms.isEmpty || package.manifest.platforms.contains runtime.platform

/-! ### Inheritance -/

/-- The profile that a reference names: a built-in one comes before the packages. -/
def parentProfile (packages : List ValidatedProfilePackage) (profile : SemanticProfile) (reference : ProfileReference) :
    Except PackageError SemanticProfile :=
  match builtinProfile runtime.builtins reference.id with
  | some parent => .ok parent
  | none =>
    match packages.find? (·.id = reference.id) with
    | some package => .ok package.profile
    | none => .error (.missingParent profile.id reference.id reference.version)

/-- The recursion of `resolve_profile_from_packages`, at most as deep as there are profiles. -/
def resolveVisiting (packages : List ValidatedProfilePackage) :
    Nat → List String → SemanticProfile → Except PackageError SemanticProfile
  | depth, visiting, profile =>
    match profile.extends?, depth with
    | none, _ => .ok profile
    | some _, 0 => .error (.inheritanceCycle profile.id)
    | some reference, depth + 1 => do
      require (decide (profile.id ∉ visiting)) (.inheritanceCycle profile.id)
      let parent ← parentProfile runtime packages profile reference
      let base ← resolveVisiting packages depth (profile.id :: visiting) parent
      mapError .profile (resolveProfile runtime.toProfileParsers base profile)

def resolveProfileFromPackages (packages : List ValidatedProfilePackage) (profile : SemanticProfile) :
    Except PackageError SemanticProfile :=
  resolveVisiting runtime packages (runtime.builtins.length + packages.length + 1) [] profile

end

end DccCua
