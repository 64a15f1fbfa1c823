import DccCua.Lib.Rounds
import DccCua.Profiles.Package
import Mathlib.Data.List.Sort

/-! # The profile store

The packages in one directory, and the catalog that they make up with the built-in profiles. Operations on files do not
fail here, but for the renaming of a directory that is not there. -/

namespace DccCua

open Checks

structure DirectoryEntry where
  name : String
  isDirectory : Bool := true
  files : PackageFiles

inductive ProfileStoreEntry where
  | ready (package : ValidatedProfilePackage)
  | invalid (id path : String) (error : PackageError)
  deriving DecidableEq

namespace ProfileStoreEntry

def id : ProfileStoreEntry → String
  | ready package => package.id
  | invalid id _ _ => id

/-- The name of the directory that the entry reports. -/
def path : ProfileStoreEntry → String
  | ready package => package.root
  | invalid _ path _ => path

def package? : ProfileStoreEntry → Option ValidatedProfilePackage
  | ready package => some package
  | invalid _ _ _ => none

end ProfileStoreEntry

def readyPackages (entries : List ProfileStoreEntry) : List ValidatedProfilePackage := entries.filterMap (·.package?)

/-! ### The catalog -/

inductive ProfileSource where
  | builtin
  | user
  deriving DecidableEq, Repr

structure CatalogProfile where
  source : ProfileSource
  profile : SemanticProfile
  deriving DecidableEq

section
variable (runtime : ProfileRuntime)

/-- `from_store`, of the packages that are ready. -/
def profileCatalog (packages : List ValidatedProfilePackage) : List CatalogProfile :=
  Keyed.overlay (·.profile.id) (fun _ entry => entry) (runtime.builtins.map fun profile => ⟨.builtin, profile⟩)
    (packages.map fun package => ⟨.user, package.profile⟩)

def catalogProfile (catalog : List CatalogProfile) (id : String) : Option CatalogProfile :=
  catalog.find? (·.profile.id = id)

/-- The profile and the surface of the fallback are in the catalog. -/
def fallbackFound (catalog : List CatalogProfile) (fallback : SemanticFallback) : Bool :=
  (catalogProfile catalog fallback.profileId).any fun entry => (entry.profile.surface fallback.surfaceId).isSome

def danglingFallback (catalog : List CatalogProfile) (profile : SemanticProfile) (target : SemanticTarget) :
    Option PackageError :=
  target.fallback.bind fun fallback =>
    if fallbackFound catalog fallback then none
    else some (.danglingFallback profile.id target.id fallback.profileId fallback.surfaceId)

def catalogValidateProfile (catalog : List CatalogProfile) (profile : SemanticProfile) : Except PackageError Unit :=
  match (profile.surfaces.flatMap (·.targets)).findSome? (danglingFallback catalog profile) with
  | some error => .error error
  | none => .ok ()

/-! ### Refreshing -/

def DirectoryEntry.isVisible (entry : DirectoryEntry) : Bool := !Text.startsWith entry.name "." && entry.isDirectory

/-- A later package takes the place of one with its id. -/
def scanEntry (found : List ValidatedProfilePackage × List ProfileStoreEntry) (entry : DirectoryEntry) :
    List ValidatedProfilePackage × List ProfileStoreEntry :=
  match validatePackage runtime entry.name entry.files with
  | .ok package =>
    (Keyed.put ValidatedProfilePackage.id (fun _ later => later) found.1 package,
      if package.id ∈ found.1.map ValidatedProfilePackage.id
      then found.2 ++ [.invalid entry.name entry.name .duplicateIdentity] else found.2)
  | .error error => (found.1, found.2 ++ [.invalid entry.name entry.name error])

def visibleEntries (directory : List DirectoryEntry) : List DirectoryEntry :=
  (directory.filter (·.isVisible)).insertionSort (·.name ≤ ·.name)

def scanDirectory (directory : List DirectoryEntry) : List ValidatedProfilePackage × List ProfileStoreEntry :=
  (visibleEntries directory).foldl (scanEntry runtime) ([], [])

/-- The packages that are resolved. -/
def candidatePackages (directory : List DirectoryEntry) : List ValidatedProfilePackage :=
  (scanDirectory runtime directory).1.filter (packageSupportsCurrentPlatform runtime ·)

def unsupportedEntries (directory : List DirectoryEntry) : List ProfileStoreEntry :=
  ((scanDirectory runtime directory).1.filter (!packageSupportsCurrentPlatform runtime ·)).map fun package =>
    .invalid package.id package.root .unsupportedPlatform

def resolvePackage (packages : List ValidatedProfilePackage) (package : ValidatedProfilePackage) :
    Except PackageError SemanticProfile :=
  resolveProfileFromPackages runtime packages package.profile

/-- The rounds in which packages that do not resolve are taken out. -/
def resolveRounds (candidates : List ValidatedProfilePackage) :
    List ValidatedProfilePackage × List (ValidatedProfilePackage × PackageError) :=
  Rounds.settle (resolvePackage runtime) candidates.length candidates

def withResolved (packages : List ValidatedProfilePackage) (package : ValidatedProfilePackage) :
    Option ValidatedProfilePackage :=
  match resolvePackage runtime packages package with
  | .ok profile => some { package with profile }
  | .error _ => none

/-- The packages with the profiles that they were resolved to. -/
def resolvedPackages (directory : List DirectoryEntry) : List ValidatedProfilePackage :=
  let kept := (resolveRounds runtime (candidatePackages runtime directory)).1
  kept.filterMap (withResolved runtime kept)

def failureEntry (failure : ValidatedProfilePackage × PackageError) : ProfileStoreEntry :=
  .invalid failure.1.id failure.1.root failure.2

/-- The entries after the packages were resolved. -/
def resolvedEntries (directory : List DirectoryEntry) : List ProfileStoreEntry :=
  let failed := (resolveRounds runtime (candidatePackages runtime directory)).2
  ((resolvedPackages runtime directory).map ProfileStoreEntry.ready ++
    ((scanDirectory runtime directory).2 ++ unsupportedEntries runtime directory ++
      failed.map failureEntry)).insertionSort (·.id ≤ ·.id)

def followFallbacks (packages : List ValidatedProfilePackage) (package : ValidatedProfilePackage) :
    Except PackageError Unit :=
  catalogValidateProfile (profileCatalog runtime packages) package.profile

/-- The rounds in which packages with a dangling fallback are taken out. -/
def fallbackRounds (ready : List ValidatedProfilePackage) :
    List ValidatedProfilePackage × List (ValidatedProfilePackage × PackageError) :=
  Rounds.settle (followFallbacks runtime) ready.length ready

def demote (failures : List (ValidatedProfilePackage × PackageError)) : ProfileStoreEntry → ProfileStoreEntry
  | .ready package =>
    match failures.find? (·.1.id = package.id) with
    | some failure => failureEntry (package, failure.2)
    | none => .ready package
  | .invalid id path error => .invalid id path error

def refresh (directory : List DirectoryEntry) : List ProfileStoreEntry :=
  let entries := resolvedEntries runtime directory
  entries.map (demote (fallbackRounds runtime (readyPackages entries)).2)

/-! ### Packages and profiles of the store -/

def storePackage (entries : List ProfileStoreEntry) (id : String) : Except PackageError (Option ValidatedProfilePackage) := do
  validatePackageId id
  match entries.find? (·.id = id) with
  | some (.ready package) => .ok (some package)
  | some (.invalid _ _ error) => .error error
  | none => .ok none

def storeProfile (entries : List ProfileStoreEntry) (profile : SemanticProfile) (reference : ProfileReference) :
    Except PackageError SemanticProfile := do
  match (← storePackage entries reference.id) with
  | some package => .ok package.profile
  | none => .error (.missingParent profile.id reference.id reference.version)

def resolveProfileAgainstStore (entries : List ProfileStoreEntry) (profile : SemanticProfile) :
    Except PackageError SemanticProfile :=
  match profile.extends? with
  | none => .ok profile
  | some reference => do
    let parent ← (match builtinProfile runtime.builtins reference.id with
      | some parent => .ok parent
      | none => storeProfile entries profile reference)
    mapError .profile (resolveProfile runtime.toProfileParsers parent profile)

end

/-- A store, as its last refresh left it. -/
structure ProfileStore where
  directory : List DirectoryEntry
  entries : List ProfileStoreEntry

namespace ProfileStore

variable (runtime : ProfileRuntime)

def «open» (directory : List DirectoryEntry) : ProfileStore := ⟨directory, refresh runtime directory⟩

/-- The staged package in the place of what has its name. -/
def placed (directory : List DirectoryEntry) (id : String) (files : PackageFiles) : List DirectoryEntry :=
  directory.filter (·.name ≠ id) ++ [{ name := id, files }]

/-- The checks of `install` before it changes the directory. -/
def checkInstall (store : ProfileStore) (source : String) (files : PackageFiles) (replace : Bool) :
    Except PackageError ValidatedProfilePackage := do
  let package ← validatePackage runtime source files
  require (packageSupportsCurrentPlatform runtime package) .unsupportedPlatform
  let _ ← resolveProfileAgainstStore runtime store.entries package.profile
  require (replace || !store.directory.any (·.name = package.id)) (.alreadyInstalled package.id)
  .ok package

/-- What is read of the staged copy is what was read of the source. -/
def install (store : ProfileStore) (source : String) (files : PackageFiles) (replace : Bool) :
    Except PackageError ValidatedProfilePackage × ProfileStore :=
  match checkInstall runtime store source files replace with
  | .error error => (.error error, store)
  | .ok package =>
    let changed := ProfileStore.open runtime (placed store.directory package.id files)
    match storePackage changed.entries package.id with
    | .ok (some installed) => (.ok installed, changed)
    | .ok none => (.error (.notInstalled package.id), ProfileStore.open runtime store.directory)
    | .error error => (.error error, ProfileStore.open runtime store.directory)

def checkUninstall (store : ProfileStore) (id : String) : Except PackageError Unit := do
  let package ← storePackage store.entries id
  require package.isSome (.notInstalled id)
  require (store.directory.any (·.name = id)) (.unreadable id)

/-- The packages that were ready and no longer are. -/
def broken (store changed : ProfileStore) (id : String) : List String :=
  ((readyPackages store.entries).map ValidatedProfilePackage.id).filter fun other =>
    other ≠ id && other ∉ (readyPackages changed.entries).map ValidatedProfilePackage.id

def uninstall (store : ProfileStore) (id : String) : Except PackageError String × ProfileStore :=
  match checkUninstall store id with
  | .error error => (.error error, store)
  | .ok () =>
    let changed := ProfileStore.open runtime (store.directory.filter (·.name ≠ id))
    match broken store changed id with
    | [] => (.ok id, changed)
    | profiles => (.error (.dependedOn id profiles), ProfileStore.open runtime store.directory)

end ProfileStore

end DccCua
