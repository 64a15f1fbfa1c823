import DccCua.Theorems.ProfileStore

/-! # Which parent a package inherits from

Two resolvers look for the parent of a package, one among the packages as they lie in the directory and one in the
refreshed store. Both ask the built-in profiles first, under every spelling that these answer to. -/

namespace DccCua

open Checks

section
variable {runtime : ProfileRuntime} {directory : List DirectoryEntry} {child parent : ValidatedProfilePackage}
  {reference : ProfileReference} {base merged : SemanticProfile}

/-- A package inherits from the installed one that it names, for both resolvers. -/
structure ParentLaw (runtime : ProfileRuntime) (directory : List DirectoryEntry) (child parent : ValidatedProfilePackage)
    (reference : ProfileReference) (merged : SemanticProfile) : Prop where
  base : parentProfile runtime (candidatePackages runtime directory) child.profile reference = .ok parent.profile
  packages : resolveProfileFromPackages runtime (candidatePackages runtime directory) child.profile = .ok merged
  store : resolveProfileAgainstStore runtime (refresh runtime directory) child.profile = .ok merged

/-- The child names its parent, which resolves, and merges with it. -/
structure Mergeable (runtime : ProfileRuntime) (directory : List DirectoryEntry) (child parent : ValidatedProfilePackage)
    (reference : ProfileReference) (base merged : SemanticProfile) : Prop where
  childInstalled : child ∈ candidatePackages runtime directory
  parentInstalled : parent ∈ candidatePackages runtime directory
  inherits : child.profile.extends? = some reference
  named : reference.id = parent.id
  resolves : resolveProfileFromPackages runtime (candidatePackages runtime directory) parent.profile = .ok base
  merges : resolveProfile runtime.toProfileParsers base child.profile = .ok merged

/-- No built-in profile but the parent's own stands before the parent, no profile above it that inherits has the id of the
    child, and the parent is in the store where it is looked for. -/
structure ParentFound (runtime : ProfileRuntime) (directory : List DirectoryEntry) (child parent : ValidatedProfilePackage)
    (reference : ProfileReference) : Prop where
  unshadowed : builtinProfile runtime.builtins reference.id = some parent.profile ∨
    (builtinProfile runtime.builtins reference.id = none ∧
      parent.id ∈ (readyPackages (refresh runtime directory)).map ValidatedProfilePackage.id)
  acyclic : Unvisited runtime (candidatePackages runtime directory) [child.profile.id] parent.profile

theorem candidate_eq (hparent : parent ∈ candidatePackages runtime directory) {package : ValidatedProfilePackage}
    (hpackage : package ∈ candidatePackages runtime directory) (hid : package.id = parent.id) : package = parent := by
  have hfind := Keyed.find?_key candidate_nodup hpackage
  rw [hid, Keyed.find?_key candidate_nodup hparent] at hfind
  exact (Option.some.inj hfind).symm

/-- A package in the store has the profile that it resolves to. -/
theorem ready_profile (hparent : parent ∈ candidatePackages runtime directory)
    (hresolves : Resolves runtime (candidatePackages runtime directory) [] parent.profile base)
    {package : ValidatedProfilePackage} (hready : package ∈ readyPackages (refresh runtime directory))
    (hid : package.id = parent.id) : package.profile = base := by
  obtain ⟨candidate, hcandidate, hpackage, heq⟩ := mem_resolvedPackages.mp (ready_resolved hready)
  have hsame : candidate.id = parent.id := by
    rw [← hid, heq]
    rfl
  obtain rfl := candidate_eq hparent hcandidate hsame
  exact hresolves.unique hpackage

/-- A built-in profile resolves to itself. -/
theorem builtin_resolves {packages : List ValidatedProfilePackage} {profile : SemanticProfile}
    (hmem : profile ∈ runtime.builtins) (h : Resolves runtime packages [] profile base) : base = profile := by
  cases hextends : profile.extends? with
  | none => exact h.eq_self hextends
  | some reference =>
    obtain ⟨parent, above, hparent, habove, hmerge⟩ := h.above hextends
    obtain ⟨builtin, hbuiltin, hown, hself⟩ := runtime.inherited profile hmem reference hextends
    obtain rfl := Except.ok.inj (hparent.symm.trans (parentProfile_eq_ok.mpr (Or.inl hbuiltin)))
    obtain rfl := habove.eq_self hown
    exact Except.ok.inj (hmerge.symm.trans hself)

theorem storeProfile_eq_ok {profile : SemanticProfile} : storeProfile (refresh runtime directory) profile reference = .ok base ↔
    ∃ package ∈ readyPackages (refresh runtime directory), package.id = reference.id ∧ package.profile = base := by
  simp only [storeProfile, bind_eq_ok]
  constructor
  · rintro ⟨found, hfound, h⟩
    cases found with
    | none => cases h
    | some package =>
      obtain ⟨hready, hid⟩ := storePackage_eq_some.mp hfound
      exact ⟨package, hready, hid, Except.ok.inj h⟩
  · rintro ⟨package, hready, hid, rfl⟩
    exact ⟨some package, storePackage_eq_some.mpr ⟨hready, hid⟩, rfl⟩

theorem resolveProfileAgainstStore_eq_ok {profile : SemanticProfile} (hextends : profile.extends? = some reference) :
    resolveProfileAgainstStore runtime (refresh runtime directory) profile = .ok merged ↔
      ∃ above, (builtinProfile runtime.builtins reference.id = some above ∨
          (builtinProfile runtime.builtins reference.id = none ∧
            ∃ package ∈ readyPackages (refresh runtime directory), package.id = reference.id ∧ package.profile = above)) ∧
        resolveProfile runtime.toProfileParsers above profile = .ok merged := by
  simp only [resolveProfileAgainstStore, hextends, bind_eq_ok, mapError_eq_ok]
  refine exists_congr fun above => and_congr_left fun _ => ?_
  cases builtinProfile runtime.builtins reference.id with
  | some builtin => simp
  | none => simp [storeProfile_eq_ok]

/-- A package inherits from the installed one that it names exactly when that parent is found. -/
theorem parent_law_iff (h : Mergeable runtime directory child parent reference base merged) :
    ParentLaw runtime directory child parent reference merged ↔ ParentFound runtime directory child parent reference := by
  have hbase := resolveProfileFromPackages_eq_ok.mp h.resolves
  constructor
  · intro hlaw
    refine ⟨?_, ?_⟩
    · rcases parentProfile_eq_ok.mp hlaw.base with hbuiltin | ⟨hnone, -⟩
      · exact Or.inl hbuiltin
      · obtain ⟨above, hbuiltin | ⟨-, package, hready, hid, -⟩, -⟩ :=
          (resolveProfileAgainstStore_eq_ok h.inherits).mp hlaw.store
        · rw [hnone] at hbuiltin; cases hbuiltin
        · exact Or.inr ⟨hnone, List.mem_map.mpr ⟨package, hready, hid.trans h.named⟩⟩
    · obtain ⟨above, _, hparent, hresolves, -⟩ :=
        (resolveProfileFromPackages_eq_ok.mp hlaw.packages).above h.inherits
      obtain rfl := Except.ok.inj (hparent.symm.trans hlaw.base)
      exact hresolves.unvisited
  · intro hfound
    have hparent : parentProfile runtime (candidatePackages runtime directory) child.profile reference = .ok parent.profile := by
      rcases hfound.unshadowed with hbuiltin | ⟨hnone, -⟩
      · exact parentProfile_eq_ok.mpr (Or.inl hbuiltin)
      · have hfind := Keyed.find?_key candidate_nodup h.parentInstalled
        rw [← h.named] at hfind
        exact parentProfile_eq_ok.mpr (Or.inr ⟨hnone, parent, hfind, rfl⟩)
    refine ⟨hparent, ?_, (resolveProfileAgainstStore_eq_ok h.inherits).mpr ?_⟩
    · refine resolveProfileFromPackages_eq_ok.mpr (.inherited h.inherits List.not_mem_nil hparent ?_ h.merges)
      exact resolves_iff.mpr ⟨hbase, hfound.acyclic⟩
    · rcases hfound.unshadowed with hbuiltin | ⟨hnone, hready⟩
      · have hself := builtin_resolves (builtinProfile_mem hbuiltin) hbase
        exact ⟨parent.profile, Or.inl hbuiltin, hself ▸ h.merges⟩
      · obtain ⟨package, hmem, hid⟩ := List.mem_map.mp hready
        exact ⟨base, Or.inr ⟨hnone, package, hmem, hid.trans h.named.symm, ready_profile h.parentInstalled hbase hmem hid⟩, h.merges⟩

theorem Unvisited.of_own {packages : List ValidatedProfilePackage} {profile : SemanticProfile} {visiting : List String}
    (hown : profile.extends? = none) : Unvisited runtime packages visiting profile :=
  Resolves.unvisited (.own hown)

end

/-! ### Packages that extend an installed one -/

def sampleFiles (profile : SemanticProfile) : PackageFiles where
  manifest := .ok {
    schemaVersion := 2, kind := "dcc-cua-profile-package", id := profile.id, version := profile.profileVersion
    displayName := profile.displayName, description := "A profile", license := "MIT"
    artifacts := [⟨.semanticProfile, "profile.json"⟩], requires := ">=1.0.0" }
  artifacts := .ok ()
  profile := .ok profile

def sampleEntry (profile : SemanticProfile) : DirectoryEntry := { name := profile.id, files := sampleFiles profile }

def samplePackage (profile : SemanticProfile) : ValidatedProfilePackage where
  manifest := {
    schemaVersion := 2, kind := "dcc-cua-profile-package", id := profile.id, version := profile.profileVersion
    displayName := profile.displayName, description := "A profile", license := "MIT"
    artifacts := [⟨.semanticProfile, "profile.json"⟩], requires := ">=1.0.0" }
  profile := profile
  root := profile.id

/-- One built-in profile, that of Unreal. -/
def sampleRuntime : ProfileRuntime where
  toProfileParsers := sampleParsers
  current := (1, 0, 0)
  older version other := version.1 < other.1
  platform := .windows
  builtins := [sampleProfile "ue" none []]
  distinct := by decide
  valid profile hmem := by
    obtain rfl := List.mem_singleton.mp hmem
    decide
  inherited profile hmem reference h := by
    obtain rfl := List.mem_singleton.mp hmem
    cases h

/-- The studio profile over an installed base. -/
def sampleBase (id : String) : SemanticProfile := sampleProfile id none [sampleSurface "main_window" []]

def sampleStudio (parent : String) : SemanticProfile := sampleProfile "studio" (some ⟨parent, "^1.0"⟩) []

theorem mergeable_sample (parent : String) (hcandidates : candidatePackages sampleRuntime
      [sampleEntry (sampleBase parent), sampleEntry (sampleStudio parent)] =
        [samplePackage (sampleBase parent), samplePackage (sampleStudio parent)] ∨
      candidatePackages sampleRuntime [sampleEntry (sampleBase parent), sampleEntry (sampleStudio parent)] =
        [samplePackage (sampleStudio parent), samplePackage (sampleBase parent)])
    (hmerges : resolveProfile sampleParsers (sampleBase parent) (sampleStudio parent) =
      .ok (mergedProfile (sampleBase parent) (sampleStudio parent))) :
    Mergeable sampleRuntime [sampleEntry (sampleBase parent), sampleEntry (sampleStudio parent)]
      (samplePackage (sampleStudio parent)) (samplePackage (sampleBase parent)) ⟨parent, "^1.0"⟩ (sampleBase parent)
      (mergedProfile (sampleBase parent) (sampleStudio parent)) where
  childInstalled := by rcases hcandidates with h | h <;> simp [h]
  parentInstalled := by rcases hcandidates with h | h <;> simp [h]
  inherits := rfl
  named := rfl
  resolves := resolveProfileFromPackages_eq_ok.mpr (.own rfl)
  merges := hmerges

theorem parent_law_studio : ParentLaw sampleRuntime [sampleEntry (sampleBase "maya"), sampleEntry (sampleStudio "maya")]
    (samplePackage (sampleStudio "maya")) (samplePackage (sampleBase "maya")) ⟨"maya", "^1.0"⟩
    (mergedProfile (sampleBase "maya") (sampleStudio "maya")) :=
  (parent_law_iff (mergeable_sample "maya" (Or.inl (by decide)) (by decide))).mpr
    ⟨Or.inr ⟨by decide, by decide⟩, .of_own rfl⟩

/-- A package called `unreal` is taken for the built-in profile of Unreal. -/
theorem unreal_shadowed :
    ¬ ∀ (directory : List DirectoryEntry) (child parent : ValidatedProfilePackage) (reference : ProfileReference)
      (base merged : SemanticProfile), Mergeable sampleRuntime directory child parent reference base merged →
      ParentLaw sampleRuntime directory child parent reference merged := by
  intro h
  have hlaw := h _ _ _ _ _ _ (mergeable_sample "unreal" (Or.inr (by decide)) (by decide))
  have hbase := hlaw.packages
  revert hbase
  decide

end DccCua
