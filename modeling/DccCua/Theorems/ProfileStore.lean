import DccCua.Theorems.ProfileResolution

/-! # What a refresh finds

Each visible directory holds a package or does not, and a package of the same id takes the place of an earlier one. The
entries of a refreshed store are the packages that resolve and whose fallbacks are followed in every round, and one
entry for everything else. -/

namespace DccCua

open Checks

section
variable {runtime : ProfileRuntime} {directory : List DirectoryEntry} {package : ValidatedProfilePackage}

/-! ### Packages -/

/-- What validation finds of a package. -/
structure ValidatedProfilePackage.Valid (runtime : ProfileRuntime) (package : ValidatedProfilePackage) : Prop where
  profileId : package.profile.id = package.id
  identifier : isIdentifier package.id = true
  valid : package.profile.validate runtime.toProfileParsers = .ok ()

theorem validatePackage_eq_ok {root : String} {files : PackageFiles} (h : validatePackage runtime root files = .ok package) :
    package.Valid runtime ∧ package.root = root := by
  simp only [validatePackage, validateManifest, validatePackageId, bind_eq_ok, require_eq_ok, mapError_eq_ok,
    decide_eq_true_iff, Except.ok.injEq] at h
  obtain ⟨manifest, -, -, ⟨-, -, -, -, -, hid, -⟩, -, -, profile, -, ⟨⟩, hvalid, -, hsame, -, -, -, -, rfl⟩ := h
  exact ⟨⟨hsame, hid, hvalid⟩, rfl⟩

/-- The package is what a visible directory holds. -/
def HeldIn (runtime : ProfileRuntime) (directory : List DirectoryEntry) (package : ValidatedProfilePackage) : Prop :=
  ∃ entry ∈ directory, entry.isVisible = true ∧ validatePackage runtime entry.name entry.files = .ok package

theorem HeldIn.valid (h : HeldIn runtime directory package) : package.Valid runtime := by
  obtain ⟨_, _, _, hpackage⟩ := h
  exact (validatePackage_eq_ok hpackage).1

theorem mem_visibleEntries {entry : DirectoryEntry} :
    entry ∈ visibleEntries directory ↔ entry ∈ directory ∧ entry.isVisible = true := by
  rw [visibleEntries, List.mem_insertionSort, List.mem_filter]

/-! ### The scan -/

/-- The packages of a scan, by their ids, are those of the directories that were seen. -/
structure Scanned (runtime : ProfileRuntime) (seen : List DirectoryEntry)
    (found : List ValidatedProfilePackage × List ProfileStoreEntry) : Prop where
  nodup : (found.1.map ValidatedProfilePackage.id).Nodup
  held : ∀ package ∈ found.1, ∃ entry ∈ seen, validatePackage runtime entry.name entry.files = .ok package
  found : ∀ entry ∈ seen, ∀ package, validatePackage runtime entry.name entry.files = .ok package →
    package.id ∈ found.1.map ValidatedProfilePackage.id

theorem later_id (x y : ValidatedProfilePackage) (_ : x.id = y.id) : ((fun _ later => later : ValidatedProfilePackage →
    ValidatedProfilePackage → ValidatedProfilePackage) x y).id = y.id := rfl

theorem mem_put {xs : List ValidatedProfilePackage} {y z : ValidatedProfilePackage}
    (h : z ∈ Keyed.put ValidatedProfilePackage.id (fun _ later => later) xs y) : z = y ∨ z ∈ xs := by
  induction xs with
  | nil => exact Or.inl (List.mem_singleton.mp h)
  | cons x xs ih =>
    rw [Keyed.put] at h
    split at h
    · rcases List.mem_cons.mp h with rfl | h
      · exact Or.inl rfl
      · exact Or.inr (List.mem_cons_of_mem _ h)
    · rcases List.mem_cons.mp h with rfl | h
      · exact Or.inr List.mem_cons_self
      · exact (ih h).imp_right (List.mem_cons_of_mem _)

theorem Scanned.step {seen : List DirectoryEntry} {found : List ValidatedProfilePackage × List ProfileStoreEntry}
    (h : Scanned runtime seen found) (entry : DirectoryEntry) :
    Scanned runtime (seen ++ [entry]) (scanEntry runtime found entry) := by
  unfold scanEntry
  cases hpackage : validatePackage runtime entry.name entry.files with
  | error error =>
    refine ⟨h.nodup, fun package hmem => ?_, fun entry' hmem package hvalid => ?_⟩
    · obtain ⟨entry', hentry, hvalid⟩ := h.held package hmem
      exact ⟨entry', List.mem_append_left _ hentry, hvalid⟩
    · rcases List.mem_append.mp hmem with hmem | hmem
      · exact h.found entry' hmem package hvalid
      · obtain rfl := List.mem_singleton.mp hmem
        rw [hpackage] at hvalid
        cases hvalid
  | ok new =>
    have hkeys := Keyed.keys_put later_id found.1 new
    have hsub : ∀ id, id = new.id ∨ id ∈ found.1.map ValidatedProfilePackage.id →
        id ∈ (Keyed.put ValidatedProfilePackage.id (fun _ later => later) found.1 new).map ValidatedProfilePackage.id := by
      intro id hid
      rw [hkeys]
      split
      · rename_i hold
        exact hid.elim (fun heq => heq ▸ hold) (fun hmem => hmem)
      · exact List.mem_append.mpr (hid.symm.imp_right fun heq => List.mem_singleton.mpr heq)
    refine ⟨Keyed.nodup_put later_id h.nodup new, fun package hmem => ?_, fun entry' hmem package hvalid => hsub _ ?_⟩
    · rcases mem_put hmem with rfl | hmem
      · exact ⟨entry, List.mem_append_right _ (List.mem_singleton_self _), hpackage⟩
      · obtain ⟨entry', hentry, hvalid⟩ := h.held package hmem
        exact ⟨entry', List.mem_append_left _ hentry, hvalid⟩
    · rcases List.mem_append.mp hmem with hmem | hmem
      · exact Or.inr (h.found entry' hmem package hvalid)
      · obtain rfl := List.mem_singleton.mp hmem
        rw [hpackage] at hvalid
        exact Or.inl (congrArg ValidatedProfilePackage.id (Except.ok.inj hvalid).symm)

/-- What every directory that a scan comes to preserves. -/
theorem scan_induction {P : List DirectoryEntry → List ValidatedProfilePackage × List ProfileStoreEntry → Prop}
    (hstart : P [] ([], []))
    (hstep : ∀ seen found entry, Scanned runtime seen found → P seen found → P (seen ++ [entry]) (scanEntry runtime found entry)) :
    Scanned runtime (visibleEntries directory) (scanDirectory runtime directory) ∧
      P (visibleEntries directory) (scanDirectory runtime directory) := by
  have hall : ∀ (entries seen : List DirectoryEntry) (found : List ValidatedProfilePackage × List ProfileStoreEntry),
      Scanned runtime seen found → P seen found →
      Scanned runtime (seen ++ entries) (entries.foldl (scanEntry runtime) found) ∧
        P (seen ++ entries) (entries.foldl (scanEntry runtime) found) := by
    intro entries
    induction entries with
    | nil =>
      intro seen found hscanned h
      rw [List.append_nil]
      exact ⟨hscanned, h⟩
    | cons entry entries ih =>
      intro seen found hscanned h
      have hrest := ih _ _ (hscanned.step entry) (hstep seen found entry hscanned h)
      rwa [List.append_assoc, List.singleton_append] at hrest
  have hnone : Scanned runtime [] ([], []) :=
    ⟨List.nodup_nil, fun _ hmem => (nomatch hmem), fun _ hmem => (nomatch hmem)⟩
  exact hall (visibleEntries directory) [] _ hnone hstart

theorem scanned (runtime : ProfileRuntime) (directory : List DirectoryEntry) :
    Scanned runtime (visibleEntries directory) (scanDirectory runtime directory) :=
  (scan_induction (P := fun _ _ => True) trivial fun _ _ _ _ _ => trivial).1

/-! ### The candidates -/

theorem candidate_nodup : ((candidatePackages runtime directory).map ValidatedProfilePackage.id).Nodup :=
  (List.filter_sublist.map ValidatedProfilePackage.id).nodup (scanned runtime directory).nodup

theorem candidate_held (h : package ∈ candidatePackages runtime directory) : HeldIn runtime directory package := by
  obtain ⟨entry, hentry, hpackage⟩ := (scanned runtime directory).held package (List.mem_of_mem_filter h)
  exact ⟨entry, (mem_visibleEntries.mp hentry).1, (mem_visibleEntries.mp hentry).2, hpackage⟩

theorem resolveProfile_keeps {parsers : ProfileParsers} {parent child resolved : SemanticProfile}
    (h : resolveProfile parsers parent child = .ok resolved) : resolved.id = child.id ∧ resolved.extends? = child.extends? := by
  cases hextends : child.extends? with
  | none =>
    obtain ⟨-, -, rfl⟩ := (resolveProfile_own hextends).mp h
    exact ⟨rfl, hextends⟩
  | some reference =>
    obtain ⟨-, -, -, -, -, rfl⟩ := (resolveProfile_eq_ok hextends).mp h
    exact ⟨rfl, hextends⟩

theorem Resolves.keeps {packages : List ValidatedProfilePackage} {visiting : List String} {profile resolved : SemanticProfile}
    (h : Resolves runtime packages visiting profile resolved) :
    resolved.id = profile.id ∧ resolved.extends? = profile.extends? := by
  cases h with
  | own => exact ⟨rfl, rfl⟩
  | inherited _ _ _ _ hmerge => exact resolveProfile_keeps hmerge

/-- The resolved packages are the candidates that resolve, with the profiles that they resolve to. -/
theorem mem_resolvedPackages : package ∈ resolvedPackages runtime directory ↔
    ∃ candidate ∈ candidatePackages runtime directory,
      Resolves runtime (candidatePackages runtime directory) [] candidate.profile package.profile ∧
        package = { candidate with profile := package.profile } := by
  rw [resolvedPackages, List.mem_filterMap]
  refine exists_congr fun candidate => ?_
  rw [withResolved]
  constructor
  · rintro ⟨hmem, hresolved⟩
    split at hresolved
    · rename_i profile hprofile
      cases hresolved
      have h := (mem_resolveRounds candidate_nodup rfl).mp ⟨hmem, resolveProfileFromPackages_eq_ok.mp hprofile⟩
      exact ⟨h.1, h.2, rfl⟩
    · cases hresolved
  · rintro ⟨hmem, hresolves, heq⟩
    have h := (mem_resolveRounds candidate_nodup rfl).mpr ⟨hmem, hresolves⟩
    refine ⟨h.1, ?_⟩
    rw [resolvePackage, resolveProfileFromPackages_eq_ok.mpr h.2]
    exact congrArg some heq.symm

theorem map_filterMap_some {α β γ : Type} {f : α → Option β} {g : β → γ} {k : α → γ} {xs : List α}
    (h : ∀ x ∈ xs, ∃ y, f x = some y ∧ g y = k x) : (xs.filterMap f).map g = xs.map k := by
  induction xs with
  | nil => rfl
  | cons x xs ih =>
    obtain ⟨⟨y, hy, hkey⟩, hrest⟩ := List.forall_mem_cons.mp h
    rw [List.filterMap_cons, hy, List.map_cons, List.map_cons, hkey, ih hrest]

theorem resolved_ids : (resolvedPackages runtime directory).map ValidatedProfilePackage.id =
    (resolveRounds runtime (candidatePackages runtime directory)).1.map ValidatedProfilePackage.id := by
  refine map_filterMap_some fun candidate hmem => ?_
  obtain ⟨profile, hresolves⟩ := resolves_of_kept rfl hmem
  refine ⟨{ candidate with profile }, ?_, rfl⟩
  rw [withResolved, resolvePackage, resolveProfileFromPackages_eq_ok.mpr hresolves]

theorem resolved_nodup : ((resolvedPackages runtime directory).map ValidatedProfilePackage.id).Nodup := by
  rw [resolved_ids]
  exact ((Rounds.settle_sublist _ _ _).map _).nodup candidate_nodup

/-! ### The entries -/

theorem readyPackages_append (entries entries' : List ProfileStoreEntry) :
    readyPackages (entries ++ entries') = readyPackages entries ++ readyPackages entries' := List.filterMap_append

theorem readyPackages_ready (packages : List ValidatedProfilePackage) :
    readyPackages (packages.map ProfileStoreEntry.ready) = packages := by
  induction packages with
  | nil => rfl
  | cons package packages ih => exact congrArg (package :: ·) ih

theorem mem_readyPackages {entries : List ProfileStoreEntry} :
    package ∈ readyPackages entries ↔ ProfileStoreEntry.ready package ∈ entries := by
  rw [readyPackages, List.mem_filterMap]
  constructor
  · rintro ⟨entry, hmem, hentry⟩
    cases entry with
    | ready package' =>
      cases hentry
      exact hmem
    | invalid => cases hentry
  · exact fun hmem => ⟨_, hmem, rfl⟩

/-- Entries that report an error. -/
def AllInvalid (entries : List ProfileStoreEntry) : Prop := ∀ entry ∈ entries, entry.package? = none

theorem readyPackages_invalid {entries : List ProfileStoreEntry} (h : AllInvalid entries) : readyPackages entries = [] :=
  List.filterMap_eq_nil_iff.mpr h

theorem allInvalid_scan : AllInvalid (scanDirectory runtime directory).2 := by
  refine (scan_induction (P := fun _ found => AllInvalid found.2) (fun _ hmem => (nomatch hmem)) ?_).2
  intro seen found entry _ h
  have hlast : ∀ error : PackageError, AllInvalid (found.2 ++ [.invalid entry.name entry.name error]) := by
    intro error other hmem
    rcases List.mem_append.mp hmem with hmem | hmem
    · exact h other hmem
    · obtain rfl := List.mem_singleton.mp hmem
      rfl
  unfold scanEntry
  split
  · dsimp only
    split
    · exact hlast _
    · exact h
  · exact hlast _

/-- What the resolution leaves that is no package. -/
def invalidEntries (runtime : ProfileRuntime) (directory : List DirectoryEntry) : List ProfileStoreEntry :=
  (scanDirectory runtime directory).2 ++ unsupportedEntries runtime directory ++
    (resolveRounds runtime (candidatePackages runtime directory)).2.map failureEntry

theorem allInvalid_entries : AllInvalid (invalidEntries runtime directory) := by
  intro entry hmem
  rw [invalidEntries, List.mem_append, List.mem_append] at hmem
  rcases hmem with (hmem | hmem) | hmem
  · exact allInvalid_scan entry hmem
  · obtain ⟨package, -, rfl⟩ := List.mem_map.mp hmem
    rfl
  · obtain ⟨failure, -, rfl⟩ := List.mem_map.mp hmem
    rfl

/-- The packages that the fallback rounds begin with. -/
def followedPackages (runtime : ProfileRuntime) (directory : List DirectoryEntry) : List ValidatedProfilePackage :=
  readyPackages (resolvedEntries runtime directory)

theorem followed_perm : (followedPackages runtime directory).Perm (resolvedPackages runtime directory) := by
  have hsort := (List.perm_insertionSort (·.id ≤ ·.id)
    ((resolvedPackages runtime directory).map ProfileStoreEntry.ready ++ invalidEntries runtime directory)).filterMap
      ProfileStoreEntry.package?
  have hready : readyPackages ((resolvedPackages runtime directory).map ProfileStoreEntry.ready ++
      invalidEntries runtime directory) = resolvedPackages runtime directory := by
    rw [readyPackages_append, readyPackages_ready, readyPackages_invalid allInvalid_entries, List.append_nil]
  rw [readyPackages] at hready
  rwa [hready] at hsort

theorem followed_nodup : ((followedPackages runtime directory).map ValidatedProfilePackage.id).Nodup :=
  (followed_perm.map _).nodup_iff.mpr resolved_nodup

theorem demote_id (failures : List (ValidatedProfilePackage × PackageError)) (entry : ProfileStoreEntry) :
    (demote failures entry).id = entry.id := by
  cases entry with
  | ready package =>
    simp only [demote]
    split <;> rfl
  | invalid => rfl

theorem readyPackages_demote (failures : List (ValidatedProfilePackage × PackageError)) (entries : List ProfileStoreEntry) :
    readyPackages (entries.map (demote failures)) =
      (readyPackages entries).filter fun package => failures.find? (·.1.id = package.id) = none := by
  induction entries with
  | nil => rfl
  | cons entry entries ih =>
    cases entry with
    | invalid id path error => exact ih
    | ready package =>
      cases hfind : failures.find? (·.1.id = package.id) with
      | none =>
        have hself : demote failures (.ready package) = .ready package := by simp only [demote, hfind]
        have hready : readyPackages (.ready package :: entries) = package :: readyPackages entries := rfl
        rw [List.map_cons, hself, hready, List.filter_cons, if_pos (decide_eq_true hfind), ← ih]
        rfl
      | some failure =>
        have hfail : demote failures (.ready package) = failureEntry (package, failure.2) := by simp only [demote, hfind]
        have hready : readyPackages (.ready package :: entries) = package :: readyPackages entries := rfl
        rw [List.map_cons, hfail, hready, List.filter_cons, if_neg (by simp [hfind]), ← ih]
        rfl

/-- The packages that are ready are those that the fallback rounds leave. -/
theorem ready_eq : readyPackages (refresh runtime directory) = (fallbackRounds runtime (followedPackages runtime directory)).1 := by
  have hnodup : ((followedPackages runtime directory).map ValidatedProfilePackage.id).Nodup := followed_nodup
  have hperm := (Rounds.settle_perm (followFallbacks runtime) (followedPackages runtime directory).length
    (followedPackages runtime directory)).map ValidatedProfilePackage.id
  rw [List.map_append] at hperm
  have hapart := (List.nodup_append.mp (hperm.nodup_iff.mpr hnodup)).2.2
  have hsub := Rounds.settle_sublist (followFallbacks runtime) (followedPackages runtime directory).length
    (followedPackages runtime directory)
  have hstart : readyPackages (refresh runtime directory) = (followedPackages runtime directory).filter fun package =>
      (fallbackRounds runtime (followedPackages runtime directory)).2.find? (·.1.id = package.id) = none :=
    readyPackages_demote _ _
  rw [hstart]
  conv => rhs; rw [fallbackRounds, Keyed.sublist_eq_filter hsub hnodup.of_map]
  refine List.filter_congr fun package hmem => decide_eq_decide.mpr ⟨fun hnone => ?_, fun hkept => ?_⟩
  · by_contra hgone
    have hall := (Rounds.settle_perm (followFallbacks runtime) (followedPackages runtime directory).length
      (followedPackages runtime directory)).mem_iff.mpr hmem
    rcases List.mem_append.mp hall with hkept | hdropped
    · exact hgone hkept
    · obtain ⟨failure, hfailure, rfl⟩ := List.mem_map.mp hdropped
      simpa using List.find?_eq_none.mp hnone failure hfailure
  · refine List.find?_eq_none.mpr fun failure hfailure hsame => ?_
    refine hapart package.id (List.mem_map_of_mem hkept) failure.1.id ?_ (of_decide_eq_true hsame).symm
    exact List.mem_map_of_mem (List.mem_map_of_mem hfailure)

theorem mem_ready_iff : package ∈ readyPackages (refresh runtime directory) ↔
    Rounds.Lasts (followFallbacks runtime) (followedPackages runtime directory) package := by
  rw [ready_eq]
  exact Rounds.mem_settle_iff (Nat.le_refl _)

theorem ready_resolved (h : package ∈ readyPackages (refresh runtime directory)) :
    package ∈ resolvedPackages runtime directory :=
  followed_perm.subset ((mem_ready_iff.mp h) 0)

theorem find?_refresh (id : String) : (refresh runtime directory).find? (·.id = id) =
    (((resolvedPackages runtime directory).map ProfileStoreEntry.ready ++ invalidEntries runtime directory).find?
      (·.id = id)).map (demote (fallbackRounds runtime (followedPackages runtime directory)).2) := by
  have hkey : (fun entry : ProfileStoreEntry => decide (entry.id = id)) ∘
      demote (fallbackRounds runtime (followedPackages runtime directory)).2 = fun entry => decide (entry.id = id) := by
    funext entry
    simp only [Function.comp_apply, demote_id]
  have hsort := Keyed.find?_insertionSort ProfileStoreEntry.id
    (r := fun entry other : ProfileStoreEntry => entry.id ≤ other.id) (fun _ _ heq => heq ▸ String.le_refl _) id
    ((resolvedPackages runtime directory).map ProfileStoreEntry.ready ++ invalidEntries runtime directory)
  have hstart : refresh runtime directory = (resolvedEntries runtime directory).map
      (demote (fallbackRounds runtime (followedPackages runtime directory)).2) := rfl
  rw [hstart, List.find?_map, hkey]
  exact congrArg _ hsort

/-- The first entry with the id of a package that resolves is the package itself. -/
theorem find?_resolved (h : package ∈ resolvedPackages runtime directory) :
    (refresh runtime directory).find? (·.id = package.id) =
      some (demote (fallbackRounds runtime (followedPackages runtime directory)).2 (.ready package)) := by
  have hfound := Keyed.find?_key resolved_nodup h
  have hkey : (fun entry : ProfileStoreEntry => decide (entry.id = package.id)) ∘ ProfileStoreEntry.ready =
      fun other => decide (other.id = package.id) := rfl
  rw [find?_refresh, List.find?_append, List.find?_map, hkey, hfound]
  rfl

theorem resolved_valid (h : package ∈ resolvedPackages runtime directory) : isIdentifier package.id = true := by
  obtain ⟨candidate, hmem, -, heq⟩ := mem_resolvedPackages.mp h
  rw [heq]
  exact (candidate_held hmem).valid.identifier

theorem storePackage_eq_some {id : String} : storePackage (refresh runtime directory) id = .ok (some package) ↔
    package ∈ readyPackages (refresh runtime directory) ∧ package.id = id := by
  simp only [storePackage, validatePackageId, bind_eq_ok, require_eq_ok]
  constructor
  · rintro ⟨-, -, h⟩
    split at h
    · rename_i found hfind
      cases h
      have hid := List.find?_some hfind
      exact ⟨mem_readyPackages.mpr (List.mem_of_find?_eq_some hfind), of_decide_eq_true hid⟩
    · cases h
    · cases h
  · rintro ⟨hready, rfl⟩
    have hresolved := ready_resolved hready
    refine ⟨(), resolved_valid hresolved, ?_⟩
    have hself : demote (fallbackRounds runtime (followedPackages runtime directory)).2 (.ready package) = .ready package := by
      have hmem := mem_readyPackages.mp hready
      have hfind := find?_resolved hresolved
      obtain ⟨entry, -, hentry⟩ := List.mem_map.mp hmem
      cases entry with
      | invalid => cases hentry
      | ready other =>
        simp only [demote] at hentry
        split at hentry
        · cases hentry
        · rename_i hnone
          obtain rfl := ProfileStoreEntry.ready.inj hentry
          simp only [demote, followedPackages, hnone]
    rw [find?_resolved hresolved, hself]

end

end DccCua
