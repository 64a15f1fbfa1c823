import DccCua.Theorems.ProfileParents

/-! # What holds of a refreshed store

Each visible directory is reported once where no two packages share an id. What is ready has its fallbacks in the
catalog. Its parent is ready as well, unless the parent was taken out for a fallback that the child has overridden. -/

namespace DccCua

open Checks

section
variable {runtime : ProfileRuntime} {directory : List DirectoryEntry} {package : ValidatedProfilePackage}

/-! ### The catalog -/

/-- The directories of the packages and of the other entries of a scan. -/
def scannedPaths (found : List ValidatedProfilePackage × List ProfileStoreEntry) : List String :=
  found.1.map ValidatedProfilePackage.root ++ found.2.map ProfileStoreEntry.path

/-- Something that the entries say, and that the passes after the scan leave as the package has it. -/
structure Observes (entryOf : ProfileStoreEntry → String) (packageOf : ValidatedProfilePackage → String) : Prop where
  ready : ∀ package, entryOf (.ready package) = packageOf package
  failed : ∀ package error, entryOf (failureEntry (package, error)) = packageOf package
  resolved : ∀ package profile, packageOf { package with profile } = packageOf package

section Observations
variable {entryOf : ProfileStoreEntry → String} {packageOf : ValidatedProfilePackage → String}

theorem Observes.demote (h : Observes entryOf packageOf) (failures : List (ValidatedProfilePackage × PackageError))
    (entry : ProfileStoreEntry) : entryOf (DccCua.demote failures entry) = entryOf entry := by
  cases entry with
  | ready package =>
    simp only [DccCua.demote]
    split
    · rw [h.failed, h.ready]
    · rfl
  | invalid => rfl

end Observations

/-- Two visible directories that hold packages of one id. -/
def SharedIn (runtime : ProfileRuntime) (seen : List DirectoryEntry) (id : String) : Prop :=
  ∃ entry ∈ seen, ∃ other ∈ seen, entry.name ≠ other.name ∧
    (∃ package, validatePackage runtime entry.name entry.files = .ok package ∧ package.id = id) ∧
    ∃ package, validatePackage runtime other.name other.files = .ok package ∧ package.id = id

/-- What a scan reports of the directories that it has seen: the one whose package replaced another is reported twice, and
    where none did, each is reported once. -/
structure PathsReported (runtime : ProfileRuntime) (seen : List DirectoryEntry)
    (found : List ValidatedProfilePackage × List ProfileStoreEntry) : Prop where
  shared : ∀ package ∈ found.1, SharedIn runtime seen package.id → package.root ∈ found.2.map ProfileStoreEntry.path
  once : (seen.map DirectoryEntry.name).Nodup → (∀ id, ¬ SharedIn runtime seen id) → ∀ path,
    (scannedPaths found).count path = (seen.map DirectoryEntry.name).count path

theorem SharedIn.append {seen : List DirectoryEntry} {id : String} (h : SharedIn runtime seen id) (more : List DirectoryEntry) :
    SharedIn runtime (seen ++ more) id := by
  obtain ⟨entry, hentry, other, hother, h⟩ := h
  exact ⟨entry, List.mem_append_left _ hentry, other, List.mem_append_left _ hother, h⟩

/-- What the last directory adds to what is shared. -/
theorem sharedIn_concat {seen : List DirectoryEntry} {entry : DirectoryEntry} {id : String}
    (h : SharedIn runtime (seen ++ [entry]) id) : SharedIn runtime seen id ∨
      ∃ package, validatePackage runtime entry.name entry.files = .ok package ∧ package.id = id ∧
        ∃ other ∈ seen, ∃ package, validatePackage runtime other.name other.files = .ok package ∧ package.id = id := by
  obtain ⟨first, hfirst, second, hsecond, hne, ⟨package, hpackage, hid⟩, package', hpackage', hid'⟩ := h
  rcases List.mem_append.mp hfirst with hold | hlast <;> rcases List.mem_append.mp hsecond with hold' | hlast'
  · exact Or.inl ⟨first, hold, second, hold', hne, ⟨package, hpackage, hid⟩, package', hpackage', hid'⟩
  · obtain rfl := List.mem_singleton.mp hlast'
    exact Or.inr ⟨package', hpackage', hid', first, hold, package, hpackage, hid⟩
  · obtain rfl := List.mem_singleton.mp hlast
    exact Or.inr ⟨package, hpackage, hid, second, hold', package', hpackage', hid'⟩
  · exact absurd (congrArg DirectoryEntry.name ((List.mem_singleton.mp hlast).trans (List.mem_singleton.mp hlast').symm)) hne

theorem PathsReported.step {seen : List DirectoryEntry} {found : List ValidatedProfilePackage × List ProfileStoreEntry}
    (h : PathsReported runtime seen found) (hscanned : Scanned runtime seen found) (entry : DirectoryEntry) :
    PathsReported runtime (seen ++ [entry]) (scanEntry runtime found entry) := by
  have hcount : ∀ path, ((seen ++ [entry]).map DirectoryEntry.name).count path =
      (seen.map DirectoryEntry.name).count path + [entry.name].count path := by
    intro path
    rw [List.map_append, List.count_append]
    rfl
  have hbefore : ((seen ++ [entry]).map DirectoryEntry.name).Nodup → (∀ id, ¬ SharedIn runtime (seen ++ [entry]) id) → ∀ path,
      (scannedPaths found).count path = (seen.map DirectoryEntry.name).count path := by
    intro hnodup hnone
    rw [List.map_append] at hnodup
    exact h.once (List.nodup_append.mp hnodup).1 fun id hshared => hnone id (hshared.append _)
  unfold scanEntry
  cases hpackage : validatePackage runtime entry.name entry.files with
  | error error =>
    refine ⟨fun package hmem hshared => ?_, fun hnodup hnone path => ?_⟩
    · rcases sharedIn_concat hshared with hshared | ⟨_, hvalid, -⟩
      · rw [List.map_append]
        exact List.mem_append_left _ (h.shared package hmem hshared)
      · rw [hpackage] at hvalid; cases hvalid
    · rw [hcount, ← hbefore hnodup hnone path, scannedPaths, scannedPaths, List.map_append, ← List.append_assoc,
        List.count_append]
      rfl
  | ok new =>
    have hroot := (validatePackage_eq_ok hpackage).2
    by_cases hold : new.id ∈ found.1.map ValidatedProfilePackage.id
    · dsimp only
      rw [if_pos hold]
      refine ⟨fun package hmem hshared => ?_, fun hnodup hnone => ?_⟩
      · rw [List.map_append]
        rw [Keyed.put_of_mem hscanned.nodup hold] at hmem
        obtain ⟨before, hbefore, heq⟩ := List.mem_map.mp hmem
        by_cases hid : before.id = new.id
        · rw [if_pos hid] at heq
          rw [← heq, hroot]
          exact List.mem_append_right _ (List.mem_singleton_self _)
        · rw [if_neg hid] at heq
          obtain rfl := heq
          rcases sharedIn_concat hshared with hshared | ⟨_, hvalid, hsame, -⟩
          · exact List.mem_append_left _ (h.shared before hbefore hshared)
          · rw [hpackage] at hvalid
            exact absurd (hsame.symm.trans (congrArg ValidatedProfilePackage.id (Except.ok.inj hvalid).symm)) hid
      · obtain ⟨before, hbefore, hid⟩ := List.mem_map.mp hold
        obtain ⟨other, hother, hvalid⟩ := hscanned.held before hbefore
        rw [List.map_append] at hnodup
        have hname : other.name ≠ entry.name := (List.nodup_append.mp hnodup).2.2 _ (List.mem_map_of_mem hother) _
          (List.mem_singleton_self _)
        exact absurd ⟨other, List.mem_append_left _ hother, entry, List.mem_append_right _ (List.mem_singleton_self _),
          hname, ⟨before, hvalid, hid⟩, new, hpackage, rfl⟩ (hnone new.id)
    · dsimp only
      rw [if_neg hold, Keyed.put_of_not_mem hold]
      refine ⟨fun package hmem hshared => ?_, fun hnodup hnone path => ?_⟩
      · rcases sharedIn_concat hshared with hshared | ⟨package', hvalid, hsame, other, hother, twin, htwin, hid⟩
        · rcases List.mem_append.mp hmem with hmem | hmem
          · exact h.shared package hmem hshared
          · obtain rfl := List.mem_singleton.mp hmem
            obtain ⟨other, hother, -, -, -, ⟨twin, htwin, hid⟩, -⟩ := hshared
            exact absurd (hid ▸ hscanned.found other hother twin htwin) hold
        · rw [hpackage] at hvalid
          obtain rfl := Except.ok.inj hvalid
          rw [← hsame] at hid
          exact absurd (hid ▸ hscanned.found other hother twin htwin) hold
      · have hbefore' := hbefore hnodup hnone path
        rw [scannedPaths, List.count_append] at hbefore'
        rw [hcount, ← hbefore', scannedPaths, List.map_append, List.count_append, List.count_append, List.map_singleton, hroot]
        dsimp only
        omega

end

/-! ### A store with a child and its parent -/

/-- A target that falls back to a profile that is not there. -/
def danglingTarget : SemanticTarget := { sampleTarget "save" "Save" with fallback := some ⟨"missing", "main_window"⟩ }

-- the parent is taken out for its target, and the child that has replaced the target stays
example : (readyPackages (refresh sampleRuntime
      [sampleEntry (sampleProfile "maya" none [sampleSurface "main_window" [danglingTarget]]),
        sampleEntry (sampleProfile "studio" (some ⟨"maya", "^1.0"⟩)
          [sampleSurface "main_window" [sampleTarget "save" "Save"]])])).map ValidatedProfilePackage.id = ["studio"] := by
  decide

end DccCua
