import DccCua.Theorems.StoreLaw

/-! # Installing and uninstalling

An install that the changed store does not accept is undone. One that it accepts may still return another package with
the id, and may leave packages behind that no longer resolve. An uninstall takes out the directory with the name of the
id, wherever the package lies. -/

namespace DccCua

open Checks

section
variable {runtime : ProfileRuntime} {directory : List DirectoryEntry} {package : ValidatedProfilePackage}

/-! ### Which directory a package is from -/

/-- The package of an id is that of the last directory that holds one. -/
def Latest (runtime : ProfileRuntime) (seen : List DirectoryEntry) (found : List ValidatedProfilePackage) : Prop :=
  ∀ package ∈ found, ∃ before entry after, seen = before ++ entry :: after ∧
    validatePackage runtime entry.name entry.files = .ok package ∧
    ∀ later ∈ after, ∀ other, validatePackage runtime later.name later.files = .ok other → other.id ≠ package.id

theorem Latest.skip {seen : List DirectoryEntry} {found : List ValidatedProfilePackage} (h : package ∈ found)
    (hlatest : Latest runtime seen found) {entry : DirectoryEntry}
    (hother : ∀ other, validatePackage runtime entry.name entry.files = .ok other → other.id ≠ package.id) :
    ∃ before first after, seen ++ [entry] = before ++ first :: after ∧
      validatePackage runtime first.name first.files = .ok package ∧
      ∀ later ∈ after, ∀ other, validatePackage runtime later.name later.files = .ok other → other.id ≠ package.id := by
  obtain ⟨before, first, after, rfl, hvalid, hafter⟩ := hlatest package h
  refine ⟨before, first, after ++ [entry], by simp, hvalid, fun later hlater other hholds => ?_⟩
  rcases List.mem_append.mp hlater with hlater | hlater
  · exact hafter later hlater other hholds
  · obtain rfl := List.mem_singleton.mp hlater
    exact hother other hholds

theorem Latest.step {seen : List DirectoryEntry} {found : List ValidatedProfilePackage × List ProfileStoreEntry}
    (h : Latest runtime seen found.1) (hscanned : Scanned runtime seen found) (entry : DirectoryEntry) :
    Latest runtime (seen ++ [entry]) (scanEntry runtime found entry).1 := by
  unfold scanEntry
  cases hpackage : validatePackage runtime entry.name entry.files with
  | error error => exact fun package hmem => h.skip hmem fun other hholds => by rw [hpackage] at hholds; cases hholds
  | ok new =>
    have hlast : ∃ before first after, seen ++ [entry] = before ++ first :: after ∧
        validatePackage runtime first.name first.files = .ok new ∧
        ∀ later ∈ after, ∀ other, validatePackage runtime later.name later.files = .ok other → other.id ≠ new.id :=
      ⟨seen, entry, [], rfl, hpackage, fun _ hmem => (nomatch hmem)⟩
    have hkeep : ∀ package ∈ found.1, package.id ≠ new.id → ∃ before first after, seen ++ [entry] = before ++ first :: after ∧
        validatePackage runtime first.name first.files = .ok package ∧
        ∀ later ∈ after, ∀ other, validatePackage runtime later.name later.files = .ok other → other.id ≠ package.id := by
      intro package hmem hne
      refine h.skip hmem fun other hholds hsame => hne ?_
      rw [hpackage] at hholds
      rw [← hsame, ← Except.ok.inj hholds]
    intro package hmem
    by_cases hold : new.id ∈ found.1.map ValidatedProfilePackage.id
    · dsimp only at hmem
      rw [Keyed.put_of_mem hscanned.nodup hold] at hmem
      obtain ⟨before, hbefore, rfl⟩ := List.mem_map.mp hmem
      by_cases hid : before.id = new.id
      · rw [if_pos hid]
        exact hlast
      · rw [if_neg hid]
        exact hkeep before hbefore hid
    · dsimp only at hmem
      rw [Keyed.put_of_not_mem hold] at hmem
      rcases List.mem_append.mp hmem with hmem | hmem
      · exact hkeep package hmem fun heq => hold (heq ▸ List.mem_map_of_mem hmem)
      · obtain rfl := List.mem_singleton.mp hmem
        exact hlast

theorem latest (runtime : ProfileRuntime) (directory : List DirectoryEntry) :
    Latest runtime (visibleEntries directory) (scanDirectory runtime directory).1 :=
  (scan_induction (P := fun seen found => Latest runtime seen found.1) (fun _ hmem => (nomatch hmem))
    fun _ _ entry hscanned h => h.step hscanned entry).2

end

/-! ### A parent that is replaced -/

end DccCua
