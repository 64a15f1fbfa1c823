import DccCua.Profiles.Store
import DccCua.Theorems.ProfileMerge
import Mathlib.Logic.Relation

/-! # Resolving packages

A package resolves where the chain of its parents ends, each one merges with the one above it, and no profile that
inherits is met twice. The rounds of the store keep exactly the packages that resolve, and to the same profiles. -/

namespace DccCua

open Checks

section
variable {runtime : ProfileRuntime} {packages kept : List ValidatedProfilePackage}
  {profile parent base resolved : SemanticProfile} {reference : ProfileReference} {visiting : List String}

/-- The recursion over the parents, without a bound on its depth. -/
inductive Resolves (runtime : ProfileRuntime) (packages : List ValidatedProfilePackage) :
    List String → SemanticProfile → SemanticProfile → Prop where
  | own {visiting : List String} {profile : SemanticProfile} (hown : profile.extends? = none) :
      Resolves runtime packages visiting profile profile
  | inherited {visiting : List String} {profile parent base resolved : SemanticProfile} {reference : ProfileReference}
      (hextends : profile.extends? = some reference) (hnew : profile.id ∉ visiting)
      (hparent : parentProfile runtime packages profile reference = .ok parent)
      (hbase : Resolves runtime packages (profile.id :: visiting) parent base)
      (hmerge : resolveProfile runtime.toProfileParsers base profile = .ok resolved) :
      Resolves runtime packages visiting profile resolved

/-- The parent of a profile, as the packages have it. -/
def Inherits (runtime : ProfileRuntime) (packages : List ValidatedProfilePackage) (profile parent : SemanticProfile) : Prop :=
  ∃ reference, profile.extends? = some reference ∧ parentProfile runtime packages profile reference = .ok parent

/-- The profiles that are merged into a profile, it included. -/
abbrev Ancestor (runtime : ProfileRuntime) (packages : List ValidatedProfilePackage) : SemanticProfile → SemanticProfile → Prop :=
  Relation.ReflTransGen (Inherits runtime packages)

/-! ### The depth of the recursion -/

def profileIds (runtime : ProfileRuntime) (packages : List ValidatedProfilePackage) : List String :=
  runtime.builtins.map SemanticProfile.id ++ packages.map (·.profile.id)

theorem builtinProfile_mem {profiles : List SemanticProfile} {id : String} (h : builtinProfile profiles id = some parent) :
    parent ∈ profiles := List.mem_of_find?_eq_some h

theorem parentProfile_eq_ok : parentProfile runtime packages profile reference = .ok parent ↔
    builtinProfile runtime.builtins reference.id = some parent ∨
      (builtinProfile runtime.builtins reference.id = none ∧
        ∃ package, packages.find? (·.id = reference.id) = some package ∧ package.profile = parent) := by
  unfold parentProfile
  cases hbuiltin : builtinProfile runtime.builtins reference.id with
  | some builtin => simp
  | none =>
    cases hfind : packages.find? (·.id = reference.id) with
    | some package => simp
    | none => simp

theorem parentProfile_id_mem (h : parentProfile runtime packages profile reference = .ok parent) :
    parent.id ∈ profileIds runtime packages := by
  rcases parentProfile_eq_ok.mp h with hbuiltin | ⟨-, package, hfind, rfl⟩
  · exact List.mem_append_left _ (List.mem_map_of_mem (builtinProfile_mem hbuiltin))
  · exact List.mem_append_right _ (List.mem_map_of_mem (List.mem_of_find?_eq_some hfind))

theorem resolves_of_eq_ok {depth : Nat} (h : resolveVisiting runtime packages depth visiting profile = .ok resolved) :
    Resolves runtime packages visiting profile resolved := by
  induction depth generalizing visiting profile resolved with
  | zero =>
    unfold resolveVisiting at h
    cases hextends : profile.extends? with
    | none =>
      rw [hextends] at h
      cases h
      exact .own hextends
    | some reference =>
      rw [hextends] at h
      cases h
  | succ depth ih =>
    unfold resolveVisiting at h
    cases hextends : profile.extends? with
    | none =>
      rw [hextends] at h
      cases h
      exact .own hextends
    | some reference =>
      simp only [hextends, bind_eq_ok, require_eq_ok, decide_eq_true_iff, mapError_eq_ok] at h
      obtain ⟨-, hnew, parent, hparent, base, hbase, hmerge⟩ := h
      exact .inherited hextends hnew hparent (ih hbase) hmerge

/-- The recursion meets each profile once, so it is not deeper than there are profiles. -/
theorem eq_ok_of_resolves (h : Resolves runtime packages visiting profile resolved) : ∀ {depth : Nat} {first : String},
    visiting.Nodup → visiting ⊆ first :: profileIds runtime packages → profile.id ∈ first :: profileIds runtime packages →
    (profileIds runtime packages).length + 1 ≤ depth + visiting.length →
    resolveVisiting runtime packages depth visiting profile = .ok resolved := by
  induction h with
  | own hown =>
    intro depth first _ _ _ _
    unfold resolveVisiting
    rw [hown]
  | @inherited visiting profile parent base resolved reference hextends hnew hparent hbase hmerge ih =>
    intro depth first hnodup hvisiting hprofile hdepth
    have hnodup' : (profile.id :: visiting).Nodup := List.nodup_cons.mpr ⟨hnew, hnodup⟩
    have hvisiting' : profile.id :: visiting ⊆ first :: profileIds runtime packages := List.cons_subset.mpr ⟨hprofile, hvisiting⟩
    cases depth with
    | zero =>
      have hlength := (List.subperm_of_subset hnodup' hvisiting').length_le
      rw [List.length_cons, List.length_cons] at hlength
      omega
    | succ depth =>
      have hrest := ih hnodup' hvisiting' (List.mem_cons_of_mem _ (parentProfile_id_mem hparent))
        (show _ ≤ depth + _ by rw [List.length_cons]; omega)
      unfold resolveVisiting
      simp only [hextends, bind_eq_ok, require_eq_ok, decide_eq_true_iff, mapError_eq_ok]
      exact ⟨(), hnew, parent, hparent, base, hrest, hmerge⟩

theorem resolveProfileFromPackages_eq_ok :
    resolveProfileFromPackages runtime packages profile = .ok resolved ↔ Resolves runtime packages [] profile resolved := by
  refine ⟨resolves_of_eq_ok, fun h => eq_ok_of_resolves h List.nodup_nil (List.nil_subset (profile.id :: _))
    List.mem_cons_self ?_⟩
  simp [profileIds]

/-! ### Who is met on the way -/

theorem Resolves.eq_self (h : Resolves runtime packages visiting profile resolved) (hown : profile.extends? = none) :
    resolved = profile := by
  cases h with
  | own => rfl
  | inherited hextends => rw [hown] at hextends; cases hextends

theorem Resolves.above (h : Resolves runtime packages visiting profile resolved) (hextends : profile.extends? = some reference) :
    ∃ parent base, parentProfile runtime packages profile reference = .ok parent ∧
      Resolves runtime packages (profile.id :: visiting) parent base ∧
      resolveProfile runtime.toProfileParsers base profile = .ok resolved := by
  cases h with
  | own hown => rw [hextends] at hown; cases hown
  | inherited hother _ hparent hbase hmerge =>
    obtain rfl := Option.some.inj (hother.symm.trans hextends)
    exact ⟨_, _, hparent, hbase, hmerge⟩

theorem Resolves.unique (h : Resolves runtime packages visiting profile resolved) : ∀ {visiting' : List String}
    {resolved' : SemanticProfile}, Resolves runtime packages visiting' profile resolved' → resolved' = resolved := by
  induction h with
  | own hown =>
    intro visiting' resolved' h'
    cases h' with
    | own => rfl
    | inherited hextends => rw [hown] at hextends; cases hextends
  | inherited hextends _ hparent _ hmerge ih =>
    intro visiting' resolved' h'
    cases h' with
    | own hown => rw [hown] at hextends; cases hextends
    | inherited hextends' _ hparent' hbase' hmerge' =>
      obtain rfl := Option.some.inj (hextends.symm.trans hextends')
      obtain rfl := Except.ok.inj (hparent.symm.trans hparent')
      obtain rfl := ih hbase'
      exact Except.ok.inj (hmerge'.symm.trans hmerge)

theorem Resolves.mono (h : Resolves runtime packages visiting profile resolved) : ∀ {visiting' : List String},
    visiting' ⊆ visiting → Resolves runtime packages visiting' profile resolved := by
  induction h with
  | own hown => exact fun _ => .own hown
  | inherited hextends hnew hparent _ hmerge ih =>
    exact fun hsub => .inherited hextends (fun hmem => hnew (hsub hmem)) hparent (ih (List.cons_subset_cons _ hsub)) hmerge

/-- No profile that inherits, on the way up, is one of those that were visited before. -/
def Unvisited (runtime : ProfileRuntime) (packages : List ValidatedProfilePackage) (visiting : List String)
    (profile : SemanticProfile) : Prop :=
  ∀ ancestor, Ancestor runtime packages profile ancestor → ancestor.extends?.isSome → ancestor.id ∉ visiting

theorem Resolves.unvisited (h : Resolves runtime packages visiting profile resolved) :
    Unvisited runtime packages visiting profile := by
  induction h with
  | own hown =>
    intro ancestor hancestor hextends
    rcases Relation.ReflTransGen.cases_head hancestor with rfl | ⟨_, ⟨_, hother, _⟩, _⟩
    · rw [hown] at hextends; cases hextends
    · rw [hown] at hother; cases hother
  | inherited hextends hnew hparent _ _ ih =>
    intro ancestor hancestor hinherits
    rcases Relation.ReflTransGen.cases_head hancestor with rfl | ⟨_, ⟨_, hother, hparent'⟩, hrest⟩
    · exact hnew
    · obtain rfl := Option.some.inj (hextends.symm.trans hother)
      obtain rfl := Except.ok.inj (hparent.symm.trans hparent')
      exact fun hmem => ih ancestor hrest hinherits (List.mem_cons_of_mem _ hmem)

theorem Resolves.append (h : Resolves runtime packages visiting profile resolved) : ∀ {more : List String},
    Unvisited runtime packages more profile → Resolves runtime packages (more ++ visiting) profile resolved := by
  induction h with
  | own hown => exact fun _ => .own hown
  | @inherited visiting profile parent base resolved reference hextends hnew hparent hbase hmerge ih =>
    intro more hmore
    have hself : profile.id ∉ more := hmore profile .refl (by rw [hextends]; rfl)
    have hrest : Unvisited runtime packages more parent :=
      fun ancestor hancestor => hmore ancestor (.head ⟨reference, hextends, hparent⟩ hancestor)
    refine .inherited hextends ?_ hparent ((ih hrest).mono fun id hmem => ?_) hmerge
    · rw [List.mem_append, not_or]
      exact ⟨hself, hnew⟩
    · simp only [List.mem_cons, List.mem_append] at hmem ⊢
      rcases hmem with rfl | hmem | hmem
      · exact Or.inr (Or.inl rfl)
      · exact Or.inl hmem
      · exact Or.inr (Or.inr hmem)

theorem resolves_iff : Resolves runtime packages visiting profile resolved ↔
    Resolves runtime packages [] profile resolved ∧ Unvisited runtime packages visiting profile := by
  refine ⟨fun h => ⟨h.mono (List.nil_subset _), h.unvisited⟩, fun ⟨h, hunvisited⟩ => ?_⟩
  have happend := h.append hunvisited
  rwa [List.append_nil] at happend

/-! ### Fewer packages -/

theorem find?_sublist (hnodup : (packages.map ValidatedProfilePackage.id).Nodup) (hsub : kept.Sublist packages)
    {package : ValidatedProfilePackage} {id : String} (h : kept.find? (·.id = id) = some package) :
    packages.find? (·.id = id) = some package := by
  obtain rfl : package.id = id := by simpa using List.find?_some h
  exact Keyed.find?_key hnodup (hsub.subset (List.mem_of_find?_eq_some h))

/-- What resolves among some of the packages resolves among all of them. -/
theorem Resolves.of_sublist (hnodup : (packages.map ValidatedProfilePackage.id).Nodup) (hsub : kept.Sublist packages)
    (h : Resolves runtime kept visiting profile resolved) : Resolves runtime packages visiting profile resolved := by
  induction h with
  | own hown => exact .own hown
  | inherited hextends hnew hparent _ hmerge ih =>
    refine .inherited hextends hnew ?_ ih hmerge
    rcases parentProfile_eq_ok.mp hparent with hbuiltin | ⟨hnone, package, hfind, rfl⟩
    · exact parentProfile_eq_ok.mpr (Or.inl hbuiltin)
    · exact parentProfile_eq_ok.mpr (Or.inr ⟨hnone, package, find?_sublist hnodup hsub hfind, rfl⟩)

/-- What resolves still does as long as the packages that resolve are there. -/
theorem Resolves.of_kept (hnodup : (packages.map ValidatedProfilePackage.id).Nodup) (hsub : kept.Sublist packages)
    (hkept : ∀ package ∈ packages, (∃ resolved, Resolves runtime packages [] package.profile resolved) → package ∈ kept)
    (h : Resolves runtime packages visiting profile resolved) : Resolves runtime kept visiting profile resolved := by
  induction h with
  | own hown => exact .own hown
  | @inherited visiting profile parent base resolved reference hextends hnew hparent hbase hmerge ih =>
    refine .inherited hextends hnew ?_ ih hmerge
    rcases parentProfile_eq_ok.mp hparent with hbuiltin | ⟨hnone, package, hfind, rfl⟩
    · exact parentProfile_eq_ok.mpr (Or.inl hbuiltin)
    · have hmem := hkept package (List.mem_of_find?_eq_some hfind) ⟨base, hbase.mono (List.nil_subset _)⟩
      have hid : package.id = reference.id := by simpa using List.find?_some hfind
      have hfound := Keyed.find?_key ((hsub.map ValidatedProfilePackage.id).nodup hnodup) hmem
      rw [hid] at hfound
      exact parentProfile_eq_ok.mpr (Or.inr ⟨hnone, package, hfound, rfl⟩)

/-! ### The rounds -/

/-- The rounds keep the packages that resolve among all candidates, and resolve them to the same profiles. -/
theorem mem_resolveRounds (hnodup : (packages.map ValidatedProfilePackage.id).Nodup)
    (hkept : (resolveRounds runtime packages).1 = kept) {package : ValidatedProfilePackage} :
    package ∈ kept ∧ Resolves runtime kept [] package.profile resolved ↔
      package ∈ packages ∧ Resolves runtime packages [] package.profile resolved := by
  have hsub : kept.Sublist packages := hkept ▸ Rounds.settle_sublist _ _ _
  have hall : ∀ package ∈ packages, (∃ resolved, Resolves runtime packages [] package.profile resolved) → package ∈ kept := by
    intro package hmem hresolves
    rw [← hkept, resolveRounds, Rounds.mem_settle_iff (Nat.le_refl _)]
    refine Rounds.lasts_of_closed (T := fun package => package ∈ packages ∧
      ∃ resolved, Resolves runtime packages [] package.profile resolved) (fun _ h => h.1) ?_ ⟨hmem, hresolves⟩
    rintro rest hrest htogether package ⟨-, resolved, h⟩
    refine ⟨resolved, resolveProfileFromPackages_eq_ok.mpr (h.of_kept hnodup hrest ?_)⟩
    exact fun other hother hothers => htogether other ⟨hother, hothers⟩
  constructor
  · rintro ⟨hmem, h⟩
    exact ⟨hsub.subset hmem, h.of_sublist hnodup hsub⟩
  · rintro ⟨hmem, h⟩
    exact ⟨hall package hmem ⟨resolved, h⟩, h.of_kept hnodup hsub hall⟩

theorem resolves_of_kept (hkept : (resolveRounds runtime packages).1 = kept) {package : ValidatedProfilePackage}
    (hmem : package ∈ kept) : ∃ resolved, Resolves runtime kept [] package.profile resolved := by
  have hpasses := Rounds.failures_eq_nil.mp (Rounds.settle_passes (resolvePackage runtime) (Nat.le_refl packages.length))
  rw [← hkept] at hmem ⊢
  obtain ⟨resolved, h⟩ := hpasses package hmem
  exact ⟨resolved, resolveProfileFromPackages_eq_ok.mp h⟩

end

end DccCua
