import DccCua.Profiles.Profile

/-! # What a child profile inherits

A child that extends its parent overlays it: what the parent lists stays in its place, replaced by what the child lists
under the same id, and the new entries of the child follow. -/

namespace DccCua

open Checks

/-! ### Validated profiles -/

section Entries
variable {α : Type} {profileId field : String} {id : α → String} {duplicate : String → ProfileError}
  {check : α → Except ProfileError Unit}

theorem validateIdentifier_eq_ok {value : String} {u : Unit} :
    validateIdentifier profileId value field = .ok u ↔ isIdentifier value = true := require_eq_ok

theorem checkEntries_eq_ok (entries : List α) : ∀ {seen : List String} {u : Unit},
    checkEntries profileId id field duplicate check seen entries = .ok u ↔
      (∀ a ∈ entries, isIdentifier (id a) = true ∧ check a = .ok ()) ∧ (entries.map id).Nodup ∧
        ∀ a ∈ entries, id a ∉ seen := by
  induction entries with
  | nil => simp [checkEntries]
  | cons a rest ih =>
    intro seen u
    simp only [checkEntries, bind_eq_ok, validateIdentifier_eq_ok, require_eq_ok, decide_eq_true_iff, ih,
      List.map_cons, List.nodup_cons]
    constructor
    · rintro ⟨-, hid, -, hnew, ⟨⟩, hcheck, hrest, hnodup, hseen⟩
      refine ⟨List.forall_mem_cons.mpr ⟨⟨hid, hcheck⟩, hrest⟩, ⟨fun hmem => ?_, hnodup⟩,
        List.forall_mem_cons.mpr ⟨hnew, fun b hb hmem => hseen b hb (List.mem_cons_of_mem _ hmem)⟩⟩
      obtain ⟨b, hb, heq⟩ := List.mem_map.mp hmem
      exact hseen b hb (heq ▸ List.mem_cons_self)
    · rintro ⟨hall, ⟨hfresh, hnodup⟩, hseen⟩
      obtain ⟨⟨hid, hcheck⟩, hrest⟩ := List.forall_mem_cons.mp hall
      obtain ⟨hnew, hlater⟩ := List.forall_mem_cons.mp hseen
      refine ⟨(), hid, (), hnew, (), hcheck, hrest, hnodup, fun b hb hmem => ?_⟩
      rcases List.mem_cons.mp hmem with heq | hmem
      · exact hfresh (heq ▸ List.mem_map_of_mem hb)
      · exact hlater b hb hmem

end Entries

/-- Identifiers that are all different, in the lists that profiles inherit. -/
structure SemanticProfile.Canonical (profile : SemanticProfile) : Prop where
  sources : (profile.stateSources.map StateSource.id).Nodup
  surfaces : (profile.surfaces.map SemanticSurface.id).Nodup
  targets : ∀ surface ∈ profile.surfaces, (surface.targets.map SemanticTarget.id).Nodup
  targetIds : ∀ surface ∈ profile.surfaces, ∀ target ∈ surface.targets, isIdentifier target.id = true

theorem SemanticProfile.canonical_of_validate {parsers : ProfileParsers} {profile : SemanticProfile}
    (h : profile.validate parsers = .ok ()) : profile.Canonical := by
  simp only [validate, bind_eq_ok, checkEntries_eq_ok] at h
  obtain ⟨-, -, -, -, -, -, -, -, -, -, -, -, -, -, -, -, -, -, -, ⟨-, hsources, -⟩, -, ⟨hsurfaces, hnodup, -⟩, -⟩ := h
  have htargets : ∀ surface ∈ profile.surfaces, (∀ target ∈ surface.targets, isIdentifier target.id = true) ∧
      (surface.targets.map SemanticTarget.id).Nodup := by
    intro surface hmem
    have hcheck := (hsurfaces surface hmem).2
    rw [SemanticSurface.validate, checkEntries_eq_ok] at hcheck
    exact ⟨fun target ht => (hcheck.1 target ht).1, hcheck.2.1⟩
  exact ⟨hsources, hnodup, fun surface hmem => (htargets surface hmem).2, fun surface hmem => (htargets surface hmem).1⟩

/-! ### The merge -/

/-- The parent's entries in their order, those of the child in the place of those with their ids, and then the other
    entries of the child. -/
def replaceById {α : Type} (id : α → String) (parent child : List α) : List α :=
  parent.map (fun entry => (child.find? fun other => id other = id entry).getD entry) ++
    child.filter fun other => id other ∉ parent.map id

/-- The same of surfaces, whose targets are replaced in turn. -/
def replaceSurfaces (parent child : List SemanticSurface) : List SemanticSurface :=
  parent.map (fun surface =>
    match child.find? fun other => other.id = surface.id with
    | some other => { other with targets := replaceById SemanticTarget.id surface.targets other.targets }
    | none => surface) ++
    child.filter fun other => other.id ∉ parent.map SemanticSurface.id

/-- What holds of a profile that was resolved against its parent. -/
structure ResolveLaw (parsers : ProfileParsers) (parent child resolved : SemanticProfile) : Prop where
  valid : resolved.validate parsers = .ok ()
  unique : resolved.Canonical
  idempotent : resolveProfile parsers parent resolved = .ok resolved

/-- The child has inherited. -/
structure MergeLaw (parent child resolved : SemanticProfile) : Prop where
  stateSources : resolved.stateSources = replaceById StateSource.id parent.stateSources child.stateSources
  surfaces : resolved.surfaces = replaceSurfaces parent.surfaces child.surfaces

section Merge
variable {α : Type} {id : α → String} {parsers : ProfileParsers} {parent child resolved : SemanticProfile}

theorem mergeById_eq {parent child : List α} (hparent : (parent.map id).Nodup) (hchild : (child.map id).Nodup) :
    mergeById id parent child = replaceById id parent child := by
  rw [mergeById, Keyed.overlay_eq (fun _ _ _ => rfl) hparent hchild]
  rfl

theorem mergeById_self {entries : List α} (h : (entries.map id).Nodup) : mergeById id entries entries = entries :=
  Keyed.overlay_self (fun _ _ _ => rfl) h fun _ _ => rfl

theorem mergeById_again {parent child : List α} (hparent : (parent.map id).Nodup) (hchild : (child.map id).Nodup) :
    mergeById id parent (mergeById id parent child) = mergeById id parent child :=
  Keyed.overlay_overlay (fun _ _ _ => rfl) hparent hchild (fun _ _ => rfl) fun _ _ _ _ _ => rfl

theorem mergeSurface_id (surface other : SemanticSurface) : (mergeSurface surface other).id = other.id := rfl

theorem mergeSurfaces_eq (hparent : parent.Canonical) (hchild : child.Canonical) :
    mergeSurfaces parent.surfaces child.surfaces = replaceSurfaces parent.surfaces child.surfaces := by
  rw [mergeSurfaces, Keyed.overlay_eq (fun x y _ => mergeSurface_id x y) hparent.surfaces hchild.surfaces]
  congr 1
  refine List.map_congr_left fun surface hsurface => ?_
  unfold Keyed.met
  cases hfind : child.surfaces.find? fun other => other.id = surface.id with
  | none => rfl
  | some other =>
    have hother := List.mem_of_find?_eq_some hfind
    dsimp only
    rw [mergeSurface, mergeById_eq (hparent.targets surface hsurface) (hchild.targets other hother)]

theorem mergeSurfaces_again (hparent : parent.Canonical) (hchild : child.Canonical) :
    mergeSurfaces parent.surfaces (mergeSurfaces parent.surfaces child.surfaces) =
      mergeSurfaces parent.surfaces child.surfaces := by
  refine Keyed.overlay_overlay (fun x y _ => mergeSurface_id x y) hparent.surfaces hchild.surfaces
    (fun surface hsurface => ?_) fun surface hsurface other hother _ => ?_
  · rw [mergeSurface, mergeById_self (hparent.targets surface hsurface)]
  · simp only [mergeSurface]
    rw [mergeById_again (hparent.targets surface hsurface) (hchild.targets other hother)]

theorem mergedProfile_again (hparent : parent.Canonical) (hchild : child.Canonical) :
    mergedProfile parent (mergedProfile parent child) = mergedProfile parent child := by
  have hselectors : (if (if child.selectors.isEmpty then parent.selectors else child.selectors).isEmpty
      then parent.selectors else if child.selectors.isEmpty then parent.selectors else child.selectors) =
      if child.selectors.isEmpty then parent.selectors else child.selectors := by
    cases hempty : child.selectors.isEmpty <;> simp [hempty]
  unfold mergedProfile
  rw [mergeById_again hparent.sources hchild.sources, mergeSurfaces_again hparent hchild, hselectors]

/-- When a child that extends its parent is resolved, and to what. -/
theorem resolveProfile_eq_ok {reference : ProfileReference} (hextends : child.extends? = some reference) :
    resolveProfile parsers parent child = .ok resolved ↔
      parent.validate parsers = .ok () ∧ child.validate parsers = .ok () ∧
        (∃ requirement version, parsers.requirement reference.version = some requirement ∧
          parsers.version parent.profileVersion = some version ∧ reference.id = parent.id ∧
          parsers.satisfied requirement version = true) ∧
        eqIgnoreAsciiCase child.application.family parent.application.family = true ∧
        (mergedProfile parent child).validate parsers = .ok () ∧ resolved = mergedProfile parent child := by
  simp only [resolveProfile, hextends, bind_eq_ok]
  cases hrequirement : parsers.requirement reference.version with
  | none => simp
  | some requirement =>
    cases hversion : parsers.version parent.profileVersion with
    | none => simp
    | some version =>
      simp only [bind_eq_ok, require_eq_ok, Bool.and_eq_true, decide_eq_true_iff, Except.ok.injEq, Option.some.injEq]
      constructor
      · rintro ⟨⟨⟩, hparent, ⟨⟩, hchild, -, hmatches, -, hfamily, ⟨⟩, hmerged, rfl⟩
        exact ⟨hparent, hchild, ⟨requirement, version, rfl, rfl, hmatches⟩, hfamily, hmerged, rfl⟩
      · rintro ⟨hparent, hchild, ⟨_, _, rfl, rfl, hmatches⟩, hfamily, hmerged, rfl⟩
        exact ⟨(), hparent, (), hchild, (), hmatches, (), hfamily, (), hmerged, rfl⟩

theorem resolveProfile_own (hextends : child.extends? = none) :
    resolveProfile parsers parent child = .ok resolved ↔
      parent.validate parsers = .ok () ∧ child.validate parsers = .ok () ∧ resolved = child := by
  simp only [resolveProfile, hextends, bind_eq_ok, Except.ok.injEq]
  constructor
  · rintro ⟨⟨⟩, hparent, ⟨⟩, hchild, rfl⟩
    exact ⟨hparent, hchild, rfl⟩
  · rintro ⟨hparent, hchild, rfl⟩
    exact ⟨(), hparent, (), hchild, rfl⟩

theorem resolve_law (h : resolveProfile parsers parent child = .ok resolved) : ResolveLaw parsers parent child resolved := by
  cases hextends : child.extends? with
  | none =>
    obtain ⟨hparent, hchild, rfl⟩ := (resolveProfile_own hextends).mp h
    exact ⟨hchild, resolved.canonical_of_validate hchild, (resolveProfile_own hextends).mpr ⟨hparent, hchild, rfl⟩⟩
  | some reference =>
    obtain ⟨hparent, hchild, hmatches, hfamily, hmerged, rfl⟩ := (resolveProfile_eq_ok hextends).mp h
    have hagain := mergedProfile_again (SemanticProfile.canonical_of_validate hparent)
      (SemanticProfile.canonical_of_validate hchild)
    refine ⟨hmerged, SemanticProfile.canonical_of_validate hmerged, ?_⟩
    have hextends' : (mergedProfile parent child).extends? = some reference := hextends
    refine (resolveProfile_eq_ok hextends').mpr ?_
    exact ⟨hparent, hmerged, hmatches, hfamily, by rwa [hagain], hagain.symm⟩

theorem merge_law {reference : ProfileReference} (hextends : child.extends? = some reference)
    (h : resolveProfile parsers parent child = .ok resolved) : MergeLaw parent child resolved := by
  obtain ⟨hparent, hchild, -, -, -, rfl⟩ := (resolveProfile_eq_ok hextends).mp h
  have hp := SemanticProfile.canonical_of_validate hparent
  have hc := SemanticProfile.canonical_of_validate hchild
  exact ⟨mergeById_eq hp.sources hc.sources, mergeSurfaces_eq hp hc⟩

/-- What the acceptance of a pair says: a child that extends nothing is what it is, and any other is merged. -/
structure Inheritance (parsers : ProfileParsers) (parent child resolved : SemanticProfile) : Prop where
  law : ResolveLaw parsers parent child resolved
  own : child.extends? = none → resolved = child
  merged : child.extends?.isSome → MergeLaw parent child resolved

theorem profile_inheritance (h : resolveProfile parsers parent child = .ok resolved) :
    Inheritance parsers parent child resolved := by
  refine ⟨resolve_law h, fun hown => ?_, fun hextends => ?_⟩
  · exact ((resolveProfile_own hown).mp h).2.2
  · obtain ⟨reference, heq⟩ := Option.isSome_iff_exists.mp hextends
    exact merge_law heq h

end Merge

/-! ### A child of the Maya profile -/

/-- Versions of one form, and the requirement that the tests of the package use. -/
def sampleParsers : ProfileParsers where
  Version := Nat × Nat × Nat
  Requirement := Nat × Nat
  version text := if text = "1.0.0" then some (1, 0, 0) else none
  requirement text := if text = "^1.0" then some (1, 0) else none
  satisfied requirement version := requirement.1 = version.1 && requirement.2 ≤ version.2.1
  url _ := none

def sampleTarget (id label : String) : SemanticTarget := { id, label, role := "Button", supportedActions := ["click"] }

def sampleSurface (id : String) (targets : List SemanticTarget) : SemanticSurface :=
  { id, label := "Window", role := "Window", route := .accessibility, targets }

def sampleProfile (id : String) (extends? : Option ProfileReference) (surfaces : List SemanticSurface) : SemanticProfile where
  schemaVersion := 3
  id := id
  profileVersion := "1.0.0"
  application := { family := "autodesk-maya" }
  extends? := extends?
  displayName := "Autodesk Maya"
  selectors := [{ applicationNames := ["maya"] }]
  surfaces := surfaces
  settings := { dialogStyle := .osNative, preferredRoute := .accessibility }

def sampleParent : SemanticProfile :=
  sampleProfile "maya" none [sampleSurface "main_window" [sampleTarget "open" "Open", sampleTarget "save" "Save"]]

def sampleChild (extends? : Option ProfileReference) : SemanticProfile :=
  sampleProfile "maya-studio" extends?
    [sampleSurface "main_window" [sampleTarget "publish" "Publish", sampleTarget "save" "Save a version"],
      sampleSurface "outliner" []]

def sampleReference : ProfileReference := ⟨"maya", "^1.0"⟩

theorem profile_inheritance_studio :
    Inheritance sampleParsers sampleParent (sampleChild (some sampleReference))
      (mergedProfile sampleParent (sampleChild (some sampleReference))) :=
  profile_inheritance (by decide)

/-- Without `extends`, the surfaces of the parent are not inherited. -/
theorem unextended_not_merged :
    ¬ ∀ parent child resolved, resolveProfile sampleParsers parent child = .ok resolved →
      ResolveLaw sampleParsers parent child resolved ∧ MergeLaw parent child resolved := by
  intro h
  have hsurfaces := (h sampleParent (sampleChild none) (sampleChild none) (by decide)).2.surfaces
  revert hsurfaces
  decide

end DccCua
