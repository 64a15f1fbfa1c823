import Mathlib.Data.List.Nodup
import Mathlib.Data.List.Perm.Subperm
import DccCua.Theorems.Occlusion
import DccCua.Windows.NativeCapturePopup

/-! # Accepted samples

A sample that is accepted joins three lists by their handles: the selection, the states of the popups and the roots. As
many roots hide the main root as popups are selected, and each popup hides it, so the roots that hide it are the popups. -/

namespace DccCua
namespace NativeCapturePopup

open Checks Occlusion Rect

/-! ### The selection -/

theorem distinctFrom_nodup : ∀ {handles seen : List Nat}, distinctFrom seen handles = true →
    handles.Nodup ∧ ∀ handle ∈ handles, handle ∉ seen
  | [], _, _ => ⟨List.nodup_nil, by simp⟩
  | handle :: handles, seen, h => by
    rw [distinctFrom, Bool.and_eq_true, Bool.not_eq_true', List.contains_eq_mem, decide_eq_false_iff_not] at h
    obtain ⟨hnodup, hfresh⟩ := distinctFrom_nodup h.2
    refine ⟨List.nodup_cons.mpr ⟨fun hmem => hfresh handle hmem (by simp), hnodup⟩, fun other hother => ?_⟩
    rcases List.mem_cons.mp hother with rfl | hother
    · exact h.1
    · exact fun hseen => hfresh other hother (List.mem_append_left _ hseen)

theorem validSelection_nodup {root : Nat} {selected : List Nat} (h : validSelection root selected = true) : selected.Nodup := by
  unfold validSelection at h
  rw [Bool.and_eq_true] at h
  exact (distinctFrom_nodup h.2).1

theorem validSelection_ne {root : Nat} {selected : List Nat} (h : validSelection root selected = true) : root ∉ selected := by
  unfold validSelection at h
  simp only [Bool.and_eq_true, List.all_eq_true, decide_eq_true_eq] at h
  exact fun hmem => (h.1.2 root hmem).2 rfl

/-! ### Popups -/

theorem splitAtHandle_some {handle : Nat} : ∀ {roots higher : List RootProofTraceEntry} {entry : RootProofTraceEntry},
    splitAtHandle handle roots = some (higher, entry) →
      higher = roots.takeWhile (fun e => e.windowHandle ≠ handle) ∧ entry ∈ roots ∧ entry.windowHandle = handle
  | [], _, _, h => by cases h
  | first :: rest, higher, entry, h => by
    unfold splitAtHandle at h
    split at h
    · rename_i hhandle
      cases h
      exact ⟨by simp [hhandle], List.mem_cons_self, hhandle⟩
    · rename_i hhandle
      rw [Option.map_eq_some_iff] at h
      obtain ⟨⟨higher', entry'⟩, hfound, heq⟩ := h
      cases heq
      obtain ⟨rfl, hmem, hentry⟩ := splitAtHandle_some hfound
      exact ⟨by simp [hhandle], List.mem_cons_of_mem _ hmem, hentry⟩

/-- What is checked of a popup against the roots. -/
structure Accepted (selected : List Nat) (roots : List RootProofTraceEntry) (bounds : Rect) (state : ExactWindowNativeState) :
    Prop where
  free : ∀ higher ∈ roots.takeWhile (fun entry => entry.windowHandle ≠ state.windowHandle), hidesPopup selected state higher = false
  shown : ∃ entry ∈ roots, entry.windowHandle = state.windowHandle ∧ entry.dwmBounds = state.visibleBounds ∧
    (occluding bounds entry).isSome

theorem validatePopup_ok {processId handle : Nat} {selected : List Nat} {sample : Sample} {bounds : Rect} {popup : PopupState}
    {state : ExactWindowNativeState} (h : validatePopup processId selected sample bounds handle popup = .ok state) :
    state = popup.state ∧ state.windowHandle = handle ∧ Accepted selected sample.roots bounds state := by
  unfold validatePopup at h
  simp only [bind_eq_ok, require_eq_ok] at h
  obtain ⟨-, hidentity, -, -, h⟩ := h
  split at h
  · cases h
  · rename_i higher entry hsplit
    obtain ⟨hhigher, hmem, hhandle⟩ := splitAtHandle_some hsplit
    simp only [bind_eq_ok, require_eq_ok] at h
    obtain ⟨-, hentry, h⟩ := h
    split at h
    · cases h
    · rename_i hnone
      cases h
      simp only [popupIdentity, popupEntryMatches, Bool.and_eq_true, decide_eq_true_eq] at hidentity hentry
      obtain ⟨⟨⟨⟨⟨⟨⟨⟨hcomposited, hbounds⟩, -⟩, -⟩, -⟩, -⟩, -⟩, -⟩, hintersects⟩ := hentry
      refine ⟨rfl, hidentity.1.1.1, fun above habove => ?_, entry, hmem, hhandle, hbounds, ?_⟩
      · rw [← hhigher] at habove
        simpa using List.find?_eq_none.mp hnone above habove
      · rw [occluding, if_pos hcomposited, hbounds]
        exact hintersects

theorem validatePopups_ok {processId : Nat} {selected : List Nat} {sample : Sample} {bounds : Rect} :
    ∀ {handles : List Nat} {popups : List PopupState} {states : List ExactWindowNativeState},
      validatePopups processId selected sample bounds handles popups = .ok states → popups.length = handles.length →
      states = popups.map PopupState.state ∧ states.map ExactWindowNativeState.windowHandle = handles ∧
        ∀ state ∈ states, Accepted selected sample.roots bounds state
  | [], [], states, h, _ => by
    cases h
    exact ⟨rfl, rfl, by simp⟩
  | [], _ :: _, _, _, hlength => by cases hlength
  | _ :: _, [], _, _, hlength => by cases hlength
  | handle :: handles, popup :: popups, states, h, hlength => by
    simp only [validatePopups, bind_eq_ok, Except.ok.injEq] at h
    obtain ⟨state, hstate, rest, hrest, rfl⟩ := h
    obtain ⟨rfl, hhandle, haccepted⟩ := validatePopup_ok hstate
    obtain ⟨hstates, hhandles, hall⟩ := validatePopups_ok hrest (Nat.succ.inj hlength)
    refine ⟨by rw [hstates, List.map_cons], by rw [List.map_cons, hhandle, hhandles], ?_⟩
    rintro other (_ | ⟨_, hother⟩)
    · exact haccepted
    · exact hall other hother

/-! ### Occluders -/

/-- The roots that hide a part of the main root. -/
def shadowing (bounds : Rect) (roots : List RootProofTraceEntry) : List RootProofTraceEntry :=
  roots.filter fun entry => (occluding bounds entry).isSome

/-- An occluder is the state of a root that hides the part. -/
def OccluderOf (bounds : Rect) (overlays : List ExactWindowNativeState) (entry : RootProofTraceEntry)
    (occluder : ExactWindowNativeState × Rect) : Prop :=
  occluder.1 ∈ overlays ∧ occluder.1.windowHandle = entry.windowHandle ∧ occluding bounds entry = some occluder.2

theorem occluders_ok {bounds : Rect} {overlays : List ExactWindowNativeState} :
    ∀ {roots : List RootProofTraceEntry} {found : List (ExactWindowNativeState × Rect)},
      occluders bounds overlays roots = .ok found → List.Forall₂ (OccluderOf bounds overlays) (shadowing bounds roots) found
  | [], found, h => by
    cases h
    exact .nil
  | entry :: entries, found, h => by
    unfold occluders at h
    split at h
    · rename_i hnone
      rw [shadowing, List.filter_cons_of_neg (by simp [hnone])]
      exact occluders_ok h
    · rename_i region hregion
      rw [shadowing, List.filter_cons_of_pos (by simp [hregion])]
      split at h
      · cases h
      · rename_i state hstate
        simp only [bind_eq_ok, Except.ok.injEq] at h
        obtain ⟨rest, hrest, rfl⟩ := h
        have hhandle := List.find?_some hstate
        rw [decide_eq_true_eq] at hhandle
        exact .cons ⟨List.mem_of_find?_eq_some hstate, hhandle, hregion⟩ (occluders_ok hrest)

theorem map_handles {bounds : Rect} {overlays : List ExactWindowNativeState} {entries : List RootProofTraceEntry}
    {found : List (ExactWindowNativeState × Rect)} (h : List.Forall₂ (OccluderOf bounds overlays) entries found) :
    (found.map Prod.fst).map ExactWindowNativeState.windowHandle = entries.map RootProofTraceEntry.windowHandle := by
  induction h with
  | nil => rfl
  | cons hentry _ ih =>
    rw [List.map_cons, List.map_cons, List.map_cons, ih, hentry.2.1]

theorem mem_dedup {r : Rect} : ∀ {rects : List Rect}, r ∈ dedup rects ↔ r ∈ rects
  | [] => Iff.rfl
  | [_] => Iff.rfl
  | a :: b :: rest => by
    unfold dedup
    split
    · rename_i heq
      rw [mem_dedup, heq]
      simp
    · rw [List.mem_cons, mem_dedup, ← List.mem_cons]

/-! ### The join -/

section Join
variable {selected : List Nat} {roots : List RootProofTraceEntry} {last : RootProofTraceEntry} {bounds : Rect}
  {overlays : List ExactWindowNativeState} {found : List (ExactWindowNativeState × Rect)} (hnodup : selected.Nodup)
  (hroot : last.windowHandle ∉ selected) (hlast : roots.getLast? = some last)
  (hoverlays : overlays.map ExactWindowNativeState.windowHandle = selected)
  (haccepted : ∀ state ∈ overlays, Accepted selected roots bounds state)
  (hfound : List.Forall₂ (OccluderOf bounds overlays) (shadowing bounds roots.dropLast) found)
  (hlength : found.length = selected.length)

include hroot hlast hoverlays haccepted in
/-- The root of a popup hides the main root, and is not the main root. -/
theorem shown_of_overlay {state : ExactWindowNativeState} (hstate : state ∈ overlays) :
    ∃ entry ∈ shadowing bounds roots.dropLast, entry.windowHandle = state.windowHandle ∧ entry.dwmBounds = state.visibleBounds := by
  obtain ⟨entry, hentry, hhandle, hbounds, hshown⟩ := (haccepted state hstate).shown
  refine ⟨entry, List.mem_filter.mpr ⟨?_, hshown⟩, hhandle, hbounds⟩
  rw [← List.dropLast_append_getLast? last hlast] at hentry
  rcases List.mem_append.mp hentry with hmem | hmem
  · exact hmem
  · rw [List.mem_singleton.mp hmem] at hhandle
    rw [hhandle, ← hoverlays] at hroot
    exact absurd (List.mem_map_of_mem hstate) hroot

include hnodup hroot hlast hoverlays haccepted hfound hlength in
/-- The roots that hide the main root are the popups. -/
theorem shadowing_perm : ((shadowing bounds roots.dropLast).map RootProofTraceEntry.windowHandle).Perm selected := by
  have hsubset : selected ⊆ (shadowing bounds roots.dropLast).map RootProofTraceEntry.windowHandle := by
    intro handle hhandle
    rw [← hoverlays, List.mem_map] at hhandle
    obtain ⟨state, hstate, rfl⟩ := hhandle
    obtain ⟨entry, hentry, hentryHandle, -⟩ := shown_of_overlay hroot hlast hoverlays haccepted hstate
    exact List.mem_map.mpr ⟨entry, hentry, hentryHandle⟩
  refine ((List.subperm_of_subset hnodup hsubset).perm_of_length_le ?_).symm
  rw [List.length_map, hfound.length_eq, hlength]

include hnodup hroot hlast hoverlays haccepted hfound hlength in
/-- A root that hides the main root has the bounds of the popup with its handle. -/
theorem bounds_of_shadowing {entry : RootProofTraceEntry} (hentry : entry ∈ shadowing bounds roots.dropLast)
    {state : ExactWindowNativeState} (hstate : state ∈ overlays) (hhandle : state.windowHandle = entry.windowHandle) :
    entry.dwmBounds = state.visibleBounds := by
  obtain ⟨shown, hshown, hshownHandle, hshownBounds⟩ := shown_of_overlay hroot hlast hoverlays haccepted hstate
  have hperm := shadowing_perm hnodup hroot hlast hoverlays haccepted hfound hlength
  have hsame : shown = entry :=
    List.inj_on_of_nodup_map (hperm.nodup_iff.mpr hnodup) hshown hentry (hshownHandle.trans hhandle)
  rw [← hsame, hshownBounds]

include hroot hlast hoverlays haccepted in
theorem overlay_valid {state : ExactWindowNativeState} (hstate : state ∈ overlays) : ∀ r ∈ state.visibleBounds, r.Valid := by
  obtain ⟨entry, -, -, hbounds⟩ := shown_of_overlay hroot hlast hoverlays haccepted hstate
  rw [← hbounds]
  exact entry.dwmValid

end Join

/-- The roots above a window. -/
def higherThan (handle : Nat) (roots : List RootProofTraceEntry) : List RootProofTraceEntry :=
  roots.takeWhile fun entry => entry.windowHandle ≠ handle

/-- What is known of an accepted sample. -/
structure Validated (rootHandle : Nat) (selected : List Nat) (sample : Sample) (proof : NativeCapturePopupProof) (bounds : Rect)
    (last : RootProofTraceEntry) (found : List (ExactWindowNativeState × Rect)) : Prop where
  nodup : selected.Nodup
  root : last.windowHandle = rootHandle ∧ rootHandle ∉ selected
  isLast : sample.roots.getLast? = some last
  rootBounds : sample.root.visibleBounds = some bounds
  valid : bounds.Valid
  states : proof.overlays = sample.overlays.map PopupState.state
  overlays : proof.overlays.map ExactWindowNativeState.windowHandle = selected
  accepted : ∀ state ∈ proof.overlays, Accepted selected sample.roots bounds state
  occluders : List.Forall₂ (OccluderOf bounds proof.overlays) (shadowing bounds sample.roots.dropLast) found
  length : found.length = selected.length
  ordered : proof.orderedOccluders = found.map Prod.fst
  redacted : proof.redactedRegions = dedup ((found.map Prod.snd).mergeSort rectLe)

theorem validateSample_ok {processId rootHandle : Nat} {selected : List Nat} {sample : Sample} {proof : NativeCapturePopupProof}
    (h : validateSample processId rootHandle selected sample = .ok proof) :
    ∃ bounds last found, Validated rootHandle selected sample proof bounds last found := by
  simp only [validateSample, bind_eq_ok, require_eq_ok] at h
  obtain ⟨-, hselection, -, -, -, -, -, -, -, -, -, hcount, h⟩ := h
  split at h
  · cases h
  · rename_i last hlast
    simp only [bind_eq_ok, require_eq_ok] at h
    obtain ⟨-, hhandle, -, hentry, -, -, h⟩ := h
    split at h
    · cases h
    · rename_i bounds hbounds
      simp only [bind_eq_ok, require_eq_ok] at h
      obtain ⟨overlays, hoverlays, found, hfound, -, hlength, h⟩ := h
      split at h
      · cases h
      · cases h
        rw [decide_eq_true_eq] at hhandle hcount hlength
        obtain ⟨hstates, hhandles, haccepted⟩ := validatePopups_ok hoverlays hcount
        simp only [rootEntryMatches, Bool.and_eq_true, decide_eq_true_eq] at hentry
        have hsame : last.dwmBounds = some bounds := hentry.1.1.1.1.2.trans hbounds
        exact ⟨bounds, last, found, validSelection_nodup hselection, ⟨hhandle, validSelection_ne hselection⟩, hlast, hbounds,
          last.dwmValid bounds hsame, hstates, hhandles, haccepted, occluders_ok hfound, hlength, rfl, rfl⟩

namespace Validated

variable {rootHandle : Nat} {selected : List Nat} {sample : Sample} {proof : NativeCapturePopupProof} {bounds : Rect}
  {last : RootProofTraceEntry} {found : List (ExactWindowNativeState × Rect)}

theorem unselected (h : Validated rootHandle selected sample proof bounds last found) : last.windowHandle ∉ selected := by
  rw [h.root.1]
  exact h.root.2

/-- A root that hides a part of the main root is a selected popup with its bounds. -/
theorem popup (h : Validated rootHandle selected sample proof bounds last found) {entry : RootProofTraceEntry}
    (hentry : entry ∈ shadowing bounds sample.roots.dropLast) :
    ∃ state ∈ proof.overlays, state.windowHandle = entry.windowHandle ∧ entry.dwmBounds = state.visibleBounds := by
  have hperm := shadowing_perm h.nodup h.unselected h.isLast h.overlays h.accepted h.occluders h.length
  have hmem : entry.windowHandle ∈ selected := hperm.subset (List.mem_map_of_mem hentry)
  rw [← h.overlays, List.mem_map] at hmem
  obtain ⟨state, hstate, hhandle⟩ := hmem
  exact ⟨state, hstate, hhandle,
    bounds_of_shadowing h.nodup h.unselected h.isLast h.overlays h.accepted h.occluders h.length hentry hstate hhandle⟩

theorem uncovered (h : Validated rootHandle selected sample proof bounds last found) {p : Int × Int} (hp : bounds.Contains p)
    (hopen : ∀ state ∈ proof.overlays, ∀ r ∈ state.visibleBounds, ¬r.Contains p) {entry : RootProofTraceEntry}
    (hentry : entry ∈ sample.roots.dropLast) (hcomposited : entry.composited = true) : ∀ r ∈ entry.dwmBounds, ¬r.Contains p := by
  intro r hr hcontains
  have hshadows : entry ∈ shadowing bounds sample.roots.dropLast := by
    refine List.mem_filter.mpr ⟨hentry, ?_⟩
    rw [occluding, if_pos hcomposited, Option.mem_def.mp hr, Option.bind_some,
      intersection_of_contains h.valid (entry.dwmValid r hr) hp hcontains]
    rfl
  obtain ⟨state, hstate, -, hsame⟩ := h.popup hshadows
  exact hopen state hstate r (hsame ▸ hr) hcontains

theorem free (h : Validated rootHandle selected sample proof bounds last found) {state : ExactWindowNativeState}
    (hstate : state ∈ proof.overlays) {higher : RootProofTraceEntry} (hhigher : higher ∈ higherThan state.windowHandle sample.roots)
    (hcomposited : higher.composited = true) (hunselected : higher.windowHandle ∉ selected) :
    ∀ r ∈ higher.dwmBounds, ∀ b ∈ state.visibleBounds, ∀ p, ¬(r.Contains p ∧ b.Contains p) := by
  intro r hr b hb p hboth
  have hclear := (h.accepted state hstate).free higher hhigher
  have hvalid := overlay_valid h.unselected h.isLast h.overlays h.accepted hstate b hb
  unfold hidesPopup boundsIntersect at hclear
  rw [hcomposited, Option.mem_def.mp hr, Option.mem_def.mp hb] at hclear
  simp [intersection_of_contains (higher.dwmValid r hr) hvalid hboth.1 hboth.2, hunselected] at hclear

theorem mem_regions (h : Validated rootHandle selected sample proof bounds last found) {r : Rect} :
    r ∈ proof.redactedRegions ↔ ∃ state ∈ proof.overlays, ∃ b ∈ state.visibleBounds, intersection bounds b = some r := by
  rw [h.redacted, mem_dedup, List.mem_mergeSort, List.mem_map]
  constructor
  · rintro ⟨⟨occluder, region⟩, hmem, rfl⟩
    obtain ⟨k, hk, hget⟩ := List.mem_iff_getElem.mp hmem
    have hof := h.occluders.get (by rw [h.occluders.length_eq]; exact hk) hk
    rw [List.get_eq_getElem, List.get_eq_getElem, hget] at hof
    obtain ⟨hoccluder, hhandle, hregion⟩ := hof
    have hsame := bounds_of_shadowing h.nodup h.unselected h.isLast h.overlays h.accepted h.occluders h.length (List.getElem_mem _)
      hoccluder hhandle
    unfold occluding at hregion
    split at hregion
    · rw [hsame, Option.bind_eq_some_iff] at hregion
      obtain ⟨b, hb, hregion⟩ := hregion
      exact ⟨occluder, hoccluder, b, hb, hregion⟩
    · cases hregion
  · rintro ⟨state, hstate, b, hb, hregion⟩
    obtain ⟨entry, hentry, hhandle, hsame⟩ := shown_of_overlay h.unselected h.isLast h.overlays h.accepted hstate
    obtain ⟨k, hk, hget⟩ := List.mem_iff_getElem.mp hentry
    have hof := h.occluders.get hk (by rw [← h.occluders.length_eq]; exact hk)
    rw [List.get_eq_getElem, List.get_eq_getElem, hget] at hof
    refine ⟨_, List.getElem_mem (by rw [← h.occluders.length_eq]; exact hk), ?_⟩
    have hcomposited := hof.2.2
    unfold occluding at hcomposited
    split at hcomposited
    · rw [hsame, Option.mem_def.mp hb, Option.bind_some, hregion] at hcomposited
      exact (Option.some.inj hcomposited).symm
    · cases hcomposited

end Validated

/-- An accepted sample proves what is seen of the main root, and that nothing hides the popups. -/
theorem validated_sample (processId rootHandle : Nat) (selected : List Nat) (sample : Sample) (proof : NativeCapturePopupProof)
    (h : validateSample processId rootHandle selected sample = .ok proof) :
    (∀ bounds ∈ sample.root.visibleBounds, ∀ p, bounds.Contains p →
      (∀ state ∈ proof.overlays, ∀ r ∈ state.visibleBounds, ¬r.Contains p) →
      ∀ entry ∈ sample.roots.dropLast, entry.composited = true → ∀ r ∈ entry.dwmBounds, ¬r.Contains p) ∧
    (∀ state ∈ proof.overlays, ∀ higher ∈ higherThan state.windowHandle sample.roots, higher.composited = true →
      higher.windowHandle ∉ selected → ∀ r ∈ higher.dwmBounds, ∀ b ∈ state.visibleBounds, ∀ p, ¬(r.Contains p ∧ b.Contains p)) ∧
    (sample.roots.getLast?.map RootProofTraceEntry.windowHandle = some rootHandle ∧
      proof.overlays = sample.overlays.map PopupState.state ∧ proof.overlays.map ExactWindowNativeState.windowHandle = selected ∧
      (∀ state ∈ proof.orderedOccluders, state ∈ proof.overlays) ∧
      (∀ handle ∈ selected, (proof.orderedOccluders.map ExactWindowNativeState.windowHandle).count handle = 1) ∧
      (proof.orderedOccluders.map ExactWindowNativeState.windowHandle).Sublist
        (sample.roots.map RootProofTraceEntry.windowHandle)) ∧
    (∀ r, r ∈ proof.redactedRegions ↔ ∃ bounds ∈ sample.root.visibleBounds, ∃ state ∈ proof.overlays, ∃ b ∈ state.visibleBounds,
      intersection bounds b = some r) := by
  obtain ⟨bounds, last, found, hvalidated⟩ := validateSample_ok h
  have hbounds : ∀ bounds', bounds' ∈ sample.root.visibleBounds ↔ bounds' = bounds := by
    intro bounds'
    rw [hvalidated.rootBounds, Option.mem_some_iff, eq_comm]
  have hhandles := map_handles hvalidated.occluders
  have hperm := shadowing_perm hvalidated.nodup hvalidated.unselected hvalidated.isLast hvalidated.overlays hvalidated.accepted
    hvalidated.occluders hvalidated.length
  refine ⟨?_, fun state hstate higher hhigher hcomposited hunselected =>
    hvalidated.free hstate hhigher hcomposited hunselected, ⟨?_, hvalidated.states, hvalidated.overlays, ?_, ?_, ?_⟩, fun r => ?_⟩
  · intro bounds' hbounds' p hp hopen entry hentry hcomposited
    rw [(hbounds bounds').mp hbounds'] at hp
    exact hvalidated.uncovered hp hopen hentry hcomposited
  · rw [hvalidated.isLast, Option.map_some, hvalidated.root.1]
  · intro state hstate
    rw [hvalidated.ordered, List.mem_map] at hstate
    obtain ⟨occluder, hoccluder, rfl⟩ := hstate
    obtain ⟨k, hk, rfl⟩ := List.mem_iff_getElem.mp hoccluder
    exact (hvalidated.occluders.get (by rw [hvalidated.occluders.length_eq]; exact hk) hk).1
  · intro handle hhandle
    rw [hvalidated.ordered, hhandles, hperm.count_eq]
    exact List.count_eq_one_of_mem hvalidated.nodup hhandle
  · rw [hvalidated.ordered, hhandles]
    exact (List.filter_sublist.trans (List.dropLast_sublist _)).map _
  · rw [hvalidated.mem_regions]
    constructor
    · rintro ⟨state, hstate, b, hb, hregion⟩
      exact ⟨bounds, (hbounds bounds).mpr rfl, state, hstate, b, hb, hregion⟩
    · rintro ⟨bounds', hbounds', state, hstate, b, hb, hregion⟩
      rw [(hbounds bounds').mp hbounds'] at hregion
      exact ⟨state, hstate, b, hb, hregion⟩

/-! ### A cloaked root over a popup -/

def sampleState (handle : Nat) (bounds : Rect) (foreground : Bool) : ExactWindowNativeState :=
  ⟨9, handle, some bounds, some bounds, 96, true, false, false, foreground, ⟨5, 6, 7, 0⟩⟩

def sampleEntry (handle : Nat) (bounds : Rect) (cloaked : Nat) (decision : RootProofDecision) (h : bounds.Valid) :
    RootProofTraceEntry :=
  ⟨handle, 9, 6, handle, 0, true, false, 96, some bounds, some cloaked, some bounds, decision, by simpa using h⟩

/-- A popup over the main root, and a cloaked root over both. -/
def cloakedSample : Sample where
  root := sampleState 1 ⟨0, 0, 10, 10⟩ true
  rootIsRoot := true
  rootEnabled := true
  focus := ⟨1, 1, 1, 1, ⟨5, 6, 7, 0⟩, 2, 0, true, true⟩
  overlays := [⟨sampleState 2 ⟨2, 2, 4, 4⟩ false, 2, true, false, true, true⟩]
  roots := [sampleEntry 3 ⟨0, 0, 20, 20⟩ 2 .cloaked (by decide), sampleEntry 2 ⟨2, 2, 4, 4⟩ 0 .overlap (by decide),
    sampleEntry 1 ⟨0, 0, 10, 10⟩ 0 .targetReached (by decide)]
  desktop := ⟨0, 0, 100, 100⟩

def cloakedProof : NativeCapturePopupProof where
  root := sampleState 1 ⟨0, 0, 10, 10⟩ true
  capture := sampleState 2 ⟨2, 2, 4, 4⟩ false
  overlays := [sampleState 2 ⟨2, 2, 4, 4⟩ false]
  redactedRegions := [⟨2, 2, 4, 4⟩]
  focus := ⟨1, 1, 1, 1, ⟨5, 6, 7, 0⟩, 2, 0, true, true⟩
  orderedOccluders := [sampleState 2 ⟨2, 2, 4, 4⟩ false]
  desktop := ⟨0, 0, 100, 100⟩

/-- The pixel beside the popup is seen. -/
theorem validated_sample_cloaked : validateSample 9 1 [2] cloakedSample = .ok cloakedProof ∧
    ∀ r ∈ cloakedProof.redactedRegions, ∃ bounds ∈ cloakedSample.root.visibleBounds, ∃ state ∈ cloakedProof.overlays,
      ∃ b ∈ state.visibleBounds, intersection bounds b = some r := by
  have hok : validateSample 9 1 [2] cloakedSample = .ok cloakedProof := by decide +kernel
  have hvalidated := validated_sample 9 1 [2] cloakedSample cloakedProof hok
  exact ⟨hok, fun r hr => (hvalidated.2.2.2 r).mp hr⟩

/-- A visible root that is not selected shares a point with a popup below it. -/
theorem cloaked_root_above_popup : ∃ proof, validateSample 9 1 [2] cloakedSample = .ok proof ∧
    ∃ state ∈ proof.overlays, ∃ higher ∈ higherThan state.windowHandle cloakedSample.roots, higher.visible = true ∧
      higher.windowHandle ∉ [2] ∧ ∃ r ∈ higher.dwmBounds, ∃ b ∈ state.visibleBounds, r.Contains (3, 3) ∧ b.Contains (3, 3) := by
  refine ⟨cloakedProof, by decide +kernel, sampleState 2 ⟨2, 2, 4, 4⟩ false, by decide,
    sampleEntry 3 ⟨0, 0, 20, 20⟩ 2 .cloaked (by decide), ?_, rfl, by decide, ⟨0, 0, 20, 20⟩, rfl, ⟨2, 2, 4, 4⟩, rfl, by decide, by decide⟩
  exact List.mem_cons_self

end NativeCapturePopup
end DccCua
