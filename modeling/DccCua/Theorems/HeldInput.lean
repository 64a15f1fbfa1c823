import Mathlib.Data.List.Nodup
import DccCua.Windows.GuardedInput

/-! # What is held

The releases that are due after some events are those of the presses that nothing releases later. The transaction keeps
them in a list of its own; the two are the same as long as nothing is pressed that is held. -/

namespace DccCua
namespace PhysicalInput

/-- The releases of the presses that no later event releases, in the order of the presses. -/
def outstanding : List Event → List Event
  | [] => []
  | event :: events =>
    match event.release with
    | some release => if release ∈ events then outstanding events else release :: outstanding events
    | none => outstanding events

/-- Nothing is pressed that is held. -/
def Orderly : List Event → List Event → Prop
  | _, [] => True
  | held, event :: events => (∀ release ∈ event.release, release ∉ held) ∧ Orderly (settleStep held event) events

/-! ### Events -/

theorem isRelease_of_release {event release : Event} (h : event.release = some release) :
    release.isRelease = true ∧ event.isRelease = false := by
  unfold Event.release at h
  split at h <;> cases h <;> exact ⟨rfl, rfl⟩

theorem release_of_isRelease {event : Event} (h : event.isRelease = true) : event.release = none := by
  cases hrelease : event.release with
  | none => rfl
  | some release =>
    rw [(isRelease_of_release hrelease).2] at h
    cases h

/-- Only one event is released by a release. -/
theorem press_of_release {a b release : Event} (ha : a.release = some release) (hb : b.release = some release) : a = b := by
  unfold Event.release at ha hb
  split at ha <;> cases ha <;> split at hb <;> cases hb <;> rfl

theorem settleStep_press {held : List Event} {event release : Event} (h : event.release = some release) :
    settleStep held event = held ++ [release] := by
  unfold settleStep
  rw [h]

theorem settleStep_release {held : List Event} {event : Event} (h : event.isRelease = true) :
    settleStep held event = removeLast event held := by
  unfold settleStep
  rw [release_of_isRelease h]
  exact if_pos h

theorem settleStep_other {held : List Event} {event : Event} (h : event.release = none) (h' : event.isRelease = false) :
    settleStep held event = held := by
  unfold settleStep
  rw [h]
  dsimp only
  rw [if_neg (by simp [h'])]

theorem removeLast_eq_filter {held : List Event} (h : held.Nodup) (event : Event) :
    removeLast event held = held.filter (· ≠ event) := by
  unfold removeLast
  rw [(List.nodup_reverse.mpr h).erase_eq_filter, List.filter_reverse, List.reverse_reverse]
  exact List.filter_congr fun x _ => by rw [bne, beq_eq_decide, decide_not]

/-- The last entry is removed, when it is the event. -/
theorem removeLast_concat (event : Event) (held : List Event) : removeLast event (held ++ [event]) = held := by
  unfold removeLast
  rw [List.reverse_append, List.reverse_singleton, List.singleton_append, List.erase_cons_head, List.reverse_reverse]

/-! ### Settling -/

@[simp] theorem settle_nil (held : List Event) : settle held [] = held := rfl

@[simp] theorem settle_cons (held : List Event) (event : Event) (events : List Event) :
    settle held (event :: events) = settle (settleStep held event) events := rfl

theorem settle_append (held as bs : List Event) : settle held (as ++ bs) = settle (settle held as) bs := List.foldl_append

theorem releases_settleStep {held : List Event} {event : Event} (h : ∀ release ∈ held, release.isRelease = true) :
    ∀ release ∈ settleStep held event, release.isRelease = true := by
  intro release hmem
  unfold settleStep at hmem
  split at hmem
  · rename_i next hnext
    rcases List.mem_append.mp hmem with hmem | hmem
    · exact h release hmem
    · rw [List.mem_singleton.mp hmem]
      exact (isRelease_of_release hnext).1
  · split at hmem
    · rw [removeLast, List.mem_reverse] at hmem
      exact h release (List.mem_reverse.mp (List.mem_of_mem_erase hmem))
    · exact h release hmem

theorem releases_settle {events : List Event} : ∀ {held : List Event}, (∀ release ∈ held, release.isRelease = true) →
    ∀ release ∈ settle held events, release.isRelease = true := by
  induction events with
  | nil => exact fun h => h
  | cons event events ih => exact fun h => ih (releases_settleStep h)

theorem orderly_append {as bs : List Event} : ∀ {held : List Event}, Orderly held (as ++ bs) ↔
    Orderly held as ∧ Orderly (settle held as) bs := by
  induction as with
  | nil => exact fun {held} => (and_iff_right (by trivial)).symm
  | cons event as ih =>
    intro held
    rw [List.cons_append, Orderly, Orderly, ih, and_assoc, settle_cons]

theorem Orderly.initial {held part events : List Event} (h : Orderly held events) (hpart : part <+: events) : Orderly held part := by
  obtain ⟨rest, rfl⟩ := hpart
  exact (orderly_append.mp h).1

/-- The kept list is what is held still, and what the events leave outstanding. -/
theorem settle_eq : ∀ {events held : List Event}, Orderly held events → held.Nodup → (∀ release ∈ held, release.isRelease = true) →
    settle held events = held.filter (fun release => release ∉ events) ++ outstanding events
  | [], held, _, _, _ => by simp [outstanding]
  | event :: events, held, horderly, hnodup, hreleases => by
    obtain ⟨hfree, horderly⟩ := horderly
    rw [settle_cons]
    cases hrelease : event.release with
    | some release =>
      obtain ⟨his, hnot⟩ := isRelease_of_release hrelease
      have hfresh : release ∉ held := hfree release hrelease
      have hpress : ∀ other ∈ held, other ≠ event := by
        rintro other hother rfl
        rw [hreleases other hother] at hnot
        cases hnot
      rw [settleStep_press hrelease] at horderly ⊢
      rw [settle_eq horderly (List.nodup_append'.mpr ⟨hnodup, by simp, by simpa using hfresh⟩)
        (by simpa [or_imp, forall_and] using ⟨hreleases, his⟩), List.filter_append, List.append_assoc]
      congr 1
      · refine List.filter_congr fun other hother => ?_
        simp [hpress other hother]
      · rw [outstanding, hrelease]
        by_cases hin : release ∈ events
        · simp [hin]
        · simp [hin]
    | none =>
      have hsame : outstanding (event :: events) = outstanding events := by
        rw [outstanding, hrelease]
      rw [hsame]
      by_cases his : event.isRelease = true
      · rw [settleStep_release his, removeLast_eq_filter hnodup] at horderly ⊢
        rw [settle_eq horderly (hnodup.filter _) (fun release hmem => hreleases release (List.mem_filter.mp hmem).1),
          List.filter_filter]
        congr 1
        refine List.filter_congr fun other _ => ?_
        simp [not_or, Bool.and_comm]
      · rw [Bool.not_eq_true] at his
        rw [settleStep_other hrelease his] at horderly ⊢
        rw [settle_eq horderly hnodup hreleases]
        congr 1
        refine List.filter_congr fun other hother => ?_
        have hne : other ≠ event := by
          rintro rfl
          rw [hreleases other hother] at his
          cases his
        simp [hne]

theorem settle_outstanding {events : List Event} (h : Orderly [] events) : settle [] events = outstanding events := by
  rw [settle_eq h List.nodup_nil (by simp)]
  rfl

/-- A press is released later, or its release is outstanding. -/
theorem released_or_outstanding : ∀ {before after : List Event} {press release : Event}, press.release = some release →
    release ∈ after ∨ release ∈ outstanding (before ++ press :: after)
  | [], after, press, release, h => by
    rw [List.nil_append, outstanding, h]
    by_cases hin : release ∈ after
    · exact Or.inl hin
    · exact Or.inr (by simp [hin])
  | event :: before, after, press, release, h => by
    refine (@released_or_outstanding before _ _ _ h).imp_right fun hin => ?_
    rw [List.cons_append, outstanding]
    split
    · split
      · exact hin
      · exact List.mem_cons_of_mem _ hin
    · exact hin

/-! ### Plans -/

theorem orderly_releases {held : List Event} : ∀ {events : List Event}, (∀ event ∈ events, event.isRelease = true) → Orderly held events
  | [], _ => trivial
  | event :: events, h => by
    rw [List.forall_mem_cons] at h
    refine ⟨fun release hrelease => ?_, orderly_releases h.2⟩
    rw [release_of_isRelease h.1] at hrelease
    cases hrelease

/-- Keys that differ from each other and from those held. -/
theorem orderly_presses : ∀ {keys : List Nat} {held : List Event}, keys.Nodup → (∀ key ∈ keys, Event.key key true ∉ held) →
    Orderly held (keys.map fun key => .key key false) ∧
      settle held (keys.map fun key => .key key false) = held ++ keys.map fun key => .key key true
  | [], held, _, _ => ⟨trivial, by simp⟩
  | key :: keys, held, hnodup, hfree => by
    rw [List.nodup_cons] at hnodup
    rw [List.forall_mem_cons] at hfree
    have hpress : settleStep held (.key key false) = held ++ [.key key true] := rfl
    obtain ⟨horderly, hsettle⟩ := @orderly_presses keys (held ++ [.key key true]) hnodup.2 (fun other hother => by
      rw [List.mem_append, not_or]
      refine ⟨hfree.2 other hother, fun hsame => hnodup.1 ?_⟩
      rw [List.mem_singleton] at hsame
      cases hsame
      exact hother)
    refine ⟨⟨fun release hrelease => ?_, horderly⟩, ?_⟩
    · cases hrelease
      exact hfree.1
    · rw [List.map_cons, settle_cons, hpress, hsettle, List.map_cons, List.append_assoc, List.singleton_append]

/-- A press and its release leave what is held alone. -/
theorem orderly_pair {held : List Event} {press release : Event} (h : press.release = some release) (hfree : release ∉ held) :
    Orderly held [press, release] ∧ settle held [press, release] = held := by
  obtain ⟨his, -⟩ := isRelease_of_release h
  have hsettled : settle held [press, release] = held := by
    rw [settle_cons, settle_cons, settle_nil, settleStep_press h, settleStep_release his, removeLast_concat]
  refine ⟨⟨fun other hother => ?_, fun other hother => ?_, trivial⟩, hsettled⟩
  · rw [h] at hother
    cases hother
    exact hfree
  · rw [release_of_isRelease his] at hother
    cases hother

theorem orderly_moves {held : List Event} : ∀ points : List Point, Orderly held (points.map fun point => .move point.1 point.2) ∧
    settle held (points.map fun point => .move point.1 point.2) = held
  | [] => ⟨trivial, rfl⟩
  | point :: points => by
    obtain ⟨horderly, hsettle⟩ := @orderly_moves held points
    have hmove : settleStep held (.move point.1 point.2) = held := rfl
    exact ⟨⟨nofun, horderly⟩, hsettle⟩

end PhysicalInput
end DccCua
