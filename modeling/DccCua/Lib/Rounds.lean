import Mathlib.Data.List.Basic
import Mathlib.Data.List.Nodup

/-! # Removal in rounds

Entries are checked against the list that they are in. Those that fail are taken out together, and what is left is
checked again, until nothing fails. A removal may make another entry fail, or let it pass. -/

namespace Rounds

variable {α β ε : Type} (check : List α → α → Except ε β)

def failures (entries : List α) : List (α × ε) :=
  entries.filterMap fun a =>
    match check entries a with
    | .error e => some (a, e)
    | .ok _ => none

def passing (entries : List α) : List α :=
  entries.filter fun a =>
    match check entries a with
    | .error _ => false
    | .ok _ => true

/-- What is left, and what was taken out with its errors. There are at most as many rounds as entries. -/
def settle : Nat → List α → List α × List (α × ε)
  | 0, entries => (entries, [])
  | rounds + 1, entries =>
    match failures check entries with
    | [] => (entries, [])
    | failed => ((settle rounds (passing check entries)).1, failed ++ (settle rounds (passing check entries)).2)

/-- What is left after some rounds. -/
def left : Nat → List α → List α
  | 0, entries => entries
  | rounds + 1, entries => left rounds (passing check entries)

/-- No round takes the entry out. -/
def Lasts (entries : List α) (a : α) : Prop := ∀ rounds, a ∈ left check rounds entries

variable {check}

theorem mem_passing {entries : List α} {a : α} :
    a ∈ passing check entries ↔ a ∈ entries ∧ ∃ b, check entries a = .ok b := by
  rw [passing, List.mem_filter]
  refine and_congr_right fun _ => ?_
  cases check entries a <;> simp

theorem passing_sublist (entries : List α) : (passing check entries).Sublist entries := List.filter_sublist

theorem failures_eq_nil {entries : List α} :
    failures check entries = [] ↔ ∀ a ∈ entries, ∃ b, check entries a = .ok b := by
  rw [failures, List.filterMap_eq_nil_iff]
  refine forall₂_congr fun a _ => ?_
  cases check entries a <;> simp

theorem passing_eq_self {entries : List α} (h : failures check entries = []) : passing check entries = entries := by
  refine List.filter_eq_self.mpr fun a ha => ?_
  obtain ⟨b, hb⟩ := failures_eq_nil.mp h a ha
  rw [hb]

theorem length_passing_lt {entries : List α} (h : failures check entries ≠ []) :
    (passing check entries).length < entries.length := by
  refine Nat.lt_of_le_of_ne (passing_sublist entries).length_le fun heq => h (failures_eq_nil.mpr fun a ha => ?_)
  rw [← (passing_sublist entries).eq_of_length heq] at ha
  exact (mem_passing.mp ha).2

theorem settle_succ_of_failures {rounds : Nat} {entries : List α} (h : failures check entries ≠ []) :
    settle check (rounds + 1) entries =
      ((settle check rounds (passing check entries)).1,
        failures check entries ++ (settle check rounds (passing check entries)).2) := by
  rw [settle]
  cases hfailed : failures check entries with
  | nil => exact absurd hfailed h
  | cons failure rest => rfl

theorem settle_of_passes {rounds : Nat} {entries : List α} (h : failures check entries = []) :
    settle check rounds entries = (entries, []) := by
  cases rounds with
  | zero => rfl
  | succ rounds => rw [settle, h]

/-- A property that every round keeps. -/
theorem settle_induction {P : List α → Prop} (hstep : ∀ entries, P entries → P (passing check entries)) (rounds : Nat) :
    ∀ {entries : List α}, P entries → P (settle check rounds entries).1 := by
  induction rounds with
  | zero => exact id
  | succ rounds ih =>
    intro entries h
    by_cases hnone : failures check entries = []
    · rwa [settle_of_passes hnone]
    · rw [settle_succ_of_failures hnone]
      exact ih (hstep entries h)

variable (check) in
theorem settle_sublist (rounds : Nat) (entries : List α) : (settle check rounds entries).1.Sublist entries :=
  settle_induction (P := (·.Sublist entries)) (fun rest h => (passing_sublist rest).trans h) rounds (List.Sublist.refl _)

variable (check) in
/-- Nothing fails in what is left. -/
theorem settle_passes {rounds : Nat} {entries : List α} (h : entries.length ≤ rounds) :
    failures check (settle check rounds entries).1 = [] := by
  induction rounds generalizing entries with
  | zero =>
    obtain rfl := List.length_eq_zero_iff.mp (Nat.le_zero.mp h)
    rfl
  | succ rounds ih =>
    by_cases hnone : failures check entries = []
    · rwa [settle_of_passes hnone]
    · rw [settle_succ_of_failures hnone]
      have hlt := length_passing_lt hnone
      exact ih (by omega)

theorem failures_perm (entries : List α) :
    (passing check entries ++ (failures check entries).map Prod.fst).Perm entries := by
  have hfailed : (failures check entries).map Prod.fst = entries.filter fun a =>
      !(match check entries a with | .error _ => false | .ok _ => true) := by
    rw [failures, List.map_filterMap, ← List.filterMap_eq_filter]
    refine List.filterMap_congr fun a _ => ?_
    cases hcheck : check entries a <;> simp [Option.guard, hcheck]
  rw [hfailed]
  exact List.filter_append_perm _ entries

variable (check) in
/-- Each entry is left or taken out. -/
theorem settle_perm (rounds : Nat) (entries : List α) :
    ((settle check rounds entries).1 ++ (settle check rounds entries).2.map Prod.fst).Perm entries := by
  induction rounds generalizing entries with
  | zero => simp [settle]
  | succ rounds ih =>
    by_cases hnone : failures check entries = []
    · simp [settle_of_passes hnone]
    · rw [settle_succ_of_failures hnone, List.map_append]
      have hrest := (ih (passing check entries)).append_right ((failures check entries).map Prod.fst)
      refine List.Perm.trans ?_ (hrest.trans (failures_perm entries))
      rw [List.append_assoc]
      exact List.perm_append_comm.append_left _

theorem left_subset (rounds : Nat) (entries : List α) : left check rounds entries ⊆ entries := by
  induction rounds generalizing entries with
  | zero => exact List.Subset.refl _
  | succ rounds ih => exact List.Subset.trans (ih _) (passing_sublist entries).subset

theorem left_of_passes {entries : List α} (h : failures check entries = []) (rounds : Nat) :
    left check rounds entries = entries := by
  induction rounds with
  | zero => rfl
  | succ rounds ih => rw [left, passing_eq_self h, ih]

theorem lasts_passing {entries : List α} {a : α} : Lasts check (passing check entries) a ↔ Lasts check entries a := by
  refine ⟨fun h rounds => ?_, fun h rounds => h (rounds + 1)⟩
  cases rounds with
  | zero => exact (passing_sublist entries).subset (left_subset 0 _ (h 0))
  | succ rounds => exact h rounds

theorem mem_settle_iff {rounds : Nat} {entries : List α} (h : entries.length ≤ rounds) {a : α} :
    a ∈ (settle check rounds entries).1 ↔ Lasts check entries a := by
  induction rounds generalizing entries with
  | zero =>
    obtain rfl := List.length_eq_zero_iff.mp (Nat.le_zero.mp h)
    exact ⟨fun hmem => (nomatch hmem), fun hlasts => hlasts 0⟩
  | succ rounds ih =>
    by_cases hnone : failures check entries = []
    · rw [settle_of_passes hnone]
      exact ⟨fun hmem rounds => by rwa [left_of_passes hnone], fun hlasts => hlasts 0⟩
    · have hlt := length_passing_lt hnone
      rw [settle_succ_of_failures hnone, ih (by omega), lasts_passing]

/-- Entries that pass as long as they are together are left. -/
theorem lasts_of_closed {T : α → Prop} {entries : List α} (hsub : ∀ a, T a → a ∈ entries)
    (hpass : ∀ rest, rest.Sublist entries → (∀ a, T a → a ∈ rest) → ∀ a, T a → ∃ b, check rest a = .ok b) {a : α} (ha : T a) :
    Lasts check entries a := by
  have hall : ∀ rounds, ∀ rest : List α, rest.Sublist entries → (∀ a, T a → a ∈ rest) → ∀ a, T a → a ∈ left check rounds rest := by
    intro rounds
    induction rounds with
    | zero => exact fun rest _ hrest => hrest
    | succ rounds ih =>
      intro rest hsublist hrest
      exact ih _ ((passing_sublist rest).trans hsublist)
        fun a ha => mem_passing.mpr ⟨hrest a ha, hpass rest hsublist hrest a ha⟩
  exact fun rounds => hall rounds entries (List.Sublist.refl _) hsub a ha

end Rounds
