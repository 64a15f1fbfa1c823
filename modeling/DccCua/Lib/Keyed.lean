import Mathlib.Data.List.Nodup
import Mathlib.Data.List.Basic
import Mathlib.Data.List.Sort

/-! # Lists with keys

A list of entries, each with a key, is overlaid with another one: an entry whose key is there is combined with the one
it meets, and any other is added at the end. Where the keys of both lists are distinct, the overlay has a closed form,
and overlaying again changes nothing. -/

namespace Keyed

variable {α κ : Type} [DecidableEq κ] (key : α → κ) (combine : α → α → α)

/-- One entry over a list. -/
def put : List α → α → List α
  | [], y => [y]
  | x :: xs, y => if key x = key y then combine x y :: xs else x :: put xs y

def overlay (xs ys : List α) : List α := ys.foldl (put key combine) xs

/-- The entry that stands for `x` after the overlay. -/
def met (ys : List α) (x : α) : α :=
  match ys.find? fun y => key y = key x with
  | some y => combine x y
  | none => x

/-- The entries whose keys are new. -/
def fresh (xs ys : List α) : List α := ys.filter fun y => key y ∉ xs.map key

variable {key combine}

/-- An entry is the one that is found under its key. -/
theorem find?_key {xs : List α} (hnodup : (xs.map key).Nodup) {x : α} (hx : x ∈ xs) :
    xs.find? (fun x' => key x' = key x) = some x := by
  induction xs with
  | nil => cases hx
  | cons x' xs ih =>
    rw [List.map_cons, List.nodup_cons] at hnodup
    rw [List.find?_cons]
    rcases List.mem_cons.mp hx with rfl | hx
    · rw [decide_eq_true rfl]
    · have hne : key x' ≠ key x := fun heq => hnodup.1 (heq ▸ List.mem_map_of_mem hx)
      rw [decide_eq_false hne]
      exact ih hnodup.2 hx

variable (key combine) in
theorem met_cases (ys : List α) (x : α) :
    (∃ y ∈ ys, key x = key y ∧ met key combine ys x = combine x y) ∨
      ((∀ y ∈ ys, key y ≠ key x) ∧ met key combine ys x = x) := by
  cases hfind : ys.find? fun y => key y = key x with
  | some y =>
    refine Or.inl ⟨y, List.mem_of_find?_eq_some hfind, ?_, by rw [met, hfind]⟩
    have hsame := List.find?_some hfind
    exact (of_decide_eq_true hsame).symm
  | none => exact Or.inr ⟨fun y hy heq => List.find?_eq_none.mp hfind y hy (decide_eq_true heq), by rw [met, hfind]⟩

theorem put_of_not_mem {xs : List α} {y : α} (h : key y ∉ xs.map key) : put key combine xs y = xs ++ [y] := by
  induction xs with
  | nil => rfl
  | cons x xs ih =>
    rw [List.map_cons, List.mem_cons, not_or] at h
    rw [put, if_neg (Ne.symm h.1), ih h.2, List.cons_append]

theorem put_of_mem {xs : List α} {y : α} (hnodup : (xs.map key).Nodup) (h : key y ∈ xs.map key) :
    put key combine xs y = xs.map fun x => if key x = key y then combine x y else x := by
  induction xs with
  | nil => cases h
  | cons x xs ih =>
    rw [List.map_cons, List.nodup_cons] at hnodup
    by_cases heq : key x = key y
    · have hrest : xs.map (fun x => if key x = key y then combine x y else x) = xs := by
        conv => rhs; rw [← List.map_id xs]
        refine List.map_congr_left fun x' hx' => if_neg fun hx => hnodup.1 ?_
        rw [heq, ← hx]
        exact List.mem_map_of_mem hx'
      rw [put, if_pos heq, List.map_cons, if_pos heq, hrest]
    · rw [List.map_cons, List.mem_cons] at h
      rw [put, if_neg heq, List.map_cons, if_neg heq, ih hnodup.2 (h.resolve_left (Ne.symm heq))]

section Keys
variable (hkey : ∀ x y, key x = key y → key (combine x y) = key y)
include hkey

theorem keys_put (xs : List α) (y : α) :
    (put key combine xs y).map key = if key y ∈ xs.map key then xs.map key else xs.map key ++ [key y] := by
  induction xs with
  | nil => simp [put]
  | cons x xs ih =>
    rw [put]
    by_cases heq : key x = key y
    · rw [if_pos heq, List.map_cons, List.map_cons, hkey x y heq, if_pos (by rw [heq]; exact List.mem_cons_self), heq]
    · rw [if_neg heq, List.map_cons, List.map_cons, ih]
      by_cases hmem : key y ∈ xs.map key
      · rw [if_pos hmem, if_pos (List.mem_cons_of_mem _ hmem)]
      · have hnot : key y ∉ key x :: xs.map key := by
          rw [List.mem_cons, not_or]
          exact ⟨Ne.symm heq, hmem⟩
        rw [if_neg hmem, if_neg hnot, List.cons_append]

theorem nodup_put {xs : List α} (h : (xs.map key).Nodup) (y : α) : ((put key combine xs y).map key).Nodup := by
  rw [keys_put hkey]
  split
  · exact h
  · rename_i hnot
    exact List.nodup_append.mpr ⟨h, List.nodup_singleton _, fun a ha b hb heq => hnot (by
      obtain rfl := List.mem_singleton.mp hb
      exact heq ▸ ha)⟩

theorem nodup_overlay {xs : List α} (h : (xs.map key).Nodup) (ys : List α) : ((overlay key combine xs ys).map key).Nodup := by
  unfold overlay
  induction ys generalizing xs with
  | nil => exact h
  | cons y ys ih => exact ih (nodup_put hkey h y)

/-- What the overlay is, entry by entry. -/
theorem overlay_eq {xs ys : List α} (hxs : (xs.map key).Nodup) (hys : (ys.map key).Nodup) :
    overlay key combine xs ys = xs.map (met key combine ys) ++ fresh key xs ys := by
  unfold overlay
  induction ys generalizing xs with
  | nil =>
    have hid : met key combine [] = id := rfl
    rw [hid]
    simp [fresh]
  | cons y ys ih =>
    rw [List.map_cons, List.nodup_cons] at hys
    rw [List.foldl_cons, ih (nodup_put hkey hxs y) hys.2]
    by_cases hmem : key y ∈ xs.map key
    · have hkeys : (put key combine xs y).map key = xs.map key := by rw [keys_put hkey, if_pos hmem]
      have hfresh : fresh key xs (y :: ys) = fresh key (put key combine xs y) ys := by
        rw [fresh, fresh, hkeys, List.filter_cons_of_neg (by simpa using hmem)]
      rw [hfresh, put_of_mem hxs hmem, List.map_map]
      congr 1
      refine List.map_congr_left fun x _ => ?_
      by_cases heq : key x = key y
      · have hnone : ys.find? (fun y' => key y' = key (combine x y)) = none := by
          refine List.find?_eq_none.mpr fun y' hy' hsame => hys.1 ?_
          rw [← hkey x y heq, ← of_decide_eq_true hsame]
          exact List.mem_map_of_mem hy'
        simp only [Function.comp_apply, if_pos heq, met, hnone, List.find?_cons, decide_eq_true heq.symm]
      · simp only [Function.comp_apply, if_neg heq, met, List.find?_cons, decide_eq_false (Ne.symm heq)]
    · rw [put_of_not_mem hmem, List.map_append, List.map_singleton, List.append_assoc]
      have hnone : ys.find? (fun y' => key y' = key y) = none := by
        refine List.find?_eq_none.mpr fun y' hy' hsame => hys.1 ?_
        rw [← of_decide_eq_true hsame]
        exact List.mem_map_of_mem hy'
      have hy : met key combine ys y = y := by rw [met, hnone]
      congr 1
      · refine List.map_congr_left fun x hx => ?_
        have hne : key y ≠ key x := fun heq => hmem (heq ▸ List.mem_map_of_mem hx)
        rw [met, met, List.find?_cons, decide_eq_false hne]
      · have hnew : fresh key xs (y :: ys) = y :: fresh key xs ys := List.filter_cons_of_pos (decide_eq_true hmem)
        rw [hnew, hy, List.singleton_append, fresh, fresh]
        congr 1
        refine List.filter_congr fun y' hy' => ?_
        have hne : key y' ≠ key y := fun heq => hys.1 (heq ▸ List.mem_map_of_mem hy')
        simp [hne]

theorem key_met (ys : List α) (x : α) : key (met key combine ys x) = key x := by
  rcases met_cases key combine ys x with ⟨y, -, heq, hmet⟩ | ⟨-, hmet⟩
  · rw [hmet, hkey x y heq, heq]
  · rw [hmet]

/-- A list over itself. -/
theorem overlay_self {xs : List α} (hxs : (xs.map key).Nodup) (hself : ∀ x ∈ xs, combine x x = x) :
    overlay key combine xs xs = xs := by
  have hmet : xs.map (met key combine xs) = xs := by
    conv => rhs; rw [← List.map_id xs]
    refine List.map_congr_left fun x hx => ?_
    rw [met, find?_key hxs hx]
    exact hself x hx
  have hfresh : fresh key xs xs = [] := List.filter_eq_nil_iff.mpr fun x hx => by
    simpa using List.mem_map_of_mem (f := key) hx
  rw [overlay_eq hkey hxs hxs, hmet, hfresh, List.append_nil]

/-- Overlaying the overlay again changes nothing, where the entries do not change when they are combined again. -/
theorem overlay_overlay {xs ys : List α} (hxs : (xs.map key).Nodup) (hys : (ys.map key).Nodup)
    (hself : ∀ x ∈ xs, combine x x = x)
    (hagain : ∀ x ∈ xs, ∀ y ∈ ys, key x = key y → combine x (combine x y) = combine x y) :
    overlay key combine xs (overlay key combine xs ys) = overlay key combine xs ys := by
  have hkeys : (xs.map (met key combine ys)).map key = xs.map key := by
    rw [List.map_map]
    exact List.map_congr_left fun x _ => key_met hkey ys x
  have hnodup := nodup_overlay hkey hxs ys
  rw [overlay_eq hkey hxs hnodup]
  rw [overlay_eq hkey hxs hys] at hnodup ⊢
  congr 1
  · refine List.map_congr_left fun x hx => ?_
    have hfind := find?_key hnodup (List.mem_append_left _ (List.mem_map_of_mem hx))
    rw [key_met hkey] at hfind
    conv => lhs; rw [met, hfind]
    rcases met_cases key combine ys x with ⟨y, hy, heq, hmet⟩ | ⟨-, hmet⟩
    · rw [hmet]
      exact hagain x hx y hy heq
    · rw [hmet]
      exact hself x hx
  · have hnone : (xs.map (met key combine ys)).filter (fun y => key y ∉ xs.map key) = [] := by
      refine List.filter_eq_nil_iff.mpr fun y hy => ?_
      rw [← hkeys]
      simpa using List.mem_map_of_mem (f := key) hy
    rw [fresh, List.filter_append, hnone, List.nil_append, fresh, List.filter_filter]
    exact List.filter_congr fun y _ => Bool.and_self _

end Keys

/-! ### Sorting -/

section Sorting
variable (key) {r : α → α → Prop} [DecidableRel r] (hr : ∀ x y, key x = key y → r x y)
include hr

theorem find?_orderedInsert (k : κ) (x : α) (xs : List α) :
    (xs.orderedInsert r x).find? (fun y => key y = k) = (x :: xs).find? fun y => key y = k := by
  induction xs with
  | nil => rfl
  | cons y ys ih =>
    rw [List.orderedInsert]
    by_cases hle : r x y
    · rw [if_pos hle]
    · rw [if_neg hle]
      by_cases hy : key y = k
      · have hx : key x ≠ k := fun h => hle (hr x y (h.trans hy.symm))
        simp [hy, hx]
      · simp only [List.find?_cons, decide_eq_false hy, ih]

/-- The sort leaves entries with one key in their order. -/
theorem find?_insertionSort (k : κ) (xs : List α) :
    (xs.insertionSort r).find? (fun y => key y = k) = xs.find? fun y => key y = k := by
  induction xs with
  | nil => rfl
  | cons x xs ih =>
    rw [List.insertionSort, List.foldr, ← List.insertionSort, find?_orderedInsert key hr, List.find?_cons, List.find?_cons, ih]

end Sorting

theorem sublist_eq_filter [DecidableEq α] {s xs : List α} (h : s.Sublist xs) (hnodup : xs.Nodup) :
    s = xs.filter (· ∈ s) := by
  induction h with
  | slnil => rfl
  | @cons s xs x h ih =>
    rw [List.nodup_cons] at hnodup
    rw [List.filter_cons_of_neg (by simpa using fun hmem => hnodup.1 (h.subset hmem))]
    exact ih hnodup.2
  | @cons_cons s xs x h ih =>
    rw [List.nodup_cons] at hnodup
    rw [List.filter_cons_of_pos (by simp)]
    congr 1
    conv => lhs; rw [ih hnodup.2]
    refine List.filter_congr fun y hy => ?_
    have hne : y ≠ x := fun heq => hnodup.1 (heq ▸ hy)
    simp [hne]

end Keyed
