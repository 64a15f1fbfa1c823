import DccCua.Core.WindowTarget
import DccCua.Lib.Checks

/-! # Which rows of a window list are kept

A row is a window exactly when it is well formed, and no other row gets in its way: unless the bounds of a row whose
identity is good lack a key, at which the listing panics. -/

namespace DccCua
namespace WindowList

open Checks Rounding

/-! ### Well-formed rows -/

/-- The key has a finite number in the range of 32 bits, which rounds to `n`. -/
def Coordinate (fields : List (String × Json)) (key : String) (n : Int) : Prop :=
  ∃ value q, Json.lookup key fields = some value ∧ asF64 value = some q ∧ -2 ^ 31 ≤ q ∧ q ≤ 2 ^ 31 - 1 ∧ n = roundAway q

def boundKeys : List String := ["x", "y", "width", "height"]

structure RowOf (row : Json) (target : WindowTarget) : Prop where
  pid : row.get "pid" = .int target.pid ∧ target.pid < 2 ^ 32
  windowId : row.get "window_id" = .int target.windowId ∧ target.windowId < 2 ^ 64
  bounds : ∃ fields, row.get "bounds" = .obj fields ∧
    List.Forall₂ (Coordinate fields) boundKeys [target.bounds.x, target.bounds.y, target.bounds.width, target.bounds.height]
  title : target.title = ((row.get "title").asStr).getD ""
  appName : target.appName = ((row.get "app_name").asStr).getD ""
  isOnScreen : target.isOnScreen = ((row.get "is_on_screen").asBool).getD false
  isMinimized : target.isMinimized = ((row.get "minimized").asBool).getD false
  zIndex : target.zIndex = (asI64 (row.get "z_index")).bind toI32
  isForeground : target.isForeground = ((row.get "is_foreground").asBool).getD false

/-- A key is missing, and before it the coordinates are good. -/
def Missed (fields : List (String × Json)) (keys : List String) : Prop :=
  ∃ before key after, keys = before ++ key :: after ∧ (∀ k ∈ before, ∃ n, Coordinate fields k n) ∧ Json.lookup key fields = none

/-- The row identifies a window, and its bounds miss a key. -/
def Misses (row : Json) : Prop :=
  ∃ (pid windowId : Nat) (fields : List (String × Json)), (row.get "pid" = .int pid ∧ pid < 2 ^ 32) ∧
    (row.get "window_id" = .int windowId ∧ windowId < 2 ^ 64) ∧ row.get "bounds" = .obj fields ∧ Missed fields boundKeys

/-! ### Numbers -/

theorem asU64_eq_some {value : Json} {n : Nat} : value.asU64 = some n ↔ value = .int n ∧ n < 2 ^ 64 := by
  cases value with
  | int v =>
    unfold Json.asU64
    simp only [Option.ite_none_right_eq_some, Option.some.injEq, Json.int.injEq]
    omega
  | _ => simp [Json.asU64]

theorem toU32_eq_some {value n : Nat} : toU32 value = some n ↔ value = n ∧ n < 2 ^ 32 := by
  unfold toU32
  simp only [Option.ite_none_right_eq_some, Option.some.injEq]
  omega

theorem bound_eq_some {value : Json} {n : Int} :
    bound value = some n ↔ ∃ q, asF64 value = some q ∧ -2 ^ 31 ≤ q ∧ q ≤ 2 ^ 31 - 1 ∧ n = roundAway q := by
  unfold bound
  cases asF64 value with
  | none => simp
  | some q =>
    simp only [Option.ite_none_right_eq_some, Option.some.injEq, exists_eq_left', and_assoc]
    refine and_congr_right fun _ => and_congr_right fun _ => ?_
    exact eq_comm

/-! ### Bounds -/

/-- The coordinates of some keys, one after another. -/
def readKeys (fields : List (String × Json)) : List String → Except MissingKey (Option (List Int))
  | [] => .ok (some [])
  | key :: keys => do
    let some n := bound (← index fields key) | return none
    let some ns ← readKeys fields keys | return none
    return some (n :: ns)

section Bounds
variable {fields : List (String × Json)}

/-- What is found at a key. -/
theorem index_cases (fields : List (String × Json)) (key : String) :
    (Json.lookup key fields = none ∧ index fields key = .error ⟨key⟩) ∨
      (∃ value, index fields key = .ok value ∧ Json.lookup key fields = some value ∧ bound value = none ∧ ¬∃ n, Coordinate fields key n) ∨
      ∃ value n, index fields key = .ok value ∧ bound value = some n ∧ ∀ m, Coordinate fields key m ↔ m = n := by
  unfold index
  cases hlookup : Json.lookup key fields with
  | none => exact Or.inl ⟨rfl, rfl⟩
  | some value =>
    have hcoordinate : ∀ m, Coordinate fields key m ↔ bound value = some m := by
      intro m
      rw [bound_eq_some]
      unfold Coordinate
      rw [hlookup]
      simp
    cases hbound : bound value with
    | none => exact Or.inr (Or.inl ⟨value, rfl, rfl, hbound, fun ⟨n, hn⟩ => by rw [hcoordinate, hbound] at hn; cases hn⟩)
    | some n =>
      refine Or.inr (Or.inr ⟨value, n, rfl, hbound, fun m => ?_⟩)
      rw [hcoordinate, hbound, Option.some.injEq, eq_comm]

theorem missed_cons {key : String} {keys : List String} :
    Missed fields (key :: keys) ↔ Json.lookup key fields = none ∨ (∃ n, Coordinate fields key n) ∧ Missed fields keys := by
  constructor
  · rintro ⟨before, missing, after, hkeys, hgood, hmissing⟩
    cases before with
    | nil =>
      obtain ⟨rfl, -⟩ := List.cons.inj hkeys
      exact Or.inl hmissing
    | cons first before =>
      obtain ⟨rfl, rfl⟩ := List.cons.inj hkeys
      exact Or.inr ⟨hgood key List.mem_cons_self, before, missing, after, rfl, fun k hk => hgood k (List.mem_cons_of_mem _ hk), hmissing⟩
  · rintro (hmissing | ⟨hgood, before, missing, after, rfl, hbefore, hmissing⟩)
    · exact ⟨[], key, keys, rfl, by simp, hmissing⟩
    · exact ⟨key :: before, missing, after, rfl, List.forall_mem_cons.mpr ⟨hgood, hbefore⟩, hmissing⟩

theorem missed_nil : ¬Missed fields [] := by
  rintro ⟨before, key, after, hkeys, -⟩
  simp at hkeys

/-- Reading the keys panics exactly when one is missed, and else gives their coordinates. -/
theorem readKeys_spec : ∀ keys : List String, ((∃ e, readKeys fields keys = .error e) ∧ Missed fields keys) ∨
    ∃ result, readKeys fields keys = .ok result ∧ ¬Missed fields keys ∧ ∀ ns, result = some ns ↔ List.Forall₂ (Coordinate fields) keys ns
  | [] => Or.inr ⟨some [], rfl, missed_nil, fun ns => by cases ns <;> simp⟩
  | key :: keys => by
    rw [readKeys, missed_cons]
    rcases index_cases fields key with ⟨hnone, hindex⟩ | ⟨value, hindex, hsome, hbound, hbad⟩ | ⟨value, n, hindex, hbound, hcoordinate⟩
    · rw [hindex]
      exact Or.inl ⟨⟨_, rfl⟩, Or.inl hnone⟩
    · rw [hindex]
      refine Or.inr ⟨none, by simp only [hbound, bind, Except.bind]; rfl, ?_, fun ns => ?_⟩
      · rintro (hnone | ⟨hgood, -⟩)
        · rw [hsome] at hnone
          cases hnone
        · exact hbad hgood
      · cases ns with
        | nil => simp
        | cons m ns => simpa using fun hm => (hbad ⟨m, hm⟩).elim
    · rw [hindex]
      have hfound : ∀ rest : Except MissingKey (Option (List Int)), (do
          let some n := bound (← (Except.ok value : Except MissingKey Json)) | return none
          let some ns ← rest | return none
          return some (n :: ns)) = (do
          let some ns ← rest | return none
          return some (n :: ns)) := by
        intro rest
        simp only [bind, Except.bind, hbound]
      rw [hfound]
      have hmissed : (Json.lookup key fields = none ∨ (∃ n, Coordinate fields key n) ∧ Missed fields keys) ↔ Missed fields keys := by
        have hgood : ∃ n, Coordinate fields key n := ⟨n, (hcoordinate n).mpr rfl⟩
        obtain ⟨m, v, q, hlookup, -⟩ := hgood
        simp [hlookup, hcoordinate]
      rw [hmissed]
      rcases readKeys_spec keys with ⟨⟨e, herror⟩, hmisses⟩ | ⟨result, hresult, hnever, hcoordinates⟩
      · rw [herror]
        exact Or.inl ⟨⟨e, rfl⟩, hmisses⟩
      · rw [hresult]
        cases result with
        | none =>
          refine Or.inr ⟨none, rfl, hnever, fun ns => ?_⟩
          cases ns with
          | nil => simp
          | cons m ns =>
            rw [List.forall₂_cons]
            refine ⟨fun h => (by cases h), fun h => ?_⟩
            have hnone := (hcoordinates ns).mpr h.2
            cases hnone
        | some found =>
          refine Or.inr ⟨some (n :: found), rfl, hnever, fun ns => ?_⟩
          cases ns with
          | nil => simp
          | cons m ns => rw [List.forall₂_cons, hcoordinate, ← hcoordinates, Option.some.injEq, Option.some.injEq, List.cons.injEq, eq_comm]

/-- The four keys of the bounds, as a list. -/
theorem bounds_eq_readKeys (fields : List (String × Json)) : bounds fields = (readKeys fields boundKeys).map fun found => found.bind fun
    | [x, y, width, height] => some ⟨x, y, width, height⟩
    | _ => none := by
  simp only [bounds, boundKeys, readKeys]
  cases index fields "x" with
  | error e => rfl
  | ok vx =>
    simp only [bind, Except.bind]
    cases bound vx with
    | none => rfl
    | some x =>
      cases index fields "y" with
      | error e => rfl
      | ok vy =>
        dsimp only
        cases bound vy with
        | none => rfl
        | some y =>
          cases index fields "width" with
          | error e => rfl
          | ok vwidth =>
            dsimp only
            cases bound vwidth with
            | none => rfl
            | some width =>
              cases index fields "height" with
              | error e => rfl
              | ok vheight =>
                dsimp only
                cases bound vheight <;> rfl

/-- The bounds panic exactly when a key is missed, and else are the four coordinates. -/
theorem bounds_spec : ((∃ e, bounds fields = .error e) ∧ Missed fields boundKeys) ∨
    ∃ result, bounds fields = .ok result ∧ ¬Missed fields boundKeys ∧
      ∀ b, result = some b ↔ List.Forall₂ (Coordinate fields) boundKeys [b.x, b.y, b.width, b.height] := by
  rw [bounds_eq_readKeys]
  rcases readKeys_spec boundKeys with ⟨⟨e, herror⟩, hmisses⟩ | ⟨found, hfound, hnever, hcoordinates⟩
  · rw [herror]
    exact Or.inl ⟨⟨e, rfl⟩, hmisses⟩
  · rw [hfound]
    refine Or.inr ⟨_, rfl, hnever, fun b => ?_⟩
    rw [← hcoordinates]
    cases found with
    | none => simp
    | some ns =>
      have hlength := ((hcoordinates ns).mp rfl).length_eq
      obtain ⟨x, y, width, height, rfl⟩ : ∃ x y width height, ns = [x, y, width, height] := by
        rcases ns with _ | ⟨x, _ | ⟨y, _ | ⟨width, _ | ⟨height, _ | ⟨more, rest⟩⟩⟩⟩⟩
        all_goals simp [boundKeys] at hlength ⊢
      cases b
      simp

end Bounds

/-! ### Rows -/

/-- A row is read as the window that it is, or as none. -/
def Parses (row : Json) : Prop := ∃ result, fromValue row = .ok result ∧ ∀ target, result = some target ↔ RowOf row target

/-- What identifies a row, and its bounds. -/
structure Identified (row : Json) (pid windowId : Nat) (fields : List (String × Json)) : Prop where
  pid : row.get "pid" = .int pid ∧ pid < 2 ^ 32
  windowId : row.get "window_id" = .int windowId ∧ windowId < 2 ^ 64
  bounds : row.get "bounds" = .obj fields

theorem Identified.parts {row : Json} {pid windowId : Nat} {fields : List (String × Json)} (h : Identified row pid windowId fields) :
    (row.get "pid").asU64 = some pid ∧ toU32 pid = some pid ∧ (row.get "window_id").asU64 = some windowId ∧
      (row.get "bounds").asObject = some fields := by
  have hpid : pid < 2 ^ 64 := Nat.lt_trans h.pid.2 (by decide)
  exact ⟨asU64_eq_some.mpr ⟨h.pid.1, hpid⟩, toU32_eq_some.mpr ⟨rfl, h.pid.2⟩, asU64_eq_some.mpr h.windowId, by rw [h.bounds]; rfl⟩

theorem RowOf.identified {row : Json} {target : WindowTarget} (h : RowOf row target) :
    ∃ fields, Identified row target.pid target.windowId fields ∧
      List.Forall₂ (Coordinate fields) boundKeys [target.bounds.x, target.bounds.y, target.bounds.width, target.bounds.height] := by
  obtain ⟨fields, hfields, hcoordinates⟩ := h.bounds
  exact ⟨fields, ⟨h.pid, h.windowId, hfields⟩, hcoordinates⟩

theorem Misses.identified {row : Json} (h : Misses row) :
    ∃ pid windowId fields, Identified row pid windowId fields ∧ Missed fields boundKeys := by
  obtain ⟨pid, windowId, fields, hpid, hwindowId, hfields, hmissed⟩ := h
  exact ⟨pid, windowId, fields, ⟨hpid, hwindowId, hfields⟩, hmissed⟩

/-- A row that is not identified is none. -/
theorem fromValue_unidentified {row : Json} (hnone : ∀ pid windowId fields, ¬Identified row pid windowId fields)
    (h : fromValue row = .ok none) : Parses row ∧ ¬Misses row := by
  refine ⟨⟨none, h, fun target => ⟨fun hsome => (by cases hsome), fun hrow => ?_⟩⟩, fun hmisses => ?_⟩
  · obtain ⟨fields, hidentified, -⟩ := hrow.identified
    exact absurd hidentified (hnone _ _ fields)
  · obtain ⟨pid, windowId, fields, hidentified, -⟩ := hmisses.identified
    exact hnone pid windowId fields hidentified

theorem asObject_eq_some {value : Json} {fields : List (String × Json)} : value.asObject = some fields ↔ value = .obj fields := by
  cases value <;> simp [Json.asObject]

/-- A row is read, unless it misses a key; it panics there. -/
theorem fromValue_spec (row : Json) : ((∃ e, fromValue row = .error e) ∧ Misses row) ∨ (Parses row ∧ ¬Misses row) := by
  cases hpid : (row.get "pid").asU64 with
  | none =>
    refine Or.inr (fromValue_unidentified (fun pid windowId fields h => ?_) (by unfold fromValue; rw [hpid]; rfl))
    rw [h.parts.1] at hpid
    cases hpid
  | some pid =>
    cases hnarrow : toU32 pid with
    | none =>
      refine Or.inr (fromValue_unidentified (fun pid' windowId fields h => ?_) (by unfold fromValue; rw [hpid]; dsimp only; rw [hnarrow]; rfl))
      rw [h.parts.1, Option.some.injEq] at hpid
      rw [← hpid, h.parts.2.1] at hnarrow
      cases hnarrow
    | some narrow =>
      obtain ⟨rfl, hsmall⟩ := toU32_eq_some.mp hnarrow
      cases hwindowId : (row.get "window_id").asU64 with
      | none =>
        refine Or.inr (fromValue_unidentified (fun pid' windowId fields h => ?_)
          (by unfold fromValue; rw [hpid]; dsimp only; rw [hnarrow]; dsimp only; rw [hwindowId]; rfl))
        rw [h.parts.2.2.1] at hwindowId
        cases hwindowId
      | some windowId =>
        cases hfields : (row.get "bounds").asObject with
        | none =>
          refine Or.inr (fromValue_unidentified (fun pid' windowId fields h => ?_)
            (by unfold fromValue; rw [hpid]; dsimp only; rw [hnarrow]; dsimp only; rw [hwindowId]; dsimp only; rw [hfields]; rfl))
          rw [h.parts.2.2.2] at hfields
          cases hfields
        | some fields =>
          have hidentified : Identified row pid windowId fields :=
            ⟨⟨(asU64_eq_some.mp hpid).1, hsmall⟩, asU64_eq_some.mp hwindowId, asObject_eq_some.mp hfields⟩
          have hrun : ∀ {found}, bounds fields = found → fromValue row = found.map (Option.map fun b =>
              ⟨pid, windowId, ((row.get "title").asStr).getD "", ((row.get "app_name").asStr).getD "", b,
                ((row.get "is_on_screen").asBool).getD false, ((row.get "minimized").asBool).getD false,
                (asI64 (row.get "z_index")).bind toI32, ((row.get "is_foreground").asBool).getD false⟩) := by
            intro found hfound
            unfold fromValue
            rw [hpid]
            dsimp only
            rw [hnarrow]
            dsimp only
            rw [hwindowId]
            dsimp only
            simp only [hfields, hfound]
            cases found with
            | error e => rfl
            | ok found => cases found <;> rfl
          have hsame : ∀ {pid' windowId' fields'}, Identified row pid' windowId' fields' → pid' = pid ∧ windowId' = windowId ∧ fields' = fields := by
            intro pid' windowId' fields' h
            have hparts := h.parts
            rw [hpid, hwindowId, hfields, Option.some.injEq, Option.some.injEq, Option.some.injEq] at hparts
            exact ⟨hparts.1.symm, hparts.2.2.1.symm, hparts.2.2.2.symm⟩
          rcases (bounds_spec : _ ∧ Missed fields boundKeys ∨ _) with ⟨⟨e, herror⟩, hmissed⟩ | ⟨found, hfound, hnever, hcoordinates⟩
          · rw [hrun herror]
            exact Or.inl ⟨⟨e, rfl⟩, pid, windowId, fields, hidentified.pid, hidentified.windowId, hidentified.bounds, hmissed⟩
          · have hmisses : ¬Misses row := by
              intro hmisses
              obtain ⟨_, _, fields', hidentified', hmissed⟩ := hmisses.identified
              obtain ⟨-, -, rfl⟩ := hsame hidentified'
              exact hnever hmissed
            refine Or.inr ⟨?_, hmisses⟩
            unfold Parses
            rw [hrun hfound]
            cases found with
            | none =>
              refine ⟨none, rfl, fun target => ⟨fun hsome => (by cases hsome), fun hrow => ?_⟩⟩
              obtain ⟨fields', hidentified', hcoordinate⟩ := hrow.identified
              obtain ⟨-, -, rfl⟩ := hsame hidentified'
              have hsome := (hcoordinates target.bounds).mpr hcoordinate
              cases hsome
            | some b =>
              refine ⟨_, rfl, fun target => ⟨fun hsome => ?_, fun hrow => ?_⟩⟩
              · obtain rfl := Option.some.inj hsome
                exact ⟨hidentified.pid, hidentified.windowId, ⟨fields, hidentified.bounds, (hcoordinates b).mp rfl⟩, rfl, rfl, rfl, rfl, rfl, rfl⟩
              · obtain ⟨fields', hidentified', hcoordinate⟩ := hrow.identified
                obtain ⟨hpid', hwindowId', rfl⟩ := hsame hidentified'
                have hb := Option.some.inj ((hcoordinates target.bounds).mpr hcoordinate)
                obtain ⟨-, -, -, htitle, happName, honScreen, hminimized, hzIndex, hforeground⟩ := hrow
                cases target
                simp only [Option.map_some, Option.some.injEq, WindowTarget.mk.injEq]
                exact ⟨hpid'.symm, hwindowId'.symm, htitle.symm, happName.symm, hb, honScreen.symm, hminimized.symm, hzIndex.symm,
                  hforeground.symm⟩

theorem parses_iff {row : Json} : Parses row ↔ ¬Misses row := by
  rcases fromValue_spec row with ⟨⟨e, herror⟩, hmisses⟩ | ⟨hparses, hmisses⟩
  · refine iff_of_false (fun ⟨result, hok, _⟩ => ?_) (fun hnever => hnever hmisses)
    rw [herror] at hok
    cases hok
  · exact iff_of_true hparses hmisses

/-! ### Listings -/

/-- The windows of the well-formed rows, in order. -/
inductive Kept : List Json → List WindowTarget → Prop where
  | nil : Kept [] []
  | window {row : Json} {rows : List Json} {target : WindowTarget} {targets : List WindowTarget} : RowOf row target → Kept rows targets →
      Kept (row :: rows) (target :: targets)
  | skipped {row : Json} {rows : List Json} {targets : List WindowTarget} : (∀ target, ¬RowOf row target) → Kept rows targets →
      Kept (row :: rows) targets

/-- The listing keeps exactly the well-formed rows. -/
def Lists (system : Option Nat) (rows : List Json) : Prop :=
  ∃ targets, listWindows system rows = .ok (markForegroundWindow system targets) ∧ Kept rows targets

theorem parseRows_spec : ∀ rows : List Json, ((∃ e, parseRows rows = .error e) ∧ ∃ row ∈ rows, Misses row) ∨
    ∃ targets, parseRows rows = .ok targets ∧ Kept rows targets ∧ ∀ row ∈ rows, ¬Misses row
  | [] => Or.inr ⟨[], rfl, .nil, by simp⟩
  | row :: rows => by
    rcases fromValue_spec row with ⟨⟨e, herror⟩, hmisses⟩ | ⟨⟨result, hresult, hrow⟩, hnever⟩
    · exact Or.inl ⟨⟨e, by rw [parseRows, herror]; rfl⟩, row, List.mem_cons_self, hmisses⟩
    · rcases parseRows_spec rows with ⟨⟨e, herror⟩, other, hother, hmisses⟩ | ⟨targets, htargets, hkept, hrest⟩
      · exact Or.inl ⟨⟨e, by rw [parseRows, hresult, herror]; rfl⟩, other, List.mem_cons_of_mem _ hother, hmisses⟩
      · refine Or.inr ⟨result.toList ++ targets, by rw [parseRows, hresult, htargets]; rfl, ?_, List.forall_mem_cons.mpr ⟨hnever, hrest⟩⟩
        cases result with
        | none => exact .skipped (fun target h => by have hsome := (hrow target).mpr h; cases hsome) hkept
        | some target => exact .window ((hrow target).mp rfl) hkept

theorem lists_iff {system : Option Nat} {rows : List Json} : Lists system rows ↔ ∀ row ∈ rows, ¬Misses row := by
  unfold Lists listWindows
  rcases parseRows_spec rows with ⟨⟨e, herror⟩, row, hrow, hmisses⟩ | ⟨targets, htargets, hkept, hnever⟩
  · rw [herror]
    refine iff_of_false (fun ⟨targets, hok, _⟩ => ?_) fun hnever => hnever row hrow hmisses
    cases hok
  · rw [htargets]
    exact iff_of_true ⟨targets, rfl, hkept⟩ hnever

/-- A row is read, and a list of rows kept, exactly when no row misses a key of its bounds. -/
theorem rows_read_iff (system : Option Nat) (row : Json) (rows : List Json) :
    (Parses row ↔ ¬Misses row) ∧ (Lists system rows ↔ ∀ row ∈ rows, ¬Misses row) := ⟨parses_iff, lists_iff⟩

/-- A row whose bounds have no height. -/
def rowWithoutHeight : Json := .obj [("pid", .int 7), ("window_id", .int 9),
  ("bounds", .obj [("x", .int 0), ("y", .int 0), ("width", .int 640)])]

/-- It keeps every other row from being listed. -/
theorem missing_height_panics : ¬Parses rowWithoutHeight ∧ ∀ rows, rowWithoutHeight ∈ rows → ¬Lists none rows := by
  have hmisses : Misses rowWithoutHeight := by
    refine ⟨7, 9, _, ⟨rfl, by decide⟩, ⟨rfl, by decide⟩, rfl, ["x", "y", "width"], "height", [], rfl, ?_, rfl⟩
    simp only [List.forall_mem_cons, List.not_mem_nil, false_imp_iff, implies_true, and_true]
    exact ⟨⟨_, .int 0, 0, rfl, rfl, by norm_num, by norm_num, rfl⟩, ⟨_, .int 0, 0, rfl, rfl, by norm_num, by norm_num, rfl⟩,
      ⟨_, .int 640, 640, rfl, rfl, by norm_num, by norm_num, rfl⟩⟩
  exact ⟨fun hparses => parses_iff.mp hparses hmisses, fun rows hrow hlists => lists_iff.mp hlists _ hrow hmisses⟩

end WindowList
end DccCua
