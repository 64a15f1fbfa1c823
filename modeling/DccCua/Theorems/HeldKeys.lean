import DccCua.Core.ActionPolicy
import DccCua.Theorems.TextEvents
import DccCua.Windows.HeldKeys
import Mathlib.Data.List.Enum
import Mathlib.Data.List.Nodup

/-! # The keys of a held keypress

A held keypress names at most two keys, and the policy compares them as they are spelled, up to the case of their letters.
The keys that are pressed are those of the names without the whitespace around them. -/

namespace DccCua

open Checks ActionPolicy PhysicalInput ActionPolicy.ComputerUseAction

/-- The name of a key: what `virtual_key` looks up. -/
def keyName (key : String) : String := Text.toAsciiLowercase (Text.trim key)

/-- Two spellings of one key that differ in the whitespace around its name. -/
def PaddedApart (a b : String) : Prop := keyName a = keyName b ∧ Text.toAsciiLowercase a ≠ Text.toAsciiLowercase b

/-- Whatever Windows answers, no key is pressed twice, and no two keys are spellings of one name. -/
structure PressesEachOnce (keys : List String) : Prop where
  names : (keys.map keyName).Nodup
  presses : ∀ answers, (presses (sendHeldKeysExactForeground keys answers).1).Nodup

/-! ### Keys that can be held -/

/-- The virtual keys of the names that can be held. -/
def heldCodes : List (String × Nat) :=
  [("w", 0x57), ("a", 0x41), ("s", 0x53), ("d", 0x44), ("up", 0x26), ("down", 0x28), ("left", 0x25), ("right", 0x27)]

theorem heldCodes_names : heldCodes.map Prod.fst = heldKeyNames := rfl

theorem virtualKey_heldCodes {key : String} {entry : String × Nat} (hentry : entry ∈ heldCodes) (hname : keyName key = entry.1) :
    virtualKey key = some entry.2 := by
  unfold virtualKey
  rw [show Text.toAsciiLowercase (Text.trim key) = entry.1 from hname]
  clear hname
  revert entry
  decide

/-- Names that can be held have keys of their own. -/
theorem heldCodes_injective : ∀ a ∈ heldCodes, ∀ b ∈ heldCodes, a.2 = b.2 → a.1 = b.1 := by decide

/-- The code of a key by its name. -/
theorem exists_heldCode {key : String} (h : keyName key ∈ heldKeyNames) : ∃ entry ∈ heldCodes, keyName key = entry.1 := by
  rw [← heldCodes_names] at h
  obtain ⟨entry, hentry, hname⟩ := List.mem_map.mp h
  exact ⟨entry, hentry, hname.symm⟩

theorem keyName_of_virtualKey {a b : String} (ha : keyName a ∈ heldKeyNames) (hb : keyName b ∈ heldKeyNames)
    (h : virtualKey a = virtualKey b) : keyName a = keyName b := by
  obtain ⟨entryA, hentryA, hnameA⟩ := exists_heldCode ha
  obtain ⟨entryB, hentryB, hnameB⟩ := exists_heldCode hb
  rw [virtualKey_heldCodes hentryA hnameA, virtualKey_heldCodes hentryB hnameB, Option.some.injEq] at h
  rw [hnameA, hnameB]
  exact heldCodes_injective entryA hentryA entryB hentryB h

/-! ### What is pressed -/

variable {keys : List String} {answers : HeldKeyAnswers}

/-- The virtual keys are those of the keys, one by one. -/
theorem heldVirtualKeys_eq_ok {codes : List Nat} (h : heldVirtualKeys keys = .ok codes) : keys.map virtualKey = codes.map some := by
  induction keys generalizing codes with
  | nil =>
    cases h
    rfl
  | cons key keys ih =>
    unfold heldVirtualKeys at h
    rw [List.mapM_cons, bind_eq_ok] at h
    obtain ⟨code, hcode, h⟩ := h
    obtain ⟨rest, hrest, hcodes⟩ := bind_eq_ok.mp h
    cases hcodes
    rw [List.map_cons, List.map_cons, ih hrest]
    cases hkey : virtualKey key with
    | none =>
      rw [hkey] at hcode
      cases hcode
    | some value =>
      rw [hkey] at hcode
      cases hcode
      rfl

theorem presses_downs (codes : List Nat) : presses (codes.map (Event.key · false)) = codes.map (Event.key · false) :=
  List.filter_eq_self.mpr fun event hevent => by
    obtain ⟨code, -, rfl⟩ := List.mem_map.mp hevent
    rfl

theorem presses_ups (codes : List Nat) : presses (codes.map (Event.key · true)) = [] :=
  List.filter_eq_nil_iff.mpr fun event hevent => by
    obtain ⟨code, -, rfl⟩ := List.mem_map.mp hevent
    exact Bool.false_ne_true

/-- What is pressed are the keys of the request, or nothing. -/
theorem presses_sendHeldKeys : presses (sendHeldKeysExactForeground keys answers).1 = [] ∨
    ∃ codes : List Nat, keys.map virtualKey = codes.map some ∧
      presses (sendHeldKeysExactForeground keys answers).1 = codes.map (Event.key · false) := by
  unfold sendHeldKeysExactForeground
  cases answers.foreground with
  | false => exact Or.inl rfl
  | true =>
    cases hcodes : heldVirtualKeys keys with
    | error e => exact Or.inl rfl
    | ok codes =>
      refine Or.inr ⟨codes, heldVirtualKeys_eq_ok hcodes, ?_⟩
      have happend : ∀ ups : List Nat, presses (codes.map (Event.key · false) ++ ups.map (Event.key · true)) =
          codes.map (Event.key · false) := by
        intro ups
        rw [presses_append, presses_downs, presses_ups, List.append_nil]
      cases answers.accepted <;> exact happend _

theorem nodup_presses (hnodup : (keys.map virtualKey).Nodup) : (presses (sendHeldKeysExactForeground keys answers).1).Nodup := by
  have hsent : presses (sendHeldKeysExactForeground keys answers).1 = [] ∨ _ := presses_sendHeldKeys
  rcases hsent with hnone | ⟨codes, hcodes, hpresses⟩
  · rw [hnone]
    exact List.nodup_nil
  · rw [hcodes] at hnodup
    rw [hpresses]
    exact hnodup.of_map.map fun a b h => by
      cases h
      rfl

/-! ### What the policy accepts -/

/-- No key is repeated when no two of them are equal up to case. -/
theorem repeatsKey_eq_false {action : ActionPolicy.ComputerUseAction} :
    action.repeatsKey = false ↔ action.keys.Pairwise fun a b => Text.toAsciiLowercase a ≠ Text.toAsciiLowercase b := by
  unfold ActionPolicy.ComputerUseAction.repeatsKey
  rw [List.pairwise_iff_getElem, ← Bool.not_eq_true, List.any_eq_true]
  refine ⟨fun hnone i j hi hj hij heq => hnone ⟨(action.keys[j], j), ?_, ?_⟩, ?_⟩
  · exact List.mem_zipIdx_iff_getElem?.mpr (List.getElem?_eq_getElem hj)
  · refine List.any_eq_true.mpr ⟨action.keys[i], List.mem_take_iff_getElem.mpr ⟨i, ?_, rfl⟩, decide_eq_true heq⟩
    exact Nat.lt_min.mpr ⟨hij, hi⟩
  · rintro hapart ⟨⟨key, j⟩, hkey, hany⟩
    obtain ⟨previous, hprevious, hequal⟩ := List.any_eq_true.mp hany
    obtain ⟨i, hi, rfl⟩ := List.mem_take_iff_getElem.mp hprevious
    obtain ⟨hj, hkey⟩ := List.getElem?_eq_some_iff.mp (List.mem_zipIdx_iff_getElem?.mp hkey)
    obtain ⟨hij, hi⟩ := Nat.lt_min.mp hi
    refine hapart i j hi hj hij ?_
    rw [hkey]
    exact of_decide_eq_true hequal

/-- The keys of a held keypress that is accepted can be held, and are spelled apart. -/
theorem validateAction_heldKeypress {action : ActionPolicy.ComputerUseAction} (haccepted : action.validateAction = .ok ())
    (hkeypress : action.action = "keypress") (hheld : action.durationMs.isSome) :
    (∀ key ∈ action.keys, keyName key ∈ heldKeyNames) ∧
      action.keys.Pairwise fun a b => Text.toAsciiLowercase a ≠ Text.toAsciiLowercase b := by
  obtain ⟨durationMs, hduration⟩ := Option.isSome_iff_exists.mp hheld
  unfold ActionPolicy.ComputerUseAction.validateAction at haccepted
  simp only [bind_eq_ok, elim_eq_ok] at haccepted
  obtain ⟨-, -, -, hchecked, -⟩ := haccepted
  have hdurations := hchecked durationMs hduration
  unfold ActionPolicy.ComputerUseAction.validateDuration at hdurations
  simp only [bind_eq_ok, require_eq_ok, hkeypress, beq_self_eq_true, Bool.true_and, Bool.not_eq_true',
    Bool.or_eq_false_iff] at hdurations
  obtain ⟨-, -, -, -, -, -, ⟨-, hnames⟩, hrepeats⟩ := hdurations
  refine ⟨fun key hkey => ?_, repeatsKey_eq_false.mp hrepeats⟩
  have hname := List.any_eq_false.mp hnames key hkey
  rw [Bool.not_eq_true', Bool.not_eq_false] at hname
  exact List.contains_iff_mem.mp hname

/-- A held keypress that is accepted presses each key once exactly when no two of its keys are spellings of one name that
    differ in the whitespace around it. -/
theorem held_keys_once_iff {action : ActionPolicy.ComputerUseAction} (haccepted : action.validateAction = .ok ())
    (hkeypress : action.action = "keypress") (hheld : action.durationMs.isSome) :
    PressesEachOnce action.keys ↔ action.keys.Pairwise fun a b => ¬PaddedApart a b := by
  obtain ⟨hheldNames, hspelled⟩ := validateAction_heldKeypress haccepted hkeypress hheld
  constructor
  · intro honce
    exact (List.pairwise_map.mp honce.names).imp fun hne hpadded => hne hpadded.1
  · intro happart
    have hnames : action.keys.Pairwise fun a b => keyName a ≠ keyName b :=
      happart.imp₂ (fun _ _ hpadded hcase hname => hpadded ⟨hname, hcase⟩) hspelled
    refine ⟨List.pairwise_map.mpr hnames, fun answers => nodup_presses (List.pairwise_map.mpr ?_)⟩
    refine hnames.imp_of_mem fun ha hb hne hkeys => hne ?_
    exact keyName_of_virtualKey (hheldNames _ ha) (hheldNames _ hb) hkeys

/-- A keypress of one second. -/
def heldKeypress (keys : List String) : ActionPolicy.ComputerUseAction :=
  ⟨"keypress", none, none, none, some "foreground", none, none, none, none, none, none, none, [], none, none, some 1000, none,
    false, keys, []⟩

theorem held_keys_once_iff_diagonal : PressesEachOnce (heldKeypress ["w", "d"]).keys :=
  (held_keys_once_iff (by decide) rfl rfl).mpr (by unfold PaddedApart; decide)

/-- The key of two names that differ in a blank is pressed twice. -/
theorem held_key_pressed_twice : ∃ action : ActionPolicy.ComputerUseAction, action.validateAction = .ok () ∧ action.action = "keypress" ∧
    action.durationMs.isSome ∧ ¬(action.keys.map keyName).Nodup ∧
      ∃ answers, ¬(presses (sendHeldKeysExactForeground action.keys answers).1).Nodup :=
  ⟨heldKeypress ["w", " w"], by decide, rfl, rfl, by decide, ⟨true, true, 2, false, true⟩, by decide⟩

end DccCua
