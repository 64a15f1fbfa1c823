import Mathlib.Data.List.Basic
import Mathlib.Algebra.Group.Int.Defs
import Mathlib.Algebra.Group.Nat.Defs

/-! # JSON values

Values as they travel between programs. An object is the list of its fields with distinct names; a number
written without fraction and exponent is an `int`, any other a `real`. Reading a field that is absent, or a
field of a value that is no object, gives `null`. -/

inductive Json where
  | null
  | bool (value : Bool)
  | int (value : Int)
  | real (value : Rat)
  | str (value : String)
  | arr (items : List Json)
  | obj (fields : List (String × Json))
  deriving Repr, Inhabited

namespace Json

/-- The fields of a list under a name. -/
def lookup (name : String) : List (String × Json) → Option Json
  | [] => none
  | (key, value) :: fields => if key = name then some value else lookup name fields

def field? (name : String) : Json → Option Json
  | .obj fields => lookup name fields
  | _ => none

def get (value : Json) (name : String) : Json := (value.field? name).getD .null

/-- The fields with `name` set: in its place if it is there, else at the end. -/
def insert (name : String) (value : Json) : List (String × Json) → List (String × Json)
  | [] => [(name, value)]
  | (key, old) :: fields => if key = name then (key, value) :: fields else (key, old) :: insert name value fields

/-- The fields with every field of a list set, in its order. -/
def insertAll : List (String × Json) → List (String × Json) → List (String × Json)
  | [], fields => fields
  | (name, value) :: rest, fields => insertAll rest (insert name value fields)

/-- The fields without `name`. -/
def remove (name : String) (fields : List (String × Json)) : List (String × Json) := fields.filter (·.1 ≠ name)

/-- The value with the field set; a value that is no object is left alone, apart from `null`. -/
def set (value : Json) (name : String) (field : Json) : Json :=
  match value with
  | .obj fields => .obj (insert name field fields)
  | .null => .obj [(name, field)]
  | other => other

def asStr : Json → Option String
  | .str value => some value
  | _ => none

def asBool : Json → Option Bool
  | .bool value => some value
  | _ => none

def asArray : Json → Option (List Json)
  | .arr items => some items
  | _ => none

def asObject : Json → Option (List (String × Json))
  | .obj fields => some fields
  | _ => none

/-- The unsigned 64-bit integer that the value is. -/
def asU64 : Json → Option Nat
  | .int value => if 0 ≤ value ∧ value < 2 ^ 64 then some value.toNat else none
  | _ => none

mutual

/-- Equality of values: the fields of an object stand in any order. -/
def same : Json → Json → Bool
  | .null, .null => true
  | .bool a, .bool b => a = b
  | .int a, .int b => a = b
  | .real a, .real b => a = b
  | .str a, .str b => a = b
  | .arr a, .arr b => sameItems a b
  | .obj a, .obj b => a.length = b.length && sameFields a b
  | _, _ => false

def sameItems : List Json → List Json → Bool
  | [], [] => true
  | a :: as, b :: bs => same a b && sameItems as bs
  | _, _ => false

def sameFields : List (String × Json) → List (String × Json) → Bool
  | [], _ => true
  | field :: fields, others => sameField field others && sameFields fields others

def sameField : String × Json → List (String × Json) → Bool
  | (name, value), others => (lookup name others).any (same value)

end

def keys (fields : List (String × Json)) : List String := fields.map Prod.fst

theorem lookup_insert_self (name : String) (value : Json) :
    ∀ fields : List (String × Json), lookup name (insert name value fields) = some value
  | [] => by simp [insert, lookup]
  | (key, old) :: fields => by
    unfold insert
    split
    · rename_i heq
      simp [lookup, heq]
    · rename_i hne
      simp [lookup, hne, lookup_insert_self name value fields]

theorem lookup_insert_ne {name other : String} (value : Json) (hne : other ≠ name) :
    ∀ fields : List (String × Json), lookup other (insert name value fields) = lookup other fields
  | [] => by simp [insert, lookup, Ne.symm hne]
  | (key, old) :: fields => by
    unfold insert
    split
    · rename_i heq
      simp [lookup, heq, Ne.symm hne]
    · simp [lookup, lookup_insert_ne value hne fields]

theorem field?_set_self (name : String) (field : Json) (fields : List (String × Json)) :
    ((Json.obj fields).set name field).field? name = some field := lookup_insert_self name field fields

theorem get_set_self (name : String) (field : Json) (fields : List (String × Json)) :
    ((Json.obj fields).set name field).get name = field := by
  rw [get, field?_set_self]
  rfl

theorem field?_set_ne {name other : String} (field value : Json) (hne : other ≠ name) :
    (value.set name field).field? other = value.field? other := by
  cases value with
  | obj fields => exact lookup_insert_ne field hne fields
  | null => simp [set, field?, lookup, Ne.symm hne]
  | bool _ => rfl
  | int _ => rfl
  | real _ => rfl
  | str _ => rfl
  | arr _ => rfl

theorem get_set_ne {name other : String} (field value : Json) (hne : other ≠ name) :
    (value.set name field).get other = value.get other := by
  rw [get, get, field?_set_ne field value hne]

theorem mem_keys_of_lookup {name : String} {value : Json} :
    ∀ {fields : List (String × Json)}, lookup name fields = some value → name ∈ keys fields
  | (key, old) :: fields, h => by
    unfold lookup at h
    split at h
    · rename_i heq
      simp [keys, heq]
    · have := mem_keys_of_lookup h
      simp only [keys, List.map_cons, List.mem_cons] at this ⊢
      exact Or.inr this

/-- A field with a text is among the fields. -/
theorem mem_keys_of_get {name text : String} {fields : List (String × Json)} (h : (Json.obj fields).get name = .str text) :
    name ∈ keys fields := by
  cases hlookup : lookup name fields with
  | none =>
    rw [get, field?, hlookup] at h
    cases h
  | some value => exact mem_keys_of_lookup hlookup

theorem keys_insert (key name : String) (value : Json) :
    ∀ fields : List (String × Json), key ∈ keys (insert name value fields) ↔ key = name ∨ key ∈ keys fields
  | [] => by simp [insert, keys]
  | (other, old) :: fields => by
    have ih := keys_insert key name value fields
    unfold insert
    split
    · rename_i heq
      subst heq
      simp [keys]
    · simp only [keys, List.map_cons, List.mem_cons] at ih ⊢
      rw [ih]
      tauto

theorem keys_insertAll {key : String} : ∀ (added fields : List (String × Json)),
    key ∈ keys (insertAll added fields) ↔ key ∈ keys added ∨ key ∈ keys fields
  | [], fields => by simp [insertAll, keys]
  | (name, value) :: rest, fields => by
    rw [insertAll, keys_insertAll rest, keys_insert]
    simp only [keys, List.map_cons, List.mem_cons]
    tauto

theorem lookup_insertAll_ne {name : String} : ∀ (added fields : List (String × Json)), name ∉ keys added →
    lookup name (insertAll added fields) = lookup name fields
  | [], _, _ => rfl
  | (key, value) :: rest, fields, h => by
    simp only [keys, List.map_cons, List.mem_cons, not_or] at h
    rw [insertAll, lookup_insertAll_ne rest _ h.2, lookup_insert_ne value h.1]

/-- The added fields have distinct names, so each is found with its value. -/
theorem lookup_insertAll {name : String} {value : Json} : ∀ (added fields : List (String × Json)),
    (keys added).Nodup → (name, value) ∈ added → lookup name (insertAll added fields) = some value
  | (key, first) :: rest, fields, hnodup, hmem => by
    simp only [keys, List.map_cons, List.nodup_cons] at hnodup
    rcases List.mem_cons.mp hmem with heq | hrest
    · cases heq
      rw [insertAll, lookup_insertAll_ne rest _ hnodup.1, lookup_insert_self]
    · exact lookup_insertAll rest _ hnodup.2 hrest

theorem lookup_eq_none {name : String} : ∀ {fields : List (String × Json)}, name ∉ keys fields → lookup name fields = none
  | [], _ => rfl
  | (key, value) :: fields, h => by
    simp only [keys, List.map_cons, List.mem_cons, not_or] at h
    rw [lookup, if_neg (Ne.symm h.1), lookup_eq_none h.2]

/-- A name that the fields do not have is found as in the list that is added. -/
theorem lookup_insertAll_new {name : String} : ∀ (added fields : List (String × Json)), (keys added).Nodup →
    name ∉ keys fields → lookup name (insertAll added fields) = lookup name added
  | [], _, _, hnew => lookup_eq_none hnew
  | (key, value) :: rest, fields, hnodup, hnew => by
    simp only [keys, List.map_cons, List.nodup_cons] at hnodup
    rw [insertAll, lookup]
    by_cases heq : key = name
    · rw [if_pos heq, lookup_insertAll_ne rest _ (heq ▸ hnodup.1), heq, lookup_insert_self]
    · have hnew' : name ∉ keys (insert key value fields) := by
        rw [keys_insert, not_or]
        exact ⟨Ne.symm heq, hnew⟩
      rw [if_neg heq, lookup_insertAll_new rest _ hnodup.2 hnew']

theorem lookup_remove_ne {name other : String} (hne : other ≠ name) :
    ∀ fields : List (String × Json), lookup other (remove name fields) = lookup other fields
  | [] => rfl
  | (key, value) :: fields => by
    have ih := lookup_remove_ne hne fields
    by_cases hkey : key = name
    · have hother : key ≠ other := fun h => hne (h.symm.trans hkey)
      simpa [remove, hkey, lookup, hother, Ne.symm hne] using ih
    · have hkept : remove name ((key, value) :: fields) = (key, value) :: remove name fields := by simp [remove, hkey]
      rw [hkept, lookup, lookup, ih]

theorem keys_remove {name key : String} (fields : List (String × Json)) :
    key ∈ keys (remove name fields) ↔ key ∈ keys fields ∧ key ≠ name := by
  simp only [keys, remove, List.mem_map, List.mem_filter, decide_eq_true_eq]
  constructor
  · rintro ⟨field, ⟨hmem, hne⟩, rfl⟩
    exact ⟨⟨field, hmem, rfl⟩, hne⟩
  · rintro ⟨⟨field, hmem, rfl⟩, hne⟩
    exact ⟨field, ⟨hmem, hne⟩, rfl⟩

theorem asU64_natCast {n : Nat} (h : n < 2 ^ 64) : (Json.int n).asU64 = some n := by
  simp only [asU64]
  rw [if_pos ⟨by omega, by omega⟩]
  simp

/-! ### Equality -/

theorem lookup_of_sameFields {name : String} {value : Json} : ∀ {fields others : List (String × Json)},
    sameFields fields others = true → lookup name fields = some value →
      ∃ other, lookup name others = some other ∧ same value other = true
  | (key, old) :: fields, others, h, hlookup => by
    simp only [sameFields, sameField, Bool.and_eq_true, Option.any_eq_true] at h
    obtain ⟨hfield, hrest⟩ := h
    unfold lookup at hlookup
    split at hlookup
    · rename_i hkey
      cases hlookup
      rw [← hkey]
      exact hfield
    · exact lookup_of_sameFields hrest hlookup

mutual

theorem same_trans : ∀ {a b c : Json}, same a b = true → same b c = true → same a c = true
  | .null, b, c, hab, hbc => by
    cases b <;> simp only [same, reduceCtorEq] at hab
    exact hbc
  | .bool a, b, c, hab, hbc => by
    cases b <;> simp only [same, reduceCtorEq, decide_eq_true_eq] at hab
    rw [hab]
    exact hbc
  | .int a, b, c, hab, hbc => by
    cases b <;> simp only [same, reduceCtorEq, decide_eq_true_eq] at hab
    rw [hab]
    exact hbc
  | .real a, b, c, hab, hbc => by
    cases b <;> simp only [same, reduceCtorEq, decide_eq_true_eq] at hab
    rw [hab]
    exact hbc
  | .str a, b, c, hab, hbc => by
    cases b <;> simp only [same, reduceCtorEq, decide_eq_true_eq] at hab
    rw [hab]
    exact hbc
  | .arr as, b, c, hab, hbc => by
    cases b <;> simp only [same, reduceCtorEq] at hab
    cases c <;> simp only [same, reduceCtorEq] at hbc
    simp only [same]
    exact sameItems_trans hab hbc
  | .obj as, b, c, hab, hbc => by
    cases b <;> simp only [same, reduceCtorEq, Bool.and_eq_true, decide_eq_true_eq] at hab
    cases c <;> simp only [same, reduceCtorEq, Bool.and_eq_true, decide_eq_true_eq] at hbc
    simp only [same, Bool.and_eq_true, decide_eq_true_eq]
    exact ⟨hab.1.trans hbc.1, sameFields_trans hab.2 hbc.2⟩

theorem sameItems_trans : ∀ {as bs cs : List Json}, sameItems as bs = true → sameItems bs cs = true → sameItems as cs = true
  | [], bs, cs, hab, hbc => by
    cases bs <;> simp only [sameItems, reduceCtorEq] at hab
    exact hbc
  | a :: as, bs, cs, hab, hbc => by
    cases bs <;> simp only [sameItems, reduceCtorEq, Bool.and_eq_true] at hab
    cases cs <;> simp only [sameItems, reduceCtorEq, Bool.and_eq_true] at hbc
    simp only [sameItems, Bool.and_eq_true]
    exact ⟨same_trans hab.1 hbc.1, sameItems_trans hab.2 hbc.2⟩

theorem sameFields_trans : ∀ {as bs cs : List (String × Json)}, sameFields as bs = true → sameFields bs cs = true →
    sameFields as cs = true
  | [], _, _, _, _ => by simp only [sameFields]
  | field :: as, bs, cs, hab, hbc => by
    simp only [sameFields, Bool.and_eq_true] at hab ⊢
    exact ⟨sameField_trans hab.1 hbc, sameFields_trans hab.2 hbc⟩

theorem sameField_trans : ∀ {a : String × Json} {bs cs : List (String × Json)}, sameField a bs = true →
    sameFields bs cs = true → sameField a cs = true
  | (name, value), bs, cs, hab, hbc => by
    simp only [sameField, Option.any_eq_true] at hab ⊢
    obtain ⟨old, hold, hsame⟩ := hab
    obtain ⟨new, hnew, hsame'⟩ := lookup_of_sameFields hbc hold
    exact ⟨new, hnew, same_trans hsame hsame'⟩

end

end Json
