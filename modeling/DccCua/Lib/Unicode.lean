import Mathlib.Algebra.GroupWithZero.Nat
import Mathlib.Data.List.Basic

/-! # Lengths of a text and units of UTF-16

A text is a list of scalar values. Its length is counted in scalar values, in bytes of UTF-8 or in units of
UTF-16, and the three differ outside ASCII. A unit of UTF-16 is a scalar value or one half of a surrogate pair. -/

namespace Unicode

/-- The bytes of the UTF-8 encoding of a scalar value. -/
def utf8Size (c : Char) : Nat :=
  if c.toNat < 0x80 then 1 else if c.toNat < 0x800 then 2 else if c.toNat < 0x10000 then 3 else 4

/-- The units of the UTF-16 encoding of a scalar value. -/
def utf16Size (c : Char) : Nat := if c.toNat < 0x10000 then 1 else 2

def encodeUtf16 (c : Char) : List Nat :=
  if c.toNat < 0x10000 then [c.toNat]
  else [0xD800 + (c.toNat - 0x10000) / 0x400, 0xDC00 + (c.toNat - 0x10000) % 0x400]

def isHighSurrogate (unit : Nat) : Bool := 0xD800 ≤ unit && unit < 0xDC00
def isLowSurrogate (unit : Nat) : Bool := 0xDC00 ≤ unit && unit < 0xE000

/-- The scalar value of a surrogate pair. -/
def joinSurrogates (high low : Nat) : Char := Char.ofNat (0x10000 + (high - 0xD800) * 0x400 + (low - 0xDC00))

def utf8Length (s : String) : Nat := (s.toList.map utf8Size).sum

def utf16Length (s : String) : Nat := (s.toList.map utf16Size).sum

theorem utf16Size_le_utf8Size (c : Char) : utf16Size c ≤ utf8Size c := by
  unfold utf16Size utf8Size
  split_ifs <;> omega

theorem utf16Length_le_utf8Length (s : String) : utf16Length s ≤ utf8Length s := by
  unfold utf16Length utf8Length
  induction s.toList with
  | nil => exact Nat.le_refl _
  | cons c cs ih =>
    rw [List.map_cons, List.map_cons, List.sum_cons, List.sum_cons]
    exact Nat.add_le_add (utf16Size_le_utf8Size c) ih

theorem utf16Length_append (s t : String) : utf16Length (s ++ t) = utf16Length s + utf16Length t := by
  simp [utf16Length, String.toList_append]

theorem utf8Length_append (s t : String) : utf8Length (s ++ t) = utf8Length s + utf8Length t := by
  simp [utf8Length, String.toList_append]

theorem length_encodeUtf16 (c : Char) : (encodeUtf16 c).length = utf16Size c := by
  unfold encodeUtf16 utf16Size
  split <;> rfl

/-- A scalar value below the supplementary planes is its own unit, and no surrogate. -/
theorem not_surrogate {c : Char} (h : c.toNat < 0x10000) : isHighSurrogate c.toNat = false ∧ isLowSurrogate c.toNat = false := by
  have hvalid : c.toNat < 0xD800 ∨ 0xDFFF < c.toNat ∧ c.toNat < 0x110000 := c.valid
  simp only [isHighSurrogate, isLowSurrogate, Bool.and_eq_false_iff, decide_eq_false_iff_not]
  omega

/-- Any other one is the value of the pair that encodes it. -/
theorem joinSurrogates_encode {c : Char} (h : ¬c.toNat < 0x10000) :
    isHighSurrogate (0xD800 + (c.toNat - 0x10000) / 0x400) = true ∧ isLowSurrogate (0xDC00 + (c.toNat - 0x10000) % 0x400) = true ∧
      joinSurrogates (0xD800 + (c.toNat - 0x10000) / 0x400) (0xDC00 + (c.toNat - 0x10000) % 0x400) = c := by
  have hvalid : c.toNat < 0xD800 ∨ 0xDFFF < c.toNat ∧ c.toNat < 0x110000 := c.valid
  simp only [isHighSurrogate, isLowSurrogate, Bool.and_eq_true, decide_eq_true_eq]
  refine ⟨by omega, by omega, ?_⟩
  unfold joinSurrogates
  rw [show 0x10000 + (0xD800 + (c.toNat - 0x10000) / 0x400 - 0xD800) * 0x400 + (0xDC00 + (c.toNat - 0x10000) % 0x400 - 0xDC00) =
    c.toNat by omega]
  exact Char.ofNat_toNat c

end Unicode
