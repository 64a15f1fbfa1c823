import Mathlib.Data.List.Basic

/-! # Text checks

The parts of `char` and `str` that the identity checks of the Host use, and the check itself. The
Host repeats that check under several names (`validate_identity`, `validate_identity_field`,
`validate_authorization_id`); each keeps its own bound and its own error. -/

namespace DccCua
namespace Text

/-- `char::is_control`: the general category Cc. -/
def isControl (c : Char) : Bool :=
  c.toNat < 0x20 || (0x7f ≤ c.toNat && c.toNat < 0xa0)

/-- `char::is_whitespace`: the Unicode property White_Space. -/
def isWhitespace (c : Char) : Bool :=
  let n := c.toNat
  (0x9 ≤ n && n ≤ 0xd) || n == 0x20 || n == 0x85 || n == 0xa0 || n == 0x1680 || (0x2000 ≤ n && n ≤ 0x200a) ||
    n == 0x2028 || n == 0x2029 || n == 0x202f || n == 0x205f || n == 0x3000

def trim (s : String) : String :=
  String.ofList ((s.toList.dropWhile isWhitespace).reverse.dropWhile isWhitespace).reverse

def toAsciiLowercase (s : String) : String :=
  String.ofList (s.toList.map fun c => if 'A' ≤ c ∧ c ≤ 'Z' then Char.ofNat (c.toNat + 32) else c)

def startsWith (s pattern : String) : Bool := pattern.toList.isPrefixOf s.toList

/-- `str::split` at any of the characters that satisfy `p`. -/
def split (p : Char → Bool) (s : String) : List String := (s.toList.splitOnP p).map String.ofList

/-- Between 1 and `maxChars` characters, none of them a control character and no whitespace around. -/
def printable (value : String) (maxChars : Nat) : Bool :=
  !(value == "" || value != trim value || maxChars < value.length || value.toList.any isControl)

/-- The message of a failed identity check on `field`. -/
def printableMessage (field : String) (maxChars : Nat) : String :=
  field ++ " must contain 1.." ++ toString maxChars ++
    " printable characters without surrounding whitespace"

/-! ### Plain text -/

/-- A character that `printable` lets through wherever it stands. -/
def plainChar (c : Char) : Bool := !isControl c && !isWhitespace c

theorem plainChar_eq_true {c : Char} : plainChar c = true ↔ isControl c = false ∧ isWhitespace c = false := by
  simp [plainChar]

theorem trim_of_plain {text : String} (h : ∀ c ∈ text.toList, isWhitespace c = false) : trim text = text := by
  have hkeep : ∀ {l : List Char}, (∀ c ∈ l, isWhitespace c = false) → l.dropWhile isWhitespace = l := by
    intro l hl
    cases l with
    | nil => rfl
    | cons c rest => rw [List.dropWhile_cons_of_neg (by simp [hl c])]
  rw [trim, hkeep h, hkeep fun c hc => h c (List.mem_reverse.mp hc), List.reverse_reverse, String.ofList_toList]

theorem printable_of_plain {value : String} {maxChars : Nat} (hplain : value.toList.all plainChar = true) (hnonempty : value ≠ "")
    (hlength : value.length ≤ maxChars) : printable value maxChars = true := by
  have hchars : ∀ c ∈ value.toList, isControl c = false ∧ isWhitespace c = false :=
    fun c hc => plainChar_eq_true.mp (List.all_eq_true.mp hplain c hc)
  rw [printable, trim_of_plain fun c hc => (hchars c hc).2]
  simp only [Bool.not_eq_true', Bool.or_eq_false_iff, beq_eq_false_iff_ne, bne_self_eq_false, List.any_eq_false, ne_eq,
    decide_eq_false_iff_not, Nat.not_lt]
  exact ⟨⟨⟨hnonempty, trivial⟩, hlength⟩, fun c hc hcontrol => by rw [(hchars c hc).1] at hcontrol; cases hcontrol⟩

end Text
end DccCua
