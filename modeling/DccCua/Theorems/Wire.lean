import DccCua.Host.Wire
import DccCua.Theorems.Frame

/-! A response is written whole or not at all, unless its JSON frame can be written and its attachment
    cannot: the attachment is checked only after the JSON frame has gone out. -/

namespace DccCua
namespace Wire

open DccCua.Frame

/-- Both frames are written and the result is success, or nothing is written and it is an error. -/
def Atomic (body : Bytes) (attachment : Option Bytes) (outcome : Except FrameError Unit × Bytes) : Prop :=
  (outcome.1 = .ok () ∧ outcome.2 = encode body ++ attachment.elim [] encode) ∨
  ((∃ e, outcome.1 = .error e) ∧ outcome.2 = [])

/-- A body that one frame of at most `max` bytes can carry. -/
def Fits (max : Nat) (body : Bytes) : Prop := 1 ≤ body.length ∧ body.length ≤ max

theorem writeFrame_fits {max : Nat} (hmax : max < 2 ^ 32) {body : Bytes} (h : Fits max body) :
    writeFrame max body = (.ok (), encode body) :=
  writeFrame_of_writable ⟨h.1, h.2, Nat.lt_of_le_of_lt h.2 hmax⟩

theorem writeFrame_not_fits {max : Nat} {body : Bytes} (h : ¬Fits max body) :
    ∃ e, writeFrame max body = (.error e, []) := by
  refine ⟨_, writeFrame_refuses ?_⟩
  by_cases hnil : body = []
  · exact Or.inl hnil
  · have hpos : 1 ≤ body.length := List.length_pos_iff.mpr hnil
    exact Or.inr (Or.inl (Nat.not_le.mp fun hle => h ⟨hpos, hle⟩))

theorem encode_ne_nil (body : Bytes) : encode body ≠ [] := by
  intro h
  have hlen := congrArg List.length h
  rw [length_encode] at hlen
  exact absurd hlen (Nat.succ_ne_zero _)

/-- A response is written whole or not at all exactly when its JSON is refused, or it has no attachment, or
    its attachment fits its frame. -/
theorem write_response_atomic_iff (body : Bytes) (attachment : Option Bytes) :
    Atomic body attachment (writeResponse body attachment) ↔
      ¬Fits maxJsonFrameBytes body ∨ ∀ bytes, attachment = some bytes → Fits maxBinaryFrameBytes bytes := by
  unfold writeResponse
  by_cases hbody : Fits maxJsonFrameBytes body
  · rw [writeFrame_fits (by decide) hbody]
    cases attachment with
    | none => simp [Atomic]
    | some bytes =>
      dsimp only
      by_cases hbytes : Fits maxBinaryFrameBytes bytes
      · rw [writeFrame_fits (by decide) hbytes]
        simp [Atomic, hbytes]
      · obtain ⟨e, he⟩ := writeFrame_not_fits hbytes
        rw [he]
        simp [Atomic, hbody, hbytes, encode_ne_nil]
  · obtain ⟨e, he⟩ := writeFrame_not_fits hbody
    rw [he]
    simp [Atomic, hbody]

/-- An empty attachment: the JSON frame is written, and the result is an error. -/
theorem empty_attachment_after_json :
    ¬Atomic [123, 125] (some []) (writeResponse [123, 125] (some [])) ∧
    (writeResponse [123, 125] (some [])).2 = encode [123, 125] := by
  constructor
  · rintro (⟨h, -⟩ | ⟨-, h⟩)
    · exact absurd h (by decide)
    · exact absurd h (by decide)
  · decide

end Wire
end DccCua
