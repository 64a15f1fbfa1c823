import DccCua.Protocol.Frame

/-! Frames survive the wire: what `write_frame` writes is read back, one frame after another, and a
    stream that is cut anywhere gives a part of the frames written and then its end or an error. -/

namespace DccCua
namespace Frame

/-! ### The length -/

@[simp] theorem length_toBeBytes (n : Nat) : (toBeBytes n).length = 4 := rfl

theorem fromBeBytes_toBeBytes {n : Nat} (h : n < 2 ^ 32) : fromBeBytes (toBeBytes n) = n := by
  simp only [fromBeBytes, toBeBytes, List.foldl_cons, List.foldl_nil, UInt8.toNat_ofNat']
  omega

/-! ### One frame -/

theorem readExact_append {n : Nat} {a b : Bytes} (h : a.length = n) : readExact n (a ++ b) = some (a, b) := by
  subst h
  simp [readExact]

theorem readExact_of_lt {n : Nat} {input : Bytes} (h : input.length < n) : readExact n input = none := by
  simp [readExact, Nat.not_le.mpr h]

/-- A body that `write_frame` accepts. -/
structure Writable (max : Nat) (body : Bytes) : Prop where
  pos : 0 < body.length
  le_max : body.length ≤ max
  fits : body.length < 2 ^ 32

/-- The bytes of a frame. -/
def encode (body : Bytes) : Bytes := toBeBytes body.length ++ body

@[simp] theorem length_encode (body : Bytes) : (encode body).length = body.length + 4 := by
  simp [encode, Nat.add_comm]

variable {max : Nat} {body rest input : Bytes}

theorem writeFrame_of_writable (h : Writable max body) : writeFrame max body = (.ok (), encode body) := by
  have hne : body ≠ [] := List.length_pos_iff.mp h.pos
  have := h.le_max
  have := h.fits
  unfold writeFrame
  rw [if_neg (by simp only [hne, false_or]; omega)]
  rfl

/-- The header of a frame that was written is the length of its body. -/
theorem readExact_header (body rest : Bytes) :
    readExact 4 (encode body ++ rest) = some (toBeBytes body.length, body ++ rest) := by
  rw [encode, List.append_assoc]
  exact readExact_append rfl

theorem Writable.header_ok (h : Writable max body) :
    ¬(fromBeBytes (toBeBytes body.length) = 0 ∨ max < fromBeBytes (toBeBytes body.length)) := by
  rw [fromBeBytes_toBeBytes h.fits]
  have := h.pos
  have := h.le_max
  omega

theorem readFrame_encode (h : Writable max body) (rest : Bytes) :
    readFrame max (encode body ++ rest) = (.ok (some body), rest) := by
  unfold readFrame
  rw [readExact_header]
  dsimp only
  rw [if_neg h.header_ok, fromBeBytes_toBeBytes h.fits, readExact_append rfl]

/-- A strict prefix of a frame holds less than its header, or its header and less than its body. -/
theorem prefix_cases (hp : input <+: encode body) (hlt : input.length < (encode body).length) :
    input.length < 4 ∨ ∃ part, input = toBeBytes body.length ++ part ∧ part.length < body.length := by
  by_cases h4 : input.length < 4
  · exact Or.inl h4
  · right
    have hhead : toBeBytes body.length <+: input :=
      List.prefix_of_prefix_length_le (List.prefix_append _ _) hp (by simpa using Nat.not_lt.mp h4)
    obtain ⟨part, rfl⟩ := hhead
    refine ⟨part, rfl, ?_⟩
    simp only [List.length_append, length_toBeBytes, length_encode] at hlt
    omega

/-- A frame that is cut is never read. -/
theorem readFrame_cut (h : Writable max body) (hp : input <+: encode body)
    (hlt : input.length < (encode body).length) :
    (readFrame max input).1 = .ok none ∨ (readFrame max input).1 = .error .unexpectedEof := by
  unfold readFrame
  rcases prefix_cases hp hlt with h4 | ⟨part, rfl, hpart⟩
  · left
    rw [readExact_of_lt h4]
  · right
    rw [readExact_append (length_toBeBytes _)]
    dsimp only
    rw [if_neg h.header_ok, fromBeBytes_toBeBytes h.fits, readExact_of_lt hpart]

/-! ### Streams of frames -/

theorem readFrames_nil : readFrames max [] = ([], .endOfStream) := by
  rw [readFrames]
  rfl

theorem readFrames_encode (h : Writable max body) (rest : Bytes) :
    readFrames max (encode body ++ rest) = (body :: (readFrames max rest).1, (readFrames max rest).2) := by
  rw [readFrames]
  split
  · rename_i hr
    rw [readFrame_encode h] at hr
    cases hr
  · rename_i hr
    rw [readFrame_encode h] at hr
    cases hr
  · rename_i hr
    rw [readFrame_encode h] at hr
    cases hr
    rfl

theorem readFrames_cut (h : Writable max body) (hp : input <+: encode body)
    (hlt : input.length < (encode body).length) : (readFrames max input).1 = [] := by
  rw [readFrames]
  split
  · rfl
  · rfl
  · rename_i hr
    have := readFrame_cut h hp hlt
    rw [hr] at this
    rcases this with this | this <;> cases this

/-- The bytes that `write_frame` writes for one body after another. -/
def writeFrames (max : Nat) (bodies : List Bytes) : Bytes := bodies.flatMap fun body => (writeFrame max body).2

theorem writeFrames_cons (h : Writable max body) (bodies : List Bytes) :
    writeFrames max (body :: bodies) = encode body ++ writeFrames max bodies := by
  simp [writeFrames, writeFrame_of_writable h]

theorem readFrames_writeFrames {bodies : List Bytes} (h : ∀ body ∈ bodies, Writable max body) :
    readFrames max (writeFrames max bodies) = (bodies, .endOfStream) := by
  induction bodies with
  | nil => exact readFrames_nil
  | cons body bodies ih =>
    rw [List.forall_mem_cons] at h
    rw [writeFrames_cons h.1, readFrames_encode h.1, ih h.2]

theorem readFrames_of_cut {bodies : List Bytes} (h : ∀ body ∈ bodies, Writable max body) {input : Bytes}
    (hp : input <+: writeFrames max bodies) : (readFrames max input).1 <+: bodies := by
  induction bodies generalizing input with
  | nil =>
    have hnil : input = [] := List.prefix_nil.mp hp
    have hread : (readFrames max input).1 = [] := by rw [hnil, readFrames_nil]
    exact hread ▸ List.nil_prefix
  | cons body bodies ih =>
    rw [List.forall_mem_cons] at h
    rw [writeFrames_cons h.1] at hp
    by_cases hlt : input.length < (encode body).length
    · have hcut : input <+: encode body :=
        List.prefix_of_prefix_length_le hp (List.prefix_append _ _) (Nat.le_of_lt hlt)
      rw [readFrames_cut h.1 hcut hlt]
      exact List.nil_prefix
    · have hwhole : encode body <+: input :=
        List.prefix_of_prefix_length_le (List.prefix_append _ _) hp (Nat.not_lt.mp hlt)
      obtain ⟨rest, rfl⟩ := hwhole
      rw [readFrames_encode h.1]
      exact List.cons_prefix_cons.mpr ⟨rfl, ih h.2 ((List.prefix_append_right_inj _).mp hp)⟩

theorem writeFrame_refuses (h : body = [] ∨ max < body.length ∨ 2 ^ 32 ≤ body.length) :
    writeFrame max body = (.error (.protocol "frame payload is outside the configured limit"), []) := by
  unfold writeFrame
  rw [if_pos]
  rcases h with h | h | h
  · exact Or.inl h
  · exact Or.inr (Or.inl h)
  · exact Or.inr (Or.inr (by omega))

/-- Frames of 1 to `max` bytes, each of a length that its four bytes can hold, are read back from what
    `write_frame` wrote for them; a stream that is cut gives a part of them; and a body that is empty or
    too long is refused before any byte is written. -/
theorem frames_roundtrip (max : Nat) (bodies : List Bytes)
    (h : ∀ body ∈ bodies, 1 ≤ body.length ∧ body.length ≤ max ∧ body.length < 2 ^ 32) :
    readFrames max (writeFrames max bodies) = (bodies, .endOfStream) ∧
    (∀ input, input <+: writeFrames max bodies → input ≠ writeFrames max bodies →
      (readFrames max input).1 <+: bodies ∧
        ((readFrames max input).2 = .endOfStream ∨ ∃ e, (readFrames max input).2 = .failed e)) ∧
    (∀ body ∈ bodies, (writeFrame max body).1 = .ok ()) ∧
    ∀ body, body = [] ∨ max < body.length ∨ 2 ^ 32 ≤ body.length →
      (∃ e, (writeFrame max body).1 = .error e) ∧ (writeFrame max body).2 = [] := by
  have hw : ∀ body ∈ bodies, Writable max body := fun body hb => ⟨(h body hb).1, (h body hb).2.1, (h body hb).2.2⟩
  refine ⟨readFrames_writeFrames hw, fun input hp _ => ⟨readFrames_of_cut hw hp, ?_⟩, fun body hb => ?_, ?_⟩
  · cases (readFrames max input).2 with
    | endOfStream => exact Or.inl rfl
    | failed e => exact Or.inr ⟨e, rfl⟩
  · rw [writeFrame_of_writable (hw body hb)]
  · intro body hbad
    rw [writeFrame_refuses hbad]
    exact ⟨⟨_, rfl⟩, rfl⟩

/-- Two frames of one and two bytes. -/
theorem frames_roundtrip_two : readFrames 16 (writeFrames 16 [[7], [8, 9]]) = ([[7], [8, 9]], .endOfStream) :=
  (frames_roundtrip 16 [[7], [8, 9]] (by decide)).1

/-- Under a limit that four bytes cannot hold, a body within the limit is refused: here one of 2 ^ 32 bytes
    under a limit of 2 ^ 32. -/
theorem frame_within_limit_refused : ∃ body : Bytes, 1 ≤ body.length ∧ body.length ≤ 2 ^ 32 ∧
    readFrames (2 ^ 32) (writeFrames (2 ^ 32) [body]) ≠ ([body], .endOfStream) := by
  have hlen : (List.replicate (2 ^ 32) (0 : UInt8)).length = 2 ^ 32 := List.length_replicate
  refine ⟨List.replicate (2 ^ 32) 0, by rw [hlen]; omega, Nat.le_of_eq hlen, ?_⟩
  have hwrite : writeFrames (2 ^ 32) [List.replicate (2 ^ 32) 0] = [] := by
    rw [writeFrames, List.flatMap_singleton, writeFrame_refuses (Or.inr (Or.inr (Nat.le_of_eq hlen.symm)))]
  rw [hwrite, readFrames_nil]
  intro heq
  cases heq

end Frame
end DccCua
