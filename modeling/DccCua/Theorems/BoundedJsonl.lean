import DccCua.Protocol.BoundedJsonl

/-! # What the bounded readers give

A call takes the next line of what is left of the stream, however that comes in chunks, and leaves what comes after
the line. -/

namespace DccCua
namespace BoundedJsonl

open Lines

/-- What a line gives, its newline included. -/
def lineResult (maximum : Nat) (line : Bytes) : Except InvalidData (Option String) :=
  if line.length ≤ maximum then fromUtf8 line else .error (tooLong maximum)

/-! ### Chunks -/

@[simp] theorem unread_nil : unread [] = [] := rfl

@[simp] theorem unread_cons (chunk : Chunk) (reader : List Chunk) :
    unread (chunk :: reader) = chunk.bytes ++ unread reader := rfl

theorem unread_consume (amount : Nat) (chunk : Chunk) (reader : List Chunk) :
    unread (consume amount (chunk :: reader)) = chunk.bytes.drop amount ++ unread reader := by
  by_cases hleft : chunk.bytes.drop amount ≠ []
  · rw [consume, dif_pos hleft]
    rfl
  · rw [consume, dif_neg hleft, not_ne_iff.mp hleft, List.nil_append]

theorem not_mem_of_position {bytes : Bytes} (h : position bytes = none) : newline ∉ bytes := by
  intro hmem
  have hnone := List.findIdx?_eq_none_iff.mp h newline hmem
  simp at hnone

/-- A newline that is found stands after bytes that are none. -/
theorem split_of_position {bytes : Bytes} {index : Nat} (h : position bytes = some index) :
    ∃ before after, bytes = before ++ newline :: after ∧ newline ∉ before ∧ before.length = index := by
  obtain ⟨hlt, hat, hbefore⟩ := List.findIdx?_eq_some_iff_getElem.mp h
  refine ⟨bytes.take index, bytes.drop (index + 1), ?_, ?_, ?_⟩
  · have hbyte : bytes[index] = newline := by simpa using hat
    rw [← hbyte, ← List.drop_eq_getElem_cons hlt, List.take_append_drop]
  · intro hmem
    obtain ⟨i, hi, hvalue⟩ := List.mem_take_iff_getElem.mp hmem
    have hne := hbefore i (by omega)
    simp [hvalue] at hne
  · rw [List.length_take]
    omega

/-! ### Lines -/

/-- Discarding leaves what comes after the line that has begun. -/
theorem unread_discard : ∀ (reader : List Chunk) {begun : Bytes}, newline ∉ begun → begun ≠ [] →
    ∃ more lines, split newline (begun ++ unread reader) = (begun ++ more) :: lines ∧
      unread (discardUntilNewline reader) = lines.flatten
  | [], begun, hbegun, hne => by
    refine ⟨[], [], ?_, rfl⟩
    rw [unread_nil, List.append_nil, split_unterminated hbegun hne]
  | chunk :: reader, begun, hbegun, hne => by
    unfold discardUntilNewline
    cases hposition : position chunk.bytes with
    | some index =>
      obtain ⟨before, after, hbytes, hbefore, rfl⟩ := split_of_position hposition
      have hfound : before.length + 1 < chunk.bytes.length ∨ chunk.bytes.getLast? = some newline := by
        cases after with
        | nil => exact Or.inr (by rw [hbytes, List.getLast?_concat])
        | cons a after => exact Or.inl (by simp [hbytes])
      dsimp only [Option.elim]
      rw [if_pos hfound, unread_consume]
      refine ⟨before ++ [newline], split newline (after ++ unread reader), ?_, ?_⟩
      · have hopen : newline ∉ begun ++ before := by simp [hbegun, hbefore]
        have hsplit := split_terminated hopen (after ++ unread reader)
        rw [unread_cons, hbytes]
        simpa using hsplit
      · rw [flatten_split, hbytes]
        simp
    | none =>
      have hopen : newline ∉ chunk.bytes := not_mem_of_position hposition
      have hgoes : ¬(chunk.bytes.length < chunk.bytes.length ∨ chunk.bytes.getLast? = some newline) := by
        rintro (hlt | hlast)
        · exact Nat.lt_irrefl _ hlt
        · exact hopen (List.mem_of_getLast? hlast)
      dsimp only [Option.elim]
      rw [if_neg hgoes]
      obtain ⟨more, lines, hsplit, hrest⟩ := @unread_discard reader (begun ++ chunk.bytes)
        (by simp [hbegun, hopen]) (by simp [hne])
      refine ⟨chunk.bytes ++ more, lines, ?_, hrest⟩
      rw [unread_cons, ← List.append_assoc, hsplit, List.append_assoc]

/-- What a call does that has taken `line` so far, from what is left of the line and of the stream. -/
theorem nextLineFrom_eq (maximum : Nat) : ∀ (reader : List Chunk) {line : Bytes}, newline ∉ line → line.length ≤ maximum →
    match split newline (line ++ unread reader) with
    | [] => nextLineFrom maximum line reader = (.ok none, [])
    | first :: lines => (nextLineFrom maximum line reader).1 = lineResult maximum first ∧
        unread (nextLineFrom maximum line reader).2 = lines.flatten
  | [], line, hline, hfits => by
    rw [unread_nil, List.append_nil]
    unfold nextLineFrom
    by_cases hempty : line = []
    · subst hempty
      rfl
    · rw [split_unterminated hline hempty, if_neg hempty]
      exact ⟨(if_pos hfits).symm, rfl⟩
  | chunk :: reader, line, hline, hfits => by
    unfold nextLineFrom
    rw [unread_cons]
    cases hposition : position chunk.bytes with
    | some index =>
      obtain ⟨before, after, hbytes, hbefore, rfl⟩ := split_of_position hposition
      have hopen : newline ∉ line ++ before := by simp [hline, hbefore]
      have hsplit : split newline (line ++ (chunk.bytes ++ unread reader)) =
          (line ++ before ++ [newline]) :: split newline (after ++ unread reader) := by
        rw [hbytes, ← split_terminated hopen]
        simp
      have hunread : unread (consume (before.length + 1) (chunk :: reader)) = (split newline (after ++ unread reader)).flatten := by
        rw [unread_consume, flatten_split, hbytes]
        simp
      have htake : line ++ chunk.bytes.take (before.length + 1) = line ++ before ++ [newline] := by
        rw [hbytes, List.append_cons, List.take_left' (by simp), List.append_assoc]
      have hlength : (line ++ before ++ [newline]).length = line.length + (before.length + 1) := by simp
      rw [hsplit]
      dsimp only
      by_cases hlong : maximum < line.length + (before.length + 1)
      · rw [if_pos hlong]
        refine ⟨?_, hunread⟩
        rw [lineResult, if_neg (by omega)]
      · rw [if_neg hlong, htake]
        refine ⟨?_, hunread⟩
        rw [lineResult, if_pos (by omega)]
    | none =>
      have hopen : newline ∉ line ++ chunk.bytes := by simp [hline, not_mem_of_position hposition]
      rw [← List.append_assoc]
      dsimp only
      by_cases hlong : maximum < line.length + chunk.bytes.length
      · obtain ⟨more, lines, hsplit, hrest⟩ := unread_discard reader hopen (by simp [chunk.nonempty])
        rw [if_pos hlong, hsplit]
        refine ⟨?_, hrest⟩
        have hlength : maximum < (line ++ chunk.bytes ++ more).length := by
          simp only [List.length_append]
          omega
        rw [lineResult, if_neg (by omega)]
      · rw [if_neg hlong]
        exact nextLineFrom_eq maximum reader hopen (by rw [List.length_append]; omega)

/-! ### Calls -/

/-- What calls give: the results of the lines, and then the end for ever. -/
def resultsOf (stream : Bytes) (n : Nat) : List (Except InvalidData (Option String)) :=
  ((split newline stream).map (lineResult maxJsonFrameBytes) ++ List.replicate n (Except.ok none)).take n

theorem nextLine_eq (reader : List Chunk) :
    match split newline (unread reader) with
    | [] => nextLine reader = (.ok none, [])
    | first :: lines => (nextLine reader).1 = lineResult maxJsonFrameBytes first ∧ unread (nextLine reader).2 = lines.flatten :=
  @nextLineFrom_eq maxJsonFrameBytes reader [] (by simp) (Nat.zero_le _)

theorem split_flatten_tail {stream first : Bytes} {lines : List Bytes} (h : split newline stream = first :: lines) :
    split newline lines.flatten = lines := (upTo_eq_split h (Nat.le_refl _)).2.1

theorem calls_eq (n : Nat) : ∀ reader : List Chunk, (calls nextLine n reader).1 = resultsOf (unread reader) n ∧
    unread (calls nextLine n reader).2 = ((split newline (unread reader)).drop n).flatten := by
  induction n with
  | zero => exact fun reader => ⟨rfl, (flatten_split newline _).symm⟩
  | succ n ih =>
    intro reader
    have hnext := nextLine_eq reader
    obtain ⟨hresults, hunread⟩ := ih (nextLine reader).2
    unfold calls
    dsimp only
    rw [hresults, hunread]
    unfold resultsOf
    cases hsplit : split newline (unread reader) with
    | nil =>
      rw [hsplit] at hnext
      rw [show nextLine reader = _ from hnext]
      refine ⟨?_, by simp [split]⟩
      simp [split, List.replicate_succ]
    | cons first lines =>
      rw [hsplit] at hnext
      rw [hnext.1, hnext.2, split_flatten_tail hsplit]
      refine ⟨?_, rfl⟩
      have hlength : n ≤ (lines.map (lineResult maxJsonFrameBytes) ++ List.replicate n (Except.ok none)).length := by
        rw [List.length_append, List.length_replicate]
        exact Nat.le_add_left _ _
      rw [List.map_cons, List.cons_append, List.take_succ_cons, List.replicate_succ', ← List.append_assoc,
        List.take_append_of_le_length hlength]

/-- Both readers give the same results on every splitting of a stream: for each line its text, if it is short enough
    and valid, or else one error; then the end. After each result they stand behind its line. -/
theorem bounded_lines (reader : List Chunk) (n : Nat) :
    (calls nextLine n reader).1 = resultsOf (unread reader) n ∧
    (calls nextLineAsync n reader).1 = resultsOf (unread reader) n ∧
    unread (calls nextLine n reader).2 = ((split newline (unread reader)).drop n).flatten ∧
    unread (calls nextLineAsync n reader).2 = ((split newline (unread reader)).drop n).flatten :=
  ⟨(calls_eq n reader).1, (calls_eq n reader).1, (calls_eq n reader).2, (calls_eq n reader).2⟩

end BoundedJsonl
end DccCua
