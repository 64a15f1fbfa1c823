import Mathlib.Data.List.Basic

/-! # Lines of a stream

A stream comes in chunks, and a reader takes it line by line, at most `limit` symbols at a time. What it takes does not
depend on the chunks. A line holds its separator; the last line of a stream may lack it. -/

namespace Lines

variable {α : Type} [DecidableEq α] (sep : α)

/-- Up to the first separator, it included, and at most `limit` symbols; with what is left. -/
def upTo : Nat → List α → List α × List α
  | 0, rest => ([], rest)
  | _, [] => ([], [])
  | limit + 1, a :: rest =>
    if a = sep then ([a], rest) else (a :: (upTo limit rest).1, (upTo limit rest).2)

/-- The last symbol is the separator. -/
def Terminated (line : List α) : Prop := line.getLast? = some sep

instance (line : List α) : Decidable (Terminated sep line) := inferInstanceAs (Decidable (_ = _))

/-- Take the next line from the buffer and the chunks that follow. Gives nothing where the stream stops before the line
    is whole, unless it has `ended`. -/
def readUntil (ended : Bool) : Nat → List α → List (List α) → Option (List α × List α × List (List α))
  | limit, buffer, [] =>
    let (line, rest) := upTo sep limit buffer
    if Terminated sep line ∨ line.length = limit ∨ ended = true then some (line, rest, []) else none
  | limit, buffer, chunk :: chunks =>
    let (line, rest) := upTo sep limit buffer
    if Terminated sep line ∨ line.length = limit then some (line, rest, chunk :: chunks)
    else match readUntil ended (limit - line.length) chunk chunks with
      | none => none
      | some (more, rest, chunks) => some (line ++ more, rest, chunks)

/-- All lines. -/
def split : List α → List (List α)
  | [] => []
  | a :: rest =>
    if a = sep then [a] :: split rest
    else match split rest with
      | [] => [[a]]
      | line :: lines => (a :: line) :: lines

variable {sep}

variable (sep) in
theorem upTo_append_self (limit : Nat) (stream : List α) : (upTo sep limit stream).1 ++ (upTo sep limit stream).2 = stream := by
  fun_induction upTo sep limit stream with
  | case1 => rfl
  | case2 => rfl
  | case3 => rfl
  | case4 limit a rest hne ih => simp [ih]

variable (sep) in
theorem length_upTo_le (limit : Nat) (stream : List α) : (upTo sep limit stream).1.length ≤ limit := by
  fun_induction upTo sep limit stream with
  | case1 => exact Nat.le_refl _
  | case2 => exact Nat.zero_le _
  | case3 => simp
  | case4 limit a rest hne ih => simpa using ih

theorem terminated_cons {a : α} {line : List α} (hne : a ≠ sep) : Terminated sep (a :: line) ↔ Terminated sep line := by
  cases line with
  | nil => simp [Terminated, hne]
  | cons b line => simp [Terminated, List.getLast?_cons]

/-- A line that is neither terminated nor at the limit has taken everything. -/
theorem upTo_rest {limit : Nat} {stream : List α} (hopen : ¬Terminated sep (upTo sep limit stream).1)
    (hshort : (upTo sep limit stream).1.length ≠ limit) : (upTo sep limit stream).2 = [] := by
  fun_induction upTo sep limit stream with
  | case1 => exact absurd rfl hshort
  | case2 => rfl
  | case3 limit rest => exact absurd rfl hopen
  | case4 limit a rest hne ih =>
    refine ih (fun h => hopen ((terminated_cons hne).mpr h)) fun h => hshort ?_
    simpa using h

/-- A line that is whole does not change when more comes. -/
theorem upTo_append_whole {limit : Nat} {stream : List α} (more : List α)
    (hwhole : Terminated sep (upTo sep limit stream).1 ∨ (upTo sep limit stream).1.length = limit) :
    upTo sep limit (stream ++ more) = ((upTo sep limit stream).1, (upTo sep limit stream).2 ++ more) := by
  fun_induction upTo sep limit stream with
  | case1 => simp [upTo]
  | case2 limit hlimit =>
    rcases hwhole with h | h
    · simp [Terminated] at h
    · exact absurd h.symm (by simpa using hlimit)
  | case3 limit rest => simp [upTo]
  | case4 limit a rest hne ih =>
    have hrest := ih (by
      rcases hwhole with h | h
      · exact Or.inl ((terminated_cons hne).mp h)
      · exact Or.inr (by simpa using h))
    rw [List.cons_append, upTo, if_neg hne, hrest]

/-- A line that is not whole goes on with what comes next. -/
theorem upTo_append_open {limit : Nat} {stream : List α} (more : List α) (hopen : ¬Terminated sep (upTo sep limit stream).1)
    (hshort : (upTo sep limit stream).1.length ≠ limit) :
    upTo sep limit (stream ++ more) = (stream ++ (upTo sep (limit - stream.length) more).1,
      (upTo sep (limit - stream.length) more).2) := by
  fun_induction upTo sep limit stream with
  | case1 => exact absurd rfl hshort
  | case2 => simp
  | case3 limit rest => exact absurd rfl hopen
  | case4 limit a rest hne ih =>
    have hrest := ih (fun h => hopen ((terminated_cons hne).mpr h)) fun h => hshort (by simpa using h)
    rw [List.cons_append, upTo, if_neg hne, hrest]
    simp

/-- What `readUntil` takes is the next line of the whole stream. -/
theorem readUntil_eq (sep : α) (ended : Bool) : ∀ (limit : Nat) (buffer : List α) (chunks : List (List α)),
    match readUntil sep ended limit buffer chunks with
    | some (line, rest, chunks') =>
      upTo sep limit (buffer ++ chunks.flatten) = (line, rest ++ chunks'.flatten) ∧
        (Terminated sep line ∨ line.length = limit ∨ ended = true)
    | none => ended = false ∧ (upTo sep limit (buffer ++ chunks.flatten)).2 = [] ∧
        ¬Terminated sep (upTo sep limit (buffer ++ chunks.flatten)).1 ∧
        (upTo sep limit (buffer ++ chunks.flatten)).1.length ≠ limit
  | limit, buffer, [] => by
    unfold readUntil
    dsimp only
    rw [List.flatten_nil, List.append_nil]
    by_cases hwhole : Terminated sep (upTo sep limit buffer).1 ∨ (upTo sep limit buffer).1.length = limit ∨ ended = true
    · rw [if_pos hwhole]
      exact ⟨by rw [List.flatten_nil, List.append_nil], hwhole⟩
    · rw [if_neg hwhole]
      rw [not_or, not_or] at hwhole
      obtain ⟨hopen, hshort, hended⟩ := hwhole
      exact ⟨by simpa using hended, upTo_rest hopen hshort, hopen, hshort⟩
  | limit, buffer, chunk :: chunks => by
    have ih := readUntil_eq sep ended (limit - (upTo sep limit buffer).1.length) chunk chunks
    unfold readUntil
    dsimp only
    by_cases hwhole : Terminated sep (upTo sep limit buffer).1 ∨ (upTo sep limit buffer).1.length = limit
    · rw [if_pos hwhole]
      refine ⟨?_, hwhole.imp_right Or.inl⟩
      rw [upTo_append_whole _ hwhole]
    rw [if_neg hwhole]
    rw [not_or] at hwhole
    obtain ⟨hopen, hshort⟩ := hwhole
    have hall : (upTo sep limit buffer).1 = buffer := by
      have happend := upTo_append_self sep limit buffer
      rwa [upTo_rest hopen hshort, List.append_nil] at happend
    have hnext := upTo_append_open (chunk ++ chunks.flatten) hopen hshort
    rw [hall] at ih hopen hshort ⊢
    rw [List.flatten_cons, hnext]
    cases hread : readUntil sep ended (limit - buffer.length) chunk chunks with
    | none =>
      rw [hread] at ih
      obtain ⟨hended, hrest, hunterminated, hlength⟩ := ih
      refine ⟨hended, hrest, fun hterminated => ?_, fun heq => hlength ?_⟩
      · dsimp only at hterminated
        cases hmore : (upTo sep (limit - buffer.length) (chunk ++ chunks.flatten)).1 with
        | nil =>
          rw [hmore, List.append_nil] at hterminated
          exact hopen hterminated
        | cons a line =>
          rw [hmore] at hterminated hunterminated
          refine hunterminated ?_
          unfold Terminated at hterminated ⊢
          rwa [List.getLast?_append_of_ne_nil _ (List.cons_ne_nil _ _)] at hterminated
      · simp only [List.length_append] at heq
        omega
    | some read =>
      rw [hread] at ih
      obtain ⟨line, rest, chunks'⟩ := read
      obtain ⟨hline, hwhole⟩ := ih
      refine ⟨by rw [hline], ?_⟩
      have hline_eq : line = (upTo sep (limit - buffer.length) (chunk ++ chunks.flatten)).1 := by rw [hline]
      have hle : buffer.length ≤ limit := by
        have := length_upTo_le sep limit buffer
        rwa [hall] at this
      rcases hwhole with hterminated | hlength | hended
      · refine Or.inl ?_
        unfold Terminated at hterminated ⊢
        cases line with
        | nil => cases hterminated
        | cons a line => rwa [List.getLast?_append_of_ne_nil _ (List.cons_ne_nil _ _)]
      · refine Or.inr (Or.inl ?_)
        rw [List.length_append]
        omega
      · exact Or.inr (Or.inr hended)

variable (sep) in
theorem flatten_split (stream : List α) : (split sep stream).flatten = stream := by
  fun_induction split sep stream with
  | case1 => rfl
  | case2 rest ih => simp [ih]
  | case3 a rest hne hnil ih =>
    rw [hnil] at ih
    simp [← ih]
  | case4 a rest hne line lines hsplit ih =>
    rw [hsplit] at ih
    simp [← ih]

/-- A stream that is not empty begins with its first line; within the limit `upTo` takes just that line. -/
theorem upTo_eq_split {stream line : List α} {lines : List (List α)} (h : split sep stream = line :: lines) {limit : Nat}
    (hlimit : line.length ≤ limit) : upTo sep limit stream = (line, lines.flatten) ∧ split sep lines.flatten = lines ∧
      (Terminated sep line ∨ lines = []) := by
  fun_induction split sep stream generalizing line lines limit with
  | case1 => cases h
  | case2 rest ih =>
    cases h
    obtain ⟨limit, rfl⟩ : ∃ k, limit = k + 1 := ⟨limit - 1, by simp at hlimit; omega⟩
    refine ⟨by simp [upTo, flatten_split], by rw [flatten_split], Or.inl rfl⟩
  | case3 a rest hne hnil ih =>
    cases h
    obtain ⟨limit, rfl⟩ : ∃ k, limit = k + 1 := ⟨limit - 1, by simp at hlimit; omega⟩
    have hrest : rest = [] := by rw [← flatten_split sep rest, hnil]; rfl
    subst hrest
    refine ⟨?_, rfl, Or.inr rfl⟩
    rw [upTo, if_neg hne]
    cases limit <;> rfl
  | case4 a rest hne first others hsplit ih =>
    cases h
    obtain ⟨limit, rfl⟩ : ∃ k, limit = k + 1 := ⟨limit - 1, by simp at hlimit; omega⟩
    obtain ⟨hupTo, hothers, hterminated⟩ := ih hsplit (by simpa using hlimit)
    refine ⟨by rw [upTo, if_neg hne, hupTo], hothers, ?_⟩
    exact hterminated.imp_left (terminated_cons hne).mpr

/-- A first line above the limit is cut there. -/
theorem length_upTo_of_long {stream line : List α} {lines : List (List α)} (h : split sep stream = line :: lines) {limit : Nat}
    (hlimit : limit < line.length) : (upTo sep limit stream).1.length = limit := by
  fun_induction split sep stream generalizing line lines limit with
  | case1 => cases h
  | case2 rest ih =>
    cases h
    obtain rfl : limit = 0 := by simp at hlimit; omega
    rfl
  | case3 a rest hne hnil ih =>
    cases h
    obtain rfl : limit = 0 := by simp at hlimit; omega
    rfl
  | case4 a rest hne first others hsplit ih =>
    cases h
    cases limit with
    | zero => rfl
    | succ limit =>
      rw [upTo, if_neg hne, List.length_cons, ih hsplit (by simpa using hlimit)]

theorem split_ne_nil {stream line : List α} (h : line ∈ split sep stream) : line ≠ [] := by
  fun_induction split sep stream with
  | case1 => cases h
  | case2 rest ih =>
    rcases List.mem_cons.mp h with rfl | h
    · exact List.cons_ne_nil _ _
    · exact ih h
  | case3 a rest hne hnil ih =>
    obtain rfl := List.mem_singleton.mp h
    exact List.cons_ne_nil _ _
  | case4 a rest hne first others hsplit ih =>
    rcases List.mem_cons.mp h with rfl | h
    · exact List.cons_ne_nil _ _
    · exact ih (hsplit ▸ List.mem_cons_of_mem _ h)

/-- A line goes up to its separator. -/
theorem split_terminated {line : List α} (h : sep ∉ line) (rest : List α) :
    split sep (line ++ sep :: rest) = (line ++ [sep]) :: split sep rest := by
  induction line with
  | nil => simp [split]
  | cons a line ih =>
    rw [List.mem_cons, not_or] at h
    rw [List.cons_append, split, if_neg (Ne.symm h.1), ih h.2]
    rfl

/-- The last line may lack it. -/
theorem split_unterminated {line : List α} (h : sep ∉ line) (hne : line ≠ []) : split sep line = [line] := by
  induction line with
  | nil => exact absurd rfl hne
  | cons a line ih =>
    rw [List.mem_cons, not_or] at h
    rw [split, if_neg (Ne.symm h.1)]
    cases line with
    | nil => rfl
    | cons b line => rw [ih h.2 (List.cons_ne_nil _ _)]

end Lines
