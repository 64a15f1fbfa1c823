import DccCua.Cli.McpTransport
import Mathlib.Data.List.Forall2

/-! # Lines in, lines out

The turns of the transport are the lines of its stream, however it is split into reads. What is written for a line has
the shape that the line asks for, except that a batch with a single answered message gets that answer without its array. -/

namespace DccCua
namespace Mcp

open Lines

/-- The lines before the first that is too long; a line that the stream has not finished is not among them. -/
def handledLines (max : Nat) (ended : Bool) (stream : Bytes) : List Bytes :=
  ((split newline stream).takeWhile (·.length ≤ max)).filter fun line => ended || Terminated newline line

/-- The answer to a message, with its id. -/
def Responds (message response : Json) : Prop :=
  (∃ result, response = rpcResult (message.get "id") result) ∨
    ∃ code text, response = rpcError (message.get "id") code text

/-- What a line asks for. -/
def LineLaw (fromSlice : Bytes → Option Json) (line : Bytes) (written : Option Json) : Prop :=
  if line.all isAsciiWhitespace then written = none
  else match fromSlice line with
    | none => written = some parseError
    | some (.arr batch) =>
      if batch.all isNotification then written = none
      else ∃ responses, written = some (.arr responses) ∧
        List.Forall₂ Responds (batch.filter (!isNotification ·)) responses
    | some message =>
      if isNotification message then written = none else ∃ response, written = some response ∧ Responds message response

structure TransportLaw (fromSlice : Bytes → Option Json) (max : Nat) (ended : Bool) (stream : Bytes) (turns : List Turn) :
    Prop where
  lines : turns.map (·.line) = handledLines max ended stream
  written : ∀ turn ∈ turns, LineLaw fromSlice turn.line turn.written

/-- The line is a batch of which one message is answered. -/
def OneAnswered (fromSlice : Bytes → Option Json) (line : Bytes) : Prop :=
  line.all isAsciiWhitespace = false ∧
    ∃ batch, fromSlice line = some (.arr batch) ∧ (batch.filter (!isNotification ·)).length = 1

variable {Server : Type} {answer : String → Json → Server → Except String Json × Server}
  {fromSlice : Bytes → Option Json} {max : Nat} {ended : Bool} {line : Bytes} {server : Server} {message response : Json}

/-! ### One line -/

theorem handleRpc_notification (h : isNotification message = true) (server : Server) :
    handleRpc answer message server = (none, server) := by
  unfold isNotification at h
  unfold handleRpc
  cases hmethod : (message.get "method").asStr with
  | none =>
    rw [hmethod] at h
    cases h
  | some method =>
    rw [hmethod] at h
    dsimp only at h ⊢
    rw [if_pos h]

variable (answer) in
theorem handleRpc_request (h : isNotification message = false) (server : Server) :
    ∃ response, (handleRpc answer message server).1 = some response ∧ Responds message response := by
  unfold isNotification at h
  unfold handleRpc
  cases hmethod : (message.get "method").asStr with
  | none => exact ⟨_, rfl, Or.inr ⟨_, _, rfl⟩⟩
  | some method =>
    rw [hmethod] at h
    dsimp only at h ⊢
    rw [if_neg (by rw [h]; exact Bool.false_ne_true)]
    by_cases hknown : method ∈ rpcMethods
    · rw [if_neg (not_not_intro hknown)]
      obtain ⟨result, server'⟩ := answer method (rpcParams message) server
      cases result with
      | ok result => exact ⟨_, rfl, Or.inl ⟨result, rfl⟩⟩
      | error text => exact ⟨_, rfl, Or.inr ⟨_, _, rfl⟩⟩
    · rw [if_pos hknown]
      exact ⟨_, rfl, Or.inr ⟨_, _, rfl⟩⟩

variable (answer) in
/-- A batch is answered message by message. -/
theorem handleBatch_responds (batch : List Json) : ∀ server : Server,
    List.Forall₂ Responds (batch.filter (!isNotification ·)) (handleBatch answer batch server).1 := by
  induction batch with
  | nil => exact fun _ => .nil
  | cons message batch ih =>
    intro server
    unfold handleBatch
    cases hnotification : isNotification message with
    | true =>
      rw [List.filter_cons_of_neg (by simp [hnotification])]
      rw [handleRpc_notification hnotification]
      exact ih server
    | false =>
      rw [List.filter_cons_of_pos (by simp [hnotification])]
      obtain ⟨response, hresponse, hresponds⟩ := handleRpc_request answer hnotification server
      dsimp only
      rw [hresponse]
      exact .cons hresponds (ih _)

theorem responds_not_array (h : Responds message response) (items : List Json) : response ≠ .arr items := by
  rcases h with ⟨result, rfl⟩ | ⟨code, text, rfl⟩ <;> exact fun heq => (nomatch heq)

theorem all_notifications_iff (batch : List Json) :
    batch.all isNotification = true ↔ batch.filter (!isNotification ·) = [] := by
  rw [List.filter_eq_nil_iff, List.all_eq_true]
  simp

/-- What is written for a batch. -/
theorem batch_law_iff {batch responses : List Json}
    (h : List.Forall₂ Responds (batch.filter (!isNotification ·)) responses) :
    (if batch.all isNotification then Mcp.response responses = none
      else ∃ written, Mcp.response responses = some (.arr written) ∧
        List.Forall₂ Responds (batch.filter (!isNotification ·)) written) ↔
      (batch.filter (!isNotification ·)).length ≠ 1 := by
  rw [h.length_eq]
  match responses, h with
  | [], h =>
    have hnone : batch.filter (!isNotification ·) = [] := List.forall₂_nil_right_iff.mp h
    rw [if_pos ((all_notifications_iff batch).mpr hnone)]
    simp [Mcp.response]
  | [response], h =>
    have hsome : batch.filter (!isNotification ·) ≠ [] := by
      intro hnil
      rw [hnil] at h
      cases h
    rw [if_neg (fun hall => hsome ((all_notifications_iff batch).mp hall))]
    constructor
    · rintro ⟨written, heq, -⟩
      obtain ⟨message, hresponds⟩ : ∃ message, Responds message response := by
        generalize batch.filter (!isNotification ·) = requests at h
        cases h with
        | cons hresponds _ => exact ⟨_, hresponds⟩
      exact absurd (Option.some.inj heq) (responds_not_array hresponds written)
    · exact fun hne => absurd rfl hne
  | first :: second :: rest, h =>
    have hsome : batch.filter (!isNotification ·) ≠ [] := by
      intro hnil
      rw [hnil] at h
      cases h
    rw [if_neg (fun hall => hsome ((all_notifications_iff batch).mp hall))]
    constructor
    · intro _
      simp
    · exact fun _ => ⟨first :: second :: rest, rfl, h⟩

variable (answer) in
theorem single_law (message : Json) (server : Server) :
    if isNotification message then Mcp.response (handleRpc answer message server).1.toList = none
    else ∃ response, Mcp.response (handleRpc answer message server).1.toList = some response ∧ Responds message response := by
  cases hnotification : isNotification message with
  | true =>
    rw [handleRpc_notification hnotification]
    rfl
  | false =>
    obtain ⟨response, hresponse, hresponds⟩ := handleRpc_request answer hnotification server
    rw [hresponse]
    exact ⟨response, rfl, hresponds⟩

/-- The law of a line holds unless the line is a batch with one answer. -/
theorem line_law_iff (line : Bytes) (server : Server) :
    LineLaw fromSlice line (handleLine answer fromSlice line server).1 ↔ ¬OneAnswered fromSlice line := by
  unfold LineLaw handleLine OneAnswered
  cases hblank : line.all isAsciiWhitespace with
  | true => simp
  | false =>
    simp only [Bool.false_eq_true, if_false]
    split
    · rename_i hnone
      simp [hnone]
    · rename_i batch hbatch
      simp only [hbatch]
      rw [batch_law_iff (handleBatch_responds answer batch server)]
      constructor
      · rintro hne ⟨-, batch', heq, hone⟩
        cases heq
        exact hne hone
      · exact fun hnot hone => hnot ⟨trivial, batch, rfl, hone⟩
    · rename_i message harray hmessage
      have hlaw := single_law answer message server
      simp only [hmessage]
      constructor
      · rintro - ⟨-, batch, heq, -⟩
        cases heq
        exact harray batch rfl
      · exact fun _ => hlaw

/-! ### The turns -/

theorem handledLines_nil {stream : Bytes} (h : split newline stream = []) : handledLines max ended stream = [] := by
  rw [handledLines, h]
  rfl

theorem handledLines_long {stream : Bytes} {lines : List Bytes} (h : split newline stream = line :: lines)
    (hlong : max < line.length) : handledLines max ended stream = [] := by
  rw [handledLines, h, List.takeWhile_cons_of_neg (by simpa using hlong)]
  rfl

theorem runTurns_lines (turns : Nat) : ∀ (buffer : Bytes) (reads : List Bytes) (server : Server),
    (buffer ++ reads.flatten).length < turns →
      (runTurns answer fromSlice max ended turns buffer reads server).1.map (·.line) =
        handledLines max ended (buffer ++ reads.flatten) := by
  induction turns with
  | zero => exact fun buffer reads server h => absurd h (Nat.not_lt_zero _)
  | succ turns ih =>
    intro buffer reads server hfuel
    have hread := readUntil_eq newline ended (max + 1) buffer reads
    unfold runTurns
    generalize hstream : buffer ++ reads.flatten = stream at hread hfuel ⊢
    cases hresult : readUntil newline ended (max + 1) buffer reads with
    | none =>
      rw [hresult] at hread
      obtain ⟨hended, hrest, hopen, hshort⟩ := hread
      dsimp only
      cases hsplit : split newline stream with
      | nil => rw [handledLines_nil hsplit]; rfl
      | cons line lines =>
        have hle : line.length ≤ max + 1 := by
          by_contra hlong
          exact hshort (length_upTo_of_long hsplit (Nat.lt_of_not_le hlong))
        obtain ⟨hupTo, -, hlast⟩ := upTo_eq_split hsplit hle
        rw [hupTo] at hopen
        obtain rfl : lines = [] := hlast.resolve_left hopen
        rw [handledLines, hsplit, hended]
        by_cases hmax : line.length ≤ max
        · rw [List.takeWhile_cons_of_pos (by simpa using hmax)]
          simp [hopen]
        · rw [List.takeWhile_cons_of_neg (by simpa using hmax)]
          rfl
    | some read =>
      obtain ⟨line, rest, reads'⟩ := read
      rw [hresult] at hread
      obtain ⟨hupTo, hwhole⟩ := hread
      dsimp only
      cases hsplit : split newline stream with
      | nil =>
        have hempty : stream = [] := by rw [← flatten_split newline stream, hsplit]; rfl
        rw [hempty] at hupTo
        obtain rfl : [] = line := (Prod.mk.inj hupTo).1
        rw [if_pos rfl, handledLines_nil hsplit]
        rfl
      | cons first lines =>
        have hfirst : first ≠ [] := split_ne_nil (hsplit ▸ List.mem_cons_self)
        by_cases hle : first.length ≤ max + 1
        · obtain ⟨hfirstUpTo, hothers, -⟩ := upTo_eq_split hsplit hle
          rw [hfirstUpTo] at hupTo
          obtain ⟨rfl, hrest⟩ := Prod.mk.inj hupTo
          rw [if_neg hfirst]
          by_cases hlong : max < first.length
          · rw [if_pos hlong, handledLines_long hsplit hlong]
            rfl
          rw [if_neg hlong]
          have hlengths : stream.length = first.length + lines.flatten.length := by
            rw [← flatten_split newline stream, hsplit, List.flatten_cons, List.length_append]
          have hpos := List.length_pos_iff.mpr hfirst
          rw [List.map_cons, ih rest reads' _ (by rw [← hrest]; omega), ← hrest]
          have hkept : (ended || decide (Terminated newline first)) = true := by
            rcases hwhole with hterminated | hlength | hended
            · simp [hterminated]
            · omega
            · simp [hended]
          rw [handledLines, handledLines, hsplit, hothers,
            List.takeWhile_cons_of_pos (by simpa using Nat.le_of_not_lt hlong), List.filter_cons_of_pos (by exact hkept)]
        · -- The line is cut one byte after the limit.
          have hlength := length_upTo_of_long hsplit (Nat.lt_of_not_le hle)
          rw [hupTo] at hlength
          dsimp only at hlength
          have hcut : line ≠ [] := by
            intro hnil
            rw [hnil] at hlength
            cases hlength
          rw [if_neg hcut, if_pos (by omega), handledLines_long hsplit (by omega)]
          rfl

theorem runTurns_written (turns : Nat) : ∀ (buffer : Bytes) (reads : List Bytes) (server : Server),
    ∀ turn ∈ (runTurns answer fromSlice max ended turns buffer reads server).1,
      ∃ server', turn.written = (handleLine answer fromSlice turn.line server').1 := by
  induction turns with
  | zero => intro buffer reads server turn hmem; cases hmem
  | succ turns ih =>
    intro buffer reads server turn hmem
    unfold runTurns at hmem
    split at hmem
    · cases hmem
    split at hmem
    · cases hmem
    split at hmem
    · cases hmem
    rcases List.mem_cons.mp hmem with rfl | hmem
    · exact ⟨server, rfl⟩
    · exact ih _ _ _ turn hmem

theorem transportLaw_iff (answer : String → Json → Server → Except String Json × Server)
    (fromSlice : Bytes → Option Json) (max : Nat) (ended : Bool) (reads : List Read) (server : Server) :
    TransportLaw fromSlice max ended (stream reads) (runTransport answer fromSlice max ended reads server).1 ↔
      ∀ line ∈ handledLines max ended (stream reads), ¬OneAnswered fromSlice line := by
  have hlines : (runTransport answer fromSlice max ended reads server).1.map (·.line) =
      handledLines max ended (stream reads) := by
    unfold runTransport
    rw [runTurns_lines _ _ _ _ (by simp [stream])]
    simp [stream]
  constructor
  · rintro ⟨-, hwritten⟩ line hline
    rw [← hlines] at hline
    obtain ⟨turn, hturn, rfl⟩ := List.mem_map.mp hline
    obtain ⟨server', heq⟩ := runTurns_written _ _ _ _ turn hturn
    have hlaw := hwritten turn hturn
    rw [heq] at hlaw
    exact (line_law_iff turn.line server').mp hlaw
  · intro hnone
    refine ⟨hlines, fun turn hturn => ?_⟩
    obtain ⟨server', heq⟩ := runTurns_written _ _ _ _ turn hturn
    rw [heq]
    exact (line_law_iff turn.line server').mpr (hnone turn.line (hlines ▸ List.mem_map_of_mem hturn))

end Mcp

open Mcp

/-- For every stream, every way to split it into reads and every server. -/
theorem transport_law_iff {Server : Type} (answer : String → Json → Server → Except String Json × Server)
    (fromSlice : Bytes → Option Json) (ended : Bool) (reads : List Read) (server : Server) :
    TransportLaw fromSlice maxJsonFrameBytes ended (stream reads)
        (runTransport answer fromSlice maxJsonFrameBytes ended reads server).1 ↔
      ∀ line ∈ handledLines maxJsonFrameBytes ended (stream reads), ¬OneAnswered fromSlice line :=
  transportLaw_iff answer fromSlice maxJsonFrameBytes ended reads server

namespace Mcp

/-- `[{"id":1,"method":"ping"}]` and a newline. -/
def pingBatch : Bytes :=
  [91, 123, 34, 105, 100, 34, 58, 49, 44, 34, 109, 101, 116, 104, 111, 100, 34, 58, 34, 112, 105, 110, 103, 34, 125, 93, 10]

/-- The parser, on that line. -/
def pingFromSlice (line : Bytes) : Option Json :=
  if line = pingBatch then some (.arr [.obj [("id", .int 1), ("method", .str "ping")]]) else none

def pingReads : List Read := [⟨pingBatch, by decide⟩]

end Mcp

/-- The only answer of the batch is written without an array. -/
theorem ping_batch_not_array : ¬TransportLaw pingFromSlice maxJsonFrameBytes true (stream pingReads)
    (runTransport (fun _ _ server => (.ok (.obj []), server)) pingFromSlice maxJsonFrameBytes true pingReads ()).1 := by
  rw [transportLaw_iff]
  intro h
  have hlines : Lines.split newline (stream pingReads) = [pingBatch] := by decide
  have hline : pingBatch ∈ handledLines maxJsonFrameBytes true (stream pingReads) := by
    rw [handledLines, hlines]
    decide
  exact h pingBatch hline ⟨by decide, _, if_pos rfl, by decide⟩

end DccCua
