import DccCua.Host.Connection
import DccCua.Theorems.Frame

/-! What a client writes is what the connection parses, as long as no read is dropped: the read at the
    head of the loop keeps the bytes it has taken until its frame is whole, while a tick or a completion
    in the `select!` around an interruptible request drops the read and every byte it had taken. -/

namespace DccCua

open Runs DccCua.Frame

/-! ### One poll -/

namespace Frame

variable {max : Nat} {taken available : Bytes} {eof : Bool} {frames : List Bytes}

/-- The bytes of a frame that is not whole. -/
structure Part (part : Bytes) (frame : Bytes) : Prop where
  isPrefix : part <+: encode frame
  short : part.length < (encode frame).length

theorem pollFrame_whole {frame more : Bytes} (h : Writable max frame) (hin : taken ++ available = encode frame ++ more) :
    pollFrame max taken available eof = (.ready (.ok (some frame)), more) := by
  unfold pollFrame
  dsimp only
  rw [hin, readExact_header]
  dsimp only
  rw [if_neg h.header_ok, fromBeBytes_toBeBytes h.fits, readExact_append rfl]

theorem pollFrame_part (eof : Bool) {frame : Bytes} (h : Writable max frame) (hpart : Part (taken ++ available) frame) :
    ∃ result, (result = .ok none ∨ result = .error .unexpectedEof) ∧
      pollFrame max taken available eof = if eof then (.ready result, []) else (.pending (taken ++ available), []) := by
  unfold pollFrame
  dsimp only
  rcases prefix_cases hpart.isPrefix hpart.short with h4 | ⟨part, heq, hshort⟩
  · refine ⟨.ok none, Or.inl rfl, ?_⟩
    rw [readExact_of_lt h4]
  · refine ⟨.error .unexpectedEof, Or.inr rfl, ?_⟩
    rw [heq, readExact_append (length_toBeBytes _)]
    dsimp only
    rw [if_neg h.header_ok, fromBeBytes_toBeBytes h.fits, readExact_of_lt hshort]

/-- Bytes that start at the head of a frame hold that frame, or a part of it. -/
theorem whole_or_part {frame input : Bytes} {frames : List Bytes} (h : Writable max frame)
    (hin : input <+: writeFrames max (frame :: frames)) : (∃ more, input = encode frame ++ more) ∨ Part input frame := by
  rw [writeFrames_cons h] at hin
  by_cases hlt : input.length < (encode frame).length
  · exact Or.inr ⟨List.prefix_of_prefix_length_le hin (List.prefix_append _ _) (Nat.le_of_lt hlt), hlt⟩
  · obtain ⟨more, rfl⟩ := List.prefix_of_prefix_length_le (List.prefix_append _ _) hin (Nat.not_lt.mp hlt)
    exact Or.inl ⟨more, rfl⟩

/-- A poll at the head of `frames` takes the first of them, or waits with a part of it, or finds the end
    of the stream. -/
theorem pollFrame_cases (eof : Bool) (h : ∀ frame ∈ frames, Writable max frame) (hin : taken ++ available <+: writeFrames max frames) :
    (∃ frame rest more, frames = frame :: rest ∧ taken ++ available = encode frame ++ more ∧
      pollFrame max taken available eof = (.ready (.ok (some frame)), more)) ∨
    (pollFrame max taken available eof = (.pending (taken ++ available), []) ∧
      (taken ++ available = [] ∨ ∃ frame rest, frames = frame :: rest ∧ Part (taken ++ available) frame)) ∨
    pollFrame max taken available eof = (.ready (.ok none), []) ∨
    pollFrame max taken available eof = (.ready (.error .unexpectedEof), []) := by
  cases frames with
  | nil =>
    have hnil : taken ++ available = [] := List.prefix_nil.mp hin
    obtain ⟨rfl, rfl⟩ := List.append_eq_nil_iff.mp hnil
    cases eof with
    | false => exact Or.inr (Or.inl ⟨rfl, Or.inl rfl⟩)
    | true => exact Or.inr (Or.inr (Or.inl rfl))
  | cons frame rest =>
    have hw : Writable max frame := h frame List.mem_cons_self
    rcases whole_or_part hw hin with ⟨more, hwhole⟩ | hpart
    · exact Or.inl ⟨frame, rest, more, rfl, hwhole, pollFrame_whole hw hwhole⟩
    · obtain ⟨result, hresult, heq⟩ := pollFrame_part eof hw hpart
      cases eof with
      | false => exact Or.inr (Or.inl ⟨heq, Or.inr ⟨frame, rest, rfl, hpart⟩⟩)
      | true =>
        rcases hresult with rfl | rfl
        · exact Or.inr (Or.inr (Or.inl heq))
        · exact Or.inr (Or.inr (Or.inr heq))

theorem writeFrames_append (parsed rest : List Bytes) :
    writeFrames max (parsed ++ rest) = writeFrames max parsed ++ writeFrames max rest := by
  simp [writeFrames]

end Frame

/-! ### One event -/

namespace Phase

/-- The bytes that the read of this phase has taken. -/
def taken : Phase → Bytes
  | reading taken | running taken _ _ => taken
  | _ => []

def isOpen : Phase → Bool
  | closed _ => false
  | _ => true

/-- The loop waits for its read here, alone or with other events. -/
def reads : Phase → Bool
  | reading _ | running _ _ _ => true
  | _ => false

/-- The connection ended on a length that is no frame's. -/
def misread (phase : Phase) : Prop := ∃ message, phase = closed (.error (.frame (.protocol message)))

end Phase

namespace Connection

/-- The event ends a turn of the `select!` whose read has taken a part of a frame. -/
def dropsRead (c : Connection) (event : ConnectionEvent) : Bool :=
  match c.phase, event with
  | .running taken _ _, .tick _ _ => taken ≠ []
  | .running taken _ _, .complete _ _ _ => taken ≠ []
  | _, _ => false

/-- A phase that a frame or an event leads to, at the start of a read or outside of one. -/
structure Fresh (phase : Phase) : Prop where
  taken : phase.taken = []
  read : ¬phase.misread

theorem fresh_reading : Fresh (.reading []) := ⟨rfl, fun ⟨_, h⟩ => by cases h⟩

theorem fresh_running (request : Request) (requestId : Option String) : Fresh (.running [] request requestId) :=
  ⟨rfl, fun ⟨_, h⟩ => by cases h⟩

theorem fresh_transport : Fresh (.closed (.error .transport)) := ⟨rfl, fun ⟨_, h⟩ => by cases h⟩

theorem fresh_answered (sent : Bool) : Fresh (answered sent) := by
  unfold answered
  split
  · exact fresh_reading
  · exact fresh_transport

theorem fresh_accept (parse : ParseRequestFrame) (greeted : Bool) (frame : Bytes) (sent : Bool) :
    Fresh (accept parse greeted frame sent) := by
  unfold accept
  split
  · exact fresh_answered sent
  · split
    · exact fresh_answered sent
    · split
      · exact ⟨rfl, fun ⟨_, h⟩ => by cases h⟩
      · split
        · exact fresh_running _ _
        · exact ⟨rfl, fun ⟨_, h⟩ => by cases h⟩

theorem fresh_acceptRunning (parse : ParseRequestFrame) (request : Request) (requestId : Option String) (frame : Bytes)
    (sent : Bool) : Fresh (acceptRunning parse request requestId frame sent) := by
  unfold acceptRunning
  split
  · exact ⟨rfl, fun ⟨_, h⟩ => by cases h⟩
  · split
    · exact fresh_transport
    · split
      · exact fresh_reading
      · exact fresh_running _ _
  · split
    · exact fresh_running _ _
    · exact fresh_transport

/-- An event that leaves the reading as it is, or ends the connection. -/
structure Quiet (c : Connection) (event : ConnectionEvent) (c' : Connection) : Prop where
  arrives : ∀ chunk, event = .arrive chunk → c.eof = true
  unread : c'.unread = c.unread
  read : ¬c.phase.misread → ¬c'.phase.misread
  taken : c'.phase.isOpen → c.phase.isOpen ∧ c'.phase.taken = c.phase.taken

/-- The read of a phase: how a pending read is put back, and where a frame leads. -/
structure ReadOf (phase : Phase) (keep use : Bytes → Phase) : Prop where
  reads : phase.reads = true
  keeps : ∀ taken, (keep taken).taken = taken ∧ ¬(keep taken).misread
  uses : ∀ frame, Fresh (use frame)

-- The equations of `step` are made here, once for the proofs below.
section
attribute [local simp] step
end

section Quiet
variable {c c' : Connection} {event : ConnectionEvent}

theorem quiet_of_fresh (arrives : ∀ chunk, event ≠ .arrive chunk) (unread : c'.unread = c.unread)
    (opened : c.phase.isOpen = true) (taken : c.phase.taken = []) (fresh : Fresh c'.phase) : Quiet c event c' where
  arrives chunk h := absurd h (arrives chunk)
  unread := unread
  read _ := fresh.read
  taken _ := ⟨opened, fresh.taken.trans taken.symm⟩

theorem quiet_of_phase (arrives : ∀ chunk, event = .arrive chunk → c.eof = true) (unread : c'.unread = c.unread)
    (phase : c'.phase = c.phase) : Quiet c event c' where
  arrives := arrives
  unread := unread
  read h := phase ▸ h
  taken h := ⟨phase ▸ h, by rw [phase]⟩

variable (parse : ParseRequestFrame)

/-- What a step gives, without a frame. -/
def StepQuiet (c : Connection) (event : ConnectionEvent) : Prop :=
  (step parse c event).1 = none ∧ Quiet c event (step parse c event).2

theorem tick_quiet {generation : Nat} {sent : Bool} (hkept : c.dropsRead (.tick generation sent) = false) :
    StepQuiet parse c (.tick generation sent) := by
  unfold StepQuiet
  cases hphase : c.phase with
  | reading taken =>
    by_cases hgreeted : c.greeted = true
    · simp only [step, hphase, if_pos hgreeted]
      exact ⟨trivial, quiet_of_phase (by simp) rfl hphase.symm⟩
    · simp only [step, hphase, if_neg hgreeted]
      exact ⟨trivial, quiet_of_phase (by simp) rfl rfl⟩
  | running taken request requestId =>
    have htaken : c.phase.taken = [] := by simpa [dropsRead, hphase, Phase.taken] using hkept
    have hopen : c.phase.isOpen = true := by rw [hphase]; rfl
    by_cases hgen : generation ≠ c.observedGeneration
    · simp only [step, hphase, if_pos hgen]
      exact ⟨trivial, quiet_of_fresh (by simp) rfl hopen htaken (fresh_answered sent)⟩
    · simp only [step, hphase, if_neg hgen]
      exact ⟨trivial, quiet_of_fresh (by simp) rfl hopen htaken (fresh_running request requestId)⟩
  | stopping | handling | closed =>
    simp only [step, hphase]
    exact ⟨trivial, quiet_of_phase (by simp) rfl rfl⟩

theorem complete_quiet {ok : Bool} {generation : Nat} {sent : Bool}
    (hkept : c.dropsRead (.complete ok generation sent) = false) : StepQuiet parse c (.complete ok generation sent) := by
  unfold StepQuiet
  cases hphase : c.phase with
  | running taken request requestId =>
    have htaken : c.phase.taken = [] := by simpa [dropsRead, hphase, Phase.taken] using hkept
    simp only [step, hphase]
    exact ⟨trivial, quiet_of_fresh (by simp) rfl (by rw [hphase]; rfl) htaken (fresh_answered sent)⟩
  | stopping =>
    simp only [step, hphase]
    exact ⟨trivial, quiet_of_fresh (by simp) rfl (by rw [hphase]; rfl) (by rw [hphase]; rfl) (fresh_answered sent)⟩
  | handling request =>
    have hopen : c.phase.isOpen = true := by rw [hphase]; rfl
    have htaken : c.phase.taken = [] := by rw [hphase]; rfl
    by_cases hparallel : request.isParallel = true
    · simp only [step, hphase, if_pos hparallel]
      exact ⟨trivial, quiet_of_fresh (by simp) rfl hopen htaken fresh_reading⟩
    · simp only [step, hphase, if_neg hparallel]
      exact ⟨trivial, quiet_of_fresh (by simp) rfl hopen htaken (fresh_answered sent)⟩
  | reading | closed =>
    simp only [step, hphase]
    exact ⟨trivial, quiet_of_phase (by simp) rfl rfl⟩

theorem deadline_quiet : StepQuiet parse c .helloDeadline := by
  unfold StepQuiet
  cases hphase : c.phase with
  | reading taken =>
    by_cases hgreeted : c.greeted = true
    · simp only [step, hphase, if_pos hgreeted]
      exact ⟨trivial, quiet_of_phase (by simp) rfl rfl⟩
    · simp only [step, hphase, if_neg hgreeted]
      exact ⟨trivial, { arrives := by simp, unread := rfl, read := fun _ ⟨_, h⟩ => (by cases h), taken := by simp [Phase.isOpen] }⟩
  | running | stopping | handling | closed =>
    simp only [step, hphase]
    exact ⟨trivial, quiet_of_phase (by simp) rfl rfl⟩

theorem poll_reads (sent : Bool) (h : c.phase.reads = true) :
    ∃ keep use, ReadOf c.phase keep use ∧ step parse c (.poll sent) = c.pollRead c.phase.taken keep use := by
  cases hphase : c.phase with
  | reading taken =>
    refine ⟨.reading, fun frame => accept parse c.greeted frame sent, ⟨rfl, fun taken => ?_, fun frame =>
      fresh_accept parse _ frame sent⟩, by simp only [step, hphase, Phase.taken]⟩
    exact ⟨rfl, fun ⟨_, h⟩ => by cases h⟩
  | running taken request requestId =>
    refine ⟨fun taken => .running taken request requestId,
      fun frame => acceptRunning parse request requestId frame sent, ⟨rfl, fun taken => ?_, fun frame =>
      fresh_acceptRunning parse _ _ frame sent⟩, by simp only [step, hphase, Phase.taken]⟩
    exact ⟨rfl, fun ⟨_, h⟩ => by cases h⟩
  | stopping | handling | closed =>
    rw [hphase] at h
    cases h

theorem poll_quiet (sent : Bool) (h : c.phase.reads = false) : StepQuiet parse c (.poll sent) := by
  unfold StepQuiet
  cases hphase : c.phase with
  | reading | running =>
    rw [hphase] at h
    cases h
  | stopping | handling | closed =>
    simp only [step, hphase]
    exact ⟨trivial, quiet_of_phase (by simp) rfl rfl⟩

/-- An event brings bytes, or leaves the reading as it is, or polls the read. -/
theorem step_cases (hkept : c.dropsRead event = false) :
    (∃ chunk, event = .arrive chunk ∧ c.eof = false ∧
      step parse c event = (none, { c with unread := c.unread ++ chunk })) ∨
    StepQuiet parse c event ∨
    ∃ sent keep use, event = .poll sent ∧ ReadOf c.phase keep use ∧
      step parse c event = c.pollRead c.phase.taken keep use := by
  cases event with
  | arrive chunk =>
    cases heof : c.eof with
    | true =>
      refine Or.inr (Or.inl ?_)
      simp only [StepQuiet, step, heof, if_true]
      exact ⟨trivial, quiet_of_phase (fun _ _ => heof) rfl rfl⟩
    | false => exact Or.inl ⟨chunk, rfl, rfl, by simp [step, heof]⟩
  | eof => exact Or.inr (Or.inl ⟨rfl, quiet_of_phase (by simp) rfl rfl⟩)
  | poll sent =>
    by_cases hreads : c.phase.reads = true
    · obtain ⟨keep, use, hread, heq⟩ := poll_reads parse sent hreads
      exact Or.inr (Or.inr ⟨sent, keep, use, rfl, hread, heq⟩)
    · exact Or.inr (Or.inl (poll_quiet parse sent (by simpa using hreads)))
  | tick generation sent => exact Or.inr (Or.inl (tick_quiet parse hkept))
  | sessionTick => exact Or.inr (Or.inl ⟨rfl, quiet_of_phase (by simp) rfl rfl⟩)
  | complete ok generation sent => exact Or.inr (Or.inl (complete_quiet parse hkept))
  | helloDeadline => exact Or.inr (Or.inl (deadline_quiet parse))

end Quiet

/-! ### Runs -/

/-- The bytes that a call brings. -/
def received (call : Call Connection ConnectionEvent (Option Bytes)) : Bytes :=
  match call.input with
  | .arrive chunk => if call.before.eof then [] else chunk
  | _ => []

/-- What the connection has received and parsed agrees with the frames that the client writes. -/
structure Agrees (frames : List Bytes) (c : Connection) (got : Bytes) (parsed : List Bytes) : Prop where
  isPrefix : parsed <+: frames
  read : ¬c.phase.misread
  bytes : c.phase.isOpen → writeFrames maxJsonFrameBytes parsed ++ (c.phase.taken ++ c.unread) = got
  part : c.phase.isOpen → c.phase.taken = [] ∨
    ∃ frame rest, frames = parsed ++ frame :: rest ∧ Part c.phase.taken frame

variable {frames parsed : List Bytes} {c : Connection} {got : Bytes}

theorem Agrees.of_quiet {event : ConnectionEvent} {c' : Connection} (h : Agrees frames c got parsed)
    (q : Quiet c event c') : Agrees frames c' got parsed where
  isPrefix := h.isPrefix
  read := q.read h.read
  bytes hopen := by
    obtain ⟨hopen, htaken⟩ := q.taken hopen
    rw [htaken, q.unread]
    exact h.bytes hopen
  part hopen := by
    obtain ⟨hopen, htaken⟩ := q.taken hopen
    rw [htaken]
    exact h.part hopen

theorem Agrees.arrive (h : Agrees frames c got parsed) (chunk : Bytes) :
    Agrees frames { c with unread := c.unread ++ chunk } (got ++ chunk) parsed where
  isPrefix := h.isPrefix
  read := h.read
  bytes hopen := by
    rw [← h.bytes hopen]
    simp only [List.append_assoc]
  part := h.part

/-- The unread bytes start at the head of the first frame that is not parsed. -/
theorem Agrees.rest (h : Agrees frames c got parsed) (hopen : c.phase.isOpen = true)
    (hgot : got <+: writeFrames maxJsonFrameBytes frames) :
    ∃ rest, frames = parsed ++ rest ∧ c.phase.taken ++ c.unread <+: writeFrames maxJsonFrameBytes rest := by
  obtain ⟨rest, hrest⟩ := h.isPrefix
  refine ⟨rest, hrest.symm, ?_⟩
  rw [← h.bytes hopen, ← hrest, writeFrames_append] at hgot
  exact (List.prefix_append_right_inj _).mp hgot

theorem isOpen_of_reads {phase : Phase} (h : phase.reads = true) : phase.isOpen = true := by
  cases phase with
  | reading | running => rfl
  | stopping | handling | closed => cases h

theorem Agrees.poll (hw : ∀ frame ∈ frames, Writable maxJsonFrameBytes frame) (h : Agrees frames c got parsed)
    (hgot : got <+: writeFrames maxJsonFrameBytes frames) {keep use : Bytes → Phase} (hread : ReadOf c.phase keep use) :
    Agrees frames (c.pollRead c.phase.taken keep use).2 got (parsed ++ (c.pollRead c.phase.taken keep use).1.toList) := by
  have hopen := isOpen_of_reads hread.reads
  obtain ⟨rest, rfl, hin⟩ := h.rest hopen hgot
  have hrest : ∀ frame ∈ rest, Writable maxJsonFrameBytes frame :=
    fun frame hmem => hw frame (List.mem_append_right _ hmem)
  unfold pollRead
  rcases pollFrame_cases c.eof hrest hin with ⟨frame, rest, more, rfl, hwhole, hpoll⟩ | ⟨hpoll, hpart⟩ | hpoll | hpoll
  · rw [hpoll]
    have hfresh := hread.uses frame
    refine ⟨by simp, hfresh.read, fun _ => ?_, fun _ => Or.inl hfresh.taken⟩
    rw [← h.bytes hopen, hwhole, hfresh.taken]
    have hwrite := writeFrame_of_writable (hrest frame List.mem_cons_self)
    simp [writeFrames, hwrite]
  · rw [hpoll]
    obtain ⟨htaken, hmis⟩ := hread.keeps (c.phase.taken ++ c.unread)
    refine ⟨by simp, hmis, fun _ => ?_, fun _ => ?_⟩
    · simp only [Option.toList_none, List.append_nil, htaken]
      exact h.bytes hopen
    · simp only [Option.toList_none, List.append_nil, htaken]
      rcases hpart with hnil | ⟨frame, rest, rfl, hpart⟩
      · exact Or.inl hnil
      · exact Or.inr ⟨frame, rest, rfl, hpart⟩
  · rw [hpoll]
    refine ⟨by simp, fun hreading => ?_, by simp [Phase.isOpen], by simp [Phase.isOpen]⟩
    obtain ⟨_, hphase⟩ := hreading
    cases hphase
  · rw [hpoll]
    refine ⟨by simp, fun hreading => ?_, by simp [Phase.isOpen], by simp [Phase.isOpen]⟩
    obtain ⟨_, hphase⟩ := hreading
    cases hphase

/-- The frames that the loop got from its reads, in order. -/
def parsedFrames (calls : List (Call Connection ConnectionEvent (Option Bytes))) : List Bytes :=
  calls.filterMap (·.output)

/-- The bytes that the connection received. -/
def receivedBytes (calls : List (Call Connection ConnectionEvent (Option Bytes))) : Bytes :=
  calls.flatMap received

theorem agrees_step (parse : ParseRequestFrame) (hw : ∀ frame ∈ frames, Writable maxJsonFrameBytes frame)
    {event : ConnectionEvent} (hkept : c.dropsRead event = false) (h : Agrees frames c got parsed)
    (hgot : got <+: writeFrames maxJsonFrameBytes frames) :
    Agrees frames (step parse c event).2 (got ++ received ((connectionMachine parse).call c event))
      (parsed ++ (step parse c event).1.toList) := by
  rcases step_cases parse hkept with ⟨chunk, rfl, heof, hstep⟩ | ⟨hnone, hquiet⟩ | ⟨sent, keep, use, rfl, hread, hstep⟩
  · rw [hstep]
    simpa [received, heof] using h.arrive chunk
  · have hreceived : received ((connectionMachine parse).call c event) = [] := by
      cases event with
      | arrive chunk => simp [received, hquiet.arrives chunk rfl]
      | _ => rfl
    rw [hnone, hreceived]
    simpa using h.of_quiet hquiet
  · rw [hstep]
    simpa [received] using h.poll hw hgot hread

theorem agrees_run (parse : ParseRequestFrame) (hw : ∀ frame ∈ frames, Writable maxJsonFrameBytes frame)
    (generation : Nat) (events : List ConnectionEvent)
    (hkept : ∀ call ∈ (connectionMachine parse).trace (start generation) events, call.before.dropsRead call.input = false)
    (hgot : receivedBytes ((connectionMachine parse).trace (start generation) events) <+:
      writeFrames maxJsonFrameBytes frames) :
    Agrees frames ((connectionMachine parse).final (start generation) events)
      (receivedBytes ((connectionMachine parse).trace (start generation) events))
      (parsedFrames ((connectionMachine parse).trace (start generation) events)) := by
  refine Machine.inv_history (m := connectionMachine parse)
    (fun c past => receivedBytes past <+: writeFrames maxJsonFrameBytes frames →
      Agrees frames c (receivedBytes past) (parsedFrames past))
    (fun call => call.before.dropsRead call.input = false) ?_ ?_ events hkept hgot
  · intro c event past hinv hok hpast
    have hbefore : receivedBytes past <+: writeFrames maxJsonFrameBytes frames := by
      refine List.IsPrefix.trans ?_ hpast
      simp [receivedBytes]
    have hnext := agrees_step parse hw hok (hinv hbefore) hbefore
    have hframes : parsedFrames (past ++ [(connectionMachine parse).call c event]) =
        parsedFrames past ++ (step parse c event).1.toList := by
      simp only [parsedFrames, List.filterMap_append, Machine.call, connectionMachine]
      cases (step parse c event).1 <;> rfl
    have hbytes : receivedBytes (past ++ [(connectionMachine parse).call c event]) =
        receivedBytes past ++ received ((connectionMachine parse).call c event) := by
      simp [receivedBytes]
    rw [hframes, hbytes]
    exact hnext
  · intro _
    exact ⟨List.nil_prefix, fresh_reading.read, fun _ => rfl, fun _ => Or.inl rfl⟩

/-- What the read has taken is less than the next frame. -/
theorem Agrees.taken_short (h : Agrees frames c got parsed) (hopen : c.phase.isOpen = true) {frame : Bytes}
    {rest : List Bytes} (hrest : frames = parsed ++ frame :: rest) : c.phase.taken.length < (encode frame).length := by
  rcases h.part hopen with hnil | ⟨frame', rest', hrest', hpart⟩
  · rw [hnil, length_encode]
    exact Nat.succ_pos _
  · rw [hrest', List.append_cancel_left_eq, List.cons.injEq] at hrest
    rw [← hrest.1]
    exact hpart.short

/-- With every byte of the client received and none unread, every frame is parsed. -/
theorem Agrees.complete (hw : ∀ frame ∈ frames, Writable maxJsonFrameBytes frame) (h : Agrees frames c got parsed)
    (hopen : c.phase.isOpen = true) (hgot : got = writeFrames maxJsonFrameBytes frames) (hunread : c.unread = []) :
    parsed = frames := by
  obtain ⟨rest, hrest⟩ := h.isPrefix
  cases rest with
  | nil => simpa using hrest
  | cons frame rest =>
    exfalso
    have hbytes := h.bytes hopen
    rw [hgot, ← hrest, writeFrames_append, List.append_cancel_left_eq, hunread, List.append_nil,
      writeFrames_cons (hw frame (hrest ▸ by simp))] at hbytes
    have hshort := h.taken_short hopen hrest.symm
    rw [hbytes, List.length_append] at hshort
    omega

/-- The next poll parses a frame that is there. -/
theorem Agrees.next (parse : ParseRequestFrame) (hw : ∀ frame ∈ frames, Writable maxJsonFrameBytes frame)
    (h : Agrees frames c got parsed) (hreads : c.phase.reads = true) {frame : Bytes}
    (hnext : parsed ++ [frame] <+: frames) (hthere : writeFrames maxJsonFrameBytes (parsed ++ [frame]) <+: got)
    (sent : Bool) : (step parse c (.poll sent)).1 = some frame := by
  obtain ⟨keep, use, -, heq⟩ := poll_reads parse sent hreads
  have hframe : Writable maxJsonFrameBytes frame := hw frame (hnext.subset (by simp))
  rw [← h.bytes (isOpen_of_reads hreads), writeFrames_append, List.prefix_append_right_inj,
    writeFrames_cons hframe] at hthere
  obtain ⟨more, hmore⟩ := hthere
  have hinput : c.phase.taken ++ c.unread = encode frame ++ more := by
    rw [← hmore]
    simp [writeFrames]
  rw [heq, pollRead, pollFrame_whole hframe hinput]

/-- In a run that drops no read with a part of a frame, the connection parses the client's frames in
    order, each once: what it has parsed is a part of them, no length is taken from anywhere but the head
    of a frame, nothing is lost when all bytes have been read, and a frame that has arrived is what the
    next poll parses. -/
theorem frames_parsed_in_order (parse : ParseRequestFrame) (generation : Nat) (frames : List Bytes)
    (hframes : ∀ frame ∈ frames, 1 ≤ frame.length ∧ frame.length ≤ maxJsonFrameBytes)
    (events : List ConnectionEvent)
    (hgot : receivedBytes ((connectionMachine parse).trace (start generation) events) <+:
      writeFrames maxJsonFrameBytes frames)
    (hkept : ∀ call ∈ (connectionMachine parse).trace (start generation) events,
      call.before.dropsRead call.input = false) :
    let c := (connectionMachine parse).final (start generation) events
    let got := receivedBytes ((connectionMachine parse).trace (start generation) events)
    let parsed := parsedFrames ((connectionMachine parse).trace (start generation) events)
    parsed <+: frames ∧ ¬c.phase.misread ∧
    (c.phase.isOpen → writeFrames maxJsonFrameBytes parsed ++ (c.phase.taken ++ c.unread) = got) ∧
    (c.phase.isOpen → got = writeFrames maxJsonFrameBytes frames → c.unread = [] → parsed = frames) ∧
    (∀ frame, c.phase.reads → parsed ++ [frame] <+: frames →
      writeFrames maxJsonFrameBytes (parsed ++ [frame]) <+: got → ∀ sent, (step parse c (.poll sent)).1 = some frame) := by
  intro c got parsed
  have hw : ∀ frame ∈ frames, Writable maxJsonFrameBytes frame := by
    intro frame hmem
    obtain ⟨hpos, hmax⟩ := hframes frame hmem
    exact ⟨hpos, hmax, Nat.lt_of_le_of_lt hmax (by decide)⟩
  have h := agrees_run parse hw generation events hkept hgot
  exact ⟨h.isPrefix, h.read, h.bytes, fun hopen => h.complete hw hopen, fun frame hreads => h.next parse hw hreads⟩

namespace Sample

def ascii (text : String) : Bytes := text.toList.map fun c => UInt8.ofNat c.toNat

def hello : Bytes := ascii "\x7b\"method\":\"hello\",\"params\":\x7b\"protocol_version\":1,\"client_name\":\"a\"\x7d\x7d"

def pollEvents : Bytes :=
  ascii "\x7b\"method\":\"poll_session_events\",\"params\":\x7b\"session_id\":\"s\",\"task_grant_id\":\"g\",\"window_capability\":\"w\",\"after_sequence\":9,\"timeout_ms\":250\x7d\x7d"

def ping : Bytes := ascii "\x7b\"method\":\"ping\",\"params\":\x7b\x7d\x7d"

/-- `parse_request_frame` on these three frames. -/
def parse : ParseRequestFrame := fun frame =>
  if frame = hello then .ok (none, .hello)
  else if frame = pollEvents then .ok (none, .pollSessionEvents)
  else if frame = ping then .ok (none, .discovery)
  else .error (none, "expected value at line 1 column 1")

/-- The client says hello, polls for events and sends a ping, whose length and body arrive apart. -/
def greeting : List ConnectionEvent :=
  [.arrive (encode hello), .poll true, .complete true 0 true, .arrive (encode pollEvents), .poll true,
    .arrive (toBeBytes ping.length), .poll true]

/-- The poll for events is still running at the tick between the two parts of the ping. -/
def events : List ConnectionEvent := greeting ++ [.tick 0 true, .arrive ping, .poll true]

end Sample

theorem frames_parsed_in_order_ping :
    parsedFrames ((connectionMachine Sample.parse).trace (start 0)
      (Sample.greeting ++ [.arrive Sample.ping, .poll true])) <+: [Sample.hello, Sample.pollEvents, Sample.ping] :=
  (frames_parsed_in_order Sample.parse 0 [Sample.hello, Sample.pollEvents, Sample.ping] (by decide +kernel)
    (Sample.greeting ++ [.arrive Sample.ping, .poll true]) (by decide +kernel) (by decide +kernel)).1

/-- The tick drops the four bytes of length, and the body of the ping is read as a length. -/
theorem tick_loses_length :
    receivedBytes ((connectionMachine Sample.parse).trace (start 0) Sample.events) =
      writeFrames maxJsonFrameBytes [Sample.hello, Sample.pollEvents, Sample.ping] ∧
    parsedFrames ((connectionMachine Sample.parse).trace (start 0) Sample.events) = [Sample.hello, Sample.pollEvents] ∧
    ((connectionMachine Sample.parse).final (start 0) Sample.events).phase =
      .closed (.error (.frame (.protocol "frame length 2065853797 exceeds the configured limit"))) := by
  decide +kernel

end Connection
end DccCua
