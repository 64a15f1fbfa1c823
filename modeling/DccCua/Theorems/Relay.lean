import DccCua.Cli.Relay

/-! # One command at a time

The relay writes a command when the one before it has its answer, and the first message that it reads afterwards is the
answer or ends the relay. The grounds of each event lie in the events before it, so that no order of the steps matters. -/

namespace DccCua

open Runs

namespace RelayCommand

/-- The answer is one that the relay gives without asking the extension. -/
def Refuses (c : RelayCommand) (response : Json) : Prop :=
  response = c.notForeground ∨ response = c.expired ∨ response = c.owned

/-- The message carries the request id of the command. -/
def Answers (c : RelayCommand) (message : Json) : Prop := (message.get "request_id").same c.requestId = true

end RelayCommand

/-- What ends the relay: a timeout, the end of the stream, a message with another request id than that of the command
    before it, or one that follows no command. -/
inductive RelayStopped : List RelayEvent → Prop
  | timeout {earlier later : List RelayEvent} {c : RelayCommand} : RelayStopped (earlier ++ .timedOut c :: later)
  | endOfStream {earlier later : List RelayEvent} : RelayStopped (earlier ++ .read none :: later)
  | mismatch {earlier later : List RelayEvent} {c : RelayCommand} {now : Nat} {message : Json} (h : ¬c.Answers message) :
    RelayStopped (earlier ++ .wrote c now :: .read (some message) :: later)
  | unsolicited {earlier later : List RelayEvent} {message : Json} (h : ∀ before c now, earlier ≠ before ++ [.wrote c now]) :
    RelayStopped (earlier ++ .read (some message) :: later)

/-- What holds of everything that a relay does. -/
structure RelayLaw (history : List RelayEvent) : Prop where
  /-- Between two commands stand a message and the answer to the first of them. -/
  oneAtATime : ∀ earlier c now between d at' later, history = earlier ++ .wrote c now :: (between ++ .wrote d at' :: later) →
    ∃ message rest, between = .read (some message) :: .replied c message :: rest
  inTime : ∀ c now, .wrote c now ∈ history → now < c.deadline
  oneOwner : ∀ c now d at', .wrote c now ∈ history → .wrote d at' ∈ history → c.owner = d.owner
  replies : ∀ earlier c response later, history = earlier ++ .replied c response :: later →
    (c.Refuses response ∧ ∀ now, .wrote c now ∉ history) ∨
      ∃ before now, earlier = before ++ [.wrote c now, .read (some response)] ∧ c.Answers response
  /-- Nothing is written, read or answered any more. -/
  stops : ∀ earlier later, history = earlier ++ later → RelayStopped earlier → later = []

namespace Relay

/-- The event does not end the relay. -/
def Sound (earlier : List RelayEvent) : RelayEvent → Prop
  | .timedOut _ | .read none => False
  | .read (some message) => ∃ before c now, earlier = before ++ [.wrote c now] ∧ c.Answers message
  | _ => True

theorem not_stopped {history : List RelayEvent} (h : Grounded Sound history) : ¬RelayStopped history := by
  intro hstopped
  cases hstopped with
  | timeout => exact h _ _ _ rfl
  | endOfStream => exact h _ _ _ rfl
  | @mismatch earlier later c now message hother =>
    obtain ⟨before, d, at', hsplit, hanswers⟩ := h (earlier ++ [.wrote c now]) (.read (some message)) later (by simp)
    obtain ⟨-, hlast⟩ := List.append_inj' hsplit rfl
    cases hlast
    exact hother hanswers
  | unsolicited hnone =>
    obtain ⟨before, c, now, hsplit, -⟩ := h _ _ _ rfl
    exact hnone before c now hsplit

/-- Each command that was written has its answer. -/
def AllAnswered (history : List RelayEvent) : Prop :=
  ∀ earlier c now later, history = earlier ++ .wrote c now :: later →
    ∃ message rest, later = .read (some message) :: .replied c message :: rest

theorem allAnswered_nil : AllAnswered [] := by
  intro earlier c now later h
  simp at h

theorem AllAnswered.append {history news : List RelayEvent} (h : AllAnswered history) (hnews : AllAnswered news) :
    AllAnswered (history ++ news) := by
  intro earlier c now later hsplit
  rcases split_append hsplit with ⟨rest, hhistory, rfl⟩ | ⟨before, -, hlater⟩
  · obtain ⟨message, more, rfl⟩ := h _ _ _ _ hhistory
    exact ⟨message, more ++ news, rfl⟩
  · exact hnews _ _ _ _ hlater

theorem allAnswered_refusal (c : RelayCommand) (response : Json) : AllAnswered [.replied c response] := by
  intro earlier d now later h
  rcases List.append_eq_cons_iff.mp h.symm with ⟨-, h⟩ | ⟨rest, -, h⟩ <;> simp at h

theorem allAnswered_exchange (c : RelayCommand) (now : Nat) (message : Json) :
    AllAnswered [.wrote c now, .read (some message), .replied c message] := by
  intro earlier d at' later h
  match earlier, h with
  | [], h =>
    simp only [List.nil_append, List.cons.injEq, RelayEvent.wrote.injEq] at h
    obtain ⟨⟨rfl, rfl⟩, rfl⟩ := h
    exact ⟨message, [], rfl⟩
  | [_], h => simp at h
  | [_, _], h => simp at h
  | _ :: _ :: _ :: _, h => simp at h

end Relay

/-- The command that was taken from the worker. -/
def RelayEvent.command : RelayEvent → Option RelayCommand
  | .wrote c _ | .replied c _ => some c
  | _ => none

namespace Relay

/-- What an event rests on. -/
def Grounds (earlier : List RelayEvent) (e : RelayEvent) : Prop :=
  Grounded Sound earlier ∧
    match e with
    | .wrote c now =>
      now < c.deadline ∧ (∀ d at', .wrote d at' ∈ earlier → d.owner = c.owner) ∧ AllAnswered earlier ∧
        ∀ e ∈ earlier, e.command ≠ some c
    | .replied c response =>
      (c.Refuses response ∧ ∀ now, .wrote c now ∉ earlier) ∨
        ∃ before now, earlier = before ++ [.wrote c now, .read (some response)] ∧ c.Answers response
    | _ => True

/-- The command that waits for its answer. -/
def Pending (history : List RelayEvent) : RelayPhase → Prop
  | .selecting => AllAnswered history
  | .writing c | .awaiting c => ∃ before now, history = before ++ [.wrote c now] ∧ AllAnswered before
  | .ended _ => True

/-- The commands that are queued come after those that were taken. -/
structure Queued (s : Relay) (history : List RelayEvent) : Prop where
  taken : ∀ e ∈ history, ∀ c, e.command = some c → c.reply < s.sent ∧ ∀ d ∈ s.commands, c.reply < d.reply
  sorted : s.commands.Pairwise fun c d => c.reply < d.reply
  sent : ∀ d ∈ s.commands, d.reply < s.sent

structure Inv (s : Relay) (history : List RelayEvent) : Prop where
  grounded : Grounded Grounds history
  sound : s.isEnded = false → Grounded Sound history
  pending : Pending history s.phase
  owner : ∀ c now, .wrote c now ∈ history → s.pairedOwner = some c.owner
  queued : Queued s history

theorem inv_start (browserWindow : Nat) : Inv (start browserWindow) [] where
  grounded := grounded_nil
  sound _ := grounded_nil
  pending := allAnswered_nil
  owner c now h := nomatch h
  queued := ⟨fun e h => (nomatch h), List.Pairwise.nil, fun d h => (nomatch h)⟩

variable {s t : Relay} {history : List RelayEvent} {c : RelayCommand}

/-- The invariant does not see the messages that wait, nor whether a task was selected. -/
theorem Inv.congr (h : Inv s history) (hcommands : t.commands = s.commands) (hsent : t.sent = s.sent)
    (howner : t.pairedOwner = s.pairedOwner) (hphase : t.phase = s.phase) : Inv t history where
  grounded := h.grounded
  sound hended := h.sound (by simpa only [isEnded, hphase] using hended)
  pending := hphase ▸ h.pending
  owner := howner ▸ h.owner
  queued := by
    refine ⟨?_, ?_, ?_⟩
    · rw [hcommands, hsent]
      exact h.queued.taken
    · rw [hcommands]
      exact h.queued.sorted
    · rw [hcommands, hsent]
      exact h.queued.sent

/-- The relay ends without doing anything. -/
theorem Inv.ends (h : Inv s history) (result : Except String Unit) : Inv { s with phase := .ended result } history where
  grounded := h.grounded
  sound hended := nomatch hended
  pending := trivial
  owner := h.owner
  queued := ⟨h.queued.taken, h.queued.sorted, h.queued.sent⟩

/-- The relay ends with an event that is about no command. -/
theorem Inv.endsWith (h : Inv s history) (hrunning : s.isEnded = false) {e : RelayEvent} (hcommand : e.command = none)
    (result : Except String Unit) : Inv { s with phase := .ended result } (history ++ [e]) := by
  have hnone : ∀ f ∈ history ++ [e], ∀ c, f.command = some c → f ∈ history := by
    intro f hf c hc
    rcases List.mem_append.mp hf with hf | hf
    · exact hf
    · rw [List.mem_singleton.mp hf, hcommand] at hc
      cases hc
  refine ⟨h.grounded.concat ⟨h.sound hrunning, ?_⟩, fun hended => (nomatch hended), trivial, ?_, ?_, ?_, ?_⟩
  · cases e with
    | wrote c now => cases hcommand
    | replied c response => cases hcommand
    | read message => trivial
    | timedOut c => trivial
  · exact fun c now hmem => h.owner c now (hnone _ hmem c rfl)
  · exact fun f hf c hc => h.queued.taken f (hnone f hf c hc) c hc
  · exact h.queued.sorted
  · exact h.queued.sent

theorem recvNative_eq {message : Option Json} (h : s.recvNative = some (message, t)) :
    t.commands = s.commands ∧ t.sent = s.sent ∧ t.pairedOwner = s.pairedOwner ∧ t.phase = s.phase := by
  unfold recvNative at h
  split at h
  · cases h
    exact ⟨rfl, rfl, rfl, rfl⟩
  · split at h <;> cases h
    exact ⟨rfl, rfl, rfl, rfl⟩

theorem Inv.recvNative {message : Option Json} (h : Inv s history) (hrecv : s.recvNative = some (message, t)) :
    Inv t history := by
  obtain ⟨hcommands, hsent, howner, hphase⟩ := recvNative_eq hrecv
  exact h.congr hcommands hsent howner hphase

/-- The first command is taken from the queue. -/
theorem Inv.take (h : Inv s history) {commands : List RelayCommand} (hcommands : s.commands = c :: commands) :
    Inv { s with commands := commands } history ∧ (∀ e ∈ history, e.command ≠ some c) ∧ c.reply < s.sent ∧
      ∀ d ∈ commands, c.reply < d.reply := by
  obtain ⟨htaken, hsorted, hsent⟩ := h.queued
  rw [hcommands] at htaken hsorted hsent
  rw [List.pairwise_cons] at hsorted
  refine ⟨⟨h.grounded, h.sound, h.pending, h.owner, ?_⟩, ?_, hsent c List.mem_cons_self, hsorted.1⟩
  · refine ⟨fun e he d hd => ?_, hsorted.2, fun d hd => hsent d (List.mem_cons_of_mem _ hd)⟩
    exact ⟨(htaken e he d hd).1, fun d' hd' => (htaken e he d hd).2 d' (List.mem_cons_of_mem _ hd')⟩
  · intro e he heq
    exact Nat.lt_irrefl _ ((htaken e he c heq).2 c List.mem_cons_self)

/-- A refusal of the command that was just taken. -/
theorem Inv.refuse (h : Inv s history) (hphase : s.phase = .selecting) (hfresh : ∀ e ∈ history, e.command ≠ some c)
    (hsent : c.reply < s.sent) (hbefore : ∀ d ∈ s.commands, c.reply < d.reply) {response : Json}
    (hrefuses : c.Refuses response) : Inv s (history ++ [.replied c response]) := by
  have hrunning : s.isEnded = false := by rw [isEnded, hphase]
  have hpending : AllAnswered history := by simpa only [hphase, Pending] using h.pending
  refine ⟨h.grounded.concat ⟨h.sound hrunning, Or.inl ⟨hrefuses, ?_⟩⟩, fun _ => (h.sound hrunning).concat trivial, ?_, ?_,
    ?_, h.queued.sorted, h.queued.sent⟩
  · exact fun now hmem => hfresh _ hmem rfl
  · rw [hphase]
    exact hpending.append (allAnswered_refusal c response)
  · intro d now hmem
    rcases List.mem_append.mp hmem with hmem | hmem
    · exact h.owner d now hmem
    · cases List.mem_singleton.mp hmem
  · intro e he d hd
    rcases List.mem_append.mp he with he | he
    · exact h.queued.taken e he d hd
    · obtain rfl := List.mem_singleton.mp he
      cases hd
      exact ⟨hsent, hbefore⟩

theorem inv_dispatch (h : Inv s history) (hphase : s.phase = .selecting) (hfresh : ∀ e ∈ history, e.command ≠ some c)
    (hsent : c.reply < s.sent) (hbefore : ∀ d ∈ s.commands, c.reply < d.reply) (now : Option Nat) :
    Inv (s.dispatch c now).2 (history ++ (s.dispatch c now).1) := by
  have hrunning : s.isEnded = false := by rw [isEnded, hphase]
  have hpending : AllAnswered history := by simpa only [hphase, Pending] using h.pending
  unfold dispatch
  cases now with
  | none =>
    simp only [List.append_nil]
    exact h.ends _
  | some now =>
    dsimp only
    split
    · exact h.refuse hphase hfresh hsent hbefore (Or.inr (Or.inl rfl))
    rename_i hdeadline
    split
    · exact h.refuse hphase hfresh hsent hbefore (Or.inr (Or.inr rfl))
    rename_i howned
    have howner : ∀ d at', .wrote d at' ∈ history → d.owner = c.owner := by
      intro d at' hmem
      rw [h.owner d at' hmem] at howned
      simpa using howned
    refine ⟨h.grounded.concat ⟨h.sound hrunning, Nat.lt_of_not_le hdeadline, howner, hpending, hfresh⟩,
      fun _ => (h.sound hrunning).concat trivial, ⟨history, now, rfl, hpending⟩, ?_, ?_, h.queued.sorted, h.queued.sent⟩
    · intro d at' hmem
      rcases List.mem_append.mp hmem with hmem | hmem
      · rw [h.owner d at' hmem]
        rfl
      · cases List.mem_singleton.mp hmem
        cases hpaired : s.pairedOwner with
        | none => rfl
        | some owner => simpa [hpaired] using howned
    · intro e he d hd
      rcases List.mem_append.mp he with he | he
      · exact h.queued.taken e he d hd
      · obtain rfl := List.mem_singleton.mp he
        cases hd
        exact ⟨hsent, hbefore⟩

theorem inv_takeCommand (h : Inv s history) (hphase : s.phase = .selecting) (window now : Option Nat) :
    Inv (s.takeCommand window now).2 (history ++ (s.takeCommand window now).1) := by
  unfold takeCommand
  split
  · simpa using h
  rename_i c commands hcommands
  obtain ⟨htake, hfresh, hsent, hbefore⟩ := h.take hcommands
  split
  · exact htake.refuse hphase hfresh hsent hbefore (Or.inl rfl)
  · exact inv_dispatch htake hphase hfresh hsent hbefore now

theorem inv_takeNative (h : Inv s history) (hphase : s.phase = .selecting) :
    Inv s.takeNative.2 (history ++ s.takeNative.1) := by
  have hrunning : s.isEnded = false := by rw [isEnded, hphase]
  unfold takeNative
  split
  · simpa using h
  · rename_i t hrecv
    have ht : t.isEnded = false := by rw [isEnded, (recvNative_eq hrecv).2.2.2, hphase]
    exact (h.recvNative hrecv).endsWith ht rfl _
  · rename_i message t hrecv
    have ht : t.isEnded = false := by rw [isEnded, (recvNative_eq hrecv).2.2.2, hphase]
    exact (h.recvNative hrecv).endsWith ht rfl _

theorem inv_writeEnds (h : Inv s history) (hphase : s.phase = .writing c) (outcome : WriteOutcome) :
    Inv (s.writeEnds c outcome).2 (history ++ (s.writeEnds c outcome).1) := by
  have hrunning : s.isEnded = false := by rw [isEnded, hphase]
  cases outcome with
  | written =>
    simp only [writeEnds, List.append_nil]
    have hpending := h.pending
    rw [hphase] at hpending
    exact ⟨h.grounded, fun _ => h.sound hrunning, hpending, h.owner, h.queued.taken, h.queued.sorted, h.queued.sent⟩
  | timedOut => exact h.endsWith hrunning rfl _
  | failed error =>
    simp only [writeEnds, List.append_nil]
    exact h.ends _

/-- The command that was written last is answered by the message that is read next. -/
theorem Inv.answer (h : Inv s history) (hphase : s.phase = .awaiting c) {message : Json} (hanswers : c.Answers message) :
    Inv { s with phase := .selecting } (history ++ [.read (some message), .replied c message]) := by
  have hrunning : s.isEnded = false := by rw [isEnded, hphase]
  have hpending := h.pending
  rw [hphase] at hpending
  obtain ⟨before, now, rfl, hanswered⟩ := hpending
  have hsound : Grounded Sound (before ++ [.wrote c now] ++ [.read (some message)]) :=
    (h.sound hrunning).concat ⟨before, c, now, rfl, hanswers⟩
  have hgrounded : Grounded Grounds (before ++ [.wrote c now] ++ [.read (some message)]) :=
    h.grounded.concat ⟨h.sound hrunning, trivial⟩
  have hreplied : Grounds (before ++ [.wrote c now] ++ [.read (some message)]) (.replied c message) :=
    ⟨hsound, Or.inr ⟨before, now, by simp, hanswers⟩⟩
  have hsplit : before ++ [.wrote c now] ++ [.read (some message), .replied c message] =
      before ++ [.wrote c now] ++ [.read (some message)] ++ [.replied c message] := by simp
  have hnews : ∀ e ∈ before ++ [.wrote c now] ++ [.read (some message), .replied c message], ∀ d,
      e.command = some d → ∃ f ∈ before ++ [.wrote c now], f.command = some d ∧ ∀ n, e = .wrote d n → f = e := by
    intro e he d hd
    rcases List.mem_append.mp he with he | he
    · exact ⟨e, he, hd, fun _ _ => rfl⟩
    · rcases List.mem_cons.mp he with rfl | he
      · cases hd
      · obtain rfl := List.mem_singleton.mp he
        exact ⟨.wrote c now, by simp, hd, fun _ heq => nomatch heq⟩
  refine ⟨?_, fun _ => ?_, ?_, ?_, ?_, h.queued.sorted, h.queued.sent⟩
  · rw [hsplit]
    exact hgrounded.concat hreplied
  · rw [hsplit]
    exact hsound.concat trivial
  · have hall := hanswered.append (allAnswered_exchange c now message)
    rw [List.append_assoc]
    exact hall
  · intro d n hmem
    obtain ⟨f, hf, -, heq⟩ := hnews _ hmem d rfl
    exact h.owner d n (heq n rfl ▸ hf)
  · intro e he d hd
    obtain ⟨f, hf, hfd, -⟩ := hnews e he d hd
    exact h.queued.taken f hf d hfd

theorem inv_response (h : Inv s history) (hphase : s.phase = .awaiting c) :
    Inv (s.response c).2 (history ++ (s.response c).1) := by
  unfold response
  split
  · simpa using h
  · rename_i t hrecv
    have ht : t.isEnded = false := by rw [isEnded, (recvNative_eq hrecv).2.2.2, hphase]
    exact (h.recvNative hrecv).endsWith ht rfl _
  · rename_i message t hrecv
    have hawaiting : t.phase = .awaiting c := (recvNative_eq hrecv).2.2.2.trans hphase
    split
    · rename_i hsame
      exact (h.recvNative hrecv).answer hawaiting hsame
    · have ht : t.isEnded = false := by rw [isEnded, hawaiting]
      exact (h.recvNative hrecv).endsWith ht rfl _

theorem inv_workerSends (h : Inv s history) (owner : String) (deadline : Nat) (body : Json) :
    Inv (s.workerSends owner deadline body) history := by
  unfold workerSends
  split
  · refine ⟨h.grounded, h.sound, h.pending, h.owner, fun e he c hc => ?_, ?_, fun d hd => ?_⟩
    · obtain ⟨hsent, hbefore⟩ := h.queued.taken e he c hc
      refine ⟨Nat.lt_succ_of_lt hsent, fun d hd => ?_⟩
      rcases List.mem_append.mp hd with hd | hd
      · exact hbefore d hd
      · obtain rfl := List.mem_singleton.mp hd
        exact hsent
    · refine List.pairwise_append.mpr ⟨h.queued.sorted, List.pairwise_singleton _ _, fun d hd d' hd' => ?_⟩
      obtain rfl := List.mem_singleton.mp hd'
      exact h.queued.sent d hd
    · rcases List.mem_append.mp hd with hd | hd
      · exact Nat.lt_succ_of_lt (h.queued.sent d hd)
      · obtain rfl := List.mem_singleton.mp hd
        exact Nat.lt_succ_self _
  · exact h

theorem inv_discover (h : Inv s history) (endpoints : Except String Nat) : Inv (s.discover endpoints) history := by
  unfold discover
  split
  · exact h
  cases endpoints with
  | error error => exact h.ends _
  | ok count =>
    dsimp only
    split
    · exact h.ends _
    · exact h.congr rfl rfl rfl rfl

theorem inv_step (h : Inv s history) (input : RelayInput) : Inv (s.step input).2 (history ++ (s.step input).1) := by
  unfold step
  split
  case h_1 message =>
    simp only [List.append_nil, readerReads]
    split
    · exact h.congr rfl rfl rfl rfl
    · exact h
  case h_2 owner deadline body =>
    simp only [List.append_nil]
    exact inv_workerSends h owner deadline body
  case h_3 endpoints hphase =>
    simp only [List.append_nil]
    exact inv_discover h endpoints
  case h_4 =>
    simp only [List.append_nil]
    split
    · exact h.ends _
    · exact h
  case h_5 hphase => exact inv_takeNative h hphase
  case h_6 window now hphase => exact inv_takeCommand h hphase window now
  case h_7 outcome c hphase => exact inv_writeEnds h hphase outcome
  case h_8 c hphase => exact inv_response h hphase
  case h_9 c hphase => exact h.endsWith (by rw [isEnded, hphase]) rfl _
  case h_10 => simpa using h

theorem inv_run (browserWindow : Nat) (inputs : List RelayInput) :
    Inv (relayMachine.final (start browserWindow) inputs) (relayEvents (relayMachine.trace (start browserWindow) inputs)) := by
  refine Machine.inv_history (fun s calls => Inv s (relayEvents calls)) (fun _ => True) (fun s input past h _ => ?_)
    (inv_start browserWindow) inputs fun _ _ => trivial
  have hstep := inv_step h input
  rw [relayEvents, List.flatMap_append, List.flatMap_singleton]
  exact hstep

end Relay

/-- In every run, whatever the order of the steps. -/
theorem relay_serializes (browserWindow : Nat) (inputs : List RelayInput) :
    RelayLaw (relayEvents (relayMachine.trace (Relay.start browserWindow) inputs)) := by
  have h := Relay.inv_run browserWindow inputs
  generalize relayEvents (relayMachine.trace (Relay.start browserWindow) inputs) = history at h ⊢
  have hground := h.grounded
  refine ⟨?_, ?_, ?_, ?_, ?_⟩
  · intro earlier c now between d at' later hsplit
    obtain ⟨-, -, -, hanswered, -⟩ := hground (earlier ++ .wrote c now :: between) (.wrote d at') later (by simp [hsplit])
    exact hanswered earlier c now between rfl
  · intro c now hmem
    obtain ⟨earlier, later, hsplit⟩ := List.append_of_mem hmem
    exact (hground _ _ _ hsplit).2.1
  · intro c now d at' hc hd
    have howner := h.owner c now hc
    rw [h.owner d at' hd] at howner
    exact (Option.some.inj howner).symm
  · intro earlier c response later hsplit
    rcases (hground _ _ _ hsplit).2 with ⟨hrefuses, hbefore⟩ | hanswer
    · refine Or.inl ⟨hrefuses, fun now hmem => ?_⟩
      rw [hsplit] at hmem
      rcases List.mem_append.mp hmem with hmem | hmem
      · exact hbefore now hmem
      · rcases List.mem_cons.mp hmem with hmem | hmem
        · cases hmem
        -- A command that was refused is not taken again.
        obtain ⟨between, rest, rfl⟩ := List.append_of_mem hmem
        obtain ⟨-, -, -, -, hfresh⟩ :=
          hground (earlier ++ .replied c response :: between) (.wrote c now) rest (by simp [hsplit])
        exact hfresh (.replied c response) (by simp) rfl
    · exact Or.inr hanswer
  · intro earlier later hsplit hstopped
    cases later with
    | nil => rfl
    | cons e later => exact absurd hstopped (Relay.not_stopped (hground _ _ _ hsplit).1)

end DccCua
