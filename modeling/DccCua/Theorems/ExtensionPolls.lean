import DccCua.Host.ExtensionPolls

/-! # Providers that poll without a break

A provider is stale when its last poll has started long enough ago, and a poll may itself last longer than that. A
provider that always polls with one timeout is never pruned exactly when the timeout is shorter than the stale limit. -/

namespace DccCua
namespace BrowserExtension

open Runs

namespace ExtensionPolls

/-- The provider `id` polls with `timeoutMs` and starts the next poll as soon as the previous one returns: while it is
    registered time passes only in one of its polls, and not past the timeout of that poll. -/
def PollsOn (id : String) (timeoutMs : Nat) (c : Call ExtensionPolls PollStep (List String)) : Prop :=
  (∀ nanos, c.input = .advance nanos → id ∈ c.before.ids →
    ∃ poll ∈ c.before.polls, poll.providerId = id ∧ c.before.now + nanos ≤ poll.since + poll.timeoutMs * nanosPerMs) ∧
  ∀ secret other, c.input = .nextCommand id secret other → c.before.authorized id secret = true → other = timeoutMs

/-- A provider that polls on with `timeoutMs` is never pruned. -/
def NeverPruned (timeoutMs : Nat) : Prop :=
  ∀ (now : Nat) (id : String) (inputs : List PollStep),
    (∀ c ∈ extensionPollMachine.trace (start now) inputs, PollsOn id timeoutMs c) →
      ∀ c ∈ extensionPollMachine.trace (start now) inputs, id ∉ c.output

variable {id : String} {timeoutMs : Nat} {s : ExtensionPolls}

structure Inv (id : String) (timeoutMs : Nat) (s : ExtensionPolls) : Prop where
  /-- The provider was seen when its last poll started, or later. -/
  seen : ∀ poll ∈ s.polls, poll.providerId = id → poll.since ≤ s.lastSeen id ∧ poll.timeoutMs = timeoutMs
  recent : id ∈ s.ids → s.now ≤ s.lastSeen id + timeoutMs * nanosPerMs
  drawn : id ∈ s.ids → id ∈ s.drawn
  /-- No prune looks at an id before it is drawn, nor finds the provider stale while it is registered. -/
  looked : ∀ prune ∈ s.prunes, (id ∈ prune.unchecked ∨ id ∈ prune.stale → id ∈ s.drawn) ∧ (id ∈ s.ids → id ∉ prune.stale)

theorem inv_start (now : Nat) : Inv id timeoutMs (start now) where
  seen poll hmem := by cases hmem
  recent hmem := by cases hmem
  drawn hmem := by cases hmem
  looked prune hmem := by cases hmem

theorem mem_ids_of_authorized {secret : String} (h : s.authorized id secret = true) : id ∈ s.ids :=
  List.mem_map.mpr ⟨(id, secret), List.contains_iff_mem.mp h, rfl⟩

/-- A provider that is seen. -/
theorem Inv.see (h : Inv id timeoutMs s) (hnow : ∀ poll ∈ s.polls, poll.providerId = id → poll.since ≤ s.now)
    (providerId : String) : Inv id timeoutMs (s.see providerId) := by
  have hlater : ∀ (hid : id = providerId), (s.see providerId).lastSeen id = s.now := fun hid => if_pos hid
  have hsame : ∀ (hid : ¬id = providerId), (s.see providerId).lastSeen id = s.lastSeen id := fun hid => if_neg hid
  refine { h with seen := fun poll hmem heq => ?_, recent := fun hmem => ?_ }
  · by_cases hid : id = providerId
    · exact ⟨(hlater hid).symm ▸ hnow poll hmem heq, (h.seen poll hmem heq).2⟩
    · exact ⟨(hsame hid).symm ▸ (h.seen poll hmem heq).1, (h.seen poll hmem heq).2⟩
  · by_cases hid : id = providerId
    · rw [hlater hid]
      exact Nat.le_add_right _ _
    · rw [hsame hid]
      exact h.recent hmem

/-- No poll has started in the future. -/
def Past (s : ExtensionPolls) : Prop := (∀ poll ∈ s.polls, poll.since ≤ s.now)

theorem past_step (h : Past s) (input : PollStep) : Past (extensionPollMachine.step s input).2 := by
  cases input with
  | advance nanos => exact fun poll hmem => Nat.le_trans (h poll hmem) (Nat.le_add_right _ _)
  | register providerId secret =>
    simp only [extensionPollMachine, register]
    split <;> exact h
  | unregister providerId secret =>
    simp only [extensionPollMachine, unregister]
    split <;> exact h
  | nextCommand providerId secret timeoutMs =>
    simp only [extensionPollMachine, nextCommand]
    split
    · exact h
    split
    · intro poll hmem
      rcases List.mem_cons.mp hmem with rfl | hmem
      · exact Nat.le_refl _
      · exact h poll hmem
    · exact h
  | pollReturns poll command =>
    simp only [extensionPollMachine, pollReturns]
    split
    · exact fun other hmem => h other (List.mem_of_mem_erase hmem)
    · exact h
  | complete providerId secret =>
    simp only [extensionPollMachine, complete]
    split <;> exact h
  | startPrune => exact h
  | checkProvider prune providerId =>
    simp only [extensionPollMachine, checkProvider]
    split
    · exact h
    · split <;> exact h
  | finishPrune prune =>
    simp only [extensionPollMachine, finishPrune]
    split <;> exact h

section Steps
variable (h : Inv id timeoutMs s) (hpast : Past s)
include h hpast

omit hpast in
theorem inv_advance (nanos : Nat) (ok : PollsOn id timeoutMs (extensionPollMachine.call s (.advance nanos))) :
    Inv id timeoutMs { s with now := s.now + nanos } := by
  refine { h with recent := fun hmem => ?_ }
  obtain ⟨poll, hpoll, heq, hbound⟩ := ok.1 nanos rfl hmem
  obtain ⟨hsince, htimeout⟩ := h.seen poll hpoll heq
  rw [htimeout] at hbound
  exact Nat.le_trans hbound (Nat.add_le_add_right hsince _)

theorem inv_register (providerId secret : String) : Inv id timeoutMs (s.register providerId secret) := by
  unfold register
  split
  · exact h
  rename_i hnew
  have hsee := h.see (fun poll hmem _ => hpast poll hmem) providerId
  have hundrawn : providerId ∉ s.drawn := fun hmem => hnew (List.contains_iff_mem.mpr hmem)
  refine ⟨hsee.seen, fun hmem => ?_, fun hmem => ?_, fun prune hprune => ⟨fun hlooked => ?_, fun hmem hstale => ?_⟩⟩
  · rcases List.mem_cons.mp hmem with rfl | hmem
    · show s.now ≤ (s.see id).lastSeen id + timeoutMs * nanosPerMs
      rw [show (s.see id).lastSeen id = s.now from if_pos rfl]
      exact Nat.le_add_right _ _
    · exact hsee.recent hmem
  · rcases List.mem_cons.mp hmem with rfl | hmem
    · exact List.mem_cons_self
    · exact List.mem_cons_of_mem _ (h.drawn hmem)
  · exact List.mem_cons_of_mem _ ((h.looked prune hprune).1 hlooked)
  · rcases List.mem_cons.mp hmem with rfl | hmem
    · exact hundrawn ((h.looked prune hprune).1 (Or.inr hstale))
    · exact (h.looked prune hprune).2 hmem hstale

omit hpast in
/-- Providers that leave. -/
theorem Inv.remove (p : String × String → Bool) : Inv id timeoutMs { s with providers := s.providers.filter p } := by
  have hleft : id ∈ (s.providers.filter p).map (·.1) → id ∈ s.ids := fun hmem =>
    (List.filter_sublist.map _).subset hmem
  exact { h with
    recent := fun hmem => h.recent (hleft hmem)
    drawn := fun hmem => h.drawn (hleft hmem)
    looked := fun prune hprune => ⟨(h.looked prune hprune).1, fun hmem => (h.looked prune hprune).2 (hleft hmem)⟩ }

theorem inv_nextCommand (providerId secret : String) (other : Nat)
    (ok : PollsOn id timeoutMs (extensionPollMachine.call s (.nextCommand providerId secret other))) :
    Inv id timeoutMs (s.nextCommand providerId secret other) := by
  unfold nextCommand
  split
  · exact h
  split
  · rename_i hauthorized
    have hsee := h.see (fun poll hmem _ => hpast poll hmem) providerId
    refine { hsee with seen := fun poll hmem heq => ?_ }
    rcases List.mem_cons.mp hmem with rfl | hmem
    · obtain rfl : providerId = id := heq
      exact ⟨Nat.le_of_eq (if_pos rfl).symm, ok.2 secret other rfl hauthorized⟩
    · exact hsee.seen poll hmem heq
  · exact h

omit hpast in
theorem inv_pollReturns (poll : WaitingPoll) (command : Bool) : Inv id timeoutMs (s.pollReturns poll command) := by
  unfold pollReturns
  split
  · exact { h with seen := fun other hmem => h.seen other (List.mem_of_mem_erase hmem) }
  · exact h

theorem inv_complete (providerId secret : String) : Inv id timeoutMs (s.complete providerId secret) := by
  unfold complete
  split
  · exact h.see (fun poll hmem _ => hpast poll hmem) providerId
  · exact h

omit hpast in
theorem inv_startPrune : Inv id timeoutMs s.startPrune := by
  refine { h with looked := fun prune hprune => ?_ }
  rcases List.mem_append.mp hprune with hold | hnew
  · exact h.looked prune hold
  · obtain rfl := List.mem_singleton.mp hnew
    exact ⟨fun hlooked => h.drawn (hlooked.resolve_right List.not_mem_nil), fun _ => List.not_mem_nil⟩

omit hpast in
/-- The provider is not found stale. -/
theorem inv_checkProvider (hlimit : timeoutMs < 15000) (prune : Nat) (providerId : String) :
    Inv id timeoutMs (s.checkProvider prune providerId) := by
  unfold checkProvider
  split
  · exact h
  rename_i run hrun
  split
  · rename_i hunchecked
    obtain ⟨hdrawn, hfresh⟩ := h.looked run (List.mem_of_getElem? hrun)
    refine { h with looked := fun other hother => ?_ }
    rcases List.mem_or_eq_of_mem_set hother with hold | rfl
    · exact h.looked other hold
    · refine ⟨fun hlooked => ?_, fun hmem => ?_⟩
      · rcases hlooked with hleft | hstale
        · exact hdrawn (Or.inl (List.mem_of_mem_erase hleft))
        · dsimp only at hstale
          split at hstale
          · rcases List.mem_cons.mp hstale with rfl | hstale
            · exact hdrawn (Or.inl (List.contains_iff_mem.mp hunchecked))
            · exact hdrawn (Or.inr hstale)
          · exact hdrawn (Or.inr hstale)
      · dsimp only
        split
        · rename_i helapsed
          intro hstale
          rcases List.mem_cons.mp hstale with rfl | hstale
          · have hrecent := h.recent hmem
            unfold providerStaleAfter nanosPerMs at helapsed
            unfold nanosPerMs at hrecent
            omega
          · exact hfresh hmem hstale
        · exact hfresh hmem
  · exact h

omit hpast in
theorem inv_finishPrune (prune : Nat) : Inv id timeoutMs (s.finishPrune prune).2 ∧ id ∉ (s.finishPrune prune).1 := by
  unfold finishPrune
  split
  · rename_i stale hrun
    obtain ⟨-, hfresh⟩ := h.looked ⟨[], stale⟩ (List.mem_of_getElem? hrun)
    refine ⟨?_, fun hmem => ?_⟩
    · have hremoved := h.remove (!stale.contains ·.1)
      exact { hremoved with looked := fun other hother => hremoved.looked other (List.mem_of_mem_eraseIdx hother) }
    · obtain ⟨hregistered, hstale⟩ := List.mem_filter.mp hmem
      exact hfresh hregistered (List.contains_iff_mem.mp hstale)
  · exact ⟨h, List.not_mem_nil⟩

end Steps

theorem inv_step (hlimit : timeoutMs < 15000) (s : ExtensionPolls) (input : PollStep) (h : Inv id timeoutMs s ∧ Past s)
    (ok : PollsOn id timeoutMs (extensionPollMachine.call s input)) :
    (Inv id timeoutMs (extensionPollMachine.step s input).2 ∧ Past (extensionPollMachine.step s input).2) ∧
      id ∉ (extensionPollMachine.step s input).1 := by
  obtain ⟨hinv, hpast⟩ := h
  refine ⟨⟨?_, past_step hpast input⟩, ?_⟩
  · cases input with
    | advance nanos => exact inv_advance hinv nanos ok
    | register providerId secret => exact inv_register hinv hpast providerId secret
    | unregister providerId secret =>
      simp only [extensionPollMachine, unregister]
      split
      · exact hinv.remove _
      · exact hinv
    | nextCommand providerId secret other => exact inv_nextCommand hinv hpast providerId secret other ok
    | pollReturns poll command => exact inv_pollReturns hinv poll command
    | complete providerId secret => exact inv_complete hinv hpast providerId secret
    | startPrune => exact inv_startPrune hinv
    | checkProvider prune providerId => exact inv_checkProvider hinv hlimit prune providerId
    | finishPrune prune => exact (inv_finishPrune hinv prune).1
  · cases input with
    | finishPrune prune => exact (inv_finishPrune hinv prune).2
    | advance _ | register _ _ | unregister _ _ | nextCommand _ _ _ | pollReturns _ _ | complete _ _ | startPrune
    | checkProvider _ _ => exact List.not_mem_nil

theorem neverPruned_of_lt (hlimit : timeoutMs < 15000) : NeverPruned timeoutMs := by
  intro now id inputs ok c hc
  have hinv : Inv id timeoutMs c.before ∧ Past c.before :=
    Machine.inv_calls (fun s input h hok => (inv_step hlimit s input h hok).1) inputs
      ⟨inv_start now, fun poll hmem => by cases hmem⟩ ok c hc
  have hok := ok c hc
  rw [Machine.eq_call_of_mem hc] at hok ⊢
  exact (inv_step hlimit _ _ hinv hok).2

/-! ### A poll that outlasts the limit -/

/-- While the provider waits in its first poll, another request prunes. -/
def longPoll (timeoutMs : Nat) : List PollStep :=
  [.register "provider" "secret", .nextCommand "provider" "secret" timeoutMs, .advance providerStaleAfter, .startPrune,
    .checkProvider 0 "provider", .finishPrune 0]

theorem longPoll_polls (haccepted : timeoutMs ≤ maxExtensionCallTimeoutMs) :
    ((start 0).register "provider" "secret").nextCommand "provider" "secret" timeoutMs =
      { ((start 0).register "provider" "secret").see "provider" with polls := [⟨"provider", 0, timeoutMs⟩] } := by
  unfold nextCommand
  rw [if_neg (Nat.not_lt.mpr haccepted), if_pos (by decide)]
  rfl

/-- What the prune removes does not depend on the polls. -/
theorem longPoll_removed (polls : List WaitingPoll) :
    "provider" ∈ ((({ ((start 0).register "provider" "secret").see "provider" with
      now := 0 + providerStaleAfter, polls := polls }).startPrune.checkProvider 0 "provider").finishPrune 0).1 := by
  simp [start, register, see, startPrune, checkProvider, finishPrune, ids]

theorem longPoll_pruned (hlimit : 15000 ≤ timeoutMs) (haccepted : timeoutMs ≤ maxExtensionCallTimeoutMs) :
    ¬NeverPruned timeoutMs := by
  intro hnever
  have hpolls := longPoll_polls haccepted
  have hrun := hnever 0 "provider" (longPoll timeoutMs)
  simp only [longPoll, Machine.trace_cons, Machine.trace_nil, List.forall_mem_cons, extensionPollMachine, hpolls] at hrun
  refine (hrun ?_).2.2.2.2.2.1 (longPoll_removed _)
  -- Time passes once, in the poll and within its timeout.
  refine ⟨⟨?_, ?_⟩, ⟨?_, ?_⟩, ⟨?_, ?_⟩, ⟨?_, ?_⟩, ⟨?_, ?_⟩, ⟨?_, ?_⟩, ?_⟩
  · exact fun nanos h => by cases h
  · exact fun secret other h => by cases h
  · exact fun nanos h => by cases h
  · intro secret other h _
    cases h
    rfl
  · intro nanos h _
    obtain rfl : providerStaleAfter = nanos := PollStep.advance.inj h
    refine ⟨⟨"provider", 0, timeoutMs⟩, List.mem_singleton_self _, rfl, ?_⟩
    show 0 + providerStaleAfter ≤ 0 + timeoutMs * nanosPerMs
    unfold providerStaleAfter nanosPerMs
    omega
  · exact fun secret other h => by cases h
  · exact fun nanos h => by cases h
  · exact fun secret other h => by cases h
  · exact fun nanos h => by cases h
  · exact fun secret other h => by cases h
  · exact fun nanos h => by cases h
  · exact fun secret other h => by cases h
  · exact fun c hc => absurd hc List.not_mem_nil

end ExtensionPolls

/-- Of the timeouts that the Host accepts, those for which a provider that polls on is never pruned. -/
theorem neverPruned_iff (timeoutMs : Nat) (haccepted : timeoutMs ≤ maxExtensionCallTimeoutMs) :
    ExtensionPolls.NeverPruned timeoutMs ↔ timeoutMs < 15000 := by
  constructor
  · intro hnever
    by_contra hlimit
    exact ExtensionPolls.longPoll_pruned (Nat.not_lt.mp hlimit) haccepted hnever
  · exact ExtensionPolls.neverPruned_of_lt

theorem neverPruned_5000 : ExtensionPolls.NeverPruned 5000 ∧ ¬ExtensionPolls.NeverPruned 30000 :=
  ⟨(neverPruned_iff 5000 (by decide)).mpr (by decide), fun h => absurd ((neverPruned_iff 30000 (by decide)).mp h) (by decide)⟩

/-- A provider that polls with an accepted timeout of 20 seconds is pruned in its first poll. -/
theorem long_poll_pruned : 20000 ≤ maxExtensionCallTimeoutMs ∧ ¬ExtensionPolls.NeverPruned 20000 :=
  ⟨by decide, ExtensionPolls.longPoll_pruned (by decide) (by decide)⟩

end BrowserExtension
end DccCua
