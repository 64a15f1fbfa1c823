import DccCua.Theorems.ActionAttempts

/-! # Screenshots are newer than the actions before them

Every frame that a live screenshot publishes is past the latest frame of its stream at the end of each earlier
action attempt that may have sent input, and at each earlier invalidation. -/

namespace DccCua

open Runs Script

namespace ComputerUseSession

open LiveObservation

/-! ### The start of a live observation -/

theorem fold_streamId (events : List StreamEvent) : ∀ o : LiveObservation, (events.foldl LiveObservation.observe o).streamId = o.streamId := by
  induction events with
  | nil => exact fun _ => rfl
  | cons event events ih => exact fun o => (ih _).trans (observe_streamId o event)

theorem firstFrame_ok {events : List StreamEvent} {o opened : LiveObservation} (h : firstFrame events o = .ok opened) :
    opened.streamId = o.streamId ∧ opened.Reached 0 := by
  unfold firstFrame at h
  dsimp only at h
  split at h
  · rename_i frame hframe
    cases h
    exact ⟨fold_streamId events o, Or.inr ⟨frame, (frameAfter_ok hframe).2.1, Nat.zero_le _⟩⟩
  · cases h
  · cases h

/-- The stream `streamId` was taken and no moment is on it. -/
structure Opening (streamId : Nat) (s : ComputerUseSession) : Prop where
  fenced : Fenced s
  issued : streamId < s.nextStreamId
  unused : ∀ moment ∈ s.history.moments, ∀ fence, moment.boundary = some fence → fence.streamId ≠ streamId

theorem Opening.observe {streamId : Nat} {s : ComputerUseSession} (h : Opening streamId s) (event : SessionEvent) :
    Opening streamId (s.observe event) := by
  refine ⟨h.fenced.observe event, ?_, ?_⟩
  · cases event with
    | otherStream => exact Nat.lt_succ_of_lt h.issued
    | _ => exact h.issued
  · cases event <;> exact h.unused

theorem Fenced.opening {s : ComputerUseSession} (h : Fenced s) :
    Opening s.nextStreamId { s.record (.sourceStarted s.nextStreamId) with nextStreamId := s.nextStreamId + 1 } := by
  refine ⟨h.note (.sourceStarted s.nextStreamId) rfl (fun _ _ => Moment.noConfusion) rfl (Nat.le_succ _) rfl
    (fun ha => ha) rfl rfl, Nat.lt_succ_self _, fun moment hmem fence hfence => ?_⟩
  rcases List.mem_append.mp hmem with hmem | hmem
  · exact Nat.ne_of_lt (h.old moment hmem fence hfence)
  · rw [List.mem_singleton] at hmem
    subst hmem
    cases hfence

theorem Opening.attached {s : ComputerUseSession} {o : LiveObservation} (h : Opening o.streamId s) (hopened : o.Reached 0) :
    Fenced (attach o s) := by
  have hnoted : Fenced (s.record (.sourceAttached o.streamId)) :=
    h.fenced.note _ rfl (fun _ _ => Moment.noConfusion) rfl (Nat.le_refl _) rfl (fun ha => ha) rfl rfl
  refine ⟨hnoted.fresh, hnoted.old, fun o' ho => ?_, fun _ o' ho => ?_⟩
  · cases ho
    exact h.issued
  · cases ho
    have hnone : ∀ n, ¬(attach o s).Boundary o n := by
      rintro n ⟨moment, hmem, hn⟩
      rcases List.mem_append.mp hmem with hmem | hmem
      · exact h.unused moment hmem _ hn rfl
      · rw [List.mem_singleton] at hmem
        subst hmem
        cases hn
    exact ⟨hopened, fun n hn => absurd hn (hnone n), fun n hn => absurd hn (hnone n)⟩

/-- A started stream is attached to the session that still waits for it. -/
theorem openStream_attached {preparationId : Option Nat} {α : Type} (a : α) :
    KeepsOr Fenced Fenced ((openStream preparationId).tryThen fun observation =>
      (modify (attach observation)).tryThen fun _ => Prog.ret (.ok a)) := by
  refine triple_tryThen (R := fun observation s _ => Opening observation.streamId s ∧ observation.Reached 0) ?_ fun observation => ?_
  · refine triple_tryThen (R := fun _ s _ => Fenced s) (stableFenced.check _) fun _ =>
      triple_tryThen (R := fun streamId s _ => Opening streamId s) (triple_update fun _ _ hs => hs.opening) fun streamId => ?_
    refine triple_await (fun _ hs => hs.fenced) fun event rest s hs => ?_
    cases event with
    | opened events =>
      cases hframe : firstFrame events ⟨streamId, preparationId, .initial, false⟩ with
      | ok opened =>
        obtain ⟨hid, hreached⟩ := firstFrame_ok hframe
        simp only [hframe]
        exact ⟨hid ▸ hs, hreached⟩
      | error error =>
        simp only [hframe]
        exact hs.fenced
    | _ => exact hs.observe _
  · exact triple_tryThen (R := fun _ s _ => Fenced s) (triple_update fun s _ hs => hs.1.attached hs.2) fun _ =>
      triple_ret fun _ _ hs => hs

theorem stopForReplacement_keeps (platform : SessionPlatform) :
    KeepsOr Fenced Fenced (stopLiveObservationForReplacement platform) :=
  keepsOr_tryThen givesUpFenced.stopLiveObservation.keepsOr fun _ => keepsOr_read (fun _ hs => hs) _

theorem ensureLiveObservation_keeps (platform : SessionPlatform) : KeepsOr Fenced Fenced (ensureLiveObservation platform) := by
  have hread : ∀ {α : Type} (f : ComputerUseSession → Except ComputerUseError α),
      KeepsOr Fenced Fenced (Prog.read f : SessionProg α) := fun f => keepsOr_read (fun _ hs => hs) f
  refine keepsOr_tryThen (hread _) fun _ => keepsOr_tryThen stableFenced.ensureActive fun _ =>
    keepsOr_tryThen (stableFenced.check _) fun _ => keepsOr_tryThen (hread _) fun _ => keepsOr_tryThen ?_ fun preparationId =>
    keepsOr_tryThen (hread _) fun replaced =>
    keepsOr_tryThen (stableFenced.onlyWhen _ (stopForReplacement_keeps platform)) fun _ => ?_
  · unfold askPreparation
    split
    · exact stableFenced.asks _
    · exact keepsOr_ret (fun _ hs => hs) _
  · refine triple_andThen (triple_read fun _ _ hs => hs) fun existing => keepsOr_tryThen (stableFenced.attempt ?_) fun disposition => ?_
    · exact keepsOr_tryThen (stableFenced.onlyWhen _ (stableFenced.check _)) fun _ =>
        keepsOr_tryThen stableFenced.requireObservedTargetAvailable fun _ => keepsOr_ret (fun _ hs => hs) _
    · cases disposition with
      | reuseExisting => exact keepsOr_ret (fun _ hs => hs) _
      | startedNew =>
        refine triple_andThen (triple_read fun _ _ hs => hs) fun owned =>
          keepsOr_tryThen (stableFenced.onlyWhen _ (stopForReplacement_keeps platform)) fun _ => ?_
        exact keepsOr_tryThen (keepsOr_update fun _ hs => hs.invalidate) fun _ => openStream_attached _

/-! ### Screenshots -/

/-- The session has the stream that a screenshot reads. -/
structure On (streamId : Nat) (s : ComputerUseSession) : Prop where
  fenced : Fenced s
  active : s.active = true
  live : ∃ o, s.liveObservation = some o ∧ o.streamId = streamId

theorem On.observe {streamId : Nat} {s : ComputerUseSession} (h : On streamId s) (event : SessionEvent) :
    On streamId (s.observe event) := by
  refine ⟨h.fenced.observe event, ?_, ?_⟩
  · cases event <;> exact h.active
  · obtain ⟨o, ho, hid⟩ := h.live
    cases event with
    | stream event => exact ⟨o.observe event, by simp [ComputerUseSession.observe, ho], (observe_streamId o event).trans hid⟩
    | _ => exact ⟨o, ho, hid⟩

/-- What the wait of a screenshot stands for: the stream is past each moment, or the wait is for a later frame. -/
structure Waiting (streamId : Nat) (after : Option Nat) (s : ComputerUseSession) : Prop where
  on : On streamId s
  waits : ∀ o, s.liveObservation = some o → ∀ n, s.Boundary o n → o.Past n ∨ ∃ a, after = some a ∧ n ≤ a

/-- The frame that a screenshot has in hand. -/
structure Holding (streamId sequence : Nat) (s : ComputerUseSession) : Prop where
  on : On streamId s
  past : ∀ o, s.liveObservation = some o → ∀ n, s.Boundary o n → n < sequence
  reached : ∀ o, s.liveObservation = some o → o.Reached sequence

theorem Waiting.observe {streamId : Nat} {after : Option Nat} {s : ComputerUseSession} (h : Waiting streamId after s)
    (event : SessionEvent) : Waiting streamId after (s.observe event) := by
  refine ⟨h.on.observe event, ?_⟩
  cases event with
  | stream event =>
    intro o ho n hn
    obtain ⟨old, hold, rfl⟩ := Option.map_eq_some_iff.mp ho
    unfold Boundary at hn
    rw [observe_streamId] at hn
    exact (h.waits old hold n hn).imp_left fun hpast => hpast.observe event
  | _ => exact h.waits

theorem Holding.observe {streamId sequence : Nat} {s : ComputerUseSession} (h : Holding streamId sequence s)
    (event : SessionEvent) : Holding streamId sequence (s.observe event) := by
  refine ⟨h.on.observe event, ?_, ?_⟩
  · cases event with
    | stream event =>
      intro o ho n hn
      obtain ⟨old, hold, rfl⟩ := Option.map_eq_some_iff.mp ho
      unfold Boundary at hn
      rw [observe_streamId] at hn
      exact h.past old hold n hn
    | _ => exact h.past
  · cases event with
    | stream event =>
      intro o ho
      obtain ⟨old, hold, rfl⟩ := Option.map_eq_some_iff.mp ho
      exact (h.reached old hold).observe event
    | _ => exact h.reached

theorem stableOver {F : ComputerUseSession → Prop} (observe : ∀ event s, F s → F (s.observe event))
    (fenced : ∀ s, F s → Fenced s) : Stable F Fenced :=
  ⟨observe, fenced, fun _ h => h.lost, fun _ h => h.invalidate⟩

theorem stableOn (streamId : Nat) : Stable (On streamId) Fenced := stableOver (fun event _ h => h.observe event) fun _ h => h.fenced

theorem stableWaiting (streamId : Nat) (after : Option Nat) : Stable (Waiting streamId after) Fenced :=
  stableOver (fun event _ h => h.observe event) fun _ h => h.on.fenced

theorem stableHolding (streamId sequence : Nat) : Stable (Holding streamId sequence) Fenced :=
  stableOver (fun event _ h => h.observe event) fun _ h => h.on.fenced

theorem le_optionMax_left {a b : Option Nat} {n : Nat} (h : ∃ m, a = some m ∧ n ≤ m) : ∃ m, optionMax a b = some m ∧ n ≤ m := by
  obtain ⟨m, rfl, hn⟩ := h
  obtain ⟨g, hg, hle⟩ := fenceLe_optionMax_left (some m) b m rfl
  exact ⟨g, hg, Nat.le_trans hn hle⟩

theorem le_optionMax_right {a b : Option Nat} {n : Nat} (h : ∃ m, b = some m ∧ n ≤ m) : ∃ m, optionMax a b = some m ∧ n ≤ m := by
  obtain ⟨m, rfl, hn⟩ := h
  cases a with
  | none => exact ⟨m, rfl, hn⟩
  | some a => exact ⟨max a m, rfl, Nat.le_trans hn (Nat.le_max_right a m)⟩

theorem sequenceFor_self (streamId n : Nat) : (⟨streamId, n⟩ : LiveObservationFence).sequenceFor streamId = some n := if_pos rfl

/-- After the fences are rebaselined the wait covers every moment. -/
theorem On.waiting {streamId : Nat} {s : ComputerUseSession} (h : On streamId s) :
    Waiting streamId (s.rebaseline.afterSequence streamId) s.rebaseline := by
  have hsame : s.rebaseline.liveObservation = s.liveObservation ∧ s.rebaseline.history = s.history ∧
      s.rebaseline.active = s.active ∧ s.rebaseline.nextStreamId = s.nextStreamId ∧
      s.rebaseline.postActionLiveSequenceFence = s.postActionLiveSequenceFence := by
    unfold rebaseline
    split <;> exact ⟨rfl, rfl, rfl, rfl, rfl⟩
  obtain ⟨hlive, hhistory, hactive, hnext, hpost⟩ := hsame
  have htransition : s.rebaseline.observationTransitionLiveSequenceFence ≠ none ↔ s.observationTransitionLiveSequenceFence ≠ none := by
    unfold rebaseline
    split
    · rename_i hsome
      simp [Option.isSome_iff_ne_none.mp hsome]
    · exact Iff.rfl
  have hfenced : Fenced s.rebaseline := by
    refine ⟨hhistory ▸ h.fenced.fresh, ?_, ?_, fun ha o ho => ?_⟩
    · rw [hhistory, hnext]
      exact h.fenced.old
    · rw [hlive, hnext]
      exact h.fenced.issued
    · have hknown := h.fenced.known (hactive ▸ ha) o (hlive ▸ ho)
      refine ⟨hknown.opened, fun n hn => hknown.reached n ?_, fun n hn => ?_⟩
      · unfold Boundary at hn
        rwa [hhistory] at hn
      · unfold Boundary at hn
        rw [hhistory] at hn
        have hcovered := hknown.covered n hn
        unfold Covered at hcovered ⊢
        rwa [htransition, hpost]
  refine ⟨⟨hfenced, hactive.trans h.active, hlive ▸ h.live⟩, fun o ho n hn => ?_⟩
  obtain ⟨o', ho', rfl⟩ := h.live
  obtain rfl : o' = o := Option.some.inj (ho'.symm.trans (hlive ▸ ho))
  have hknown := h.fenced.known h.active o' ho'
  have hn' : s.Boundary o' n := by
    unfold Boundary at hn
    rwa [hhistory] at hn
  rcases hknown.covered n hn' with hpast | hfence | ⟨fence, hfence, hid, hle⟩
  · exact Or.inl hpast
  · -- A transition fence is now at the latest frame, which the moment is at most.
    rcases reached_fence ho' (hknown.reached n hn') with hterminal | ⟨m, hm, hle⟩
    · exact Or.inl (Or.inl hterminal)
    · refine Or.inr ?_
      have hbase : s.rebaseline.observationTransitionLiveSequenceFence = some ⟨o'.streamId, m⟩ := by
        unfold rebaseline
        rw [if_pos (Option.isSome_iff_ne_none.mpr hfence), hm]
        rfl
      unfold afterSequence observationSequenceFence
      exact le_optionMax_right ⟨m, by rw [hbase, Option.bind_some, sequenceFor_self], hle⟩
  · refine Or.inr ?_
    unfold afterSequence observationSequenceFence
    refine le_optionMax_left (le_optionMax_right ⟨fence.sequence, ?_, hle⟩)
    rw [hpost, hfence, Option.bind_some, LiveObservationFence.sequenceFor, if_pos hid]

theorem latestAfter_ends (streamId : Nat) (after : Option Nat) :
    Triple (fun s _ => Waiting streamId after s) (latestAfter after)
      (orError (fun frame s _ => Holding streamId frame.sequence s) fun _ s _ => Fenced s) Fenced := by
  refine triple_await (fun s hs => hs.on.fenced) fun event rest s hs => ?_
  cases event with
  | woken =>
    obtain ⟨o, ho, -⟩ := hs.on.live
    have hstatus : s.streamStatus = o.status := by rw [streamStatus, ho, Option.map_some, Option.getD_some]
    cases hlook : frameAfter after s.streamStatus with
    | none =>
      simp only [latestAfterTurn, hlook]
      exact hs
    | some result =>
      simp only [latestAfterTurn, hlook]
      cases result with
      | error error => exact hs.on.fenced
      | ok frame =>
        obtain ⟨hlive, hlatest, hafter⟩ := frameAfter_ok hlook
        rw [hstatus] at hlive hlatest
        refine ⟨hs.on, fun o' ho' n hn => ?_, fun o' ho' => ?_⟩
        · obtain rfl : o = o' := Option.some.inj (ho.symm.trans ho')
          rcases hs.waits o ho n hn with (hterminal | ⟨past, hpast, hle⟩) | ⟨a, ha, hle⟩
          · exact absurd hlive hterminal
          · obtain rfl : past = frame := Option.some.inj (hpast.symm.trans hlatest)
            exact hle
          · exact Nat.lt_of_le_of_lt hle (hafter a ha)
        · obtain rfl : o = o' := Option.some.inj (ho.symm.trans ho')
          exact Or.inr ⟨frame, hlatest, Nat.le_refl _⟩
  | waitTimedOut => exact hs.on.fenced
  | streamClosed => exact hs.on.fenced
  | _ => exact hs.observe _

theorem gatedFrame_ends (streamId : Nat) (after : Option Nat) :
    Triple (fun s _ => Waiting streamId after s) (attempt (gatedFrame after))
      (orError (fun frame s _ => Holding streamId frame.sequence s) fun _ s _ => Fenced s) Fenced := by
  have hframe : Triple (fun s _ => Waiting streamId after s) (gatedFrame after)
      (orError (fun frame s _ => Holding streamId frame.sequence s) fun _ s _ => Fenced s) Fenced := by
    refine triple_tryThen ((stableWaiting streamId after).check _) fun _ =>
      triple_tryThen (latestAfter_ends streamId after) fun frame => ?_
    refine triple_tryThen ((stableHolding streamId frame.sequence).check _) fun _ =>
      triple_tryThen ((stableHolding streamId frame.sequence).check _) fun _ =>
      triple_tryThen ((stableHolding streamId frame.sequence).check _) fun _ => triple_ret fun _ _ hs => hs
  refine triple_andThen hframe fun result => triple_update fun s _ hs => ?_
  cases result with
  | ok frame => exact hs
  | error error => exact stableFenced.sensitive (.error error : Except ComputerUseError LiveObservationFrame) hs

/-- The frame in hand is past every moment, and the stream has reached it. -/
theorem Holding.publish {streamId sequence : Nat} {s : ComputerUseSession} (h : Holding streamId sequence s)
    (observationId : Nat) (target : ExactWindowTarget) : Fenced (publishFrame observationId target streamId sequence s) := by
  obtain ⟨o, ho, rfl⟩ := h.on.live
  refine ⟨?_, fun m hm fence hfence => ?_, h.on.fenced.issued, fun hactive o' ho' => ?_⟩
  · refine List.pairwise_append.mpr ⟨h.on.fenced.fresh, List.pairwise_singleton _ _, fun a ha b hb fence n hfence hpub => ?_⟩
    rw [List.mem_singleton] at hb
    rw [hb, Moment.published.injEq] at hpub
    obtain ⟨hid, rfl⟩ := hpub
    exact h.past o ho fence.sequence ⟨a, ha, by rw [hfence, hid]⟩
  · rcases List.mem_append.mp hm with hm | hm
    · exact h.on.fenced.old m hm fence hfence
    · rw [List.mem_singleton] at hm
      subst hm
      cases hfence
  · obtain rfl : o = o' := Option.some.inj (ho.symm.trans ho')
    have hold : ∀ n, (publishFrame observationId target o.streamId sequence s).Boundary o n → s.Boundary o n := by
      rintro n ⟨m, hm, hn⟩
      rcases List.mem_append.mp hm with hm | hm
      · exact ⟨m, hm, hn⟩
      · rw [List.mem_singleton] at hm
        subst hm
        cases hn
    have hknown := h.on.fenced.known hactive o ho
    refine ⟨hknown.opened, fun n hn => hknown.reached n (hold n hn), fun n hn => Or.inl ?_⟩
    exact (h.reached o ho).mono (h.past o ho n (hold n hn))

theorem liveObservationScreenshot_keeps (streamId : Nat) :
    Triple (fun s _ => On streamId s) (liveObservationScreenshot streamId) (fun _ s _ => Fenced s) Fenced := by
  have hon := stableOn streamId
  have goOn : ∀ {α β : Type} {F : ComputerUseSession → Prop} {p : SessionProg α} {f : α → SessionProg β}, KeepsOr F Fenced p →
      (∀ a, Triple (fun s _ => F s) (f a) (fun _ s _ => Fenced s) Fenced) →
      Triple (fun s _ => F s) (p.tryThen f) (fun _ s _ => Fenced s) Fenced := fun hp hf => triple_tryThen hp hf
  refine goOn hon.requireObservedExactWindowObservationAvailable fun _ => goOn hon.requireObservedTargetAvailable fun _ =>
    goOn hon.requireObservedExactWindowObservationAvailable fun _ => ?_
  refine triple_tryThen (R := fun _ (s : ComputerUseSession) _ => Waiting streamId (s.afterSequence streamId) s)
    (triple_update fun _ _ hs => hs.waiting) fun _ => ?_
  refine triple_andThen (R := fun after s _ => Waiting streamId after s) (triple_read fun _ _ hs => hs) fun after => ?_
  refine triple_tryThen (R := fun frame s _ => Holding streamId frame.sequence s) (gatedFrame_ends streamId after) fun frame => ?_
  have hholding := stableHolding streamId frame.sequence
  refine goOn hholding.requireObservedTargetAvailable fun target => goOn ?_ fun target =>
    goOn (keepsOr_read hholding.weaken _) fun _ => goOn (hholding.check _) fun _ => goOn (hholding.check _) fun _ =>
    goOn (keepsOr_read hholding.weaken _) fun _ => goOn (hholding.asks _) fun observationId =>
    triple_update fun s _ hs => hs.publish observationId target
  refine keepsOr_tryThen hholding.requireObservedExactWindowObservationAvailable fun _ =>
    keepsOr_tryThen hholding.requireObservedTargetAvailable fun observed => ?_
  split
  · exact hholding.finish _
  · exact keepsOr_ret hholding.weaken _

/-- A session that is active, as every screenshot checks first. -/
structure Running (s : ComputerUseSession) : Prop where
  fenced : Fenced s
  active : s.active = true

theorem stableRunning : Stable Running Running := by
  refine .refl (fun event s h => ⟨h.fenced.observe event, ?_⟩) (fun _ h => ⟨h.fenced.lost, h.active⟩)
    fun _ h => ⟨h.fenced.invalidate, h.active⟩
  cases event <;> exact h.active

theorem ensureActive_running : Triple (fun s _ => Fenced s) ensureActive
    (orError (fun _ s _ => Running s) fun _ s _ => Fenced s) Fenced := by
  refine triple_tryThen (stableFenced.check _) fun _ => triple_read fun s _ hs => ?_
  by_cases hactive : s.active = true
  · rw [if_pos hactive]
    exact ⟨hs, hactive⟩
  · rw [if_neg hactive]
    exact hs

theorem captureWithoutStream_keeps : Keeps Fenced captureWithoutStream := by
  refine (keepsOr_tryThen stableFenced.requireObservedTargetAvailable fun _ =>
    keepsOr_tryThen (stableFenced.attempt (stableFenced.asks _)) fun _ =>
    keepsOr_tryThen stableFenced.requireObservedTargetAvailable fun target =>
    keepsOr_tryThen (stableFenced.asks _) fun observationId => keepsOr_update fun s hs => ?_).keeps
  exact hs.congr rfl (Nat.le_refl _) rfl (fun ha => ha) rfl rfl

theorem screenshotWithBounds_keeps (platform : SessionPlatform) : Keeps Fenced (screenshotWithBounds platform) := by
  refine triple_tryThen (R := fun _ s _ => Running s) ensureActive_running fun _ => ?_
  have hcut : ∀ s, Running s → Fenced s := fun _ hs => hs.fenced
  have goOn : ∀ {p : SessionProg Unit} {f : Unit → SessionProg Unit}, KeepsOr Running Running p →
      (∀ a, Triple (fun s _ => Running s) (f a) (fun _ s _ => Fenced s) Fenced) →
      Triple (fun s _ => Running s) (p.tryThen f) (fun _ s _ => Fenced s) Fenced := by
    refine fun hp hf => triple_tryThen (triple_weaken (triple_cut hp hcut) (fun _ _ hs => hs) fun result s rest hs => ?_) hf
    cases result with
    | ok a => exact hs
    | error e => exact hs.fenced
  refine goOn (stableRunning.check _) fun _ => goOn ?_ fun _ => ?_
  · refine triple_andThen (R := fun _ s _ => Running s) (triple_read fun _ _ hs => hs) fun upstream => ?_
    split
    · exact keepsOr_ret (fun _ hs => hs) _
    · refine keepsOr_tryThen (stableRunning.asks _) fun due => stableRunning.onlyWhen _ ?_
      refine triple_andThen (R := fun _ s _ => Running s) ?_ fun result => triple_update fun s _ hs => ?_
      · exact (keepsOr_tryThen (stableRunning.requireObservedInputAvailable platform) fun _ => stableRunning.check _).keeps
      · cases result with
        | ok _ => exact stableRunning.invalidate s hs
        | error _ => exact stableRunning.invalidate s hs
  · refine triple_andThen (R := fun stream s _ => Running s ∧ stream = s.liveObservation.map fun o => o.streamId)
      (triple_read fun _ _ hs => ⟨hs, rfl⟩) fun stream => ?_
    cases stream with
    | none => exact triple_weaken captureWithoutStream_keeps (fun _ _ hs => hs.1.fenced) fun _ _ _ hs => hs
    | some streamId =>
      refine triple_weaken (liveObservationScreenshot_keeps streamId) (fun s _ hs => ?_) fun _ _ _ hs => hs
      obtain ⟨o, ho, hid⟩ := Option.map_eq_some_iff.mp hs.2.symm
      exact ⟨hs.1.fenced, hs.1.active, o, ho, hid⟩

/-! ### Runs -/

theorem Fenced.run {s : ComputerUseSession} (h : Fenced s) (platform : SessionPlatform) (script : List SessionEvent)
    (operation : SessionOperation) : Fenced (s.run platform script operation) := by
  cases operation with
  | performAction action => exact (attemptAction_keeps platform action).state h script
  | invalidateActionObservations => exact h.invalidate
  | startLiveObservation => exact (ensureLiveObservation_keeps platform).keeps.state h script
  | stopLiveObservation => exact givesUpFenced.stopLiveObservation.state h script
  | screenshot => exact (screenshotWithBounds_keeps platform).state h script
  | passes event => exact h.observe event

theorem fenced_started (upstream : UpstreamSessionState) (route : Option PixelObservationRoute) (target : ExactWindowTarget)
    (linuxPixels : Bool) (nextStreamId nextRecorder : Nat) :
    Fenced (started upstream route target linuxPixels nextStreamId nextRecorder) := by
  have hmoments : ∀ m ∈ (started upstream route target linuxPixels nextStreamId nextRecorder).history.moments,
      m = .upstreamStarted := by
    intro m hm
    simp only [started] at hm
    split at hm
    · exact List.mem_singleton.mp hm
    · cases hm
  refine ⟨?_, fun m hm fence hfence => ?_, fun _ ho => ?_, fun _ _ ho => ?_⟩
  · simp only [started]
    split
    · exact List.pairwise_singleton _ _
    · exact List.Pairwise.nil
  · rw [hmoments m hm] at hfence
    cases hfence
  · cases ho
  · cases ho

/-- In every run of a session, a frame that a live screenshot publishes is past the latest frame of its stream at
    the end of every earlier attempt that may have sent input, and at every earlier invalidation. -/
theorem screenshots_past_fences (platform : SessionPlatform) (upstream : UpstreamSessionState)
    (route : Option PixelObservationRoute) (target : ExactWindowTarget) (linuxPixels : Bool) (nextStreamId nextRecorder : Nat)
    (inputs : List (SessionOperation × List SessionEvent)) :
    ((actionMachine platform).final (started upstream route target linuxPixels nextStreamId nextRecorder) inputs).history.moments.Pairwise
      Fresh :=
  (Machine.inv_final (m := actionMachine platform) (fun _ input hs => hs.run platform input.2 input.1) inputs
    (fenced_started upstream route target linuxPixels nextStreamId nextRecorder)).fresh

end ComputerUseSession
end DccCua
