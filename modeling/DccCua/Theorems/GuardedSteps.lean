import DccCua.Windows.GuardedInput

/-! # Steps of guarded input

What the methods of the native backend add to its record, and how a transaction runs them. -/

namespace DccCua
namespace PhysicalInput

open Script

/-! ### The native backend -/

section Native
variable {P : List Step → Prop} {C : List Step → Prop}

theorem triple_recorded {ρ α : Type} {answer : ρ → Option α} {step : α → Step} (hcut : ∀ record, P record → C record) :
    Triple (fun record _ => P record) (recorded answer step)
      (fun a record _ => ∃ earlier, P earlier ∧ record = step a :: earlier) C :=
  triple_andThen (triple_wait (Q := fun _ record _ => P record) hcut (fun _ _ _ _ h _ => h) fun _ _ _ h => h) fun _ =>
    triple_update fun record _ h => ⟨record, h, rfl⟩

theorem nativeCheck_spec {fence : WindowsPhysicalInputFence} {point : Option Point} (hcut : ∀ record, P record → C record) :
    Triple (fun record _ => P record) (nativeCheck fence point)
      (fun result record _ => ∃ earlier, P earlier ∧ record = .check fence point false result :: earlier) C :=
  triple_recorded hcut

/-- What is dispatched to the desktop, and its receipt. -/
inductive Dispatched (cleanupOnly : Bool) (events : List Event) : Option Point → MutationReceipt → Step → Prop where
  | batch (count : Nat) : Dispatched cleanupOnly events none ⟨events.length, count, false, false⟩ (.batch cleanupOnly events count)
  | cursor (point : Point) (moved : Bool) : Dispatched cleanupOnly events (some point) ⟨0, 0, true, moved⟩ (.cursor point moved)

theorem nativeDispatch_spec {events : List Event} {cursor : Option Point} {cleanupOnly : Bool}
    (hcut : ∀ record, P record → C record) :
    Triple (fun record _ => P record) (nativeDispatch events cursor cleanupOnly)
      (fun receipt record _ => ∃ earlier step, P earlier ∧ Dispatched cleanupOnly events cursor receipt step ∧ record = step :: earlier) C := by
  unfold nativeDispatch
  cases cursor with
  | some point =>
    refine triple_andThen (triple_recorded hcut) fun moved => triple_ret ?_
    rintro record _ ⟨earlier, hearlier, rfl⟩
    exact ⟨earlier, _, hearlier, .cursor point moved, rfl⟩
  | none =>
    refine triple_andThen (triple_recorded hcut) fun count => triple_ret ?_
    rintro record _ ⟨earlier, hearlier, rfl⟩
    exact ⟨earlier, _, hearlier, .batch count, rfl⟩

/-- A mutation that is no cleanup follows a check that has passed, if there is one. -/
theorem nativeMutate_spec {fence : WindowsPhysicalInputFence} {point : Option Point} {events : List Event} {cursor : Option Point}
    (hcut : ∀ record, P record → C record) (hchecked : ∀ record, P record → C (.check fence point false (.ok ()) :: record)) :
    Triple (fun record _ => P record) (nativeMutate fence point events cursor false)
      (orError
        (fun receipt record _ => ∃ earlier step, P earlier ∧ Dispatched false events cursor receipt step ∧
          record = step :: .check fence point false (.ok ()) :: earlier)
        fun reason record _ => ∃ earlier, P earlier ∧ record = .check fence point false (.error reason) :: earlier) C := by
  refine triple_tryThen (R := fun _ record _ => ∃ earlier, P earlier ∧ record = .check fence point false (.ok ()) :: earlier) ?_ fun _ => ?_
  · refine triple_weaken (nativeCheck_spec hcut) (fun _ _ h => h) fun result record rest h => ?_
    cases result with
    | ok _ => exact h
    | error reason => exact h
  · refine triple_andThen (nativeDispatch_spec (P := fun record => ∃ earlier, P earlier ∧ record = .check fence point false (.ok ()) :: earlier) ?_)
      fun receipt => triple_ret ?_
    · rintro record ⟨earlier, hearlier, rfl⟩
      exact hchecked earlier hearlier
    · rintro record _ ⟨_, step, ⟨earlier, hearlier, rfl⟩, hstep, rfl⟩
      exact ⟨earlier, step, hearlier, hstep, rfl⟩

/-- The releases of a cleanup are sent without a check. -/
theorem nativeCleanup_spec {fence : WindowsPhysicalInputFence} {point : Option Point} {events : List Event} (hne : events ≠ [])
    (hreleases : ∀ event ∈ events, event.isRelease = true) (hcut : ∀ record, P record → C record) :
    Triple (fun record _ => P record) (nativeMutate fence point events none true)
      (fun result record _ => ∃ earlier count, P earlier ∧ result = .ok ⟨events.length, count, false, false⟩ ∧
        record = .batch true events count :: earlier) C := by
  have honly : (Option.isNone (none : Option Point) && !events.isEmpty && events.all Event.isRelease) = true := by
    simpa [hne] using hreleases
  unfold nativeMutate finalPhysicalBoundary
  rw [if_pos rfl, if_pos honly]
  refine triple_andThen (nativeDispatch_spec hcut) fun receipt => triple_ret ?_
  rintro record _ ⟨earlier, step, hearlier, hstep, rfl⟩
  cases hstep with
  | batch count => exact ⟨earlier, count, hearlier, rfl, rfl⟩

end Native

/-! ### Transactions -/

section Transactions
variable {β ρ α : Type}

theorem triple_withTransaction {p : Transaction β → Prog β ρ α} {P : Transaction β → Prop} {Q : α → Transaction β → Prop}
    {C : Transaction β → Prop}
    (h : ∀ t, P t → Triple (fun b _ => b = t.backend) (p t) (fun a b _ => Q a { t with backend := b }) fun b => C { t with backend := b }) :
    Triple (fun t _ => P t) (withTransaction p) (fun a t _ => Q a t) C := by
  intro t script ht
  unfold withTransaction onBackend
  refine triple_within (P := fun t' _ => t' = t) (fun t' => ?_) t script rfl
  intro b script' hb
  obtain ⟨rfl, rfl⟩ := hb
  exact h t' ht t'.backend script' rfl

theorem triple_onBackend {p : Prog β ρ α} {P : Transaction β → Prop} {Q : α → Transaction β → Prop} {C : Transaction β → Prop}
    (h : ∀ t, P t → Triple (fun b _ => b = t.backend) p (fun a b _ => Q a { t with backend := b }) fun b => C { t with backend := b }) :
    Triple (fun t _ => P t) (onBackend p) (fun a t _ => Q a t) C :=
  triple_withTransaction (p := fun _ => p) h

end Transactions

/-- An operation without its end. -/
def Request.body {β ρ : Type} (B : InputBackend β ρ) : Request → TransactionProg β ρ
  | .click point count button modifiers => clickBody B point count button modifiers
  | .drag points durationMs button => dragBody B points durationMs button
  | .keypress keys duration => keypressBody B keys duration
  | .text content => textBody B content

theorem Request.run_eq {β ρ : Type} (B : InputBackend β ρ) (request : Request) :
    request.run B = (request.body B).andThen fun result => finish B result := by
  cases request <;> rfl

abbrev NativeTransaction := Transaction NativeRecord

/-- The transaction with more in its record. -/
def Transaction.after (t : NativeTransaction) (steps : List Step) : NativeTransaction :=
  { t with backend := steps ++ t.backend }

section NativeTransactions
variable {R C : NativeTransaction → Prop} (hcut : ∀ t, R t → C t)
include hcut

theorem checkAt_spec {point : Option Point} : Triple (fun t _ => R t) (checkAt nativeBackend point)
    (fun result t _ => ∃ t₀, R t₀ ∧ t = t₀.after [.check t₀.fence point false result]) C := by
  refine triple_withTransaction fun t ht => ?_
  refine triple_weaken (nativeCheck_spec (P := fun record => record = t.backend) ?_) (fun _ _ h => h) ?_
  · rintro record rfl
    exact hcut t ht
  · rintro result record _ ⟨earlier, rfl, rfl⟩
    exact ⟨t, ht, rfl⟩

theorem checkHere_spec : Triple (fun t _ => R t) (checkHere nativeBackend)
    (fun result t _ => ∃ t₀, R t₀ ∧ t = t₀.after [.check t₀.fence t₀.point false result]) C := by
  refine triple_withTransaction fun t ht => ?_
  refine triple_weaken (nativeCheck_spec (P := fun record => record = t.backend) ?_) (fun _ _ h => h) ?_
  · rintro record rfl
    exact hcut t ht
  · rintro result record _ ⟨earlier, rfl, rfl⟩
    exact ⟨t, ht, rfl⟩

theorem elapsedMs_spec : Triple (fun t _ => R t) (onBackend nativeBackend.elapsedMs)
    (fun ms t _ => ∃ t₀, R t₀ ∧ t = t₀.after [.clock ms]) C := by
  refine triple_onBackend fun t ht => ?_
  refine triple_weaken (triple_recorded (P := fun record => record = t.backend) ?_) (fun _ _ h => h) ?_
  · rintro record rfl
    exact hcut t ht
  · rintro ms record _ ⟨earlier, rfl, rfl⟩
    exact ⟨t, ht, rfl⟩

theorem interrupted_spec : Triple (fun t _ => R t) (onBackend nativeBackend.interrupted)
    (fun value t _ => ∃ t₀, R t₀ ∧ t = t₀.after [.interrupted value]) C := by
  refine triple_onBackend fun t ht => ?_
  refine triple_weaken (triple_recorded (P := fun record => record = t.backend) ?_) (fun _ _ h => h) ?_
  · rintro record rfl
    exact hcut t ht
  · rintro value record _ ⟨earlier, rfl, rfl⟩
    exact ⟨t, ht, rfl⟩

omit hcut in
theorem pause_spec {ms : Nat} : Triple (fun t _ => R t) (onBackend (nativeBackend.pause ms))
    (fun _ t _ => ∃ t₀, R t₀ ∧ t = t₀.after [.pause ms]) C := by
  refine triple_onBackend fun t ht => triple_update ?_
  rintro record _ rfl
  exact ⟨t, ht, rfl⟩

/-- What a mutation does: a check that fails ends it, else it dispatches, and the receipt decides. -/
theorem mutate_spec {events : List Event} {cursor : Option Point}
    (hchecked : ∀ t, R t → C (t.after [.check t.fence t.point false (.ok ())])) :
    Triple (fun t _ => R t) (mutate nativeBackend events cursor)
      (orError
        (fun _ t _ => ∃ t₀ step receipt, R t₀ ∧ Dispatched false events cursor receipt step ∧ receipt.inserted = receipt.requested ∧
          t = (t₀.after [step, .check t₀.fence t₀.point false (.ok ())]).received events receipt)
        fun _ t _ => (∃ t₀ reason, R t₀ ∧ t = t₀.after [.check t₀.fence t₀.point false (.error reason)]) ∨
          ∃ t₀ step receipt, R t₀ ∧ Dispatched false events cursor receipt step ∧
            t = (t₀.after [step, .check t₀.fence t₀.point false (.ok ())]).received events receipt) C := by
  refine triple_tryThen (R := fun receipt t _ => ∃ t₀ step, R t₀ ∧ Dispatched false events cursor receipt step ∧
    t = t₀.after [step, .check t₀.fence t₀.point false (.ok ())]) ?_ fun receipt => triple_update ?_
  · refine triple_weaken (triple_withTransaction (Q := fun result t => orError (fun receipt t _ => ∃ t₀ step, R t₀ ∧
        Dispatched false events cursor receipt step ∧ t = t₀.after [step, .check t₀.fence t₀.point false (.ok ())])
        (fun reason t _ => ∃ t₀, R t₀ ∧ t = t₀.after [.check t₀.fence t₀.point false (.error reason)]) result t ([] : List NativeAnswer))
      fun t ht => ?_) (fun _ _ h => h) fun result t rest h => ?_
    · refine triple_weaken (nativeMutate_spec (P := fun record => record = t.backend) ?_ ?_) (fun _ _ h => h) fun result record _ h => ?_
      · rintro record rfl
        exact hcut t ht
      · rintro record rfl
        exact hchecked t ht
      · cases result with
        | ok receipt =>
          obtain ⟨earlier, step, rfl, hstep, rfl⟩ := h
          exact ⟨t, step, ht, hstep, rfl⟩
        | error reason =>
          obtain ⟨earlier, rfl, rfl⟩ := h
          exact ⟨t, ht, rfl⟩
    · cases result with
      | ok receipt => exact h
      | error reason =>
        obtain ⟨t₀, ht₀, rfl⟩ := h
        exact Or.inl ⟨t₀, reason, ht₀, rfl⟩
  · rintro t _ ⟨t₀, step, ht₀, hstep, rfl⟩
    dsimp only
    split
    · exact Or.inr ⟨t₀, step, receipt, ht₀, hstep, rfl⟩
    · rename_i hcomplete
      exact ⟨t₀, step, receipt, ht₀, hstep, by_contra fun hne => hcomplete (Or.inl hne), rfl⟩

/-- What a cleanup does: the due releases are one batch, in reverse. -/
theorem cleanup_spec (hreleases : ∀ t, R t → ∀ event ∈ t.pendingReleases, event.isRelease = true) :
    Triple (fun t _ => R t) (cleanup nativeBackend)
      (fun result t _ => (R t ∧ t.pendingReleases = [] ∧ result = .ok ()) ∨
        ∃ t₀ count, R t₀ ∧ t₀.pendingReleases ≠ [] ∧ (result = .ok () → count = t₀.pendingReleases.length) ∧
          t.backend = .batch true t₀.pendingReleases.reverse count :: t₀.backend ∧ t.fence = t₀.fence ∧ t.point = t₀.point) C := by
  refine triple_andThen (R := fun pending t _ => R t ∧ pending = t.pendingReleases) (triple_read fun t _ ht => ⟨ht, rfl⟩) fun pending => ?_
  split
  · rename_i hempty
    refine triple_ret fun t _ ht => Or.inl ⟨ht.1, ?_, rfl⟩
    rw [← ht.2]
    exact List.isEmpty_iff.mp hempty
  · rename_i hpending
    rw [List.isEmpty_iff] at hpending
    refine triple_andThen (R := fun result t _ => ∃ t₀ count, R t₀ ∧ pending = t₀.pendingReleases ∧
      result = .ok ⟨pending.length, count, false, false⟩ ∧ t = t₀.after [.batch true pending.reverse count]) ?_ fun result => ?_
    · refine triple_withTransaction fun t ht => ?_
      show Triple _ (nativeMutate t.fence t.point pending.reverse none true) _ _
      refine triple_weaken (nativeCleanup_spec (P := fun record => record = t.backend) (by simpa using hpending) ?_ ?_) (fun _ _ h => h) ?_
      · intro event hevent
        refine hreleases t ht.1 event ?_
        rw [← ht.2]
        exact List.mem_reverse.mp hevent
      · rintro record rfl
        exact hcut t ht.1
      · rintro result record _ ⟨earlier, count, rfl, rfl, rfl⟩
        exact ⟨t, count, ht.1, ht.2, by rw [List.length_reverse], rfl⟩
    · cases result with
      | error reason =>
        rintro t rest ⟨t₀, count, -, -, heq, -⟩
        cases heq
      | ok receipt =>
        refine triple_update ?_
        rintro t _ ⟨t₀, count, ht₀, rfl, heq, rfl⟩
        cases heq
        refine Or.inr ⟨t₀, count, ht₀, hpending, fun hok => ?_, rfl, rfl, rfl⟩
        by_contra hne
        rw [if_pos (Ne.symm hne)] at hok
        cases hok

end NativeTransactions

end PhysicalInput
end DccCua
