import DccCua.Cli.ConnectionRegistry

/-! # What the retention leaves

A run removes a record that it has ranked behind `maxTerminalRecords` others. They may be gone by then: other runs have their
own listings. As long as those that are gone were strictly more recent, whoever removed them has left enough; a record that
ties with the removed one gives no such warrant. -/

namespace DccCua
namespace ConnectionRegistry

open Runs

/-- The terminal records that are at least as recent. -/
def Registry.terminalAsRecent (s : Registry) (record : ConnectionRecord) : List ConnectionRecord :=
  s.directory.records.filter fun other => s.isTerminal other && decide (record.recency ≤ other.recency)

abbrev RegistryCall := Call Registry RegistryInput (Option ConnectionRecord)

/-- If a record is removed, enough terminal records that are at least as recent remain. -/
def Retains (c : RegistryCall) : Prop :=
  ∀ record, c.output = some record → maxTerminalRecords ≤ (c.after.terminalAsRecent record).length

instance (c : RegistryCall) : Decidable (Retains c) :=
  match h : c.output with
  | none => isTrue fun record hrecord => by rw [h] at hrecord; cases hrecord
  | some record => decidable_of_iff (maxTerminalRecords ≤ (c.after.terminalAsRecent record).length)
      ⟨fun hle other hother => by rw [h] at hother; cases hother; exact hle, fun hall => hall record h⟩

/-- Since the listing, none of the ranked records was published again, and none that the run keeps and that ties with the
    surplus one was removed. -/
structure Undisturbed (s : Registry) (kept : List ConnectionRecord) (surplus : ConnectionRecord) : Prop where
  current : ∀ record ∈ surplus :: kept, record ∈ s.directory.records ∨ record ∈ s.removed
  untied : ∀ record ∈ kept, record.recency = surplus.recency → record ∉ s.removed

instance (s : Registry) (kept : List ConnectionRecord) (surplus : ConnectionRecord) : Decidable (Undisturbed s kept surplus) :=
  decidable_of_iff ((∀ record ∈ surplus :: kept, record ∈ s.directory.records ∨ record ∈ s.removed) ∧
      ∀ record ∈ kept, record.recency = surplus.recency → record ∉ s.removed)
    ⟨fun h => ⟨h.1, h.2⟩, fun h => ⟨h.current, h.untied⟩⟩

/-- The records that the run of a removal keeps, and the one that it removes. -/
def removal? (c : RegistryCall) : Option (List ConnectionRecord × ConnectionRecord) :=
  match c.input with
  | .remove run =>
    match c.before.runs[run]? with
    | some (.removing kept record _) => some (kept, record)
    | _ => none
  | _ => none

/-- A removal is made while the listing of its run is undisturbed. -/
def RemovesUndisturbed (c : RegistryCall) : Prop := ∀ lists ∈ removal? c, Undisturbed c.before lists.1 lists.2

instance (c : RegistryCall) : Decidable (RemovesUndisturbed c) := inferInstanceAs (Decidable (∀ _ ∈ _, _))

/-! ### Directories -/

namespace Directory
variable {directory : Directory} {id : Nat} {a b : ConnectionRecord}

theorem eq_of_connectionId (ha : a ∈ directory.records) (hb : b ∈ directory.records) (h : a.connectionId = b.connectionId) : a = b :=
  List.inj_on_of_nodup_map directory.distinct ha hb h

theorem mem_of_find? (h : directory.find? id = some a) : a ∈ directory.records ∧ a.connectionId = id := by
  unfold find? at h
  exact ⟨List.mem_of_find?_eq_some h, by simpa using List.find?_some h⟩

theorem find?_of_mem (h : a ∈ directory.records) : directory.find? a.connectionId = some a := by
  cases hfind : directory.find? a.connectionId with
  | none => exact absurd (decide_eq_true rfl) (List.find?_eq_none.mp hfind a h)
  | some found =>
    obtain ⟨hfound, hid⟩ := mem_of_find? hfind
    rw [eq_of_connectionId hfound h hid]

theorem mem_delete : a ∈ (directory.delete id).records ↔ a ∈ directory.records ∧ a.connectionId ≠ id := by
  unfold delete
  rw [List.mem_filter, decide_eq_true_iff]

/-- Records that are not under the name are kept, and counted as before. -/
theorem filter_delete {p : ConnectionRecord → Bool} (h : ∀ record ∈ directory.records, p record = true → record.connectionId ≠ id) :
    (directory.delete id).records.filter p = directory.records.filter p := by
  unfold delete
  rw [List.filter_filter]
  refine List.filter_congr fun record hrecord => ?_
  cases hp : p record with
  | false => rfl
  | true => exact (Bool.true_and _).trans (decide_eq_true (h record hrecord hp))

end Directory

/-! ### Rankings -/

/-- The lists of a run after its ranking. -/
structure Ranked (s : Registry) (kept surplus : List ConnectionRecord) : Prop where
  terminal : ∀ record ∈ kept, s.isTerminal record = true
  distinct : ((kept ++ surplus).map ConnectionRecord.connectionId).Nodup
  sorted : ∀ record ∈ kept, ∀ other ∈ surplus, other.recency ≤ record.recency
  full : surplus ≠ [] → kept.length = maxTerminalRecords

/-- What holds of a run, whatever the others do. -/
def RunInv (s : Registry) : RetentionRun → Prop
  | .listing _ read => (read.map ConnectionRecord.connectionId).Nodup
  | .pruning kept surplus => Ranked s kept surplus
  | .removing kept record surplus => Ranked s kept (record :: surplus)

section
variable {s t : Registry} {kept surplus : List ConnectionRecord} {record : ConnectionRecord} {run : Nat}
  {ended unknown : List ProcessIdentity}

theorem isTerminal_of_ended (hended : ∀ process ∈ s.ended, process ∈ t.ended) (h : s.isTerminal record = true) :
    t.isTerminal record = true := by
  unfold Registry.isTerminal at h ⊢
  rw [Bool.or_eq_true, List.contains_iff_mem] at h ⊢
  exact h.imp_right (hended _)

theorem isTerminal_of_qualifies (h : qualifies s.ended unknown record = true) : s.isTerminal record = true := by
  unfold qualifies reportsEnded at h
  unfold Registry.isTerminal
  rw [Bool.or_eq_true] at h ⊢
  refine h.imp_right fun hreports => ?_
  rw [Bool.and_eq_true, Bool.and_eq_true] at hreports
  exact hreports.1.2

theorem Ranked.tail (h : Ranked s kept (record :: surplus)) : Ranked s kept surplus where
  terminal := h.terminal
  distinct := h.distinct.sublist (((List.Sublist.refl kept).append (List.sublist_cons_self record surplus)).map _)
  sorted k hk other hother := h.sorted k hk other (List.mem_cons_of_mem _ hother)
  full _ := h.full (List.cons_ne_nil _ _)

theorem RunInv.mono (hended : ∀ process ∈ s.ended, process ∈ t.ended) {run : RetentionRun} (h : RunInv s run) : RunInv t run := by
  have hranked : ∀ {kept surplus}, Ranked s kept surplus → Ranked t kept surplus := fun hranked =>
    ⟨fun record hrecord => isTerminal_of_ended hended (hranked.terminal record hrecord), hranked.distinct, hranked.sorted, hranked.full⟩
  cases run with
  | listing scanned read => exact h
  | pruning kept surplus => exact hranked h
  | removing kept record surplus => exact hranked h

/-- It depends on the processes that have ended only. -/
theorem RunInv.congr (hended : t.ended = s.ended) {run : RetentionRun} (h : RunInv s run) : RunInv t run :=
  h.mono fun _ hprocess => hended ▸ hprocess

instance : Std.Total fun a b : ConnectionRecord => b.recency ≤ a.recency := ⟨fun a b => Nat.le_total b.recency a.recency⟩

instance : IsTrans ConnectionRecord fun a b => b.recency ≤ a.recency := ⟨fun _ _ _ hab hbc => Nat.le_trans hbc hab⟩

/-- A listing of distinct records is ranked. -/
theorem ranked_sortByRecency {read : List ConnectionRecord} (hdistinct : (read.map ConnectionRecord.connectionId).Nodup) :
    Ranked s ((sortByRecency (read.filter (qualifies s.ended unknown))).take maxTerminalRecords)
      ((sortByRecency (read.filter (qualifies s.ended unknown))).drop maxTerminalRecords) := by
  have hperm := List.perm_insertionSort (fun a b : ConnectionRecord => b.recency ≤ a.recency) (read.filter (qualifies s.ended unknown))
  have hsorted := List.pairwise_insertionSort (fun a b : ConnectionRecord => b.recency ≤ a.recency)
    (read.filter (qualifies s.ended unknown))
  change (sortByRecency (read.filter (qualifies s.ended unknown))).Perm _ at hperm
  change (sortByRecency (read.filter (qualifies s.ended unknown))).Pairwise _ at hsorted
  generalize sortByRecency (read.filter (qualifies s.ended unknown)) = terminal at hperm hsorted
  refine ⟨fun record hrecord => ?_, ?_, ?_, fun hsurplus => ?_⟩
  · have hmem := hperm.mem_iff.mp (List.mem_of_mem_take hrecord)
    exact isTerminal_of_qualifies (List.mem_filter.mp hmem).2
  · rw [List.take_append_drop]
    exact ((hperm.map _).nodup_iff).mpr (hdistinct.sublist (List.filter_sublist.map _))
  · rw [← List.take_append_drop maxTerminalRecords terminal] at hsorted
    exact (List.pairwise_append.mp hsorted).2.2
  · rw [List.length_take]
    refine Nat.min_eq_left (Nat.le_of_lt (Nat.not_le.mp fun hle => hsurplus ?_))
    exact List.drop_eq_nil_of_le hle

end

/-! ### What is kept -/

/-- What holds of the registry in a run whose removals are undisturbed. -/
structure Inv (s : Registry) : Prop where
  fresh : ∀ record ∈ s.removed, ∀ other ∈ s.directory.records, other.connectionId ≠ record.connectionId
  retained : ∀ record ∈ s.removed, maxTerminalRecords ≤ (s.terminalAsRecent record).length
  runs : ∀ run ∈ s.runs, RunInv s run

section
variable {s t : Registry} {kept surplus : List ConnectionRecord} {record other : ConnectionRecord} {run : Nat}
  {unknown : List ProcessIdentity}

theorem initial_inv (directory : Directory) (ended : List ProcessIdentity) : Inv (Registry.initial directory ended) where
  fresh _ h := by cases h
  retained _ h := by cases h
  runs _ h := by cases h

theorem mem_terminalAsRecent :
    other ∈ s.terminalAsRecent record ↔ other ∈ s.directory.records ∧ s.isTerminal other = true ∧ record.recency ≤ other.recency := by
  unfold Registry.terminalAsRecent
  rw [List.mem_filter, Bool.and_eq_true, decide_eq_true_iff]

/-- As recent as a more recent record is as recent. -/
theorem terminalAsRecent_mono (h : record.recency ≤ other.recency) :
    (s.terminalAsRecent other).length ≤ (s.terminalAsRecent record).length := by
  refine (List.monotone_filter_right _ fun third hthird => ?_).length_le
  rw [Bool.and_eq_true, decide_eq_true_iff] at hthird ⊢
  exact ⟨hthird.1, Nat.le_trans h hthird.2⟩

/-- The directory and the removed records stay as they are. -/
theorem Inv.setRun (hinv : Inv s) {next : RetentionRun} (hnext : RunInv s next) : Inv (s.setRun run next) where
  fresh := hinv.fresh
  retained := hinv.retained
  runs other hother := by
    rcases List.mem_or_eq_of_mem_set hother with hold | rfl
    · exact (hinv.runs other hold).congr (by rfl)
    · exact hnext.congr (by rfl)

theorem publish_inv (hinv : Inv s) (hmay : s.mayPublish record = true) : Inv { s with directory := s.directory.put record } := by
  unfold Registry.mayPublish at hmay
  rw [Bool.and_eq_true, Bool.and_eq_true, Bool.not_eq_true', List.all_eq_true] at hmay
  obtain ⟨⟨-, hcurrent⟩, hremoved⟩ := hmay
  refine ⟨fun gone hgone current hmem => ?_, fun gone hgone => ?_, fun run hrun => ?_⟩
  · rcases List.mem_append.mp hmem with hold | hnew
    · exact hinv.fresh gone hgone current (Directory.mem_delete.mp hold).1
    · rw [List.mem_singleton] at hnew
      rw [hnew]
      exact Ne.symm (of_decide_eq_true (hremoved gone hgone))
  · refine Nat.le_trans (hinv.retained gone hgone) ?_
    have hkept : (s.directory.delete record.connectionId).records.filter
        (fun other => s.isTerminal other && decide (gone.recency ≤ other.recency)) = s.terminalAsRecent gone := by
      refine Directory.filter_delete fun current hmem hterminal hid => ?_
      rw [← hid, Directory.find?_of_mem hmem, Option.all_some, Bool.not_eq_true'] at hcurrent
      rw [Bool.and_eq_true, hcurrent] at hterminal
      exact Bool.false_ne_true hterminal.1
    rw [← hkept]
    exact ((List.sublist_append_left _ [record]).filter _).length_le
  · exact (hinv.runs run hrun).congr (by rfl)

theorem exit_inv (hinv : Inv s) (process : ProcessIdentity) : Inv { s with ended := process :: s.ended } := by
  have hended : ∀ other ∈ s.ended, other ∈ process :: s.ended := fun _ h => List.mem_cons_of_mem _ h
  refine ⟨hinv.fresh, fun gone hgone => Nat.le_trans (hinv.retained gone hgone) ?_, fun run hrun => ?_⟩
  · refine (List.monotone_filter_right _ fun other hother => ?_).length_le
    rw [Bool.and_eq_true] at hother ⊢
    exact ⟨isTerminal_of_ended hended hother.1, hother.2⟩
  · exact RunInv.mono hended (hinv.runs run hrun)

theorem scan_inv (hinv : Inv s) (entry : Option Nat) : Inv (s.scan run entry) := by
  unfold Registry.scan
  split
  · rename_i scanned read hrun
    have hread : (read.map ConnectionRecord.connectionId).Nodup := hinv.runs _ (List.mem_of_getElem? hrun)
    split
    · exact hinv
    · cases entry with
      | none => exact hinv.setRun hread
      | some id =>
        dsimp only
        split
        · exact hinv
        · rename_i hnew
          refine hinv.setRun ?_
          show ((read ++ (s.directory.find? id).toList).map ConnectionRecord.connectionId).Nodup
          cases hfind : s.directory.find? id with
          | none => rwa [Option.toList_none, List.append_nil]
          | some found =>
            rw [Option.toList_some, List.map_append, List.nodup_append]
            refine ⟨hread, List.nodup_singleton _, ?_⟩
            rintro _ hold _ hlast rfl
            obtain ⟨old, hmem, hid⟩ := List.mem_map.mp hold
            rw [List.map_singleton, List.mem_singleton, (Directory.mem_of_find? hfind).2] at hlast
            exact hnew (List.any_eq_true.mpr ⟨old, hmem, decide_eq_true (hid.trans hlast)⟩)
  · exact hinv

theorem rank_inv (hinv : Inv s) : Inv (s.rank run unknown) := by
  unfold Registry.rank
  split
  · rename_i scanned read hrun
    have hread : (read.map ConnectionRecord.connectionId).Nodup := hinv.runs _ (List.mem_of_getElem? hrun)
    exact hinv.setRun (ranked_sortByRecency hread)
  · exact hinv

theorem recheck_inv (hinv : Inv s) : Inv (s.recheck run unknown) := by
  unfold Registry.recheck
  split
  · rename_i kept record surplus hrun
    have hranked : Ranked s kept (record :: surplus) := hinv.runs _ (List.mem_of_getElem? hrun)
    split
    · exact hinv.setRun hranked
    · exact hinv.setRun hranked.tail
  · exact hinv

/-! ### Removals -/

/-- The registry without a record. -/
def without (s : Registry) (record : ConnectionRecord) : Registry :=
  { s with directory := s.directory.delete record.connectionId }

/-- The removal of a record takes nothing from those that are more recent. -/
theorem terminalAsRecent_without (hmem : record ∈ s.directory.records) (h : record.recency < other.recency) :
    (without s record).terminalAsRecent other = s.terminalAsRecent other := by
  refine Directory.filter_delete fun current hcurrent hrecent hid => ?_
  rw [Directory.eq_of_connectionId hcurrent hmem hid, Bool.and_eq_true, decide_eq_true_iff] at hrecent
  exact Nat.lt_irrefl _ (Nat.lt_of_lt_of_le h hrecent.2)

/-- The records that a run keeps are enough, while they are all there. -/
theorem length_kept (hranked : Ranked s kept (record :: surplus)) (hthere : ∀ other ∈ kept, other ∈ s.directory.records) :
    maxTerminalRecords ≤ ((without s record).terminalAsRecent record).length := by
  have hdistinct := hranked.distinct
  rw [List.map_append, List.nodup_append] at hdistinct
  obtain ⟨hkept, -, hapart⟩ := hdistinct
  rw [← hranked.full (List.cons_ne_nil _ _)]
  refine (List.Nodup.of_map _ hkept).length_le_of_subset fun other hother => mem_terminalAsRecent.mpr ⟨?_, ?_, ?_⟩
  · exact Directory.mem_delete.mpr ⟨hthere other hother,
      hapart _ (List.mem_map_of_mem hother) _ (List.mem_map_of_mem List.mem_cons_self)⟩
  · exact hranked.terminal other hother
  · exact hranked.sorted other hother record List.mem_cons_self

/-- An undisturbed removal leaves enough. -/
theorem removal_retains (hinv : Inv s) (hranked : Ranked s kept (record :: surplus)) (hquiet : Undisturbed s kept record)
    (hmem : record ∈ s.directory.records) : maxTerminalRecords ≤ ((without s record).terminalAsRecent record).length := by
  by_cases hgone : ∃ other ∈ kept, other ∈ s.removed
  · obtain ⟨other, hkept, hremoved⟩ := hgone
    have hle := hranked.sorted other hkept record List.mem_cons_self
    have hlt : record.recency < other.recency :=
      Nat.lt_of_le_of_ne hle fun heq => hquiet.untied other hkept heq.symm hremoved
    calc maxTerminalRecords ≤ (s.terminalAsRecent other).length := hinv.retained other hremoved
      _ = ((without s record).terminalAsRecent other).length := by rw [terminalAsRecent_without hmem hlt]
      _ ≤ ((without s record).terminalAsRecent record).length := terminalAsRecent_mono hle
  · refine length_kept hranked fun other hother => ?_
    exact (hquiet.current other (List.mem_cons_of_mem _ hother)).resolve_right fun hremoved => hgone ⟨other, hother, hremoved⟩

/-- The record that is found under the name of the surplus one is the one that was ranked. -/
theorem eq_of_undisturbed (hinv : Inv s) (hquiet : Undisturbed s kept record)
    (hfind : s.directory.find? record.connectionId = some other) : other = record := by
  obtain ⟨hother, hid⟩ := Directory.mem_of_find? hfind
  rcases hquiet.current record List.mem_cons_self with hmem | hremoved
  · exact Directory.eq_of_connectionId hother hmem hid
  · exact absurd hid (hinv.fresh record hremoved other hother)

theorem remove_inv (hinv : Inv s)
    (hquiet : ∀ kept record surplus, s.runs[run]? = some (.removing kept record surplus) → Undisturbed s kept record) :
    Inv (s.remove run).2 ∧ ∀ record, (s.remove run).1 = some record →
      maxTerminalRecords ≤ ((s.remove run).2.terminalAsRecent record).length := by
  unfold Registry.remove
  split
  · rename_i kept record surplus hrun
    have hranked : Ranked s kept (record :: surplus) := hinv.runs _ (List.mem_of_getElem? hrun)
    have hruns : ∀ other ∈ s.runs.set run (.pruning kept surplus), RunInv s other := by
      intro other hother
      rcases List.mem_or_eq_of_mem_set hother with hold | rfl
      · exact hinv.runs other hold
      · exact hranked.tail
    dsimp only
    cases hfind : s.directory.find? record.connectionId with
    | none =>
      have hsame : (s.directory.delete record.connectionId).records = s.directory.records :=
        List.filter_eq_self.mpr fun other hother => decide_eq_true fun hid => by
          rw [← hid, Directory.find?_of_mem hother] at hfind
          cases hfind
      refine ⟨⟨fun gone hgone other hother => hinv.fresh gone hgone other (hsame ▸ hother), fun gone hgone => ?_,
        fun other hother => (hruns other hother).congr (by rfl)⟩, fun found hfound => by cases hfound⟩
      refine Nat.le_trans (hinv.retained gone hgone) (Nat.le_of_eq ?_)
      unfold Registry.terminalAsRecent
      rw [hsame]
      rfl
    | some found =>
      obtain rfl : found = record := eq_of_undisturbed hinv (hquiet kept record surplus hrun) hfind
      have hmem := (Directory.mem_of_find? hfind).1
      have hleft := removal_retains hinv hranked (hquiet kept found surplus hrun) hmem
      refine ⟨⟨fun gone hgone other hother => ?_, fun gone hgone => ?_,
        fun other hother => (hruns other hother).congr (by rfl)⟩, fun other hother => ?_⟩
      · rcases List.mem_cons.mp hgone with rfl | hold
        · exact (Directory.mem_delete.mp hother).2
        · exact hinv.fresh gone hold other (Directory.mem_delete.mp hother).1
      · rcases List.mem_cons.mp hgone with rfl | hold
        · exact hleft
        · rcases Nat.lt_or_ge found.recency gone.recency with hlt | hle
          · exact Nat.le_trans (hinv.retained gone hold) (Nat.le_of_eq (congrArg List.length (terminalAsRecent_without hmem hlt)).symm)
          · exact Nat.le_trans hleft (terminalAsRecent_mono hle)
      · cases hother
        exact hleft
  · exact ⟨hinv, fun record h => by cases h⟩

end

/-! ### Runs -/

/-- A step whose removal is undisturbed keeps the invariant, and retains enough. -/
theorem step_inv {s : Registry} {input : RegistryInput} (hinv : Inv s) (hquiet : RemovesUndisturbed (registryMachine.call s input)) :
    Inv (s.step input).2 ∧ Retains (registryMachine.call s input) := by
  have hnone : ∀ {t : Registry}, (registryMachine.call s input).output = none → Inv t →
      Inv t ∧ Retains (registryMachine.call s input) := by
    intro t houtput ht
    refine ⟨ht, fun record hrecord => ?_⟩
    rw [houtput] at hrecord
    cases hrecord
  cases input with
  | publish record =>
    refine hnone rfl ?_
    show Inv (if s.mayPublish record then { s with directory := s.directory.put record } else s)
    split
    · rename_i hmay
      exact publish_inv hinv hmay
    · exact hinv
  | exit process => exact hnone rfl (exit_inv hinv process)
  | start =>
    refine hnone rfl ⟨hinv.fresh, hinv.retained, fun run hrun => ?_⟩
    rcases List.mem_append.mp hrun with hold | hnew
    · exact (hinv.runs run hold).congr (by rfl)
    · rw [List.mem_singleton] at hnew
      rw [hnew]
      exact List.nodup_nil
  | scan run entry => exact hnone rfl (scan_inv hinv entry)
  | rank run unknown => exact hnone rfl (rank_inv hinv)
  | recheck run unknown => exact hnone rfl (recheck_inv hinv)
  | remove run =>
    refine remove_inv hinv fun kept record surplus hrun => hquiet (kept, record) ?_
    unfold removal?
    dsimp only [Machine.call_input, Machine.call_before]
    rw [hrun]
    rfl

/-- In every run of bridges over one directory whose removals are undisturbed, whenever a record is removed, enough terminal
    records that are at least as recent remain. -/
theorem removals_retain (directory : Directory) (ended : List ProcessIdentity) (inputs : List RegistryInput)
    (hquiet : ∀ c ∈ registryMachine.trace (Registry.initial directory ended) inputs, RemovesUndisturbed c) :
    ∀ c ∈ registryMachine.trace (Registry.initial directory ended) inputs, Retains c := by
  have keep : ∀ s input, Inv s → RemovesUndisturbed (registryMachine.call s input) → Inv (registryMachine.step s input).2 :=
    fun s input hinv h => (step_inv hinv h).1
  intro c hc
  have hbefore : Inv c.before := Machine.inv_calls keep inputs (initial_inv directory ended) hquiet c hc
  have hcall := Machine.eq_call_of_mem hc
  have hsafe := hquiet c hc
  rw [hcall] at hsafe ⊢
  exact (step_inv hbefore hsafe).2

/-! ### Ties -/

namespace RegistrySample

def closedRecord (id closedAt : Nat) : ConnectionRecord := ⟨id, ⟨1, none⟩, 0, 0, some closedAt, .closed⟩

def closedRecords (count : Nat) (closedAt : Nat → Nat) : Directory where
  records := (List.range count).map fun id => closedRecord id (closedAt id)
  distinct := by
    rw [List.map_map]
    exact List.nodup_range.map fun a b h => h

def listing (run : Nat) (ids : List Nat) : List RegistryInput := ids.map fun id => .scan run (some id)

/-- One run, up to its removal. -/
def oneRun : List RegistryInput := [.start] ++ listing 0 (List.range 129) ++ [.rank 0 [], .recheck 0 []]

/-- Two runs that list the directory in opposite orders, up to the removal of the second. -/
def twoRuns : List RegistryInput :=
  [.start, .start] ++ listing 0 (List.range 129) ++ listing 1 (List.range 129).reverse ++
    [.rank 0 [], .rank 1 [], .recheck 0 [], .remove 0, .recheck 1 []]

end RegistrySample

/-- Of 129 records with times of their own the oldest one is removed. -/
theorem removals_retain_oldest :
    (registryMachine.final (Registry.initial (RegistrySample.closedRecords 129 id) [])
      (RegistrySample.oneRun ++ [.remove 0])).removed.length = 1 ∧
    ∀ c ∈ registryMachine.trace (Registry.initial (RegistrySample.closedRecords 129 id) [])
      (RegistrySample.oneRun ++ [.remove 0]), Retains c := by
  have hrun : (registryMachine.final (Registry.initial (RegistrySample.closedRecords 129 id) [])
      (RegistrySample.oneRun ++ [.remove 0])).removed.length = 1 ∧
      ∀ c ∈ registryMachine.trace (Registry.initial (RegistrySample.closedRecords 129 id) [])
        (RegistrySample.oneRun ++ [.remove 0]), RemovesUndisturbed c := by
    decide +kernel
  exact ⟨hrun.1, removals_retain (RegistrySample.closedRecords 129 id) [] _ hrun.2⟩

/-- Of 129 records with one time each of two runs removes another one. -/
theorem tied_removals_leave_too_few : ∃ c ∈ registryMachine.trace
      (Registry.initial (RegistrySample.closedRecords 129 fun _ => 7) []) (RegistrySample.twoRuns ++ [.remove 1]), ¬Retains c := by
  refine ⟨registryMachine.call (registryMachine.final (Registry.initial (RegistrySample.closedRecords 129 fun _ => 7) [])
    RegistrySample.twoRuns) (.remove 1), ?_, by decide +kernel⟩
  rw [Machine.trace_append]
  exact List.mem_append_right _ List.mem_cons_self

end ConnectionRegistry
end DccCua
