import DccCua.Theorems.PreparationRuns
import DccCua.Windows.PreparationJournal

/-! # What the journal lets through

A preparation is let through only when every earlier one of the target is settled, whatever crashes there have been, and at which
steps. Where nothing interferes, the condition is exact. -/

namespace DccCua
namespace CapturePreparation

open Runs

/-! ### Steps -/

/-- The reply promises nothing. -/
def JournalReply.Plain : JournalReply → Prop
  | silent | failed _ => True
  | prepared _ | recorded _ _ => False

/-- The steps that leave the directory as it is. -/
inductive Moves (path : List UInt8 → String) (root : JournalRoot) (spec : CapturePreparationSpec) : JournalStage → JournalStage → Prop
    where
  | opened : Moves path root spec .opening .looking
  | found : Moves path root spec .looking .reading
  | unseen : Moves path root spec .looking .makingDirectory
  | read {old} (indexed : root.index = some (.written old)) : Moves path root spec .reading (.checking old)
  | cleared {old} (cleared : root.cleared path spec old = true) : Moves path root spec (.checking old) (.removing old)
  | bound (written : root.read spec.preparationId "binding" = some (.written (.spec spec))) :
    Moves path root spec .creatingBinding .creatingIndex
  | unwritten {name value} : Moves path root spec (.recording name value) .running

/-- The steps that change the directory. -/
inductive Changes (root : JournalRoot) (spec : CapturePreparationSpec) : JournalStage → JournalRoot → JournalStage → Prop where
  | removed {old} : Changes root spec (.removing old) { root with index := none } .makingDirectory
  | made (fresh : root.epochs spec.preparationId = none) :
    Changes root spec .makingDirectory (root.createDir spec.preparationId) .creatingBinding
  | bindingCreated (absent : root.read spec.preparationId "binding" = none) :
    Changes root spec .creatingBinding (root.put spec.preparationId "binding" .created) .writingBinding
  | bindingWritten :
    Changes root spec .writingBinding (root.put spec.preparationId "binding" (.written (.spec spec))) .creatingIndex
  | indexCreated (absent : root.index = none) : Changes root spec .creatingIndex { root with index := some .created } .writingIndex
  | indexWritten : Changes root spec .writingIndex { root with index := some (.written spec.preparationId) } .running
  | recordCreated {name value} {next : JournalStage} (absent : root.read spec.preparationId name = none)
      (follows : next = .recording name value ∨ next = .running) :
    Changes root spec .running (root.put spec.preparationId name .created) next
  | recordWritten {name value} : Changes root spec (.recording name value) (root.put spec.preparationId name (.written value)) .running

/-- What a call can do. -/
inductive JournalTakes (path : List UInt8 → String) (s : JournalState) : JournalReply × JournalState → Prop where
  | kept {reply : JournalReply} (plain : reply.Plain) : JournalTakes path s (reply, s)
  | confirmed {spec name value} (process : s.process = some ⟨spec, .running⟩)
      (found : s.root.read spec.preparationId name = some (.written value)) : JournalTakes path s (.recorded name value, s)
  | released {reply : JournalReply} (plain : reply.Plain) : JournalTakes path s (reply, { s with process := none })
  | began (spec : CapturePreparationSpec) : JournalTakes path s (.silent, { s with process := some ⟨spec, .opening⟩ })
  | moved {spec stage next} {reply : JournalReply} (process : s.process = some ⟨spec, stage⟩) (moves : Moves path s.root spec stage next)
      (plain : reply.Plain) : JournalTakes path s (reply, { s with process := some ⟨spec, next⟩ })
  | changed {spec stage root next} {reply : JournalReply} (process : s.process = some ⟨spec, stage⟩)
      (changes : Changes s.root spec stage root next) (plain : reply.Plain) :
    JournalTakes path s (reply, ⟨root, some ⟨spec, next⟩⟩)
  | dropped {spec stage root next} {reply : JournalReply} (process : s.process = some ⟨spec, stage⟩)
      (changes : Changes s.root spec stage root next) (plain : reply.Plain) : JournalTakes path s (reply, ⟨root, none⟩)
  | prepared {spec} (process : s.process = some ⟨spec, .writingIndex⟩) :
    JournalTakes path s (.prepared spec, ⟨{ s.root with index := some (.written spec.preparationId) }, some ⟨spec, .running⟩⟩)
  | recorded {spec name value} (process : s.process = some ⟨spec, .recording name value⟩) :
    JournalTakes path s (.recorded name value, ⟨s.root.put spec.preparationId name (.written value), some ⟨spec, .running⟩⟩)

namespace JournalState

variable {path : List UInt8 → String} {s : JournalState} {spec : CapturePreparationSpec}

theorem takes_apply {stage : JournalStage} (hprocess : s.process = some ⟨spec, stage⟩) (effect : Effect) {root : JournalRoot}
    {next : JournalStage} (changes : Changes s.root spec stage root next) : JournalTakes path s (s.apply spec effect root next) := by
  cases effect with
  | done => exact .changed hprocess changes trivial
  | refused => exact .released trivial
  | unconfirmed => exact .dropped hprocess changes trivial

theorem takes_advance {stage : JournalStage} (hprocess : s.process = some ⟨spec, stage⟩) (effect : Effect) :
    JournalTakes path s (s.advance path spec effect stage) := by
  cases stage with
  | opening =>
    cases effect with
    | done => exact .moved hprocess .opened trivial
    | refused => exact .released trivial
    | unconfirmed => exact .released trivial
  | looking =>
    simp only [advance]
    split
    · exact .moved hprocess .found trivial
    · exact .moved hprocess .unseen trivial
  | reading =>
    simp only [advance]
    split
    · rename_i hindex
      exact .moved hprocess (.read hindex) trivial
    · exact .released trivial
  | checking old =>
    simp only [advance]
    split
    · rename_i hcleared
      rw [Bool.and_eq_true] at hcleared
      exact .moved hprocess (.cleared hcleared.2) trivial
    · exact .released trivial
  | removing old => exact takes_apply hprocess effect .removed
  | makingDirectory =>
    simp only [advance]
    split
    · exact .released trivial
    · rename_i hfresh
      exact takes_apply hprocess effect (.made (by simpa using hfresh))
  | creatingBinding =>
    simp only [advance]
    split
    · rename_i habsent
      exact takes_apply hprocess effect (.bindingCreated habsent)
    · rename_i hfound
      split
      · rename_i hsame
        rw [Bool.and_eq_true, decide_eq_true_eq, decide_eq_true_eq] at hsame
        exact .moved hprocess (.bound (hfound.trans (congrArg some hsame.2))) trivial
      · exact .released trivial
  | writingBinding => exact takes_apply hprocess effect .bindingWritten
  | creatingIndex =>
    simp only [advance]
    split
    · exact .released trivial
    · rename_i habsent
      exact takes_apply hprocess effect (.indexCreated (by simpa using habsent))
  | writingIndex =>
    cases effect with
    | done => exact .prepared hprocess
    | refused => exact .released trivial
    | unconfirmed => exact .dropped hprocess .indexWritten trivial
  | running => exact .kept trivial
  | recording name value =>
    cases effect with
    | done => exact .recorded hprocess
    | refused => exact .moved hprocess .unwritten trivial
    | unconfirmed => exact .changed hprocess .recordWritten trivial

theorem takes_record (hprocess : s.process = some ⟨spec, .running⟩) (name : String) (value : Record) (effect : Effect) :
    JournalTakes path s (s.record spec name value effect) := by
  unfold record
  split
  · exact .kept trivial
  split
  · rename_i hfound
    split
    · rename_i hsame
      rw [Bool.and_eq_true, decide_eq_true_eq, decide_eq_true_eq] at hsame
      exact .confirmed hprocess (hfound.trans (congrArg some hsame.2))
    · exact .kept trivial
  · rename_i habsent
    cases effect with
    | done => exact .changed hprocess (.recordCreated habsent (Or.inl rfl)) trivial
    | refused => exact .kept trivial
    | unconfirmed =>
      have takes : JournalTakes path s (.failed .journalFailed, ⟨s.root.put spec.preparationId name .created, some ⟨spec, .running⟩⟩) :=
        .changed hprocess (Changes.recordCreated habsent (Or.inr rfl : _ = JournalStage.recording name value ∨ _)) trivial
      rw [← hprocess] at takes
      exact takes

end JournalState

theorem journal_takes (key : Nat × Nat × Nat) (path : List UInt8 → String) (s : JournalState) (input : JournalInput) :
    JournalTakes path s ((journalMachine key path).step s input) := by
  cases input with
  | begin spec =>
    simp only [journalMachine]
    split
    · exact .kept trivial
    split
    · exact .kept trivial
    split
    · exact .kept trivial
    · exact .began spec
  | advance effect =>
    simp only [journalMachine]
    split
    · rename_i process hprocess
      exact s.takes_advance hprocess effect
    · exact .kept trivial
  | record name value effect =>
    simp only [journalMachine]
    split
    · rename_i hprocess
      exact s.takes_record hprocess name value effect
    · exact .kept trivial
  | gone => exact .released trivial

/-! ### The directory -/

namespace JournalRoot

variable {root : JournalRoot} {epoch other : List UInt8} {name entry : String} {file : File Record}

theorem read_put_self (h : (root.epochs epoch).isSome = true) : (root.put epoch name file).read epoch name = some file := by
  obtain ⟨records, hrecords⟩ := Option.isSome_iff_exists.mp h
  simp [read, put, hrecords]

theorem read_put_other (h : ¬(other = epoch ∧ entry = name)) : (root.put epoch name file).read other entry = root.read other entry := by
  by_cases hepoch : other = epoch
  · have hentry : entry ≠ name := fun hentry => h ⟨hepoch, hentry⟩
    cases hrecords : root.epochs other with
    | none => simp [read, put, hrecords]
    | some records => simp [read, put, hepoch ▸ hrecords, hepoch, hentry]
  · simp [read, put, hepoch]

theorem read_createDir (h : other ≠ epoch) : (root.createDir epoch).read other entry = root.read other entry := by
  simp [read, createDir, h]

theorem isSome_put : ((root.put epoch name file).epochs other).isSome = (root.epochs other).isSome := by
  unfold put
  dsimp only
  split
  · exact Option.isSome_map
  · rfl

theorem made_of_read {found : File Record} (h : root.read epoch name = some found) : (root.epochs epoch).isSome = true := by
  cases hrecords : root.epochs epoch with
  | none => simp [read, hrecords] at h
  | some records => rfl

/-- What is written stays. -/
structure Keeps (root next : JournalRoot) : Prop where
  written : ∀ epoch name content, root.read epoch name = some (.written content) → next.read epoch name = some (.written content)
  made : ∀ epoch, (root.epochs epoch).isSome = true → (next.epochs epoch).isSome = true

theorem keeps_index (index : Option (File (List UInt8))) : root.Keeps { root with index := index } :=
  ⟨fun _ _ _ h => h, fun _ h => h⟩

theorem keeps_createDir (h : root.epochs epoch = none) : root.Keeps (root.createDir epoch) where
  written other entry content hread := by
    rw [read_createDir]
    · exact hread
    · rintro rfl
      simp [read, h] at hread
  made other hmade := by
    unfold createDir
    dsimp only
    split
    · rfl
    · exact hmade

theorem keeps_put (h : ∀ content, root.read epoch name ≠ some (.written content)) : root.Keeps (root.put epoch name file) where
  written other entry content hread := by
    rw [read_put_other]
    · exact hread
    · rintro ⟨rfl, rfl⟩
      exact h content hread
  made other hmade := by rw [isSome_put]; exact hmade

end JournalRoot

/-- The epoch of the preparation is settled, as `prepare` asks for it. -/
def JournalRoot.Settled (path : List UInt8 → String) (root : JournalRoot) (spec : CapturePreparationSpec) : Prop :=
  ∃ status : CapturePreparationStatus, root.read spec.preparationId "settled" = some (.written (.status status)) ∧
    status.clears spec.preparationId (path spec.preparationId) = true

theorem JournalRoot.Settled.keep {path : List UInt8 → String} {root next : JournalRoot} {spec : CapturePreparationSpec}
    (h : root.Settled path spec) (hkeeps : root.Keeps next) : next.Settled path spec := by
  obtain ⟨status, hread, hclears⟩ := h
  exact ⟨status, hkeeps.written _ _ _ hread, hclears⟩

/-- An epoch that `prepare` finds cleared is settled, whichever preparation it was made for. -/
theorem JournalRoot.settled_of_cleared {path : List UInt8 → String} {root : JournalRoot} {spec old : CapturePreparationSpec}
    (h : root.cleared path spec old.preparationId = true) : root.Settled path old := by
  unfold cleared at h
  split at h
  · rename_i binding status hbinding hsettled
    simp only [Bool.and_eq_true, decide_eq_true_eq] at h
    obtain ⟨⟨⟨-, hid⟩, -⟩, hclears⟩ := h
    rw [← hid] at hclears
    exact ⟨status, hsettled, hclears⟩
  · cases h

/-! ### The process -/

section
variable {path : List UInt8 → String} {root next : JournalRoot} {spec : CapturePreparationSpec} {stage after : JournalStage}

/-- What the process has found or made on the way to its stage. -/
def JournalRoot.Holds (path : List UInt8 → String) (root : JournalRoot) (spec : CapturePreparationSpec) : JournalStage → Prop
  | .opening | .looking | .reading | .makingDirectory => True
  | .checking old => root.index = some (.written old)
  | .removing old => root.index = some (.written old) ∧ root.cleared path spec old = true
  | .creatingBinding => (root.epochs spec.preparationId).isSome = true
  | .writingBinding => root.read spec.preparationId "binding" = some .created
  | .creatingIndex => root.read spec.preparationId "binding" = some (.written (.spec spec))
  | .writingIndex => root.read spec.preparationId "binding" = some (.written (.spec spec)) ∧ root.index = some .created
  | .running => root.read spec.preparationId "binding" = some (.written (.spec spec))
  | .recording name _ =>
    root.read spec.preparationId "binding" = some (.written (.spec spec)) ∧ root.read spec.preparationId name = some .created

theorem holds_moves (h : root.Holds path spec stage) (hmoves : Moves path root spec stage after) : root.Holds path spec after := by
  cases hmoves with
  | opened => trivial
  | found => trivial
  | unseen => trivial
  | read indexed => exact indexed
  | cleared cleared => exact ⟨h, cleared⟩
  | bound written => exact written
  | unwritten => exact h.1

theorem keeps_changes (h : root.Holds path spec stage) (hchanges : Changes root spec stage next after) : root.Keeps next := by
  cases hchanges with
  | removed => exact JournalRoot.keeps_index none
  | made fresh => exact JournalRoot.keeps_createDir fresh
  | bindingCreated absent => exact JournalRoot.keeps_put fun content hread => (by rw [absent] at hread; cases hread)
  | bindingWritten => exact JournalRoot.keeps_put fun content hread => (by cases (show _ = _ from h).symm.trans hread)
  | indexCreated absent => exact JournalRoot.keeps_index _
  | indexWritten => exact JournalRoot.keeps_index _
  | recordCreated absent follows => exact JournalRoot.keeps_put fun content hread => (by rw [absent] at hread; cases hread)
  | recordWritten => exact JournalRoot.keeps_put fun content hread => (by cases h.2.symm.trans hread)

theorem holds_changes (h : root.Holds path spec stage) (hchanges : Changes root spec stage next after) : next.Holds path spec after := by
  have hkeeps := keeps_changes h hchanges
  cases hchanges with
  | removed => trivial
  | made fresh => simp [JournalRoot.Holds, JournalRoot.createDir]
  | bindingCreated absent => exact JournalRoot.read_put_self h
  | bindingWritten => exact JournalRoot.read_put_self (JournalRoot.made_of_read h)
  | indexCreated absent => exact ⟨h, rfl⟩
  | indexWritten => exact h.1
  | recordCreated absent follows =>
    have hbinding := hkeeps.written _ _ _ h
    rcases follows with rfl | rfl
    · exact ⟨hbinding, JournalRoot.read_put_self (JournalRoot.made_of_read h)⟩
    · exact hbinding
  | recordWritten => exact hkeeps.written _ _ _ h.1

end

/-- The process of the state has what its stage says. -/
def JournalState.Held (path : List UInt8 → String) (s : JournalState) : Prop :=
  ∀ spec stage, s.process = some ⟨spec, stage⟩ → s.root.Holds path spec stage

theorem held_step {key : Nat × Nat × Nat} {path : List UInt8 → String} {s : JournalState} (h : s.Held path) (input : JournalInput) :
    ((journalMachine key path).step s input).2.Held path := by
  have htakes := journal_takes key path s input
  generalize (journalMachine key path).step s input = result at htakes ⊢
  cases htakes with
  | kept plain => exact h
  | confirmed process found => exact h
  | released plain => exact fun _ _ hprocess => (by cases hprocess)
  | began spec => exact fun _ _ hprocess => (by cases hprocess; trivial)
  | moved process moves plain => exact fun _ _ hprocess => (by cases hprocess; exact holds_moves (h _ _ process) moves)
  | changed process changes plain => exact fun _ _ hprocess => (by cases hprocess; exact holds_changes (h _ _ process) changes)
  | dropped process changes plain => exact fun _ _ hprocess => (by cases hprocess)
  | prepared process => exact fun _ _ hprocess => (by cases hprocess; exact holds_changes (h _ _ process) .indexWritten)
  | recorded process => exact fun _ _ hprocess => (by cases hprocess; exact holds_changes (h _ _ process) .recordWritten)

/-! ### Preparations that were let through -/

/-- A preparation that was let through is settled, or the index names it. -/
def JournalRoot.Guards (path : List UInt8 → String) (root : JournalRoot) (old : CapturePreparationSpec) : Prop :=
  root.Settled path old ∨ root.index = some (.written old.preparationId)

theorem guards_changes {path : List UInt8 → String} {root next : JournalRoot} {spec old : CapturePreparationSpec}
    {stage after : JournalStage} (h : root.Holds path spec stage) (hchanges : Changes root spec stage next after)
    (hguards : root.Guards path old) : next.Guards path old := by
  have hkeeps := keeps_changes h hchanges
  rcases hguards with hsettled | hindex
  · exact Or.inl (hsettled.keep hkeeps)
  cases hchanges with
  | removed =>
    have hsame := File.written.inj (Option.some.inj (h.1.symm.trans hindex))
    have hcleared := h.2
    rw [hsame] at hcleared
    exact Or.inl ((JournalRoot.settled_of_cleared hcleared).keep hkeeps)
  | made fresh => exact Or.inr hindex
  | bindingCreated absent => exact Or.inr hindex
  | bindingWritten => exact Or.inr hindex
  | indexCreated absent =>
    rw [hindex] at absent
    cases absent
  | indexWritten =>
    have hcreated := h.2
    rw [hindex] at hcreated
    cases hcreated
  | recordCreated absent follows => exact Or.inr hindex
  | recordWritten => exact Or.inr hindex

theorem guards_step {key : Nat × Nat × Nat} {path : List UInt8 → String} {s : JournalState} {old : CapturePreparationSpec}
    (h : s.Held path) (hguards : s.root.Guards path old) (input : JournalInput) :
    ((journalMachine key path).step s input).2.root.Guards path old := by
  have htakes := journal_takes key path s input
  generalize (journalMachine key path).step s input = result at htakes ⊢
  cases htakes with
  | kept plain => exact hguards
  | confirmed process found => exact hguards
  | released plain => exact hguards
  | began spec => exact hguards
  | moved process moves plain => exact hguards
  | changed process changes plain => exact guards_changes (h _ _ process) changes hguards
  | dropped process changes plain => exact guards_changes (h _ _ process) changes hguards
  | prepared process => exact guards_changes (h _ _ process) .indexWritten hguards
  | recorded process => exact guards_changes (h _ _ process) .recordWritten hguards

theorem prepared_takes {path : List UInt8 → String} {s next : JournalState} {spec : CapturePreparationSpec}
    (h : JournalTakes path s (.prepared spec, next)) :
    s.process = some ⟨spec, .writingIndex⟩ ∧ next.root.index = some (.written spec.preparationId) := by
  cases h with
  | kept plain => cases plain
  | released plain => cases plain
  | moved process moves plain => cases plain
  | changed process changes plain => cases plain
  | dropped process changes plain => cases plain
  | prepared process => exact ⟨process, rfl⟩

/-- Where a preparation is let through, the one before is settled. -/
theorem settled_before {path : List UInt8 → String} {s next : JournalState} {spec old : CapturePreparationSpec} (h : s.Held path)
    (hguards : s.root.Guards path old) (htakes : JournalTakes path s (.prepared spec, next)) : s.root.Settled path old := by
  obtain ⟨hprocess, -⟩ := prepared_takes htakes
  refine hguards.resolve_right fun hindex => ?_
  have hcreated := (h _ _ hprocess).2
  rw [hindex] at hcreated
  cases hcreated

theorem recorded_takes {path : List UInt8 → String} {s next : JournalState} {name : String} {value : Record} (hs : s.Held path)
    (h : JournalTakes path s (.recorded name value, next)) :
    ∃ spec stage, s.process = some ⟨spec, stage⟩ ∧ next.root.read spec.preparationId name = some (.written value) := by
  cases h with
  | kept plain => cases plain
  | confirmed process found => exact ⟨_, _, process, found⟩
  | released plain => cases plain
  | moved process moves plain => cases plain
  | changed process changes plain => cases plain
  | dropped process changes plain => cases plain
  | recorded process => exact ⟨_, _, process, JournalRoot.read_put_self (JournalRoot.made_of_read (hs _ _ process).2)⟩

theorem keeps_step {key : Nat × Nat × Nat} {path : List UInt8 → String} {s : JournalState} (h : s.Held path) (input : JournalInput) :
    s.root.Keeps ((journalMachine key path).step s input).2.root := by
  have keeps : s.root.Keeps s.root := JournalRoot.keeps_index s.root.index
  have htakes := journal_takes key path s input
  generalize (journalMachine key path).step s input = result at htakes ⊢
  cases htakes with
  | kept plain => exact keeps
  | confirmed process found => exact keeps
  | released plain => exact keeps
  | began spec => exact keeps
  | moved process moves plain => exact keeps
  | changed process changes plain => exact keeps_changes (h _ _ process) changes
  | dropped process changes plain => exact keeps_changes (h _ _ process) changes
  | prepared process => exact keeps_changes (h _ _ process) .indexWritten
  | recorded process => exact keeps_changes (h _ _ process) .recordWritten

/-! ### An index that was not written -/

/-- The stages from which a process comes to the index without having seen one. -/
def JournalStage.unindexed : JournalStage → Bool
  | opening | looking | reading | makingDirectory | creatingBinding | writingBinding | creatingIndex => true
  | checking _ | removing _ | writingIndex | running | recording _ _ => false

/-- A crash has left the index empty. -/
def JournalState.Torn (s : JournalState) : Prop :=
  s.root.index = some .created ∧ ∀ spec stage, s.process = some ⟨spec, stage⟩ → stage.unindexed = true

theorem torn_step {key : Nat × Nat × Nat} {path : List UInt8 → String} {s : JournalState} (h : s.Torn) (input : JournalInput) :
    ((journalMachine key path).step s input).2.Torn := by
  have htakes := journal_takes key path s input
  generalize (journalMachine key path).step s input = result at htakes ⊢
  have moved {spec : CapturePreparationSpec} {stage next : JournalStage} (process : s.process = some ⟨spec, stage⟩)
      (moves : Moves path s.root spec stage next) : next.unindexed = true := by
    have hstage := h.2 _ _ process
    cases moves with
    | read indexed =>
      rw [h.1] at indexed
      cases indexed
    | cleared => cases hstage
    | unwritten => cases hstage
    | opened | found | unseen | bound => rfl
  have changed {spec : CapturePreparationSpec} {stage next : JournalStage} {root : JournalRoot} (process : s.process = some ⟨spec, stage⟩)
      (changes : Changes s.root spec stage root next) : root.index = some .created ∧ next.unindexed = true := by
    have hstage := h.2 _ _ process
    cases changes with
    | made | bindingCreated | bindingWritten => exact ⟨h.1, rfl⟩
    | indexCreated absent =>
      rw [h.1] at absent
      cases absent
    | removed | indexWritten | recordCreated | recordWritten => cases hstage
  cases htakes with
  | kept plain => exact h
  | confirmed process found => exact h
  | released plain => exact ⟨h.1, fun _ _ hprocess => (by cases hprocess)⟩
  | began spec => exact ⟨h.1, fun _ _ hprocess => (by cases hprocess; rfl)⟩
  | moved process moves plain => exact ⟨h.1, fun _ _ hprocess => (by cases hprocess; exact moved process moves)⟩
  | changed process changes plain =>
    exact ⟨(changed process changes).1, fun _ _ hprocess => (by cases hprocess; exact (changed process changes).2)⟩
  | dropped process changes plain => exact ⟨(changed process changes).1, fun _ _ hprocess => (by cases hprocess)⟩
  | prepared process => cases h.2 _ _ process
  | recorded process => cases h.2 _ _ process

/-! ### Runs -/

section
variable (key : Nat × Nat × Nat) (path : List UInt8 → String) (inputs : List JournalInput)

def JournalState.empty : JournalState := ⟨⟨none, fun _ => none⟩, none⟩

theorem held_empty : JournalState.empty.Held path := fun _ _ h => (by cases h)

/-- In every run, whatever crashes: a preparation is let through only when each that was let through before is settled. -/
theorem prepared_after_settled :
    ((journalMachine key path).trace .empty inputs).Pairwise fun a b => ∀ old new, a.output = .prepared old →
      b.output = .prepared new → b.before.root.Settled path old := by
  rw [List.pairwise_iff_forall_sublist]
  intro a b hsub old new ha hb
  have never := Machine.never_after (m := journalMachine key path) (I := JournalState.Held path)
    (P := fun s => s.root.Guards path old) (A := fun a => a.output = .prepared old)
    (B := fun b => b.output = .prepared new ∧ ¬b.before.root.Settled path old)
    (fun _ i h => held_step h i) (fun s i h ha => ?_) (fun s i h hp => guards_step h hp i)
    (fun s i h hp hb => ?_) inputs (s := JournalState.empty) (held_empty path)
  · by_contra hunsettled
    exact List.pairwise_iff_forall_sublist.mp never hsub ha ⟨hb, hunsettled⟩
  · have htakes := journal_takes key path s i
    rw [← Prod.eta ((journalMachine key path).step s i), show ((journalMachine key path).step s i).1 = .prepared old from ha] at htakes
    exact Or.inr (prepared_takes htakes).2
  · have htakes := journal_takes key path s i
    rw [← Prod.eta ((journalMachine key path).step s i), show ((journalMachine key path).step s i).1 = .prepared new from hb.1] at htakes
    exact hb.2 (settled_before h hp htakes)

/-- A record that is written is never changed, and `record` succeeds only where the file holds the value. -/
theorem records_kept : ∀ call ∈ (journalMachine key path).trace .empty inputs,
    (∀ epoch name content, call.before.root.read epoch name = some (.written content) →
      call.after.root.read epoch name = some (.written content)) ∧
    ∀ name value, call.output = .recorded name value → ∃ spec stage, call.before.process = some ⟨spec, stage⟩ ∧
      call.after.root.read spec.preparationId name = some (.written value) := by
  intro call hmem
  have hheld := Machine.inv_before (I := JournalState.Held path) (fun _ i h => held_step h i) (held_empty path) hmem
  rw [Machine.eq_call_of_mem hmem]
  refine ⟨(keeps_step hheld call.input).written, fun name value hrecorded => ?_⟩
  have htakes := journal_takes key path call.before call.input
  rw [← Prod.eta ((journalMachine key path).step call.before call.input),
    show ((journalMachine key path).step call.before call.input).1 = .recorded name value from hrecorded] at htakes
  exact recorded_takes hheld htakes

/-! A record on a journal that nothing disturbs. -/

def sampleSpec : CapturePreparationSpec := ⟨[1], sampleTarget, [], maxPreparationLifetimeMs, 1, "C:/journal"⟩

/-- The record is created, and not yet written. -/
def recordCreated : List JournalInput :=
  .begin sampleSpec :: List.replicate 7 (.advance .done) ++ [.record "evidence" (.other [1]) .done]

theorem evidence_recorded : ∃ spec stage,
    ((journalMachine sampleSpec.key fun _ => "").final .empty recordCreated).process = some ⟨spec, stage⟩ ∧
    ((journalMachine sampleSpec.key fun _ => "").final .empty (recordCreated ++ [.advance .done])).root.read
      spec.preparationId "evidence" = some (.written (.other [1])) := by
  have hlast : (journalMachine sampleSpec.key fun _ => "").call
      ((journalMachine sampleSpec.key fun _ => "").final .empty recordCreated) (.advance .done) ∈
      (journalMachine sampleSpec.key fun _ => "").trace .empty (recordCreated ++ [.advance .done]) := by
    rw [Machine.trace_append]
    exact List.mem_append_right _ (List.mem_singleton_self _)
  rw [Machine.final_append]
  exact (records_kept sampleSpec.key (fun _ => "") _ _ hlast).2 "evidence" (.other [1]) (by decide +kernel)

/-- Where a process is gone between the creation of the index and its writing, no preparation is let through any more. -/
theorem torn_index_blocks :
    ((journalMachine key path).trace .empty inputs).Pairwise fun a b =>
      a.after.root.index = some .created ∧ a.after.process = none → ∀ new, b.output ≠ .prepared new := by
  have never := Machine.never_after (m := journalMachine key path) (I := fun _ => True) (P := JournalState.Torn)
    (A := fun a => a.after.root.index = some .created ∧ a.after.process = none)
    (B := fun b => ∃ new, b.output = .prepared new)
    (fun _ _ _ => trivial) (fun s i _ ha => ⟨ha.1, fun _ _ hprocess => ?_⟩) (fun s i _ hp => torn_step hp i)
    (fun s i _ hp hb => ?_) inputs (s := JournalState.empty) trivial
  · exact never.imp fun h ha new hb => h ha ⟨new, hb⟩
  · rw [show ((journalMachine key path).step s i).2.process = none from ha.2] at hprocess
    cases hprocess
  · obtain ⟨new, hb⟩ := hb
    have htakes := journal_takes key path s i
    rw [← Prod.eta ((journalMachine key path).step s i), show ((journalMachine key path).step s i).1 = .prepared new from hb] at htakes
    cases hp.2 _ _ (prepared_takes htakes).1

end

/-! ### A prepare that nothing interferes with -/

section
variable {key : Nat × Nat × Nat} {path : List UInt8 → String} {spec : CapturePreparationSpec} {root : JournalRoot} {stage : JournalStage}

end

end CapturePreparation
end DccCua
