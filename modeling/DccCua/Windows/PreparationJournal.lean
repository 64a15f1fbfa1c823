import DccCua.Paths
import DccCua.Windows.CapturePreparation

/-! # The journal of capture preparations

`Journal` of `capture_preparation/journal.rs` for one target in one directory, under the gate of the target. A file is created and
then written whole, each in one step; the value of a record stands for the bytes it is serialised to. Each step of the file system
is carried out, refused, or carried out and not confirmed, as the input says, and the process can be gone between any two of them.
A directory or a file that is not an ordinary one counts as refused. -/

namespace DccCua
namespace CapturePreparation

structure CapturePreparationSpec where
  preparationId : List UInt8
  target : PreparationWindowIdentity
  allowedAffectedScope : List PreparationWindowIdentity
  lifetimeMs : Nat
  authorizationDeadlineMs : Nat
  journalDirectory : String
  deriving DecidableEq, Repr

def maxPreparationLifetimeMs : Nat := 30000

def maxAffectedWindows : Nat := 32

def PreparationWindowIdentity.complete (identity : PreparationWindowIdentity) : Bool :=
  identity.processId ≠ 0 && identity.windowHandle ≠ 0 && identity.nativeInstance.processCreationTime100ns ≠ 0 &&
    identity.nativeInstance.windowThreadId ≠ 0 && identity.nativeInstance.windowClassHash ≠ 0 &&
    identity.executable.canonicalImagePath ≠ "" && identity.executable.fileId ≠ List.replicate 16 0

namespace CapturePreparationSpec

/-- `validate`, whose only error is `InvalidBinding`. -/
def validate (s : CapturePreparationSpec) : Bool :=
  s.preparationId ≠ List.replicate 16 0 && s.lifetimeMs ≠ 0 && s.lifetimeMs ≤ maxPreparationLifetimeMs &&
    s.authorizationDeadlineMs ≠ 0 && s.allowedAffectedScope.length < maxAffectedWindows &&
    Platform.windows.isAbsolute s.journalDirectory &&
    (s.target :: s.allowedAffectedScope).all PreparationWindowIdentity.complete &&
    ((s.target :: s.allowedAffectedScope).map (·.windowHandle)).Nodup

/-- What the names of the index and of the gate are made of. -/
def key (s : CapturePreparationSpec) : Nat × Nat × Nat :=
  (s.target.processId, s.target.nativeInstance.processCreationTime100ns, s.target.windowHandle)

end CapturePreparationSpec

inductive File (α : Type) where
  | created
  | written (content : α)
  deriving DecidableEq, Repr

inductive Record where
  | spec (spec : CapturePreparationSpec)
  | status (status : CapturePreparationStatus)
  | other (bytes : List UInt8)
  deriving DecidableEq, Repr

/-- The directory: the index of the target, which holds the path of an epoch, and the epochs by the id in their name. -/
structure JournalRoot where
  index : Option (File (List UInt8))
  epochs : List UInt8 → Option (String → Option (File Record))

namespace JournalRoot

def read (root : JournalRoot) (epoch : List UInt8) (name : String) : Option (File Record) :=
  (root.epochs epoch).bind (· name)

def createDir (root : JournalRoot) (epoch : List UInt8) : JournalRoot :=
  { root with epochs := fun other => if other = epoch then some fun _ => none else root.epochs other }

def put (root : JournalRoot) (epoch : List UInt8) (name : String) (file : File Record) : JournalRoot :=
  { root with epochs := fun other =>
      if other = epoch then (root.epochs other).map fun records entry => if entry = name then some file else records entry
      else root.epochs other }

end JournalRoot

/-- What `prepare` asks of the `settled` record of an epoch in `directory`. -/
def CapturePreparationStatus.clears (settled : CapturePreparationStatus) (epoch : List UInt8) (directory : String) : Bool :=
  settled.preparationId = epoch && settled.journalPath = directory && settled.cleanupVerified && settled.captureRevoked &&
    settled.pendingSequence.isNone && (settled.phase = .restored || settled.phase = .refused)

/-- `path` gives the directory of an epoch. -/
def JournalRoot.cleared (path : List UInt8 → String) (root : JournalRoot) (spec : CapturePreparationSpec) (old : List UInt8) : Bool :=
  match root.read old "binding", root.read old "settled" with
  | some (.written (.spec binding)), some (.written (.status settled)) =>
    binding.validate && old = binding.preparationId && binding.target = spec.target &&
      settled.clears binding.preparationId (path old)
  | _, _ => false

/-- Where a process is that holds the gate: what it does next. -/
inductive JournalStage where
  /-- The directory of the journal is made, where it is missing. -/
  | opening
  /-- `symlink_metadata` of the index. -/
  | looking
  | reading
  | checking (old : List UInt8)
  | removing (old : List UInt8)
  | makingDirectory
  | creatingBinding
  | writingBinding
  | creatingIndex
  | writingIndex
  /-- `prepare` has returned, and the worker records what it does. -/
  | running
  /-- The file of the record is created. -/
  | recording (name : String) (value : Record)
  deriving DecidableEq, Repr

structure JournalProcess where
  spec : CapturePreparationSpec
  stage : JournalStage
  deriving DecidableEq, Repr

structure JournalState where
  root : JournalRoot
  process : Option JournalProcess

inductive Effect where
  | done
  | refused
  /-- Carried out, but an error is reported. -/
  | unconfirmed
  deriving DecidableEq, Repr

inductive JournalInput where
  /-- A process takes the gate and calls `prepare`. -/
  | begin (spec : CapturePreparationSpec)
  | advance (effect : Effect)
  | record (name : String) (value : Record) (effect : Effect)
  | gone

inductive JournalReply where
  | silent
  | prepared (spec : CapturePreparationSpec)
  | failed (reason : PreparationFailure)
  | recorded (name : String) (value : Record)
  deriving DecidableEq, Repr

namespace JournalState

/-- `prepare` fails, and the gate is released. -/
def fail (s : JournalState) (reason : PreparationFailure) : JournalReply × JournalState := (.failed reason, { s with process := none })

/-- A change of the directory, and what the process does next once it is confirmed. -/
def apply (s : JournalState) (spec : CapturePreparationSpec) (effect : Effect) (root : JournalRoot) (next : JournalStage) :
    JournalReply × JournalState :=
  match effect with
  | .done => (.silent, { root := root, process := some ⟨spec, next⟩ })
  | .refused => s.fail .journalFailed
  | .unconfirmed => { s with root := root }.fail .journalFailed

/-- The next step of `prepare`, or the second step of `record`. -/
def advance (path : List UInt8 → String) (s : JournalState) (spec : CapturePreparationSpec) (effect : Effect) :
    JournalStage → JournalReply × JournalState
  | .opening => s.apply spec effect s.root .looking
  | .looking =>
    if effect = .done && s.root.index.isSome then (.silent, { s with process := some ⟨spec, .reading⟩ })
    else (.silent, { s with process := some ⟨spec, .makingDirectory⟩ })
  | .reading =>
    match effect, s.root.index with
    | .done, some (.written old) => (.silent, { s with process := some ⟨spec, .checking old⟩ })
    | _, _ => s.fail .journalFailed
  | .checking old =>
    if effect = .done && s.root.cleared path spec old then (.silent, { s with process := some ⟨spec, .removing old⟩ })
    else s.fail .gateBusy
  | .removing _ => s.apply spec effect { s.root with index := none } .makingDirectory
  | .makingDirectory =>
    if (s.root.epochs spec.preparationId).isSome then s.fail .journalFailed
    else s.apply spec effect (s.root.createDir spec.preparationId) .creatingBinding
  | .creatingBinding =>
    match s.root.read spec.preparationId "binding" with
    | none => s.apply spec effect (s.root.put spec.preparationId "binding" .created) .writingBinding
    | some found =>
      if effect = .done && found = .written (.spec spec) then (.silent, { s with process := some ⟨spec, .creatingIndex⟩ })
      else s.fail .journalFailed
  | .writingBinding => s.apply spec effect (s.root.put spec.preparationId "binding" (.written (.spec spec))) .creatingIndex
  | .creatingIndex =>
    if s.root.index.isSome then s.fail .journalFailed else s.apply spec effect { s.root with index := some .created } .writingIndex
  | .writingIndex =>
    match effect with
    | .done => (.prepared spec,
        { root := { s.root with index := some (.written spec.preparationId) }, process := some ⟨spec, .running⟩ })
    | effect => s.apply spec effect { s.root with index := some (.written spec.preparationId) } .running
  | .running => (.silent, s)
  | .recording name value =>
    let written := s.root.put spec.preparationId name (.written value)
    match effect with
    | .done => (.recorded name value, { root := written, process := some ⟨spec, .running⟩ })
    | .refused => (.failed .journalFailed, { s with process := some ⟨spec, .running⟩ })
    | .unconfirmed => (.failed .journalFailed, { root := written, process := some ⟨spec, .running⟩ })

def isRecordName (name : String) : Bool := name ≠ "" && name.toList.all fun c => c.isAlphanum || c = '-'

/-- The first step of `record`, by the worker. -/
def record (s : JournalState) (spec : CapturePreparationSpec) (name : String) (value : Record) (effect : Effect) :
    JournalReply × JournalState :=
  if !isRecordName name then (.failed .journalFailed, s)
  else
    match s.root.read spec.preparationId name with
    | some found => if effect = .done && found = .written value then (.recorded name value, s) else (.failed .journalFailed, s)
    | none =>
      let created := s.root.put spec.preparationId name .created
      match effect with
      | .done => (.silent, { root := created, process := some ⟨spec, .recording name value⟩ })
      | .refused => (.failed .journalFailed, s)
      | .unconfirmed => (.failed .journalFailed, { s with root := created })

end JournalState

/-- A step that nobody can take leaves the state as it is, and a preparation of another target has another index. -/
def journalMachine (key : Nat × Nat × Nat) (path : List UInt8 → String) : Runs.Machine JournalState JournalInput JournalReply where
  step s
    | .begin spec =>
      if spec.key ≠ key then (.silent, s)
      else if !spec.validate then (.failed .invalidBinding, s)
      else if s.process.isSome then (.failed .gateBusy, s)
      else (.silent, { s with process := some ⟨spec, .opening⟩ })
    | .advance effect =>
      match s.process with
      | some process => s.advance path process.spec effect process.stage
      | none => (.silent, s)
    | .record name value effect =>
      match s.process with
      | some ⟨spec, .running⟩ => s.record spec name value effect
      | _ => (.silent, s)
    | .gone => (.silent, { s with process := none })

end CapturePreparation
end DccCua
