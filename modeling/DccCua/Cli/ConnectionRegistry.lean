import DccCua.Lib.Runs
import Mathlib.Data.List.Nodup
import Mathlib.Data.List.Sort

/-! # The registry of connections

`registry.rs`: each bridge publishes a record of its connection in a common directory, and on some occasions runs
`retain_recent_terminal_records`, which lists the directory, ranks the terminal records and removes what is beyond the most
recent ones, each after another look at it. The runs of all bridges share the directory, so each of their accesses to it is a
step. A terminal record is not published again, and the directory gives each name once in a listing. -/

namespace DccCua
namespace ConnectionRegistry

def maxScanEntries : Nat := 1024
def maxTerminalRecords : Nat := 128

inductive ConnectionState where
  | connected
  | initialized
  | closed
  deriving DecidableEq, Repr

structure ProcessIdentity where
  pid : Nat
  creationId : Option String
  deriving DecidableEq, Repr

/-- `connectionId` is the UUID of the id. -/
structure ConnectionRecord where
  connectionId : Nat
  bridge : ProcessIdentity
  createdAtUnixMs : Nat
  lastActivityAtUnixMs : Nat
  closedAtUnixMs : Option Nat
  state : ConnectionState
  deriving DecidableEq, Repr

/-- What the terminal records are sorted by, the greatest first. -/
def ConnectionRecord.recency (record : ConnectionRecord) : Nat := record.closedAtUnixMs.getD record.lastActivityAtUnixMs

/-- The records by their names. -/
structure Directory where
  records : List ConnectionRecord
  distinct : (records.map ConnectionRecord.connectionId).Nodup

namespace Directory

/-- `read_record`. -/
def find? (directory : Directory) (id : Nat) : Option ConnectionRecord :=
  directory.records.find? fun record => record.connectionId = id

/-- `remove_file`. -/
def delete (directory : Directory) (id : Nat) : Directory where
  records := directory.records.filter fun record => record.connectionId ≠ id
  distinct := directory.distinct.sublist (List.filter_sublist.map _)

/-- `replace_record`. -/
def put (directory : Directory) (record : ConnectionRecord) : Directory where
  records := (directory.delete record.connectionId).records ++ [record]
  distinct := by
    rw [List.map_append, List.nodup_append]
    refine ⟨(directory.delete record.connectionId).distinct, List.nodup_singleton _, ?_⟩
    rintro _ hid _ hrecord rfl
    obtain ⟨other, hother, hsame⟩ := List.mem_map.mp hid
    rw [List.map_singleton, List.mem_singleton] at hrecord
    exact of_decide_eq_true (List.mem_filter.mp hother).2 (hsame.trans hrecord)

end Directory

/-- `process_identity::status` reports the end of a process: only of one that has ended, that has a creation id, and that is
    not among those of which nothing is known. -/
def reportsEnded (ended unknown : List ProcessIdentity) (bridge : ProcessIdentity) : Bool :=
  bridge.creationId.isSome && ended.contains bridge && !unknown.contains bridge

/-- A run of `retain_recent_terminal_records`. `removing` stands between the second look at a record and its removal. -/
inductive RetentionRun where
  | listing (scanned : Nat) (read : List ConnectionRecord)
  | pruning (kept surplus : List ConnectionRecord)
  | removing (kept : List ConnectionRecord) (record : ConnectionRecord) (surplus : List ConnectionRecord)
  deriving DecidableEq, Repr

/-- `removed` are the records that have been removed, as they were then. -/
structure Registry where
  directory : Directory
  removed : List ConnectionRecord
  ended : List ProcessIdentity
  runs : List RetentionRun

inductive RegistryInput where
  | publish (record : ConnectionRecord)
  | exit (process : ProcessIdentity)
  | start
  /-- An entry of the listing, by the name of a record; `none` is any other entry. -/
  | scan (run : Nat) (entry : Option Nat)
  | rank (run : Nat) (unknown : List ProcessIdentity)
  | recheck (run : Nat) (unknown : List ProcessIdentity)
  | remove (run : Nat)
  deriving DecidableEq, Repr

/-- The record qualifies for removal. -/
def qualifies (ended unknown : List ProcessIdentity) (record : ConnectionRecord) : Bool :=
  record.state = .closed || reportsEnded ended unknown record.bridge

/-- `sort_by_key` with `Reverse`. -/
def sortByRecency (records : List ConnectionRecord) : List ConnectionRecord :=
  records.insertionSort fun a b => b.recency ≤ a.recency

namespace Registry

/-- The record will not change: it is closed, or its process has ended. -/
def isTerminal (s : Registry) (record : ConnectionRecord) : Bool := record.state = .closed || s.ended.contains record.bridge

/-- The bridge of the record lives, and has not closed it. -/
def mayPublish (s : Registry) (record : ConnectionRecord) : Bool :=
  !s.ended.contains record.bridge && (s.directory.find? record.connectionId).all (fun current => !s.isTerminal current) &&
    s.removed.all fun other => other.connectionId ≠ record.connectionId

def setRun (s : Registry) (run : Nat) (next : RetentionRun) : Registry := { s with runs := s.runs.set run next }

def scan (s : Registry) (run : Nat) (entry : Option Nat) : Registry :=
  match s.runs[run]? with
  | some (.listing scanned read) =>
    if maxScanEntries ≤ scanned then s
    else match entry with
      | none => s.setRun run (.listing (scanned + 1) read)
      | some id =>
        if read.any (·.connectionId = id) then s
        else s.setRun run (.listing (scanned + 1) (read ++ (s.directory.find? id).toList))
  | _ => s

def rank (s : Registry) (run : Nat) (unknown : List ProcessIdentity) : Registry :=
  match s.runs[run]? with
  | some (.listing _ read) =>
    let terminal := sortByRecency (read.filter (qualifies s.ended unknown))
    s.setRun run (.pruning (terminal.take maxTerminalRecords) (terminal.drop maxTerminalRecords))
  | _ => s

def recheck (s : Registry) (run : Nat) (unknown : List ProcessIdentity) : Registry :=
  match s.runs[run]? with
  | some (.pruning kept (record :: surplus)) =>
    if (s.directory.find? record.connectionId).any fun current =>
        current.createdAtUnixMs = record.createdAtUnixMs && qualifies s.ended unknown current then
      s.setRun run (.removing kept record surplus)
    else s.setRun run (.pruning kept surplus)
  | _ => s

def remove (s : Registry) (run : Nat) : Option ConnectionRecord × Registry :=
  match s.runs[run]? with
  | some (.removing kept record surplus) =>
    let found := s.directory.find? record.connectionId
    (found, { s with
      directory := s.directory.delete record.connectionId
      removed := found.toList ++ s.removed
      runs := s.runs.set run (.pruning kept surplus) })
  | _ => (none, s)

/-- The record that the step removes, and the registry after it. -/
def step (s : Registry) : RegistryInput → Option ConnectionRecord × Registry
  | .publish record => (none, if s.mayPublish record then { s with directory := s.directory.put record } else s)
  | .exit process => (none, { s with ended := process :: s.ended })
  | .start => (none, { s with runs := s.runs ++ [.listing 0 []] })
  | .scan run entry => (none, s.scan run entry)
  | .rank run unknown => (none, s.rank run unknown)
  | .recheck run unknown => (none, s.recheck run unknown)
  | .remove run => s.remove run

/-- A registry in which no run is under way. -/
def initial (directory : Directory) (ended : List ProcessIdentity) : Registry := ⟨directory, [], ended, []⟩

end Registry

open Runs in
def registryMachine : Machine Registry RegistryInput (Option ConnectionRecord) where
  step := Registry.step

end ConnectionRegistry
end DccCua
