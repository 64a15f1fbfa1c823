import DccCua.Host.ExtensionCalls
import DccCua.Lib.Runs

/-! # The polls of extension providers

`next_command`, `complete`, `register_with_window`, `unregister` and `prune_stale` of `browser_extension.rs`, on what
they do to `last_seen`. Requests of several connections go on at the same time: a poll waits for a command, and a prune
looks at one provider after the other before it removes what it found. Instants are in nanoseconds. What a poll returns
and what a completion carries are left out. -/

namespace DccCua
namespace BrowserExtension

open Runs

def nanosPerMs : Nat := 10 ^ 6

/-- `PROVIDER_STALE_AFTER`. -/
def providerStaleAfter : Nat := 15000 * nanosPerMs

/-- A `next_command` that waits. -/
structure WaitingPoll where
  providerId : String
  since : Nat
  timeoutMs : Nat
  deriving DecidableEq, Repr

/-- A `prune_stale` that goes on: the providers that it has to look at yet, and those that it has found stale. -/
structure PruneRun where
  unchecked : List String
  stale : List String
  deriving DecidableEq, Repr

structure ExtensionPolls where
  now : Nat
  /-- The ids that have been drawn. -/
  drawn : List String
  providers : List (String × String)
  /-- Of a provider that was removed, too: a poll or a prune may hold it still. -/
  lastSeen : String → Nat
  polls : List WaitingPoll
  prunes : List PruneRun

inductive PollStep where
  | advance (nanos : Nat)
  | register (providerId secret : String)
  | unregister (providerId secret : String)
  | nextCommand (providerId secret : String) (timeoutMs : Nat)
  /-- A poll that waits returns, with a command or at its timeout. -/
  | pollReturns (poll : WaitingPoll) (command : Bool)
  | complete (providerId secret : String)
  | startPrune
  | checkProvider (prune : Nat) (providerId : String)
  | finishPrune (prune : Nat)
  deriving DecidableEq, Repr

namespace ExtensionPolls

def start (now : Nat) : ExtensionPolls := ⟨now, [], [], fun _ => now, [], []⟩

def ids (s : ExtensionPolls) : List String := s.providers.map (·.1)

/-- `authorized_provider`. -/
def authorized (s : ExtensionPolls) (providerId secret : String) : Bool := s.providers.contains (providerId, secret)

def see (s : ExtensionPolls) (providerId : String) : ExtensionPolls :=
  { s with lastSeen := fun id => if id = providerId then s.now else s.lastSeen id }

def register (s : ExtensionPolls) (providerId secret : String) : ExtensionPolls :=
  if s.drawn.contains providerId then s
  else { s.see providerId with drawn := providerId :: s.drawn, providers := (providerId, secret) :: s.providers }

def unregister (s : ExtensionPolls) (providerId secret : String) : ExtensionPolls :=
  if s.authorized providerId secret then { s with providers := s.providers.filter (·.1 ≠ providerId) } else s

def nextCommand (s : ExtensionPolls) (providerId secret : String) (timeoutMs : Nat) : ExtensionPolls :=
  if maxExtensionCallTimeoutMs < timeoutMs then s
  else if s.authorized providerId secret then
    { s.see providerId with polls := ⟨providerId, s.now, timeoutMs⟩ :: s.polls }
  else s

def pollReturns (s : ExtensionPolls) (poll : WaitingPoll) (command : Bool) : ExtensionPolls :=
  if command || poll.since + poll.timeoutMs * nanosPerMs ≤ s.now then { s with polls := s.polls.erase poll } else s

def complete (s : ExtensionPolls) (providerId secret : String) : ExtensionPolls :=
  if s.authorized providerId secret then s.see providerId else s

/-- The snapshot of `prune_stale`. -/
def startPrune (s : ExtensionPolls) : ExtensionPolls := { s with prunes := s.prunes ++ [⟨s.ids, []⟩] }

def checkProvider (s : ExtensionPolls) (prune : Nat) (providerId : String) : ExtensionPolls :=
  match s.prunes[prune]? with
  | none => s
  | some run =>
    if run.unchecked.contains providerId then
      let stale := if providerStaleAfter ≤ s.now - s.lastSeen providerId then providerId :: run.stale else run.stale
      { s with prunes := s.prunes.set prune ⟨run.unchecked.erase providerId, stale⟩ }
    else s

/-- The removal of `prune_stale`, with the providers that it removes. -/
def finishPrune (s : ExtensionPolls) (prune : Nat) : List String × ExtensionPolls :=
  match s.prunes[prune]? with
  | some ⟨[], stale⟩ =>
    (s.ids.filter stale.contains,
      { s with providers := s.providers.filter (!stale.contains ·.1), prunes := s.prunes.eraseIdx prune })
  | _ => ([], s)

end ExtensionPolls

/-- The registry; the output is what a prune has removed. -/
def extensionPollMachine : Machine ExtensionPolls PollStep (List String) where
  step s
    | .advance nanos => ([], { s with now := s.now + nanos })
    | .register providerId secret => ([], s.register providerId secret)
    | .unregister providerId secret => ([], s.unregister providerId secret)
    | .nextCommand providerId secret timeoutMs => ([], s.nextCommand providerId secret timeoutMs)
    | .pollReturns poll command => ([], s.pollReturns poll command)
    | .complete providerId secret => ([], s.complete providerId secret)
    | .startPrune => ([], s.startPrune)
    | .checkProvider prune providerId => ([], s.checkProvider prune providerId)
    | .finishPrune prune => s.finishPrune prune

end BrowserExtension
end DccCua
