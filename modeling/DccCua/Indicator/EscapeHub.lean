import DccCua.Lib.Runs

/-! # The Escape hub

The keyboard hook of the indicator and the banner leases, step by step. The hook thread reads the number of
active banners, changes the key-down flag and broadcasts, each on its own; the banner threads acquire and drop
leases under one lock, and the last drop resets the flag before it stops the hub. Whether the key is held, and
whether a press is the first since the last key-up, is what happens at the keyboard and not part of the code. -/

namespace DccCua

open Runs

/-- What the hook is called with. -/
structure KeyEvent where
  code : Int
  message : Nat
  virtualKey : Nat
  flags : Nat
  deriving DecidableEq, Repr

def hcAction : Int := 0
def vkEscape : Nat := 0x1b
def llkhfInjected : Nat := 0x10
def wmKeydown : Nat := 0x100
def wmKeyup : Nat := 0x101
def wmSyskeydown : Nat := 0x104
def wmSyskeyup : Nat := 0x105

/-- A physical press (`true`) or release (`false`) of Escape. -/
def escapeKeyTransition (event : KeyEvent) : Option Bool :=
  if event.code ≠ hcAction ∨ event.virtualKey ≠ vkEscape ∨ event.flags &&& llkhfInjected ≠ 0 then none
  else if event.message = wmKeydown ∨ event.message = wmSyskeydown then some true
  else if event.message = wmKeyup ∨ event.message = wmSyskeyup then some false
  else none

def escapeKeyTransitionForActiveBanners (activeBanners : Nat) (event : KeyEvent) : Option Bool :=
  if activeBanners = 0 then none else escapeKeyTransition event

/-- Where the hook thread is in a call: `first` is whether the press is the first since the last key-up. -/
inductive HookStep where
  | idle
  | counted (isDown first : Bool)
  | broadcasting (first : Bool)
  deriving DecidableEq, Repr

/-- Where the holder of the hub lock is: in an acquisition that has started the hub and has not counted its lease yet, or
    in the drop of the last lease, before the reset of the flag or before the stop of the hub. -/
inductive LeaseStep where
  | idle
  | acquiring
  | resetting
  | stopping
  deriving DecidableEq, Repr

structure EscapeHub where
  hub : Bool
  leases : Nat
  activeBanners : Nat
  escapeDown : Bool
  hook : HookStep
  lease : LeaseStep
  held : Bool
  deriving DecidableEq, Repr

inductive HubStep where
  | key (event : KeyEvent)
  | changeFlag
  | broadcastInterrupt
  | acquire (started : Bool)
  | countLease
  | dropLease
  | resetFlag
  | stopHub
  deriving DecidableEq, Repr

/-- What a step lets out: a key that goes on to the next hook, a key that the hook takes away, and a broadcast. -/
inductive HubOutput where
  | none
  | passed
  | swallowed
  | interrupt
  deriving DecidableEq, Repr

namespace EscapeHub

def start : EscapeHub := ⟨false, 0, 0, false, .idle, .idle, false⟩

/-- The key-down flag that the keyboard is in after an event. -/
def heldAfter (s : EscapeHub) (event : KeyEvent) : Bool := (escapeKeyTransition event).getD s.held

/-- `low_level_keyboard_hook` up to the reading of the number of active banners; without a hub there is no hook. -/
def key (s : EscapeHub) (event : KeyEvent) : HubOutput × EscapeHub :=
  if s.hook ≠ .idle then (.none, s)
  else if s.hub = false then (.passed, { s with held := s.heldAfter event })
  else match escapeKeyTransitionForActiveBanners s.activeBanners event with
    | none => (.passed, { s with held := s.heldAfter event })
    | some isDown => (.none, { s with held := s.heldAfter event, hook := .counted isDown (isDown && !s.held) })

/-- The swap of the flag on a press, the store on a release. -/
def changeFlag (s : EscapeHub) : HubOutput × EscapeHub :=
  match s.hook with
  | .counted true first =>
    if s.escapeDown then (.swallowed, { s with hook := .idle })
    else (.none, { s with escapeDown := true, hook := .broadcasting first })
  | .counted false _ => (.swallowed, { s with escapeDown := false, hook := .idle })
  | _ => (.none, s)

def broadcastInterrupt (s : EscapeHub) : HubOutput × EscapeHub :=
  match s.hook with
  | .broadcasting _ => (.interrupt, { s with hook := .idle })
  | _ => (.none, s)

/-- `acquire` up to the count of the lease; `started` is whether a hub that is missing starts. -/
def acquire (s : EscapeHub) (started : Bool) : EscapeHub :=
  if s.lease ≠ .idle then s
  else if s.hub then { s with lease := .acquiring }
  else if started then { s with hub := true, lease := .acquiring }
  else s

def countLease (s : EscapeHub) : EscapeHub :=
  if s.lease = .acquiring then
    { s with leases := s.leases + 1, activeBanners := s.activeBanners + 1, lease := .idle }
  else s

/-- `drop` of a lease up to `fetch_sub`, which decides whether the flag is reset. -/
def dropLease (s : EscapeHub) : EscapeHub :=
  if s.lease ≠ .idle ∨ s.leases = 0 then s
  else
    { s with
      leases := s.leases - 1
      activeBanners := s.activeBanners - 1
      lease := if s.activeBanners = 1 then .resetting else if s.leases ≤ 1 then .stopping else .idle }

/-- The reset of the flag; the hub is stopped when the lease was the last. -/
def resetFlag (s : EscapeHub) : EscapeHub :=
  if s.lease = .resetting then
    { s with escapeDown := false, lease := if s.leases = 0 then .stopping else .idle }
  else s

/-- The stop joins the hook thread, so it waits for the end of a call of the hook. -/
def stopHub (s : EscapeHub) : EscapeHub :=
  if s.lease = .stopping ∧ s.hook = .idle then { s with hub := false, lease := .idle } else s

end EscapeHub

def escapeHubMachine : Machine EscapeHub HubStep HubOutput where
  step s
    | .key event => s.key event
    | .changeFlag => s.changeFlag
    | .broadcastInterrupt => s.broadcastInterrupt
    | .acquire started => (.none, s.acquire started)
    | .countLease => (.none, s.countLease)
    | .dropLease => (.none, s.dropLease)
    | .resetFlag => (.none, s.resetFlag)
    | .stopHub => (.none, s.stopHub)

end DccCua
