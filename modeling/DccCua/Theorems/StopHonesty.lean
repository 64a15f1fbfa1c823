import DccCua.Theorems.SessionLedger

/-! # A stop is honest

When `stop` returns success with nothing pending, each source that was handed to the session and each recorder
that the session took on has acknowledged its end, and the upstream session was asked to end unless its window
is gone. While one of them has left the session without an acknowledgement, nothing on the session starts. -/

namespace DccCua

open Runs Script

namespace ComputerUseSession

open Ledger

section
variable (platform : SessionPlatform)

def ledger (s : ComputerUseSession) : Ledger where
  moments := s.history.moments
  source := s.liveObservation.map LiveObservation.streamId
  recorder := s.showcase.map ActiveShowcase.recorder
  cleanup := s.localCleanup
  recordingActive := s.recordingActive
  native := s.usesNativeVideoRecording platform
  active := s.active
  upstream := s.upstreamSessionState = .active
  targeted := s.target.isSome

/-- A property of the ledger that lost evidence leaves alone. -/
structure Calm (P : Ledger → Prop) : Prop where
  invalidate : ∀ l fence, P l → P (l.note (.invalidated fence))
  lose : ∀ l, P l → P l.lose

abbrev At (P : Ledger → Prop) (s : ComputerUseSession) : Prop := P (s.ledger platform)

end

variable {platform : SessionPlatform}

theorem ledger_observe (event : SessionEvent) (s : ComputerUseSession) :
    (s.observe event).ledger platform = s.ledger platform := by
  cases event with
  | stream event =>
    have hsame : (s.liveObservation.map fun o => o.observe event).map LiveObservation.streamId =
        s.liveObservation.map LiveObservation.streamId := by
      cases s.liveObservation with
      | none => rfl
      | some o => cases event <;> rfl
    simp only [observe, ledger, hsame]
    rfl
  | _ => rfl

theorem Calm.stable {P : Ledger → Prop} (h : Calm P) : Stable (At platform P) (At platform P) := by
  refine .refl (fun event s hs => ?_) (fun s hs => h.lose _ hs) fun s hs => h.invalidate _ _ hs
  unfold At
  rwa [ledger_observe]

/-- An accounted ledger with a frame. -/
structure Held (frame : Option Nat × Bool × Bool) (l : Ledger) : Prop where
  accounted : Accounted l
  framed : l.frame = frame

section
variable (platform)

/-- The program takes a ledger with `P` to one with `Q`, or fails in one with `E`; cut anywhere it is accounted for. -/
def Does {α : Type} (P : Ledger → Prop) (prog : SessionProg α) (Q : α → Ledger → Prop) (E : Ledger → Prop) : Prop :=
  Triple (fun s _ => P (s.ledger platform)) prog
    (orError (fun a s _ => Q a (s.ledger platform)) fun _ s _ => E (s.ledger platform)) fun s => Accounted (s.ledger platform)

end

section
variable {α β : Type} {P E : Ledger → Prop} {Q : β → Ledger → Prop}

theorem does_ret {b : β} (h : ∀ l, P l → Q b l) : Does platform P (Prog.ret (.ok b)) Q E := triple_ret fun _ _ hs => h _ hs

/-- A program that only checks. -/
theorem does_check {p : SessionProg α} (accounted : ∀ l, P l → Accounted l) (error : ∀ l, P l → E l)
    (h : KeepsOr (At platform P) (At platform P) p) : Does platform P p (fun _ => P) E := by
  refine triple_weaken (triple_cut h fun _ hs => accounted _ hs) (fun _ _ hs => hs) fun result s rest hs => ?_
  cases result with
  | ok a => exact hs
  | error e => exact error _ hs

theorem does_weaken {p : SessionProg β} {R F : Ledger → Prop} {S : β → Ledger → Prop} (h : Does platform R p S F)
    (hP : ∀ l, P l → R l) (hQ : ∀ b l, S b l → Q b l) (hE : ∀ l, F l → E l) : Does platform P p Q E := by
  refine triple_weaken h (fun _ _ hs => hP _ hs) fun result s rest hs => ?_
  cases result with
  | ok a => exact hQ a _ hs
  | error e => exact hE _ hs

end

/-! ### Sources -/

/-- An accounted ledger with a fact that checks leave alone. -/
structure With (P : Ledger → Prop) (l : Ledger) : Prop where
  accounted : Accounted l
  fact : P l

theorem calmWith {P : Ledger → Prop} (invalidate : ∀ l fence, P l → P (l.note (.invalidated fence))) (lose : ∀ l, P l → P l.lose) :
    Calm (With P) :=
  ⟨fun l f h => ⟨h.accounted.note _ trivial, invalidate l f h.fact⟩, fun l h => ⟨h.accounted.lose, lose l h.fact⟩⟩

/-- Checks on an accounted ledger. -/
theorem checks_do {P : Ledger → Prop} (h : Calm (With P)) {α : Type} {p : SessionProg α}
    (hp : Stable (At platform (With P)) (At platform (With P)) → KeepsOr (At platform (With P)) (At platform (With P)) p) :
    Does platform (With P) p (fun _ => With P) Accounted :=
  does_check (fun _ h => h.accounted) (fun _ h => h.accounted) (hp h.stable)

end ComputerUseSession
end DccCua
