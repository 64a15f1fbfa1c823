import DccCua.Showcase.Encoder

/-! # The recording producer

`ShowcaseProducer`: it reads the latest status from a watch, which may skip statuses, and sends frames and
pause boundaries to the encoder over a bounded channel. Whether the channel takes an event and whether the
encoder acknowledges it belong to the environment. The pause and terminal reasons that the producer shows to
others are left out. -/

namespace DccCua

open Runs

/-- What became of an event. -/
inductive Delivery where
  | refused
  | unacknowledged
  | acknowledged
  deriving DecidableEq, Repr

/-- What becomes of the frame, the pause boundary and the resumed frame that one status can lead to. -/
structure Deliveries where
  frame : Bool
  boundary : Delivery
  resumed : Delivery
  deriving DecidableEq, Repr

/-- An event in the channel, with the pause fence of the status it was sent for. -/
structure Forwarded where
  event : ShowcaseProducerEvent
  acknowledged : Bool
  fence : Option Nat
  deriving DecidableEq, Repr

structure Producer where
  lastForwardedSequence : Option Nat
  lastAppliedPauseFence : Option Nat
  paused : Bool
  stopped : Bool
  deriving DecidableEq, Repr

namespace Producer

def start : Producer := ⟨none, none, false, false⟩

/-- One part after another, unless the producer stops. -/
def andThen (first : List Forwarded × Producer) (next : Producer → List Forwarded × Producer) : List Forwarded × Producer :=
  if first.2.stopped then first else (first.1 ++ (next first.2).1, (next first.2).2)

end Producer

/-- A status that the producer reads; the last one before it stops is `guaranteed`. -/
structure Reading where
  status : LiveObservationStatus
  guaranteed : Bool
  deliveries : Deliveries

end DccCua
