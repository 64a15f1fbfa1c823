import DccCua.Theorems.StopHonesty

/-! # The runs of a session that records

Each start and each stop of a recording, and the stop of the session, leaves the ledger accounted for wherever
it ends. A stop that returns has nothing left to hold. -/

namespace DccCua

open Runs Script

namespace ComputerUseSession

open Ledger

variable {platform : SessionPlatform}

/-! ### Starts of a recording -/

/-- The pixels-only route of Windows, on which a recorder is an obligation from its start. -/
abbrev Native : Ledger → Prop := With fun l => l.native = true

theorem calmNative : Calm Native := calmWith (fun _ _ h => h) fun _ h => h

/-- A session that is active. -/
abbrev Active : Ledger → Prop := With fun l => l.active = true

theorem calmActive : Calm Active := calmWith (fun _ _ h => h) fun _ h => h

/-- Nothing is held and the session is not active. -/
structure Closed (l : Ledger) : Prop where
  accounted : Accounted l
  source : l.source = none
  recorder : l.recorder = none
  inactive : l.active = false

/-- The result of a stop tells whether the cleanup is settled. -/
def StopResult (result : ComputerUseSessionStopResult) (l : Ledger) : Prop :=
  Closed l ∧ (result.success = true → l.cleanup.pending = false ∧ l.cleanup.issues = [])

end ComputerUseSession
end DccCua
