import PointExchange.Batch.Drain
import PointExchange.Lock

/-!
# Runs and what comes of them

A run takes the run lock, drains the queue, sends the permits of the batch, commits the batch to
the ledger, broadcasts it and lets the next keys take their turns.
-/

namespace PointExchange

/-- Why a run failed. -/
inductive RunError
  | lock (e : LockError)
  | indices (e : IndexError)
  | gateway (e : GatewayError)
  | estimate (e : EstimateError)
  | config (e : ConfigError)

instance : Coded RunError where
  code
    | .lock _ => "[S-RUN-001]"
    | .indices _ => "[S-RUN-002]"
    | .gateway _ => "[S-RUN-003]"
    | .estimate _ => "[S-RUN-004]"
    | .config _ => "[S-RUN-005]"
  text
    | .lock e => "Run lock error: " ++ cited e
    | .indices e => "Index store error: " ++ cited e
    | .gateway e => "Gateway error: " ++ cited e
    | .estimate e => "Gas estimation error: " ++ e.text
    | .config e => "Config error: " ++ cited e

/-- What became of the transaction of a batch. -/
inductive BatchOutcome
  /-- broadcast and included -/
  | broadcast (hash : Hash)
  /-- committed to the ledger, but the broadcast failed; the links stay -/
  | broadcastFailed (hash : Hash)
  /-- signed, but not committed to the ledger, and therefore not broadcast -/
  | ledgerFailed (hash : Hash)
  /-- never signed -/
  | notSigned
deriving DecidableEq

/-- The report of a run that had something to send. -/
structure RunReport where
  permitsSent : Nat
  permitsFailed : Nat
  calls : Nat
  batch : Option BatchOutcome
  stop : StopReason
deriving DecidableEq

/-- What a run came to. -/
inductive RunOutcome
  /-- another run holds the lock -/
  | skipped
  /-- there was nothing to send -/
  | idle (stop : StopReason)
  | completed (report : RunReport)
deriving DecidableEq

/-- What keeps a run from going on. -/
inductive Interruption
  | failed (e : RunError)
  /-- a broadcast never settles, so the run waits for good -/
  | waiting

/-- A step of a run. -/
abbrev RunStep (E α : Type) := Call E Interruption α

/-- A call whose error ends the run. -/
def RunStep.of {E ε α : Type} (c : Call E ε α) (f : ε → RunError) : RunStep E α :=
  c.orElse fun e => .failed (f e)

end PointExchange
