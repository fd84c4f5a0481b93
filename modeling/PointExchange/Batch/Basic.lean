import PointExchange.Gateway.Basic
import PointExchange.IndexStore
import PointExchange.Ledger.Basic

/-!
# Batches

A batch is what one run puts together: the calls it has accepted, the permits that have to be sent
ahead of them, and the records that the calls are for. All deposits of a batch are signed by one
manager under one domain, with consecutive nonces.
-/

namespace PointExchange

/-- Why no further message is taken. -/
inductive StopReason
  | queueEmpty
  /-- the queue claimed to hold messages and delivered none -/
  | noMessage
  | gasCeiling (estimate budget : UInt64)
  /-- there is no estimate for the batch as it stands -/
  | estimateFailed (reason : String)
  | messageLimit
  /-- a collaborator could not be reached -/
  | infrastructure (reason : String)
deriving DecidableEq

/-- A batch being put together. -/
structure Batch where
  /-- accepted calls, in the order of the queue -/
  calls : List Bytes := []
  /-- permit calls, in the order of the queue -/
  permits : List Bytes := []
  /-- the record behind each accepted call -/
  accepted : List (Uuid × Direction) := []
  /-- the nonce of the last accepted deposit -/
  lastNonce : Option Word := none
  /-- the manager who signs the deposits, once one is needed -/
  managerIndex : Option UInt64 := none
  /-- the signing domain, once it is known -/
  domain : Option SigningDomain := none
deriving DecidableEq

/-- Nothing to send. -/
def Batch.isEmpty (b : Batch) : Bool := b.calls.isEmpty && b.permits.isEmpty

/-- What becomes of a message. -/
inductive Verdict
  /-- it is part of the batch -/
  | accepted
  /-- it can never be carried out, and its record is failed -/
  | dropped
  /-- it does not fit this batch -/
  | deferred (estimate budget : UInt64)
deriving DecidableEq

/-- What a batch is put together with. -/
structure Collaborators (E : Type) where
  gateway : Gateway E
  indices : IndexAccess E
  ledger : LedgerAccess E
  config : E → Except ConfigError Config

/-- The text of a failure: what was done, then the texts of the error and of its causes. -/
abbrev Fault := List String

def Fault.text (f : Fault) : String := ": ".intercalate f

end PointExchange
