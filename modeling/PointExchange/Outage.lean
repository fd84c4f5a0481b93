import PointExchange.Config
import PointExchange.IndexStore
import PointExchange.Ledger.Basic
import PointExchange.Lock
import PointExchange.Queue

/-!
# Remote services out of reach

The collaborators of a deployed service run on other machines. When there is no way to them, every
call fails before they see it. What such a call is answered is given here for each of them; none of
them changes anything (`perform_get`, `perform_set`, `perform_acquire`).
-/

namespace PointExchange

/-- Why remote services are out of reach. -/
structure Outage where
  reason : String

namespace Outage

/-- The machine is connected to no network. -/
def noRoute : Outage := ⟨"Network is unreachable (os error 101)"⟩

/-- What a pool of connections says when it cannot make one. -/
def poolReason (o : Outage) : String := "Error occurred while creating a new object: " ++ o.reason

/-- Connecting to the ledger. -/
def ledger (o : Outage) : LedgerError := .store ("error communicating with database: " ++ o.reason)

variable {E : Type}

/-- The store of indices. -/
def indices (o : Outage) : IndexAccess E where
  get _ := throw (.pool o.poolReason)
  set _ _ := throw (.pool o.poolReason)

/-- The run lock. -/
def lock (o : Outage) : LockAccess E where
  acquire _ _ := throw (.pool o.poolReason)
  release _ := throw (.pool o.poolReason)

/-- Looking at the message queue or taking from it. The queue's name is among the settings, so
these come first. -/
def queue (o : Outage) (settings : SharedConfig) : QueueError :=
  match settings.read with
  | .error e => .config e
  | .ok _ => .broker o.reason

@[simp] theorem perform_get (o : Outage) (role : KeyRole) (e : E) :
    (o.indices.get role).perform e = (.error (.pool o.poolReason), e) := rfl

@[simp] theorem perform_set (o : Outage) (role : KeyRole) (index : UInt64) (e : E) :
    (o.indices.set role index).perform e = (.error (.pool o.poolReason), e) := rfl

@[simp] theorem perform_acquire (o : Outage) (resource : String) (ttl : Nat) (e : E) :
    (o.lock.acquire resource ttl).perform e = (.error (.pool o.poolReason), e) := rfl

/-- An acquisition fails at its first attempt. -/
theorem attempt_lock (o : Outage) (a : Acquisition) (e : E) :
    a.attempt o.lock e = (.settled (.error (.pool o.poolReason)), e) := rfl

end Outage
end PointExchange
