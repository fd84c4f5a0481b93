import PointExchange.Run.Batch
import PointExchange.Run.Permits

/-!
# One run

The run lock is taken first. A run that does not get it is skipped and touches nothing; a run that
gets it gives it back at the end, whatever the outcome is.

A run has two points at which time may pass: between two attempts to take the lock. Therefore it
comes in three parts as well, `Runner.start`, `Acquisition.attempt` and `Runner.finish`, between
which others may act; `Runner.runOnce` puts them together.
-/

namespace PointExchange

variable {E : Type}

/-- What a run works with. -/
structure Runner (E : Type) extends Collaborators E where
  lock : LockAccess E
  /-- the turns of the broadcasts of a number of permits -/
  turns : Nat → List Turn := Turn.rounds

namespace Runner

/-- Lets the next key of a role take its turn. -/
def rotate (c : Collaborators E) (role : KeyRole) (index : UInt64) :
    Call E Interruption (Except IndexError UInt64) :=
  (c.indices.advance role index (c.gateway.poolSize role)).attempt

/-- Ends the run if a turn could not be recorded. -/
def orFail (r : Except IndexError UInt64) : RunStep E Unit :=
  match r with
  | .ok _ => pure ()
  | .error e => throw (.failed (.indices e))

/-- Submits the calls of a batch, if there are any, and lets the manager's turn pass. The second
result is the one of the rotation. -/
def sendCalls (c : Collaborators E) (relayer : UInt64) (account : Address) (b : Batch) :
    RunStep E (Option BatchOutcome × Except IndexError UInt64) := do
  if b.calls.isEmpty then return (none, .ok 0)
  else
    let outcome ← submitBatch c relayer account b
    match b.managerIndex with
    | some index => return (some outcome, ← rotate c .manager index)
    | none => return (some outcome, .ok 0)

/-- Sends the permits of a batch, if there are any. -/
def sendPermits (c : Collaborators E) (turns : Nat → List Turn) (relayer : UInt64)
    (account : Address) (b : Batch) : RunStep E PermitCount :=
  if b.permits.isEmpty then pure ⟨0, 0⟩
  else broadcastPermits c.gateway turns relayer account b.permits

/-- Sends a batch that is not empty. -/
def send (c : Collaborators E) (turns : Nat → List Turn) (b : Batch) (stop : StopReason) :
    RunStep E RunReport := do
  let stored ← RunStep.of (c.indices.get .relayer) .indices
  let relayer := stored % poolModulus (c.gateway.poolSize .relayer)
  let account ← RunStep.of (.ask fun _ => c.gateway.addressFor .relayer relayer) .gateway
  let permits ← sendPermits c turns relayer account b
  let (outcome, manager) ← sendCalls c relayer account b
  let next ← rotate c .relayer relayer
  orFail manager
  orFail next
  return ⟨permits.sent, permits.failed, b.calls.length, outcome, stop⟩

/-- The part of a run that the lock protects. -/
def locked (r : Runner E) (s : Site E) : Except Interruption RunOutcome × Site E :=
  let d := s.drain r.toCollaborators
  if d.batch.isEmpty then (.ok (.idle d.stop), d.site)
  else
    let (report, env) := (send r.toCollaborators r.turns d.batch d.stop).perform d.site.env
    (report.map .completed, { d.site with env := env })

/-- Reads the settings of the lock. -/
def start (r : Runner E) (s : Site E) : Except RunError Acquisition :=
  match r.config s.env with
  | .ok config =>
    .ok ⟨config.scheduler.lockResource, config.scheduler.lockTtlMs.toNat,
      config.scheduler.lockRetryDelayMs.toNat, config.scheduler.lockRetryCount.toNat⟩
  | .error e => .error (.config e)

theorem start_ok {r : Runner E} {s : Site E} {config : Config} (h : r.config s.env = .ok config) :
    r.start s = .ok ⟨config.scheduler.lockResource, config.scheduler.lockTtlMs.toNat,
      config.scheduler.lockRetryDelayMs.toNat, config.scheduler.lockRetryCount.toNat⟩ := by
  rw [start, h]

theorem start_error {r : Runner E} {s : Site E} {e : ConfigError}
    (h : r.config s.env = .error e) : r.start s = .error (.config e) := by
  rw [start, h]

/-- Gives the lock back; what the lock answers does not matter. -/
def release (r : Runner E) (g : LockGuard) (s : Site E) : Site E :=
  { s with env := ((r.lock.release g).perform s.env).2 }

/-- The run from the end of the acquisition on. -/
def finish (r : Runner E) (acquired : Except LockError (Option LockGuard)) (s : Site E) :
    Except Interruption RunOutcome × Site E :=
  match acquired with
  | .error e => (.error (.failed (.lock e)), s)
  | .ok none => (.ok .skipped, s)
  | .ok (some g) =>
    match r.locked s with
    | (.error .waiting, s) => (.error .waiting, s)
    | (outcome, s) => (outcome, r.release g s)

/-- One run; `pause` says what happens in the environment while the run waits. -/
def runOnce (r : Runner E) (pause : Nat → E → E) (s : Site E) :
    Except Interruption RunOutcome × Site E :=
  match r.start s with
  | .error e => (.error (.failed e), s)
  | .ok a =>
    let (acquired, env) := a.run r.lock pause s.env
    r.finish acquired { s with env := env }

end Runner
end PointExchange
