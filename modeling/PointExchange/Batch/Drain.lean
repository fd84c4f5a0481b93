import PointExchange.Batch.Handling
import PointExchange.Queue

/-!
# Draining the queue

A drain takes messages from the queue until there is a reason to stop. After a message has joined
the batch, the batch is estimated once more, now with its permits in front; the drain stops when it
is over the budget by then.

A message goes back to the queue only when the drain stops for it, so each round either stops or
leaves one payload less, and the drain ends.
-/

namespace PointExchange

variable {E : Type}

/-- A run at work: the queue, and the environment of the other collaborators. -/
structure Site (E : Type) where
  queue : MessageQueue
  env : E

/-- What a drain leads to. -/
structure Drained (E : Type) where
  batch : Batch
  stop : StopReason
  site : Site E

namespace Drafting

/-- Estimates the batch with its permits in front; a reason to stop if it is over the budget. -/
def checkBudget (c : Collaborators E) (budget : UInt64) (d : Drafting E) :
    Option StopReason × Drafting E :=
  let calls := d.batch.permits ++ d.batch.calls
  let (estimate, env) :=
    (c.gateway.estimateGas c.gateway.pointManager (encodeMulticall calls)).perform d.env
  let d := { d with env := env }
  match estimate with
  | .ok gas => (if gas ≤ budget then none else some (.gasCeiling gas budget), d)
  | .error e => (some (.estimateFailed e.text), d)

/-- What a drafting leads to when the drain stops. -/
def close (d : Drafting E) (q : MessageQueue) (stop : StopReason) : Drained E :=
  ⟨d.batch, stop, ⟨q, d.env⟩⟩

end Drafting

/-- The limit of messages is reached. -/
def BatchConfig.limitReached (settings : BatchConfig) (consumed : Nat) : Bool :=
  settings.maxMessagesPerRun.any fun limit => limit.toNat ≤ consumed

/-- A payload is left less after the delivery of a message or of a payload that is none. -/
theorem MessageQueue.length_take_lt {q r : MessageQueue} {d : Delivery} (h : q.take = (d, r))
    (hd : d ≠ .nothing) : r.payloads.length < q.payloads.length := by
  have hne : q.payloads ≠ [] := by
    intro h0
    rw [MessageQueue.take, h0] at h
    exact hd (Prod.mk.inj h).1.symm
  have := MessageQueue.length_take h hne
  omega

/-- Drains the queue after `consumed` messages have been taken. -/
def Drafting.drain (c : Collaborators E) (settings : BatchConfig) (consumed : Nat)
    (q : MessageQueue) (d : Drafting E) : Drained E :=
  if settings.limitReached consumed then d.close q .messageLimit
  else
    match q.peek with
    | .error e => d.close q (.infrastructure (Coded.text e))
    | .ok status =>
      if status.depth = 0 then d.close q .queueEmpty
      else
        match hd : q.take with
        | (.nothing, q) => d.close q .noMessage
        | (.undecodable _, r) => d.drain c settings (consumed + 1) r
        | (.message payload m, r) =>
          match d.handle c settings m with
          | (.error fault, d) => d.close (r.settle payload .requeue) (.infrastructure fault.text)
          | (.ok (.deferred gas budget), d) =>
            d.close (r.settle payload .requeue) (.gasCeiling gas budget)
          | (.ok .dropped, d) => d.drain c settings (consumed + 1) (r.settle payload .acknowledge)
          | (.ok .accepted, d) =>
            match d.checkBudget c settings.gasBudget with
            | (some stop, d) => d.close (r.settle payload .acknowledge) stop
            | (none, d) => d.drain c settings (consumed + 1) (r.settle payload .acknowledge)
termination_by q.payloads.length
decreasing_by
  all_goals
    have := MessageQueue.length_take_lt hd (by simp)
    simpa [MessageQueue.settle] using this

/-- Drains the queue into a batch. -/
def Site.drain (c : Collaborators E) (s : Site E) : Drained E :=
  match c.config s.env with
  | .error e => ⟨{}, .infrastructure (Coded.text e), s⟩
  | .ok config => (Drafting.mk {} s.env).drain c config.batch 0 s.queue

end PointExchange
