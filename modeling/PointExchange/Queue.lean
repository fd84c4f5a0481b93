import PointExchange.Config
import PointExchange.Message.Decoder

/-!
# The message queue

Payloads wait in the order in which they came. The oldest one is delivered to a handler, and its
verdict settles the delivery: the payload is acknowledged and gone, or it goes back to the head of
the queue. A payload that is no message is put aside without a handler seeing it.
-/

namespace PointExchange

/-- Why the queue could not be read. -/
inductive QueueError
  /-- the broker cannot be reached -/
  | broker (reason : String)
  | undecodable (e : DecodeError)
  | handler (reason : String)
  | config (e : ConfigError)
deriving DecidableEq

instance : Coded QueueError where
  code
    | .broker _ => "[S-QUE-001]"
    | .undecodable _ => "[S-QUE-002]"
    | .handler _ => "[S-QUE-003]"
    | .config _ => "[S-QUE-004]"
  text
    | .broker reason => "AMQP error: IO error: " ++ reason
    | .undecodable e => "Undecodable message dropped: " ++ e.text
    | .handler reason => "Message handler failed: " ++ reason
    | .config e => "Config error: " ++ cited e

/-- The text of an error, followed by the texts of its causes. -/
def QueueError.chain (e : QueueError) : List String :=
  Coded.text e ::
    match e with
    | .broker reason => ["IO error: " ++ reason, reason]
    | .undecodable e => [e.text]
    | .handler _ => []
    | .config e => [Coded.text e]

/-- How full the queue is. -/
structure QueueStatus where
  depth : UInt32
  consumers : UInt32
deriving DecidableEq

/-- A queue in memory, with counters of what became of deliveries. -/
structure MessageQueue where
  payloads : List Bytes := []
  acked : Nat := 0
  requeued : Nat := 0
  deadLettered : Nat := 0
  unavailable : Bool := false

/-- What a handler decides about a message. -/
inductive Disposal
  | acknowledge
  | requeue
deriving DecidableEq

/-- What taking the oldest payload gives. -/
inductive Delivery
  /-- the queue is empty -/
  | nothing
  /-- the payload was put aside -/
  | undecodable (e : DecodeError)
  /-- the payload is in flight until it is settled -/
  | message (payload : Bytes) (m : Message)

namespace MessageQueue

/-- Puts a payload at the end. -/
def push (q : MessageQueue) (payload : Bytes) : MessageQueue :=
  { q with payloads := q.payloads ++ [payload] }

/-- Looks without taking anything. -/
def peek (q : MessageQueue) : Except QueueError QueueStatus :=
  if q.unavailable then .error (.broker "connection refused")
  else .ok ⟨UInt32.ofNat q.payloads.length, 0⟩

/-- Takes the oldest payload. -/
def take (q : MessageQueue) : Delivery × MessageQueue :=
  match q.payloads with
  | [] => (.nothing, q)
  | payload :: rest =>
    let q := { q with payloads := rest }
    match Message.decode payload with
    | .ok m => (.message payload m, q)
    | .error e => (.undecodable e, { q with deadLettered := q.deadLettered + 1 })

/-- Settles the delivery of a payload. -/
def settle (q : MessageQueue) (payload : Bytes) : Disposal → MessageQueue
  | .acknowledge => { q with acked := q.acked + 1 }
  | .requeue => { q with payloads := payload :: q.payloads, requeued := q.requeued + 1 }

/-- The records that the queued messages are about, oldest first. -/
def ids (q : MessageQueue) : List Uuid :=
  q.payloads.filterMap fun p =>
    match Message.decode p with
    | .ok m => some m.id
    | .error _ => none

/-- A delivery leaves one payload less. -/
theorem length_take {q r : MessageQueue} {d : Delivery} (h : q.take = (d, r))
    (hne : q.payloads ≠ []) : r.payloads.length + 1 = q.payloads.length := by
  unfold take at h
  split at h
  next hq => exact absurd hq hne
  next payload rest hq =>
    split at h <;>
    · obtain ⟨-, rfl⟩ := Prod.mk.inj h
      simp [hq]

end MessageQueue
end PointExchange
