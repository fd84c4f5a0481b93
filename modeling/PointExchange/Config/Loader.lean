import PointExchange.Config
import PointExchange.Toml.Document

/-!
# Settings from a file

A settings file is a TOML document with a table for each section. A field that is missing has its
usual value, and members that are no field are ignored. A section may also be an array, whose items
are the fields in their order.

A number is never reduced to fit its field: one that does not fit makes the file unreadable.
-/

namespace PointExchange.Config

open Toml

/-- The fields of a section, by their names or by their places. -/
inductive Fields
  | named (members : Members)
  | placed (items : List Value)

/-- The fields of a section; a date has none that anybody asks for. -/
def Fields.ofValue? : Value → Option Fields
  | .table _ ms => some (.named ms)
  | .array vs => some (.placed vs)
  | .tables items => some (.placed (items.map (.table .header)))
  | .moment => some (.named [])
  | _ => none

/-- The fields of a section of a document. -/
def Fields.ofSection? (ms : Members) (name : String) : Option Fields :=
  match ms.get? name with
  | some v => Fields.ofValue? v
  | none => some (.named [])

/-- A field, or its usual value if it is missing. -/
def Fields.get {α : Type} (f : Fields) (name : String) (place : Nat) (read : Value → Option α)
    (usual : α) : Option α :=
  let v? :=
    match f with
    | .named ms => ms.get? name
    | .placed vs => vs[place]?
  match v? with
  | some v => read v
  | none => some usual

/-- A number below a bound. -/
def number? (bound : Nat) : Value → Option Nat
  | .integer i => if 0 ≤ i ∧ i < bound then some i.toNat else none
  | _ => none

def word64? (v : Value) : Option UInt64 := (number? UInt64.size v).map Nat.toUInt64

def word32? (v : Value) : Option UInt32 := (number? UInt32.size v).map Nat.toUInt32

def text? : Value → Option String
  | .string s => some s
  | _ => none

def flag? : Value → Option Bool
  | .boolean b => some b
  | _ => none

def scheduler? (f : Fields) : Option SchedulerConfig := do
  let usual : SchedulerConfig := {}
  let runIntervalMs ← f.get "run_interval_ms" 0 word64? usual.runIntervalMs
  let lockResource ← f.get "lock_resource" 1 text? usual.lockResource
  let lockTtlMs ← f.get "lock_ttl_ms" 2 word64? usual.lockTtlMs
  let lockRetryCount ← f.get "lock_retry_count" 3 word32? usual.lockRetryCount
  let lockRetryDelayMs ← f.get "lock_retry_delay_ms" 4 word64? usual.lockRetryDelayMs
  return ⟨runIntervalMs, lockResource, lockTtlMs, lockRetryCount, lockRetryDelayMs⟩

def batch? (f : Fields) : Option BatchConfig := do
  let usual : BatchConfig := {}
  let gasCeiling ← f.get "gas_ceiling" 0 word64? usual.gasCeiling
  let gasSafetyMargin ← f.get "gas_safety_margin" 1 word64? usual.gasSafetyMargin
  let depositValidUntil ← f.get "deposit_valid_until" 2 word64? usual.depositValidUntil
  let maxMessagesPerRun ←
    f.get "max_messages_per_run" 3 (fun v => (word64? v).map some) usual.maxMessagesPerRun
  return ⟨gasCeiling, gasSafetyMargin, depositValidUntil, maxMessagesPerRun⟩

def queue? (f : Fields) : Option QueueConfig := do
  let usual : QueueConfig := {}
  let name ← f.get "name" 0 text? usual.name
  let durable ← f.get "durable" 1 flag? usual.durable
  return ⟨name, durable⟩

def chain? (f : Fields) : Option ChainConfig := do
  let usual : ChainConfig := {}
  let txTimeoutSecs ← f.get "tx_timeout_secs" 0 word64? usual.txTimeoutSecs
  return ⟨txTimeoutSecs⟩

/-- The settings of a document. -/
def ofMembers? (ms : Members) : Option Config := do
  let scheduler ← scheduler? (← Fields.ofSection? ms "scheduler")
  let batch ← batch? (← Fields.ofSection? ms "batch")
  let queue ← queue? (← Fields.ofSection? ms "queue")
  let chain ← chain? (← Fields.ofSection? ms "chain")
  return ⟨scheduler, batch, queue, chain⟩

/-- The settings of a file's text. -/
def ofText? (s : String) : Option Config := (Toml.parse s.toList).bind ofMembers?

/-- Why settings cannot be loaded. -/
inductive LoadError
  /-- there is no file -/
  | missing
  | unreadable

/-- The text of an error about the file at a path. -/
def LoadError.text (path : String) : LoadError → String
  | .missing => "Failed to read config file from " ++ path
  | .unreadable => "Failed to parse toml file from " ++ path

/-- The settings of a file, given its text if there is one. -/
def load (file : Option String) : Except LoadError Config :=
  match file with
  | none => .error .missing
  | some s =>
    match ofText? s with
    | some c => .ok c
    | none => .error .unreadable

/-- The settings after a watched file has changed: what cannot be loaded changes nothing. -/
def reload (current : Config) (file : Option String) : Config :=
  match load file with
  | .ok c => c
  | .error _ => current

end PointExchange.Config
