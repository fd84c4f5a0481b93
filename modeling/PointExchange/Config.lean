import PointExchange.Coded

/-!
# Settings

The settings of the service, with the values that a field has when it is not given. While the
service runs the settings are shared behind a lock that a crash of its holder can spoil; reading
them fails from then on.
-/

namespace PointExchange

/-- Settings of the schedule and of the run lock. -/
structure SchedulerConfig where
  /-- time between two runs, in milliseconds -/
  runIntervalMs : UInt64 := 3000
  /-- name of the run lock -/
  lockResource : String := "handle_point_swap_transaction_lock"
  /-- lease of the run lock, in milliseconds -/
  lockTtlMs : UInt64 := 10000
  /-- attempts to take a held lock after the first one -/
  lockRetryCount : UInt32 := 0
  /-- time between two attempts, in milliseconds -/
  lockRetryDelayMs : UInt64 := 200
deriving DecidableEq

/-- Settings of a batch. -/
structure BatchConfig where
  /-- gas ceiling of a batched transaction -/
  gasCeiling : UInt64 := 5000000
  /-- gas kept free below the ceiling -/
  gasSafetyMargin : UInt64 := 200000
  /-- expiry of a deposit's authorisation, in seconds of the epoch -/
  depositValidUntil : UInt64 := 4102444800
  /-- how many messages a run takes at most -/
  maxMessagesPerRun : Option UInt64 := none
deriving DecidableEq

/-- Settings of the message queue. -/
structure QueueConfig where
  name : String := "point_swap_transaction_queue"
  durable : Bool := true
deriving DecidableEq

/-- Settings of the chain. -/
structure ChainConfig where
  /-- how long to wait for a transaction to be included, in seconds -/
  txTimeoutSecs : UInt64 := 120
deriving DecidableEq

/-- All settings. -/
structure Config where
  scheduler : SchedulerConfig := {}
  batch : BatchConfig := {}
  queue : QueueConfig := {}
  chain : ChainConfig := {}
deriving DecidableEq

/-- The gas that a batch may use: the ceiling less the margin, nothing if the margin is larger. -/
def BatchConfig.gasBudget (c : BatchConfig) : UInt64 :=
  if c.gasSafetyMargin ≤ c.gasCeiling then c.gasCeiling - c.gasSafetyMargin else 0

/-- Why the settings cannot be read. -/
inductive ConfigError
  /-- a holder of their lock crashed -/
  | lockFailed
deriving DecidableEq

instance : Coded ConfigError where
  code _ := "[S-CON-001]"
  text _ := "Failed to lock internal config structure"

/-- The settings as the service shares them. -/
structure SharedConfig where
  config : Config := {}
  /-- a holder of their lock crashed -/
  poisoned : Bool := false

def SharedConfig.read (c : SharedConfig) : Except ConfigError Config :=
  if c.poisoned then .error .lockFailed else .ok c.config

/-- The budget is a subtraction that stops at zero. -/
theorem BatchConfig.toNat_gasBudget (c : BatchConfig) :
    c.gasBudget.toNat = c.gasCeiling.toNat - c.gasSafetyMargin.toNat := by
  unfold gasBudget
  split
  next h => exact UInt64.toNat_sub_of_le _ _ h
  next h =>
    have h' : ¬ c.gasSafetyMargin.toNat ≤ c.gasCeiling.toNat := h
    show 0 = _
    omega

end PointExchange
