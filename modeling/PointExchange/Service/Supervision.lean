/-!
# Supervision

A supervised task is started again when it ends with an error that it may recover from. The pause
before each restart grows, up to a limit. A task that has run long enough starts counting anew.

The rule of the pauses is a function of the restarts so far; `RetryPolicy.delayFor` is the one that
grows by a factor.
-/

namespace PointExchange

/-- How a run of a task ends. -/
inductive TaskEnd
  | clean
  | recoverable
  | fault
  | panic
deriving DecidableEq

/-- A run of a task. -/
structure TaskRun where
  /-- how long it runs, in milliseconds -/
  duration : Nat := 0
  /-- how long it runs by the clock that decides about counting anew -/
  measured : Nat := 0
  ending : TaskEnd
deriving DecidableEq

/-- How supervision ends. -/
inductive SupervisionResult
  | clean
  | hardFailure
  | retriesExceeded
  | panicked
deriving DecidableEq

/-- The text of a failure; a panic has no text of its own. -/
def SupervisionResult.text : SupervisionResult → String
  | .clean => ""
  | .hardFailure => "Hard failure in supervisor task"
  | .retriesExceeded => "Exceeded maximum retries for task"
  | .panicked => "panicked"

/-- When restarts happen. -/
structure RestartRule where
  /-- the pause after a number of restarts, in milliseconds -/
  delayFor : Nat → Nat
  /-- restarts in a row before giving up -/
  maxRetries : Option Nat
  /-- how long a run has to be for the count to start anew, in milliseconds -/
  resetAfter : Option Nat

namespace RestartRule

/-- The count after a run that failed. -/
def countAfter (p : RestartRule) (run : TaskRun) (retries : Nat) : Nat :=
  if p.resetAfter.any fun limit => limit ≤ run.measured then 0 else retries

/-- There are no more restarts. -/
def exhausted (p : RestartRule) (retries : Nat) : Bool := p.maxRetries.any fun n => n ≤ retries

end RestartRule

/-- What supervision did. -/
structure Supervision where
  /-- when the runs started -/
  starts : List Nat
  finish : Nat
  result : SupervisionResult
deriving DecidableEq

/-- Supervises a task whose runs are given; when there are no more the next one ends cleanly. -/
def supervise (p : RestartRule) : List TaskRun → Nat → Nat → Supervision
  | [], now, _ => ⟨[now], now, .clean⟩
  | run :: rest, now, retries =>
    let finish := now + run.duration
    match run.ending with
    | .clean => ⟨[now], finish, .clean⟩
    | .fault => ⟨[now], finish, .hardFailure⟩
    | .panic => ⟨[now], finish, .panicked⟩
    | .recoverable =>
      let count := p.countAfter run retries
      if p.exhausted count then ⟨[now], finish, .retriesExceeded⟩
      else
        let later := supervise p rest (finish + p.delayFor count) (count + 1)
        { later with starts := now :: later.starts }

/-- A policy of restarts whose pauses grow by a factor. -/
structure RetryPolicy where
  /-- the pause before the first restart, in milliseconds -/
  delay : Nat
  multiplier : Float
  /-- the longest pause, in milliseconds -/
  maxDelay : Nat
  maxRetries : Option Nat
  resetAfter : Option Nat

namespace RetryPolicy

/-- The policy of a task that says nothing else. -/
def standard : RetryPolicy := ⟨500, 1.5, 60000, none, some 300000⟩

/-- The policy of the service: quick restarts without end. -/
def scheduler : RetryPolicy := ⟨100, 1.5, 5000, none, some 60000⟩

/-- A power by repeated squaring, times `acc`. -/
def power (x : Float) (n : Nat) (acc : Float) : Float :=
  if n = 0 then acc
  else power (x * x) (n / 2) (if n % 2 = 1 then acc * x else acc)
termination_by n
decreasing_by exact Nat.div_lt_self (by omega) (by omega)

/-- The lesser of two numbers; what is no number counts as the greater one. -/
def lesser (x limit : Float) : Float := if x < limit then x else limit

/-- The pause after a number of restarts: whole milliseconds, and none if it were negative. -/
def delayFor (p : RetryPolicy) (retries : Nat) : Nat :=
  let grown := Float.ofNat p.delay * power p.multiplier retries 1
  (lesser grown (Float.ofNat p.maxDelay)).toUInt64.toNat

def rule (p : RetryPolicy) : RestartRule := ⟨p.delayFor, p.maxRetries, p.resetAfter⟩

end RetryPolicy
end PointExchange
