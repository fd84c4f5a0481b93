import PointExchange.Call
import PointExchange.Coded

/-!
# The run lock

One run at a time: a run takes the lock under a resource's name before it starts and gives it back
at its end. The lock is a lease. When it runs out another run may take the resource, and from then
on the old guard is of no use: a guard gives back a resource only while it owns it, which its
token decides.
-/

namespace PointExchange

/-- Why a call to the lock failed. -/
inductive LockError
  | store (reason : String)
  | pool (reason : String)
deriving DecidableEq

instance : Coded LockError where
  code
    | .store _ => "[S-LCK-001]"
    | .pool _ => "[S-LCK-002]"
  text
    | .store reason => "Redis error: " ++ reason
    | .pool reason => "Redis pool error: " ++ reason

/-- The proof that a resource was acquired. -/
structure LockGuard where
  resource : String
  token : Nat
deriving DecidableEq

/-- A lock in an environment. -/
structure LockAccess (E : Type) where
  /-- takes a resource for a time in milliseconds; `none` when another guard owns it -/
  acquire : String → Nat → Call E LockError (Option LockGuard)
  /-- gives a resource back if the guard still owns it -/
  release : LockGuard → Call E LockError Unit

/-- An attempt to acquire that may be repeated. -/
structure Acquisition where
  resource : String
  ttl : Nat
  /-- milliseconds to wait before another attempt -/
  delay : Nat
  /-- attempts left after the next one -/
  left : Nat
deriving DecidableEq

/-- What an attempt leads to. -/
inductive Acquisition.Outcome
  /-- a guard, or `none` for good, or an error -/
  | settled (result : Except LockError (Option LockGuard))
  /-- another attempt after the delay -/
  | again (next : Acquisition)

/-- One attempt. -/
def Acquisition.attempt {E : Type} (a : Acquisition) (lock : LockAccess E) (e : E) :
    Acquisition.Outcome × E :=
  match (lock.acquire a.resource a.ttl).perform e with
  | (.ok none, e) =>
    match a.left with
    | 0 => (.settled (.ok none), e)
    | n + 1 => (.again { a with left := n }, e)
  | (r, e) => (.settled r, e)

theorem Acquisition.left_lt {E : Type} {a b : Acquisition} {lock : LockAccess E} {e e' : E}
    (h : a.attempt lock e = (.again b, e')) : b.left < a.left := by
  unfold attempt at h
  split at h
  · split at h
    · exact absurd (Prod.mk.inj h).1 (by simp)
    next n hn =>
      have := (Prod.mk.inj h).1
      simp only [Outcome.again.injEq] at this
      rw [← this, hn]
      exact Nat.lt_succ_self n
  · exact absurd (Prod.mk.inj h).1 (by simp)

/-- Attempts until one is settled, with a pause between two of them. -/
def Acquisition.run {E : Type} (a : Acquisition) (lock : LockAccess E) (pause : Nat → E → E)
    (e : E) : Except LockError (Option LockGuard) × E :=
  match _h : a.attempt lock e with
  | (.settled r, e) => (r, e)
  | (.again b, e) => b.run lock pause (pause b.delay e)
termination_by a.left
decreasing_by exact Acquisition.left_lt _h

/-- A resource that is taken. -/
structure Lease where
  resource : String
  token : Nat
  /-- the time at which it runs out -/
  expires : Nat
deriving DecidableEq

/-- A lock in memory. Tokens are handed out in ascending order, so no two are the same. -/
structure MemoryLock where
  leases : List Lease := []
  /-- acquisitions so far, granted or not -/
  attempts : Nat := 0
  nextToken : Nat := 0
  /-- the time by which leases are measured, in milliseconds -/
  now : Nat := 0

namespace MemoryLock

/-- The lease on a resource that has not run out. -/
def active? (l : MemoryLock) (resource : String) : Option Lease :=
  l.leases.find? fun s => s.resource == resource && l.now < s.expires

def isHeld (l : MemoryLock) (resource : String) : Bool := (l.active? resource).isSome

/-- Takes a resource unless it is held. -/
def acquire (l : MemoryLock) (resource : String) (ttl : Nat) : Option LockGuard × MemoryLock :=
  let l := { l with attempts := l.attempts + 1 }
  if l.isHeld resource then (none, l)
  else
    let others := l.leases.filter fun s => s.resource != resource
    (some ⟨resource, l.nextToken⟩,
      { l with
        leases := ⟨resource, l.nextToken, l.now + ttl⟩ :: others
        nextToken := l.nextToken + 1 })

/-- Gives a resource back if the guard owns it. -/
def release (l : MemoryLock) (g : LockGuard) : MemoryLock :=
  { l with leases := l.leases.filter fun s => !(s.resource == g.resource && s.token == g.token) }

/-- Lets time pass. -/
def elapse (l : MemoryLock) (ms : Nat) : MemoryLock := { l with now := l.now + ms }

/-- The lock as one in an environment. -/
def access {E : Type} (read : E → MemoryLock) (write : MemoryLock → E → E) : LockAccess E where
  acquire resource ttl := .of fun e =>
    let (g, l) := (read e).acquire resource ttl
    (.ok g, write l e)
  release g := .of fun e => (.ok (), write ((read e).release g) e)

/-- A resource is not granted while it is held. -/
theorem acquire_of_isHeld {l : MemoryLock} {resource : String} (ttl : Nat)
    (h : l.isHeld resource = true) :
    l.acquire resource ttl = (none, { l with attempts := l.attempts + 1 }) := by
  have h' : isHeld { l with attempts := l.attempts + 1 } resource = true := h
  simp [acquire, h']

end MemoryLock

/-! ## Waiting for a lock -/

/-- A release of a guard that is going to happen. -/
structure PlannedRelease where
  time : Nat
  holder : LockGuard
deriving DecidableEq

/-- A lock in memory with a clock for those who wait, and the releases to come. -/
structure AwaitedLock where
  lock : MemoryLock
  now : Nat := 0
  releases : List PlannedRelease := []

namespace AwaitedLock

/-- Lets time pass; what was to be released before its end is released. -/
def pass (ms : Nat) (w : AwaitedLock) : AwaitedLock where
  lock := (w.releases.filter fun p => p.time < w.now + ms).foldl
    (fun l p => l.release p.holder) w.lock
  now := w.now + ms
  releases := w.releases.filter fun p => w.now + ms ≤ p.time

def access : LockAccess AwaitedLock := MemoryLock.access lock fun l w => { w with lock := l }

end AwaitedLock
end PointExchange
