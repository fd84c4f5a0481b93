import PointExchange.Call
import PointExchange.Coded
import PointExchange.KeyRole
import PointExchange.Text.Quoted

/-!
# Which key comes next

For each role the index of the key to use next is kept outside of the service, so that keys take
turns across restarts. Reading and writing are separate calls; the run lock keeps two runs from
advancing an index at once.
-/

namespace PointExchange

/-- Why a call to the store of indices failed. -/
inductive IndexError
  /-- the store refused a command -/
  | store (reason : String)
  /-- no connection to the store -/
  | pool (reason : String)
  /-- the store cannot be set up -/
  | createPool (reason : String)
  | corrupt (stored : String)
deriving DecidableEq

instance : Coded IndexError where
  code
    | .store _ => "[S-IDX-001]"
    | .pool _ => "[S-IDX-002]"
    | .createPool _ => "[S-IDX-003]"
    | .corrupt _ => "[S-IDX-004]"
  text
    | .store reason => "Redis error: " ++ reason
    | .pool reason => "Redis pool error: " ++ reason
    | .createPool reason => "Failed to init redis pool: " ++ reason
    | .corrupt stored => "Stored index " ++ Text.quoted stored ++ " is not an unsigned integer"

/-- The text of an error, followed by the texts of its causes. -/
def IndexError.chain (e : IndexError) : List String :=
  match e with
  | .store reason | .pool reason | .createPool reason => [Coded.text e, reason]
  | .corrupt _ => [Coded.text e]

/-- A store of indices in an environment. -/
structure IndexAccess (E : Type) where
  get : KeyRole → Call E IndexError UInt64
  set : KeyRole → UInt64 → Call E IndexError Unit

/-- The size of a pool for a remainder: an empty pool counts as one key. -/
def poolModulus (size : UInt64) : UInt64 := if size = 0 then 1 else size

/-- The index after `current` in a pool. -/
def nextIndex (current size : UInt64) : UInt64 := (current + 1) % poolModulus size

/-- Sets the index of a role to the one after `current`. -/
def IndexAccess.advance {E : Type} (s : IndexAccess E) (role : KeyRole) (current size : UInt64) :
    Call E IndexError UInt64 := do
  s.set role (nextIndex current size)
  return nextIndex current size

/-- Indices in memory. -/
structure MemoryIndices where
  manager : UInt64 := 0
  relayer : UInt64 := 0
  unavailable : Bool := false

namespace MemoryIndices

def refused : IndexError := .store "connection refused- IoError"

def get (s : MemoryIndices) (role : KeyRole) : Except IndexError UInt64 :=
  if s.unavailable then .error refused
  else match role with
    | .manager => .ok s.manager
    | .relayer => .ok s.relayer

def set (s : MemoryIndices) (role : KeyRole) (index : UInt64) :
    Except IndexError Unit × MemoryIndices :=
  if s.unavailable then (.error refused, s)
  else match role with
    | .manager => (.ok (), { s with manager := index })
    | .relayer => (.ok (), { s with relayer := index })

/-- The indices as a store in an environment. -/
def access {E : Type} (read : E → MemoryIndices) (write : MemoryIndices → E → E) :
    IndexAccess E where
  get role := .of fun e => ((read e).get role, e)
  set role index := .of fun e =>
    let (r, s) := (read e).set role index
    (r, write s e)

/-- What was set is read back. -/
theorem get_set {s t : MemoryIndices} {role : KeyRole} {index : UInt64}
    (h : s.set role index = (.ok (), t)) : t.get role = .ok index := by
  unfold set at h
  split at h
  · exact absurd (Prod.mk.inj h).1 (by simp)
  next hs =>
    cases role <;>
    · obtain ⟨-, rfl⟩ := Prod.mk.inj h
      simp [get, hs]

end MemoryIndices

/-- In a pool of at least one key the next index is one of a key. -/
theorem nextIndex_lt {current size : UInt64} (h : 0 < size) : nextIndex current size < size := by
  have hs : size ≠ 0 := by
    intro h0
    subst h0
    exact absurd h (by decide)
  simpa [nextIndex, poolModulus, hs] using UInt64.mod_lt (current + 1) h

end PointExchange
