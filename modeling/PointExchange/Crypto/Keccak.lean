import PointExchange.Bytes

/-!
# Keccak-256

The sponge over the permutation Keccak-f[1600] with a rate of 136 octets and the padding of the
first Keccak submission (one bit, then zeros, then one bit), which Ethereum uses for every hash.

## The state

Twenty-five 64-bit lanes, in five rows of five: lane `(x, y)` is the lane `x` of the row `y`. Rows
and lanes are fields of a structure, so that a state has neither more nor fewer of them, and what
stands beside a lane is a turn of its row.
-/

namespace PointExchange.Keccak

/-- Five things in a circle. -/
structure Five (α : Type) where
  x0 : α
  x1 : α
  x2 : α
  x3 : α
  x4 : α
deriving DecidableEq

namespace Five

variable {α β γ : Type}

def map (f : α → β) : Five α → Five β
  | ⟨a, b, c, d, e⟩ => ⟨f a, f b, f c, f d, f e⟩

def zipWith (f : α → β → γ) : Five α → Five β → Five γ
  | ⟨a, b, c, d, e⟩, ⟨a', b', c', d', e'⟩ => ⟨f a a', f b b', f c c', f d d', f e e'⟩

/-- All five put together. -/
def fold (f : α → α → α) : Five α → α
  | ⟨a, b, c, d, e⟩ => f (f (f (f a b) c) d) e

/-- Every place takes what stands in the next one. -/
def turn : Five α → Five α
  | ⟨a, b, c, d, e⟩ => ⟨b, c, d, e, a⟩

/-- The results of applying a function over and over. -/
def iterate (f : α → α) (a : α) : Five α := ⟨a, f a, f (f a), f (f (f a)), f (f (f (f a)))⟩

/-- The diagonal of a square. -/
def diagonal : Five (Five α) → Five α
  | ⟨a, b, c, d, e⟩ => ⟨a.x0, b.x1, c.x2, d.x3, e.x4⟩

end Five

/-- Five lanes of 64 bits. -/
abbrev Row := Five UInt64

/-- The lanes of the sponge. -/
abbrev State := Five Row

def Row.xor : Row → Row → Row := Five.zipWith (· ^^^ ·)

def State.xor : State → State → State := Five.zipWith Row.xor

/-- Rotation to the left, by fewer than 64 bits. -/
def rotate (x : UInt64) (k : UInt64) : UInt64 := (x <<< k) ||| (x >>> (64 - k))

/-- Rotation offsets of the step rho, by lane. -/
def offsets : State :=
  ⟨⟨0, 1, 62, 28, 27⟩, ⟨36, 44, 6, 55, 20⟩, ⟨3, 10, 43, 25, 39⟩, ⟨41, 45, 15, 21, 8⟩,
    ⟨18, 2, 61, 56, 14⟩⟩

/-- Constants of the step iota, by round. -/
def roundConstants : List UInt64 := [
  0x0000000000000001, 0x0000000000008082, 0x800000000000808A, 0x8000000080008000,
  0x000000000000808B, 0x0000000080000001, 0x8000000080008081, 0x8000000000008009,
  0x000000000000008A, 0x0000000000000088, 0x0000000080008009, 0x000000008000000A,
  0x000000008000808B, 0x800000000000008B, 0x8000000000008089, 0x8000000000008003,
  0x8000000000008002, 0x8000000000000080, 0x000000000000800A, 0x800000008000000A,
  0x8000000080008081, 0x8000000000008080, 0x0000000080000001, 0x8000000080008008]

/-- The step theta: every lane takes in the parities of two neighbouring columns. -/
def theta (a : State) : State :=
  let c : Row := a.fold Row.xor
  let d := Row.xor c.turn.turn.turn.turn (c.turn.map (rotate · 1))
  a.map (Row.xor d)

/-- The step rho: every lane is rotated. -/
def rho (a : State) : State := a.zipWith (Five.zipWith rotate) offsets

/-- The step pi: lane `((x + 3 * y) % 5, x)` moves to `(x, y)`. -/
def pi (a : State) : State :=
  (Five.iterate (Five.map fun r => r.turn.turn.turn) a).map Five.diagonal

/-- The step chi: the only one that is not linear, along each row. -/
def chi (a : State) : State :=
  a.map fun r => Row.xor r (Five.zipWith (fun y z => ~~~ y &&& z) r.turn r.turn.turn)

/-- The step iota: the constant of the round goes into the first lane. -/
def iota (a : State) (rc : UInt64) : State := { a with x0 := { a.x0 with x0 := a.x0.x0 ^^^ rc } }

/-- One round with its constant. -/
def round (a : State) (rc : UInt64) : State := iota (chi (pi (rho (theta a)))) rc

/-- The permutation Keccak-f[1600]. -/
def permute (a : State) : State := roundConstants.foldl round a

/-- Octets absorbed between two permutations. -/
def rate : Nat := 136

/-- A lane from octets, least significant first. -/
def laneOf (b : Bytes) : UInt64 := b.foldr (fun d n => n * 256 + d.toUInt64) 0

/-- Eight octets of a lane, least significant first. -/
def laneBytes (x : UInt64) : Bytes :=
  (List.range 8).map fun k => (x >>> (8 * UInt64.ofNat k)).toUInt8

/-- The row in the first 40 octets. -/
def rowOf (b : Bytes) : Row := (Five.iterate (List.drop 8) b).map fun b => laneOf (b.take 8)

/-- The state with the octets of a block in its first lanes and zeros in the others. -/
def stateOf (block : Bytes) : State := (Five.iterate (List.drop 40) block).map rowOf

/-- Mixes one block of `rate` octets into the state. -/
def absorbBlock (a : State) (block : Bytes) : State := permute (State.xor a (stateOf block))

/-- The last block: what is left of the message, then the padding. -/
def padded (rest : Bytes) : Bytes :=
  if rest.length = rate - 1 then rest ++ [0x81]
  else rest ++ 0x01 :: List.replicate (rate - 2 - rest.length) 0 ++ [0x80]

/-- Absorbs a number of whole blocks and what is left of the message. -/
def absorb : Nat → State → Bytes → State
  | 0, a, m => absorbBlock a (padded m)
  | n + 1, a, m => absorb n (absorbBlock a (m.take rate)) (m.drop rate)

/-- The digest: the first 32 octets of the state. -/
def hash (m : Bytes) : Bytes :=
  let a := absorb (m.length / rate) (stateOf []) m
  [a.x0.x0, a.x0.x1, a.x0.x2, a.x0.x3].flatMap laneBytes

theorem length_laneBytes (x : UInt64) : (laneBytes x).length = 8 := by
  simp [laneBytes]

/-- A digest has 32 octets. -/
theorem length_hash (m : Bytes) : (hash m).length = 32 := by
  simp only [hash, List.length_flatMap, length_laneBytes]
  rfl

end PointExchange.Keccak
