import PointExchange.Crypto.Sha256

/-!
# Signatures on the curve secp256k1

The curve is `y ^ 2 = x ^ 3 + 7` over the integers modulo `fieldSize`; its points form a group of
prime order `order` with the generator `(generatorX, generatorY)`. A private key is a number `d`
with `0 < d < order`, its public key the point `d * G`.

## Signing

The secret number of a signature comes from RFC 6979, so that one key gives one signature for a
digest. Of the two values of `s` that verify, the one at most `order / 2` is chosen.
-/

namespace PointExchange.Secp256k1

/-- The prime of the coordinate field. -/
def fieldSize : Nat := 0xFFFFFFFFFFFFFFFFFFFFFFFFFFFFFFFFFFFFFFFFFFFFFFFFFFFFFFFEFFFFFC2F

/-- The prime order of the group. -/
def order : Nat := 0xFFFFFFFFFFFFFFFFFFFFFFFFFFFFFFFEBAAEDCE6AF48A03BBFD25E8CD0364141

def generatorX : Nat := 0x79BE667EF9DCBBAC55A06295CE870B07029BFCDB2DCE28D959F2815B16F81798
def generatorY : Nat := 0x483ADA7726A3C4655DA4FBFC0E1108A8FD17B448A68554199C47D08FFB10D4B8

/-- `b ^ e` modulo `m`, by squaring over the bits of the exponent. -/
def powMod (m b e : Nat) : Nat :=
  if e = 0 then 1 % m
  else
    let h := powMod m (b * b % m) (e / 2)
    if e % 2 = 1 then h * b % m else h
termination_by e
decreasing_by exact Nat.div_lt_self (by omega) (by omega)

/-- The inverse modulo a prime. -/
def inverse (m a : Nat) : Nat := powMod m a (m - 2)

/-- Subtraction of two residues. -/
def sub (a b : Nat) : Nat := (a + fieldSize - b) % fieldSize

/-- A point `(x / z ^ 2, y / z ^ 3)`; the neutral point has `z = 0`. -/
structure Point where
  x : Nat
  y : Nat
  z : Nat

def zero : Point := ⟨1, 1, 0⟩

def generator : Point := ⟨generatorX, generatorY, 1⟩

def double (p : Point) : Point :=
  if p.z = 0 || p.y = 0 then zero
  else
    let a := p.x * p.x % fieldSize
    let b := p.y * p.y % fieldSize
    let c := b * b % fieldSize
    let s := p.x + b
    let d := 2 * sub (sub (s * s % fieldSize) a) c % fieldSize
    let e := 3 * a % fieldSize
    let x := sub (e * e % fieldSize) (2 * d % fieldSize)
    let y := sub (e * sub d x % fieldSize) (8 * c % fieldSize)
    ⟨x, y, 2 * p.y * p.z % fieldSize⟩

def add (p q : Point) : Point :=
  if p.z = 0 then q
  else if q.z = 0 then p
  else
    let z1 := p.z * p.z % fieldSize
    let z2 := q.z * q.z % fieldSize
    let u1 := p.x * z2 % fieldSize
    let u2 := q.x * z1 % fieldSize
    let s1 := p.y * q.z % fieldSize * z2 % fieldSize
    let s2 := q.y * p.z % fieldSize * z1 % fieldSize
    if u1 = u2 then
      if s1 = s2 then double p else zero
    else
      let h := sub u2 u1
      let r := sub s2 s1
      let h2 := h * h % fieldSize
      let h3 := h * h2 % fieldSize
      let v := u1 * h2 % fieldSize
      let x := sub (sub (r * r % fieldSize) h3) (2 * v % fieldSize)
      let y := sub (r * sub v x % fieldSize) (s1 * h3 % fieldSize)
      ⟨x, y, h * p.z % fieldSize * q.z % fieldSize⟩

/-- `n * p`, doubling over the bits of `n`. -/
def multiply (n : Nat) (p : Point) : Point :=
  if n = 0 then zero
  else
    let h := multiply (n / 2) (double p)
    if n % 2 = 1 then add h p else h
termination_by n
decreasing_by exact Nat.div_lt_self (by omega) (by omega)

/-- The two coordinates of a point other than the neutral one. -/
def coordinates (p : Point) : Nat × Nat :=
  let i := inverse fieldSize p.z
  let i2 := i * i % fieldSize
  (p.x * i2 % fieldSize, p.y * i2 % fieldSize * i % fieldSize)

/-- A number that may serve as a private key. -/
structure PrivateKey where
  number : Nat
  positive : 0 < number
  lt_order : number < order

namespace PrivateKey

/-- The key of a number in range. -/
def ofNat? (n : Nat) : Option PrivateKey :=
  if h : 0 < n ∧ n < order then some ⟨n, h.1, h.2⟩ else none

/-- The octets of the public key, `x` before `y`. -/
def publicBytes (k : PrivateKey) : Bytes :=
  let (x, y) := coordinates (multiply k.number generator)
  Bytes.ofNat 32 x ++ Bytes.ofNat 32 y

theorem ofNat?_eq_some {n : Nat} {k : PrivateKey} (h : ofNat? n = some k) : k.number = n := by
  unfold ofNat? at h
  split at h
  · exact (Option.some.inj h) ▸ rfl
  · exact absurd h (by simp)

end PrivateKey

/-- A signature; `odd` tells the parity of the `y` coordinate that recovers the public key. -/
structure Signature where
  r : BitVec 256
  s : BitVec 256
  odd : Bool
deriving DecidableEq

/-- The octets `r`, `s`, `v` with `v` 27 or 28. -/
def Signature.bytes (g : Signature) : Bytes :=
  Bytes.ofNat 32 g.r.toNat ++ Bytes.ofNat 32 g.s.toNat ++ [if g.odd then 28 else 27]

theorem Signature.length_bytes (g : Signature) : g.bytes.length = 65 := by
  simp [Signature.bytes]

/-- The state of the generator of secret numbers. -/
structure Nonces where
  key : Bytes
  value : Bytes

namespace Nonces

/-- Mixes data into the state, behind a separating octet. -/
def mix (g : Nonces) (separator : UInt8) (data : Bytes) : Nonces :=
  let key := Sha256.hmac g.key (g.value ++ separator :: data)
  ⟨key, Sha256.hmac key g.value⟩

/-- The state for a key and a digest. -/
def seed (d z : Nat) : Nonces :=
  let data := Bytes.ofNat 32 d ++ Bytes.ofNat 32 (z % order)
  let start : Nonces := ⟨List.replicate 32 0, List.replicate 32 1⟩
  (start.mix 0 data).mix 1 data

/-- The next candidate. -/
def draw (g : Nonces) : Nat × Nonces :=
  let value := Sha256.hmac g.key g.value
  (value.toNat, ⟨g.key, value⟩)

end Nonces

/-- The signature with secret number `n`, unless a part of it comes out as zero. -/
def signWith (d z n : Nat) : Option Signature :=
  if n = 0 || order ≤ n then none
  else
    let (x, y) := coordinates (multiply n generator)
    let r := x % order
    let s := inverse order n * (z + r * d) % order
    if r = 0 || s = 0 then none
    else
      let high := order / 2 < s
      let odd := (y % 2 == 1) != high
      some ⟨BitVec.ofNat 256 r, BitVec.ofNat 256 (if high then order - s else s), odd⟩

/-- Draws secret numbers until one gives a signature, at most `tries` of them. -/
def signFrom (d z : Nat) : Nat → Nonces → Option Signature
  | 0, _ => none
  | tries + 1, g =>
    let (n, g) := g.draw
    match signWith d z n with
    | some signature => some signature
    | none => signFrom d z tries (g.mix 0 [])

/-- The signature of a digest. A candidate number is refused with a chance below `2 ^ -127`, so
sixteen of them are never used up. -/
def PrivateKey.sign (k : PrivateKey) (digest : Bytes) : Signature :=
  let z := digest.toNat
  (signFrom k.number z 16 (Nonces.seed k.number z)).getD ⟨0, 0, false⟩

end PointExchange.Secp256k1
