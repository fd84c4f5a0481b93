import PointExchange.Bytes

/-!
# SHA-256 and HMAC

The digest of FIPS 180-4 and the keyed digest of RFC 2104 over it. They serve the choice of the
secret number in a signature only.
-/

namespace PointExchange.Sha256

/-- The eight words of the chaining value. -/
structure State where
  a : UInt32
  b : UInt32
  c : UInt32
  d : UInt32
  e : UInt32
  f : UInt32
  g : UInt32
  h : UInt32

def initial : State :=
  ⟨0x6a09e667, 0xbb67ae85, 0x3c6ef372, 0xa54ff53a, 0x510e527f, 0x9b05688c, 0x1f83d9ab, 0x5be0cd19⟩

def constants : List UInt32 := [
  0x428a2f98, 0x71374491, 0xb5c0fbcf, 0xe9b5dba5, 0x3956c25b, 0x59f111f1, 0x923f82a4, 0xab1c5ed5,
  0xd807aa98, 0x12835b01, 0x243185be, 0x550c7dc3, 0x72be5d74, 0x80deb1fe, 0x9bdc06a7, 0xc19bf174,
  0xe49b69c1, 0xefbe4786, 0x0fc19dc6, 0x240ca1cc, 0x2de92c6f, 0x4a7484aa, 0x5cb0a9dc, 0x76f988da,
  0x983e5152, 0xa831c66d, 0xb00327c8, 0xbf597fc7, 0xc6e00bf3, 0xd5a79147, 0x06ca6351, 0x14292967,
  0x27b70a85, 0x2e1b2138, 0x4d2c6dfc, 0x53380d13, 0x650a7354, 0x766a0abb, 0x81c2c92e, 0x92722c85,
  0xa2bfe8a1, 0xa81a664b, 0xc24b8b70, 0xc76c51a3, 0xd192e819, 0xd6990624, 0xf40e3585, 0x106aa070,
  0x19a4c116, 0x1e376c08, 0x2748774c, 0x34b0bcb5, 0x391c0cb3, 0x4ed8aa4a, 0x5b9cca4f, 0x682e6ff3,
  0x748f82ee, 0x78a5636f, 0x84c87814, 0x8cc70208, 0x90befffa, 0xa4506ceb, 0xbef9a3f7, 0xc67178f2]

/-- Rotation to the right. -/
def rotate (x : UInt32) (k : UInt32) : UInt32 := (x >>> k) ||| (x <<< (32 - k))

/-- The word of four octets, most significant first. -/
def wordOf (b : Bytes) : UInt32 := b.foldl (fun n d => n * 256 + d.toUInt32) 0

def wordBytes (x : UInt32) : Bytes :=
  [(x >>> 24).toUInt8, (x >>> 16).toUInt8, (x >>> 8).toUInt8, x.toUInt8]

/-- Lengthens the sixteen words of a block to sixty-four. -/
def extend (w : Array UInt32) : Nat → Array UInt32
  | 0 => w
  | k + 1 =>
    let n := w.size
    let x := w.getD (n - 15) 0
    let y := w.getD (n - 2) 0
    let s0 := rotate x 7 ^^^ rotate x 18 ^^^ (x >>> 3)
    let s1 := rotate y 17 ^^^ rotate y 19 ^^^ (y >>> 10)
    extend (w.push (w.getD (n - 16) 0 + s0 + w.getD (n - 7) 0 + s1)) k

/-- One step, with the sum of the step's constant and message word. -/
def step (s : State) (kw : UInt32) : State :=
  let s1 := rotate s.e 6 ^^^ rotate s.e 11 ^^^ rotate s.e 25
  let ch := (s.e &&& s.f) ^^^ (~~~ s.e &&& s.g)
  let t1 := s.h + s1 + ch + kw
  let s0 := rotate s.a 2 ^^^ rotate s.a 13 ^^^ rotate s.a 22
  let maj := (s.a &&& s.b) ^^^ (s.a &&& s.c) ^^^ (s.b &&& s.c)
  ⟨t1 + (s0 + maj), s.a, s.b, s.c, s.d + t1, s.e, s.f, s.g⟩

/-- Mixes one block of 64 octets into the chaining value. -/
def compress (s : State) (block : Bytes) : State :=
  let words := (List.range 16).map fun k => wordOf ((block.drop (4 * k)).take 4)
  let w := extend words.toArray 48
  let t := (constants.zipWith (· + ·) w.toList).foldl step s
  ⟨s.a + t.a, s.b + t.b, s.c + t.c, s.d + t.d, s.e + t.e, s.f + t.f, s.g + t.g, s.h + t.h⟩

/-- The message, one bit, zeros, and its length in bits, in full blocks. -/
def padded (m : Bytes) : Bytes :=
  m ++ 0x80 :: List.replicate ((119 - m.length % 64) % 64) 0 ++ Bytes.ofNat 8 (8 * m.length)

def absorb (s : State) (m : Bytes) : State :=
  if m.isEmpty then s else absorb (compress s (m.take 64)) (m.drop 64)
termination_by m.length
decreasing_by
  cases m with
  | nil => simp at *
  | cons d r => simp only [List.length_drop, List.length_cons]; omega

/-- The digest of a message. -/
def hash (m : Bytes) : Bytes :=
  let s := absorb initial (padded m)
  [s.a, s.b, s.c, s.d, s.e, s.f, s.g, s.h].flatMap wordBytes

/-- The digest of a message under a key of at most 64 octets. -/
def hmac (key m : Bytes) : Bytes :=
  let k := key ++ List.replicate (64 - key.length) 0
  hash (k.map (· ^^^ 0x5c) ++ hash (k.map (· ^^^ 0x36) ++ m))

/-- A digest has 32 octets. -/
theorem length_hash (m : Bytes) : (hash m).length = 32 := by
  simp [hash, wordBytes]

end PointExchange.Sha256
