import PointExchange.Address

/-!
# Contract call data

The arguments of a call stand in a block of 32-octet words. A number has its word there. A byte
string has a word that says where it starts, counted from the start of the block; there stand its
length and its octets, filled up with zeros to whole words. A list of byte strings starts with its
length, and a block of its own follows.

## Layout

`Abi.block` lays out a list of parts: all words first, in order, then the tails, in order.
-/

namespace PointExchange.Abi

/-- A part of a block. -/
inductive Part
  /-- a value of one word -/
  | word (w : Word)
  /-- a value that stands behind the words -/
  | tail (b : Bytes)

/-- Fills a byte string up to whole words. -/
def padded (b : Bytes) : Bytes := b ++ List.replicate ((32 - b.length % 32) % 32) 0

/-- A number as a word. -/
def wordOfNat (n : Nat) : Bytes := wordBytes (BitVec.ofNat 256 n)

/-- The words of a block whose next tail starts at `offset`. -/
def words : List Part → Nat → Bytes
  | [], _ => []
  | .word w :: r, offset => wordBytes w ++ words r offset
  | .tail b :: r, offset => wordOfNat offset ++ words r (offset + b.length)

/-- The tails of a block. -/
def tails : List Part → Bytes
  | [] => []
  | .word _ :: r => tails r
  | .tail b :: r => b ++ tails r

/-- The block of a list of parts. -/
def block (parts : List Part) : Bytes := words parts (32 * parts.length) ++ tails parts

/-- A byte string behind the words. -/
def bytesPart (b : Bytes) : Part := .tail (wordOfNat b.length ++ padded b)

/-- A list of byte strings behind the words. -/
def listPart (items : List Bytes) : Part :=
  .tail (wordOfNat items.length ++ block (items.map bytesPart))

/-- An address as a word. -/
def addressPart (a : Address) : Part := .word (a.bits.setWidth 256)

@[simp] theorem length_wordOfNat (n : Nat) : (wordOfNat n).length = 32 := length_wordBytes _

/-- **The words of a block take 32 octets each.** -/
theorem length_words (parts : List Part) (offset : Nat) :
    (words parts offset).length = 32 * parts.length := by
  induction parts generalizing offset with
  | nil => rfl
  | cons p r ih =>
    cases p <;>
    · simp only [words, List.length_append, length_wordBytes, length_wordOfNat, ih,
        List.length_cons]
      omega

/-- A padded string ends at a word's boundary. -/
theorem length_padded_mod (b : Bytes) : (padded b).length % 32 = 0 := by
  simp only [padded, List.length_append, List.length_replicate]
  omega

end PointExchange.Abi
