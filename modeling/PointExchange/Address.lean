import PointExchange.Crypto.Keccak
import PointExchange.Hex

/-!
# Account and contract addresses

An address is a number of 160 bits. It is read from forty hexadecimal digits of any case, with or
without the mark `0x`. It is written in lower case on the wire; where people read it, the case of
its letters carries a checksum (EIP-55): a letter is in upper case iff the digit at its place in
the hash of the lower-case text is 8 or more.
-/

namespace PointExchange

/-- A number of 256 bits, the unit of amounts and contract arguments. -/
abbrev Word := BitVec 256

/-- The hash of a transaction or of a signed structure. -/
abbrev Hash := BitVec 256

/-- An address on the chain. -/
structure Address where
  bits : BitVec 160
deriving DecidableEq, Inhabited

/-- The 32 octets of a word. -/
def wordBytes (w : Word) : Bytes := Bytes.ofNat 32 w.toNat

/-- The hash of a byte string. -/
def keccak (b : Bytes) : Hash := BitVec.ofNat 256 (Keccak.hash b).toNat

/-- A hash as people read it, and as the node does. -/
def hashText (h : Hash) : String := Hex.text (wordBytes h)

@[simp] theorem length_wordBytes (w : Word) : (wordBytes w).length = 32 :=
  Bytes.length_ofNat _ _

theorem toNat_wordBytes (w : Word) : (wordBytes w).toNat = w.toNat := by
  rw [wordBytes, Bytes.toNat_ofNat]
  exact Nat.mod_eq_of_lt w.isLt

namespace Address

def bytes (a : Address) : Bytes := Bytes.ofNat 20 a.bits.toNat

/-- The address in 20 octets. -/
def ofBytes? (b : Bytes) : Option Address :=
  if b.length = 20 then some ⟨BitVec.ofNat 160 b.toNat⟩ else none

/-- The address of a public key: the last 20 octets of its hash. -/
def ofPublicBytes (b : Bytes) : Address := ⟨BitVec.ofNat 160 (Keccak.hash b).toNat⟩

/-- The address whose octets are all the same. -/
def repeated (b : UInt8) : Address := ⟨BitVec.ofNat 160 (Bytes.toNat (List.replicate 20 b))⟩

/-- Forty digits with or without the mark. -/
def ofText? (s : List Char) : Option Address := (Hex.read? s).bind ofBytes?

/-- The lower-case text. -/
def text (a : Address) : String := Hex.text a.bytes

/-- Puts the letters in upper case whose place has a hash digit of 8 or more. -/
def capitalise : List Char → List Char → List Char
  | c :: cs, d :: ds => (if '8' ≤ d then c.toUpper else c) :: capitalise cs ds
  | cs, _ => cs

/-- The text with checksum. -/
def checksummed (a : Address) : String :=
  let digits := Hex.encode a.bytes
  let marks := Hex.encode (Keccak.hash (digits.map fun c => c.toNat.toUInt8))
  String.ofList ('0' :: 'x' :: capitalise digits marks)

@[simp] theorem length_bytes (a : Address) : a.bytes.length = 20 := Bytes.length_ofNat _ _

theorem toNat_bytes (a : Address) : a.bytes.toNat = a.bits.toNat := by
  rw [bytes, Bytes.toNat_ofNat]
  exact Nat.mod_eq_of_lt a.bits.isLt

/-- An address is read back from its octets. -/
theorem ofBytes?_bytes (a : Address) : ofBytes? a.bytes = some a := by
  simp [ofBytes?, toNat_bytes]

/-- **An address is read back from its text.** -/
theorem ofText?_text (a : Address) : ofText? a.text.toList = some a := by
  simp [ofText?, text, Hex.read?_text, ofBytes?_bytes]

end Address
end PointExchange
