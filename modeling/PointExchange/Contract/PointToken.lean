import PointExchange.Contract.PointManager

/-!
# Permits

A permit call lets the point manager move tokens of their owner. The owner's signature of 65
octets is split into its three numbers; of the last octet only the parity is kept, which it gives
as 0 or 1, as 27 or 28, or as 35 and more together with a chain.
-/

namespace PointExchange

/-- A signature split into its numbers. -/
structure SplitSignature where
  r : Word
  s : Word
  odd : Bool
deriving DecidableEq

/-- The parity that the last octet of a signature gives. -/
def parity? (v : UInt8) : Option Bool :=
  if v = 0 ∨ v = 27 then some false
  else if v = 1 ∨ v = 28 then some true
  else if 35 ≤ v then some ((v.toNat - 35) % 2 == 1)
  else none

/-- Splits a signature, or says why it cannot. -/
def SplitSignature.ofBytes (b : Bytes) : Except String SplitSignature :=
  if b.length = 65 then
    let v := (b.drop 64).headD 0
    match parity? v with
    | some odd =>
      .ok ⟨BitVec.ofNat 256 (Bytes.toNat (b.take 32)),
        BitVec.ofNat 256 (Bytes.toNat ((b.drop 32).take 32)), odd⟩
    | none => .error ("invalid parity: " ++ toString v.toNat)
  else .error "expected exactly 65 bytes"

/-- The arguments of a permit call. -/
structure PermitCall where
  owner : Address
  spender : Address
  value : Word
  deadline : Word
  signature : SplitSignature
deriving DecidableEq

def permitSelector : Bytes := [0xd5, 0x05, 0xac, 0xcf]

namespace PermitCall

/-- The call for a permit request. -/
def ofRequest (p : PermitRequest) (spender : Address) : Except MessageError PermitCall :=
  match SplitSignature.ofBytes p.signature with
  | .ok s => .ok ⟨p.owner, spender, p.value, p.deadline, s⟩
  | .error reason => .error (.invalidSignature reason)

/-- The last octet of the signature in the call. -/
def v (c : PermitCall) : Word := if c.signature.odd then 28 else 27

def encode (c : PermitCall) : Bytes :=
  permitSelector ++ Abi.block [Abi.addressPart c.owner, Abi.addressPart c.spender, .word c.value,
    .word c.deadline, .word c.v, .word c.signature.r, .word c.signature.s]

def decode? (b : Bytes) : Option PermitCall := do
  let b ← Abi.argumentsOf? permitSelector b
  let owner ← Abi.address? b 0
  let spender ← Abi.address? b 1
  let value ← Abi.word? b 2
  let deadline ← Abi.word? b 3
  let v ← Abi.word? b 4
  let r ← Abi.word? b 5
  let s ← Abi.word? b 6
  return ⟨owner, spender, value, deadline, ⟨r, s, v == 28⟩⟩

end PermitCall

/-- The call data of a permit. -/
def permitCalldata (p : PermitRequest) (spender : Address) : Except MessageError Bytes :=
  (PermitCall.ofRequest p spender).map PermitCall.encode

end PointExchange
