import PointExchange.Abi.Encoding
import PointExchange.Crypto.Secp256k1

/-!
# Authorisations of deposits

A manager authorises a deposit by signing a typed structure (EIP-712): the hash of the structure
is joined with the hash of the signing domain, which says for which contract on which chain the
signature is meant, and the hash of both is signed.
-/

namespace PointExchange

/-- The domain of signatures for a contract. -/
structure SigningDomain where
  name : String
  version : String
  chainId : Word
  contract : Address
deriving DecidableEq

/-- What a manager signs for a deposit. -/
structure DepositAuthorization where
  account : Address
  amount : Word
  validUntil : Word
  manager : Address
  nonce : Word
deriving DecidableEq

/-- A key that signs, with its address. -/
structure Signer where
  address : Address
  sign : Hash → Secp256k1.Signature

/-- The hash of a text. -/
def textHash (s : String) : Hash := keccak (Bytes.ofText s)

def SigningDomain.typeHash : Hash :=
  textHash "EIP712Domain(string name,string version,uint256 chainId,address verifyingContract)"

/-- The hash of a domain. -/
def SigningDomain.separator (d : SigningDomain) : Hash :=
  keccak ([SigningDomain.typeHash, textHash d.name, textHash d.version, d.chainId,
    d.contract.bits.setWidth 256].flatMap wordBytes)

namespace DepositAuthorization

def typeHash : Hash :=
  textHash ("DepositPoint(address account,uint256 amount,uint256 validUntil," ++
    "address manager,uint256 nonce)")

/-- The hash of the structure. -/
def structHash (a : DepositAuthorization) : Hash :=
  keccak ([typeHash, a.account.bits.setWidth 256, a.amount, a.validUntil,
    a.manager.bits.setWidth 256, a.nonce].flatMap wordBytes)

/-- The hash that is signed under a domain. -/
def signingHash (a : DepositAuthorization) (d : SigningDomain) : Hash :=
  keccak (0x19 :: 0x01 :: wordBytes d.separator ++ wordBytes a.structHash)

/-- The signature of a key, in 65 octets. -/
def sign (a : DepositAuthorization) (s : Signer) (d : SigningDomain) : Bytes :=
  (s.sign (a.signingHash d)).bytes

theorem length_sign (a : DepositAuthorization) (s : Signer) (d : SigningDomain) :
    (a.sign s d).length = 65 := Secp256k1.Signature.length_bytes _

end DepositAuthorization

/-! ## Private keys -/

/-- The signer of a private key. -/
def Secp256k1.PrivateKey.signer (k : Secp256k1.PrivateKey) : Signer :=
  ⟨Address.ofPublicBytes k.publicBytes, fun h => k.sign (wordBytes h)⟩

/-- The private key of 64 hexadecimal digits, with or without the mark. -/
def privateKey? (s : List Char) : Option Secp256k1.PrivateKey :=
  match Hex.read? s with
  | some b => if b.length = 32 then Secp256k1.PrivateKey.ofNat? b.toNat else none
  | none => none

end PointExchange
