import PointExchange.Abi.Decoding
import PointExchange.Authorization
import PointExchange.Message.Request
import PointExchange.Text.Lossy

/-!
# Calls to the point manager

The contract that carries exchanges out. A deposit call carries the manager's authorisation, a
withdrawal the user's signature, and several calls travel in one transaction as a multicall.

Each builder has a reader beside it, which is how a simulated chain looks into a batch.
-/

namespace PointExchange

/-- The arguments of a deposit call. -/
structure DepositCall where
  account : Address
  amount : Word
  validUntil : Word
  manager : Address
  signature : Bytes
deriving DecidableEq

/-- The arguments of a withdrawal call. -/
structure WithdrawCall where
  account : Address
  amount : Word
  validUntil : Word
  signature : Bytes
deriving DecidableEq

/-- Selectors: the first four octets of the hash of a function's signature. -/
def depositSelector : Bytes := [0x01, 0x83, 0x74, 0xdc]
def withdrawSelector : Bytes := [0x09, 0x3c, 0xb5, 0x77]
def multicallSelector : Bytes := [0xac, 0x96, 0x50, 0xd8]
def noncesSelector : Bytes := [0x7e, 0xce, 0xbe, 0x00]
def domainSelector : Bytes := [0x84, 0xb0, 0x19, 0x6e]

namespace DepositCall

/-- The call for an authorisation and its signature. -/
def ofAuthorization (a : DepositAuthorization) (signature : Bytes) : DepositCall :=
  ⟨a.account, a.amount, a.validUntil, a.manager, signature⟩

def encode (c : DepositCall) : Bytes :=
  depositSelector ++ Abi.block [Abi.addressPart c.account, .word c.amount, .word c.validUntil,
    Abi.addressPart c.manager, Abi.bytesPart c.signature]

def decode? (b : Bytes) : Option DepositCall := do
  let b ← Abi.argumentsOf? depositSelector b
  let account ← Abi.address? b 0
  let amount ← Abi.word? b 1
  let validUntil ← Abi.word? b 2
  let manager ← Abi.address? b 3
  let signature ← Abi.bytes? b 4
  return ⟨account, amount, validUntil, manager, signature⟩

end DepositCall

namespace WithdrawCall

/-- The call for a request. -/
def ofRequest (r : WithdrawRequest) : WithdrawCall :=
  ⟨r.account, r.amount, r.validUntil, r.signature⟩

def encode (c : WithdrawCall) : Bytes :=
  withdrawSelector ++ Abi.block [Abi.addressPart c.account, .word c.amount, .word c.validUntil,
    Abi.bytesPart c.signature]

def decode? (b : Bytes) : Option WithdrawCall := do
  let b ← Abi.argumentsOf? withdrawSelector b
  let account ← Abi.address? b 0
  let amount ← Abi.word? b 1
  let validUntil ← Abi.word? b 2
  let signature ← Abi.bytes? b 3
  return ⟨account, amount, validUntil, signature⟩

end WithdrawCall

/-! ## Multicalls -/

/-- The call data of several calls, in order. -/
def encodeMulticall (calls : List Bytes) : Bytes :=
  multicallSelector ++ Abi.block [Abi.listPart calls]

/-- The calls of a multicall. -/
def decodeMulticall? (b : Bytes) : Option (List Bytes) :=
  (Abi.argumentsOf? multicallSelector b).bind fun b => Abi.list? b 0

/-! ## Questions to the contract -/

/-- Asks for the next unused nonce of a manager. -/
def noncesCall (manager : Address) : Bytes := noncesSelector ++ Abi.block [Abi.addressPart manager]

/-- Asks for the signing domain. -/
def domainCall : Bytes := domainSelector

/-- The text of an answer, with the replacement character for octets that are no UTF-8. -/
def answerText (b : Bytes) : String := String.ofList (Text.lossy b)

/-- The domain of an answer, whose seven values are the fields in use, the name, the version, the
chain, the contract, the salt and the extensions. -/
def decodeDomain? (b : Bytes) : Option SigningDomain := do
  let _ ← Abi.word? b 0
  let name ← Abi.bytes? b 1
  let version ← Abi.bytes? b 2
  let chainId ← Abi.word? b 3
  let contract ← Abi.address? b 4
  let _ ← Abi.word? b 5
  let extensions ← Abi.word? b 6
  let count ← Abi.wordAt? b extensions.toNat
  if extensions.toNat + 32 + 32 * count.toNat ≤ b.length then
    return ⟨answerText name, answerText version, chainId, contract⟩
  else
    none

/-- The four selectors of calls differ. -/
theorem selectors_nodup :
    [depositSelector, withdrawSelector, multicallSelector, noncesSelector,
      domainSelector].Nodup := by
  decide

end PointExchange
