import PointExchange.Authorization
import PointExchange.Call
import PointExchange.Gateway.Error

/-!
# The gateway to the chain

What a run needs of the chain, and of the keys that sign for it. To broadcast a transaction is two
things: the node takes it over or refuses it, and some time later it is seen to be included, or
never.
-/

namespace PointExchange

/-- A transaction for a relayer to sign. -/
structure TransactionRequest where
  target : Address
  input : Bytes
  gasLimit : UInt64
  gasPrice : BitVec 128
  nonce : UInt64
  chainId : UInt64
deriving DecidableEq

/-- A signed transaction, which nobody has seen yet. -/
structure SignedTransaction where
  raw : Bytes
  hash : Hash
deriving DecidableEq

/-- A gateway in an environment. -/
structure Gateway (E : Type) where
  /-- the contract that every batch goes to -/
  pointManager : Address
  /-- the contract that permits go to -/
  pointToken : Address
  /-- the number of keys of a role -/
  poolSize : KeyRole → UInt64
  addressFor : KeyRole → UInt64 → Except GatewayError Address
  chainDomain : Call E GatewayError SigningDomain
  /-- the next unused nonce of a manager's authorisations -/
  signatureNonce : Address → Call E GatewayError Word
  signDeposit : UInt64 → SigningDomain → DepositAuthorization → Call E GatewayError Bytes
  estimateGas : Address → Bytes → Call E EstimateError UInt64
  gasPrice : Call E GatewayError (BitVec 128)
  /-- how many transactions an address has sent -/
  transactionCount : Address → Call E GatewayError UInt64
  chainId : Call E GatewayError UInt64
  signTransaction : UInt64 → TransactionRequest → Call E GatewayError SignedTransaction
  /-- hands a signed transaction over to the node -/
  submit : Bytes → Call E GatewayError Hash
  /-- looks whether a transaction that was taken over is settled; `none` as long as it is not -/
  confirm : Hash → Call E GatewayError (Option Hash)

/-- The error of a key that is not there, unless it is. -/
def keyAt {α : Type} (role : KeyRole) (pool : List α) (index : UInt64) : Except GatewayError α :=
  match pool[index.toNat]? with
  | some k => .ok k
  | none => .error (.unknownKey role index)

theorem keyAt_eq_ok_iff {α : Type} {role : KeyRole} {pool : List α} {index : UInt64} {k : α} :
    keyAt role pool index = .ok k ↔ pool[index.toNat]? = some k := by
  unfold keyAt
  split <;> simp_all

end PointExchange
