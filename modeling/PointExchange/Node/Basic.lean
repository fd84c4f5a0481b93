import PointExchange.Authorization
import PointExchange.Gateway.Basic
import PointExchange.Rlp

/-!
# Transactions as a node takes them

A transaction is a list of nine numbers and strings. What is signed carries the number of the chain
in the place of the signature, so that it is worth nothing on another chain (EIP-155); the same
number goes into the parity that stands in front of the signature later.
-/

namespace PointExchange

namespace TransactionRequest

/-- The six fields that a transaction starts with. -/
def fields (t : TransactionRequest) : List Bytes :=
  [Rlp.number t.nonce.toNat, Rlp.number t.gasPrice.toNat, Rlp.number t.gasLimit.toNat,
    Rlp.string t.target.bytes, Rlp.number 0, Rlp.string t.input]

/-- What is signed. -/
def signingBytes (t : TransactionRequest) : Bytes :=
  Rlp.list (t.fields ++ [Rlp.number t.chainId.toNat, Rlp.number 0, Rlp.number 0])

/-- The parity of a signature, joined with the number of the chain. -/
def parity (t : TransactionRequest) (g : Secp256k1.Signature) : Nat :=
  t.chainId.toNat * 2 + 35 + (if g.odd then 1 else 0)

/-- The raw transaction with its signature. -/
def signedBytes (t : TransactionRequest) (g : Secp256k1.Signature) : Bytes :=
  Rlp.list (t.fields ++ [Rlp.number (t.parity g), Rlp.number g.r.toNat, Rlp.number g.s.toNat])

/-- Signs a transaction. -/
def sign (t : TransactionRequest) (s : Signer) : SignedTransaction :=
  let raw := t.signedBytes (s.sign (keccak t.signingBytes))
  ⟨raw, keccak raw⟩

/-- Signatures of different parity are told apart. -/
theorem parity_inj {t : TransactionRequest} {g h : Secp256k1.Signature}
    (heq : t.parity g = t.parity h) : g.odd = h.odd := by
  unfold parity at heq
  split at heq <;> split at heq <;> simp_all

end TransactionRequest

end PointExchange
