import PointExchange.Run.Transaction

/-!
# Submitting a batch

The transaction of a batch is signed first, because the ledger links its records to the hash.
Then the links are committed, and only then is the transaction broadcast: whatever is on the chain
is in the ledger. If the broadcast fails the links stay.
-/

namespace PointExchange

variable {E : Type}

/-- Signs the transaction of a batch with the relayer's next nonce. -/
def signBatch (g : Gateway E) (relayer : UInt64) (account : Address) (calls : List Bytes) :
    Call E RunError SignedTransaction := do
  let nonce ← (g.transactionCount account).orElse RunError.gateway
  g.prepare relayer g.pointManager (encodeMulticall calls) nonce

/-- Signs a batch, commits it and broadcasts it. -/
def submitBatch (c : Collaborators E) (relayer : UInt64) (account : Address) (b : Batch) :
    RunStep E BatchOutcome := do
  match ← (signBatch c.gateway relayer account b.calls).attempt with
  | .error _ => return .notSigned
  | .ok transaction =>
    match ← (c.ledger.commit transaction.hash b.accepted).attempt with
    | .error _ => return .ledgerFailed transaction.hash
    | .ok _ =>
      match ← (c.gateway.submit transaction.raw).attempt with
      | .error _ => return .broadcastFailed transaction.hash
      | .ok pending =>
        match ← (c.gateway.confirm pending).attempt with
        | .error _ => return .broadcastFailed transaction.hash
        | .ok (some included) => return .broadcast included
        | .ok none => throw .waiting

end PointExchange
