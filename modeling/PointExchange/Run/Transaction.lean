import PointExchange.Run.Basic

/-!
# Transactions of a run

A transaction is estimated, priced and signed in this order, and the first failure ends it.
-/

namespace PointExchange

variable {E : Type}

/-- Estimates, prices and signs a transaction of a relayer. -/
def Gateway.prepare (g : Gateway E) (relayer : UInt64) (target : Address) (input : Bytes)
    (nonce : UInt64) : Call E RunError SignedTransaction := do
  let gasLimit ← (g.estimateGas target input).orElse RunError.estimate
  let gasPrice ← g.gasPrice.orElse RunError.gateway
  let chainId ← g.chainId.orElse RunError.gateway
  (g.signTransaction relayer ⟨target, input, gasLimit, gasPrice, nonce, chainId⟩).orElse
    RunError.gateway

end PointExchange
