import PointExchange.Contract.PointManager
import PointExchange.Node.Basic
import PointExchange.Node.Receipt

/-!
# The gateway over a node

Answers the questions of a run by requests to a node (JSON-RPC). What
cannot be read in an answer is an error like one of the connection, and says what was wrong.

The signing domain is asked for until the node has told it once, and kept from then on.
-/

namespace PointExchange

variable {E : Type}

/-- A way to a node in an environment. -/
structure NodeLink (E : Type) where
  /-- a request: a method and its parameters -/
  request : String → Option (List Json) → Call E RpcError Json
  /-- the signing domain, if it is known -/
  domain : E → Option SigningDomain
  keepDomain : SigningDomain → E → E
  config : E → Except ConfigError Config

namespace NodeLink

/-- A request whose answer is read. -/
def ask {α : Type} (n : NodeLink E) (read : Json.Reading α) (method : String)
    (params : Option (List Json)) : Call E RpcError α := do
  let answer ← n.request method params
  match read answer with
  | .ok a => return a
  | .error r => throw (.unreadable r.text answer.text)

/-- A call as the node takes it. -/
def callJson (target : Address) (input : Bytes) : Json :=
  .object [("to", .string target.text), ("input", .string (Hex.text input))]

/-- A call to a function of a contract that changes nothing. -/
def look {α : Type} (n : NodeLink E) (target : Address) (function : String) (input : Bytes)
    (read : Bytes → Option α) : Call E GatewayError α := do
  let answer ← (n.ask Json.readBytes "eth_call"
    (some [callJson target input, .string "latest"])).orElse fun e => .contract (.rpc e)
  match read answer with
  | some a => return a
  | none => throw (.contract (if answer.isEmpty then .noData function else .tooShort))

/-- The signing domain; the node is asked while it is not known. -/
def signingDomain (n : NodeLink E) (contract : Address) : Call E GatewayError SigningDomain := do
  match n.domain (← get) with
  | some domain => return domain
  | none =>
    let domain ← n.look contract "eip712Domain" domainCall decodeDomain?
    modify (n.keepDomain domain)
    return domain

/-- Hands a raw transaction over. -/
def submit (n : NodeLink E) (raw : Bytes) : Call E GatewayError Hash := do
  let _ ← (Call.ask n.config).orElse GatewayError.config
  (n.ask Json.readHash "eth_sendRawTransaction" (some [.string (Hex.text raw)])).orElse .rpc

/-- A look for the receipt of a transaction. -/
def receipt (n : NodeLink E) (hash : Hash) : Call E GatewayError (Option Receipt) :=
  (n.ask readReceipt.optional "eth_getTransactionReceipt" (some [.string (hashText hash)])).orElse
    fun e => GatewayError.pending (.rpc e)

/-- Whether a transaction succeeded. A first look tells that it is included, and one that is not
when the time is up is an error; what became of it is told by a second look. -/
def confirm (n : NodeLink E) (hash : Hash) : Call E GatewayError (Option Hash) := do
  match ← n.receipt hash with
  | none => throw (.pending .timeout)
  | some _ =>
    match ← n.receipt hash with
    | none => throw (.pending (.rpc .absent))
    | some r => if r.succeeded then return some r.hash else throw (.reverted r.hash)

end NodeLink

/-- The contracts and the keys that a gateway works with. -/
structure GatewayKeys where
  pointManager : Address
  pointToken : Address
  managers : List Signer
  relayers : List Signer

/-- The keys of a role. -/
def GatewayKeys.pool (k : GatewayKeys) : KeyRole → List Signer
  | .manager => k.managers
  | .relayer => k.relayers

/-- The gateway over a node. -/
def NodeLink.gateway (n : NodeLink E) (k : GatewayKeys) : Gateway E where
  pointManager := k.pointManager
  pointToken := k.pointToken
  poolSize role := (k.pool role).length.toUInt64
  addressFor role index := (keyAt role (k.pool role) index).map Signer.address
  chainDomain := n.signingDomain k.pointManager
  signatureNonce manager := n.look k.pointManager "nonces" (noncesCall manager) fun b =>
    Abi.word? b 0
  signDeposit index domain a := .ask fun _ => do
    let signer ← keyAt .manager k.managers index
    return a.sign signer domain
  estimateGas target input :=
    (n.ask readQuantity64 "eth_estimateGas"
      (some [NodeLink.callJson target input, .string "pending"])).orElse EstimateError.ofRpc
  gasPrice :=
    (n.ask (fun v => (readQuantity 16 v).map (BitVec.ofNat 128)) "eth_gasPrice" none).orElse .rpc
  transactionCount account :=
    (n.ask readQuantity64 "eth_getTransactionCount"
      (some [.string account.text, .string "pending"])).orElse .rpc
  chainId := (n.ask readQuantity64 "eth_chainId" none).orElse .rpc
  signTransaction index t := .ask fun _ => do
    let signer ← keyAt .relayer k.relayers index
    return t.sign signer
  submit raw := n.submit raw
  confirm hash := n.confirm hash

end PointExchange
