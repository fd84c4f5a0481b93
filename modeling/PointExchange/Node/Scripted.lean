import PointExchange.Node.Gateway

/-!
# A node that answers from a script

For rehearsing the gateway over a node: for each kind of request there is a list of answers, which
are given in turn, the last one again and again. The node writes down what it was asked, except for
receipts.
-/

namespace PointExchange

/-- An answer of a script. -/
inductive ScriptedAnswer
  | result (v : Json)
  | failure (e : RpcError)
  /-- the hash of the transaction that was sent -/
  | ownHash
  /-- the receipt of the transaction that was asked for -/
  | ownReceipt (succeeded : Bool)

/-- A node with a script. -/
structure ScriptedNode where
  /-- the answers to come, by the name of a request -/
  script : List (String × List ScriptedAnswer) := []
  /-- what it was asked, oldest first -/
  trace : List (String × Option (List Json)) := []

namespace ScriptedNode

/-- The name of a request: calls to the contract are told apart by what they ask. -/
def nameOf (method : String) (params : Option (List Json)) : String :=
  if method = "eth_call" then
    match params with
    | some (.object members :: _) =>
      match (Json.valuesOf "input" members).head?.bind Json.bytes? with
      | some input => if input.take 4 = noncesSelector then "nonces" else "domain"
      | none => "domain"
    | _ => "domain"
  else method

/-- The text of a number as a node gives it. -/
def quantity (n : Nat) : Json := .string (String.ofList ('0' :: 'x' :: Hex.ofNat n))

/-- The answer to a request for the signing domain. -/
def domainAnswer (d : SigningDomain) : Json :=
  .string (Hex.text (Abi.block [
    .word (BitVec.ofNat 256 (0x0f * Nat.pow 256 31)),
    Abi.bytesPart (Bytes.ofText d.name),
    Abi.bytesPart (Bytes.ofText d.version),
    .word d.chainId,
    Abi.addressPart d.contract,
    .word 0,
    .tail (Abi.wordOfNat 0)]))

/-- The answer to a request for a nonce. -/
def nonceAnswer (n : Word) : Json := .string (Hex.text (wordBytes n))

/-- The receipt of a transaction, which is alone in the first block. -/
def receiptAnswer (hash : Bytes) (succeeded : Bool) : Json :=
  let octets (n : Nat) (b : UInt8) : Json := .string (Hex.text (List.replicate n b))
  .object [("blockHash", octets 32 1), ("blockNumber", quantity 1), ("contractAddress", .null),
    ("cumulativeGasUsed", quantity 21000), ("effectiveGasPrice", quantity 1),
    ("from", octets 20 1), ("gasUsed", quantity 21000), ("logs", .array []),
    ("logsBloom", octets 256 0), ("status", quantity (if succeeded then 1 else 0)),
    ("to", octets 20 2), ("transactionHash", .string (Hex.text hash)),
    ("transactionIndex", quantity 0), ("type", .string "0x0")]

/-- The answer to a request that the script says nothing about. -/
def standard (name : String) : ScriptedAnswer :=
  match name with
  | "eth_sendRawTransaction" => .ownHash
  | "eth_getTransactionReceipt" => .ownReceipt true
  | "eth_chainId" => .result (quantity 84532)
  | "eth_gasPrice" => .result (quantity 1000000000)
  | "eth_estimateGas" => .result (quantity 100000)
  | "eth_getTransactionCount" => .result (quantity 0)
  | "nonces" => .result (nonceAnswer 0)
  | _ => .result (domainAnswer ⟨"PointManager", "1", 84532, .repeated 0xaa⟩)

/-- The next answer to a kind of request. -/
def next (n : ScriptedNode) (name : String) : ScriptedAnswer × ScriptedNode :=
  match n.script.lookup name with
  | some (a :: b :: rest) =>
    (a, { n with script := n.script.map fun s => if s.1 = name then (name, b :: rest) else s })
  | some [a] => (a, n)
  | _ => (standard name, n)

/-- Puts other answers in the place of those to some kinds of requests. -/
def setScript (n : ScriptedNode) (script : List (String × List ScriptedAnswer)) : ScriptedNode :=
  { n with script := script ++ n.script.filter fun s => !(script.any fun t => t.1 == s.1) }

/-- The bytes of the first parameter. -/
def firstBytes (params : Option (List Json)) : Bytes :=
  ((params.getD []).head?.bind Json.bytes?).getD []

/-- Answers a request. -/
def request (method : String) (params : Option (List Json)) (n : ScriptedNode) :
    Except RpcError Json × ScriptedNode :=
  let name := nameOf method params
  let n :=
    if name = "eth_getTransactionReceipt" then n
    else { n with trace := n.trace ++ [(name, params)] }
  let (answer, n) := n.next name
  match answer with
  | .result v => (.ok v.canonical, n)
  | .failure e => (.error e, n)
  | .ownHash => (.ok (.string (hashText (keccak (firstBytes params)))), n)
  | .ownReceipt succeeded => (.ok (receiptAnswer (firstBytes params) succeeded), n)

end ScriptedNode

/-- A scripted node, and what the gateway over it remembers. -/
structure ScriptedChain where
  node : ScriptedNode
  domain : Option SigningDomain := none

end PointExchange
