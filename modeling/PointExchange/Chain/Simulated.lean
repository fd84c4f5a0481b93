import PointExchange.Contract.PointToken
import PointExchange.Gateway.Basic

/-!
# A simulated chain

A chain in memory, for rehearsing runs. It knows the nonces of managers and the transaction counts
of relayers, and it can be told to misbehave: to carry out no call of an account, to refuse
transactions, to leave transactions behind a gap in the nonces waiting, to give no estimates.

A transaction is recorded when it is signed. Its raw form is the relayer, the nonce, the target and
the input one after the other, and it is known by the hash of that.
-/

namespace PointExchange

/-- A transaction that a relayer has signed. -/
structure SignedRecord where
  relayerIndex : UInt64
  relayer : Address
  request : TransactionRequest
  hash : Hash

/-- The state of a simulated chain, with the keys that sign for it. -/
structure SimulatedChain where
  managers : List Signer := []
  relayers : List Signer := []
  /-- the next nonce of each manager's authorisations -/
  managerNonce : Address → Word := fun _ => 0
  /-- how many transactions each relayer has sent -/
  txCount : Address → UInt64 := fun _ => 0
  /-- accounts whose deposits and withdrawals fail -/
  reverting : List Address := []
  /-- targets whose transactions are refused -/
  failingTargets : List Address := []
  /-- single transactions that are refused, by target and nonce -/
  rejected : List (Address × UInt64) := []
  /-- transactions ahead of the relayer's count wait for good -/
  stallsNonceGaps : Bool := false
  estimateUnavailable : Bool := false
  /-- the selectors of every estimated batch -/
  estimated : List (List Bytes) := []
  /-- how often the signing domain was asked for -/
  domainCalls : Nat := 0
  /-- manager and nonce of every signed authorisation -/
  signedDeposits : List (UInt64 × Word) := []
  signed : List SignedRecord := []
  /-- transactions that wait for good -/
  stalled : List Hash := []
  /-- hashes of included transactions, in their order -/
  broadcasts : List Hash := []

namespace SimulatedChain

def pointManager : Address := .repeated 0xaa
def pointToken : Address := .repeated 0xbb

/-- The number of the chain. -/
def number : UInt64 := 84532

def domain : SigningDomain := ⟨"PointManager", "1", BitVec.ofNat 256 number.toNat, pointManager⟩

/-- Gas of every batch. -/
def baseGas : UInt64 := 21000
/-- Gas of every call of a batch. -/
def callGas : UInt64 := 100000
/-- Gas of a permit transaction. -/
def permitGas : UInt64 := 60000

/-- The account of a deposit or a withdrawal. -/
def accountOf? (call : Bytes) : Option Address :=
  match DepositCall.decode? call with
  | some d => some d.account
  | none => (WithdrawCall.decode? call).map WithdrawCall.account

/-- The gas of a call. -/
def gasOf (c : SimulatedChain) (call : Bytes) : Except EstimateError UInt64 :=
  match accountOf? call with
  | some account =>
    if account ∈ c.reverting then
      .error (.reverted ("execution reverted: " ++ account.checksummed ++ " rejected"))
    else .ok callGas
  | none => .ok callGas

/-- The gas of calls on top of `total`. -/
def gasOfAll (c : SimulatedChain) : List Bytes → UInt64 → Except EstimateError UInt64
  | [], total => .ok total
  | call :: rest, total =>
    match c.gasOf call with
    | .ok gas => gasOfAll c rest (total + gas)
    | .error e => .error e

/-- The calls of a transaction: those of a multicall, or the input itself. -/
def callsOf (input : Bytes) : List Bytes := (decodeMulticall? input).getD [input]

/-- The selector of a call; a call that is too short has none. -/
def selectorOf (call : Bytes) : Bytes :=
  if 4 ≤ call.length then call.take 4 else [0, 0, 0, 0]

/-- Estimates a transaction. -/
def estimate (c : SimulatedChain) (target : Address) (input : Bytes) :
    Except EstimateError UInt64 × SimulatedChain :=
  if c.estimateUnavailable then
    (.error (.unavailable (.rpc (.transport "estimate unavailable"))), c)
  else if target = pointToken then (.ok permitGas, c)
  else
    let calls := callsOf input
    (c.gasOfAll calls baseGas, { c with estimated := c.estimated ++ [calls.map selectorOf] })

/-- Signs an authorisation. -/
def signDeposit (c : SimulatedChain) (index : UInt64) (domain : SigningDomain)
    (a : DepositAuthorization) : Except GatewayError Bytes × SimulatedChain :=
  match keyAt .manager c.managers index with
  | .ok signer =>
    (.ok (a.sign signer domain),
      { c with signedDeposits := c.signedDeposits ++ [(index, a.nonce)] })
  | .error e => (.error e, c)

/-- The raw form of a transaction. -/
def rawOf (relayer : Address) (r : TransactionRequest) : Bytes :=
  relayer.bytes ++ Bytes.ofNat 8 r.nonce.toNat ++ r.target.bytes ++ r.input

/-- Signs a transaction. -/
def signTransaction (c : SimulatedChain) (index : UInt64) (r : TransactionRequest) :
    Except GatewayError SignedTransaction × SimulatedChain :=
  match keyAt .relayer c.relayers index with
  | .ok signer =>
    let raw := rawOf signer.address r
    let hash := keccak raw
    (.ok ⟨raw, hash⟩, { c with signed := c.signed ++ [⟨index, signer.address, r, hash⟩] })
  | .error e => (.error e, c)

/-- The node refuses a transaction. -/
def refuses (c : SimulatedChain) (t : SignedRecord) : Bool :=
  t.request.target ∈ c.failingTargets || (t.request.target, t.request.nonce) ∈ c.rejected

/-- A transaction waits behind a gap in the nonces. -/
def stalls (c : SimulatedChain) (t : SignedRecord) : Bool :=
  c.stallsNonceGaps && c.txCount t.relayer < t.request.nonce

/-- The managers of the deposits of a transaction, one for each deposit. -/
def depositManagers (input : Bytes) : List Address :=
  match decodeMulticall? input with
  | some calls => (calls.filterMap DepositCall.decode?).map DepositCall.manager
  | none => []

/-- Uses up a nonce of a manager. -/
def useNonce (nonce : Address → Word) (manager : Address) : Address → Word :=
  fun a => if a = manager then nonce a + 1 else nonce a

/-- Includes a transaction. -/
def settle (c : SimulatedChain) (t : SignedRecord) : SimulatedChain :=
  { c with
    txCount := fun a => if a = t.relayer then c.txCount a + 1 else c.txCount a
    managerNonce := (depositManagers t.request.input).foldl useNonce c.managerNonce
    stalled := c.stalled.filter (· ≠ t.hash)
    broadcasts := c.broadcasts ++ [t.hash] }

/-- Hands a raw transaction over. -/
def submit (c : SimulatedChain) (raw : Bytes) : Except GatewayError Hash × SimulatedChain :=
  let hash := keccak raw
  match c.signed.find? fun t => t.hash = hash with
  | none => (.error (.build "unknown transaction"), c)
  | some t =>
    if c.refuses t then (.error (.rpc (.transport "broadcast rejected")), c)
    else if c.stalls t then (.ok hash, { c with stalled := hash :: c.stalled })
    else (.ok hash, c.settle t)

/-- A transaction that was taken over is included unless it waits for good. -/
def confirm (c : SimulatedChain) (hash : Hash) : Option Hash :=
  if hash ∈ c.stalled then none else some hash

/-- The keys of a role. -/
def pool (c : SimulatedChain) : KeyRole → List Signer
  | .manager => c.managers
  | .relayer => c.relayers

/-- The chain as a gateway. Keys do not change, so they are those of the chain at the start. -/
def gateway (start : SimulatedChain) : Gateway SimulatedChain where
  pointManager := pointManager
  pointToken := pointToken
  poolSize role := (start.pool role).length.toUInt64
  addressFor role index := (keyAt role (start.pool role) index).map Signer.address
  chainDomain := .of fun c => (.ok domain, { c with domainCalls := c.domainCalls + 1 })
  signatureNonce manager := .ask fun c => .ok (c.managerNonce manager)
  signDeposit index domain a := .of fun c => c.signDeposit index domain a
  estimateGas target input := .of fun c => c.estimate target input
  gasPrice := pure 1000000000
  transactionCount account := .ask fun c => .ok (c.txCount account)
  chainId := pure number
  signTransaction index r := .of fun c => c.signTransaction index r
  submit raw := .of fun c => c.submit raw
  confirm hash := .ask fun c => .ok (c.confirm hash)

end SimulatedChain

/-- The part of an environment as a gateway of the whole. -/
def Gateway.inside {E S : Type} (g : Gateway E) (read : S → E) (write : E → S → S) : Gateway S where
  pointManager := g.pointManager
  pointToken := g.pointToken
  poolSize := g.poolSize
  addressFor := g.addressFor
  chainDomain := g.chainDomain.inside read write
  signatureNonce a := (g.signatureNonce a).inside read write
  signDeposit i d a := (g.signDeposit i d a).inside read write
  estimateGas t b := (g.estimateGas t b).inside read write
  gasPrice := g.gasPrice.inside read write
  transactionCount a := (g.transactionCount a).inside read write
  chainId := g.chainId.inside read write
  signTransaction i r := (g.signTransaction i r).inside read write
  submit b := (g.submit b).inside read write
  confirm h := (g.confirm h).inside read write

end PointExchange
