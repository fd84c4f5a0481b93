import PointExchange.Batch.Basic
import PointExchange.Contract.PointToken
import PointExchange.Message.Request

/-!
# Handling one message

A message joins the batch if the batch with it can be carried out within the gas budget, which a
trial estimate tells. The estimate of a message whose call fails is a revert, and the message is
dropped; so is one that is over the budget although nothing else is in its trial, because it would
never fit a later batch either.

Only an accepted message changes the calls of the batch, its records and its nonce. A withdrawal
that is dropped after its trial leaves its permit behind.
-/

namespace PointExchange

variable {E : Type}

/-- A batch in the making, with the environment that its collaborators live in. -/
structure Drafting (E : Type) where
  batch : Batch
  env : E

namespace Drafting

/-- A call to a collaborator. -/
def call {ε α : Type} (c : Call E ε α) (f : ε → Fault) : Call (Drafting E) Fault α :=
  .inside Drafting.env (fun e d => { d with env := e }) (c.orElse f)

/-- Changes the batch. -/
def amend (f : Batch → Batch) : Call (Drafting E) Fault Unit :=
  modify fun d => { d with batch := f d.batch }

/-- The manager of the batch; the first deposit settles who it is. -/
def managerIndex (c : Collaborators E) : Call (Drafting E) Fault UInt64 := do
  match (← get).batch.managerIndex with
  | some index => return index
  | none =>
    let stored ← call (c.indices.get .manager) IndexError.chain
    let index := stored % poolModulus (c.gateway.poolSize .manager)
    amend fun b => { b with managerIndex := some index }
    return index

/-- The nonce of the next deposit: the one after the last, and for the first what the chain says. -/
def nextNonce (c : Collaborators E) (manager : Address) : Call (Drafting E) Fault Word := do
  match (← get).batch.lastNonce with
  | some last => return last + 1
  | none =>
    call (c.gateway.signatureNonce manager) fun e =>
      "Failed to read manager signature nonce" :: e.chain

/-- The signing domain, which the chain is asked for once. -/
def signingDomain (c : Collaborators E) : Call (Drafting E) Fault SigningDomain := do
  match (← get).batch.domain with
  | some domain => return domain
  | none =>
    let domain ← call c.gateway.chainDomain GatewayError.chain
    amend fun b => { b with domain := some domain }
    return domain

/-- Marks the record of a message as failed; what the ledger answers does not matter. -/
def markFailed (c : Collaborators E) (id : Uuid) : Call (Drafting E) Fault Unit := do
  let _ ← Call.attempt (call (c.ledger.markFailed id) fun e => [Coded.text e])
  return ()

/-- Tests a trial; `none` when it fits. The trial is `alone` when it holds one message only. -/
def judge (c : Collaborators E) (budget : UInt64) (id : Uuid) (trial : List Bytes) (alone : Bool) :
    Call (Drafting E) Fault (Option Verdict) := do
  let estimate ← Call.inside Drafting.env (fun e d => { d with env := e })
    (c.gateway.estimateGas c.gateway.pointManager (encodeMulticall trial)).attempt
  match estimate with
  | .ok gas =>
    if gas ≤ budget then return none
    else if alone then do
      markFailed c id
      return some .dropped
    else return some (.deferred gas budget)
  | .error (.reverted _) => do
    markFailed c id
    return some .dropped
  | .error (.unavailable e) => throw ("gas estimation unavailable" :: e.chain)

/-- Handles a deposit. -/
def deposit (c : Collaborators E) (settings : BatchConfig) (id : Uuid) (r : DepositRequest) :
    Call (Drafting E) Fault Verdict := do
  let index ← managerIndex c
  let manager ← call (.ask fun _ => c.gateway.addressFor .manager index) GatewayError.chain
  let nonce ← nextNonce c manager
  let domain ← signingDomain c
  let authorization : DepositAuthorization :=
    ⟨r.account, r.amount, BitVec.ofNat 256 settings.depositValidUntil.toNat, manager, nonce⟩
  let signature ← call (c.gateway.signDeposit index domain authorization) GatewayError.chain
  let calldata := (DepositCall.ofAuthorization authorization signature).encode
  let batch := (← get).batch
  match ← judge c settings.gasBudget id (batch.calls ++ [calldata]) batch.isEmpty with
  | some verdict => return verdict
  | none => do
    amend fun b => { b with
      calls := b.calls ++ [calldata]
      accepted := b.accepted ++ [(id, .pointToToken)]
      lastNonce := some nonce }
    return .accepted

/-- Handles a withdrawal whose permit call, if it has one, is built. -/
def withdraw (c : Collaborators E) (settings : BatchConfig) (id : Uuid) (r : WithdrawRequest)
    (permit : Option Bytes) : Call (Drafting E) Fault Verdict := do
  let calldata := (WithdrawCall.ofRequest r).encode
  let batch := (← get).batch
  let permits := batch.permits ++ permit.toList
  let alone := batch.calls.isEmpty && batch.permits.isEmpty
  match ← judge c settings.gasBudget id (batch.calls ++ permits ++ [calldata]) alone with
  | some (.deferred gas budget) => return .deferred gas budget
  | some verdict => do
    amend fun b => { b with permits := permits }
    return verdict
  | none => do
    amend fun b => { b with
      permits := permits
      calls := b.calls ++ [calldata]
      accepted := b.accepted ++ [(id, .tokenToPoint)] }
    return .accepted

/-- Drops a message that is no request. -/
def reject (c : Collaborators E) (id : Uuid) : Call (Drafting E) Fault Verdict := do
  markFailed c id
  return .dropped

/-- What a message asks for, with the permit call of a withdrawal. -/
inductive Task
  | deposit (r : DepositRequest)
  | withdraw (r : WithdrawRequest) (permit : Option Bytes)

/-- The permit call of a withdrawal, if it has a permit. -/
def permitCall? (r : WithdrawRequest) (spender : Address) : Except MessageError (Option Bytes) :=
  match r.permit with
  | some p => (permitCalldata p spender).map some
  | none => .ok none

/-- The task of a message. -/
def Task.ofMessage (m : Message) (spender : Address) : Except MessageError Task := do
  match ← m.request with
  | .deposit r => return .deposit r
  | .withdraw r => return .withdraw r (← permitCall? r spender)

/-- Handles a message as far as no collaborator fails. -/
def carryOut (c : Collaborators E) (settings : BatchConfig) (m : Message) :
    Call (Drafting E) Fault Verdict :=
  match Task.ofMessage m c.gateway.pointManager with
  | .ok (.deposit r) => deposit c settings m.id r
  | .ok (.withdraw r permit) => withdraw c settings m.id r permit
  | .error _ => reject c m.id

/-- Handles a message. When a collaborator fails its record is marked as failed. -/
def handle (c : Collaborators E) (settings : BatchConfig) (m : Message) (d : Drafting E) :
    Except Fault Verdict × Drafting E :=
  match (carryOut c settings m).perform d with
  | (.ok verdict, d) => (.ok verdict, d)
  | (.error fault, d) => (.error fault, ((markFailed c m.id).perform d).2)

end Drafting
end PointExchange
