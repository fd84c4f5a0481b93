import PointExchange.Amount
import PointExchange.Message.Basic

/-!
# From a message to a request

A request is a message whose fields make sense. The checks come in a fixed order: the amount, the
direction, and for a withdrawal the signature, its expiry, and the value of the permit.
-/

namespace PointExchange

/-- A deposit to be authorised by a manager. -/
structure DepositRequest where
  account : Address
  amount : Word
deriving DecidableEq

/-- A permit with its numbers read. -/
structure PermitRequest where
  owner : Address
  value : Word
  deadline : Word
  signature : Bytes
deriving DecidableEq

/-- A withdrawal signed by its user. -/
structure WithdrawRequest where
  account : Address
  amount : Word
  validUntil : Word
  signature : Bytes
  permit : Option PermitRequest
deriving DecidableEq

/-- A valid exchange request. -/
inductive ExchangeRequest
  | deposit (r : DepositRequest)
  | withdraw (r : WithdrawRequest)
deriving DecidableEq

/-- The amount of a text, or the error that cites the text. -/
def parseAmount (s : String) : Except MessageError Word :=
  match amount? s with
  | some w => .ok w
  | none => .error (.invalidAmount s)

namespace Message

/-- The direction of a message: an integer code, nothing that only looks like one. -/
def direction (m : Message) : Except MessageError Direction :=
  let code? := m.kind.natural?.bind fun n => Direction.ofCode? n.toNat
  match code? with
  | some d => .ok d
  | none => .error (.unknownDirection m.kind.text)

end Message

/-- The permit with its value read. -/
def PermitData.request (p : PermitData) : Except MessageError PermitRequest := do
  let value ← parseAmount p.value
  return ⟨p.owner, value, BitVec.ofNat 256 p.deadline.toNat, p.signature⟩

namespace Message

/-- The permit of a message, if it has one. -/
def permitRequest (m : Message) : Except MessageError (Option PermitRequest) :=
  match m.permit with
  | some p => p.request.map some
  | none => .ok none

/-- The request of a message. -/
def request (m : Message) : Except MessageError ExchangeRequest := do
  let amount ← parseAmount m.amount
  match ← m.direction with
  | .pointToToken => return .deposit ⟨m.account, amount⟩
  | .tokenToPoint =>
    let signature ← m.signature.elim (.error .missingSignature) .ok
    let validUntil ← m.validUntil.elim (.error .missingValidUntil) .ok
    let permit ← m.permitRequest
    return .withdraw ⟨m.account, amount, BitVec.ofNat 256 validUntil.toNat, signature, permit⟩

end Message

theorem parseAmount_eq_ok_iff {s : String} {w : Word} :
    parseAmount s = .ok w ↔ amount? s = some w := by
  unfold parseAmount
  split <;> simp_all

end PointExchange
