import PointExchange.Json.Embedded
import PointExchange.Json.Octets
import PointExchange.Message.Basic
import PointExchange.Text.Lossy

/-!
# Decoding a payload

A payload is one JSON document. It is a message, or an object whose member `data` is a message;
the second reading is tried first. A message is an object with the members below, or an array of
their values in this order, of which only the first three have to be there.

Members of other names are ignored. A member of a known name that is given twice makes the object
no message. `null` for an optional member is as good as leaving it out. The code of the direction
may be spelt as a text (`Json.expand?`).

## Order

`Message.ofMembers?` depends on `Json.valuesOf` only, so neither the order of the members nor the
ones of other names matter.
-/

namespace PointExchange

namespace Json

/-- The value of the only member of a name, `null` if there is none; `none` if there are more. -/
def member? (name : String) (members : List (String × Json)) : Option Json :=
  match valuesOf name members with
  | [] => some .null
  | [v] => some v
  | _ => none

def uuid? (v : Json) : Option Uuid := v.string?.bind fun s => Uuid.ofText? s.toList

/-- Reads an optional value. -/
def optional? {α : Type} (read : Json → Option α) : Json → Option (Option α)
  | .null => some none
  | v => (read v).map some

end Json

/-- The values of a permit's fields, in order. -/
structure PermitFields where
  owner : Json
  value : Json
  deadline : Json
  signature : Json

namespace PermitData

/-- The permit of its fields. -/
def ofFields? (f : PermitFields) : Option PermitData := do
  let owner ← f.owner.address?
  let value ← f.value.string?
  let deadline ← f.deadline.natural?
  let signature ← f.signature.bytes?
  return ⟨owner, value, deadline, signature⟩

/-- The fields of an object's members. -/
def fieldsOfMembers? (members : List (String × Json)) : Option PermitFields := do
  let owner ← Json.member? "owner" members
  let value ← Json.member? "value" members
  let deadline ← Json.member? "deadline" members
  let signature ← Json.member? "signature" members
  return ⟨owner, value, deadline, signature⟩

/-- The permit of a JSON value. -/
def ofJson? : Json → Option PermitData
  | .object members => (fieldsOfMembers? members).bind ofFields?
  | .array [owner, value, deadline, signature] => ofFields? ⟨owner, value, deadline, signature⟩
  | _ => none

end PermitData

/-- The values of a message's fields, in order. -/
structure MessageFields where
  id : Json
  account : Json
  amount : Json
  kind : Json
  signature : Json
  validUntil : Json
  permit : Json

namespace Message

/-- The message of its fields. -/
def ofFields? (f : MessageFields) : Option Message := do
  let id ← f.id.uuid?
  let account ← f.account.address?
  let amount ← f.amount.string?
  let kind ← f.kind.expand?
  let signature ← Json.optional? Json.bytes? f.signature
  let validUntil ← Json.optional? Json.natural? f.validUntil
  let permit ← Json.optional? PermitData.ofJson? f.permit
  return ⟨id, account, amount, kind.canonical, signature, validUntil, permit⟩

/-- The fields of an object's members. -/
def fieldsOfMembers? (members : List (String × Json)) : Option MessageFields := do
  let id ← Json.member? "userSwapHistoryId" members
  let account ← Json.member? "walletAddress" members
  let amount ← Json.member? "amount" members
  let kind ← Json.member? "type" members
  let signature ← Json.member? "signature" members
  let validUntil ← Json.member? "validUntil" members
  let permit ← Json.member? "permitData" members
  return ⟨id, account, amount, kind, signature, validUntil, permit⟩

/-- The fields of an array's items. -/
def fieldsOfItems? (items : List Json) : Option MessageFields :=
  match items with
  | id :: account :: amount :: optional =>
    if optional.length ≤ 4 then
      let at? (k : Nat) : Json := optional.getD k .null
      some ⟨id, account, amount, at? 0, at? 1, at? 2, at? 3⟩
    else none
  | _ => none

/-- The message of an object's members. -/
def ofMembers? (members : List (String × Json)) : Option Message :=
  (fieldsOfMembers? members).bind ofFields?

/-- The message of a JSON value without an envelope. -/
def ofBare? : Json → Option Message
  | .object members => ofMembers? members
  | .array items => (fieldsOfItems? items).bind ofFields?
  | _ => none

/-- The message inside an envelope. -/
def ofEnvelope? : Json → Option Message
  | .object members =>
    match Json.valuesOf "data" members with
    | [v] => ofBare? v
    | _ => none
  | _ => none

/-- The message of a JSON value. -/
def ofJson? (v : Json) : Option Message := (ofEnvelope? v).orElse fun _ => ofBare? v

/-- What is wrong with a payload that is not one document. If its front is a document already, and
that is no message, its shape is told of. -/
def faultOfFront (payload : Bytes) : DecodeError :=
  match Json.front? (Text.wellFormedFront payload) with
  | some v => if (ofJson? v).isSome then .notJson else .wrongShape
  | none => .notJson

/-- The message of a payload. -/
def decode (payload : Bytes) : Except DecodeError Message :=
  match Json.ofBytes? payload with
  | none => .error (faultOfFront payload)
  | some v =>
    match ofJson? v with
    | some m => .ok m
    | none => .error .wrongShape

end Message

/-- A member's value depends on the members of its name only. -/
theorem Json.member?_congr {name : String} {a b : List (String × Json)}
    (h : Json.valuesOf name a = Json.valuesOf name b) :
    Json.member? name a = Json.member? name b := by
  simp [Json.member?, h]

end PointExchange
