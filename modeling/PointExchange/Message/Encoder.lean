import PointExchange.Message.Basic

/-!
# Encoding a message

The members stand in a fixed order, absent optional ones are left out. Addresses and bytes are
hexadecimal in lower case.
-/

namespace PointExchange

def PermitData.toJson (p : PermitData) : Json :=
  .object [
    ("owner", .string p.owner.text),
    ("value", .string p.value),
    ("deadline", .number (.natural p.deadline)),
    ("signature", .string (Hex.text p.signature))]

namespace Message

/-- An optional member. -/
def optionalMember (name : String) : Option Json → List (String × Json)
  | some v => [(name, v)]
  | none => []

/-- The message as a JSON value. -/
def toJson (m : Message) : Json :=
  .object (
    [("userSwapHistoryId", .string m.id.text),
     ("walletAddress", .string m.account.text),
     ("amount", .string m.amount),
     ("type", m.kind)] ++
    optionalMember "signature" (m.signature.map fun b => .string (Hex.text b)) ++
    optionalMember "validUntil" (m.validUntil.map fun n => .number (.natural n)) ++
    optionalMember "permitData" (m.permit.map PermitData.toJson))

/-- The text of a message. -/
def encodedText (m : Message) : String := m.toJson.text

/-- The payload of a message. -/
def encode (m : Message) : Bytes := Bytes.ofText m.encodedText

end Message
end PointExchange
