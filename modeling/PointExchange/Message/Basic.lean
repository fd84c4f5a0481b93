import PointExchange.Address
import PointExchange.Coded
import PointExchange.Direction
import PointExchange.Json.Printer
import PointExchange.Text.Quoted
import PointExchange.Uuid

/-!
# Exchange messages

A message asks for the exchange named by its record. Most of its fields are kept as they were
sent: the amount is a text and the direction any JSON value, because a message whose fields make
no sense still names the record that has to be marked as failed.

## Errors

`MessageError` tells why a message is no request, `DecodeError` why a payload is no message.
-/

namespace PointExchange

/-- A permit as sent: the owner of the tokens allows the point manager to move them. -/
structure PermitData where
  owner : Address
  value : String
  deadline : UInt64
  signature : Bytes

/-- A message of the queue. -/
structure Message where
  /-- the record that the message is about -/
  id : Uuid
  account : Address
  amount : String
  /-- the code of the direction -/
  kind : Json
  signature : Option Bytes
  validUntil : Option UInt64
  permit : Option PermitData

/-- Why a message is no request. -/
inductive MessageError
  | unknownDirection (kind : String)
  | invalidAmount (amount : String)
  | missingSignature
  | missingValidUntil
  | invalidSignature (reason : String)
deriving DecidableEq

instance : Coded MessageError where
  code
    | .unknownDirection _ => "[S-MSG-001]"
    | .invalidAmount _ => "[S-MSG-002]"
    | .missingSignature => "[S-MSG-003]"
    | .missingValidUntil => "[S-MSG-004]"
    | .invalidSignature _ => "[S-MSG-005]"
  text
    | .unknownDirection kind => "unknown exchange direction " ++ kind
    | .invalidAmount amount => "amount " ++ Text.quoted amount ++ " is not a decimal integer"
    | .missingSignature => "withdraw message is missing the user signature"
    | .missingValidUntil => "withdraw message is missing validUntil"
    | .invalidSignature reason => "invalid signature: " ++ reason

/-- Why a payload is no message. -/
inductive DecodeError
  /-- the payload is not one JSON document -/
  | notJson
  /-- the document is not a message, with or without an envelope -/
  | wrongShape
deriving DecidableEq

def DecodeError.text : DecodeError → String
  | .notJson => "the payload is not one JSON document"
  | .wrongShape => "data did not match any variant of untagged enum Payload"

end PointExchange
