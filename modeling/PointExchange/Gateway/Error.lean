import PointExchange.Address
import PointExchange.Coded
import PointExchange.Config
import PointExchange.KeyRole

/-!
# What can go wrong on the chain

A request to a node fails below the protocol, by an answer of the node that says so, or by an
answer that cannot be read. `GatewayError` says what the service was doing. A gas estimate is
special: an error that the node answers means that the call would fail on the chain, any other
error means that nothing is known.
-/

namespace PointExchange

/-- Why a request to the node failed. -/
inductive RpcError
  | transport (reason : String)
  | response (code : Int) (reason : String)
  /-- the answer cannot be read, for a reason -/
  | unreadable (reason answer : String)
  /-- there is no answer where there was one before -/
  | absent
deriving DecidableEq

namespace RpcError

def text : RpcError → String
  | .transport reason => reason
  | .response code reason =>
    "server returned an error response: error code " ++ toString code ++ ": " ++ reason
  | .unreadable reason answer => "deserialization error: " ++ reason ++ "\n" ++ answer
  | .absent => "server returned a null response when a non-null response was expected"

/-- The text of an error, followed by the texts of its causes. -/
def chain (e : RpcError) : List String :=
  e.text :: match e with
    | .transport reason | .unreadable reason _ => [reason]
    | _ => []

end RpcError

/-- Why a question to a contract has no answer. -/
inductive ContractError
  | rpc (e : RpcError)
  /-- nothing came back, as where there is no contract -/
  | noData (function : String)
  /-- what came back ends too early -/
  | tooShort
deriving DecidableEq

namespace ContractError

/-- The text about values that end too early. -/
def shortText : String := "ABI decoding failed: buffer overrun while deserializing"

def text : ContractError → String
  | .rpc e => e.text
  | .noData function =>
    "contract call to `" ++ function ++
      "` returned no data (\"0x\"); the called address might not be a contract"
  | .tooShort => shortText

/-- The text of an error, followed by the texts of its causes. -/
def chain : ContractError → List String
  | .rpc e => e.chain
  | e@(.noData _) => [e.text, shortText, shortText]
  | .tooShort => [shortText, shortText]

end ContractError

/-- Why a transaction was not seen to be included. -/
inductive PendingError
  | rpc (e : RpcError)
  | timeout
deriving DecidableEq

def PendingError.text : PendingError → String
  | .rpc e => e.text
  | .timeout => "transaction was not confirmed within the timeout"

/-- Why a call to the gateway failed. -/
inductive GatewayError
  | rpc (e : RpcError)
  | contract (e : ContractError)
  | pending (e : PendingError)
  | signer (reason : String)
  | build (reason : String)
  | unknownKey (role : KeyRole) (index : UInt64)
  | reverted (hash : Hash)
  | config (e : ConfigError)
  /-- the permit with this number was rejected, so a later one cannot be included -/
  | nonceGap (number : Nat)
deriving DecidableEq

instance : Coded GatewayError where
  code
    | .rpc _ => "[S-GW-001]"
    | .contract _ => "[S-GW-002]"
    | .pending _ => "[S-GW-003]"
    | .signer _ => "[S-GW-004]"
    | .build _ => "[S-GW-005]"
    | .unknownKey _ _ => "[S-GW-006]"
    | .reverted _ => "[S-GW-007]"
    | .config _ => "[S-GW-008]"
    | .nonceGap _ => "[S-GW-009]"
  text
    | .rpc e => "RPC error: " ++ e.text
    | .contract e => "Contract call failed: " ++ e.text
    | .pending e => "Pending transaction error: " ++ e.text
    | .signer reason => "Signer error: " ++ reason
    | .build reason => "Failed to build transaction: " ++ reason
    | .unknownKey role index => "No " ++ role.text ++ " key at index " ++ toString index
    | .reverted hash => "Transaction " ++ hashText hash ++ " reverted on chain"
    | .config e => "Config error: " ++ cited e
    | .nonceGap number =>
      "Not confirmed, permit " ++ toString number ++ " ahead of it was rejected"

namespace GatewayError

/-- The node refused the transaction outright, so its nonce stays unused. -/
def rejectedAtSubmit : GatewayError → Bool
  | .rpc _ => true
  | _ => false

/-- The text of an error, followed by the texts of its causes. -/
def chain (e : GatewayError) : List String :=
  Coded.text e ::
    match e with
    | .rpc e => e.chain
    | .contract e => e.chain
    | .pending (.rpc e) => e.chain
    | .pending .timeout => [PendingError.timeout.text]
    | .signer reason => [reason]
    | .config e => [Coded.text e]
    | _ => []

end GatewayError

/-- Why there is no gas estimate. -/
inductive EstimateError
  /-- the node carried the call out and it failed -/
  | reverted (reason : String)
  | unavailable (e : GatewayError)
deriving DecidableEq

namespace EstimateError

def text : EstimateError → String
  | .reverted reason => "simulated revert: " ++ reason
  | .unavailable e => "estimation unavailable: " ++ cited e

/-- The meaning of a failed request for an estimate. -/
def ofRpc : RpcError → EstimateError
  | .response _ reason => .reverted reason
  | e => .unavailable (.rpc e)

end EstimateError
end PointExchange
