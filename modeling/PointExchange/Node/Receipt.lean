import PointExchange.Node.Quantity

/-!
# Receipts

A receipt tells what became of a transaction. A run needs its hash and whether it succeeded, and
takes neither from a receipt that is incomplete or wrong anywhere else: the members about the
transaction are read first, as they stand, then the kind of the transaction, the bloom, the
receipt's own members and its logs.

Success is a number of one bit. A receipt of the time before there was one has the root of the
state instead, which only transactions that succeeded leave behind.
-/

namespace PointExchange

/-- What a receipt says: whether the transaction succeeded, and its hash. -/
structure Receipt where
  succeeded : Bool
  hash : Hash

namespace Receipt

open Json

/-- The members about the transaction. -/
def transactionMembers : List (String × Reading Unit) :=
  [("blobGasPrice", (readQuantity 16).optional.check),
    ("blobGasUsed", readQuantity64.optional.check),
    ("blockHash", readHash.optional.check), ("blockNumber", readQuantity64.optional.check),
    ("contractAddress", readAddress.optional.check), ("effectiveGasPrice", (readQuantity 16).check),
    ("from", readAddress.check), ("gasUsed", readQuantity64.check),
    ("to", readAddress.optional.check), ("transactionHash", readHash.check),
    ("transactionIndex", readQuantity64.optional.check)]

/-- The members about the place of a log. -/
def logPlaceMembers : List (String × Reading Unit) :=
  [("blockHash", readHash.optional.check), ("blockNumber", readQuantity64.optional.check),
    ("blockTimestamp", readQuantity64.optional.check), ("logIndex", readQuantity64.optional.check),
    ("removed", readBool.check), ("transactionHash", readHash.optional.check),
    ("transactionIndex", readQuantity64.optional.check)]

/-- A log. -/
def checkLog : Reading Unit
  | .object members => do
    checkMembers logPlaceMembers members
    checkMembers [("address", readAddress.check)] members
    requireMembers ["address"] members
    checkMembers [("data", readBytes.check), ("topics", (readList readHash).check)] members
    requireMembers ["topics", "data"] members
  | v => .error (wrongKind "struct Log" v)

/-- The names of the kinds of transactions. -/
def kindNames : List String :=
  ["0x0", "0x00", "0x01", "0x1", "0x02", "0x2", "0x03", "0x3", "0x04", "0x4"]

/-- The kind of the transaction: a name, or the number of the kind. -/
def checkKind : Reading Unit
  | .string s =>
    if s ∈ kindNames then .ok ()
    else
      let names := String.intercalate ", " (kindNames.map fun name => "`" ++ name ++ "`")
      .error ⟨"unknown variant `" ++ s ++ "`, expected one of " ++ names, 0⟩
  | .number (.natural n) =>
    if n < 5 then .ok ()
    else .error (wrongValue "variant index 0 <= i < 5" (.number (.natural n)))
  | v => .error (wrongKind "variant identifier" v)

/-- Whether the members of a receipt tell success. -/
def succeeded? (members : List (String × Json)) : Option Bool :=
  match (valuesOf "status" members).head?.bind (quantity? 2) with
  | some n => some (n = 1)
  | none =>
    ((valuesOf "root" members).head?.bind fun v => (readHash v).toOption).map fun _ => true

/-- What is read when the members about the transaction are in order. -/
def checkBody (members : List (String × Json)) : Except Refusal Bool := do
  requireMembers ["type"] members
  checkMembers [("type", checkKind)] members
  checkMembers [("logsBloom", (readFixedBytes 256).check)] members
  requireMembers ["logsBloom"] members
  checkMembers [("cumulativeGasUsed", readQuantity64.check), ("logs", (readList checkLog).check)]
    members
  requireMembers ["cumulativeGasUsed", "logs"] members
  match succeeded? members with
  | some succeeded => return succeeded
  | none => throw ⟨"data did not match any variant of untagged enum SerdeHelper", 0⟩

end Receipt

open Json Receipt in
/-- A receipt. What is wrong behind the members about the transaction is noticed at the end. -/
def readReceipt : Reading Receipt
  | .object members => do
    checkMembers transactionMembers members
    requireMembers ["transactionHash", "gasUsed", "effectiveGasPrice", "from"] members
    let succeeded ← (checkBody members).mapError fun r =>
      { r with column := width (.object members) }
    match (valuesOf "transactionHash" members).head? with
    | some v => return ⟨succeeded, ← readHash v⟩
    | none => throw ⟨"missing field `transactionHash`", width (.object members)⟩
  | v => .error { wrongKind "struct TransactionReceipt" v with column := v.takenFlat }

end PointExchange
