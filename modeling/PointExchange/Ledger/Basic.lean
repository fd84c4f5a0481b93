import PointExchange.Address
import PointExchange.Call
import PointExchange.Coded
import PointExchange.Direction
import PointExchange.Text.Quoted
import PointExchange.Uuid

/-!
# Exchange records and their links

The ledger holds a record for every exchange. A record starts out as pending and leaves this
status once: it is completed when it is linked to the transaction that carries it out, or failed.
-/

namespace PointExchange

/-- The status of an exchange record. -/
inductive Status
  | pending
  | completed
  | failed
deriving DecidableEq

/-- The status of a link. -/
inductive LinkStatus
  | processed
  | confirmed
  | finalized
  | failed
deriving DecidableEq

/-- Why a call to the ledger failed. -/
inductive LedgerError
  /-- the store failed -/
  | store (reason : String)
  /-- the tables could not be brought up to date -/
  | migration (reason : String)
  | badStatus (code : Int16)
  | badDirection (code : Int16)
  | badAmount (stored : String)
deriving DecidableEq

instance : Coded LedgerError where
  code
    | .store _ => "[S-DB-001]"
    | .migration _ => "[S-DB-002]"
    | .badStatus _ => "[S-DB-003]"
    | .badDirection _ => "[S-DB-004]"
    | .badAmount _ => "[S-DB-005]"
  text
    | .store reason => "SQL error: " ++ reason
    | .migration reason => "SQL Migration error: " ++ reason
    | .badStatus code => "Invalid status code " ++ toString code.toInt
    | .badDirection code => "Invalid direction code " ++ toString code.toInt
    | .badAmount stored => "Invalid stored amount " ++ Text.quoted stored

namespace Status

def code : Status → Int16
  | .pending => 1
  | .completed => 2
  | .failed => 3

def ofCode (c : Int16) : Except LedgerError Status :=
  if c = 1 then .ok .pending
  else if c = 2 then .ok .completed
  else if c = 3 then .ok .failed
  else .error (.badStatus c)

def text : Status → String
  | .pending => "Pending"
  | .completed => "Completed"
  | .failed => "Failed"

theorem ofCode_code (s : Status) : ofCode s.code = .ok s := by
  cases s <;> rfl

end Status

def LinkStatus.code : LinkStatus → Int16
  | .processed => 1
  | .confirmed => 2
  | .finalized => 3
  | .failed => 4

/-- An exchange record. -/
structure ExchangeRecord where
  id : Uuid
  direction : Direction
  amountPoint : Word
  amountToken : Word
  status : Status
  /-- the link of a deposit -/
  mint : Option Int32
  /-- the link of a withdrawal -/
  burn : Option Int32
deriving DecidableEq

/-- The amount that a link in a direction carries. -/
def ExchangeRecord.linkAmount (r : ExchangeRecord) : Direction → Word
  | .pointToToken => r.amountToken
  | .tokenToPoint => r.amountPoint

/-- A link from a record to a transaction. -/
structure Link where
  id : Int32
  direction : Direction
  hash : Hash
  amount : Word
deriving DecidableEq

/-- What committing a batch did. -/
structure BatchCommit where
  /-- records that were linked, with their links -/
  linked : List (Uuid × Int32)
  /-- records left alone, because they are unknown or no longer pending -/
  skipped : List Uuid
deriving DecidableEq

/-- A ledger in an environment. -/
structure LedgerAccess (E : Type) where
  /-- moves a pending record to a status; tells whether it was pending -/
  updateStatus : Uuid → Status → Call E LedgerError Bool
  /-- links every record of a batch that is still pending, all or none of them -/
  commit : Hash → List (Uuid × Direction) → Call E LedgerError BatchCommit

/-- Marks a pending record as failed. -/
def LedgerAccess.markFailed {E : Type} (l : LedgerAccess E) (id : Uuid) : Call E LedgerError Bool :=
  l.updateStatus id .failed

end PointExchange
