import PointExchange.Arguments.Basic
import PointExchange.Config.Loader
import PointExchange.Json.Access
import PointExchange.Message.Request
import PointExchange.Service.Supervision
import PointExchange.Service.Timeline

/-!
# Reports

How the values of the service are shown to other programs, as JSON. Numbers of up to 64 bits are
JSON numbers, larger ones decimal texts; bytes and hashes are hexadecimal texts, and an address
carries its checksum. What is missing is `null`.
-/

namespace PointExchange.Report

def nat (n : Nat) : Json := Json.ofNat n

def n64 (n : UInt64) : Json := .number (.natural n)

def int (i : Int) : Json :=
  if 0 ≤ i then nat i.toNat else .number (.negative (BitVec.ofNat 63 ((-i).toNat - 1)))

def word (w : Word) : Json := .string (amountText w)

def hash (h : Hash) : Json := .string (hashText h)

def bytes (b : Bytes) : Json := .string (Hex.text b)

def address (a : Address) : Json := .string a.checksummed

def option {α : Type} (f : α → Json) : Option α → Json
  | some a => f a
  | none => .null

def list {α : Type} (f : α → Json) (xs : List α) : Json := .array (xs.map f)

/-! ## Errors -/

section Errors

variable {ε α : Type} [Coded ε]

/-- An error by its code. -/
def code (e : ε) : Json := .object [("error", .string (Coded.code e))]

/-- An error by its code and its text. -/
def error (e : ε) : Json :=
  .object [("error", .string (Coded.code e)), ("message", .string (Coded.text e))]

/-- A result, or the error in its place. -/
def except (f : α → Json) : Except ε α → Json
  | .ok a => f a
  | .error e => error e

end Errors

/-- An error by the texts of its chain. -/
def chain (texts : List String) : Json := .object [("error", .string (Fault.text texts))]

def decodeError : DecodeError → List (String × Json)
  | .notJson => [("error", .string "DecodeSyntax")]
  | .wrongShape =>
    [("error", .string "DecodeData"), ("message", .string DecodeError.wrongShape.text)]

def queueError : QueueError → Json
  | .undecodable e => .object (decodeError e ++ [("code", .string "[S-QUE-002]")])
  | e => error e

/-- An error of the gateway; where others word it, its code alone. -/
def gatewayError (e : GatewayError) : Json :=
  match e with
  | .contract _ | .signer _ | .build _ | .rpc (.unreadable _ _) => code e
  | e => error e

/-! ## Requests and settings -/

def permit (p : PermitRequest) : Json :=
  .object [("owner", address p.owner), ("value", word p.value), ("deadline", word p.deadline),
    ("signature", bytes p.signature)]

def request : ExchangeRequest → Json
  | .deposit r =>
    .object [("deposit", .object [("account", address r.account), ("amount", word r.amount)])]
  | .withdraw r =>
    .object [("withdraw", .object [("account", address r.account), ("amount", word r.amount),
      ("valid_until", word r.validUntil), ("signature", bytes r.signature),
      ("permit", option permit r.permit)])]

def domain (d : SigningDomain) : Json :=
  .object [("name", .string d.name), ("version", .string d.version), ("chain_id", word d.chainId),
    ("contract", address d.contract), ("salt", .null), ("separator", hash d.separator)]

def config (c : Config) : Json :=
  .object [
    ("config", .object [
      ("scheduler", .object [("run_interval_ms", n64 c.scheduler.runIntervalMs),
        ("lock_resource", .string c.scheduler.lockResource),
        ("lock_ttl_ms", n64 c.scheduler.lockTtlMs),
        ("lock_retry_count", nat c.scheduler.lockRetryCount.toNat),
        ("lock_retry_delay_ms", n64 c.scheduler.lockRetryDelayMs)]),
      ("batch", .object [("gas_ceiling", n64 c.batch.gasCeiling),
        ("gas_safety_margin", n64 c.batch.gasSafetyMargin),
        ("deposit_valid_until", n64 c.batch.depositValidUntil),
        ("max_messages_per_run", option n64 c.batch.maxMessagesPerRun)]),
      ("queue", .object [("name", .string c.queue.name), ("durable", .bool c.queue.durable)]),
      ("chain", .object [("tx_timeout_secs", n64 c.chain.txTimeoutSecs)])]),
    ("gas_budget", n64 c.batch.gasBudget)]

def loadError (path : String) (e : Config.LoadError) : Json :=
  .object [("error", .string "Config"), ("message", .string (e.text path)),
    ("toml_parse_error", .bool (e matches .unreadable))]

/-! ## Arguments -/

/-- The address that a key stands for. -/
def keyAddress (k : Secp256k1.PrivateKey) : Json := address k.signer.address

def arguments (a : Arguments) : Json :=
  .object [("rpc_url", .string a.rpcUrl.text), ("db_url", .string a.dbUrl),
    ("redis_url", .string a.redisUrl), ("amqp_url", .string a.amqpUrl),
    ("point_manager", address a.pointManager), ("point_token", address a.pointToken),
    ("managers", list keyAddress a.managerKeys), ("relayers", list keyAddress a.relayerKeys),
    ("config_file", .string a.configFile), ("log_json", .bool a.logJson),
    ("rpc_retry", .array [nat a.retryMax.toNat, n64 a.retryBackoff, n64 a.retryCu]),
    ("once", .bool a.once), ("queue_status", .bool a.queueStatus)]

/-- The name of a reason to stop. -/
def stopName : ArgumentStop → String
  | .help => "DisplayHelp"
  | .version => "DisplayVersion"
  | .unknown _ => "UnknownArgument"
  | .noValue _ => "InvalidValue"
  | .surplusValue _ => "TooManyValues"
  | .repeated _ => "ArgumentConflict"
  | .badValue _ => "ValueValidation"
  | .missing _ => "MissingRequiredArgument"

def argumentStop (s : ArgumentStop) : Json :=
  .object [("error", .string (stopName s)), ("args", list .string s.citations)]

/-! ## Records and links -/

def direction (d : Direction) : Json := int d.code.toInt

def linkId (i : Int32) : Json := int i.toInt

/-- A link, with its hash shown in a way of the caller's. -/
def link (hash : Hash → Json) (l : Link) : Json :=
  .array [linkId l.id, direction l.direction, hash l.hash, word l.amount]

def record (r : ExchangeRecord) : Json :=
  .object [("direction", direction r.direction), ("amount_point", word r.amountPoint),
    ("amount_token", word r.amountToken), ("status", .string r.status.text),
    ("mint", option linkId r.mint), ("burn", option linkId r.burn)]

/-- A record in a row: its name, its status, and its link with the kind of it. -/
def recordRow (name : String) (r : ExchangeRecord) : Json :=
  let (kind, id) : Json × Json :=
    match r.mint, r.burn with
    | some i, _ => (.string "mint", linkId i)
    | none, some i => (.string "burn", linkId i)
    | none, none => (.null, .null)
  .array [.string name, .string r.status.text, kind, id]

def commit (name : Uuid → Json) (c : BatchCommit) : Json :=
  .object [("linked", list (fun (u, i) => .array [name u, linkId i]) c.linked),
    ("skipped", list name c.skipped)]

/-! ## Runs -/

def counts (q : MessageQueue) : Json := list nat [q.acked, q.requeued, q.deadLettered]

def stop : StopReason → Json
  | .queueEmpty => .string "QueueEmpty"
  | .noMessage => .string "NoMessage"
  | .messageLimit => .string "MessageLimit"
  | .gasCeiling e b => .object [("GasCeiling", .array [n64 e, n64 b])]
  | .estimateFailed t => .object [("EstimateFailed", .string t)]
  | .infrastructure t => .object [("Infrastructure", .string t)]

def batchOutcome (hash : Hash → Json) : BatchOutcome → Json
  | .notSigned => .string "NotSigned"
  | .broadcast h => .object [("Broadcast", hash h)]
  | .broadcastFailed h => .object [("BroadcastFailed", hash h)]
  | .ledgerFailed h => .object [("LedgerFailed", hash h)]

/-- What a run came to; a run that waits for good comes to nothing. -/
def outcome (hash : Hash → Json) : Except Interruption RunOutcome → Json
  | .error .waiting => .null
  | .error (.failed e) =>
    .object [("error", .string (Coded.code e)), ("message", .string (Coded.text e)),
      ("debug", .string (cited e))]
  | .ok .skipped => .string "Skipped"
  | .ok (.idle s) => .object [("Idle", stop s)]
  | .ok (.completed r) =>
    .object [("Completed", .object [("permits", list nat [r.permitsSent, r.permitsFailed]),
      ("calls", nat r.calls), ("stop", stop r.stop),
      ("batch", option (batchOutcome hash) r.batch)])]

/-- A batch as it was put together. -/
def drained {E : Type} (call : Bytes → Json) (name : Uuid → Json) (d : Drained E) : Json :=
  .object [
    ("calls", list call d.batch.calls),
    ("permits", list call d.batch.permits),
    ("accepted", list (fun (u, dir) => .array [name u, direction dir]) d.batch.accepted),
    ("last_nonce", option word d.batch.lastNonce),
    ("manager_index", option n64 d.batch.managerIndex),
    ("empty", .bool d.batch.isEmpty),
    ("stop", stop d.stop)]

/-- What has become of a service. -/
def service : Timeline.ServiceStatus → Json
  | .running => .string "running"
  | .faulted => chain ["Failed to start scheduler", SupervisionResult.hardFailure.text]
  | .panicked => .object [("error", .string "Failed to start scheduler"), ("panicked", .bool true)]

end PointExchange.Report
