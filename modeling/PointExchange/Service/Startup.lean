import PointExchange.Arguments.Parser
import PointExchange.Config.Loader
import PointExchange.IndexStore.Address
import PointExchange.Ledger.Basic
import PointExchange.Service.LogFilter

/-!
# Start of the program

Before the service can run, it reads the file of variables, its arguments and its settings, and
connects to its collaborators. The first of these steps that fails ends the program. Only a file of
variables that cannot be read is told of later: the arguments come first. A value in it that no
variable can hold ends the program at once. When the arguments are read, the log is set up, which
may have something to tell by itself.
-/

namespace PointExchange

/-- Why the program ends before the service runs. -/
inductive StartStop
  | arguments (s : ArgumentStop)
  | envFile (s : EnvFile.Stop)
  | config (e : Config.LoadError)
  /-- a role has no key -/
  | noKeys
  | ledger (e : LedgerError)
  /-- the address of the store of indices is none -/
  | store

namespace StartStop

/-- What is told about a failure. Arguments are told of in their own way. -/
def text : StartStop → String
  | .arguments _ => ""
  | .envFile (.unreadable f) => "failed to load .env file: " ++ f.text
  | .envFile (.impossible name) => "the variable " ++ name ++ " cannot hold a NUL"
  | .config _ => "Failed to load swap batcher config"
  | .noKeys => "At least one manager key and one relayer key are required"
  | .ledger _ => "Failed to connect to ledger DB"
  | .store => "Failed to create redis pool"

/-- The code with which the program ends. -/
def exitCode : StartStop → UInt8
  | .arguments s => if s.isFailure then 2 else 0
  | .envFile (.impossible _) => 101
  | _ => 1

/-- The program ends before the log is set up. -/
def isEarly : StartStop → Bool
  | .arguments _ | .envFile (.impossible _) => true
  | _ => false

/-- The first line of what is told of a failure as an error. -/
def line (s : StartStop) : String :=
  String.ofList (("Error: " ++ s.text).toList.takeWhile (· != '\n'))

end StartStop

/-- What the program finds on the machine. -/
structure Machine where
  env : Variables := []
  /-- the file of variables, if there is one -/
  envFile : Option String := none
  /-- the texts of files by their paths -/
  read : String → Option String

namespace Machine

/-- The environment with the variables of the file. -/
def environment (m : Machine) : Variables × Option EnvFile.Stop :=
  match m.envFile with
  | none => (m.env, none)
  | some file => EnvFile.load m.env file

/-- The directive of the log filter that is complained about when the log is set up. -/
def logComplaint? (m : Machine) : Option String :=
  ((m.environment.1.lookup LogFilter.variableName).bind LogFilter.unreadable?).map
    LogFilter.complaint

/-- The first line that is written before the program ends, if it has come to set up the log. -/
def firstLine? (m : Machine) (s : StartStop) : Option String :=
  if s.isEarly then none else some (m.logComplaint?.getD s.line)

/-- The arguments and the settings. -/
def prepare (m : Machine) (tokens : List String) : Except StartStop (Arguments × Config) :=
  let (env, stop) := m.environment
  match stop with
  | some (.impossible name) => .error (.envFile (.impossible name))
  | stop =>
    match Arguments.parse tokens env with
    | .error s => .error (.arguments s)
    | .ok a =>
      match stop with
      | some s => .error (.envFile s)
      | none =>
        match Config.load (m.read a.configFile) with
        | .error e => .error (.config e)
        | .ok c => .ok (a, c)

end Machine

/-- Connects to the collaborators, given what connecting to the ledger leads to. -/
def connect (managers relayers : List Secp256k1.PrivateKey) (ledger : Except LedgerError Unit)
    (store : String) : Except StartStop Unit :=
  if managers.isEmpty || relayers.isEmpty then .error .noKeys
  else
    match ledger with
    | .error e => .error (.ledger e)
    | .ok () => if StoreAddress.isValid store then .ok () else .error .store

/-- Starts the program. -/
def Machine.start (m : Machine) (tokens : List String) (ledger : Except LedgerError Unit) :
    Except StartStop (Arguments × Config) := do
  let (a, c) ← m.prepare tokens
  connect a.managerKeys a.relayerKeys ledger a.redisUrl
  return (a, c)

/-- A program that starts has keys for both roles. -/
theorem keys_of_connect {managers relayers : List Secp256k1.PrivateKey}
    {ledger : Except LedgerError Unit} {store : String}
    (h : connect managers relayers ledger store = .ok ()) : managers ≠ [] ∧ relayers ≠ [] := by
  unfold connect at h
  split at h
  · cases h
  next hk => simpa using hk

end PointExchange
