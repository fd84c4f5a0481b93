import PointExchange.Authorization
import PointExchange.Url.Parser

/-!
# Arguments of the program

The program is told by options where its collaborators are, which contracts it serves and with
which keys. Most options may also be given by a variable of the environment that is named like
the option.
-/

namespace PointExchange

/-- An option. -/
inductive CommandOption
  | rpcUrl
  | dbUrl
  | redisUrl
  | amqpUrl
  | pointManager
  | pointToken
  | managerKeys
  | relayerKeys
  | configFile
  | logJson
  | retryMax
  | retryBackoff
  | retryCu
  | once
  | queueStatus
  | help
  | version
deriving DecidableEq

namespace CommandOption

/-- All options, in the order in which they are listed. -/
def all : List CommandOption :=
  [.rpcUrl, .dbUrl, .redisUrl, .amqpUrl, .pointManager, .pointToken, .managerKeys, .relayerKeys,
    .configFile, .logJson, .retryMax, .retryBackoff, .retryCu, .once, .queueStatus, .help, .version]

theorem mem_all (o : CommandOption) : o ∈ all := by
  cases o <;> decide

/-- The name behind two dashes. -/
def long : CommandOption → String
  | .rpcUrl => "rpc-url"
  | .dbUrl => "db-url"
  | .redisUrl => "redis-url"
  | .amqpUrl => "amqp-url"
  | .pointManager => "point-manager-address"
  | .pointToken => "point-token-address"
  | .managerKeys => "manager-keys"
  | .relayerKeys => "relayer-keys"
  | .configFile => "config-file"
  | .logJson => "log-json"
  | .retryMax => "rpc-retry-max"
  | .retryBackoff => "rpc-retry-backoff"
  | .retryCu => "rpc-retry-cu"
  | .once => "once"
  | .queueStatus => "queue-status"
  | .help => "help"
  | .version => "version"

/-- The letter behind one dash. -/
def short? : CommandOption → Option Char
  | .configFile => some 'c'
  | .help => some 'h'
  | .version => some 'V'
  | _ => none

/-- Whether a value belongs to the option; the others are switches. -/
def takesValue : CommandOption → Bool
  | .logJson | .once | .queueStatus | .help | .version => false
  | _ => true

/-- Options that have to be given. -/
def isRequired : CommandOption → Bool
  | .rpcUrl | .dbUrl | .redisUrl | .amqpUrl | .pointManager | .pointToken | .managerKeys
  | .relayerKeys => true
  | _ => false

/-- What the option is for. -/
def purpose : CommandOption → String
  | .rpcUrl => "RPC URL of the chain hosting the point contracts"
  | .dbUrl => "Postgres connection string of the exchange ledger"
  | .redisUrl => "Redis URL for the key indices and the run lock"
  | .amqpUrl => "AMQP URL of the exchange queue broker"
  | .pointManager => "Address of the PointManager contract"
  | .pointToken => "Address of the PointToken contract"
  | .managerKeys => "Manager private keys, comma separated"
  | .relayerKeys => "Relayer private keys, comma separated"
  | .configFile => "Config file path"
  | .logJson => "Log JSON"
  | .retryMax => "max number of retries for rate limited RPC requests"
  | .retryBackoff => "Backoff in ms between rate limited RPC retries"
  | .retryCu => "Compute units per second budget of the RPC provider"
  | .once => "Execute a single run and exit"
  | .queueStatus => "Print the queue status and exit"
  | .help => "Print help"
  | .version => "Print version"

/-- The name in capitals, with underscores. -/
def capitals (o : CommandOption) : String :=
  o.long.map fun c => if c == '-' then '_' else c.toUpper

/-- The variable of the environment that stands in for the option. -/
def variableName? (o : CommandOption) : Option String :=
  if o.isRequired || o = .logJson then some o.capitals else none

/-- How the option is cited. -/
def cited (o : CommandOption) : String :=
  "--" ++ o.long ++ if o.takesValue then " <" ++ o.capitals ++ ">" else ""

def ofLong? (name : String) : Option CommandOption := all.find? (·.long == name)

def ofShort? (letter : Char) : Option CommandOption := all.find? (·.short? == some letter)

/-- **An option is found by its name.** -/
theorem ofLong?_long (o : CommandOption) : ofLong? o.long = some o := by
  cases o <;> decide

end CommandOption

/-- The arguments. -/
structure Arguments where
  rpcUrl : Url
  dbUrl : String
  redisUrl : String
  amqpUrl : String
  pointManager : Address
  pointToken : Address
  managerKeys : List Secp256k1.PrivateKey
  relayerKeys : List Secp256k1.PrivateKey
  configFile : String := "swap-batcher.toml"
  logJson : Bool := false
  retryMax : UInt32 := 10
  retryBackoff : UInt64 := 1000
  retryCu : UInt64 := 100
  once : Bool := false
  queueStatus : Bool := false

/-- Why there are no arguments to go on with. -/
inductive ArgumentStop
  /-- the user asks what the options are -/
  | help
  /-- the user asks for the version -/
  | version
  | unknown (token : String)
  | noValue (o : CommandOption)
  | surplusValue (o : CommandOption)
  | repeated (o : CommandOption)
  | badValue (o : CommandOption)
  | missing (os : List CommandOption)
deriving DecidableEq

namespace ArgumentStop

/-- What the user asked for is no failure. -/
def isFailure : ArgumentStop → Bool
  | .help | .version => false
  | _ => true

/-- The arguments that are cited. -/
def citations : ArgumentStop → List String
  | .help | .version => []
  | .unknown token => [token]
  | .noValue o | .surplusValue o | .repeated o | .badValue o => [o.cited]
  | .missing os => os.map CommandOption.cited

end ArgumentStop
end PointExchange
