import PointExchange.Arguments.Basic

/-!
# What has been given so far

Options come one by one, and each of them may come once; only lists of keys grow. A value is read
when it is put in its place, so what is kept is sound.
-/

namespace PointExchange

/-- Arguments of which some are still missing. -/
structure GivenArguments where
  rpcUrl : Option Url := none
  dbUrl : Option String := none
  redisUrl : Option String := none
  amqpUrl : Option String := none
  pointManager : Option Address := none
  pointToken : Option Address := none
  managerKeys : Option (List Secp256k1.PrivateKey) := none
  relayerKeys : Option (List Secp256k1.PrivateKey) := none
  configFile : Option String := none
  logJson : Option Bool := none
  retryMax : Option UInt32 := none
  retryBackoff : Option UInt64 := none
  retryCu : Option UInt64 := none
  once : Option Bool := none
  queueStatus : Option Bool := none

namespace GivenArguments

/-- Whether an option has been given. -/
def has (g : GivenArguments) : CommandOption → Bool
  | .rpcUrl => g.rpcUrl.isSome
  | .dbUrl => g.dbUrl.isSome
  | .redisUrl => g.redisUrl.isSome
  | .amqpUrl => g.amqpUrl.isSome
  | .pointManager => g.pointManager.isSome
  | .pointToken => g.pointToken.isSome
  | .managerKeys => g.managerKeys.isSome
  | .relayerKeys => g.relayerKeys.isSome
  | .configFile => g.configFile.isSome
  | .logJson => g.logJson.isSome
  | .retryMax => g.retryMax.isSome
  | .retryBackoff => g.retryBackoff.isSome
  | .retryCu => g.retryCu.isSome
  | .once => g.once.isSome
  | .queueStatus => g.queueStatus.isSome
  | .help | .version => false

/-- Keys with commas between them. -/
def keys? (s : List Char) : Option (List Secp256k1.PrivateKey) :=
  (Text.split (· == ',') s).mapM privateKey?

/-- A number below a bound; a plus sign may stand in front. -/
def count? (bound : Nat) (s : List Char) : Option Nat :=
  (Decimal.number? (if s.head? = some '+' then s.tail else s)).filter (· < bound)

/-- A number of 32 bits; a zero may even have a minus sign. -/
def smallCount? (s : List Char) : Option UInt32 :=
  let magnitude :=
    if s.head? = some '-' then (count? 1 s.tail).filter fun _ => s.tail.head? ≠ some '+'
    else count? UInt32.size s
  magnitude.map UInt32.ofNat

def truth? (s : String) : Option Bool :=
  if s = "true" then some true else if s = "false" then some false else none

/-- Puts the value of an option in its place. -/
def assign (g : GivenArguments) (o : CommandOption) (text : String) :
    Except ArgumentStop GivenArguments :=
  let chars := text.toList
  let read {α : Type} (value : Option α) (put : α → GivenArguments) :
      Except ArgumentStop GivenArguments :=
    match value with
    | none => .error (.badValue o)
    | some v => .ok (put v)
  if g.has o && o ≠ .managerKeys && o ≠ .relayerKeys then .error (.repeated o)
  else
    match o with
    | .rpcUrl => read (Url.ofText? chars) fun v => { g with rpcUrl := v }
    | .dbUrl => .ok { g with dbUrl := text }
    | .redisUrl => .ok { g with redisUrl := text }
    | .amqpUrl => .ok { g with amqpUrl := text }
    | .pointManager => read (Address.ofText? chars) fun v => { g with pointManager := v }
    | .pointToken => read (Address.ofText? chars) fun v => { g with pointToken := v }
    | .managerKeys =>
      read (keys? chars) fun v => { g with managerKeys := g.managerKeys.getD [] ++ v }
    | .relayerKeys =>
      read (keys? chars) fun v => { g with relayerKeys := g.relayerKeys.getD [] ++ v }
    | .configFile => if text.isEmpty then .error (.noValue o) else .ok { g with configFile := text }
    | .logJson => read (truth? text) fun v => { g with logJson := v }
    | .retryMax => read (smallCount? chars) fun v => { g with retryMax := v }
    | .retryBackoff =>
      read (count? UInt64.size chars) fun v => { g with retryBackoff := UInt64.ofNat v }
    | .retryCu => read (count? UInt64.size chars) fun v => { g with retryCu := UInt64.ofNat v }
    | .once => read (truth? text) fun v => { g with once := v }
    | .queueStatus => read (truth? text) fun v => { g with queueStatus := v }
    | .help => .error .help
    | .version => .error .version

/-- The required options that are missing. -/
def missing (g : GivenArguments) : List CommandOption :=
  CommandOption.all.filter fun o => o.isRequired && !g.has o

/-- The arguments, if none that is required is missing. -/
def complete (g : GivenArguments) : Except ArgumentStop Arguments :=
  match g.rpcUrl, g.dbUrl, g.redisUrl, g.amqpUrl, g.pointManager, g.pointToken, g.managerKeys,
    g.relayerKeys with
  | some rpcUrl, some dbUrl, some redisUrl, some amqpUrl, some pointManager, some pointToken,
    some managerKeys, some relayerKeys =>
    .ok {
      rpcUrl, dbUrl, redisUrl, amqpUrl, pointManager, pointToken, managerKeys, relayerKeys
      configFile := g.configFile.getD "swap-batcher.toml"
      logJson := g.logJson.getD false
      retryMax := g.retryMax.getD 10
      retryBackoff := g.retryBackoff.getD 1000
      retryCu := g.retryCu.getD 100
      once := g.once.getD false
      queueStatus := g.queueStatus.getD false }
  | _, _, _, _, _, _, _, _ => .error (.missing g.missing)

/-- An option whose value was taken has been given. -/
theorem has_of_assign {g g' : GivenArguments} {o : CommandOption} {text : String}
    (h : g.assign o text = .ok g') : g'.has o = true := by
  unfold assign at h
  split at h
  · cases h
  · cases o <;> simp only at h <;> (repeat' split at h) <;> cases h <;> rfl

end GivenArguments
end PointExchange
