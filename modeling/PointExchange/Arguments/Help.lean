import PointExchange.Arguments.Basic

/-!
# What the user is told about arguments
-/

namespace PointExchange

/-- The option as the list of options shows it, with what it is for. -/
def CommandOption.helpLines (o : CommandOption) : List String :=
  let letter := match o.short? with
    | some c => "-" ++ String.singleton c ++ ", "
    | none => "    "
  let stand := match o.variableName? with
    | some name => " [env: " ++ name ++ "]"
    | none => ""
  ["  " ++ letter ++ o.cited, "          " ++ o.purpose ++ stand]

/-- The list of options. -/
def helpText : String :=
  "\n".intercalate
    (["Usage: swap-batcher [OPTIONS]", "", "Options:"] ++
      CommandOption.all.flatMap CommandOption.helpLines)

/-- What is told instead of going on. -/
def ArgumentStop.text : ArgumentStop → String
  | .help => helpText
  | .version => "swap-batcher 0.1.0"
  | .unknown token => "error: unexpected argument '" ++ token ++ "' found"
  | .noValue o => "error: a value is required for '" ++ o.cited ++ "' but none was supplied"
  | .surplusValue o =>
    "error: unexpected value for '" ++ o.cited ++ "' found; no more were expected"
  | .repeated o => "error: the argument '" ++ o.cited ++ "' cannot be used multiple times"
  | .badValue o => "error: invalid value for '" ++ o.cited ++ "'"
  | .missing os =>
    "\n  ".intercalate
      ("error: the following required arguments were not provided:" :: os.map CommandOption.cited)

end PointExchange
