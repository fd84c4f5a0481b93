import PointExchange.Arguments.Help
import PointExchange.Outage
import PointExchange.Service.Startup

/-!
# The program

Reads the environment and the files that the start asks for, starts, and tells how that went. No
way to remote services is built in, so all of them are out of reach and connecting to the ledger is
as far as the program comes.
-/

namespace PointExchange

/-- The variables of the environment that options are named for, and that of the log filter. -/
def programVariables : IO Variables := do
  let names := LogFilter.variableName :: CommandOption.all.filterMap CommandOption.variableName?
  let values ← names.mapM fun name => do return (← IO.getEnv name).map fun value => (name, value)
  return values.filterMap id

/-- The text of a file, if it can be read. -/
def fileText? (path : String) : IO (Option String) := do
  try return some (← IO.FS.readFile path) catch _ => return none

/-- The machine as the tokens of a command line ask for it. -/
def machineFor (tokens : List String) : IO Machine := do
  let machine : Machine :=
    { env := ← programVariables, envFile := ← fileText? ".env", read := fun _ => none }
  match Arguments.parse tokens machine.environment.1 with
  | .error _ => return machine
  | .ok a =>
    let text ← fileText? a.configFile
    return { machine with read := fun path => if path = a.configFile then text else none }

/-- Starts the program with the tokens of its command line. -/
def startWith (tokens : List String) : IO UInt32 := do
  let machine ← machineFor tokens
  match machine.start tokens (.error Outage.noRoute.ledger) with
  | .ok _ => return 0
  | .error (.arguments s) =>
    if s.isFailure then IO.eprintln s.text else IO.println s.text
    return (StartStop.arguments s).exitCode.toUInt32
  | .error s =>
    if s.isEarly then IO.eprintln s.text
    else
      if let some line := machine.logComplaint? then IO.eprintln line
      IO.eprintln ("Error: " ++ s.text)
    return s.exitCode.toUInt32

end PointExchange

/-- The program. -/
def main (tokens : List String) : IO UInt32 := PointExchange.startWith tokens
