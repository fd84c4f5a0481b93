import PointExchange.Arguments.Given
import PointExchange.EnvFile

/-!
# Reading the command line

A token starts with two dashes and names an option, or it starts with one dash and has letters of
options, or it is a word. A word is the value of the option before it; there are no other words.
A value may also follow its option in the same token.

The value of an option is looked at when the next option comes, or at the end. An option that is
not known is told of at once, so it goes before a bad value that stands in front of it.
-/

namespace PointExchange

/-- What a token looks like. -/
inductive TokenForm
  /-- two dashes, after which only words come -/
  | divider
  | long (name : String) (value : Option String)
  | letters (l : List Char)
  | word

def TokenForm.of (token : String) : TokenForm :=
  match token.toList with
  | ['-', '-'] => .divider
  | '-' :: '-' :: r =>
    let (name, value) := Text.splitFirst '=' r
    .long (String.ofList name) (value.map String.ofList)
  | '-' :: c :: r => .letters (c :: r)
  | _ => .word

/-- How far reading has come. -/
structure ArgumentReading where
  given : GivenArguments := {}
  /-- an option whose value is to be looked at, once there is one -/
  pending : Option (CommandOption × Option String) := none
  /-- the divider has been read -/
  divided : Bool := false

namespace ArgumentReading

/-- Looks at the value that is pending. -/
def settle (r : ArgumentReading) : Except ArgumentStop GivenArguments :=
  match r.pending with
  | none => .ok r.given
  | some (o, none) => .error (.noValue o)
  | some (o, some value) => r.given.assign o value

/-- An option comes with its value; a switch has the value `true`. -/
def put (r : ArgumentReading) (o : CommandOption) (value : String) :
    Except ArgumentStop ArgumentReading := do
  let given ← r.settle
  return { r with given := ← given.assign o value, pending := none }

/-- An option comes whose value is the next token. -/
def await (r : ArgumentReading) (o : CommandOption) : Except ArgumentStop ArgumentReading := do
  return { r with given := ← r.settle, pending := some (o, none) }

/-- Options by their letters; what follows an option with a value is the value. -/
def letters (r : ArgumentReading) : List Char → Except ArgumentStop ArgumentReading
  | [] => .ok r
  | c :: rest =>
    match CommandOption.ofShort? c with
    | none => .error (.unknown (String.ofList ['-', c]))
    | some o =>
      if o.takesValue then
        match rest with
        | [] => r.await o
        | '=' :: value | value => r.put o (String.ofList value)
      else
        match r.put o "true" with
        | .ok r => letters r rest
        | .error e => .error e

/-- One token. -/
def token (r : ArgumentReading) (t : String) : Except ArgumentStop ArgumentReading :=
  if r.divided then .error (.unknown t)
  else
    match TokenForm.of t with
    | .divider => .ok { r with divided := true }
    | .long name value =>
      match CommandOption.ofLong? name with
      | none => .error (.unknown ("--" ++ name))
      | some o =>
        match o.takesValue, value with
        | true, some value => r.put o value
        | true, none => r.await o
        | false, some _ => .error (.surplusValue o)
        | false, none => r.put o "true"
    | .letters l => r.letters l
    | .word =>
      match r.pending with
      | some (o, none) => .ok { r with pending := some (o, some t) }
      | _ => .error (.unknown t)

end ArgumentReading

/-- Puts in the values of variables for options that have not been given. -/
def GivenArguments.fill (env : Variables) (g : GivenArguments) :
    Except ArgumentStop GivenArguments :=
  CommandOption.all.foldlM (fun g o =>
    match o.variableName?.bind fun name => env.lookup name with
    | some value => if g.has o then .ok g else g.assign o value
    | none => .ok g) g

/-- The arguments that the tokens of the command line and the environment give. -/
def Arguments.parse (tokens : List String) (env : Variables) :
    Except ArgumentStop Arguments := do
  let reading ← tokens.foldlM ArgumentReading.token {}
  let given ← reading.settle
  (← given.fill env).complete

end PointExchange
