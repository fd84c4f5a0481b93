import PointExchange.Json.Lexer

/-!
# From tokens to a value

A machine with a stack of open containers reads the tokens of a document one by one. Its state
says what may come next, so a document is read by a fold, and reading `a ++ b` is reading `b` from
where `a` leads.

Containers nest at most `maxDepth` deep.
-/

namespace PointExchange.Json

/-- How deep containers may nest. -/
def maxDepth : Nat := 127

/-- A container that is still open; what it holds so far is kept latest first. -/
inductive Open
  /-- an array, before one of its items -/
  | array (items : List Json)
  /-- an object, before the value of the member `name` -/
  | object (members : List (String × Json)) (name : String)

/-- What the machine expects. -/
inductive State
  /-- a value -/
  | value (stack : List Open)
  /-- a value or the end of an array without items -/
  | firstItem (stack : List Open)
  /-- the name of a member; `orEnd` allows the end of the object -/
  | name (orEnd : Bool) (members : List (String × Json)) (stack : List Open)
  /-- the colon behind a name -/
  | colon (members : List (String × Json)) (name : String) (stack : List Open)
  /-- whatever may follow the value `v` -/
  | after (v : Json) (stack : List Open)

/-- The state after the first token of a value. -/
def State.begin (stack : List Open) : Token → Option State
  | .scalar v => some (.after v stack)
  | .openArray => if stack.length < maxDepth then some (.firstItem stack) else none
  | .openObject => if stack.length < maxDepth then some (.name true [] stack) else none
  | _ => none

/-- One step of the machine. -/
def State.step (s : State) (t : Token) : Option State :=
  match s, t with
  | .value stack, t => State.begin stack t
  | .firstItem stack, .closeArray => some (.after (.array []) stack)
  | .firstItem stack, t => State.begin (.array [] :: stack) t
  | .name true members stack, .closeObject => some (.after (.object members.reverse) stack)
  | .name _ members stack, .scalar (.string k) => some (.colon members k stack)
  | .colon members k stack, .colon => some (.value (.object members k :: stack))
  | .after v (.array items :: stack), .comma => some (.value (.array (v :: items) :: stack))
  | .after v (.array items :: stack), .closeArray =>
    some (.after (.array (v :: items).reverse) stack)
  | .after v (.object members k :: stack), .comma => some (.name false ((k, v) :: members) stack)
  | .after v (.object members k :: stack), .closeObject =>
    some (.after (.object ((k, v) :: members).reverse) stack)
  | _, _ => none

/-- The state after a list of tokens. -/
def State.run (s : State) (ts : List Token) : Option State := ts.foldlM State.step s

theorem State.run_append (s : State) (a b : List Token) :
    s.run (a ++ b) = (s.run a).bind fun t => t.run b := by
  simp [run, List.foldlM_append, Option.bind_eq_bind]

/-- The value of a document that is over. -/
def State.result? : State → Option Json
  | .after v [] => some v
  | _ => none

/-- The value of a text that is one JSON document. -/
def parse (s : List Char) : Option Json :=
  (lex s).bind fun ts => (State.run (.value []) ts).bind State.result?

/-- The value of a document in UTF-8. -/
def ofBytes? (b : Bytes) : Option Json := b.toChars?.bind parse

/-- The value that ends the machine's document, as soon as there is one; the rest of the text does
not matter. -/
def State.front? (s : State) (text : List Char) : Option Json :=
  match s.result?, text with
  | some v, _ => some v
  | none, [] => none
  | none, c :: r =>
    if isBlank c then s.front? r
    else
      match punctuation? c with
      | some t =>
        match s.step t with
        | some s => s.front? r
        | none => none
      | none =>
        match _h : scalar? c r with
        | some (v, t) =>
          match s.step (.scalar v) with
          | some s => s.front? t
          | none => none
        | none => none
termination_by text.length
decreasing_by
  · simp
  · simp
  · have := scalar?_length _h
    simp only [List.length_cons]
    omega

/-- The value at the front of a text. -/
def front? (s : List Char) : Option Json := (State.value []).front? s

end PointExchange.Json
