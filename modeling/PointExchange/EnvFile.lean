import PointExchange.Decimal.Numeral
import PointExchange.Text.Alphanumeric
import PointExchange.Text.Space

/-!
# Files of variables

A file of variables has an entry `NAME=value` on each line; blank lines and comments do not count.
A value may stand in quotes, and then it may hold line ends. Between double quotes and without
quotes a backslash takes away the meaning of the next character, and a dollar sign cites another
variable.

Entries add to the environment and never replace what is in it. The first line that cannot be
read ends the file: entries before it count, those behind it do not. No variable can hold a NUL; a
file that gives one to a variable is not survived.
-/

namespace PointExchange

/-- Variables of the environment with their values. -/
abbrev Variables := List (String × String)

namespace EnvFile

/-- Where a reader stands in an entry, as far as it matters for where the entry ends. -/
inductive Place
  | plain
  | blank
  | escape
  | single
  | singleEscape
  | double
  | doubleEscape
deriving DecidableEq

/-- The place behind a character, `none` where a comment begins. -/
def Place.next : Place → Char → Option Place
  | .escape, _ => some .plain
  | .single, '\\' => some .singleEscape
  | .single, '\x27' => some .plain
  | .single, _ => some .single
  | .singleEscape, _ => some .single
  | .double, '\\' => some .doubleEscape
  | .double, '"' => some .plain
  | .double, _ => some .double
  | .doubleEscape, _ => some .double
  | .blank, '#' => none
  | _, '\\' => some .escape
  | _, '"' => some .double
  | _, '\x27' => some .single
  | .blank, _ => some .plain
  | .plain, c => some (if Text.isSpace c && c != '\n' && c != '\r' then .blank else .plain)

/-- The place at the end of a line, or what stands before the comment in it. -/
def Place.behind : Place → List Char → Place ⊕ List Char
  | p, [] => .inl p
  | p, c :: r =>
    match p.next c with
    | none => .inr []
    | some q =>
      match Place.behind q r with
      | .inl q => .inl q
      | .inr before => .inr (c :: before)

/-- The lines of a text, each with its end. -/
def lines : List Char → List (List Char)
  | [] => []
  | c :: r =>
    if c == '\n' then [c] :: lines r
    else
      match lines r with
      | [] => [[c]]
      | l :: rest => (c :: l) :: rest

/-- A text without the line end behind it. -/
def dropLineEnd (s : List Char) : List Char :=
  match s.reverse with
  | '\n' :: '\r' :: r => r.reverse
  | '\n' :: r => r.reverse
  | _ => s

/-- The number of octets of a text. -/
def octets : List Char → Nat
  | [] => 0
  | c :: r => c.utf8Size + octets r

/-- A line that cannot be read. -/
structure Fault where
  line : List Char
  /-- where in it the fault is -/
  place : Nat
deriving DecidableEq

def Fault.text (f : Fault) : String :=
  "Error parsing line: '" ++ String.ofList f.line ++ "', error at line index: " ++
    Decimal.text f.place

/-- Why a file is not read to its end. -/
inductive Stop
  | unreadable (f : Fault)
  /-- the value of this name holds a NUL -/
  | impossible (name : String)
deriving DecidableEq

/-- The entries of a file as texts, without their comments. -/
def entries : List (List Char) → List Char → Place → List (Except Fault (List Char))
  | [], before, place => if place = .plain then [] else [.error ⟨before, octets before⟩]
  | l :: rest, before, place =>
    let entry := before ++ l
    if (entry.dropWhile Text.isSpace).head? = some '#' then entries rest [] .plain
    else
      match place.behind l with
      | .inr last => .ok (before ++ last) :: entries rest [] .plain
      | .inl .plain => .ok (dropLineEnd entry) :: entries rest [] .plain
      | .inl place => entries rest entry place

/-- How a value is quoted at some place. -/
inductive Quote
  | none
  | single
  | double
deriving DecidableEq

/-- A variable that is being cited. -/
structure Citation where
  braced : Bool
  name : List Char

/-- How far reading a value has come. -/
structure ValueReading where
  quote : Quote := .none
  escaped : Bool := false
  citation : Option Citation := none
  /-- only a comment may follow -/
  ended : Bool := false
  out : List Char := []

/-- What a name stands for. The environment holds texts `NAME=VALUE`, and a name is sought as the
front of such a text; so behind a cited equals sign the name may go on into the value. -/
def cited? (env : Variables) (name : List Char) : Option (List Char) :=
  env.findSome? fun v => (name ++ ['=']).isPrefixOf? (v.1.toList ++ '=' :: v.2.toList)

/-- Puts in the value of a variable. -/
def ValueReading.cite (env : Variables) (v : ValueReading) (name : List Char) : ValueReading :=
  { v with
    citation := none
    out := v.out ++ (cited? env name).getD [] }

/-- One character of a value; `none` if it may not stand there. -/
def ValueReading.next (env : Variables) (v : ValueReading) (c : Char) : Option ValueReading :=
  let keep := some { v with out := v.out ++ [c] }
  if v.ended then
    if c == ' ' || c == '\t' then some v else none
  else if v.escaped then
    if "\\\x27\"$ ".toList.contains c then some { v with escaped := false, out := v.out ++ [c] }
    else if c == 'n' then some { v with escaped := false, out := v.out ++ ['\n'] }
    else none
  else if v.quote = .single then
    if c == '\x27' then some { v with quote := .none } else keep
  else
    match v.citation with
    | some ⟨braced, name⟩ =>
      if Text.isAlphanumeric c then some { v with citation := some ⟨braced, name ++ [c]⟩ }
      else if braced then
        if c == '\x7d' then some (v.cite env name)
        else some { v with citation := some ⟨true, name ++ [c]⟩ }
      else if c == '\x7b' && name.isEmpty then some { v with citation := some ⟨true, []⟩ }
      else
        let v := v.cite env name
        if c == '$' then some { v with citation := some ⟨false, []⟩ }
        else some { v with out := v.out ++ [c] }
    | none =>
      if c == '$' then some { v with citation := some ⟨false, []⟩ }
      else if c == '\\' then some { v with escaped := true }
      else if v.quote = .double then
        if c == '"' then some { v with quote := .none } else keep
      else if c == '\x27' then some { v with quote := .single }
      else if c == '"' then some { v with quote := .double }
      else if c == ' ' || c == '\t' then some { v with ended := true }
      else keep

/-- The reading of a value, or the place of a character that may not stand there. -/
def readValue (env : Variables) : List Char → Nat → ValueReading → Except Nat ValueReading
  | [], _, v => .ok v
  | c :: r, n, v =>
    if v.ended && c == '#' then .ok v
    else
      match v.next env c with
      | some v => readValue env r (n + 1) v
      | none => .error n

/-- The value that a text writes. -/
def value (env : Variables) (s : List Char) : Except Fault String :=
  match readValue env s 0 {} with
  | .error n => .error ⟨s, n⟩
  | .ok v =>
    let unclosed := v.quote ≠ .none || v.citation.any (·.braced)
    if unclosed then .error ⟨s, octets s - 1⟩
    else
      match v.citation with
      | some c => .ok (String.ofList (v.cite env c.name).out)
      | none => .ok (String.ofList v.out)

/-- A character of a name. -/
def isNameChar (c : Char) : Bool := c.isAlphanum || c == '_' || c == '.'

/-- The name at the front of a text. -/
def splitName? (s : List Char) : Option (List Char × List Char) :=
  match s with
  | c :: _ =>
    if c.isAlpha || c == '_' then some (s.takeWhile isNameChar, s.dropWhile isNameChar) else none
  | [] => none

/-- The name of an entry and the text behind its equals sign, or what is left where that fails. -/
def splitEntry (s : List Char) : Except (List Char) (List Char × List Char) :=
  match splitName? s with
  | none => .error s
  | some (name, r) =>
    match r.dropWhile Text.isSpace with
    | '=' :: r => .ok (name, r)
    | r => if name = "export".toList then
        match splitName? r with
        | none => .error r
        | some (name, r) =>
          match r.dropWhile Text.isSpace with
          | '=' :: r => .ok (name, r)
          | r => .error r
      else .error r

/-- The variable of an entry, if it is not blank. -/
def entryVariable (env : Variables) (entry : List Char) : Except Fault (Option (String × String)) :=
  let line := Text.trimEnd entry
  let s := line.dropWhile Text.isSpace
  if s.isEmpty || s.head? = some '#' then .ok none
  else
    match splitEntry s with
    | .error rest => .error ⟨entry, octets line - octets rest⟩
    | .ok (name, r) =>
      let r := r.dropWhile Text.isSpace
      if r.isEmpty || r.head? = some '#' then .ok (some (String.ofList name, ""))
      else (value env r).map fun v => some (String.ofList name, v)

/-- A variable is added unless there is one of its name; `none` if it cannot be one. -/
def add? (env : Variables) (v : String × String) : Option Variables :=
  if (env.lookup v.1).isSome then some env
  else if v.2.toList.contains '\x00' then none
  else some (env ++ [v])

/-- The environment after some entries, and what ended them. -/
def addAll (env : Variables) : List (Except Fault (List Char)) → Variables × Option Stop
  | [] => (env, none)
  | .error f :: _ => (env, some (.unreadable f))
  | .ok entry :: rest =>
    match entryVariable env entry with
    | .error f => (env, some (.unreadable f))
    | .ok none => addAll env rest
    | .ok (some v) =>
      match add? env v with
      | none => (env, some (.impossible v.1))
      | some env => addAll env rest

/-- The environment after a file. -/
def load (env : Variables) (file : String) : Variables × Option Stop :=
  let s := file.toList
  addAll env (entries (lines (if s.head? = some '\ufeff' then s.tail else s)) [] .plain)

/-- **What is in the environment is never replaced.** -/
theorem lookup_add? {env env' : Variables} {name value : String} {v : String × String}
    (h : env.lookup name = some value) (ha : add? env v = some env') :
    env'.lookup name = some value := by
  unfold add? at ha
  split at ha
  · cases ha
    exact h
  · split at ha
    · cases ha
    · cases ha
      rw [List.lookup_append, h]
      rfl

/-- **A file replaces nothing that is in the environment before it.** -/
theorem lookup_addAll {env : Variables} {name value : String}
    (es : List (Except Fault (List Char))) (h : env.lookup name = some value) :
    (addAll env es).1.lookup name = some value := by
  induction es generalizing env with
  | nil => exact h
  | cons e rest ih =>
    cases e with
    | error f => exact h
    | ok entry =>
      rw [addAll]
      split
      · exact h
      · exact ih h
      · split
        · exact h
        · next ha => exact ih (lookup_add? h ha)

end EnvFile
end PointExchange
