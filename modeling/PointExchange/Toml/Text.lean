import PointExchange.Toml.Basic

/-!
# Strings, keys and comments of TOML

A string is basic, with escapes, or literal, and either kind may run over several lines between
three quotes each. In front of the closing three quotes up to two more may stand, which belong to
the string. A line break in a string is always a line feed.
-/

namespace PointExchange.Toml

def isBlank (c : Char) : Bool := c == ' ' || c == '\t'

/-- A character that may stand in a comment or a string. -/
def isText (c : Char) : Bool := c == '\t' || (0x20 ≤ c.toNat && c.toNat != 0x7f)

/-- A character of a key without quotes. -/
def isBare (c : Char) : Bool :=
  c.isAlphanum || c == '_' || c == '-'

/-- The value of a hexadecimal digit. -/
def hexDigit? (c : Char) : Option Nat :=
  if c.isDigit then some (c.toNat - 48)
  else if 'a' ≤ c && c ≤ 'f' then some (c.toNat - 87)
  else if 'A' ≤ c && c ≤ 'F' then some (c.toNat - 55)
  else none

/-- The character with a number in hexadecimal digits. -/
def scalar? (digits : List Char) : Option Char :=
  let n? := digits.foldl (fun n? c => do return (← n?) * 16 + (← hexDigit? c)) (some 0)
  n?.bind fun n => if n.isValidChar then some (Char.ofNat n) else none

/-- The character that a letter behind a backslash stands for. -/
def escaped? : Char → Option Char
  | 'b' => some '\x08'
  | 't' => some '\t'
  | 'n' => some '\n'
  | 'f' => some '\x0c'
  | 'r' => some '\r'
  | '"' => some '"'
  | '\\' => some '\\'
  | _ => none

/-- Puts a character in front of a string that was read. -/
def push (c : Option Char) (s : Option (List Char × List Char)) : Option (List Char × List Char) :=
  c.bind fun c => s.map fun (t, r) => (c :: t, r)

/-- A basic string behind its quote. -/
def scanBasic : Scanner (List Char)
  | [] => none
  | '"' :: r => some ([], r)
  | '\\' :: 'u' :: a :: b :: c :: d :: r => push (scalar? [a, b, c, d]) (scanBasic r)
  | '\\' :: 'U' :: a :: b :: c :: d :: e :: f :: g :: h :: r =>
    push (scalar? [a, b, c, d, e, f, g, h]) (scanBasic r)
  | '\\' :: c :: r => push (escaped? c) (scanBasic r)
  | c :: r => if isText c then push (some c) (scanBasic r) else none

/-- A line ends here but for blanks. -/
def atLineEnd (s : List Char) : Bool :=
  match s.dropWhile isBlank with
  | '\n' :: _ => true
  | '\r' :: '\n' :: _ => true
  | _ => false

/-- A basic string of several lines behind its quotes. While it is `skipping`, a backslash has ended
the line before, and blanks and line ends do not count. -/
def scanLongBasic (skipping : Bool) : Scanner (List Char)
  | [] => none
  | '"' :: '"' :: '"' :: '"' :: '"' :: r => some (['"', '"'], r)
  | '"' :: '"' :: '"' :: '"' :: r => some (['"'], r)
  | '"' :: '"' :: '"' :: r => some ([], r)
  | '\r' :: '\n' :: r =>
    if skipping then scanLongBasic true r else push (some '\n') (scanLongBasic false r)
  | '\n' :: r =>
    if skipping then scanLongBasic true r else push (some '\n') (scanLongBasic false r)
  | '\\' :: 'u' :: a :: b :: c :: d :: r => push (scalar? [a, b, c, d]) (scanLongBasic false r)
  | '\\' :: 'U' :: a :: b :: c :: d :: e :: f :: g :: h :: r =>
    push (scalar? [a, b, c, d, e, f, g, h]) (scanLongBasic false r)
  | '\\' :: c :: r =>
    if atLineEnd (c :: r) then scanLongBasic true (c :: r)
    else push (escaped? c) (scanLongBasic false r)
  | c :: r =>
    if skipping && isBlank c then scanLongBasic true r
    else if isText c then push (some c) (scanLongBasic false r)
    else none

/-- A literal string behind its quote. -/
def scanLiteral : Scanner (List Char)
  | [] => none
  | '\x27' :: r => some ([], r)
  | c :: r => if isText c then push (some c) (scanLiteral r) else none

/-- A literal string of several lines behind its quotes. -/
def scanLongLiteral : Scanner (List Char)
  | [] => none
  | '\x27' :: '\x27' :: '\x27' :: '\x27' :: '\x27' :: r => some (['\x27', '\x27'], r)
  | '\x27' :: '\x27' :: '\x27' :: '\x27' :: r => some (['\x27'], r)
  | '\x27' :: '\x27' :: '\x27' :: r => some ([], r)
  | '\r' :: '\n' :: r => push (some '\n') (scanLongLiteral r)
  | c :: r => if c == '\n' || isText c then push (some c) (scanLongLiteral r) else none

/-- A line end right behind the opening quotes does not count. -/
def dropFirstBreak : List Char → List Char
  | '\n' :: r => r
  | '\r' :: '\n' :: r => r
  | s => s

/-- A string of any kind. -/
def scanString? : Scanner String
  | '"' :: '"' :: '"' :: r =>
    (scanLongBasic false (dropFirstBreak r)).map fun (t, r) => (String.ofList t, r)
  | '"' :: r => (scanBasic r).map fun (t, r) => (String.ofList t, r)
  | '\x27' :: '\x27' :: '\x27' :: r =>
    (scanLongLiteral (dropFirstBreak r)).map fun (t, r) => (String.ofList t, r)
  | '\x27' :: r => (scanLiteral r).map fun (t, r) => (String.ofList t, r)
  | _ => none

/-! ## Keys -/

/-- One part of a key. -/
def scanKeyPart : Scanner String
  | '"' :: r => (scanBasic r).map fun (t, r) => (String.ofList t, r)
  | '\x27' :: r => (scanLiteral r).map fun (t, r) => (String.ofList t, r)
  | s =>
    let t := s.takeWhile isBare
    if t.isEmpty then none else some (String.ofList t, s.dropWhile isBare)

/-- A key of at most `n` parts with dots between them, and blanks around each part. -/
def scanKeyParts : Nat → Scanner (List String)
  | 0, _ => none
  | n + 1, s =>
    match scanKeyPart (s.dropWhile isBlank) with
    | none => none
    | some (part, r) =>
      match r.dropWhile isBlank with
      | '.' :: r => (scanKeyParts n r).map fun (parts, r) => (part :: parts, r)
      | r => some ([part], r)

/-- How deep tables and arrays may be nested, and how many parts a key has, both at most. -/
def maxDepth : Nat := 79

/-- A key: the path to its table, and its name there. -/
structure Key where
  path : List String
  name : String

/-- A key. -/
def scanKey : Scanner Key := fun s =>
  match scanKeyParts maxDepth s with
  | some (parts, r) => parts.getLast?.map fun name => (⟨parts.dropLast, name⟩, r)
  | none => none

/-! ## Comments and line ends -/

/-- What follows a comment: its line end, or nothing. -/
def dropComment : List Char → Option (List Char)
  | [] => some []
  | '\n' :: r => some ('\n' :: r)
  | '\r' :: '\n' :: r => some ('\r' :: '\n' :: r)
  | c :: r => if isText c then dropComment r else none

/-- The next line, if this one has nothing left but blanks and a comment. -/
def endLine (s : List Char) : Option (List Char) :=
  let rest :=
    match s.dropWhile isBlank with
    | '#' :: r => dropComment r
    | r => some r
  match rest with
  | some [] => some []
  | some ('\n' :: r) => some r
  | some ('\r' :: '\n' :: r) => some r
  | _ => none

/-- Drops blanks, comments and line ends. -/
def dropGaps (commented : Bool) : List Char → Option (List Char)
  | [] => some []
  | '\n' :: r => dropGaps false r
  | '\r' :: '\n' :: r => dropGaps false r
  | c :: r =>
    if commented then (if isText c then dropGaps true r else none)
    else if isBlank c then dropGaps false r
    else if c == '#' then dropGaps true r
    else some (c :: r)

end PointExchange.Toml
