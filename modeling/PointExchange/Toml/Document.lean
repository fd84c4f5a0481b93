import PointExchange.Toml.Plain
import PointExchange.Toml.Text

/-!
# TOML documents

A document is a list of statements, one to a line: a header opens a table, and a pair puts a value
into the table that is open. The tables of a document are put together from the statements in their
order; whatever would define something twice is refused.
-/

namespace PointExchange.Toml

/-! ## Tables from pairs and headers -/

namespace Members

/-- Puts a value under a dotted key. The tables on its way are made by dotted keys only, except that
one that is implied may be passed through. -/
def put : Members → List String → String → Value → Option Members
  | ms, [], name, v => ms.add? name v
  | ms, key :: path, name, v =>
    match ms.get? key with
    | none => (put [] path name v).map fun sub => ms ++ [(key, .table .dotted sub)]
    | some (.table .dotted sub) =>
      (put sub path name v).map fun sub => ms.replace key (.table .dotted sub)
    | some (.table .implied sub) =>
      if path.isEmpty then none
      else (put sub path name v).map fun sub => ms.replace key (.table .implied sub)
    | some (.tables items) =>
      if path.isEmpty then none
      else (amendLast (fun sub => put sub path name v) items).map fun items =>
        ms.replace key (.tables items)
    | some _ => none

/-- Goes down a path of headers and changes the members at its end. -/
def descend (f : Members → Option Members) : Members → List String → Option Members
  | ms, [] => f ms
  | ms, key :: path =>
    match ms.get? key with
    | none => (descend f [] path).map fun sub => ms ++ [(key, .table .implied sub)]
    | some (.table .inlined _) => none
    | some (.table origin sub) =>
      (descend f sub path).map fun sub => ms.replace key (.table origin sub)
    | some (.tables items) =>
      (amendLast (fun sub => descend f sub path) items).map fun items =>
        ms.replace key (.tables items)
    | some _ => none

/-- Opens the table of a header and fills it. -/
def openTable (name : String) (fill : Members → Option Members) (ms : Members) : Option Members :=
  match ms.get? name with
  | none => (fill []).map fun sub => ms ++ [(name, .table .header sub)]
  | some (.table .implied sub) => (fill sub).map fun sub => ms.replace name (.table .header sub)
  | some _ => none

/-- Adds a table to an array of tables and fills it. -/
def openItem (name : String) (fill : Members → Option Members) (ms : Members) : Option Members :=
  match ms.get? name with
  | none => (fill []).map fun sub => ms ++ [(name, .tables [sub])]
  | some (.tables items) => (fill []).map fun sub => ms.replace name (.tables (items ++ [sub]))
  | some _ => none

/-- Puts pairs one after the other. -/
def putAll (ms : Members) (pairs : List (Key × Value)) : Option Members :=
  pairs.foldlM (fun ms (k, v) => ms.put k.path k.name v) ms

end Members

/-! ## Values -/

/-- The items of an array behind its bracket. Each of the `fuel` rounds reads one. -/
def scanItems (item : Scanner Value) : Nat → Scanner (List Value)
  | 0, _ => none
  | fuel + 1, s =>
    match dropGaps false s with
    | some (']' :: r) => some ([], r)
    | some s =>
      match item s with
      | none => none
      | some (v, r) =>
        match dropGaps false r with
        | some (',' :: r) => (scanItems item fuel r).map fun (vs, r) => (v :: vs, r)
        | some (']' :: r) => some ([v], r)
        | _ => none
    | none => none

/-- A key and its value. -/
def scanPair (item : Scanner Value) : Scanner (Key × Value) := fun s =>
  match scanKey s with
  | some (k, '=' :: r) => (item (r.dropWhile isBlank)).map fun (v, r) => ((k, v), r)
  | _ => none

/-- The pairs of an inline table that has some, behind its brace. -/
def scanPairs (item : Scanner Value) : Nat → Scanner (List (Key × Value))
  | 0, _ => none
  | fuel + 1, s =>
    match scanPair item s with
    | none => none
    | some (p, r) =>
      match r.dropWhile isBlank with
      | ',' :: r => (scanPairs item fuel r).map fun (ps, r) => (p :: ps, r)
      | '\x7d' :: r => some ([p], r)
      | _ => none

/-- An inline table behind its brace. -/
def scanInline (item : Scanner Value) : Scanner Value := fun s =>
  match s.dropWhile isBlank with
  | '\x7d' :: r => some (.table .inlined [], r)
  | t => do
    let (pairs, r) ← scanPairs item (t.length + 1) t
    let members ← Members.putAll [] pairs
    return (.table .inlined members, r)

/-- A value in which arrays and inline tables are nested up to a depth. -/
def scanValue : Nat → Scanner Value
  | depth, s =>
    match s, depth with
    | '"' :: _, _ => (scanString? s).map fun (t, r) => (.string t, r)
    | '\x27' :: _, _ => (scanString? s).map fun (t, r) => (.string t, r)
    | '[' :: r, depth + 1 =>
      (scanItems (scanValue depth) (r.length + 1) r).map fun (vs, r) => (.array vs, r)
    | '\x7b' :: r, depth + 1 => scanInline (scanValue depth) r
    | s, _ => scanPlain s

/-! ## Statements -/

/-- A line of a document. -/
inductive Statement
  | pair (key : Key) (v : Value)
  | header (key : Key)
  /-- the header of another table of an array -/
  | item (key : Key)

/-- A header in some brackets. -/
def scanHeader (closing : List Char) : Scanner Key := fun s =>
  match scanKey s with
  | some (k, r) => if closing.isPrefixOf r then some (k, r.drop closing.length) else none
  | none => none

/-- The statement of a line that has one, and the lines behind it. -/
def scanStatement : Scanner Statement := fun s => do
  let (statement, r) ←
    match s with
    | '[' :: '[' :: r => (scanHeader [']', ']'] r).map fun (k, r) => (Statement.item k, r)
    | '[' :: r => (scanHeader [']'] r).map fun (k, r) => (Statement.header k, r)
    | s => (scanPair (scanValue maxDepth) s).map fun ((k, v), r) => (Statement.pair k v, r)
  return (statement, ← endLine r)

/-- All statements. Each of the `fuel` rounds reads a line. -/
def scanStatements : Nat → List Char → Option (List Statement)
  | 0, _ => none
  | fuel + 1, s =>
    match s.dropWhile isBlank with
    | [] => some []
    | '\n' :: r => scanStatements fuel r
    | '\r' :: '\n' :: r => scanStatements fuel r
    | '#' :: r => (dropComment r).bind (scanStatements fuel)
    | t => do
      let (statement, r) ← scanStatement t
      return statement :: (← scanStatements fuel r)

/-- The pairs in front of the first header. -/
def leadingPairs : List Statement → List (Key × Value)
  | .pair k v :: rest => (k, v) :: leadingPairs rest
  | _ => []

/-- Opens a table for each header and fills it with the pairs behind it. -/
def build : Members → List Statement → Option Members
  | root, [] => some root
  | root, .pair _ _ :: rest => build root rest
  | root, .header k :: rest => do
    let fill (ms : Members) := ms.putAll (leadingPairs rest)
    build (← root.descend (Members.openTable k.name fill) k.path) rest
  | root, .item k :: rest => do
    let fill (ms : Members) := ms.putAll (leadingPairs rest)
    build (← root.descend (Members.openItem k.name fill) k.path) rest

/-- A mark of byte order in front of a document does not count. -/
def dropMark : List Char → List Char
  | '\ufeff' :: r => r
  | s => s

/-- The members of a document. -/
def parse (s : List Char) : Option Members := do
  let statements ← scanStatements (s.length + 1) (dropMark s)
  build (← Members.putAll [] (leadingPairs statements)) statements

end PointExchange.Toml
