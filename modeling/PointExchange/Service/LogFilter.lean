import PointExchange.Decimal.Numeral
import PointExchange.Text.Alphanumeric
import PointExchange.Text.Space
import PointExchange.Text.Split

/-!
# Filters of the log

The variable of the log filter holds directives with commas between them. A directive names a
target, a span with its fields between brackets, or both, and behind an equals sign the least
level that is logged; a level may also stand alone. A directive that cannot be read is left out,
which is told before anything else.
-/

namespace PointExchange.LogFilter

/-- The name of the variable. -/
def variableName : String := "RUST_LOG"

/-- A level by its name in any case, or by its number. -/
def isLevel (s : List Char) : Bool :=
  let digits := match s with
    | '+' :: r => r
    | r => r
  (Decimal.number? digits).any (· ≤ 5) ||
    ["error", "warn", "info", "debug", "trace", "off"].contains
      (String.ofList (s.map Char.toLower))

/-- Where a reader of a directive stands, and the number of the character with which the field or
the level begins that it is reading. -/
inductive Place
  | start
  /-- in a target or a level -/
  | name
  /-- in the name of a span -/
  | span
  /-- in a field of a span -/
  | field (first : Nat)
  /-- behind the fields of a span -/
  | fields
  /-- behind a span -/
  | behindSpan
  /-- in a level behind an equals sign -/
  | level (first : Nat)

/-- The place behind the character of a number, `none` where it cannot stand. -/
def Place.next? (number : Nat) (c : Char) : Place → Option Place
  | .start =>
    if c = '[' then some .span
    else if ['-', ':', '_'].contains c || Text.isAlphanumeric c then some .name
    else none
  | .name =>
    if c = '=' then some (.level (number + 1)) else if c = '[' then some .span else some .name
  | .span =>
    if c = ']' then some .behindSpan
    else if c = '\x7b' then some (.field (number + 1))
    else some .span
  | .field first =>
    if c = '\x7d' then (if first < number then some .fields else none) else some (.field first)
  | .fields => if c = ']' then some .behindSpan else none
  | .behindSpan => if c = '=' then some (.level (number + 1)) else none
  | .level first => some (.level first)

/-- The place behind some characters, of which the first has a number. -/
def placeBehind? : Nat → List Char → Place → Option Place
  | _, [], p => some p
  | number, c :: r, p => (p.next? number c).bind (placeBehind? (number + 1) r)

/-- Whether a text is a directive. Blanks at its ends are skipped by the reader but counted where a
level begins. -/
def isDirective (s : List Char) : Bool :=
  match placeBehind? 0 (Text.trim s) .start with
  | some .name | some .behindSpan => true
  | some (.level first) => (s.drop first).isEmpty || isLevel (s.drop first)
  | _ => false

/-- The first directive of a filter that cannot be read. -/
def unreadable? (filter : String) : Option (List Char) :=
  ((Text.split (· == ',') filter.toList).filter fun d => !d.isEmpty).find? fun d => !isDirective d

/-- What is told about a directive that cannot be read. -/
def complaint (directive : List Char) : String :=
  "ignoring `" ++ String.ofList directive ++ "`: invalid filter directive"

/-- What is complained about is no directive. -/
theorem isDirective_of_unreadable? {filter : String} {d : List Char}
    (h : unreadable? filter = some d) : isDirective d = false := by
  simpa using List.find?_some h

end PointExchange.LogFilter
