import PointExchange.Json.Basic
import PointExchange.Decimal.Numeral
import PointExchange.Decimal.Shortest
import PointExchange.Hex

/-!
# Writing a JSON value

Values are written without blanks. In strings the quote, the backslash and the controls below
`U+0020` are escaped, and nothing else. A double is written with the fewest digits that read back:
positionally from `1e-5` up to below `1e16`, otherwise with a signed exponent.

`Json.canonical` is the form of a value that does not depend on how its members were laid out:
sorted by name, the last one of each name.
-/

namespace PointExchange.Json

/-- The layout of doubles. -/
def doubleLayout : Decimal.Layout := ⟨-5, 16⟩

/-- One character inside a string. -/
def escapedChar (c : Char) : List Char :=
  match c with
  | '"' => ['\\', '"']
  | '\\' => ['\\', '\\']
  | '\x08' => ['\\', 'b']
  | '\t' => ['\\', 't']
  | '\n' => ['\\', 'n']
  | '\x0c' => ['\\', 'f']
  | '\r' => ['\\', 'r']
  | c =>
    if c.toNat < 0x20 then
      ['\\', 'u', '0', '0', Hex.digit (c.toNat / 16), Hex.digit (c.toNat % 16)]
    else [c]

/-- A string with its quotes. -/
def printString (s : List Char) : List Char := '"' :: s.flatMap escapedChar ++ ['"']

/-- A number. -/
def printNumber : JsonNumber → List Char
  | .natural n => Nat.toDigits 10 n.toNat
  | .negative k => '-' :: Nat.toDigits 10 (k.toNat + 1)
  | .double bits => Decimal.doubleText doubleLayout bits

mutual

/-- The text of a value. -/
def print : Json → List Char
  | .null => ['n', 'u', 'l', 'l']
  | .bool true => ['t', 'r', 'u', 'e']
  | .bool false => ['f', 'a', 'l', 's', 'e']
  | .number n => printNumber n
  | .string s => printString s.toList
  | .array items => '[' :: printItems items ++ [']']
  | .object members => '\x7b' :: printMembers members ++ ['\x7d']

/-- Items with commas between them. -/
def printItems : List Json → List Char
  | [] => []
  | [v] => print v
  | v :: w :: r => print v ++ ',' :: printItems (w :: r)

/-- Members with commas between them. -/
def printMembers : List (String × Json) → List Char
  | [] => []
  | [(k, v)] => printString k.toList ++ ':' :: print v
  | (k, v) :: m :: r => printString k.toList ++ ':' :: print v ++ ',' :: printMembers (m :: r)

end

/-- The text of a value as a string. -/
def text (v : Json) : String := String.ofList (print v)

/-- Puts a member at its place among members sorted by name; one of the same name is replaced. -/
def insertMember (k : String) (v : Json) : List (String × Json) → List (String × Json)
  | [] => [(k, v)]
  | (l, w) :: r =>
    if k < l then (k, v) :: (l, w) :: r
    else if k = l then (k, v) :: r
    else (l, w) :: insertMember k v r

/-- Sorts members by name and keeps the last one of each name. -/
def sortMembers (members : List (String × Json)) : List (String × Json) :=
  members.foldl (fun sorted m => insertMember m.1 m.2 sorted) []

mutual

/-- The value with the members of all its objects sorted and single. -/
def canonical : Json → Json
  | .array items => .array (canonicalItems items)
  | .object members => .object (sortMembers (canonicalMembers members))
  | v => v

def canonicalItems : List Json → List Json
  | [] => []
  | v :: r => canonical v :: canonicalItems r

def canonicalMembers : List (String × Json) → List (String × Json)
  | [] => []
  | (k, v) :: r => (k, canonical v) :: canonicalMembers r

end

/-- A character above the controls, other than the quote and the backslash, stands for itself. -/
theorem escapedChar_eq_self {c : Char} (h : 0x20 ≤ c.toNat) (hq : c ≠ '"') (hb : c ≠ '\\') :
    escapedChar c = [c] := by
  have hn : ¬ c.toNat < 0x20 := by omega
  unfold escapedChar
  split <;> first
    | contradiction
    | exact absurd h (by decide)
    | simp [hn]

end PointExchange.Json
