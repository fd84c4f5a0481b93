import PointExchange.Json.Refusal

/-!
# Numbers in a node's answers

A node gives a number as a text, whose first characters tell the base, or as a JSON number. It has
to fit into the octets that are set aside for it.
-/

namespace PointExchange

/-- The number that digits of a base up to sixteen spell; underscores between them are skipped. -/
def numeral? (base : Nat) (s : List Char) : Option Nat :=
  (s.filter (· != '_')).foldl (fun acc c => do
    let n ← acc
    let d ← Hex.value? c
    if d < base then some (n * base + d) else none) (some 0)

/-- The number that a text writes. A mark in front tells the base, which is ten without one; no
digits spell zero. -/
def quantityText? : List Char → Option Nat
  | '0' :: 'x' :: r | '0' :: 'X' :: r => numeral? 16 r
  | '0' :: 'o' :: r | '0' :: 'O' :: r => numeral? 8 r
  | '0' :: 'b' :: r | '0' :: 'B' :: r => numeral? 2 r
  | s => numeral? 10 s

/-- A number below a bound. -/
def quantity? (bound : Nat) (v : Json) : Option Nat :=
  let n? :=
    match v with
    | .string s => quantityText? s.toList
    | v => v.natural?.map UInt64.toNat
  n?.filter fun n => n < bound

/-- A number of some octets. -/
def readQuantity (octets : Nat) : Json.Reading Nat := fun v =>
  let expected := "a " ++ toString octets ++ " byte hex string"
  match quantity? (Nat.pow 256 octets) v, v with
  | some n, _ => .ok n
  | none, .string _ | none, .number (.natural _) => .error (Json.wrongValue expected v)
  | none, v => .error (Json.wrongKind expected v)

/-- A number below `2 ^ 64`. -/
def readQuantity64 : Json.Reading UInt64 := fun v => (readQuantity 8 v).map Nat.toUInt64

/-- A number that is read is below its bound. -/
theorem quantity?_lt {bound n : Nat} {v : Json} (h : quantity? bound v = some n) : n < bound := by
  simpa using (Option.filter_eq_some_iff.mp h).2

end PointExchange
