/-!
# JSON values

A document keeps the members of an object as they stand, in their order and with every repetition,
because a reader of messages refuses a member that is given twice.

An integer keeps its value when it fits 64 bits, signed or not. Every other number is a double,
kept by its bits: `1.0`, `-0` and `1e2` are doubles.
-/

namespace PointExchange

/-- A number of a document. -/
inductive JsonNumber
  /-- an integer from 0 to 2 ^ 64 - 1 -/
  | natural (n : UInt64)
  /-- the integer `-(k + 1)`, down to -(2 ^ 63) -/
  | negative (k : BitVec 63)
  /-- the double with these bits -/
  | double (bits : UInt64)
deriving DecidableEq

/-- A JSON value. -/
inductive Json
  | null
  | bool (b : Bool)
  | number (n : JsonNumber)
  | string (s : String)
  | array (items : List Json)
  | object (members : List (String × Json))
deriving Inhabited

namespace Json

/-- The number of a natural integer. -/
def ofNat (n : Nat) : Json := .number (.natural n.toUInt64)

/-- The integer of a number of 64 bits without sign. -/
def natural? : Json → Option UInt64
  | .number (.natural n) => some n
  | _ => none

def string? : Json → Option String
  | .string s => some s
  | _ => none

/-- The values of the members of one name, in their order. -/
def valuesOf (name : String) (members : List (String × Json)) : List Json :=
  (members.filter fun m => m.1 == name).map (·.2)

theorem valuesOf_append (name : String) (a b : List (String × Json)) :
    valuesOf name (a ++ b) = valuesOf name a ++ valuesOf name b := by
  simp [valuesOf]

/-- Members of other names do not matter. -/
theorem valuesOf_eq_nil {name : String} {members : List (String × Json)}
    (h : ∀ m ∈ members, m.1 ≠ name) : valuesOf name members = [] := by
  simpa [valuesOf, List.filter_eq_nil_iff] using h

end Json
end PointExchange
