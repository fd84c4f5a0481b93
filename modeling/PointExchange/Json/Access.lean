import PointExchange.Address
import PointExchange.Amount
import PointExchange.Json.Octets

/-!
# Looking into JSON documents

Members and values of a document whose form is known, with a stand-in for what is missing. Of a
member that is given more than once the last one counts.
-/

namespace PointExchange.Json

/-- A member of an object, `null` if there is none. -/
def field (j : Json) (name : String) : Json :=
  match j with
  | .object members => ((valuesOf name members).getLast?).getD .null
  | _ => .null

def has (j : Json) (name : String) : Bool :=
  match j with
  | .object members => !(valuesOf name members).isEmpty
  | _ => false

def isNull : Json → Bool
  | .null => true
  | _ => false

def items : Json → List Json
  | .array xs => xs
  | _ => []

/-- The items of a member. -/
def list (j : Json) (name : String) : List Json := (j.field name).items

/-- A text, empty if it is none. -/
def chars (j : Json) : String := j.string?.getD ""

/-- A member that is a text. -/
def str (j : Json) (name : String) : String := (j.field name).chars

def strOr (j : Json) (name standIn : String) : String := (j.field name).string?.getD standIn

/-- An integer. -/
def int? : Json → Option Int
  | .number (.natural n) => some n.toNat
  | .number (.negative k) => some (-(k.toNat : Int) - 1)
  | _ => none

def intOr (j : Json) (name : String) (standIn : Int) : Int := (int? (j.field name)).getD standIn

/-- A natural number, zero if it is none. -/
def toNat (j : Json) : Nat := ((int? j).getD 0).toNat

def nat? (j : Json) (name : String) : Option Nat := (int? (j.field name)).map Int.toNat

def natOr (j : Json) (name : String) (standIn : Nat) : Nat := (j.nat? name).getD standIn

/-- A member that is a number of 64 bits. -/
def word64 (j : Json) (name : String) : UInt64 := (j.natOr name 0).toUInt64

def boolOr (j : Json) (name : String) (standIn : Bool) : Bool :=
  match j.field name with
  | .bool b => b
  | _ => standIn

/-- A number with or without a fraction. -/
def float : Json → Float
  | .number (.double bits) => Float.ofBits bits
  | v => Float.ofInt ((int? v).getD 0)

/-- A word given by its decimal digits. -/
def word (j : Json) (name : String) : Word := BitVec.ofNat 256 (Decimal.value (j.str name).toList)

def address (j : Json) (name : String) : Address := ((j.field name).address?).getD default

def octets (j : Json) (name : String) : Bytes := ((j.field name).bytes?).getD []

def hash (j : Json) (name : String) : Hash := BitVec.ofNat 256 (Bytes.toNat (j.octets name))

end PointExchange.Json
