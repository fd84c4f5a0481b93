import PointExchange.Json.Octets
import PointExchange.Json.Printer
import PointExchange.Text.Quoted

/-!
# Reading with reasons

A reader that refuses a document says what it found, what it expected, and how far it had read: the
column counts the octets of the document's text that were taken by then. A number or a text is
taken before it is refused. Of an array or an object only the opening bracket is taken, and the
closing one if it follows at once.
-/

namespace PointExchange.Json

/-- Why a document is refused, and where. -/
structure Refusal where
  reason : String
  column : Nat

/-- The reason with its place in a text of one line. -/
def Refusal.text (r : Refusal) : String := r.reason ++ " at line 1 column " ++ toString r.column

/-- A reader that gives its reasons. -/
abbrev Reading (α : Type) := Json → Except Refusal α

/-- The octets of the text of a value. -/
def width (v : Json) : Nat := v.text.utf8ByteSize

/-- What a value is, as a reason says it. -/
def kindText : Json → String
  | .null => "null"
  | .bool b => "boolean `" ++ toString b ++ "`"
  | .number (.double bits) => "floating point `" ++ text (.number (.double bits)) ++ "`"
  | .number n => "integer `" ++ text (.number n) ++ "`"
  | .string s => "string " ++ Text.quoted s
  | .array _ => "sequence"
  | .object _ => "map"

/-- The octets of a value that are taken before it is refused. -/
def taken : Json → Nat
  | .array (_ :: _) | .object (_ :: _) => 1
  | v => v.width

/-- The octets that are taken where no bracket is awaited. -/
def takenFlat : Json → Nat
  | .array _ | .object _ => 0
  | v => v.width

/-- A value of another kind than the expected one. -/
def wrongKind (expected : String) (v : Json) : Refusal :=
  ⟨"invalid type: " ++ v.kindText ++ ", expected " ++ expected, v.taken⟩

/-- A value that the expected kind does not hold. -/
def wrongValue (expected : String) (v : Json) : Refusal :=
  ⟨"invalid value: " ++ v.kindText ++ ", expected " ++ expected, v.taken⟩

/-- A reader that takes `null` for nothing. -/
def Reading.optional {α : Type} (read : Reading α) : Reading (Option α)
  | .null => .ok none
  | v => (read v).map some

/-- A reader for what is looked at and not kept. -/
def Reading.check {α : Type} (read : Reading α) : Reading Unit := fun v => (read v).map fun _ => ()

/-- A truth value. -/
def readBool : Reading Bool
  | .bool b => .ok b
  | v => .error (wrongKind "a boolean" v)

/-! ## Octets -/

/-- A character between single quotes. -/
def quotedCharacter (c : Char) : String :=
  let inside :=
    if c = '\x27' then ['\\', c] else if c = '"' then [c] else Text.quotedChar c
  String.ofList ('\x27' :: inside ++ ['\x27'])

/-- Why a text does not spell octets by two digits each. -/
def digitsReason (length? : Option Nat) (s : String) : String :=
  let b := Bytes.ofText (String.ofList (Hex.unmarked s.toList))
  let front := b.takeWhile fun d => (Hex.value? (Char.ofNat d.toNat)).isSome
  if b.length % 2 = 1 then "odd number of digits"
  else
    match length?.all fun n => b.length = 2 * n, b.drop front.length with
    | true, d :: _ =>
      "invalid character " ++ quotedCharacter (Char.ofNat d.toNat) ++ " at position " ++
        toString front.length
    | _, _ => "invalid string length"

/-- The column at which the item of a number begins, or the text ends if there is no such item. -/
def itemColumn (items : List Json) (number : Nat) : Nat :=
  (items.take number).foldl (fun column v => column + v.width + 1) 1

/-- Why an item of an array is no octet. -/
def octetRefusal (column : Nat) (v : Json) : Refusal :=
  let r := match v with
    | .number (.natural _) | .number (.negative _) => wrongValue "u8" v
    | v => wrongKind "u8" v
  { r with column := column + v.takenFlat }

/-- Why the items of an array are not all octets. -/
def itemsRefusal? (items : List Json) : Option Refusal :=
  let front := items.takeWhile fun v => (byte? v).isSome
  (items.drop front.length).head?.map (octetRefusal (itemColumn items front.length))

/-- Why an array is no byte string of a length. One more item is let pass, if it is no octet and
stands without brackets. -/
def lengthRefusal? (length : Nat) (items : List Json) : Option Refusal :=
  let other (n : Nat) := "invalid length " ++ toString n ++ ", expected exactly " ++
    toString length ++ " bytes"
  let trailing := "trailing characters"
  match items.drop length with
  | [] => if items.length = length then none else some ⟨other items.length, width (.array items)⟩
  | .array _ :: _ | .object _ :: _ => some ⟨trailing, itemColumn items length + 1⟩
  | v :: r =>
    if (byte? v).isSome then some ⟨other (length + 1), itemColumn items (length + 1)⟩
    else if r.isEmpty then none
    else some ⟨trailing, itemColumn items (length + 1) + 1⟩

/-- A byte string of any length. -/
def readBytes : Reading Bytes
  | .string s =>
    match Hex.read? s.toList with
    | some b => .ok b
    | none => .error ⟨digitsReason none s, width (.string s)⟩
  | .array items =>
    match itemsRefusal? items with
    | some r => .error r
    | none => .ok (items.filterMap byte?)
  | v => .error (wrongKind
      "a variable number of bytes represented as a hex string, an array of u8, or raw bytes" v)

/-- A byte string of a fixed length. -/
def readFixedBytes (length : Nat) : Reading Bytes
  | .string s =>
    match fixedBytes? length (.string s) with
    | some b => .ok b
    | none => .error ⟨digitsReason (some length) s, width (.string s)⟩
  | .array items =>
    match (itemsRefusal? (items.take length)).or (lengthRefusal? length items) with
    | some r => .error r
    | none => .ok ((items.take length).filterMap byte?)
  | v => .error (wrongKind (toString length ++ " bytes, represented as a hex string of length " ++
      toString (2 * length) ++ ", an array of u8, or raw bytes") v)

def readAddress : Reading Address := fun v =>
  (readFixedBytes 20 v).map fun b => ⟨BitVec.ofNat 160 b.toNat⟩

/-- A hash, which is a byte string of 32 octets. -/
def readHash : Reading Hash := fun v =>
  (readFixedBytes 32 v).map fun b => BitVec.ofNat 256 b.toNat

/-- An array is refused if an item of it is no octet. -/
theorem itemsRefusal?_eq_none_iff {items : List Json} :
    itemsRefusal? items = none ↔ items.all (fun v => (byte? v).isSome) = true := by
  rw [itemsRefusal?, Option.map_eq_none_iff, List.head?_eq_none_iff]
  induction items with
  | nil => simp
  | cons v r ih =>
    cases h : (byte? v).isSome with
    | true => simpa [List.takeWhile_cons, h] using ih
    | false => simp [h]

/-- **The reasons do not change what is read.** -/
theorem toOption_readBytes (v : Json) : (readBytes v).toOption = v.bytes? := by
  cases v with
  | string s => cases h : Hex.read? s.toList <;> simp [readBytes, bytes?, h, Except.toOption]
  | array items =>
    rw [bytes?, mapM_byte?_eq]
    cases h : itemsRefusal? items with
    | none => simp [readBytes, h, itemsRefusal?_eq_none_iff.mp h, Except.toOption]
    | some r =>
      have : ¬ items.all (fun v => (byte? v).isSome) = true := by
        rw [← itemsRefusal?_eq_none_iff, h]
        simp
      simp [readBytes, h, this, Except.toOption]
  | _ => rfl

/-! ## Lists and members -/

/-- A list of which every item is read. -/
def readList {α : Type} (read : Reading α) : Reading (List α)
  | .array items => items.mapM read
  | v => .error (wrongKind "a sequence" v)

/-- The members of an object, each with the column at which its value begins. -/
def memberColumns (members : List (String × Json)) : List (Nat × String × Json) :=
  (members.foldl (fun (column, placed) (k, v) =>
    let start := column + width (.string k) + 1
    (start + v.width + 1, (start, k, v) :: placed)) (1, [])).2.reverse

/-- Reads the members that have a reader, in their order. -/
def checkMembers (readers : List (String × Reading Unit)) (members : List (String × Json)) :
    Except Refusal Unit :=
  (memberColumns members).forM fun (column, k, v) =>
    match readers.lookup k with
    | some read => (read v).mapError fun r => { r with column := column + r.column }
    | none => .ok ()

/-- Asks for members, in an order; the first that is missing is the reason. -/
def requireMembers (names : List String) (members : List (String × Json)) : Except Refusal Unit :=
  names.forM fun name =>
    if members.any fun m => m.1 = name then .ok ()
    else .error ⟨"missing field `" ++ name ++ "`", width (.object members)⟩

end PointExchange.Json
