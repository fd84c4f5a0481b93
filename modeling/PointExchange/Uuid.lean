import PointExchange.Hex

/-!
# Identifiers of exchange records

A record is named by a UUID: 128 bits, written as 32 lower-case digits in groups of 8, 4, 4, 4
and 12 with hyphens between them. Four spellings are read, with digits of any case: the
hyphenated one, the same between braces, the same behind `urn:uuid:`, and the 32 digits alone.
-/

namespace PointExchange

/-- The identifier of an exchange record. -/
structure Uuid where
  bits : BitVec 128
deriving DecidableEq, Inhabited

namespace Uuid

/-- The lengths of the groups of digits. -/
def groups : List Nat := [8, 4, 4, 4, 12]

/-- Joins groups of the given lengths that stand between hyphens. -/
def joinGroups : List Nat → List Char → Option (List Char)
  | [], s => if s.isEmpty then some [] else none
  | [n], s => if s.length = n then some s else none
  | n :: m :: ns, s =>
    if (s.take n).length = n then
      match s.drop n with
      | '-' :: r => (joinGroups (m :: ns) r).map (s.take n ++ ·)
      | _ => none
    else none

/-- Puts hyphens between groups of the given lengths. -/
def splitGroups : List Nat → List Char → List Char
  | [], _ => []
  | [_], s => s
  | n :: m :: ns, s => s.take n ++ '-' :: splitGroups (m :: ns) (s.drop n)

/-- The identifier of 32 digits. -/
def ofDigits? (s : List Char) : Option Uuid :=
  if s.length = 32 then (Hex.number? s).map fun n => ⟨BitVec.ofNat 128 n⟩ else none

/-- The identifier in its hyphenated form. -/
def ofHyphenated? (s : List Char) : Option Uuid := (joinGroups groups s).bind ofDigits?

/-- The identifier in one of the four spellings. -/
def ofText? (s : List Char) : Option Uuid :=
  match s with
  | '\x7b' :: r => if r.getLast? = some '\x7d' then ofHyphenated? r.dropLast else none
  | 'u' :: 'r' :: 'n' :: ':' :: 'u' :: 'u' :: 'i' :: 'd' :: ':' :: r => ofHyphenated? r
  | s => if s.length = 32 then ofDigits? s else ofHyphenated? s

/-- The 32 digits. -/
def digits (u : Uuid) : List Char := Hex.encode (Bytes.ofNat 16 u.bits.toNat)

/-- The hyphenated form. -/
def text (u : Uuid) : String := String.ofList (splitGroups groups u.digits)

end Uuid
end PointExchange
