import PointExchange.Decimal.Numeral
import PointExchange.Url.Domain
import PointExchange.Url.Percent

/-!
# Hosts of URLs

A host is a name or a number. Numbers come in four parts of which the last may stand for several,
to any of three bases, or in brackets as eight groups, of which one run of zeros may be left out.
Each number has one written form.
-/

namespace PointExchange.Url

/-- A host. -/
inductive Host
  /-- a name; the empty one is the host of a URL that has none -/
  | name (text : String)
  | ipv4 (bits : BitVec 32)
  | ipv6 (bits : BitVec 128)
deriving DecidableEq

/-- The number of a part, to base sixteen behind `0x`, to base eight behind `0`, else to ten. -/
def ipv4Part? : List Char → Option Nat
  | [] => none
  | ['0', 'x'] | ['0', 'X'] => some 0
  | '0' :: 'x' :: r | '0' :: 'X' :: r => Hex.number? r
  | '0' :: c :: r =>
    if (c :: r).all fun d => '0' ≤ d && d ≤ '7' then
      some ((c :: r).foldl (fun n d => n * 8 + (d.toNat - 48)) 0)
    else none
  | s => Decimal.number? s

/-- The parts of a name, without the empty one behind a full stop at its end. -/
def ipv4Parts (name : List Char) : List (List Char) :=
  let parts := Text.split (· == '.') name
  if 1 < parts.length && parts.getLast? == some [] then parts.dropLast else parts

/-- Whether a name is a number: its last part decides. -/
def endsInNumber (name : List Char) : Bool :=
  match (ipv4Parts name).getLast? with
  | none => false
  | some part => (!part.isEmpty && part.all Decimal.isDigit) || (ipv4Part? part).isSome

/-- All parts but the last are octets; the last one fills up what is left. -/
def ipv4OfParts? : List Nat → Nat → Option Nat
  | [], _ => none
  | [last], width => if last < Nat.pow 256 width then some last else none
  | part :: rest, width => do
    if 255 < part || width ≤ 1 then none
    else return part * Nat.pow 256 (width - 1) + (← ipv4OfParts? rest (width - 1))

/-- The host that a name made of numbers stands for. -/
def ipv4? (name : List Char) : Option Host := do
  let parts ← (ipv4Parts name).mapM ipv4Part?
  if 4 < parts.length then none
  else return .ipv4 (BitVec.ofNat 32 (← ipv4OfParts? parts 4))

/-- A decimal octet without a leading zero. -/
def plainOctet? (s : List Char) : Option Nat :=
  match s with
  | '0' :: _ :: _ => none
  | s => (Decimal.number? s).filter (· < 256)

/-- The two groups that four decimal octets stand for. -/
def mappedGroups? (s : List Char) : Option (List Nat) := do
  let octets ← (Text.split (· == '.') s).mapM plainOctet?
  match octets with
  | [a, b, c, d] => some [a * 256 + b, c * 256 + d]
  | _ => none

/-- The groups between colons; behind the last colon there may be four octets. -/
def groups? : List (List Char) → Option (List Nat)
  | [] => some []
  | [last] =>
    if last.contains '.' then mappedGroups? last
    else if last.isEmpty || 4 < last.length then none
    else (Hex.number? last).map ([·])
  | group :: rest => do
    if group.isEmpty || 4 < group.length then none
    else return (← Hex.number? group) :: (← groups? rest)

/-- The groups of a text without a left-out run. -/
def groupsOf? (s : List Char) : Option (List Nat) :=
  if s.isEmpty then some [] else groups? (Text.split (· == ':') s)

/-- The texts before and after the first double colon, if there is one. -/
def splitAtGap : List Char → Option (List Char × List Char)
  | ':' :: ':' :: r => some ([], r)
  | c :: r => (splitAtGap r).map fun (before, after) => (c :: before, after)
  | [] => none

/-- The eight groups of a text between brackets. -/
def ipv6Groups? (s : List Char) : Option (List Nat) :=
  match splitAtGap s with
  | none => (groups? (Text.split (· == ':') s)).filter (·.length = 8)
  | some (before, after) => do
    if before.contains '.' then none
    let before ← groupsOf? before
    let after ← groupsOf? after
    let known := before.length + after.length
    if 7 < known then none
    else return before ++ List.replicate (8 - known) 0 ++ after

/-- The host between brackets. -/
def ipv6? (s : List Char) : Option Host :=
  (ipv6Groups? s).map fun groups =>
    .ipv6 (BitVec.ofNat 128 (groups.foldl (fun n g => n * 65536 + g) 0))

/-- The text between brackets, if they enclose all of it. -/
def bracketed? (s : List Char) : Option (List Char) :=
  if s.getLast? = some ']' then some (s.drop 1).dropLast else none

/-- The host that a text stands for in a scheme with hosts of the network. -/
def Host.ofNetworkText? (s : List Char) : Option Host := do
  if s.head? = some '[' then ipv6? (← bracketed? s)
  else
    let decoded ← (percentDecode (Bytes.ofText (String.ofList s))).toChars?
    let name ← domainToAscii? decoded
    if name.isEmpty then none
    else if endsInNumber name then ipv4? name
    else return .name (String.ofList name)

/-- A character that no name of a host has. -/
def isForbiddenInHost (c : Char) : Bool := "\u0000\t\n\r #/:<>?@[\\]^|".toList.contains c

/-- The host that a text stands for in any other scheme. -/
def Host.ofText? (s : List Char) : Option Host := do
  if s.head? = some '[' then ipv6? (← bracketed? s)
  else if s.any isForbiddenInHost then none
  else return .name (String.ofList (percentEncode isControl s))

/-- The groups of a number, the highest first. -/
def ipv6Groups (bits : BitVec 128) : List Nat :=
  (List.range 8).map fun i => bits.toNat / Nat.pow 65536 (7 - i) % 65536

/-- The length of the run of zeros at the front. -/
def zeroRun (groups : List Nat) : Nat := (groups.takeWhile (· == 0)).length

/-- The place and the length of the first of the longest runs of zeros. -/
def longestZeros : List Nat → Nat → Nat × Nat
  | [], place => (place, 0)
  | g :: rest, place =>
    let here := zeroRun (g :: rest)
    let later := longestZeros rest (place + 1)
    if later.2 ≤ here then (place, here) else later

/-- Groups with colons between them. -/
def groupsText (groups : List Nat) : List Char := Text.join ':' (groups.map Hex.ofNat)

/-- The written form of a number in brackets: the longest run of two or more zeros is left out. -/
def ipv6Text (groups : List Nat) : List Char :=
  let (place, length) := longestZeros groups 0
  if length < 2 then groupsText groups
  else groupsText (groups.take place) ++ "::".toList ++ groupsText (groups.drop (place + length))

/-- The written form of a host. -/
def Host.text : Host → List Char
  | .name text => text.toList
  | .ipv4 bits =>
    Text.join '.' ((List.range 4).map fun i =>
      (Decimal.text (bits.toNat / Nat.pow 256 (3 - i) % 256)).toList)
  | .ipv6 bits => '[' :: ipv6Text (ipv6Groups bits) ++ [']']

/-- A run is no longer than the number has groups. -/
theorem longestZeros_le (groups : List Nat) (place : Nat) :
    (longestZeros groups place).2 ≤ groups.length := by
  induction groups generalizing place with
  | nil => simp [longestZeros]
  | cons g rest ih =>
    rw [longestZeros]
    have hz : zeroRun (g :: rest) ≤ (g :: rest).length := (List.takeWhile_sublist _).length_le
    split
    · exact hz
    · exact Nat.le_succ_of_le (ih (place + 1))

end PointExchange.Url
