import PointExchange.Bytes
import PointExchange.Hex

/-!
# Percent-encoding

A character that a part of a URL may not hold is written as its octets in UTF-8, each as a percent
sign and two digits. Which characters these are differs from part to part. The sets below grow
from one another, and each of them has all characters beyond ASCII.
-/

namespace PointExchange.Url

/-- Controls, and all beyond ASCII. -/
def isControl (c : Char) : Bool := c.toNat < 0x20 || 0x7E < c.toNat

/-- Characters that a fragment may not hold. -/
def isOutsideFragment (c : Char) : Bool := isControl c || " \"<>`".toList.contains c

/-- Characters that a query may not hold; an apostrophe only counts in some schemes. -/
def isOutsideQuery (apostrophe : Bool) (c : Char) : Bool :=
  isControl c || " \"#<>".toList.contains c || (apostrophe && c == '\x27')

/-- Characters that a segment of a path may not hold. -/
def isOutsidePath (c : Char) : Bool := isOutsideFragment c || "#?\x7b\x7d".toList.contains c

/-- Characters that a user name or a password may not hold. -/
def isOutsideUserInfo (c : Char) : Bool := isOutsidePath c || "/:;=@[\\]^|".toList.contains c

/-- An octet behind a percent sign. -/
def percentOctet (b : UInt8) : List Char :=
  ['%', (Hex.digit (b.toNat / 16)).toUpper, (Hex.digit (b.toNat % 16)).toUpper]

/-- A text in which the characters of a set are encoded. -/
def percentEncode (isOutside : Char → Bool) (s : List Char) : List Char :=
  s.flatMap fun c =>
    if isOutside c then (Bytes.ofText (String.singleton c)).flatMap percentOctet else [c]

/-- The octet of a percent sign. -/
def isPercent (b : UInt8) : Bool := b == 0x25

/-- The octets of a text whose percent signs with two digits stand for single octets. -/
def percentDecode : Bytes → Bytes
  | [] => []
  | b :: high :: low :: r =>
    match isPercent b, Hex.value? (Char.ofUInt8 high), Hex.value? (Char.ofUInt8 low) with
    | true, some h, some l => UInt8.ofNat (h * 16 + l) :: percentDecode r
    | _, _, _ => b :: percentDecode (high :: low :: r)
  | b :: r => b :: percentDecode r

/-- A text without characters of the set stays as it is. -/
theorem percentEncode_eq_self {isOutside : Char → Bool} {s : List Char}
    (h : ∀ c ∈ s, isOutside c = false) : percentEncode isOutside s = s := by
  induction s with
  | nil => rfl
  | cons c r ih =>
    have hc : isOutside c = false := h c List.mem_cons_self
    have hr := ih fun x hx => h x (List.mem_cons_of_mem _ hx)
    simpa [percentEncode, hc] using hr

/-- An encoded octet is read back. -/
theorem percentDecode_percentOctet (b : UInt8) (r : Bytes) :
    percentDecode ((percentOctet b).map (fun c => UInt8.ofNat c.toNat) ++ r) =
      b :: percentDecode r := by
  have read : ∀ n ∈ List.range 16,
      Hex.value? (Char.ofUInt8 (UInt8.ofNat (Hex.digit n).toUpper.toNat)) = some n := by decide
  have hb : b.toNat < 256 := b.toNat_lt
  have hh := read (b.toNat / 16) (List.mem_range.mpr (by omega))
  have hl := read (b.toNat % 16) (List.mem_range.mpr (by omega))
  have hp : isPercent (UInt8.ofNat ('%').toNat) = true := by decide
  simp only [percentOctet, List.map_cons, List.map_nil, List.cons_append, List.nil_append]
  rw [percentDecode]
  simp only [hh, hl, hp]
  rw [show b.toNat / 16 * 16 + b.toNat % 16 = b.toNat by omega, UInt8.ofNat_toNat]

end PointExchange.Url
