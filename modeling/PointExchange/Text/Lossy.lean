import PointExchange.Bytes

/-!
# Octets shown as text

Octets that are meant as UTF-8 but are not well formed still have to be shown. Each longest stretch
that begins a character without ending it is shown as one replacement character.
-/

namespace PointExchange.Text

/-- What an octet at the front of a character says: the range of the second octet, how many octets
follow, and its own part of the value. -/
structure Lead where
  low : UInt8
  high : UInt8
  following : Nat
  value : Nat

/-- An octet as the first of a character. -/
def Lead.of? (b : UInt8) : Option Lead :=
  if b < 0x80 then some ⟨0, 0, 0, b.toNat⟩
  else if b < 0xC2 then none
  else if b < 0xE0 then some ⟨0x80, 0xBF, 1, b.toNat - 0xC0⟩
  else if b = 0xE0 then some ⟨0xA0, 0xBF, 2, 0⟩
  else if b = 0xED then some ⟨0x80, 0x9F, 2, 0xD⟩
  else if b < 0xF0 then some ⟨0x80, 0xBF, 2, b.toNat - 0xE0⟩
  else if b = 0xF0 then some ⟨0x90, 0xBF, 3, 0⟩
  else if b < 0xF4 then some ⟨0x80, 0xBF, 3, b.toNat - 0xF0⟩
  else if b = 0xF4 then some ⟨0x80, 0x8F, 3, 4⟩
  else none

/-- The octets that follow, as long as they fit; the value is `none` if one is missing. -/
def following (low high : UInt8) : Nat → Nat → Bytes → Option Nat × Bytes
  | 0, value, r => (some value, r)
  | _ + 1, _, [] => (none, [])
  | n + 1, value, b :: r =>
    if low ≤ b && b ≤ high then following 0x80 0xBF n (value * 64 + (b.toNat - 0x80)) r
    else (none, b :: r)

theorem length_following_le (low high : UInt8) (n value : Nat) (r : Bytes) :
    (following low high n value r).2.length ≤ r.length := by
  induction n generalizing low high value r with
  | zero => simp [following]
  | succ n ih =>
    cases r with
    | nil => simp [following]
    | cons b r =>
      rw [following]
      split
      · exact Nat.le_succ_of_le (ih 0x80 0xBF _ r)
      · exact Nat.le_refl _

/-- The first character of a byte string, `none` if the octets there make none, and what follows. -/
def firstChar (b : UInt8) (r : Bytes) : Option Char × Bytes :=
  match Lead.of? b with
  | none => (none, r)
  | some l =>
    let (value, r) := following l.low l.high l.following l.value r
    (value.map Char.ofNat, r)

theorem length_firstChar_le (b : UInt8) (r : Bytes) : (firstChar b r).2.length ≤ r.length := by
  unfold firstChar
  split
  · exact Nat.le_refl _
  next l _ => exact length_following_le l.low l.high l.following l.value r

/-- The characters of a byte string, with replacements. -/
def lossy : Bytes → List Char
  | [] => []
  | b :: r => (firstChar b r).1.getD '\ufffd' :: lossy (firstChar b r).2
termination_by s => s.length
decreasing_by exact Nat.lt_succ_of_le (length_firstChar_le b r)

/-- The characters of a byte string up to the first octets that make none. -/
def wellFormedFront : Bytes → List Char
  | [] => []
  | b :: r =>
    match (firstChar b r).1 with
    | none => []
    | some c => c :: wellFormedFront (firstChar b r).2
termination_by s => s.length
decreasing_by exact Nat.lt_succ_of_le (length_firstChar_le b r)

end PointExchange.Text
