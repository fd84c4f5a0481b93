/-!
# Byte strings

Payloads, call data and signatures are finite strings of octets. They are lists here, so that a
statement about one is a statement about its elements.

A number is written with its most significant octet first. `Bytes.ofNat` writes a fixed number of
octets and `Bytes.toNat` reads them back; `Bytes.ofNatMinimal` writes as few as the number needs.

A text is written in UTF-8. `Bytes.toChars?` reads one character after another, each from the octets
in front, and succeeds only on what is the UTF-8 of some characters (`toChars?_eq_some_iff`).
-/

namespace PointExchange

/-- A byte string, first octet first. -/
abbrev Bytes := List UInt8

namespace Bytes

/-- The number that a byte string spells, most significant octet first. -/
def toNat (b : Bytes) : Nat := b.foldl (fun n d => n * 256 + d.toNat) 0

/-- The last `width` octets of a number, most significant first. -/
def ofNat : Nat → Nat → Bytes
  | 0, _ => []
  | w + 1, n => UInt8.ofNat (n / Nat.pow 256 w) :: ofNat w n

/-- The octets of a number without a leading zero; zero has none. -/
def ofNatMinimal (n : Nat) : Bytes :=
  if n = 0 then [] else ofNatMinimal (n / 256) ++ [UInt8.ofNat n]
termination_by n
decreasing_by exact Nat.div_lt_self (by omega) (by omega)

/-- The octets of a text in UTF-8. -/
def ofText (s : String) : Bytes := s.toUTF8.data.toList

/-- The characters that a byte string encodes in UTF-8 after its first `k` octets, if it is well
formed there. A character has four octets at most. -/
def charsFrom? : Nat → Bytes → Option (List Char)
  | _, [] => some []
  | k + 1, _ :: r => charsFrom? k r
  | 0, d :: r =>
    match (d :: r.take 3).toByteArray.utf8DecodeChar? 0 with
    | some c => (charsFrom? (c.utf8Size - 1) r).map (c :: ·)
    | none => none

/-- The characters that a byte string encodes in UTF-8, if it is well formed. -/
def toChars? (b : Bytes) : Option (List Char) := charsFrom? 0 b

@[simp] theorem length_ofNat (w n : Nat) : (ofNat w n).length = w := by
  induction w with
  | zero => rfl
  | succ w ih => simp [ofNat, ih]

/-- Reading a string after a number `a` shifts `a` by the string's length. -/
theorem foldl_digits (b : Bytes) (a : Nat) :
    b.foldl (fun n d => n * 256 + d.toNat) a = a * Nat.pow 256 b.length + toNat b := by
  induction b generalizing a with
  | nil => simp [toNat]
  | cons d r ih =>
    simp only [Nat.pow_eq] at ih
    simp only [List.foldl_cons, toNat, List.length_cons, Nat.pow_eq]
    rw [ih, ih (0 * 256 + d.toNat), Nat.pow_succ]
    simp only [Nat.zero_mul, Nat.zero_add, Nat.add_mul, Nat.mul_assoc, Nat.mul_comm 256]
    omega

theorem toNat_cons (d : UInt8) (r : Bytes) :
    toNat (d :: r) = d.toNat * Nat.pow 256 r.length + toNat r := by
  show List.foldl _ (0 * 256 + d.toNat) r = _
  rw [foldl_digits]
  simp

/-- **A number that fits is read back from its octets.** -/
theorem toNat_ofNat (w n : Nat) : toNat (ofNat w n) = n % Nat.pow 256 w := by
  induction w with
  | zero => simp [ofNat, toNat, Nat.mod_one]
  | succ w ih =>
    rw [ofNat, toNat_cons, ih, length_ofNat]
    simp only [Nat.pow_eq]
    have hd : (UInt8.ofNat (n / 256 ^ w)).toNat = n / 256 ^ w % 256 := rfl
    rw [hd, Nat.pow_succ, Nat.mod_mul, Nat.mul_comm, Nat.add_comm]

/-! ## Characters -/

theorem charsFrom?_eq_drop (k : Nat) (b : Bytes) : charsFrom? k b = toChars? (b.drop k) := by
  induction b generalizing k with
  | nil => cases k <;> rfl
  | cons d r ih =>
    cases k with
    | zero => rfl
    | succ k => exact ih k

/-- A byte string begins with a character if it begins with the octets of it, and only then. -/
theorem utf8DecodeChar?_eq_some_iff {b : Bytes} {c : Char} :
    (b.take 4).toByteArray.utf8DecodeChar? 0 = some c ↔ ∃ r, b = String.utf8EncodeChar c ++ r := by
  constructor
  · intro h
    obtain ⟨l, hl⟩ := ByteArray.exists_of_utf8DecodeChar?_eq_some h
    refine ⟨l.data.toList ++ b.drop 4, ?_⟩
    have htake := congrArg (fun a => a.data.toList) hl
    simp only [List.toList_data_toByteArray, ByteArray.toList_data_append] at htake
    rw [← List.append_assoc, ← htake, List.take_append_drop]
  · rintro ⟨r, rfl⟩
    have hlen : (String.utf8EncodeChar c).length ≤ 4 := by
      rw [String.length_utf8EncodeChar]
      exact c.utf8Size_le_four
    rw [List.take_append, List.take_of_length_le hlen, List.toByteArray_append,
      ByteArray.utf8DecodeChar?_utf8EncodeChar_append]

/-- A character in front is read first. -/
theorem toChars?_append (c : Char) (r : Bytes) :
    toChars? (String.utf8EncodeChar c ++ r) = (toChars? r).map (c :: ·) := by
  have hdecode := utf8DecodeChar?_eq_some_iff.mpr ⟨r, (rfl : String.utf8EncodeChar c ++ r = _)⟩
  have hlen := String.length_utf8EncodeChar c
  cases he : String.utf8EncodeChar c with
  | nil => exact absurd he String.utf8EncodeChar_ne_nil
  | cons d e =>
    rw [he] at hdecode hlen
    rw [List.cons_append, List.take_succ_cons] at hdecode
    have hdrop : (e ++ r).drop (c.utf8Size - 1) = r := by
      rw [← hlen, List.length_cons, Nat.add_sub_cancel, List.drop_left]
    show charsFrom? 0 (d :: (e ++ r)) = _
    rw [charsFrom?, hdecode]
    simp only [charsFrom?_eq_drop, hdrop]

/-- **The characters of a byte string are those whose octets it consists of.** -/
theorem toChars?_eq_some_iff {b : Bytes} {cs : List Char} :
    toChars? b = some cs ↔ b = cs.flatMap String.utf8EncodeChar := by
  constructor
  · intro h
    match b with
    | [] =>
      obtain rfl : [] = cs := Option.some.inj h
      rfl
    | d :: r =>
      cases hc : (d :: r.take 3).toByteArray.utf8DecodeChar? 0 with
      | none => simp [toChars?, charsFrom?, hc] at h
      | some c =>
        have hc' : ((d :: r).take 4).toByteArray.utf8DecodeChar? 0 = some c := hc
        obtain ⟨r', hr⟩ := utf8DecodeChar?_eq_some_iff.mp hc'
        rw [hr, toChars?_append] at h
        obtain ⟨cs', hcs, rfl⟩ := Option.map_eq_some_iff.mp h
        rw [hr, List.flatMap_cons, ← toChars?_eq_some_iff.mp hcs]
  · rintro rfl
    induction cs with
    | nil => rfl
    | cons c cs ih => rw [List.flatMap_cons, toChars?_append, ih, Option.map_some]
termination_by b.length
decreasing_by
  have hlen := congrArg List.length hr
  rw [List.length_append, String.length_utf8EncodeChar] at hlen
  have hpos := c.utf8Size_pos
  omega

/-- **A text is read back from its octets.** -/
theorem toChars?_ofText (s : String) : toChars? (ofText s) = some s.toList := by
  have h : s.toUTF8.data.toList = s.toList.utf8Encode.data.toList := by simp
  rw [toChars?_eq_some_iff, ofText, h, List.utf8Encode, List.toList_data_toByteArray]

end Bytes
end PointExchange
