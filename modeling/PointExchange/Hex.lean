import PointExchange.Bytes

/-!
# Hexadecimal text

Bytes are written as two lower-case digits each, behind the mark `0x`. Readers take digits of
either case and do not ask for the mark.
-/

namespace PointExchange.Hex

/-- The lower-case digit of a value below sixteen. -/
def digit (n : Nat) : Char :=
  if n < 10 then Char.ofNat (48 + n) else Char.ofNat (87 + n)

/-- The value of a digit of either case. -/
def value? (c : Char) : Option Nat :=
  let n := c.toNat
  if 48 ≤ n && n ≤ 57 then some (n - 48)
  else if 97 ≤ n && n ≤ 102 then some (n - 87)
  else if 65 ≤ n && n ≤ 70 then some (n - 55)
  else none

theorem value?_digit {n : Nat} (h : n < 16) : value? (digit n) = some n := by
  have all : ∀ m ∈ List.range 16, value? (digit m) = some m := by decide
  exact all n (List.mem_range.mpr h)

/-- Two digits for each octet. -/
def encode : Bytes → List Char
  | [] => []
  | b :: r => digit (b.toNat / 16) :: digit (b.toNat % 16) :: encode r

/-- Reads pairs of digits; an odd digit at the end is refused. -/
def decode : List Char → Option Bytes
  | [] => some []
  | [_] => none
  | c :: d :: r => do
    let high ← value? c
    let low ← value? d
    let rest ← decode r
    return UInt8.ofNat (high * 16 + low) :: rest

/-- **Bytes are read back from their digits.** -/
theorem decode_encode (b : Bytes) : decode (encode b) = some b := by
  induction b with
  | nil => rfl
  | cons d r ih =>
    have hlt : d.toNat < 256 := d.toNat_lt
    have hh : value? (digit (d.toNat / 16)) = some (d.toNat / 16) := value?_digit (by omega)
    have hl : value? (digit (d.toNat % 16)) = some (d.toNat % 16) := value?_digit (by omega)
    have hd : d.toNat / 16 * 16 + d.toNat % 16 = d.toNat := by omega
    simp only [encode, decode, hh, hl, ih, hd, Option.bind_eq_bind, Option.bind_some]
    rw [UInt8.ofNat_toNat]
    rfl

/-- Takes off one mark `0x` or `0X`, if there is one. -/
def unmarked : List Char → List Char
  | '0' :: 'x' :: r => r
  | '0' :: 'X' :: r => r
  | s => s

/-- Bytes written with or without the mark. -/
def read? (s : List Char) : Option Bytes := decode (unmarked s)

/-- The written form of a byte string. -/
def text (b : Bytes) : String := String.ofList ('0' :: 'x' :: encode b)

/-- The value of a digit string, `none` if one character is no digit. -/
def number? (s : List Char) : Option Nat :=
  s.foldl (fun acc c => do
    let n ← acc
    let d ← value? c
    return n * 16 + d) (some 0)

/-- The digits of a number, at least one and no leading zero. -/
def ofNat (n : Nat) : List Char := Nat.toDigits 16 n

theorem read?_text (b : Bytes) : read? (text b).toList = some b := by
  simp [read?, text, unmarked, decode_encode]

end PointExchange.Hex
