/-!
# Decimal numerals

A numeral is a string of one or more ASCII digits; leading zeros are allowed and a sign is not.
-/

namespace PointExchange.Decimal

/-- An ASCII digit. -/
def isDigit (c : Char) : Bool := 48 ≤ c.toNat && c.toNat ≤ 57

/-- The value of a digit. -/
def digitValue (c : Char) : Nat := c.toNat - 48

/-- The number that a digit string spells. -/
def value (s : List Char) : Nat := s.foldl (fun n c => n * 10 + digitValue c) 0

/-- The number of a numeral, `none` for any other text. -/
def number? (s : List Char) : Option Nat :=
  if !s.isEmpty && s.all isDigit then some (value s) else none

/-- The written form of a number, without leading zeros. -/
def text (n : Nat) : String := String.ofList (Nat.toDigits 10 n)

/-- Digits after a number `a` shift it to the left. -/
theorem foldl_digits (s : List Char) (a : Nat) :
    s.foldl (fun n c => n * 10 + digitValue c) a = a * Nat.pow 10 s.length + value s := by
  induction s generalizing a with
  | nil => simp [value]
  | cons c r ih =>
    simp only [Nat.pow_eq] at ih
    simp only [List.foldl_cons, value, List.length_cons, Nat.pow_eq]
    rw [ih, ih (0 * 10 + digitValue c), Nat.pow_succ]
    simp only [Nat.zero_mul, Nat.zero_add, Nat.add_mul, Nat.mul_assoc, Nat.mul_comm 10]
    omega

theorem value_cons (c : Char) (r : List Char) :
    value (c :: r) = digitValue c * Nat.pow 10 r.length + value r := by
  show List.foldl _ (0 * 10 + digitValue c) r = _
  rw [foldl_digits]
  simp

/-- A leading zero does not change the number. -/
theorem value_zero_cons (r : List Char) : value ('0' :: r) = value r := by
  simp [value_cons, digitValue]

end PointExchange.Decimal
