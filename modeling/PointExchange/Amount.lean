import PointExchange.Address
import PointExchange.Decimal.Numeral
import PointExchange.Text.Space

/-!
# Amounts

An amount is a whole number of the smallest unit, below `2 ^ 256`. Its text is a decimal numeral
with blanks around it at most; a numeral of a larger number is no amount, it is never reduced.
-/

namespace PointExchange

/-- The amount of a text. -/
def amount? (s : String) : Option Word :=
  match Decimal.number? (Text.trim s.toList) with
  | some n => if n < Nat.pow 2 256 then some (BitVec.ofNat 256 n) else none
  | none => none

/-- The text of an amount. -/
def amountText (w : Word) : String := Decimal.text w.toNat

/-- The value of an amount that is read is the value of its digits. -/
theorem toNat_of_amount? {s : String} {w : Word} (h : amount? s = some w) :
    Decimal.number? (Text.trim s.toList) = some w.toNat := by
  unfold amount? at h
  split at h
  next n hn =>
    split at h
    next hlt => rw [hn, ← Option.some.inj h, BitVec.toNat_ofNat, Nat.mod_eq_of_lt hlt]
    next => exact absurd h (by simp)
  next => exact absurd h (by simp)

end PointExchange
