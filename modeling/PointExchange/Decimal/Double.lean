import PointExchange.Decimal.Numeral

/-!
# Reading a double

A decimal is read in two parts. Its digits give a significand of at most 64 bits and a power of
ten: once another digit would overflow, the remaining digits before the point only raise the
power and those behind it are dropped. The double is then one product or quotient of the
significand and a power of ten, so it may differ in its last bit from the nearest double when the
digits are many; with up to fifteen digits and a small power it never does.

`Literal.overflows` is exact: it tells whether the double nearest to a decimal is infinite.
-/

namespace PointExchange.Decimal

/-- A decimal as it is written: digits before the point, digits behind it, and the power of ten. -/
structure Literal where
  negative : Bool
  whole : List Char
  places : List Char
  powerNegative : Bool
  power : List Char

/-- Takes digits into a significand while it stays below `2 ^ 64`; also tells how many. -/
def absorb : List Char → Nat → Nat → Nat × Nat
  | [], n, k => (n, k)
  | c :: r, n, k =>
    let m := n * 10 + digitValue c
    if m < UInt64.size then absorb r m (k + 1) else (n, k)

/-- The double of a significand times a power of ten, `none` above the largest double. -/
def scale (x : Float) (e : Int) : Option Float :=
  if 0 ≤ e then
    if e ≤ 308 then
      let y := x * Float.ofScientific 1 false e.toNat
      if y.isInf then none else some y
    else if x == 0 then some x else none
  else if -308 ≤ e then some (x / Float.ofScientific 1 false (-e).toNat)
  else if x == 0 then some x
  else scale (x / Float.ofScientific 1 false 308) (e + 308)
termination_by (-e).toNat
decreasing_by omega

/-- Restricts a number to the range of 32 bits with sign. -/
def clamp (e : Int) : Int := max (-2147483648) (min 2147483647 e)

/-- The double of a literal without regard to its sign. -/
def Literal.magnitude? (l : Literal) : Option Float :=
  let (n, k) := absorb l.whole 0 0
  let (n, j) := absorb l.places n 0
  let before : Int := (l.whole.length - k : Nat) - (j : Int)
  let power := value l.power
  if 2147483648 ≤ power then
    if n ≠ 0 ∧ !l.powerNegative then none else some 0
  else
    let e := if l.powerNegative then before - power else before + power
    scale n.toUInt64.toFloat (clamp e)

/-- The bits of the double of a literal, `none` if it is out of range. -/
def Literal.bits? (l : Literal) : Option UInt64 :=
  l.magnitude?.map fun x => (if l.negative then -x else x).toBits

/-- The least magnitude whose nearest double is infinite, half a step above the largest double. -/
def overflow : Nat := (Nat.pow 2 54 - 1) * Nat.pow 2 970

/-- The nearest double of a literal's magnitude is infinite. Only a number with as many digits as
the limit has to be compared with it. -/
def Literal.overflows (l : Literal) : Bool :=
  let digits := (l.whole ++ l.places).dropWhile (· == '0')
  let power : Int := if l.powerNegative then -(value l.power : Int) else value l.power
  let shift := power - l.places.length
  let size := digits.length + shift
  if digits.isEmpty || size < 309 then false
  else if 309 < size then true
  else overflow * Nat.pow 10 (-shift).toNat ≤ value digits * Nat.pow 10 shift.toNat

/-- Zero overflows at no power. -/
theorem overflows_zero (negative powerNegative : Bool) (power : List Char) :
    Literal.overflows ⟨negative, ['0'], [], powerNegative, power⟩ = false := rfl

end PointExchange.Decimal
