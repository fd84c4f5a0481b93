/-!
# The fewest digits that read back

A finite double is `m * 2 ^ q` with integers `m` and `q`, and stands for every real number that
rounds to it: an interval around it, whose ends belong to it iff `m` is even. `Shortest.ofBits`
finds the fewest decimal digits of a number in that interval, and among those of this length the
nearest. All of it is integer arithmetic on the bits.

## The grid

For a given count of digits the candidates are the two neighbours of the value on the grid of
numbers with that many digits. If any point of the grid lies in the interval, one of these does.
-/

namespace PointExchange.Decimal

/-- Digits `d₁ d₂ … dₙ` and an exponent `k`: the number `d₁.d₂ … dₙ * 10 ^ k`. -/
structure Scientific where
  digits : List Char
  exponent : Int
deriving DecidableEq

/-- The interval of a double, as four times the integers in units of `2 ^ (q - 2)`. -/
structure Interval where
  low : Nat
  mid : Nat
  high : Nat
  closed : Bool
  /-- the exponent of the unit -/
  power : Int

/-- The interval of the finite double with exponent field `e` and fraction `f`. -/
def Interval.ofFields (e f : Nat) : Interval :=
  let m := if e = 0 then f else f + Nat.pow 2 52
  let q : Int := if e = 0 then -1074 else (e : Int) - 1075
  let low := if f = 0 ∧ 1 < e then 4 * m - 1 else 4 * m - 2
  ⟨low, 4 * m, 4 * m + 2, m % 2 == 0, q - 2⟩

/-- A positive rational. -/
structure Ratio where
  num : Nat
  den : Nat

/-- `n * 2 ^ p * 10 ^ t` as a quotient. -/
def scaled (n : Nat) (p t : Int) : Ratio :=
  ⟨n * Nat.pow 2 p.toNat * Nat.pow 10 t.toNat, Nat.pow 2 (-p).toNat * Nat.pow 10 (-t).toNat⟩

/-- How often a quotient below one has to be multiplied by ten to reach one, looked for up to
`limit`. -/
def belowOne (r : Ratio) : Nat → Nat → Nat
  | 0, t => t
  | limit + 1, t => if r.den ≤ r.num * Nat.pow 10 t then t else belowOne r limit (t + 1)

/-- The exponent of the leading digit of a quotient. -/
def leading (r : Ratio) : Int :=
  if r.den ≤ r.num then (Nat.toDigits 10 (r.num / r.den)).length - 1 else -(belowOne r 400 1 : Int)

/-- The grid point `d` lies in the interval, on a grid `10 ^ t` times as fine as the integers. -/
def Interval.holds (i : Interval) (t : Int) (d : Nat) : Bool :=
  let l := scaled i.low i.power t
  let h := scaled i.high i.power t
  if i.closed then l.num ≤ d * l.den && d * h.den ≤ h.num
  else l.num < d * l.den && d * h.den < h.num

/-- The better of the two neighbours of the value on a grid, if one lies in the interval: the
nearer one, and the even one when both are as near. -/
def Interval.onGrid (i : Interval) (t : Int) : Option Nat :=
  let v := scaled i.mid i.power t
  let d := v.num / v.den
  let left := v.num - d * v.den
  let right := (d + 1) * v.den - v.num
  match i.holds t d, i.holds t (d + 1) with
  | true, true =>
    if left < right then some d
    else if right < left then some (d + 1)
    else some (if d % 2 = 0 then d else d + 1)
  | true, false => some d
  | false, true => some (d + 1)
  | false, false => none

/-- Tries grids with one digit more each time; `k` is the exponent of the leading digit. -/
def Interval.search (i : Interval) (k : Int) : Nat → Nat → Nat × Int
  | 0, n => ((i.onGrid (n - 1 - k)).getD 0, n - 1 - k)
  | more + 1, n =>
    match i.onGrid (n - 1 - k) with
    | some d => (d, n - 1 - k)
    | none => i.search k more (n + 1)

/-- A text without the zeros at its end. -/
def dropZeros (s : List Char) : List Char := (s.reverse.dropWhile (· == '0')).reverse

/-- The shortest decimal of the positive double with these fields. -/
def Scientific.ofFields (e f : Nat) : Scientific :=
  let i := Interval.ofFields e f
  let (d, t) := i.search (leading (scaled i.mid i.power 0)) 16 1
  let text := Nat.toDigits 10 d
  ⟨dropZeros text, (text.length : Int) - 1 - t⟩

/-- A point that is chosen on a grid lies in the interval. -/
theorem Interval.holds_of_onGrid {i : Interval} {t : Int} {d : Nat} (h : i.onGrid t = some d) :
    i.holds t d = true := by
  dsimp only [onGrid] at h
  split at h
  next hl hr =>
    split at h
    · simpa [← Option.some.inj h] using hl
    · split at h
      · simpa [← Option.some.inj h] using hr
      · rw [← Option.some.inj h]
        split
        · exact hl
        · exact hr
  next hl _ => simpa [← Option.some.inj h] using hl
  next _ hr => simpa [← Option.some.inj h] using hr
  next => exact absurd h (by simp)

/-! ## Layout -/

/-- How a decimal is laid out. -/
structure Layout where
  /-- the least exponent written positionally -/
  least : Int
  /-- the least exponent that is too large for it -/
  bound : Int

/-- The digits as a positional number with a point. -/
def positional (s : Scientific) : List Char :=
  if s.exponent < 0 then
    '0' :: '.' :: List.replicate ((-s.exponent).toNat - 1) '0' ++ s.digits
  else
    let n := s.exponent.toNat + 1
    let whole := s.digits.take n
    let places := s.digits.drop n
    whole ++ List.replicate (n - whole.length) '0' ++
      '.' :: (if places.isEmpty then ['0'] else places)

/-- The digits with an exponent, whose sign is always written. -/
def exponential (s : Scientific) : List Char :=
  let mantissa := match s.digits with
    | d :: e :: r => d :: '.' :: e :: r
    | ds => ds
  mantissa ++ 'e' :: (if s.exponent < 0 then '-' else '+') :: Nat.toDigits 10 s.exponent.natAbs

/-- The text of the finite double with these bits. -/
def doubleText (layout : Layout) (bits : UInt64) : List Char :=
  let n := bits.toNat
  let sign := if Nat.pow 2 63 ≤ n then ['-'] else []
  let e := n / Nat.pow 2 52 % Nat.pow 2 11
  let f := n % Nat.pow 2 52
  if e = 0 ∧ f = 0 then sign ++ ['0', '.', '0']
  else
    let s := Scientific.ofFields e f
    sign ++ if layout.least ≤ s.exponent ∧ s.exponent < layout.bound then positional s
      else exponential s

end PointExchange.Decimal
