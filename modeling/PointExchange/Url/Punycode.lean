import PointExchange.Text.Split

/-!
# Names of hosts in ASCII

A label with characters beyond ASCII is written as its ASCII characters followed by the places and
values of the others. The others are put in by rising value, each as the difference to the state
before it: a number to base 36 whose digits have thresholds, and the thresholds follow a bias that
adapts to the differences so far.

Writing ends because every step takes one code point off a list, reading because every number
takes at least one digit.
-/

namespace PointExchange.Url.Punycode

/-- The digit of a value below 36: a letter, then a decimal digit. -/
def digit (d : Nat) : Char := if d < 26 then Char.ofNat (97 + d) else Char.ofNat (22 + d)

/-- The value of a lower-case digit. -/
def value? (c : Char) : Option Nat :=
  if c.isLower then some (c.toNat - 97) else if c.isDigit then some (c.toNat - 22) else none

theorem value?_digit {d : Nat} (h : d < 36) : value? (digit d) = some d := by
  have all : ∀ e ∈ List.range 36, value? (digit e) = some e := by decide
  exact all d (List.mem_range.mpr h)

/-- The threshold of a digit, given its weight in steps of 36. -/
def threshold (bias k : Nat) : Nat := min 26 (max 1 (k - bias))

/-- Halves of a difference until it is small, with the steps of 36 that they count for. -/
def shrink (delta k : Nat) : Nat × Nat :=
  if 455 < delta then shrink (delta / 35) (k + 36) else (delta, k)
termination_by delta
decreasing_by exact Nat.div_lt_self (by omega) (by omega)

/-- The bias after a difference; `points` counts the characters that are in place by then. -/
def adapt (delta points : Nat) (first : Bool) : Nat :=
  let start := if first then delta / 700 else delta / 2
  let (d, k) := shrink (start + start / points) 0
  k + 36 * d / (d + 38)

/-- The digits of a difference. -/
def digits (bias k n : Nat) : List Char :=
  let t := threshold bias k
  if n < t then [digit n]
  else digit (t + (n - t) % (36 - t)) :: digits bias (k + 36) ((n - t) / (36 - t))
termination_by n
decreasing_by
  have ht : 1 ≤ threshold bias k := by unfold threshold; omega
  exact Nat.lt_of_le_of_lt (Nat.div_le_self _ _) (by omega)

/-- How far writing a label has come. -/
structure Progress where
  /-- the difference to the last character that was put in -/
  delta : Nat
  bias : Nat
  /-- characters in place -/
  points : Nat
  /-- nothing has been put in yet -/
  first : Bool
  out : List Char

/-- One character of the label, while those of value `m` are put in. -/
def Progress.pass (m : Nat) (p : Progress) (c : Char) : Progress :=
  if c.toNat < m then { p with delta := p.delta + 1 }
  else if c.toNat = m then
    { delta := 0, bias := adapt p.delta (p.points + 1) p.first, points := p.points + 1,
      first := false, out := p.out ++ digits p.bias 36 p.delta }
  else p

/-- Puts in the characters of each value, by rising value. -/
def Progress.fill (label : List Char) : List Nat → Nat → Progress → Progress
  | [], _, p => p
  | m :: rest, next, p =>
    let p := label.foldl (pass m) { p with delta := p.delta + (m - next) * (p.points + 1) }
    fill label rest (m + 1) { p with delta := p.delta + 1 }

/-- The values beyond ASCII in a label, rising, each once. -/
def values (label : List Char) : List Nat :=
  let beyond := (label.map Char.toNat).filter (128 ≤ ·)
  (beyond.mergeSort (· ≤ ·)).foldr
    (fun m rest => if rest.head? = some m then rest else m :: rest) []

/-- The written form of a label. -/
def encode (label : List Char) : List Char :=
  let ascii := label.filter (·.toNat < 128)
  let start := if ascii.isEmpty then [] else ascii ++ ['-']
  (Progress.fill label (values label) 128
    { delta := 0, bias := 72, points := ascii.length, first := true, out := start }).out

/-- Reads one difference; `k` and `weight` belong to its first digit. -/
def readDelta (bias : Nat) : Nat → Nat → List Char → Option (Nat × List Char)
  | _, _, [] => none
  | k, weight, c :: r => do
    let d ← value? c
    if d < threshold bias k then return (d * weight, r)
    let (rest, r) ← readDelta bias (k + 36) (weight * (36 - threshold bias k)) r
    return (d * weight + rest, r)

theorem length_readDelta {bias k weight n : Nat} {s r : List Char}
    (h : readDelta bias k weight s = some (n, r)) : r.length < s.length := by
  induction s generalizing k weight n r with
  | nil => simp [readDelta] at h
  | cons c t ih =>
    rw [readDelta] at h
    cases hv : value? c with
    | none => simp [hv] at h
    | some d =>
      by_cases hd : d < threshold bias k
      · simp [hv, hd] at h
        simp [← h.2]
      · cases hr : readDelta bias (k + 36) (weight * (36 - threshold bias k)) t with
        | none => simp [hv, hd, hr] at h
        | some p =>
          simp [hv, hd, hr] at h
          have := ih (n := p.1) (r := p.2) (by rw [hr])
          simp only [List.length_cons, ← h.2]
          omega

/-- Puts in the characters whose differences are in `s`. -/
def readFrom (value place bias : Nat) (first : Bool) (out s : List Char) : Option (List Char) :=
  if s.isEmpty then some out
  else
    match _h : readDelta bias 36 1 s with
    | none => none
    | some (delta, r) =>
      let points := out.length + 1
      let value := value + (place + delta) / points
      let place := (place + delta) % points
      if value.isValidChar then
        readFrom value (place + 1) (adapt delta points first) false
          (out.take place ++ Char.ofNat value :: out.drop place) r
      else none
termination_by s.length
decreasing_by exact length_readDelta _h

/-- The label of a written form. -/
def decode? (s : List Char) : Option (List Char) :=
  let (tail, ascii) := (s.reverse.takeWhile (· != '-'), (s.reverse.dropWhile (· != '-')).tail)
  readFrom 128 0 72 true ascii.reverse tail.reverse

end PointExchange.Url.Punycode
