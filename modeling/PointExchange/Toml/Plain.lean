import PointExchange.Decimal.Double
import PointExchange.Toml.Basic

/-!
# Values of TOML without quotes or brackets

Truth values, integers of 64 bits, numbers with a fraction or an exponent, dates and times. Such a
value is a run of certain characters; only between a date and a time there may be a blank.
-/

namespace PointExchange.Toml

/-- A character of a plain value. -/
def isPlain (c : Char) : Bool :=
  c.isAlphanum || c == '+' || c == '-' || c == '_' || c == '.' || c == ':'

/-- Digits with single underscores between them, if there are some. -/
def ungroup (isDigit : Char → Bool) : List Char → Option (List Char)
  | [] => none
  | [c] => if isDigit c then some [c] else none
  | c :: '_' :: r => if isDigit c then (ungroup isDigit r).map (c :: ·) else none
  | c :: r => if isDigit c then (ungroup isDigit r).map (c :: ·) else none

/-- The value of a digit in a base up to sixteen. -/
def digitOf (c : Char) : Nat :=
  if c.isDigit then c.toNat - 48 else if c.isLower then c.toNat - 87 else c.toNat - 55

/-- The number that digits write in a base. -/
def numberIn (base : Nat) (digits : List Char) : Nat :=
  digits.foldl (fun n c => n * base + digitOf c) 0

/-- A digit of a base. -/
def isDigitOf (base : Nat) (c : Char) : Bool :=
  (c.isDigit || ('a' ≤ c && c ≤ 'f') || ('A' ≤ c && c ≤ 'F')) && digitOf c < base

/-- Splits off a sign. -/
def splitSign : List Char → Bool × List Char
  | '-' :: r => (true, r)
  | '+' :: r => (false, r)
  | s => (false, s)

/-- The digits of a number without superfluous zeros in front. -/
def wholeDigits? (s : List Char) : Option (List Char) :=
  match ungroup Char.isDigit s with
  | some ['0'] => if s.length = 1 then some ['0'] else none
  | some ('0' :: _) => none
  | r => r

/-- An integer of 64 bits. -/
def inRange? (i : Int) : Option Int :=
  if Int64.minValue.toInt ≤ i ∧ i ≤ Int64.maxValue.toInt then some i else none

/-- An integer behind the mark of a base. -/
def based? (base : Nat) (s : List Char) : Option Int :=
  (ungroup (isDigitOf base) s).bind fun ds => inRange? (numberIn base ds)

def integer? : List Char → Option Int
  | '0' :: 'x' :: r => based? 16 r
  | '0' :: 'o' :: r => based? 8 r
  | '0' :: 'b' :: r => based? 2 r
  | s =>
    let (negative, r) := splitSign s
    (wholeDigits? r).bind fun ds =>
      let n : Int := numberIn 10 ds
      inRange? (if negative then -n else n)

/-- A letter in front of an exponent. -/
def isExponentMark (c : Char) : Bool := c == 'e' || c == 'E'

/-- The sign and the digits of an exponent behind its letter, or of none. -/
def exponent? : List Char → Option (Bool × List Char)
  | [] => some (false, [])
  | _ :: r => (ungroup Char.isDigit (splitSign r).2).map fun ds => ((splitSign r).1, ds)

/-- A number with a fraction or an exponent. -/
def fraction? (s : List Char) : Option Decimal.Literal := do
  let (negative, r) := splitSign s
  let whole ← wholeDigits? (r.takeWhile fun c => !isExponentMark c && c != '.')
  match r.dropWhile fun c => !isExponentMark c && c != '.' with
  | [] => none
  | '.' :: t =>
    let places ← ungroup Char.isDigit (t.takeWhile fun c => !isExponentMark c)
    let (powerNegative, power) ← exponent? (t.dropWhile fun c => !isExponentMark c)
    return ⟨negative, whole, places, powerNegative, power⟩
  | t =>
    let (powerNegative, power) ← exponent? t
    return ⟨negative, whole, [], powerNegative, power⟩

/-- A number that is not finite, by its name. -/
def isSpecial (s : List Char) : Bool :=
  (splitSign s).2 == ['i', 'n', 'f'] || (splitSign s).2 == ['n', 'a', 'n']

/-- A number with a fraction or an exponent, or one that is not finite. Digits must not spell a
number above the largest double; below the smallest one they may. -/
def isFraction (s : List Char) : Bool :=
  isSpecial s || (fraction? s).any fun l => l.negative || !l.overflows

/-! ## Dates and times -/

/-- The number of exactly `n` digits at the front. -/
def digits? (n : Nat) (s : List Char) : Option (Nat × List Char) :=
  let ds := s.take n
  if ds.length = n && ds.all Char.isDigit then some (numberIn 10 ds, s.drop n) else none

def isLeap (year : Nat) : Bool := year % 4 == 0 && (year % 100 != 0 || year % 400 == 0)

def daysIn (year month : Nat) : Nat :=
  if month = 2 then (if isLeap year then 29 else 28)
  else if month = 4 ∨ month = 6 ∨ month = 9 ∨ month = 11 then 30
  else 31

/-- What follows a character. -/
def dropChar (c : Char) : List Char → Option (List Char)
  | d :: r => if c = d then some r else none
  | [] => none

/-- What follows a date. -/
def dropDate (s : List Char) : Option (List Char) := do
  let (year, s) ← digits? 4 s
  let (month, s) ← digits? 2 (← dropChar '-' s)
  let (day, s) ← digits? 2 (← dropChar '-' s)
  if 1 ≤ month ∧ month ≤ 12 ∧ 1 ≤ day ∧ day ≤ daysIn year month then return s else none

/-- What follows the hour and the minute. -/
def dropHourMinute (s : List Char) : Option (List Char) := do
  let (hour, s) ← digits? 2 s
  match s with
  | ':' :: s =>
    let (minute, s) ← digits? 2 s
    if hour ≤ 23 ∧ minute ≤ 59 then return s else none
  | _ => none

/-- What follows a time. -/
def dropTime (s : List Char) : Option (List Char) := do
  match ← dropHourMinute s with
  | ':' :: s =>
    let (second, s) ← digits? 2 s
    if second ≤ 60 then
      match s with
      | '.' :: r =>
        if (r.takeWhile Char.isDigit).isEmpty then none else return r.dropWhile Char.isDigit
      | r => return r
    else none
  | _ => none

/-- The difference of a time from world time, or nothing. -/
def isOffset : List Char → Bool
  | [] => true
  | ['Z'] => true
  | ['z'] => true
  | '+' :: r => dropHourMinute r == some []
  | '-' :: r => dropHourMinute r == some []
  | _ => false

/-- A date, or a date and a time in one run. -/
def isDate (s : List Char) : Bool :=
  match dropDate s with
  | some [] => true
  | some (c :: r) => (c == 'T' || c == 't') && (dropTime r).any isOffset
  | none => false

/-- The value of a run. -/
def plain? (s : List Char) : Option Value :=
  if s == ['t', 'r', 'u', 'e'] then some (.boolean true)
  else if s == ['f', 'a', 'l', 's', 'e'] then some (.boolean false)
  else
    match integer? s with
    | some i => some (.integer i)
    | none =>
      if isFraction s then some .fraction
      else if isDate s || dropTime s == some [] then some .moment
      else none

/-- A plain value. -/
def scanPlain : Scanner Value := fun s =>
  let run := s.takeWhile isPlain
  let rest := s.dropWhile isPlain
  match dropDate run, rest with
  | some [], ' ' :: r =>
    if ((dropTime (r.takeWhile isPlain)).any isOffset) then some (.moment, r.dropWhile isPlain)
    else some (.moment, rest)
  | _, _ => (plain? run).map fun v => (v, rest)

end PointExchange.Toml
