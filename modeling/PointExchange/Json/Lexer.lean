import PointExchange.Json.Basic
import PointExchange.Decimal.Double
import PointExchange.Hex

/-!
# Tokens of a JSON text

`Json.lex` cuts a text into punctuation and scalar values. Every scanner returns what is left of
its text, and `scalar?_length` says that this is shorter; that is why the loop ends.

A text with a control character or a lone surrogate in a string, a number with a leading zero, or
a number beyond the largest double has no tokens.
-/

namespace PointExchange.Json

/-- A lexical unit. -/
inductive Token
  | openArray
  | closeArray
  | openObject
  | closeObject
  | colon
  | comma
  | scalar (v : Json)

/-- White space between tokens. -/
def isBlank (c : Char) : Bool := c == ' ' || c == '\t' || c == '\n' || c == '\r'

/-! ## Strings -/

/-- The value of four hexadecimal digits. -/
def unit? (a b c d : Char) : Option Nat := do
  let w ← Hex.value? a
  let x ← Hex.value? b
  let y ← Hex.value? c
  let z ← Hex.value? d
  return ((w * 16 + x) * 16 + y) * 16 + z

/-- The second half of a surrogate pair, behind the first half `n`. -/
def lowSurrogate? (n : Nat) : List Char → Option (Char × List Char)
  | '\\' :: 'u' :: e :: f :: g :: h :: r =>
    match unit? e f g h with
    | some m =>
      if 0xDC00 ≤ m ∧ m < 0xE000 then
        some (Char.ofNat (0x10000 + (n - 0xD800) * 0x400 + (m - 0xDC00)), r)
      else none
    | none => none
  | _ => none

/-- The character of an escape by code unit, behind its letter. -/
def unicodeEscape? : List Char → Option (Char × List Char)
  | a :: b :: c :: d :: r =>
    match unit? a b c d with
    | some n =>
      if 0xD800 ≤ n ∧ n < 0xDC00 then lowSurrogate? n r
      else if 0xDC00 ≤ n ∧ n < 0xE000 then none
      else some (Char.ofNat n, r)
    | none => none
  | _ => none

/-- The character of an escape by letter. -/
def escapeLetter? (c : Char) : Option Char :=
  match c with
  | '"' => some '"'
  | '\\' => some '\\'
  | '/' => some '/'
  | 'b' => some '\x08'
  | 'f' => some '\x0c'
  | 'n' => some '\n'
  | 'r' => some '\r'
  | 't' => some '\t'
  | _ => none

/-- The character of an escape, behind the backslash. -/
def escape? : List Char → Option (Char × List Char)
  | [] => none
  | c :: r => if c = 'u' then unicodeEscape? r else (escapeLetter? c).map (·, r)

theorem lowSurrogate?_length {n : Nat} {s r : List Char} {c : Char}
    (h : lowSurrogate? n s = some (c, r)) : r.length < s.length := by
  unfold lowSurrogate? at h
  split at h
  · split at h
    · split at h
      · obtain ⟨-, rfl⟩ := Prod.mk.injEq .. ▸ Option.some.inj h
        simp only [List.length_cons]
        omega
      · exact absurd h (by simp)
    · exact absurd h (by simp)
  · exact absurd h (by simp)

theorem unicodeEscape?_length {s r : List Char} {c : Char}
    (h : unicodeEscape? s = some (c, r)) : r.length < s.length := by
  unfold unicodeEscape? at h
  split at h
  · split at h
    · split at h
      · have := lowSurrogate?_length h
        simp only [List.length_cons]
        omega
      · split at h
        · exact absurd h (by simp)
        · obtain ⟨-, rfl⟩ := Prod.mk.injEq .. ▸ Option.some.inj h
          simp only [List.length_cons]
          omega
    · exact absurd h (by simp)
  · exact absurd h (by simp)

theorem escape?_length {s r : List Char} {c : Char} (h : escape? s = some (c, r)) :
    r.length < s.length := by
  cases s with
  | nil => exact absurd h (by simp [escape?])
  | cons d t =>
    dsimp only [escape?] at h
    by_cases hd : d = 'u'
    · rw [if_pos hd] at h
      have := unicodeEscape?_length h
      simp only [List.length_cons]
      omega
    · rw [if_neg hd] at h
      obtain ⟨e, -, he⟩ := Option.map_eq_some_iff.1 h
      obtain ⟨-, rfl⟩ := Prod.mk.injEq .. ▸ he
      simp

/-- The characters of a string, behind its opening quote, and what follows the closing one. -/
def scanString (s : List Char) : Option (List Char × List Char) :=
  match s with
  | [] => none
  | c :: r =>
    if c = '"' then some ([], r)
    else if c = '\\' then
      match _h : escape? r with
      | some (d, t) => (scanString t).map fun p => (d :: p.1, p.2)
      | none => none
    else if c.toNat < 0x20 then none
    else (scanString r).map fun p => (c :: p.1, p.2)
termination_by s.length
decreasing_by
  · have := escape?_length _h
    simp only [List.length_cons]
    omega
  · simp

theorem scanString_length {s t r : List Char} (h : scanString s = some (t, r)) :
    r.length < s.length := by
  fun_induction scanString s generalizing t r with
  | case1 => exact absurd h (by simp)
  | case2 r' =>
    obtain ⟨-, rfl⟩ := Prod.mk.injEq .. ▸ Option.some.inj h
    simp
  | case3 r' d u he _ ih =>
    obtain ⟨⟨t', r''⟩, hp, hq⟩ := Option.map_eq_some_iff.1 h
    obtain ⟨-, rfl⟩ := Prod.mk.injEq .. ▸ hq
    have := ih hp
    have := escape?_length he
    simp only [List.length_cons]
    omega
  | case4 => exact absurd h (by simp)
  | case5 => exact absurd h (by simp)
  | case6 c r' _ _ _ ih =>
    obtain ⟨⟨t', r''⟩, hp, hq⟩ := Option.map_eq_some_iff.1 h
    obtain ⟨-, rfl⟩ := Prod.mk.injEq .. ▸ hq
    have := ih hp
    simp only [List.length_cons]
    omega

/-! ## Numbers -/

/-- The parts of a number as written. -/
structure NumberText where
  literal : Decimal.Literal
  /-- there is neither a point nor an exponent -/
  isInteger : Bool
  rest : List Char

/-- The places behind the point, if there is one. -/
def scanPlaces : List Char → Option (Option (List Char) × List Char)
  | '.' :: r =>
    let places := r.takeWhile Decimal.isDigit
    if places.isEmpty then none else some (some places, r.dropWhile Decimal.isDigit)
  | s => some (none, s)

/-- The digits of an exponent, behind its letter and its sign. -/
def scanPower (negative : Bool) (s : List Char) : Option (Option (Bool × List Char) × List Char) :=
  let digits := s.takeWhile Decimal.isDigit
  if digits.isEmpty then none else some (some (negative, digits), s.dropWhile Decimal.isDigit)

/-- The exponent, if there is one. -/
def scanExponent : List Char → Option (Option (Bool × List Char) × List Char)
  | c :: r =>
    if c = 'e' ∨ c = 'E' then
      match r with
      | '-' :: t => scanPower true t
      | '+' :: t => scanPower false t
      | t => scanPower false t
    else some (none, c :: r)
  | [] => some (none, [])

/-- A number without its sign. -/
def scanMagnitude (negative : Bool) (s : List Char) : Option NumberText :=
  let whole := s.takeWhile Decimal.isDigit
  if whole.isEmpty || (whole.head? == some '0' && 1 < whole.length) then none
  else
    match scanPlaces (s.dropWhile Decimal.isDigit) with
    | none => none
    | some (places, r) =>
      match scanExponent r with
      | none => none
      | some (power, rest) =>
        some {
          literal := ⟨negative, whole, places.getD [], (power.map (·.1)).getD false,
            (power.map (·.2)).getD []⟩
          isInteger := places.isNone && power.isNone
          rest := rest }

/-- A number with its sign. -/
def scanNumber : List Char → Option NumberText
  | '-' :: r => scanMagnitude true r
  | s => scanMagnitude false s

/-- The value of a number: an integer that fits 64 bits, or a double. -/
def NumberText.value? (t : NumberText) : Option JsonNumber :=
  let n := Decimal.value t.literal.whole
  if t.isInteger ∧ !t.literal.negative ∧ n < UInt64.size then some (.natural n.toUInt64)
  else if t.isInteger ∧ t.literal.negative ∧ 0 < n ∧ n ≤ 0x8000000000000000 then
    some (.negative (BitVec.ofNat 63 (n - 1)))
  else t.literal.bits?.map .double

theorem length_dropWhile_le (p : Char → Bool) (s : List Char) :
    (s.dropWhile p).length ≤ s.length :=
  (List.dropWhile_sublist p).length_le

theorem scanPlaces_length {s r : List Char} {p : Option (List Char)}
    (h : scanPlaces s = some (p, r)) : r.length ≤ s.length := by
  unfold scanPlaces at h
  split at h
  next t =>
    dsimp only at h
    split at h
    · exact absurd h (by simp)
    · obtain ⟨-, rfl⟩ := Prod.mk.injEq .. ▸ Option.some.inj h
      have := length_dropWhile_le Decimal.isDigit t
      simp only [List.length_cons]
      omega
  next =>
    obtain ⟨-, rfl⟩ := Prod.mk.injEq .. ▸ Option.some.inj h
    exact Nat.le_refl _

theorem scanPower_length {b : Bool} {s r : List Char} {p : Option (Bool × List Char)}
    (h : scanPower b s = some (p, r)) : r.length ≤ s.length := by
  dsimp only [scanPower] at h
  split at h
  · exact absurd h (by simp)
  · obtain ⟨-, rfl⟩ := Prod.mk.injEq .. ▸ Option.some.inj h
    exact length_dropWhile_le _ _

theorem scanExponent_length {s r : List Char} {p : Option (Bool × List Char)}
    (h : scanExponent s = some (p, r)) : r.length ≤ s.length := by
  cases s with
  | nil =>
    obtain ⟨-, rfl⟩ := Prod.mk.injEq .. ▸ Option.some.inj h
    exact Nat.le_refl _
  | cons c t =>
    dsimp only [scanExponent] at h
    by_cases hc : c = 'e' ∨ c = 'E'
    · rw [if_pos hc] at h
      split at h <;>
      · have := scanPower_length h
        simp only [List.length_cons] at *
        omega
    · rw [if_neg hc] at h
      obtain ⟨-, rfl⟩ := Prod.mk.injEq .. ▸ Option.some.inj h
      exact Nat.le_refl _

theorem length_dropWhile_lt {p : Char → Bool} {s : List Char}
    (h : (s.takeWhile p).isEmpty = false) :
    (s.dropWhile p).length < s.length := by
  cases s with
  | nil => simp at h
  | cons c r =>
    by_cases hc : p c
    · rw [List.dropWhile_cons_of_pos hc]
      have := length_dropWhile_le p r
      simp only [List.length_cons]
      omega
    · simp [hc] at h

theorem scanMagnitude_length {b : Bool} {s : List Char} {t : NumberText}
    (h : scanMagnitude b s = some t) : t.rest.length < s.length := by
  dsimp only [scanMagnitude] at h
  split at h
  · exact absurd h (by simp)
  next hw =>
    have hne : (s.takeWhile Decimal.isDigit).isEmpty = false := by
      simp only [Bool.or_eq_true, not_or, Bool.not_eq_true] at hw
      exact hw.1
    have hlt := length_dropWhile_lt hne
    split at h
    · exact absurd h (by simp)
    next places r hp =>
      have := scanPlaces_length hp
      split at h
      · exact absurd h (by simp)
      next power rest he =>
        have := scanExponent_length he
        rw [← Option.some.inj h]
        show rest.length < s.length
        omega

theorem scanNumber_length {s : List Char} {t : NumberText} (h : scanNumber s = some t) :
    t.rest.length < s.length := by
  unfold scanNumber at h
  split at h
  · have := scanMagnitude_length h
    simp only [List.length_cons]
    omega
  · exact scanMagnitude_length h

/-! ## The loop -/

/-- Takes a word off the front of a text. -/
def dropWord : List Char → List Char → Option (List Char)
  | [], s => some s
  | c :: w, d :: s => if c = d then dropWord w s else none
  | _ :: _, [] => none

theorem dropWord_length {w s r : List Char} (h : dropWord w s = some r) :
    r.length + w.length = s.length := by
  fun_induction dropWord w s with
  | case1 s => simp [Option.some.inj h]
  | case2 w d s ih =>
    have := ih h
    simp only [List.length_cons]
    omega
  | case3 => exact absurd h (by simp)
  | case4 => exact absurd h (by simp)

/-- A word that stands for a value. -/
def scanWord (w : List Char) (v : Json) (s : List Char) : Option (Json × List Char) :=
  (dropWord w s).map (v, ·)

/-- The scalar value at the front of a text. -/
def scalar? (c : Char) (r : List Char) : Option (Json × List Char) :=
  if c = '"' then (scanString r).map fun p => (.string (String.ofList p.1), p.2)
  else if c = '-' ∨ Decimal.isDigit c then
    match scanNumber (c :: r) with
    | some t => t.value?.map fun n => (.number n, t.rest)
    | none => none
  else if c = 'n' then scanWord ['u', 'l', 'l'] .null r
  else if c = 't' then scanWord ['r', 'u', 'e'] (.bool true) r
  else if c = 'f' then scanWord ['a', 'l', 's', 'e'] (.bool false) r
  else none

theorem scanWord_length {w s r : List Char} {v x : Json} (h : scanWord w v s = some (x, r)) :
    r.length ≤ s.length := by
  obtain ⟨t, ht, he⟩ := Option.map_eq_some_iff.1 h
  obtain ⟨-, rfl⟩ := Prod.mk.injEq .. ▸ he
  have := dropWord_length ht
  omega

theorem scalar?_length {c : Char} {r t : List Char} {v : Json} (h : scalar? c r = some (v, t)) :
    t.length ≤ r.length := by
  unfold scalar? at h
  split at h
  · obtain ⟨⟨x, y⟩, hs, he⟩ := Option.map_eq_some_iff.1 h
    obtain ⟨-, rfl⟩ := Prod.mk.injEq .. ▸ he
    exact Nat.le_of_lt (scanString_length hs)
  · split at h
    · split at h
      next n hn =>
        obtain ⟨x, -, he⟩ := Option.map_eq_some_iff.1 h
        obtain ⟨-, rfl⟩ := Prod.mk.injEq .. ▸ he
        have := scanNumber_length hn
        simp only [List.length_cons] at this
        omega
      · exact absurd h (by simp)
    · split at h
      · exact scanWord_length h
      · split at h
        · exact scanWord_length h
        · split at h
          · exact scanWord_length h
          · exact absurd h (by simp)

/-- The token of a punctuation mark. -/
def punctuation? (c : Char) : Option Token :=
  match c with
  | '[' => some .openArray
  | ']' => some .closeArray
  | '\x7b' => some .openObject
  | '\x7d' => some .closeObject
  | ':' => some .colon
  | ',' => some .comma
  | _ => none

/-- The tokens of a text. -/
def lex (s : List Char) : Option (List Token) :=
  match s with
  | [] => some []
  | c :: r =>
    if isBlank c then lex r
    else
      match punctuation? c with
      | some t => (lex r).map (t :: ·)
      | none =>
        match _h : scalar? c r with
        | some (v, t) => (lex t).map (.scalar v :: ·)
        | none => none
termination_by s.length
decreasing_by
  · simp
  · simp
  · have := scalar?_length _h
    simp only [List.length_cons]
    omega

end PointExchange.Json
