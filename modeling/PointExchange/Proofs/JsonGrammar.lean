import PointExchange.Proofs.JsonTexts

/-!
# The grammar of JSON texts

`Json.Spells` says how a value may be written: with blanks between its tokens, with the characters
of a string as they are or escaped, and with a number in any of its forms. It goes by the value and
not by the parser. What is no value is not written: half of a surrogate pair is no character, and a
number that is too large for a double is none.

The parser reads whatever the grammar allows, up to its limit on the depth: a text that spells a
value nesting at most `Json.maxDepth` deep is read as this value (`parse_of_spells`). Such a text is
cut into the tokens of the value, whatever stands behind it (`cuts_spells`), and the machine reads
those (`isRead`).

What is printed is one of the texts of a value (`spells_print`). So a value without doubles is read
back from its text (`parse_print`), and also where that is written inside another value
(`expand?_embedded`).
-/

namespace PointExchange.Json

/-! ## Grammar -/

section Grammar

variable (p q : List Char → Prop)

/-- White space between tokens. -/
def IsBlanks (s : List Char) : Prop := ∀ c ∈ s, isBlank c = true

/-- A text with blanks around it. -/
def Padded (s : List Char) : Prop := ∃ a t b, IsBlanks a ∧ p t ∧ IsBlanks b ∧ s = a ++ (t ++ b)

/-- A text between two marks. -/
def Enclosed (first last : Char) (s : List Char) : Prop :=
  ∃ t, p t ∧ s = first :: (t ++ [last])

/-- Two texts with a mark between them. -/
def Joined (mark : Char) (s : List Char) : Prop := ∃ a b, p a ∧ q b ∧ s = a ++ mark :: b

end Grammar

/-- How characters are written inside a string. -/
inductive SpellsChars : List Char → List Char → Prop
  | nil : SpellsChars [] []
  | plain {c : Char} {cs s : List Char} (control : ¬c.toNat < 0x20) (quote : c ≠ '"')
    (escape : c ≠ '\\') (rest : SpellsChars cs s) : SpellsChars (c :: cs) (c :: s)
  | letter {c l : Char} {cs s : List Char} (letter : escapeLetter? l = some c)
    (rest : SpellsChars cs s) : SpellsChars (c :: cs) ('\\' :: l :: s)
  | unit {w x y z : Char} {n : Nat} {cs s : List Char} (unit : unit? w x y z = some n)
    (whole : n < 0xD800 ∨ 0xE000 ≤ n) (rest : SpellsChars cs s) :
    SpellsChars (Char.ofNat n :: cs) ('\\' :: 'u' :: w :: x :: y :: z :: s)
  /-- a character as a surrogate pair -/
  | pair {w x y z w' x' y' z' : Char} {n m : Nat} {cs s : List Char}
    (high : unit? w x y z = some n) (isHigh : 0xD800 ≤ n ∧ n < 0xDC00)
    (low : unit? w' x' y' z' = some m) (isLow : 0xDC00 ≤ m ∧ m < 0xE000)
    (rest : SpellsChars cs s) :
    SpellsChars (Char.ofNat (0x10000 + (n - 0xD800) * 0x400 + (m - 0xDC00)) :: cs)
      ('\\' :: 'u' :: w :: x :: y :: z :: '\\' :: 'u' :: w' :: x' :: y' :: z' :: s)

def SpellsString (x : String) : List Char → Prop := Enclosed (SpellsChars x.toList) '"' '"'

/-- One or more digits. -/
def IsDigits (s : List Char) : Prop := s ≠ [] ∧ ∀ c ∈ s, Decimal.isDigit c = true

/-- How the places behind the point are written. -/
inductive SpellsPlaces : Option (List Char) → List Char → Prop
  | absent : SpellsPlaces none []
  | present {digits : List Char} (h : IsDigits digits) : SpellsPlaces (some digits) ('.' :: digits)

/-- How an exponent is written: its digits, and whether it is negative. -/
inductive SpellsPower : Option (Bool × List Char) → List Char → Prop
  | absent : SpellsPower none []
  | bare {e : Char} {digits : List Char} (letter : e = 'e' ∨ e = 'E') (h : IsDigits digits) :
    SpellsPower (some (false, digits)) (e :: digits)
  | plus {e : Char} {digits : List Char} (letter : e = 'e' ∨ e = 'E') (h : IsDigits digits) :
    SpellsPower (some (false, digits)) (e :: '+' :: digits)
  | minus {e : Char} {digits : List Char} (letter : e = 'e' ∨ e = 'E') (h : IsDigits digits) :
    SpellsPower (some (true, digits)) (e :: '-' :: digits)

/-- The number of its parts. -/
def NumberText.ofParts (negative : Bool) (whole : List Char) (places : Option (List Char))
    (power : Option (Bool × List Char)) (rest : List Char) : NumberText where
  literal := ⟨negative, whole, places.getD [], (power.map (·.1)).getD false,
    (power.map (·.2)).getD []⟩
  isInteger := places.isNone && power.isNone
  rest := rest

/-- How a number is written without its sign: digits with no zero in front of others, places and an
exponent. -/
def SpellsMagnitude (negative : Bool) (n : JsonNumber) (s : List Char) : Prop :=
  ∃ whole places power a b, IsDigits whole ∧ (whole.head? = some '0' → whole.length = 1) ∧
    SpellsPlaces places a ∧ SpellsPower power b ∧ s = whole ++ (a ++ b) ∧
    (NumberText.ofParts negative whole places power []).value? = some n

def SpellsNumber (n : JsonNumber) (s : List Char) : Prop :=
  SpellsMagnitude false n s ∨ ∃ t, SpellsMagnitude true n t ∧ s = '-' :: t

mutual

/-- How a value is written, without blanks around it. -/
def Spells : Json → List Char → Prop
  | .null => (· = ['n', 'u', 'l', 'l'])
  | .bool true => (· = ['t', 'r', 'u', 'e'])
  | .bool false => (· = ['f', 'a', 'l', 's', 'e'])
  | .number n => SpellsNumber n
  | .string x => SpellsString x
  | .array items => Enclosed (SpellsItems items) '[' ']'
  | .object members => Enclosed (SpellsMembers members) '\x7b' '\x7d'

/-- How the items of an array are written. -/
def SpellsItems : List Json → List Char → Prop
  | [] => IsBlanks
  | [v] => Padded (Spells v)
  | v :: w :: r => Joined (Padded (Spells v)) (SpellsItems (w :: r)) ','

/-- How the members of an object are written. -/
def SpellsMembers : List (String × Json) → List Char → Prop
  | [] => IsBlanks
  | [(k, v)] => Joined (Padded (SpellsString k)) (Padded (Spells v)) ':'
  | (k, v) :: m :: r =>
    Joined (Joined (Padded (SpellsString k)) (Padded (Spells v)) ':') (SpellsMembers (m :: r)) ','

end

/-! ## Strings -/

/-- **The characters of a string are read however they are written.** -/
theorem scanString_of_spellsChars {cs s : List Char} (h : SpellsChars cs s) (r : List Char) :
    scanString (s ++ '"' :: r) = some (cs, r) := by
  induction h with
  | nil => simp [scanString]
  | plain control quote escape _ ih =>
    rw [List.cons_append, scanString_plain quote escape control, ih]
    rfl
  | @letter c l cs s letter _ ih =>
    have escaped : escape? (l :: (s ++ '"' :: r)) = some (c, s ++ '"' :: r) := by
      have other : l ≠ 'u' := by
        rintro rfl
        simp [escapeLetter?] at letter
      rw [escape?, if_neg other, letter]
      rfl
    rw [List.cons_append, List.cons_append, scanString_escape escaped, ih]
    rfl
  | @unit w x y z n cs s unit whole _ ih =>
    have escaped : escape? ('u' :: w :: x :: y :: z :: (s ++ '"' :: r)) =
        some (Char.ofNat n, s ++ '"' :: r) := by
      have notHigh : ¬(0xD800 ≤ n ∧ n < 0xDC00) := by omega
      have notLow : ¬(0xDC00 ≤ n ∧ n < 0xE000) := by omega
      rw [escape?, if_pos rfl, unicodeEscape?, unit]
      dsimp only
      rw [if_neg notHigh, if_neg notLow]
    simp only [List.cons_append]
    rw [scanString_escape escaped, ih]
    rfl
  | @pair w x y z w' x' y' z' n m cs s high isHigh low isLow _ ih =>
    have escaped : escape? ('u' :: w :: x :: y :: z :: '\\' :: 'u' :: w' :: x' :: y' :: z' ::
        (s ++ '"' :: r)) =
        some (Char.ofNat (0x10000 + (n - 0xD800) * 0x400 + (m - 0xDC00)), s ++ '"' :: r) := by
      rw [escape?, if_pos rfl, unicodeEscape?, high]
      dsimp only
      rw [if_pos isHigh, lowSurrogate?, low]
      dsimp only
      rw [if_pos isLow]
    simp only [List.cons_append]
    rw [scanString_escape escaped, ih]
    rfl

/-! ## Numbers -/

/-- A number does not go on with this text. -/
def EndsNumber (r : List Char) : Prop :=
  ∀ c ∈ r.head?, Decimal.isDigit c = false ∧ c ≠ '.' ∧ c ≠ 'e' ∧ c ≠ 'E'

section Numbers

variable {s r : List Char} {places : Option (List Char)} {power : Option (Bool × List Char)}

/-- Digits end where no digit follows. -/
theorem takeWhile_digits (h : ∀ c ∈ s, Decimal.isDigit c = true)
    (ends : ∀ c ∈ r.head?, Decimal.isDigit c = false) :
    (s ++ r).takeWhile Decimal.isDigit = s ∧ (s ++ r).dropWhile Decimal.isDigit = r := by
  rw [List.takeWhile_append_of_pos h, List.dropWhile_append_of_pos h]
  cases r with
  | nil => simp
  | cons c r => simp [ends c rfl]

theorem scanPower_of_isDigits (negative : Bool) (h : IsDigits s) (ends : EndsNumber r) :
    scanPower negative (s ++ r) = some (some (negative, s), r) := by
  obtain ⟨taken, left⟩ := takeWhile_digits h.2 fun c hc => (ends c hc).1
  simp [scanPower, taken, left, h.1]

theorem IsDigits.isDigit_of_append {c : Char} {t : List Char} (h : IsDigits s)
    (front : s ++ r = c :: t) : Decimal.isDigit c = true := by
  cases s with
  | nil => exact absurd rfl h.1
  | cons d s =>
    obtain rfl : d = c := (List.cons.inj front).1
    exact h.2 d List.mem_cons_self

theorem scanExponent_of_spellsPower (h : SpellsPower power s) (ends : EndsNumber r) :
    scanExponent (s ++ r) = some (power, r) := by
  cases h with
  | absent =>
    cases r with
    | nil => rfl
    | cons c r =>
      obtain ⟨-, -, lower, upper⟩ := ends c rfl
      simp [scanExponent, lower, upper]
  | @bare e digits letter h =>
    rw [List.cons_append, scanExponent, if_pos letter]
    · exact scanPower_of_isDigits false h ends
    -- the digits are not taken for a sign
    all_goals
      intro t sign
      exact absurd (h.isDigit_of_append sign) (by decide)
  | plus letter h =>
    simp only [List.cons_append, scanExponent, if_pos letter]
    exact scanPower_of_isDigits false h ends
  | minus letter h =>
    simp only [List.cons_append, scanExponent, if_pos letter]
    exact scanPower_of_isDigits true h ends

/-- Places end before an exponent. -/
theorem SpellsPower.head? (h : SpellsPower power s) (ends : EndsNumber r) :
    ∀ c ∈ (s ++ r).head?, Decimal.isDigit c = false ∧ c ≠ '.' := by
  cases h with
  | absent => exact fun c hc => ⟨(ends c hc).1, (ends c hc).2.1⟩
  | bare letter | plus letter | minus letter =>
    rintro c ⟨⟩
    rcases letter with rfl | rfl <;> decide

theorem scanPlaces_of_spellsPlaces (h : SpellsPlaces places s)
    (ends : ∀ c ∈ r.head?, Decimal.isDigit c = false ∧ c ≠ '.') :
    scanPlaces (s ++ r) = some (places, r) := by
  cases h with
  | absent =>
    rw [List.nil_append]
    unfold scanPlaces
    split
    · exact absurd rfl (ends '.' rfl).2
    · rfl
  | present h =>
    obtain ⟨taken, left⟩ := takeWhile_digits h.2 fun c hc => (ends c hc).1
    simp [scanPlaces, taken, left, h.1]

/-- The digits in front end before the places. -/
theorem SpellsPlaces.head? (h : SpellsPlaces places s)
    (ends : ∀ c ∈ r.head?, Decimal.isDigit c = false ∧ c ≠ '.') :
    ∀ c ∈ (s ++ r).head?, Decimal.isDigit c = false := by
  cases h with
  | absent => exact fun c hc => (ends c hc).1
  | present =>
    rintro c ⟨⟩
    rfl

theorem scanMagnitude_of_spells (negative : Bool) {whole a b : List Char} (digits : IsDigits whole)
    (lead : whole.head? = some '0' → whole.length = 1) (ha : SpellsPlaces places a)
    (hb : SpellsPower power b) (ends : EndsNumber r) :
    scanMagnitude negative (whole ++ (a ++ (b ++ r))) =
      some (.ofParts negative whole places power r) := by
  obtain ⟨taken, left⟩ := takeWhile_digits digits.2 (ha.head? (hb.head? ends))
  have allowed : ¬(whole.isEmpty || (whole.head? == some '0' && 1 < whole.length)) = true := by
    have := digits.1
    simp_all
  simp only [scanMagnitude, taken, left]
  rw [if_neg allowed, scanPlaces_of_spellsPlaces ha (hb.head? ends)]
  dsimp only
  rw [scanExponent_of_spellsPower hb ends]
  rfl

/-- **A number is read in any of its forms.** -/
theorem lex_of_spellsNumber {n : JsonNumber} (h : SpellsNumber n s) (ends : EndsNumber r) :
    lex (s ++ r) = (lex r).map (.scalar (.number n) :: ·) := by
  rcases h with ⟨whole, places, power, a, b, digits, lead, ha, hb, rfl, value⟩ |
    ⟨_, ⟨whole, places, power, a, b, digits, lead, ha, hb, rfl, value⟩, rfl⟩
  · have scan := scanMagnitude_of_spells false digits lead ha hb ends
    cases whole with
    | nil => exact absurd rfl digits.1
    | cons c whole =>
      have first := digits.2 c List.mem_cons_self
      simp only [List.append_assoc, List.cons_append] at scan ⊢
      exact lex_number (.inr first) ((scanNumber_of_isDigit first).trans scan) value
  · have scan := scanMagnitude_of_spells true digits lead ha hb ends
    simp only [List.append_assoc, List.cons_append] at scan ⊢
    exact lex_number (.inl rfl) scan value

end Numbers

/-! ## The tokens of a text -/

/-- Each of the texts is cut into these tokens, whatever stands behind it that is no part of a
number. -/
def Cuts (p : List Char → Prop) (ts : List Token) : Prop :=
  ∀ s, p s → ∀ r, EndsNumber r → lex (s ++ r) = (lex r).map (ts ++ ·)

theorem isBlank_cases {c : Char} (h : isBlank c = true) :
    c = ' ' ∨ c = '\t' ∨ c = '\n' ∨ c = '\r' := by
  simpa [isBlank, or_assoc] using h

theorem lex_blanks {s r : List Char} (h : IsBlanks s) : lex (s ++ r) = lex r := by
  induction s with
  | nil => rfl
  | cons c s ih =>
    obtain ⟨blank, rest⟩ := List.forall_mem_cons.mp h
    rw [List.cons_append, lex, if_pos blank, ih rest]

theorem endsNumber_nil : EndsNumber [] := by simp [EndsNumber]

theorem IsBlanks.endsNumber {s r : List Char} (h : IsBlanks s) (ends : EndsNumber r) :
    EndsNumber (s ++ r) := by
  cases s with
  | nil => exact ends
  | cons c s =>
    rintro d ⟨⟩
    rcases isBlank_cases (h c List.mem_cons_self) with rfl | rfl | rfl | rfl <;> decide

/-- A punctuation mark is no blank and no part of a number. -/
theorem of_punctuation? {c : Char} {t : Token} (h : punctuation? c = some t) :
    isBlank c = false ∧ ∀ r, EndsNumber (c :: r) := by
  unfold punctuation? at h
  split at h
  case h_7 => exact absurd h (by simp)
  all_goals
    refine ⟨by decide, fun r => ?_⟩
    rintro d ⟨⟩
    decide

namespace Cuts

variable {p q : List Char → Prop} {ts us : List Token} {first last mark : Char} {t u : Token}

theorem blanks : Cuts IsBlanks [] := by
  intro s h r _
  simp [lex_blanks h]

theorem padded (h : Cuts p ts) : Cuts (Padded p) ts := by
  rintro _ ⟨a, s, b, ha, hs, hb, rfl⟩ r ends
  rw [List.append_assoc, List.append_assoc, lex_blanks ha, h s hs _ (hb.endsNumber ends),
    lex_blanks hb]

theorem joined (hp : Cuts p ts) (hq : Cuts q us) (ht : punctuation? mark = some t) :
    Cuts (Joined p q mark) (ts ++ t :: us) := by
  rintro _ ⟨a, b, ha, hb, rfl⟩ r ends
  obtain ⟨blank, stop⟩ := of_punctuation? ht
  rw [List.append_assoc, List.cons_append, hp a ha _ (stop _), lex_punctuation blank ht,
    hq b hb r ends, Option.map_map, Option.map_map]
  simp [Function.comp_def]

theorem enclosed (hp : Cuts p ts) (ht : punctuation? first = some t)
    (hu : punctuation? last = some u) : Cuts (Enclosed p first last) (t :: ts ++ [u]) := by
  rintro _ ⟨s, hs, rfl⟩ r ends
  obtain ⟨blank, -⟩ := of_punctuation? ht
  obtain ⟨blank', stop⟩ := of_punctuation? hu
  rw [List.cons_append, List.append_assoc, lex_punctuation blank ht, List.singleton_append,
    hp s hs _ (stop _), lex_punctuation blank' hu, Option.map_map, Option.map_map]
  simp [Function.comp_def]

theorem string (x : String) : Cuts (SpellsString x) [.scalar (.string x)] := by
  rintro _ ⟨s, hs, rfl⟩ r ends
  rw [List.cons_append, List.append_assoc]
  refine lex_scalar rfl rfl ?_
  rw [scalar?, if_pos rfl, List.singleton_append, scanString_of_spellsChars hs]
  simp

theorem items {items : List Json} (cuts : ∀ v ∈ items, Cuts (Spells v) v.tokens) :
    Cuts (SpellsItems items) (itemTokens items) := by
  induction items with
  | nil => exact .blanks
  | cons v items ih =>
    obtain ⟨one, others⟩ := List.forall_mem_cons.mp cuts
    cases items with
    | nil => exact one.padded
    | cons w items => exact one.padded.joined (ih others) rfl

theorem members {members : List (String × Json)}
    (cuts : ∀ m ∈ members, Cuts (Spells m.2) m.2.tokens) :
    Cuts (SpellsMembers members) (memberTokens members) := by
  induction members with
  | nil => exact .blanks
  | cons m members ih =>
    obtain ⟨one, others⟩ := List.forall_mem_cons.mp cuts
    have member : Cuts (Joined (Padded (SpellsString m.1)) (Padded (Spells m.2)) ':')
        (.scalar (.string m.1) :: .colon :: m.2.tokens) :=
      (Cuts.string m.1).padded.joined one.padded rfl
    cases members with
    | nil => exact member
    | cons n members => exact member.joined (ih others) rfl

end Cuts

/-- **A text is cut into the tokens of the value that it spells.** -/
theorem cuts_spells (v : Json) : Cuts (Spells v) v.tokens := by
  induction v using induct with
  | null =>
    rintro _ rfl r _
    exact lex_scalar rfl rfl rfl
  | bool b =>
    cases b <;>
    · rintro _ rfl r _
      exact lex_scalar rfl rfl rfl
  | number n => exact fun s h r ends => lex_of_spellsNumber h ends
  | string x => exact .string x
  | array items ih => exact (Cuts.items ih).enclosed rfl rfl
  | object members ih => exact (Cuts.members ih).enclosed rfl rfl

theorem lex_of_spells {v : Json} {s : List Char} (h : Padded (Spells v) s) :
    lex s = some v.tokens := by
  simpa [lex] using (cuts_spells v).padded s h [] endsNumber_nil

/-- **The parser reads what the grammar allows**, up to the depth that it takes. -/
theorem parse_of_spells {v : Json} {s : List Char} (h : Padded (Spells v) s)
    (depth : v.depth ≤ maxDepth) : parse s = some v := by
  have read : (State.value []).run v.tokens = some (.after v []) :=
    isRead v [] (by simpa using depth)
  rw [parse, lex_of_spells h, Option.bind_some, read]
  rfl

/-! ## What is printed -/

theorem SpellsChars.escapedChar (c : Char) {cs s : List Char} (rest : SpellsChars cs s) :
    SpellsChars (c :: cs) (escapedChar c ++ s) := by
  unfold Json.escapedChar
  split
  case h_8 quote escape _ _ _ _ _ =>
    split
    · next control =>
      have spelled := SpellsChars.unit (unit?_control control) (.inl (by omega)) rest
      rwa [Char.ofNat_toNat] at spelled
    · next control => exact .plain control quote escape rest
  -- the characters with an escape by letter
  all_goals exact .letter rfl rest

theorem spellsString_print (x : String) : SpellsString x (printString x.toList) := by
  refine ⟨x.toList.flatMap Json.escapedChar, ?_, rfl⟩
  induction x.toList with
  | nil => exact .nil
  | cons c cs ih => exact ih.escapedChar c

/-- The digits of a number are one way to write it. -/
theorem spellsMagnitude_toDigits {negative : Bool} {n : JsonNumber} {k : Nat}
    (value : (NumberText.ofParts negative (Nat.toDigits 10 k) none none []).value? = some n) :
    SpellsMagnitude negative n (Nat.toDigits 10 k) := by
  refine ⟨_, none, none, [], [], ⟨Nat.toDigits_ne_nil, fun c => isDigit_of_mem_toDigits⟩, ?_,
    .absent, .absent, by simp, value⟩
  intro zero
  rcases Nat.eq_zero_or_pos k with rfl | positive
  · rfl
  · exact absurd zero (head?_toDigits positive)

theorem spellsNumber_print {n : JsonNumber} (exact : isDouble (.number n) = false) :
    SpellsNumber n (printNumber n) := by
  cases n with
  | natural n =>
    refine .inl (spellsMagnitude_toDigits ?_)
    simp [NumberText.value?, NumberText.ofParts, value_toDigits, n.toNat_lt]
  | negative k =>
    have small : k.toNat + 1 ≤ 0x8000000000000000 := k.isLt
    refine .inr ⟨_, spellsMagnitude_toDigits ?_, rfl⟩
    simp [NumberText.value?, NumberText.ofParts, value_toDigits, small]
  | double bits => exact absurd exact Bool.noConfusion

theorem Padded.bare {p : List Char → Prop} {s : List Char} (h : p s) : Padded p s :=
  ⟨[], s, [], List.forall_mem_nil _, h, List.forall_mem_nil _, by simp⟩

theorem spellsItems_print {items : List Json} (spelled : ∀ v ∈ items, Spells v (print v)) :
    SpellsItems items (printItems items) := by
  induction items with
  | nil => exact List.forall_mem_nil _
  | cons v items ih =>
    obtain ⟨one, others⟩ := List.forall_mem_cons.mp spelled
    cases items with
    | nil => exact .bare one
    | cons w items => exact ⟨_, _, .bare one, ih others, rfl⟩

theorem spellsMembers_print {members : List (String × Json)}
    (spelled : ∀ m ∈ members, Spells m.2 (print m.2)) :
    SpellsMembers members (printMembers members) := by
  induction members with
  | nil => exact List.forall_mem_nil _
  | cons m members ih =>
    obtain ⟨one, others⟩ := List.forall_mem_cons.mp spelled
    have member : Joined (Padded (SpellsString m.1)) (Padded (Spells m.2)) ':'
        (printString m.1.toList ++ ':' :: print m.2) :=
      ⟨_, _, .bare (spellsString_print m.1), .bare one, rfl⟩
    cases members with
    | nil => exact member
    | cons n members => exact ⟨_, _, member, ih others, rfl⟩

/-- **A value without doubles may be written as it is printed.** -/
theorem spells_print {v : Json} (exact : v.IsExact) : Spells v (print v) := by
  induction v using induct with
  | null => rfl
  | bool b => cases b <;> rfl
  | number n => exact spellsNumber_print (exact _ List.mem_cons_self)
  | string x => exact spellsString_print x
  | array items ih =>
    exact ⟨_, spellsItems_print fun v hv => ih v hv (isExact_array.mp exact v hv), rfl⟩
  | object members ih =>
    exact ⟨_, spellsMembers_print fun m hm => ih m hm (isExact_object.mp exact m hm), rfl⟩

theorem lex_print {v : Json} (exact : v.IsExact) : lex (print v) = some v.tokens :=
  lex_of_spells (.bare (spells_print exact))

/-- **A value without doubles is read back from its text.** -/
theorem parse_print {v : Json} (exact : v.IsExact) (depth : v.depth ≤ maxDepth) :
    parse (print v) = some v :=
  parse_of_spells (.bare (spells_print exact)) depth

theorem length_le_flatMap_escapedChar (s : List Char) :
    s.length ≤ (s.flatMap escapedChar).length := by
  induction s with
  | nil => exact Nat.le_refl _
  | cons c s ih =>
    have one : 1 ≤ (escapedChar c).length := by
      unfold escapedChar
      split
      case h_8 => split <;> simp
      all_goals simp
    simp only [List.flatMap_cons, List.length_append, List.length_cons]
    omega

/-- **A document that a value spells is put into its place.** -/
theorem expand?_embedded {v : Json} (exact : v.IsExact) (plain : v.IsPlain)
    (depth : v.depth ≤ maxDepth) :
    (object [(embeddedName, .string v.text)]).expand? = some v := by
  have spelled : parse v.text.toList = some v := by
    rw [text, String.toList_ofList, parse_print exact depth]
  have longer : v.text.length + 1 ≤
      (print (object [(embeddedName, .string v.text)])).length := by
    have := length_le_flatMap_escapedChar v.text.toList
    simp only [print, printMembers, printString, List.length_append, List.length_cons,
      String.length_toList] at this ⊢
    omega
  obtain ⟨bound, length, fits⟩ : ∃ bound,
      (print (object [(embeddedName, .string v.text)])).length = bound + 1 ∧
        v.text.length ≤ bound := ⟨_, (Nat.sub_add_cancel (by omega)).symm, by omega⟩
  -- the document is read within a smaller bound, which a plain one does not need
  have inner : expandBelow? bound v = some v := by
    cases bound <;> exact expandWith_of_isPlain v plain
  rw [expand?, length]
  show (if v.text.length ≤ bound then (parse v.text.toList).bind fun w => expandBelow? bound w
    else none) = some v
  rw [if_pos fits, spelled, Option.bind_some, inner]

/-! ## Documents -/

/-- The bytes are a document of the value: one of its texts in UTF-8. -/
def WrittenAs (v : Json) (b : Bytes) : Prop := ∃ s, b.toChars? = some s ∧ Padded (Spells v) s

/-- **A document is read as its value**, up to the depth that the parser takes. -/
theorem ofBytes?_of_writtenAs {v : Json} {b : Bytes} (h : v.WrittenAs b)
    (depth : v.depth ≤ maxDepth) : ofBytes? b = some v := by
  obtain ⟨s, chars, spelled⟩ := h
  rw [ofBytes?, chars, Option.bind_some, parse_of_spells spelled depth]

theorem writtenAs_text {v : Json} (exact : v.IsExact) : v.WrittenAs (.ofText v.text) := by
  refine ⟨print v, ?_, .bare (spells_print exact)⟩
  rw [Bytes.toChars?_ofText, text, String.toList_ofList]

end PointExchange.Json
