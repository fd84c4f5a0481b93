import Mathlib.Data.List.TakeWhile
import Mathlib.Data.Nat.Digits.Lemmas
import PointExchange.Message.Request
import PointExchange.Proofs.JsonTexts

/-!
# Which texts are amounts

A text is an amount if what is left without the blanks at its ends is a numeral and the number is
below `2 ^ 256` (`amounts_are_numerals`). Both halves are told without the functions that decide
them: `Text.TrimsTo` by what stands around the rest and at its ends, and `Decimal.Spells` by the sum
of the digits, each times its power of ten. `Text.trim` and `Decimal.number?` compute them.
-/

namespace PointExchange

/-! ## Blanks at the ends -/

namespace Text

variable {s core before after : List Char}

/-- The second text is the first one without the blanks at its ends. -/
structure TrimsTo (s core : List Char) : Prop where
  padded : ∃ before after, s = before ++ core ++ after ∧ (∀ c ∈ before, isSpace c = true) ∧
    ∀ c ∈ after, isSpace c = true
  first : ∀ c ∈ core.head?, isSpace c = false
  last : ∀ c ∈ core.getLast?, isSpace c = false

theorem trimEnd_of_forall (h : ∀ c ∈ s, isSpace c = true) : trimEnd s = [] := by
  induction s with
  | nil => rfl
  | cons c r ih =>
    obtain ⟨hc, hr⟩ := List.forall_mem_cons.mp h
    simp [trimEnd, ih hr, hc]

/-- Blanks at the end do not matter. -/
theorem trimEnd_append (h : ∀ c ∈ after, isSpace c = true) :
    trimEnd (s ++ after) = trimEnd s := by
  induction s with
  | nil => exact trimEnd_of_forall h
  | cons c r ih =>
    rw [List.cons_append, trimEnd, ih]
    rfl

theorem exists_eq_trimEnd_append (s : List Char) :
    ∃ after, s = trimEnd s ++ after ∧ ∀ c ∈ after, isSpace c = true := by
  induction s with
  | nil => exact ⟨[], rfl, by simp⟩
  | cons c r ih =>
    obtain ⟨after, whole, blank⟩ := ih
    rw [trimEnd]
    split
    next none_left =>
      rw [none_left, List.nil_append] at whole
      by_cases hc : isSpace c = true
      · exact ⟨c :: r, by simp [hc], List.forall_mem_cons.mpr ⟨hc, whole ▸ blank⟩⟩
      · exact ⟨r, by simp [hc], whole ▸ blank⟩
    next => exact ⟨after, congrArg (c :: ·) whole, blank⟩

theorem getLast?_trimEnd (s : List Char) : ∀ c ∈ (trimEnd s).getLast?, isSpace c = false := by
  induction s with
  | nil => simp [trimEnd]
  | cons c r ih =>
    rw [trimEnd]
    split
    next =>
      split
      next => simp
      next hc => simpa using hc
    next some_left =>
      rw [List.getLast?_cons_of_ne_nil some_left]
      exact ih

theorem head?_trimEnd (h : ∀ c ∈ s.head?, isSpace c = false) :
    ∀ c ∈ (trimEnd s).head?, isSpace c = false := by
  obtain ⟨after, whole, -⟩ := exists_eq_trimEnd_append s
  intro c hc
  refine h c ?_
  rw [whole, List.head?_append, Option.mem_def.mp hc]
  rfl

/-- **`trim` leaves what stands between the blanks.** -/
theorem trimsTo_iff : TrimsTo s core ↔ trim s = core := by
  constructor
  · rintro ⟨⟨before, after, rfl, front, back⟩, first, last⟩
    have dropped : (before ++ core ++ after).dropWhile isSpace =
        (core ++ after).dropWhile isSpace := by
      rw [List.append_assoc, List.dropWhile_append_of_pos front]
    rw [trim, dropped]
    cases core with
    | nil =>
      rw [List.nil_append, List.dropWhile_eq_nil_iff.mpr back]
      rfl
    | cons c r =>
      have hc : ¬isSpace c = true := by simp [first c rfl]
      rw [List.cons_append, List.dropWhile_cons_of_neg hc, ← List.cons_append,
        trimEnd_append back, trimEnd_eq_self last]
  · rintro rfl
    obtain ⟨after, whole, back⟩ := exists_eq_trimEnd_append (s.dropWhile isSpace)
    refine ⟨⟨s.takeWhile isSpace, after, ?_, fun c hc => ?_, back⟩, head?_trimEnd ?_,
      getLast?_trimEnd _⟩
    · rw [trim, List.append_assoc, ← whole, List.takeWhile_append_dropWhile]
    · exact List.mem_takeWhile_imp hc
    · intro c hc
      have := List.head?_dropWhile_not isSpace s
      rw [Option.mem_def.mp hc] at this
      simpa using this

end Text

/-! ## Numerals -/

namespace Decimal

variable {s r : List Char} {n : Nat}

/-- The text is a string of digits, and the number is the sum of the digits, each times its power
of ten. -/
structure Spells (s : List Char) (n : Nat) : Prop where
  nonempty : s ≠ []
  digits : ∀ c ∈ s, isDigit c = true
  sum : n = Nat.ofDigits 10 (s.map digitValue).reverse

theorem value_eq_ofDigits (s : List Char) :
    value s = Nat.ofDigits 10 (s.map digitValue).reverse := by
  induction s with
  | nil => rfl
  | cons c r ih =>
    rw [value_cons, ih, List.map_cons, List.reverse_cons, Nat.ofDigits_append,
      Nat.ofDigits_singleton, List.length_reverse, List.length_map, Nat.pow_eq]
    ring

/-- **`number?` reads what spells a number.** -/
theorem spells_iff : Spells s n ↔ number? s = some n := by
  have all : (!s.isEmpty && s.all isDigit) = true ↔ s ≠ [] ∧ ∀ c ∈ s, isDigit c = true := by
    simp
  rw [number?]
  split
  next h =>
    obtain ⟨nonempty, digits⟩ := all.mp h
    rw [Option.some.injEq, value_eq_ofDigits]
    exact ⟨fun spells => spells.sum.symm, fun sum => ⟨nonempty, digits, sum.symm⟩⟩
  next h =>
    refine ⟨fun spells => ?_, fun h => by simp at h⟩
    exact absurd (all.mpr ⟨spells.nonempty, spells.digits⟩) h

theorem Spells.zero_cons (h : Spells s n) : Spells ('0' :: s) n := by
  refine ⟨List.cons_ne_nil _ _, List.forall_mem_cons.mpr ⟨rfl, h.digits⟩, ?_⟩
  rw [← value_eq_ofDigits, value_zero_cons, value_eq_ofDigits]
  exact h.sum

/-- The text of a number spells it, with any number of zeros in front. -/
theorem spells_zeros_text (zeros n : Nat) :
    Spells (List.replicate zeros '0' ++ (text n).toList) n := by
  induction zeros with
  | zero =>
    rw [List.replicate_zero, List.nil_append, text, String.toList_ofList]
    refine ⟨Nat.toDigits_ne_nil, fun c => Json.isDigit_of_mem_toDigits, ?_⟩
    rw [← value_eq_ofDigits, Json.value_toDigits]
  | succ zeros ih => exact ih.zero_cons

/-- A digit is no blank. -/
theorem isSpace_of_isDigit {c : Char} (h : isDigit c = true) : Text.isSpace c = false := by
  simp only [isDigit, Bool.and_eq_true, decide_eq_true_eq] at h
  simp only [Text.isSpace, Bool.or_eq_false_iff, Bool.and_eq_false_iff, decide_eq_false_iff_not,
    beq_eq_false_iff_ne]
  omega

/-- Blanks around a numeral are what trimming takes away. -/
theorem Spells.trimsTo (h : Spells s n) {before after : List Char}
    (front : ∀ c ∈ before, Text.isSpace c = true) (back : ∀ c ∈ after, Text.isSpace c = true) :
    Text.TrimsTo (before ++ s ++ after) s where
  padded := ⟨before, after, rfl, front, back⟩
  first c hc := isSpace_of_isDigit (h.digits c (List.mem_of_head? hc))
  last c hc := isSpace_of_isDigit (h.digits c (List.mem_of_getLast? hc))

end Decimal

/-! ## Amounts -/

/-- The text of a number with zeros in front of it and something around it. -/
def paddedText (before : List Char) (zeros n : Nat) (after : List Char) : String :=
  String.ofList (before ++ (List.replicate zeros '0' ++ (Decimal.text n).toList) ++ after)

/-- Without the blanks at its ends the text is a numeral of the number. -/
def SpellsAmount (s : String) (n : Nat) : Prop :=
  ∃ core, Text.TrimsTo s.toList core ∧ Decimal.Spells core n

section Amounts

variable {s : String} {n : Nat} {w : Word}

theorem spellsAmount_iff :
    SpellsAmount s n ↔ Decimal.number? (Text.trim s.toList) = some n := by
  simp [SpellsAmount, Text.trimsTo_iff, Decimal.spells_iff]

theorem amount?_eq_some_iff : amount? s = some w ↔ SpellsAmount s w.toNat := by
  rw [spellsAmount_iff]
  refine ⟨toNat_of_amount?, fun h => ?_⟩
  rw [amount?, h]
  dsimp only
  rw [if_pos w.isLt, BitVec.ofNat_toNat, BitVec.setWidth_eq]

theorem spellsAmount_paddedText (n zeros : Nat) {before after : List Char}
    (front : ∀ c ∈ before, Text.isSpace c = true) (back : ∀ c ∈ after, Text.isSpace c = true) :
    SpellsAmount (paddedText before zeros n after) n := by
  have numeral := Decimal.spells_zeros_text zeros n
  refine ⟨_, ?_, numeral⟩
  rw [paddedText, String.toList_ofList]
  exact numeral.trimsTo front back

theorem parseAmount_eq_error (h : amount? s = none) :
    parseAmount s = .error (.invalidAmount s) := by
  rw [parseAmount, h]

theorem parseAmount_of_spellsAmount (h : SpellsAmount s n) :
    parseAmount s =
      if n < 2 ^ 256 then .ok (BitVec.ofNat 256 n) else .error (.invalidAmount s) := by
  rw [parseAmount, amount?, spellsAmount_iff.mp h]
  simp only [Nat.pow_eq]
  by_cases small : n < 2 ^ 256
  · rw [if_pos small, if_pos small]
  · rw [if_neg small, if_neg small]

theorem map_parseAmount_eq_ok_iff :
    (parseAmount s).map BitVec.toNat = .ok n ↔ SpellsAmount s n ∧ n < 2 ^ 256 := by
  constructor
  · intro h
    cases hs : parseAmount s with
    | error e => simp [hs, Except.map] at h
    | ok w =>
      obtain rfl : w.toNat = n := by simpa [hs, Except.map] using h
      exact ⟨amount?_eq_some_iff.mp (parseAmount_eq_ok_iff.mp hs), w.isLt⟩
  · rintro ⟨spells, small⟩
    rw [parseAmount_of_spellsAmount spells, if_pos small, Except.map, BitVec.toNat_ofNat,
      Nat.mod_eq_of_lt small]

end Amounts

/-- **The amounts are the decimal numerals below `2 ^ 256`.** A text is read as the amount `n` if
without the blanks at its ends it spells `n`, and `n` is below the limit. Every other text is
refused, and the error cites it as it was given. So the text of a number below the limit is read as
that number, with zeros in front and blanks around it, and the text of any other is refused. -/
theorem amounts_are_numerals (s : String) :
    (∀ n, (parseAmount s).map BitVec.toNat = .ok n ↔ SpellsAmount s n ∧ n < 2 ^ 256) ∧
    ((¬∃ n, SpellsAmount s n ∧ n < 2 ^ 256) → parseAmount s = .error (.invalidAmount s)) ∧
    ∀ (n zeros : Nat) (before after : List Char), (∀ c ∈ before, Text.isSpace c = true) →
      (∀ c ∈ after, Text.isSpace c = true) →
      parseAmount (paddedText before zeros n after) =
        if n < 2 ^ 256 then .ok (BitVec.ofNat 256 n)
        else .error (.invalidAmount (paddedText before zeros n after)) := by
  refine ⟨fun n => map_parseAmount_eq_ok_iff, fun none_spelled => ?_, ?_⟩
  · refine parseAmount_eq_error (Option.eq_none_iff_forall_not_mem.mpr fun w hw => ?_)
    exact none_spelled ⟨w.toNat, amount?_eq_some_iff.mp hw, w.isLt⟩
  · intro n zeros before after front back
    exact parseAmount_of_spellsAmount (spellsAmount_paddedText n zeros front back)

theorem amounts_are_numerals_limit :
    (parseAmount " 007").map BitVec.toNat = .ok 7 ∧
    parseAmount "7 7" = .error (.invalidAmount "7 7") ∧
    parseAmount (paddedText ['\u3000'] 2 (2 ^ 256) ['\n']) =
      .error (.invalidAmount (paddedText ['\u3000'] 2 (2 ^ 256) ['\n'])) := by
  have seven : SpellsAmount " 007" 7 := spellsAmount_iff.mpr (by decide)
  have apart : ¬∃ n, SpellsAmount "7 7" n ∧ n < 2 ^ 256 := by
    have no_number : Decimal.number? (Text.trim "7 7".toList) = none := by decide
    rintro ⟨n, spells, -⟩
    exact absurd ((spellsAmount_iff.mp spells).symm.trans no_number) (by simp)
  have limit := (amounts_are_numerals "").2.2 (2 ^ 256) 2 ['\u3000'] ['\n']
    (List.forall_mem_singleton.mpr rfl) (List.forall_mem_singleton.mpr rfl)
  rw [if_neg (Nat.lt_irrefl _)] at limit
  exact ⟨((amounts_are_numerals " 007").1 7).mpr ⟨seven, by decide⟩,
    (amounts_are_numerals "7 7").2.1 apart, limit⟩

end PointExchange
