/-!
# White space at the ends of a text

The blanks are the characters with the property `White_Space` of the Unicode standard.
-/

namespace PointExchange.Text

/-- The property `White_Space`. -/
def isSpace (c : Char) : Bool :=
  let n := c.toNat
  (9 ≤ n && n ≤ 13) || n == 0x20 || n == 0x85 || n == 0xA0 || n == 0x1680 ||
  (0x2000 ≤ n && n ≤ 0x200A) || n == 0x2028 || n == 0x2029 || n == 0x202F || n == 0x205F ||
  n == 0x3000

/-- A text without the blanks at its end. -/
def trimEnd : List Char → List Char
  | [] => []
  | c :: r =>
    match trimEnd r with
    | [] => if isSpace c then [] else [c]
    | t => c :: t

/-- A text without the blanks at its two ends. -/
def trim (s : List Char) : List Char := trimEnd (s.dropWhile isSpace)

/-- What core counts as white space is a blank here too. -/
theorem isSpace_of_isWhitespace (c : Char) (h : c.isWhitespace = true) : isSpace c = true := by
  simp only [Char.isWhitespace, Bool.or_eq_true, decide_eq_true_eq] at h
  rcases h with ((h | h) | h) | h <;> subst h <;> decide

/-- A text that ends in no blank is its own trimmed form. -/
theorem trimEnd_eq_self {s : List Char} (h : ∀ c ∈ s.getLast?, isSpace c = false) :
    trimEnd s = s := by
  induction s with
  | nil => rfl
  | cons c r ih =>
    cases r with
    | nil => simp [trimEnd, h c (by simp)]
    | cons d t =>
      have hr := ih (by simpa using h)
      rw [trimEnd, hr]

end PointExchange.Text
