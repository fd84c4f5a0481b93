import PointExchange.Hex
import PointExchange.Text.Split

/-!
# Tables of code points

A table says something of ranges of code points, in ascending order, and is searched by halves. It
is written as a text of items with blanks or line ends between them: the first code point in
hexadecimal digits, behind a hyphen the last one if there are more, and behind an equals sign what
the table says.
-/

namespace PointExchange.Text

/-- A closed range of code points, and what a table says of it. -/
structure CodeRange (α : Type) where
  first : Nat
  last : Nat
  value : α

namespace CodeRange

/-- The range holds a code point. -/
def Holds {α : Type} (r : CodeRange α) (n : Nat) : Prop := r.first ≤ n ∧ n ≤ r.last

/-- Reads an item of a table's text. -/
def ofText? {α : Type} (read? : List Char → Option α) (item : List Char) :
    Option (CodeRange α) := do
  let (codes, value) := splitFirst '=' item
  let (first, last) := splitFirst '-' codes
  return ⟨← Hex.number? first, ← Hex.number? (last.getD first), ← read? (value.getD [])⟩

end CodeRange

/-- A table of code points. -/
abbrev CodeTable (α : Type) := Array (CodeRange α)

namespace CodeTable

/-- The table of a text. -/
def ofText {α : Type} (read? : List Char → Option α) (text : String) : CodeTable α :=
  let items := (split Char.isWhitespace text.toList).filter (!·.isEmpty)
  (items.filterMap (CodeRange.ofText? read?)).toArray

/-- A table that says of code points only that they are in it. -/
def ofSet (text : String) : CodeTable Unit := ofText (fun _ => some ()) text

/-- The range of a code point among those from the place `low` up to before the place `high`. -/
def findBetween? {α : Type} (t : CodeTable α) (n low high : Nat) : Option (CodeRange α) :=
  if low < high then
    match t[(low + high) / 2]? with
    | none => none
    | some r =>
      if n < r.first then findBetween? t n low ((low + high) / 2)
      else if r.last < n then findBetween? t n ((low + high) / 2 + 1) high
      else some r
  else none
termination_by high - low
decreasing_by all_goals omega

/-- The range of a code point. -/
def find? {α : Type} (t : CodeTable α) (n : Nat) : Option (CodeRange α) :=
  findBetween? t n 0 t.size

/-- The table says something of a character. -/
def contains {α : Type} (t : CodeTable α) (c : Char) : Bool := (t.find? c.toNat).isSome

/-- What the table says of a character. -/
def value? {α : Type} (t : CodeTable α) (c : Char) : Option α := (t.find? c.toNat).map (·.value)

/-- **The range that is found holds the code point.** -/
theorem holds_of_findBetween? {α : Type} {t : CodeTable α} {n low high : Nat} {r : CodeRange α}
    (h : t.findBetween? n low high = some r) : r.Holds n := by
  fun_induction findBetween? t n low high with
  | case1 => cases h
  | case2 _ _ _ _ _ _ ih => exact ih h
  | case3 _ _ _ _ _ _ _ ih => exact ih h
  | case4 _ _ _ _ _ hf hl =>
    obtain rfl := Option.some.inj h
    exact ⟨Nat.le_of_not_lt hf, Nat.le_of_not_lt hl⟩
  | case5 => cases h

/-- A range that is found is one of the table's. -/
theorem mem_of_findBetween? {α : Type} {t : CodeTable α} {n low high : Nat} {r : CodeRange α}
    (h : t.findBetween? n low high = some r) : r ∈ t := by
  fun_induction findBetween? t n low high with
  | case1 => cases h
  | case2 _ _ _ _ _ _ ih => exact ih h
  | case3 _ _ _ _ _ _ _ ih => exact ih h
  | case4 _ _ _ _ hr _ _ =>
    obtain rfl := Option.some.inj h
    exact Array.mem_of_getElem? hr
  | case5 => cases h

end CodeTable
end PointExchange.Text
