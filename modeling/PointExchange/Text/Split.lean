/-!
# Texts in pieces

`Text.split` cuts a text at every separator. The pieces hold no separator
(`not_mem_split`), and joined with the separator they are the text again (`join_split`).
-/

namespace PointExchange.Text

/-- The pieces between the separators, at least one. -/
def split (isSeparator : Char → Bool) : List Char → List (List Char)
  | [] => [[]]
  | c :: r =>
    if isSeparator c then [] :: split isSeparator r
    else
      match split isSeparator r with
      | [] => [[c]]
      | piece :: rest => (c :: piece) :: rest

/-- The text before the first separator and the text after it, if there is one. -/
def splitFirst (separator : Char) (s : List Char) : List Char × Option (List Char) :=
  match s.dropWhile (· != separator) with
  | [] => (s, none)
  | _ :: r => (s.takeWhile (· != separator), some r)

/-- The pieces with a separator between two of them. -/
def join (separator : Char) : List (List Char) → List Char
  | [] => []
  | [piece] => piece
  | piece :: rest => piece ++ separator :: join separator rest

theorem split_ne_nil (p : Char → Bool) (s : List Char) : split p s ≠ [] := by
  cases s with
  | nil => simp [split]
  | cons c r =>
    rw [split]
    split
    · simp
    · split <;> simp

/-- No piece holds a separator. -/
theorem not_mem_split {p : Char → Bool} {s piece : List Char} (h : piece ∈ split p s) :
    ∀ c ∈ piece, p c = false := by
  induction s generalizing piece with
  | nil => simp_all [split]
  | cons c r ih =>
    rw [split] at h
    split at h
    · rcases List.mem_cons.mp h with rfl | h
      · simp
      · exact ih h
    next hc =>
      split at h
      · next he => exact absurd he (split_ne_nil p r)
      next first rest he =>
        rcases List.mem_cons.mp h with rfl | h
        · intro x hx
          rcases List.mem_cons.mp hx with rfl | hx
          · simpa using hc
          · exact ih (he ▸ List.mem_cons_self) x hx
        · exact ih (he ▸ List.mem_cons_of_mem _ h)

/-- The pieces joined are the text. -/
theorem join_split (separator : Char) (s : List Char) :
    join separator (split (· == separator) s) = s := by
  induction s with
  | nil => rfl
  | cons c r ih =>
    rw [split]
    have hne := split_ne_nil (· == separator) r
    split
    next hc =>
      have hc : c = separator := by simpa using hc
      cases he : split (· == separator) r with
      | nil => exact absurd he hne
      | cons piece rest => simpa [join, hc, he] using ih
    · cases he : split (· == separator) r with
      | nil => exact absurd he hne
      | cons piece rest =>
        rw [he] at ih
        cases rest with
        | nil => simpa [join] using ih
        | cons second rest => simpa [join] using ih

end PointExchange.Text
