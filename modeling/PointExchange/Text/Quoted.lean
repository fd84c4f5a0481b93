import PointExchange.Hex
import PointExchange.Text.Unprintable

/-!
# Quoted texts

An error that cites what it was given puts the text between double quotes, so that blanks and
invisible characters show. The quote and the backslash are escaped, four controls have a letter,
and any other unprintable character is written as its code point, `\\u{301}`.
-/

namespace PointExchange.Text

/-- One character inside the quotes. -/
def quotedChar (c : Char) : List Char :=
  match c with
  | '\x00' => ['\\', '0']
  | '\t' => ['\\', 't']
  | '\r' => ['\\', 'r']
  | '\n' => ['\\', 'n']
  | '"' => ['\\', '"']
  | '\\' => ['\\', '\\']
  | c =>
    if isUnprintable c then ['\\', 'u', '\x7b'] ++ Hex.ofNat c.toNat ++ ['\x7d'] else [c]

/-- A text between quotes. -/
def quoted (s : String) : String :=
  String.ofList ('"' :: s.toList.flatMap quotedChar ++ ['"'])

/-- A printable character other than the quote and the backslash stands for itself. -/
theorem quotedChar_eq_self {c : Char} (h : isUnprintable c = false)
    (hs : c ∉ ['\x00', '\t', '\r', '\n', '"', '\\']) : quotedChar c = [c] := by
  simp only [List.mem_cons, List.not_mem_nil, or_false, not_or] at hs
  obtain ⟨h0, ht, hr, hn, hq, hb⟩ := hs
  unfold quotedChar
  split <;> simp_all

end PointExchange.Text
