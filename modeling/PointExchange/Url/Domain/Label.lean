import PointExchange.Text.Bidi
import PointExchange.Text.Joining
import PointExchange.Text.Mark
import PointExchange.Text.Normal
import PointExchange.Url.Domain.Mapping
import PointExchange.Url.Punycode

/-!
# Labels of domain names

A label beyond ASCII is written in ASCII by `Punycode` behind a mark. It does not begin with a mark
on the character before it, and the two invisible joiners stand only where they change how letters
look. In a name with letters that run to the left, each label runs one way (`Label.fitsBidi`).
-/

namespace PointExchange.Url

/-- A label. -/
structure Label where
  chars : List Char
  /-- the written form in ASCII -/
  text : List Char

namespace Label

/-- The mark of a label that is written by differences. -/
def punycodeMark : List Char := "xn--".toList

/-- The longest label that is written by differences. -/
def maxLength : Nat := 1000

/-- The longest text of differences that is read. -/
def maxTextLength : Nat := 2000

def nonJoiner : Char := '\u200c'

def joiner : Char := '\u200d'

/-- The class of the marks that take the vowel off a consonant. -/
def viramaClass : Nat := 9

/-- A joiner stands behind a character that takes the vowel off a consonant; a non-joiner may also
part two letters that would join. The characters before are given latest first. -/
def joinersFit (before : List Char) : List Char → Bool
  | [] => true
  | c :: r =>
    let fits :=
      if c = nonJoiner || c = joiner then
        match before with
        | [] => false
        | p :: _ =>
          Text.combiningClass p = viramaClass ||
            (c = nonJoiner && Text.joinsAs .left .dual before && Text.joinsAs .right .dual r)
      else true
    fits && joinersFit (c :: before) r

/-- Whether characters beyond ASCII may be a label. -/
def isWellFormed (s : List Char) : Bool :=
  !s.head?.any Text.isMark && joinersFit [] s && s.length ≤ maxLength

/-- The label that is written by differences. It is in the one form already. -/
def ofPunycode? (s : List Char) : Option Label := do
  if s.getLast? = some '-' || maxTextLength < s.length then none
  else
    let chars ← Punycode.decode? s
    let isOneForm := chars.all (fun c => replacement? c = some [c]) && Text.composed chars = chars
    let isBeyond := !chars.all (·.toNat < 128)
    if isOneForm && isBeyond && Punycode.encode chars = s && isWellFormed chars then
      return ⟨chars, punycodeMark ++ s⟩
    else none

/-- The label of characters in the one form. -/
def ofChars? (s : List Char) : Option Label :=
  if punycodeMark.isPrefixOf s then ofPunycode? (s.drop punycodeMark.length)
  else if s.all (·.toNat < 128) then some ⟨s, s⟩
  else if isWellFormed s then some ⟨s, punycodeMark ++ Punycode.encode s⟩
  else none

/-! ## Directions -/

/-- A label holds a letter or a number that runs to the left. There is none before `U+0590`. -/
def isRightToLeft (l : Label) : Bool :=
  l.chars.any fun c => 0x590 ≤ c.toNat && (Text.bidiClass c).isRightToLeft

/-- What may stand inside a label whose first letter runs to the right. -/
def isInner (leftward : Bool) (k : Text.BidiClass) : Bool :=
  k.isNeutral || k = .europeanNumber || (if leftward then k.isRightToLeft else k = .left)

/-- What may stand at the end of such a label, before marks. -/
def isLast (leftward : Bool) (k : Text.BidiClass) : Bool := isInner leftward k && !k.isNeutral

/-- A label runs one way: it begins with a letter, has only letters of that direction, ends in a
letter or a number, and does not mix European with Arabic numbers if it runs to the left. -/
def fitsBidi (l : Label) : Bool :=
  match l.chars.map Text.bidiClass with
  | [] => true
  | first :: rest =>
    let leftward := first = .right || first = .arabicLetter
    (first = .left || leftward) &&
      match rest.reverse.dropWhile (· = .nonspacingMark) with
      | [] => true
      | last :: inner =>
        isLast leftward last && inner.all (isInner leftward) &&
          !(leftward && (last :: inner).contains .europeanNumber &&
            (last :: inner).contains .arabicNumber)

/-- A label of ASCII that has not the mark is written as it is. -/
theorem ofChars?_ascii {s : List Char} (hm : punycodeMark.isPrefixOf s = false)
    (h : ∀ c ∈ s, c.toNat < 128) : ofChars? s = some ⟨s, s⟩ := by
  have all : s.all (·.toNat < 128) = true := by simpa using h
  simp [ofChars?, hm, all]

end Label
end PointExchange.Url
