import PointExchange.Url.Domain.Label

/-!
# Domain names

A domain name is compared and written in one form: its characters are replaced by the ones that they
stand for and composed, and each label is written in ASCII.
-/

namespace PointExchange.Url

/-- A character that no domain name has. -/
def isForbiddenInDomain (c : Char) : Bool :=
  c.toNat ≤ 0x20 || c.toNat = 0x7F || "%#/:<>?@[\\]^|".toList.contains c

/-- The labels of a domain name. -/
def labels? (name : List Char) : Option (List Label) := do
  let replaced ← name.mapM replacement?
  let labels ← (Text.split (· == '.') (Text.composed replaced.flatten)).mapM Label.ofChars?
  if labels.any Label.isRightToLeft && !labels.all Label.fitsBidi then none else return labels

/-- The one form of a domain name. -/
def domainToAscii? (name : List Char) : Option (List Char) := do
  let labels ← labels? name
  let text := Text.join '.' (labels.map Label.text)
  if text.any isForbiddenInDomain then none else return text

end PointExchange.Url
