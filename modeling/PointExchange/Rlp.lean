import PointExchange.Bytes

/-!
# Recursive length prefixes

The encoding of transactions. A single octet below 128 stands for itself; any other string, and
any list of encoded items, is written behind its length. Numbers are strings without leading
zeros.
-/

namespace PointExchange.Rlp

/-- What stands in front of `length` octets; `base` is 128 for a string and 192 for a list. -/
def lead (base length : Nat) : Bytes :=
  if length ≤ 55 then [UInt8.ofNat (base + length)]
  else
    let digits := Bytes.ofNatMinimal length
    UInt8.ofNat (base + 55 + digits.length) :: digits

/-- A string. -/
def string (b : Bytes) : Bytes :=
  match b with
  | [d] => if d < 128 then [d] else [129, d]
  | b => lead 128 b.length ++ b

/-- A number. -/
def number (n : Nat) : Bytes := string (Bytes.ofNatMinimal n)

/-- A list of encoded items. -/
def list (items : List Bytes) : Bytes :=
  let content := items.flatten
  lead 192 content.length ++ content

/-- Zero is the empty string. -/
theorem number_zero : number 0 = [128] := by
  simp [number, string, lead, Bytes.ofNatMinimal]

end PointExchange.Rlp
