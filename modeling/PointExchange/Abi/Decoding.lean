import PointExchange.Abi.Encoding

/-!
# Reading call data

The readers find an argument of a block by its place: the word at the place, or what stands where
that word points to. They refuse what the block is too short for and ignore what they do not need,
the fill of a byte string and the octets behind the last tail among it.
-/

namespace PointExchange.Abi

/-- The word at an offset. -/
def wordAt? (b : Bytes) (offset : Nat) : Option Word :=
  let w := (b.drop offset).take 32
  if w.length = 32 then some (BitVec.ofNat 256 (Bytes.toNat w)) else none

/-- The byte string that starts at an offset. -/
def bytesAt? (b : Bytes) (offset : Nat) : Option Bytes :=
  match wordAt? b offset with
  | some n =>
    let content := (b.drop (offset + 32)).take n.toNat
    if content.length = n.toNat then some content else none
  | none => none

/-- The word argument in a place. -/
def word? (b : Bytes) (place : Nat) : Option Word := wordAt? b (32 * place)

/-- The address argument in a place. -/
def address? (b : Bytes) (place : Nat) : Option Address :=
  (word? b place).map fun w => ⟨w.setWidth 160⟩

/-- The byte string argument in a place. -/
def bytes? (b : Bytes) (place : Nat) : Option Bytes :=
  (word? b place).bind fun offset => bytesAt? b offset.toNat

/-- The first `n` byte strings of a block, from a place on. -/
def items? (b : Bytes) : Nat → Nat → Option (List Bytes)
  | 0, _ => some []
  | n + 1, place =>
    match bytes? b place with
    | some x => (items? b n (place + 1)).map (x :: ·)
    | none => none

/-- The list argument in a place. -/
def list? (b : Bytes) (place : Nat) : Option (List Bytes) :=
  match word? b place with
  | some offset =>
    match wordAt? b offset.toNat with
    | some n =>
      let body := b.drop (offset.toNat + 32)
      if 32 * n.toNat ≤ body.length then items? body n.toNat 0 else none
    | none => none
  | none => none

/-- The arguments behind a selector of four octets. -/
def argumentsOf? (selector : Bytes) (b : Bytes) : Option Bytes :=
  if b.take 4 = selector then some (b.drop 4) else none

theorem argumentsOf?_append {selector : Bytes} (h : selector.length = 4) (b : Bytes) :
    argumentsOf? selector (selector ++ b) = some b := by
  simp [argumentsOf?, h]

end PointExchange.Abi
