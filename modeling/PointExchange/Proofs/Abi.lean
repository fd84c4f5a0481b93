import Mathlib.Algebra.Group.Nat.Defs
import PointExchange.Abi.Decoding

/-!
# Call data is read back

A reader finds in a block what was laid out there, whatever stands behind the block.

## How the places are found

All lemmas say what is left of a byte string when its front is dropped. Dropping the words ahead of
a part leaves its word (`drop_words`); dropping all words and the tails ahead of a part leaves its
tail (`drop_block_tail`). The word of a tail is the length of what was dropped there, as long as
that length fits a word.
-/

namespace PointExchange.Abi

/-! ## What stands at an offset -/

theorem toNat_wordOfNat {n : Nat} (h : n < 2 ^ 256) : (BitVec.ofNat 256 n).toNat = n := by
  rw [BitVec.toNat_ofNat]
  exact Nat.mod_eq_of_lt h

theorem wordAt?_of_drop {b rest : Bytes} {offset : Nat} {w : Word}
    (h : b.drop offset = wordBytes w ++ rest) : wordAt? b offset = some w := by
  have ht : (b.drop offset).take 32 = wordBytes w := by
    rw [h]
    exact List.take_left' (length_wordBytes w)
  simp only [wordAt?, ht, length_wordBytes, if_true, toNat_wordBytes]
  rw [BitVec.ofNat_toNat, BitVec.setWidth_eq]

theorem bytesAt?_of_drop {b content rest : Bytes} {offset : Nat}
    (h : b.drop offset = wordOfNat content.length ++ (content ++ rest))
    (hc : content.length < 2 ^ 256) : bytesAt? b offset = some content := by
  have hd : b.drop (offset + 32) = content ++ rest := by
    rw [← List.drop_drop, h]
    exact List.drop_left' (length_wordOfNat _)
  rw [bytesAt?, wordAt?_of_drop h]
  simp only [toNat_wordOfNat hc, hd, List.take_left', if_true]

/-! ## The words and the tails of a block -/

/-- The word of a part whose tail, if it has one, starts at `offset`. -/
def Part.head : Part → Nat → Bytes
  | .word w, _ => wordBytes w
  | .tail _, offset => wordOfNat offset

/-- What a part puts behind the words. -/
def Part.body : Part → Bytes
  | .word _ => []
  | .tail b => b

theorem words_cons (p : Part) (r : List Part) (offset : Nat) :
    words (p :: r) offset = p.head offset ++ words r (offset + p.body.length) := by
  cases p <;> rfl

theorem tails_cons (p : Part) (r : List Part) : tails (p :: r) = p.body ++ tails r := by
  cases p <;> rfl

@[simp] theorem length_head (p : Part) (offset : Nat) : (p.head offset).length = 32 := by
  cases p <;> simp [Part.head]

/-- **Behind the words ahead of a part stands its word.** -/
theorem drop_words : ∀ (parts : List Part) (offset i : Nat) {p : Part}, parts[i]? = some p →
    ∃ rest, (words parts offset).drop (32 * i) =
      p.head (offset + (tails (parts.take i)).length) ++ rest
  | [], _, _, _, h => by simp at h
  | q :: r, offset, 0, p, h => by
    obtain rfl : q = p := by simpa using h
    exact ⟨_, words_cons q r offset⟩
  | q :: r, offset, i + 1, p, h => by
    obtain ⟨rest, hr⟩ := drop_words r (offset + q.body.length) i (by simpa using h)
    refine ⟨rest, ?_⟩
    rw [words_cons, show 32 * (i + 1) = 32 + 32 * i by omega, ← List.drop_drop,
      List.drop_left' (length_head q offset), hr, List.take_succ_cons, tails_cons,
      List.length_append, Nat.add_assoc]

/-- **Behind the tails ahead of a part stands its tail.** -/
theorem tails_eq : ∀ (parts : List Part) (i : Nat) {p : Part}, parts[i]? = some p →
    ∃ rest, tails parts = tails (parts.take i) ++ (p.body ++ rest)
  | [], _, _, h => by simp at h
  | q :: r, 0, p, h => by
    obtain rfl : q = p := by simpa using h
    exact ⟨tails r, tails_cons q r⟩
  | q :: r, i + 1, p, h => by
    obtain ⟨rest, hr⟩ := tails_eq r i (by simpa using h)
    refine ⟨rest, ?_⟩
    rw [List.take_succ_cons, tails_cons, tails_cons, hr, List.append_assoc]

/-- Where the tail of the part in a place starts. -/
def tailOffset (parts : List Part) (i : Nat) : Nat :=
  32 * parts.length + (tails (parts.take i)).length

theorem drop_block_head {parts : List Part} {i : Nat} {p : Part} (h : parts[i]? = some p)
    (rest : Bytes) :
    ∃ more, (block parts ++ rest).drop (32 * i) = p.head (tailOffset parts i) ++ more := by
  obtain ⟨more, hm⟩ := drop_words parts (32 * parts.length) i h
  have hi : i < parts.length := (List.getElem?_eq_some_iff.mp h).1
  refine ⟨more ++ (tails parts ++ rest), ?_⟩
  rw [block, List.append_assoc, List.drop_append_of_le_length, hm, List.append_assoc, tailOffset]
  rw [length_words]
  omega

theorem drop_block_tail {parts : List Part} {i : Nat} {p : Part} (h : parts[i]? = some p)
    (rest : Bytes) :
    ∃ more, (block parts ++ rest).drop (tailOffset parts i) = p.body ++ more := by
  obtain ⟨more, hm⟩ := tails_eq parts i h
  refine ⟨more ++ rest, ?_⟩
  rw [tailOffset, block, List.append_assoc, ← List.drop_drop,
    List.drop_left' (length_words parts _), hm, List.append_assoc, List.drop_left,
    List.append_assoc]

theorem tailOffset_le {parts : List Part} {i : Nat} {p : Part} (h : parts[i]? = some p) :
    tailOffset parts i + p.body.length ≤ (block parts).length := by
  obtain ⟨more, hm⟩ := tails_eq parts i h
  rw [block, List.length_append, length_words, hm, tailOffset]
  simp only [List.length_append]
  omega

/-! ## Arguments by their places -/

section Arguments

variable {parts : List Part} {place : Nat}

theorem word?_block {w : Word} (h : parts[place]? = some (.word w)) (rest : Bytes) :
    word? (block parts ++ rest) place = some w := by
  obtain ⟨more, hm⟩ := drop_block_head h rest
  exact wordAt?_of_drop hm

theorem address?_block {a : Address} (h : parts[place]? = some (addressPart a)) (rest : Bytes) :
    address? (block parts ++ rest) place = some a := by
  have ha : (a.bits.setWidth 256).setWidth 160 = a.bits := by
    apply BitVec.eq_of_toNat_eq
    have := a.bits.isLt
    simp only [BitVec.toNat_setWidth]
    omega
  rw [address?, word?_block h, Option.map_some, ha]

/-- The word of a tail says where the tail starts. -/
theorem word?_block_tail {b : Bytes} (h : parts[place]? = some (.tail b))
    (hp : (block parts).length < 2 ^ 256) (rest : Bytes) :
    ∃ w, word? (block parts ++ rest) place = some w ∧ w.toNat = tailOffset parts place := by
  obtain ⟨more, hm⟩ := drop_block_head h rest
  have hle := tailOffset_le h
  exact ⟨_, wordAt?_of_drop hm, toNat_wordOfNat (by omega)⟩

theorem bytes?_block {b : Bytes} (h : parts[place]? = some (bytesPart b))
    (hp : (block parts).length < 2 ^ 256) (rest : Bytes) :
    bytes? (block parts ++ rest) place = some b := by
  obtain ⟨w, hw, hn⟩ := word?_block_tail h hp rest
  obtain ⟨more, hm⟩ := drop_block_tail h rest
  have hle := tailOffset_le h
  have hb : b.length < 2 ^ 256 := by
    simp only [bytesPart, Part.body, padded, List.length_append] at hle
    omega
  simp only [Part.body, bytesPart, padded, List.append_assoc] at hm
  rw [bytes?, hw, Option.bind_some, hn]
  exact bytesAt?_of_drop hm hb

end Arguments

/-! ## Lists of byte strings -/

/-- The readers of a list's items go through its block from any place on. -/
theorem items?_block {parts : List Part} (hp : (block parts).length < 2 ^ 256) (rest : Bytes) :
    ∀ (items : List Bytes) (place : Nat), parts.drop place = items.map bytesPart →
      items? (block parts ++ rest) items.length place = some items
  | [], _, _ => rfl
  | x :: items, place, h => by
    have hx : parts[place]? = some (bytesPart x) := by
      rw [← List.head?_drop, h]
      rfl
    have hr : parts.drop (place + 1) = items.map bytesPart := by
      rw [← List.tail_drop, h]
      rfl
    rw [List.length_cons, items?, bytes?_block hx hp]
    simp only [items?_block hp rest items (place + 1) hr, Option.map_some]

theorem list?_block {parts : List Part} {place : Nat} {items : List Bytes}
    (h : parts[place]? = some (listPart items)) (hp : (block parts).length < 2 ^ 256)
    (rest : Bytes) : list? (block parts ++ rest) place = some items := by
  obtain ⟨w, hw, hn⟩ := word?_block_tail h hp rest
  obtain ⟨more, hm⟩ := drop_block_tail h rest
  have hle := tailOffset_le h
  simp only [listPart, Part.body, List.length_append, List.append_assoc] at hm hle
  have hlen : 32 * items.length ≤ (block (items.map bytesPart)).length := by
    rw [block, List.length_append, length_words, List.length_map]
    omega
  have hbody : (block parts ++ rest).drop (tailOffset parts place + 32) =
      block (items.map bytesPart) ++ more := by
    rw [← List.drop_drop, hm]
    exact List.drop_left' (length_wordOfNat _)
  have hi : items.length < 2 ^ 256 := by omega
  simp only [list?, hw, hn, wordAt?_of_drop hm, toNat_wordOfNat hi, hbody]
  rw [if_pos, items?_block (by omega) more items 0 (List.drop_zero ..)]
  rw [List.length_append]
  omega

end PointExchange.Abi
