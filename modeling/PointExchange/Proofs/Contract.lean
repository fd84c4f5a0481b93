import PointExchange.Chain.Simulated
import PointExchange.Proofs.Abi

/-!
# Contract calls are read back

Each builder of call data is undone by its reader, so a chain that looks into a batch sees the
calls that were put into it. Signatures have any length, and so have batches; only what no word can
count is out of reach.
-/

namespace PointExchange

open Abi

/-! ## Sizes -/

namespace Abi

theorem length_padded_le (b : Bytes) : (padded b).length ≤ b.length + 31 := by
  simp only [padded, List.length_append, List.length_replicate]
  omega

theorem length_block_singleton (p : Part) : (block [p]).length = 32 + p.body.length := by
  rw [block, List.length_append, length_words, tails_cons, tails, List.append_nil]
  rfl

theorem length_tails_bytesParts_le {m : Nat} : ∀ items : List Bytes,
    (∀ b ∈ items, b.length ≤ m) → (tails (items.map bytesPart)).length ≤ items.length * (m + 63)
  | [], _ => by simp [tails]
  | b :: items, h => by
    have hb := h b List.mem_cons_self
    have hp := length_padded_le b
    have ih := length_tails_bytesParts_le items fun x hx => h x (List.mem_cons_of_mem _ hx)
    rw [List.map_cons, bytesPart, tails, List.length_append, List.length_append,
      length_wordOfNat, List.length_cons, Nat.succ_mul]
    omega

/-- A call of another selector has no arguments. -/
theorem argumentsOf?_ne {selector other : Bytes} (h : other.length = 4) (hne : other ≠ selector)
    (b : Bytes) : argumentsOf? selector (other ++ b) = none := by
  rw [argumentsOf?, List.take_left' h, if_neg hne]

end Abi

/-! ## Deposits, withdrawals and permits -/

namespace DepositCall

theorem length_encode_le (c : DepositCall) : c.encode.length ≤ c.signature.length + 227 := by
  have hp := length_padded_le c.signature
  simp only [encode, block, List.length_append, length_words, bytesPart, addressPart, tails,
    length_wordOfNat, List.length_cons, List.length_nil, depositSelector]
  omega

/-- **A deposit call is read back.** -/
theorem decode?_encode (c : DepositCall) (h : c.signature.length < 2 ^ 64) :
    decode? c.encode = some c := by
  have hp : (block [addressPart c.account, .word c.amount, .word c.validUntil,
      addressPart c.manager, bytesPart c.signature]).length < 2 ^ 256 := by
    have := length_encode_le c
    rw [encode, List.length_append] at this
    omega
  rw [decode?, encode, argumentsOf?_append (by rfl), Option.bind_eq_bind, Option.bind_some,
    ← List.append_nil (block _), address?_block (a := c.account) rfl,
    word?_block (w := c.amount) rfl, word?_block (w := c.validUntil) rfl,
    address?_block (a := c.manager) rfl, bytes?_block (b := c.signature) rfl hp]
  rfl

theorem decode?_of_selector_ne {selector : Bytes} (h : selector.length = 4)
    (hne : selector ≠ depositSelector) (b : Bytes) : decode? (selector ++ b) = none := by
  rw [decode?, argumentsOf?_ne h hne]
  rfl

end DepositCall

namespace WithdrawCall

theorem length_encode_le (c : WithdrawCall) : c.encode.length ≤ c.signature.length + 195 := by
  have hp := length_padded_le c.signature
  simp only [encode, block, List.length_append, length_words, bytesPart, addressPart, tails,
    length_wordOfNat, List.length_cons, List.length_nil, withdrawSelector]
  omega

/-- **A withdrawal call is read back.** -/
theorem decode?_encode (c : WithdrawCall) (h : c.signature.length < 2 ^ 64) :
    decode? c.encode = some c := by
  have hp : (block [addressPart c.account, .word c.amount, .word c.validUntil,
      bytesPart c.signature]).length < 2 ^ 256 := by
    have := length_encode_le c
    rw [encode, List.length_append] at this
    omega
  rw [decode?, encode, argumentsOf?_append (by rfl), Option.bind_eq_bind, Option.bind_some,
    ← List.append_nil (block _), address?_block (a := c.account) rfl,
    word?_block (w := c.amount) rfl, word?_block (w := c.validUntil) rfl,
    bytes?_block (b := c.signature) rfl hp]
  rfl

theorem decode?_of_selector_ne {selector : Bytes} (h : selector.length = 4)
    (hne : selector ≠ withdrawSelector) (b : Bytes) : decode? (selector ++ b) = none := by
  rw [decode?, argumentsOf?_ne h hne]
  rfl

end WithdrawCall

theorem PermitCall.length_encode (c : PermitCall) : c.encode.length = 228 := by
  simp only [encode, block, List.length_append, length_words, addressPart, tails,
    List.length_cons, List.length_nil, permitSelector]

/-! ## Multicalls -/

/-- Calls of which a multicall can be made: their number and their lengths are far below what a
word counts. -/
structure Carriable (calls : List Bytes) : Prop where
  count : calls.length < 2 ^ 66
  lengths : ∀ b ∈ calls, b.length < 2 ^ 66

theorem Carriable.block_lt {calls : List Bytes} (h : Carriable calls) :
    (block [listPart calls]).length < 2 ^ 256 := by
  have ht := length_tails_bytesParts_le calls fun b hb => Nat.le_of_lt (h.lengths b hb)
  have hm : calls.length * (2 ^ 66 + 63) ≤ 2 ^ 66 * (2 ^ 66 + 63) :=
    Nat.mul_le_mul_right _ (Nat.le_of_lt h.count)
  have hc := h.count
  rw [length_block_singleton, listPart, Part.body, List.length_append, length_wordOfNat, block,
    List.length_append, length_words, List.length_map]
  omega

/-- **A multicall carries its calls, in their order.** -/
theorem decodeMulticall?_encodeMulticall {calls : List Bytes} (h : Carriable calls) :
    decodeMulticall? (encodeMulticall calls) = some calls := by
  rw [decodeMulticall?, encodeMulticall, argumentsOf?_append (by rfl), Option.bind_some,
    ← List.append_nil (block _)]
  exact list?_block rfl h.block_lt []

namespace SimulatedChain

theorem callsOf_encodeMulticall {calls : List Bytes} (h : Carriable calls) :
    callsOf (encodeMulticall calls) = calls := by
  rw [callsOf, decodeMulticall?_encodeMulticall h, Option.getD_some]

/-! ## Whose account a call is about -/

theorem accountOf?_deposit (c : DepositCall) (h : c.signature.length < 2 ^ 64) :
    accountOf? c.encode = some c.account := by
  rw [accountOf?, c.decode?_encode h]

theorem accountOf?_withdraw (c : WithdrawCall) (h : c.signature.length < 2 ^ 64) :
    accountOf? c.encode = some c.account := by
  rw [accountOf?, show DepositCall.decode? c.encode = none from
    DepositCall.decode?_of_selector_ne rfl (by decide) _, c.decode?_encode h]
  rfl

theorem accountOf?_permit (c : PermitCall) : accountOf? c.encode = none := by
  rw [accountOf?, show DepositCall.decode? c.encode = none from
      DepositCall.decode?_of_selector_ne rfl (by decide) _,
    show WithdrawCall.decode? c.encode = none from
      WithdrawCall.decode?_of_selector_ne rfl (by decide) _]
  rfl

end SimulatedChain
end PointExchange
