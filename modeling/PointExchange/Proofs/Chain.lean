import Mathlib.Data.List.Nodup
import PointExchange.Proofs.Contract

/-!
# What can happen to a simulated chain

Whatever a run does on a chain, the chain gets from one state to another by including some signed
transactions. `Reaches c c' ts` says that `c'` follows `c` with `ts` included in this order, and all
counts of `c'` are told by it: how many transactions a relayer has sent, which nonce of a manager is
next, which hashes were broadcast.

A chain knows a transaction by its hash. What a hash stands for is therefore only as certain as the
hashes of the signed transactions are different (`HashesTell`); this is assumed of the transactions
at hand where it is needed, and of no others.
-/

namespace PointExchange

/-- A key for rehearsals: its signatures tell the hash that they are of. -/
def Signer.rehearsal (b : UInt8) : Signer :=
  ⟨.repeated b, fun h => ⟨h, BitVec.ofNat 256 b.toNat, false⟩⟩

/-- The raw form of a signed transaction. -/
def SignedRecord.raw (t : SignedRecord) : Bytes := SimulatedChain.rawOf t.relayer t.request

namespace SimulatedChain

/-! ## Raw forms -/

theorem bytes_ofNat_inj {w m n : Nat} (hm : m < 256 ^ w) (hn : n < 256 ^ w)
    (h : Bytes.ofNat w m = Bytes.ofNat w n) : m = n := by
  have ht := congrArg Bytes.toNat h
  rw [Bytes.toNat_ofNat, Bytes.toNat_ofNat] at ht
  rwa [Nat.mod_eq_of_lt (by simpa using hm), Nat.mod_eq_of_lt (by simpa using hn)] at ht

theorem address_bytes_inj {a b : Address} (h : a.bytes = b.bytes) : a = b := by
  have hb := congrArg Address.ofBytes? h
  rw [Address.ofBytes?_bytes, Address.ofBytes?_bytes] at hb
  exact Option.some.inj hb

/-- **A raw form tells the relayer, the nonce, the target and the input.** -/
theorem rawOf_inj {a a' : Address} {r r' : TransactionRequest} (h : rawOf a r = rawOf a' r') :
    a = a' ∧ r.nonce = r'.nonce ∧ r.target = r'.target ∧ r.input = r'.input := by
  simp only [rawOf, List.append_assoc] at h
  -- all parts but the last one have fixed widths
  obtain ⟨ha, h⟩ := List.append_inj h (by rw [Address.length_bytes, Address.length_bytes])
  obtain ⟨hn, h⟩ := List.append_inj h (by rw [Bytes.length_ofNat, Bytes.length_ofNat])
  obtain ⟨ht, hi⟩ := List.append_inj h (by rw [Address.length_bytes, Address.length_bytes])
  refine ⟨address_bytes_inj ha, ?_, address_bytes_inj ht, hi⟩
  exact UInt64.toNat_inj.mp (bytes_ofNat_inj r.nonce.toNat_lt r'.nonce.toNat_lt hn)

/-! ## Hashes -/

/-- The signed transaction that a hash stands for. -/
def record? (c : SimulatedChain) (h : Hash) : Option SignedRecord :=
  c.signed.find? fun t => t.hash = h

/-- No two different transactions that were signed have the same hash. -/
def HashesTell (c : SimulatedChain) : Prop :=
  ∀ t ∈ c.signed, ∀ u ∈ c.signed, t.hash = u.hash → t.raw = u.raw

theorem HashesTell.of_prefix {c c' : SimulatedChain} (h : HashesTell c')
    (hp : c.signed <+: c'.signed) : HashesTell c :=
  fun t ht u hu => h t (hp.subset ht) u (hp.subset hu)

/-- One transaction is not mistaken for another. -/
theorem HashesTell.of_length_le_one {c : SimulatedChain} (h : c.signed.length ≤ 1) :
    HashesTell c := by
  intro t ht u hu _
  match hs : c.signed with
  | [] => simp [hs] at ht
  | [x] =>
    rw [hs, List.mem_singleton] at ht hu
    rw [ht, hu]
  | _ :: _ :: _ => simp [hs] at h

theorem HashesTell.of_nodup {c : SimulatedChain} (h : (c.signed.map SignedRecord.hash).Nodup) :
    HashesTell c := fun _ ht _ hu he =>
  congrArg SignedRecord.raw (List.inj_on_of_nodup_map h ht hu he)

theorem record?_eq_some {c : SimulatedChain} {h : Hash} {t : SignedRecord}
    (ht : c.record? h = some t) : t ∈ c.signed ∧ t.hash = h := by
  refine ⟨List.mem_of_find?_eq_some ht, ?_⟩
  simpa using List.find?_some ht

theorem exists_record? {c : SimulatedChain} {t : SignedRecord} (ht : t ∈ c.signed) :
    ∃ u, c.record? t.hash = some u := by
  rw [← Option.isSome_iff_exists, record?, List.find?_isSome]
  exact ⟨t, ht, by simp⟩

/-- A hash of a signed transaction stands for that transaction. -/
theorem HashesTell.record?_raw {c : SimulatedChain} (hc : HashesTell c) {t u : SignedRecord}
    (ht : t ∈ c.signed) (hu : c.record? t.hash = some u) : u.raw = t.raw := by
  obtain ⟨hm, hh⟩ := record?_eq_some hu
  exact hc u hm t ht hh

/-! ## States and their successors -/

/-- The chain without what estimates and signatures of authorisations leave behind. -/
def quiet (c : SimulatedChain) : SimulatedChain :=
  { c with estimated := [], domainCalls := 0, signedDeposits := [] }

@[simp] theorem quiet_signed (c : SimulatedChain) : c.quiet.signed = c.signed := rfl
@[simp] theorem quiet_broadcasts (c : SimulatedChain) : c.quiet.broadcasts = c.broadcasts := rfl
@[simp] theorem quiet_txCount (c : SimulatedChain) : c.quiet.txCount = c.txCount := rfl
@[simp] theorem quiet_managerNonce (c : SimulatedChain) :
    c.quiet.managerNonce = c.managerNonce := rfl

/-- The chain without what runs leave behind: its keys and how it misbehaves. -/
def bare (c : SimulatedChain) : SimulatedChain :=
  { c.quiet with
    managerNonce := fun _ => 0, txCount := fun _ => 0, signed := [], stalled := []
    broadcasts := [] }

/-- The managers of the deposits in some transactions, one for each deposit. -/
def managersIn (ts : List SignedRecord) : List Address :=
  ts.flatMap fun t => depositManagers t.request.input

/-- The second chain follows the first one when the transactions are included. -/
structure Reaches (c c' : SimulatedChain) (ts : List SignedRecord) : Prop where
  bare : c'.bare = c.bare
  signed : c.signed <+: c'.signed
  included : ∀ t ∈ ts, t ∈ c'.signed
  broadcasts : c'.broadcasts = c.broadcasts ++ ts.map SignedRecord.hash
  txCount (a : Address) :
    c'.txCount a = c.txCount a + UInt64.ofNat ((ts.map SignedRecord.relayer).count a)
  managerNonce (a : Address) :
    c'.managerNonce a = c.managerNonce a + BitVec.ofNat 256 ((managersIn ts).count a)

theorem Reaches.of_quiet {c c' : SimulatedChain} (h : c'.quiet = c.quiet) : Reaches c c' [] where
  bare := by rw [SimulatedChain.bare, h, SimulatedChain.bare]
  signed := by
    have hs : c'.quiet.signed = c.quiet.signed := by rw [h]
    exact ⟨[], by simpa using hs.symm⟩
  included := by simp
  broadcasts := by
    have hb : c'.quiet.broadcasts = c.quiet.broadcasts := by rw [h]
    simpa using hb
  txCount a := by
    have ht : c'.quiet.txCount = c.quiet.txCount := by rw [h]
    simpa using congrFun ht a
  managerNonce a := by
    have hm : c'.quiet.managerNonce = c.quiet.managerNonce := by rw [h]
    simpa [managersIn] using congrFun hm a

theorem Reaches.refl (c : SimulatedChain) : Reaches c c [] := .of_quiet rfl

theorem Reaches.trans {c c₁ c₂ : SimulatedChain} {ts us : List SignedRecord}
    (h : Reaches c c₁ ts) (h' : Reaches c₁ c₂ us) : Reaches c c₂ (ts ++ us) where
  bare := h'.bare.trans h.bare
  signed := h.signed.trans h'.signed
  included t ht := by
    rcases List.mem_append.mp ht with ht | ht
    · exact h'.signed.subset (h.included t ht)
    · exact h'.included t ht
  broadcasts := by rw [h'.broadcasts, h.broadcasts, List.map_append, List.append_assoc]
  txCount a := by
    rw [h'.txCount, h.txCount, List.map_append, List.count_append, UInt64.ofNat_add,
      UInt64.add_assoc]
  managerNonce a := by
    rw [h'.managerNonce, h.managerNonce, managersIn, managersIn, managersIn, List.flatMap_append,
      List.count_append, BitVec.ofNat_add, BitVec.add_assoc]

/-! ## Inclusion -/

/-- Using up nonces raises the one of each manager by how often the manager occurs. -/
theorem foldl_useNonce (ms : List Address) (nonce : Address → Word) (a : Address) :
    ms.foldl useNonce nonce a = nonce a + BitVec.ofNat 256 (ms.count a) := by
  induction ms generalizing nonce with
  | nil => simp
  | cons m r ih =>
    rw [List.foldl_cons, ih, useNonce, List.count_cons]
    by_cases h : m = a
    · rw [if_pos h.symm, if_pos (by simpa using h), Nat.add_comm (List.count a r) 1,
        BitVec.ofNat_add, ← BitVec.add_assoc]
      rfl
    · rw [if_neg (Ne.symm h), if_neg (by simpa using h), Nat.add_zero]

theorem reaches_settle {c : SimulatedChain} {t : SignedRecord} (ht : t ∈ c.signed) :
    Reaches c (c.settle t) [t] where
  bare := rfl
  signed := List.prefix_refl _
  included u hu := by
    rw [List.mem_singleton.mp hu]
    exact ht
  broadcasts := rfl
  txCount a := by
    show (if a = t.relayer then c.txCount a + 1 else c.txCount a) = _
    by_cases h : a = t.relayer
    · simp [h]
    · simp [h, Ne.symm h]
  managerNonce a := by
    show (depositManagers t.request.input).foldl useNonce c.managerNonce a = _
    rw [foldl_useNonce, managersIn, List.flatMap_singleton]

theorem reaches_stall (c : SimulatedChain) (hash : Hash) :
    Reaches c { c with stalled := hash :: c.stalled } [] :=
  ⟨rfl, List.prefix_refl _, by simp, by simp, by simp, by simp [managersIn]⟩

/-- What becomes of a transaction that is handed over. -/
inductive Submitted (c : SimulatedChain) (hash : Hash) :
    Except GatewayError Hash × SimulatedChain → Prop
  | unknown (h : c.record? hash = none) :
    Submitted c hash (.error (.build "unknown transaction"), c)
  | refused (t : SignedRecord) (h : c.record? hash = some t) (hr : c.refuses t = true) :
    Submitted c hash (.error (.rpc (.transport "broadcast rejected")), c)
  | stalled (t : SignedRecord) (h : c.record? hash = some t) (hr : c.refuses t = false)
    (hs : c.stalls t = true) : Submitted c hash (.ok hash, { c with stalled := hash :: c.stalled })
  | settled (t : SignedRecord) (h : c.record? hash = some t) (hr : c.refuses t = false)
    (hs : c.stalls t = false) : Submitted c hash (.ok hash, c.settle t)

theorem submitted (c : SimulatedChain) (raw : Bytes) : Submitted c (keccak raw) (c.submit raw) := by
  rw [submit]
  cases h : c.record? (keccak raw) with
  | none =>
    simp only [show c.signed.find? (fun t => t.hash = keccak raw) = none from h]
    exact .unknown h
  | some t =>
    simp only [show c.signed.find? (fun t => t.hash = keccak raw) = some t from h]
    by_cases hr : c.refuses t = true
    · rw [if_pos hr]
      exact .refused t h hr
    · rw [if_neg hr]
      rw [Bool.not_eq_true] at hr
      by_cases hs : c.stalls t = true
      · rw [if_pos hs]
        exact .stalled t h hr hs
      · rw [if_neg hs]
        exact .settled t h hr (by simpa using hs)

/-- Handing a transaction over includes it at most. -/
theorem Submitted.reaches {c : SimulatedChain} {hash : Hash}
    {r : Except GatewayError Hash × SimulatedChain} (h : Submitted c hash r) :
    ∃ ts, Reaches c r.2 ts ∧ ∀ t ∈ ts, t.hash = hash := by
  cases h with
  | unknown | refused => exact ⟨[], .refl c, by simp⟩
  | stalled => exact ⟨[], reaches_stall c hash, by simp⟩
  | settled t h =>
    obtain ⟨hm, hh⟩ := record?_eq_some h
    refine ⟨[t], reaches_settle hm, ?_⟩
    intro u hu
    rw [List.mem_singleton.mp hu, hh]

/-- Handing a transaction over signs none. -/
theorem Submitted.signed {c : SimulatedChain} {hash : Hash}
    {r : Except GatewayError Hash × SimulatedChain} (h : Submitted c hash r) :
    r.2.signed = c.signed := by
  cases h <;> rfl

theorem confirm_settle {c : SimulatedChain} {t : SignedRecord} {hash : Hash} (h : t.hash = hash) :
    (c.settle t).confirm hash = some hash := by
  simp [confirm, settle, h]

/-! ## Signing -/

/-- Signing records the transaction and does nothing else. -/
theorem signTransaction_cases (c : SimulatedChain) (index : UInt64) (r : TransactionRequest) :
    (∃ e, keyAt .relayer c.relayers index = .error e ∧ c.signTransaction index r = (.error e, c)) ∨
    ∃ k t, keyAt .relayer c.relayers index = .ok k ∧ t.relayer = k.address ∧ t.request = r ∧
      t.hash = keccak t.raw ∧ c.signTransaction index r =
        (.ok ⟨t.raw, t.hash⟩, { c with signed := c.signed ++ [t] }) := by
  unfold signTransaction
  split
  next k hk => exact .inr ⟨k, ⟨index, k.address, r, _⟩, hk, rfl, rfl, rfl, rfl⟩
  next e he => exact .inl ⟨e, he, rfl⟩

theorem reaches_sign (c : SimulatedChain) (t : SignedRecord) :
    Reaches c { c with signed := c.signed ++ [t] } [] :=
  ⟨rfl, List.prefix_append _ _, by simp, by simp, by simp, by simp [managersIn]⟩

/-- Estimating leaves no more behind than a note of it. -/
theorem quiet_estimate (c : SimulatedChain) (target : Address) (input : Bytes) :
    (c.estimate target input).2.quiet = c.quiet := by
  unfold estimate
  split
  · rfl
  · split <;> rfl

end SimulatedChain
end PointExchange
