import PointExchange.Proofs.Run
import PointExchange.Proofs.Sizes

/-!
# What a hash on the chain stands for

The list of broadcasts of a chain holds hashes. As long as the hashes of the signed transactions
tell them apart, a hash of a run's permit stands for a transaction of the token, and the hash of its
batch for the calls of the batch.
-/

namespace PointExchange

namespace SimulatedChain

/-- The calls that the hash of a batch stands for; none for the hash of any other transaction. -/
def batchCalls (c : SimulatedChain) (h : Hash) : List Bytes :=
  match c.record? h with
  | some t => if t.request.target = pointManager then callsOf t.request.input else []
  | none => []

theorem record?_mono {c c' : SimulatedChain} (hp : c.signed <+: c'.signed) {h : Hash}
    {t : SignedRecord} (ht : c.record? h = some t) : c'.record? h = some t := by
  obtain ⟨more, hm⟩ := hp
  rw [record?, ← hm, List.find?_append]
  rw [record?] at ht
  rw [ht, Option.some_or]

theorem batchCalls_mono {c c' : SimulatedChain} (hp : c.signed <+: c'.signed) {h : Hash}
    {t : SignedRecord} (ht : c.record? h = some t) : c'.batchCalls h = c.batchCalls h := by
  rw [batchCalls, batchCalls, record?_mono hp ht, ht]

theorem depositManagers_encodeMulticall {calls : List Bytes} (h : Carriable calls) :
    depositManagers (encodeMulticall calls) = (depositsOf calls).map DepositCall.manager := by
  rw [depositManagers, decodeMulticall?_encodeMulticall h]
  rfl

theorem decodeMulticall?_permit {b : Bytes} (h : IsPermit b) : decodeMulticall? b = none := by
  obtain ⟨c, rfl⟩ := h
  rw [decodeMulticall?, PermitCall.encode, Abi.argumentsOf?_ne rfl (by decide)]
  rfl

/-- Transactions of the same raw form are the same but for their gas. -/
theorem of_raw_eq {t u : SignedRecord} (h : u.raw = t.raw) {relayer target : Address}
    {input : Bytes} {nonce : UInt64} (ht : t.Of relayer target input nonce) :
    u.relayer = relayer ∧ u.request.target = target ∧ u.request.input = input ∧
      u.request.nonce = nonce := by
  obtain ⟨hr, hn, hg, hi⟩ := rawOf_inj h
  exact ⟨hr.trans ht.relayer, hg.trans ht.target, hi.trans ht.input, hn.trans ht.nonce⟩

section Permits

variable {c : SimulatedChain} {relayer : Address} {t : SignedRecord}

theorem PermitHash.fields (h : c.PermitHash relayer t) (hc : c.HashesTell) (ht : t ∈ c.signed) :
    t.relayer = relayer ∧ t.request.target = pointToken ∧ IsPermit t.request.input := by
  obtain ⟨u, hu, hh, permit, nonce, hp, ho⟩ := h
  obtain ⟨hr, hg, hi, -⟩ := of_raw_eq (hc t ht u hu hh.symm) ho
  exact ⟨hr, hg, hi ▸ hp⟩

/-- The hash of a permit stands for a transaction of the token. -/
theorem PermitHash.record? (h : c.PermitHash relayer t) (hc : c.HashesTell) (ht : t ∈ c.signed) :
    ∃ u, c.record? t.hash = some u ∧ u.request.target = pointToken := by
  obtain ⟨u, hu⟩ := exists_record? ht
  obtain ⟨hr, hg, hi⟩ := h.fields hc ht
  have hraw := hc.record?_raw ht hu
  exact ⟨u, hu, (rawOf_inj hraw).2.2.1.trans hg⟩

theorem PermitHash.batchCalls (h : c.PermitHash relayer t) (hc : c.HashesTell)
    (ht : t ∈ c.signed) : c.batchCalls t.hash = [] := by
  obtain ⟨u, hu, hg⟩ := h.record? hc ht
  rw [SimulatedChain.batchCalls, hu]
  simp only [hg]
  rw [if_neg (by decide)]

end Permits

end SimulatedChain

namespace PermitsSent

variable {w w' : Bench SimulatedChain} {b : Batch} {k : Signer} {ts : List SignedRecord}

/-- The permits of a run count for its relayer alone. -/
theorem relayers (h : PermitsSent w b k w' ts) {c : SimulatedChain} (hc : c.HashesTell)
    (hp : w'.chain.signed <+: c.signed) :
    ts.map SignedRecord.relayer = List.replicate ts.length k.address := by
  rw [List.eq_replicate_iff]
  refine ⟨List.length_map _, ?_⟩
  intro a ha
  obtain ⟨t, ht, rfl⟩ := List.mem_map.mp ha
  exact ((h.permits t ht).fields (hc.of_prefix hp) (h.env.chain.included t ht)).1

/-- The permits of a run use no nonce of a manager. -/
theorem managersIn (h : PermitsSent w b k w' ts) {c : SimulatedChain} (hc : c.HashesTell)
    (hp : w'.chain.signed <+: c.signed) : SimulatedChain.managersIn ts = [] := by
  rw [SimulatedChain.managersIn, List.flatMap_eq_nil_iff]
  intro t ht
  have hi := ((h.permits t ht).fields (hc.of_prefix hp) (h.env.chain.included t ht)).2.2
  rw [SimulatedChain.depositManagers, SimulatedChain.decodeMulticall?_permit hi]

theorem batchCalls (h : PermitsSent w b k w' ts) {c : SimulatedChain} (hc : c.HashesTell)
    (hp : w'.chain.signed <+: c.signed) :
    (ts.map SignedRecord.hash).flatMap c.batchCalls = [] := by
  rw [List.flatMap_eq_nil_iff]
  intro x hx
  obtain ⟨t, ht, rfl⟩ := List.mem_map.mp hx
  have hi := h.env.chain.included t ht
  obtain ⟨u, hu, -⟩ := (h.permits t ht).record? (hc.of_prefix hp) hi
  rw [SimulatedChain.batchCalls_mono hp hu, (h.permits t ht).batchCalls (hc.of_prefix hp) hi]

end PermitsSent

namespace BatchTransaction

variable {w : Bench SimulatedChain} {i : UInt64} {account : Address} {b : Batch}
  {c : SimulatedChain} {t u : SignedRecord}

/-- The record that a chain finds for the hash of a batch is one of that batch. -/
theorem found (h : BatchTransaction w i account b c t) (hc : c.HashesTell)
    (hu : c.record? t.hash = some u) :
    ∃ k, keyAt .relayer w.chain.relayers i = .ok k ∧ u.relayer = k.address ∧
      u.request.target = SimulatedChain.pointManager ∧
      u.request.input = encodeMulticall b.calls ∧ u.request.nonce = w.chain.txCount account := by
  obtain ⟨k, hk, ho⟩ := h.record
  exact ⟨k, hk, SimulatedChain.of_raw_eq (hc.record?_raw h.mem hu) ho⟩

theorem batchCalls (h : BatchTransaction w i account b c t) (hc : c.HashesTell)
    (hb : Carriable b.calls) : c.batchCalls t.hash = b.calls := by
  obtain ⟨u, hu⟩ := SimulatedChain.exists_record? h.mem
  obtain ⟨k, hk, -, hg, hi, -⟩ := h.found hc hu
  rw [SimulatedChain.batchCalls, hu]
  simp only [hg, hi, if_true]
  exact SimulatedChain.callsOf_encodeMulticall hb

end BatchTransaction

/-! ## What a run includes -/

/-- What sending a batch has included by the time the chain is `c'`, and the calls among that:
nothing, permits, or permits and then the batch. -/
inductive Carried (w : Bench SimulatedChain) (b : Batch) (c' : SimulatedChain) :
    List SignedRecord → List Bytes → Prop
  | nothing (rest : w.chain.Reaches c' []) : Carried w b c' [] []
  | permits (k : Signer) (w₁ : Bench SimulatedChain) (ts : List SignedRecord)
    (sent : PermitsSent w b k w₁ ts) (rest : w₁.chain.Reaches c' []) : Carried w b c' ts []
  | batch (k : Signer) (i : UInt64) (w₁ : Bench SimulatedChain) (ts : List SignedRecord)
    (t u : SignedRecord) (sent : PermitsSent w b k w₁ ts)
    (transaction : BatchTransaction w₁ i k.address b c' t)
    (found : c'.record? t.hash = some u) (rest : w₁.chain.Reaches c' [u]) :
    Carried w b c' (ts ++ [u]) b.calls

namespace Carried

variable {w : Bench SimulatedChain} {b : Batch} {c c' : SimulatedChain} {ts : List SignedRecord}
  {calls : List Bytes}

theorem reaches (h : Carried w b c' ts calls) : w.chain.Reaches c' ts := by
  cases h with
  | nothing rest => exact rest
  | permits k w₁ ts sent rest =>
    have hr := sent.env.chain.trans rest
    rwa [List.append_nil] at hr
  | batch k i w₁ ts t u sent transaction found rest => exact sent.env.chain.trans rest

/-- Calls are included together or not at all. -/
theorem calls_cases (h : Carried w b c' ts calls) : calls = [] ∨ calls = b.calls := by
  cases h with
  | nothing | permits => exact .inl rfl
  | batch => exact .inr rfl

/-- **What is included has these calls, and uses one nonce for each of their deposits.** -/
theorem batchCalls (h : Carried w b c' ts calls) (hc : c.HashesTell) (hp : c'.signed <+: c.signed)
    (hb : Carriable b.calls) :
    (ts.map SignedRecord.hash).flatMap c.batchCalls = calls ∧
      SimulatedChain.managersIn ts = (depositsOf calls).map DepositCall.manager := by
  cases h with
  | nothing => exact ⟨rfl, rfl⟩
  | permits k w₁ ts sent rest =>
    have hp₁ := rest.signed.trans hp
    exact ⟨sent.batchCalls hc hp₁, sent.managersIn hc hp₁⟩
  | batch k i w₁ ts t u sent transaction found rest =>
    have hp₁ := rest.signed.trans hp
    have hc' := hc.of_prefix hp
    obtain ⟨-, -, -, -, hi, -⟩ := transaction.found hc' found
    have hu : u.hash = t.hash := (SimulatedChain.record?_eq_some found).2
    refine ⟨?_, ?_⟩
    · rw [List.map_append, List.flatMap_append, sent.batchCalls hc hp₁, List.nil_append,
        List.map_singleton, List.flatMap_singleton, hu, SimulatedChain.batchCalls_mono hp found,
        transaction.batchCalls hc' hb]
    · have hm := sent.managersIn hc hp₁
      rw [SimulatedChain.managersIn] at hm
      rw [SimulatedChain.managersIn, List.flatMap_append, hm, List.nil_append,
        List.flatMap_singleton, hi, SimulatedChain.depositManagers_encodeMulticall hb]

end Carried

theorem CallsSent.carried {w w₁ w₂ : Bench SimulatedChain} {i : UInt64} {k : Signer} {b : Batch}
    {ts : List SignedRecord} {o : Option BatchOutcome} (h : CallsSent w₁ i k b o w₂)
    (sent : PermitsSent w b k w₁ ts) : ∃ us calls, Carried w b w₂.chain us calls := by
  cases h with
  | none => exact ⟨ts, [], .permits k w₁ ts sent (.refl _)⟩
  | some o w₂ calls submits =>
    cases submits with
    | notSigned w₂ why env =>
      exact ⟨ts, [], .permits k w₁ ts sent (Bench.Follows.of_still env).chain⟩
    | ledgerFailed t w₂ transaction why env => exact ⟨ts, [], .permits k w₁ ts sent env.chain⟩
    | refused t u w₂ transaction found why env => exact ⟨ts, [], .permits k w₁ ts sent env.chain⟩
    | included t u w₂ transaction found env =>
      exact ⟨ts ++ [u], b.calls, .batch k i w₁ ts t u sent transaction found env.chain⟩

theorem Sends.carried {start : SimulatedChain} {turns : Nat → List Turn}
    {w w' : Bench SimulatedChain} {b : Batch} {stop : StopReason}
    {res : Except Interruption RunReport} (h : Sends start turns w b stop (res, w')) :
    ∃ ts calls, Carried w b w'.chain ts calls := by
  cases h with
  | noRelayer => exact ⟨[], [], .nothing (.refl _)⟩
  | permitsWait i k ts w' relayer permits => exact ⟨ts, [], .permits k w' ts permits (.refl _)⟩
  | batchWaits i k ts w₁ w' relayer permits submits =>
    cases submits with
    | stalled t u w' transaction found why env =>
      exact ⟨ts, [], .permits k w₁ ts permits env.chain⟩
  | unturned i k ts w₁ w₂ outcome e indices relayer permits calls =>
    exact calls.carried permits
  | sent i k ts w₁ w₂ outcome count indices relayer permits counted calls =>
    exact calls.carried permits

end PointExchange
