import PointExchange.Proofs.Batch

/-!
# Transactions and permits of a run

What preparing a transaction and broadcasting permits do to a bench. Neither touches anything but
the chain (`Bench.Follows`), and what is included by broadcasting permits are permit transactions of
the relayer, whatever turns the broadcasts take.
-/

namespace PointExchange

/-! ## Benches that differ in their chains -/

namespace Bench

/-- The second bench follows the first one when the transactions are included, and differs from it
in nothing but the chain. -/
structure Follows (w w' : Bench SimulatedChain) (ts : List SignedRecord) : Prop where
  chain : w.chain.Reaches w'.chain ts
  ledger : w'.ledger = w.ledger
  indices : w'.indices = w.indices
  lock : w'.lock = w.lock
  settings : w'.settings = w.settings

variable {w w₁ w₂ : Bench SimulatedChain} {ts us : List SignedRecord}

theorem Follows.refl (w : Bench SimulatedChain) : w.Follows w [] :=
  ⟨.refl _, rfl, rfl, rfl, rfl⟩

theorem Follows.trans (h : w.Follows w₁ ts) (h' : w₁.Follows w₂ us) : w.Follows w₂ (ts ++ us) :=
  ⟨h.chain.trans h'.chain, h'.ledger.trans h.ledger, h'.indices.trans h.indices,
    h'.lock.trans h.lock, h'.settings.trans h.settings⟩

theorem Follows.relayers (h : w.Follows w₁ ts) : w₁.chain.relayers = w.chain.relayers :=
  (congrArg SimulatedChain.relayers h.chain.bare :)

theorem Follows.of_still (h : w₁.still = w.still) : w.Follows w₁ [] where
  chain := .of_quiet (still_chain h)
  ledger := (congrArg Bench.ledger h :)
  indices := (congrArg Bench.indices h :)
  lock := (congrArg Bench.lock h :)
  settings := (congrArg Bench.settings h :)

/-- The bench with another chain. -/
def withChain (w : Bench SimulatedChain) (c : SimulatedChain) : Bench SimulatedChain :=
  { w with chain := c }

theorem Follows.withChain {c : SimulatedChain} (h : w.chain.Reaches c ts) :
    w.Follows (w.withChain c) ts :=
  ⟨h, rfl, rfl, rfl, rfl⟩

/-- The bench with one more signed transaction. -/
def signing (w : Bench SimulatedChain) (t : SignedRecord) : Bench SimulatedChain :=
  w.withChain { w.chain with signed := w.chain.signed ++ [t] }

@[simp] theorem still_signing (w : Bench SimulatedChain) (t : SignedRecord) :
    (w.signing t).still = w.still.signing t := rfl

section Signing

variable {t : SignedRecord} (h : w₁.still = w.still.signing t)

include h

theorem Follows.of_signing : w.Follows w₁ [] :=
  Follows.trans (.withChain (SimulatedChain.reaches_sign w.chain t))
    (.of_still (h.trans (still_signing w t).symm))

theorem signed_of_signing : w₁.chain.signed = w.chain.signed ++ [t] :=
  (congrArg (fun w => w.chain.signed) h :)

theorem mem_signed_of_signing : t ∈ w₁.chain.signed := by
  rw [signed_of_signing h]
  exact List.mem_append_right _ (List.mem_singleton_self t)

end Signing

end Bench

/-! ## Preparing a transaction -/

section Gateway

variable (start : SimulatedChain) (w : Bench SimulatedChain)

theorem perform_estimateGas (target : Address) (input : Bytes) :
    (start.tools.gateway.estimateGas target input).perform w =
      ((w.chain.estimate target input).1, w.withChain (w.chain.estimate target input).2) := rfl

theorem perform_transactionCount (a : Address) :
    (start.tools.gateway.transactionCount a).perform w = (.ok (w.chain.txCount a), w) := rfl

theorem perform_signTransaction (i : UInt64) (r : TransactionRequest) :
    (start.tools.gateway.signTransaction i r).perform w =
      ((w.chain.signTransaction i r).1, w.withChain (w.chain.signTransaction i r).2) := rfl

theorem perform_submit (raw : Bytes) :
    (start.tools.gateway.submit raw).perform w =
      ((w.chain.submit raw).1, w.withChain (w.chain.submit raw).2) := rfl

theorem perform_confirm (hash : Hash) :
    (start.tools.gateway.confirm hash).perform w = (.ok (w.chain.confirm hash), w) := rfl

end Gateway

/-- A transaction that the relayer in a place has signed: what it is and that its hash is its
own. -/
structure SignedRecord.Of (t : SignedRecord) (relayer target : Address) (input : Bytes)
    (nonce : UInt64) : Prop where
  relayer : t.relayer = relayer
  target : t.request.target = target
  input : t.request.input = input
  nonce : t.request.nonce = nonce
  hash : t.hash = keccak t.raw

/-- What preparing a transaction comes to. -/
inductive Prepares (w : Bench SimulatedChain) (relayer : UInt64) (target : Address) (input : Bytes)
    (nonce : UInt64) : Except RunError SignedTransaction × Bench SimulatedChain → Prop
  | failed (e : RunError) (w' : Bench SimulatedChain) (env : w'.still = w.still)
    (why : (∃ x, (w.chain.estimate target input).1 = .error x) ∨
      ∀ k, keyAt .relayer w.chain.relayers relayer ≠ .ok k) :
    Prepares w relayer target input nonce (.error e, w')
  | signed (k : Signer) (t : SignedRecord) (w' : Bench SimulatedChain)
    (key : keyAt .relayer w.chain.relayers relayer = .ok k)
    (record : t.Of k.address target input nonce) (env : w'.still = w.still.signing t) :
    Prepares w relayer target input nonce (.ok ⟨t.raw, t.hash⟩, w')

theorem prepares (start : SimulatedChain) (relayer : UInt64) (target : Address) (input : Bytes)
    (nonce : UInt64) (w : Bench SimulatedChain) :
    Prepares w relayer target input nonce
      ((start.tools.gateway.prepare relayer target input nonce).perform w) := by
  have hq : (w.withChain (w.chain.estimate target input).2).still = w.still := by
    rw [Bench.still, Bench.withChain, SimulatedChain.quiet_estimate, Bench.still]
  have hk : (w.chain.estimate target input).2.relayers = w.chain.relayers :=
    (congrArg SimulatedChain.relayers (w.chain.quiet_estimate target input) :)
  rw [Gateway.prepare, Call.perform_bind, Call.perform_orElse, perform_estimateGas]
  cases he : (w.chain.estimate target input).1 with
  | error x => exact .failed _ _ hq (.inl ⟨x, he⟩)
  | ok gas =>
    show Prepares w relayer target input nonce
      ((Call.orElse (start.tools.gateway.signTransaction relayer
        ⟨target, input, gas, 1000000000, nonce, SimulatedChain.number⟩) RunError.gateway).perform
        (w.withChain (w.chain.estimate target input).2))
    rw [Call.perform_orElse, perform_signTransaction]
    rcases SimulatedChain.signTransaction_cases (w.chain.estimate target input).2 relayer
      ⟨target, input, gas, 1000000000, nonce, SimulatedChain.number⟩ with
      ⟨e, hk', hs⟩ | ⟨k, t, hk', hr, ht, hh, hs⟩
    · rw [hk] at hk'
      have hs' : ∀ c, (w.withChain c).chain = c := fun _ => rfl
      rw [hs', hs]
      exact .failed _ _ hq (.inr (by simp [hk']))
    · rw [hk] at hk'
      have hs' : ∀ c, (w.withChain c).chain = c := fun _ => rfl
      rw [hs', hs]
      refine .signed k t _ hk' ⟨hr, by rw [ht], by rw [ht], by rw [ht], hh⟩ ?_
      show (w.withChain _).still.signing t = w.still.signing t
      rw [hq]

/-! ## Preparing permits -/

namespace Flight

/-- The flight carries a permit transaction of the relayer that the chain has a record of. -/
def CarriesPermit (c : SimulatedChain) (relayer : Address) (f : Flight) : Prop :=
  ∃ t ∈ c.signed, f.transaction = ⟨t.raw, t.hash⟩ ∧
    ∃ permit nonce, IsPermit permit ∧ t.Of relayer SimulatedChain.pointToken permit nonce

/-- **Preparing permits signs transactions and does nothing else.** -/
theorem prepare_follows (start : SimulatedChain) {i : UInt64} {k : Signer} :
    ∀ (permits : List Bytes) (number : Nat) (nonce : UInt64) (w : Bench SimulatedChain),
      keyAt .relayer w.chain.relayers i = .ok k → (∀ p ∈ permits, IsPermit p) →
      ∀ fs w', prepare start.tools.gateway i permits number nonce w = (fs, w') →
      w.Follows w' [] ∧ fs.length ≤ permits.length ∧
        ∀ f ∈ fs, f.progress = .queued ∧ f.CarriesPermit w'.chain k.address
  | [], _, _, w, _, _, fs, w', h => by
    obtain ⟨rfl, rfl⟩ := Prod.mk.inj h
    exact ⟨.refl w, Nat.le_refl _, by simp⟩
  | permit :: rest, number, nonce, w, hk, hp, fs, w', h => by
    have hrest : ∀ p ∈ rest, IsPermit p := fun p hm => hp p (List.mem_cons_of_mem _ hm)
    have hprep := prepares start i SimulatedChain.pointToken permit nonce w
    rw [prepare, show start.tools.gateway.pointToken = SimulatedChain.pointToken from rfl] at h
    generalize (start.tools.gateway.prepare i SimulatedChain.pointToken permit nonce).perform w =
      res at h hprep
    cases hprep with
    | failed e w₁ env why =>
      have hf := Bench.Follows.of_still env
      obtain ⟨hf', hl, hfs⟩ := prepare_follows start rest (number + 1) nonce w₁
        (by rw [hf.relayers, hk]) hrest fs w' h
      exact ⟨hf.trans hf', by rw [List.length_cons]; omega, hfs⟩
    | signed k' t w₁ key record env =>
      obtain rfl : k' = k := Except.ok.inj (key.symm.trans hk)
      have hf : w.Follows w₁ [] := .of_signing env
      have ht : t ∈ w₁.chain.signed := Bench.mem_signed_of_signing env
      rcases hr : prepare start.tools.gateway i rest (number + 1) (nonce + 1) w₁ with ⟨fs', w''⟩
      obtain ⟨hf', hl, hfs⟩ := prepare_follows start rest (number + 1) (nonce + 1) w₁
        (by rw [hf.relayers, hk]) hrest fs' w'' hr
      simp only [hr] at h
      obtain ⟨rfl, rfl⟩ := Prod.mk.inj h
      refine ⟨hf.trans hf', ?_, ?_⟩
      · simp only [List.length_cons]
        omega
      · intro f hm
        rcases List.mem_cons.mp hm with rfl | hm
        · exact ⟨rfl, t, hf'.chain.signed.subset ht, rfl, permit, nonce,
            hp permit List.mem_cons_self, record⟩
        · exact hfs f hm

/-- Preparing permits signs a transaction for each of them at most. -/
theorem signed_prepare (start : SimulatedChain) {i : UInt64} :
    ∀ (permits : List Bytes) (number : Nat) (nonce : UInt64) (w : Bench SimulatedChain),
      ∃ ts, ts.length ≤ permits.length ∧
        (prepare start.tools.gateway i permits number nonce w).2.chain.signed =
          w.chain.signed ++ ts
  | [], _, _, w => ⟨[], Nat.le_refl 0, (List.append_nil _).symm⟩
  | permit :: rest, number, nonce, w => by
    have hprep := prepares start i SimulatedChain.pointToken permit nonce w
    rw [prepare, show start.tools.gateway.pointToken = SimulatedChain.pointToken from rfl]
    generalize (start.tools.gateway.prepare i SimulatedChain.pointToken permit nonce).perform w =
      res at hprep ⊢
    cases hprep with
    | failed e w₁ env why =>
      obtain ⟨ts, hl, hs⟩ := signed_prepare start rest (number + 1) nonce w₁
      have hw : w₁.chain.signed = w.chain.signed := (congrArg (fun w => w.chain.signed) env :)
      exact ⟨ts, Nat.le_succ_of_le hl, by rw [← hw]; exact hs⟩
    | signed k t w₁ key record env =>
      obtain ⟨ts, hl, hs⟩ := signed_prepare start rest (number + 1) (nonce + 1) w₁
      refine ⟨t :: ts, Nat.succ_le_succ hl, ?_⟩
      show (prepare start.tools.gateway i rest (number + 1) (nonce + 1) w₁).2.chain.signed = _
      rw [hs, Bench.signed_of_signing env, List.append_assoc]
      rfl

end Flight

/-! ## Taking turns -/

namespace Progress

variable (start : SimulatedChain) (w : Bench SimulatedChain)

theorem look_env (hash : Hash) : (look start.tools.gateway hash w).2 = w := by
  rw [look, perform_confirm]
  cases w.chain.confirm hash <;> rfl

/-- Going on with a broadcast includes its transaction at most. -/
theorem advance_follows (raw : Bytes) (p : Progress) :
    ∃ ts, w.Follows (p.advance start.tools.gateway raw w).2 ts ∧ ∀ t ∈ ts, t.hash = keccak raw := by
  cases p with
  | queued =>
    obtain ⟨ts, hr, ht⟩ := (SimulatedChain.submitted w.chain raw).reaches
    refine ⟨ts, ?_, ht⟩
    have hf : w.Follows (w.withChain (w.chain.submit raw).2) ts := .withChain hr
    rw [advance, perform_submit]
    rcases (w.chain.submit raw).1 with e | hash
    · exact hf
    · simp only [look_env]
      exact hf
  | waiting hash =>
    refine ⟨[], ?_, by simp⟩
    rw [advance, look_env]
    exact .refl w
  | settled r => exact ⟨[], .refl w, by simp⟩

/-- Going on with a broadcast signs nothing. -/
theorem signed_advance (raw : Bytes) (p : Progress) :
    (p.advance start.tools.gateway raw w).2.chain.signed = w.chain.signed := by
  cases p with
  | queued =>
    have hs := (SimulatedChain.submitted w.chain raw).signed
    rw [advance, perform_submit]
    rcases (w.chain.submit raw).1 with e | hash
    · exact hs
    · simp only [look_env]
      exact hs
  | waiting hash => rw [advance, look_env]
  | settled r => rfl

end Progress

namespace Flight

variable (start : SimulatedChain)

theorem turn_follows (gapFirst : Bool) (gap : Option Nat) (f : Flight) (w : Bench SimulatedChain) :
    (f.turn start.tools.gateway gapFirst gap w).1.transaction = f.transaction ∧
    ∃ ts, w.Follows (f.turn start.tools.gateway gapFirst gap w).2 ts ∧
      ∀ t ∈ ts, t.hash = keccak f.transaction.raw := by
  obtain ⟨ts, hf, ht⟩ := Progress.advance_follows start w f.transaction.raw f.progress
  unfold turn
  split
  · exact ⟨rfl, [], .refl w, by simp⟩
  · exact ⟨rfl, ts, hf, ht⟩
  · split
    · exact ⟨rfl, [], .refl w, by simp⟩
    · split <;> rename_i h <;> rw [h] at hf <;> exact ⟨rfl, ts, hf, ht⟩

/-- What the flights of a run have in common from turn to turn. -/
def transactions (fs : List Flight) : List SignedTransaction := fs.map transaction

theorem turnAt_follows (t : Turn) (fs : List Flight) (w : Bench SimulatedChain) :
    transactions (turnAt start.tools.gateway t fs w).1 = transactions fs ∧
    ∃ ts, w.Follows (turnAt start.tools.gateway t fs w).2 ts ∧
      ∀ u ∈ ts, ∃ x ∈ transactions fs, u.hash = keccak x.raw := by
  unfold turnAt
  split
  next f hf =>
    obtain ⟨hx, ts, hw, ht⟩ := turn_follows start t.gapFirst
      ((firstRefused? fs).filter fun k => k < f.number) f w
    have hm : f.transaction ∈ transactions fs :=
      List.mem_map_of_mem (List.mem_of_getElem? hf)
    refine ⟨?_, ts, hw, fun u hu => ⟨_, hm, ht u hu⟩⟩
    show (fs.set t.place _).map transaction = fs.map transaction
    obtain ⟨hlt, rfl⟩ := List.getElem?_eq_some_iff.mp hf
    have hl : t.place < (fs.map transaction).length := by
      rw [List.length_map]
      exact hlt
    rw [List.map_set, hx, ← List.getElem_map transaction (h := hl), List.set_getElem_self]
  next => exact ⟨rfl, [], .refl w, by simp⟩

/-- **Whatever turns the broadcasts take, they include permits of the batch at most.** -/
theorem run_follows (turns : List Turn) (fs : List Flight) (w : Bench SimulatedChain) :
    transactions (run start.tools.gateway turns fs w).1 = transactions fs ∧
    ∃ ts, w.Follows (run start.tools.gateway turns fs w).2 ts ∧
      ∀ u ∈ ts, ∃ x ∈ transactions fs, u.hash = keccak x.raw := by
  induction turns generalizing fs w with
  | nil => exact ⟨rfl, [], .refl w, by simp⟩
  | cons t rest ih =>
    obtain ⟨hx, ts, hw, ht⟩ := turnAt_follows start t fs w
    obtain ⟨hx', us, hw', hu⟩ := ih (turnAt start.tools.gateway t fs w).1
      (turnAt start.tools.gateway t fs w).2
    rw [hx] at hx' hu
    refine ⟨hx', ts ++ us, hw.trans hw', ?_⟩
    intro u hm
    rcases List.mem_append.mp hm with hm | hm
    · exact ht u hm
    · exact hu u hm

theorem signed_turnAt (t : Turn) (fs : List Flight) (w : Bench SimulatedChain) :
    (turnAt start.tools.gateway t fs w).2.chain.signed = w.chain.signed := by
  unfold turnAt
  split
  next f hf =>
    have ha := Progress.signed_advance start w f.transaction.raw f.progress
    simp only
    unfold turn
    split
    · rfl
    · exact ha
    · split
      · rfl
      · split <;> rename_i h <;> rw [h] at ha <;> exact ha
  next => rfl

/-- Taking turns signs nothing. -/
theorem signed_run (turns : List Turn) (fs : List Flight) (w : Bench SimulatedChain) :
    (run start.tools.gateway turns fs w).2.chain.signed = w.chain.signed := by
  induction turns generalizing fs w with
  | nil => rfl
  | cons t rest ih => exact (ih _ _).trans (signed_turnAt start t fs w)

end Flight

/-! ## Broadcasting permits -/

/-- Broadcasting permits signs a transaction for each of them at most. -/
theorem signed_broadcastPermits (start : SimulatedChain) (turns : Nat → List Turn) (i : UInt64)
    (account : Address) (permits : List Bytes) (w : Bench SimulatedChain) :
    ∃ ts, ts.length ≤ permits.length ∧
      ((broadcastPermits start.tools.gateway turns i account permits).perform w).2.chain.signed =
        w.chain.signed ++ ts := by
  obtain ⟨ts, hl, hs⟩ := Flight.signed_prepare start (i := i) permits 1 (w.chain.txCount account) w
  refine ⟨ts, hl, ?_⟩
  rw [broadcastPermits, Call.perform_bind, Call.perform_attempt, perform_transactionCount]
  simp only [Call.perform_bind, Call.perform_of]
  rw [← hs]
  generalize Flight.prepare start.tools.gateway i permits 1 (w.chain.txCount account) w = r
  have hrun := Flight.signed_run start (turns r.1.length) r.1 r.2
  split <;> exact hrun

/-- A transaction of permits, as far as its hash tells. -/
def SimulatedChain.PermitHash (c : SimulatedChain) (relayer : Address) (t : SignedRecord) : Prop :=
  ∃ u ∈ c.signed, u.hash = t.hash ∧
    ∃ permit nonce, IsPermit permit ∧ u.Of relayer SimulatedChain.pointToken permit nonce

/-- **Broadcasting permits includes permit transactions of the relayer at most, and every permit is
counted once.** -/
theorem broadcastPermits_follows (start : SimulatedChain) (turns : Nat → List Turn) {i : UInt64}
    {k : Signer} {account : Address} {permits : List Bytes} {w w' : Bench SimulatedChain}
    {res : Except Interruption PermitCount} (hk : keyAt .relayer w.chain.relayers i = .ok k)
    (hp : ∀ p ∈ permits, IsPermit p)
    (h : (broadcastPermits start.tools.gateway turns i account permits).perform w = (res, w')) :
    ∃ ts, w.Follows w' ts ∧ (∀ t ∈ ts, w'.chain.PermitHash k.address t) ∧
      (res = .error .waiting ∨
        ∃ count, res = .ok count ∧ count.sent + count.failed = permits.length) := by
  rw [broadcastPermits, Call.perform_bind, Call.perform_attempt, perform_transactionCount] at h
  simp only [Call.perform_bind, Call.perform_of] at h
  rcases hf : Flight.prepare start.tools.gateway i permits 1 (w.chain.txCount account) w with
    ⟨fs, w₁⟩
  obtain ⟨hw₁, hl, hfs⟩ := Flight.prepare_follows start permits 1 _ w hk hp fs w₁ hf
  rcases hr : Flight.run start.tools.gateway (turns fs.length) fs w₁ with ⟨fs', w₂⟩
  obtain ⟨hx, ts, hw₂, ht⟩ := Flight.run_follows start (turns fs.length) fs w₁
  rw [hr] at hx hw₂
  simp only [hf, hr] at h
  have hlen : fs'.length = fs.length := by
    simpa [Flight.transactions] using congrArg List.length hx
  have hcount : (fs'.filter Flight.isSent).length ≤ permits.length := by
    -- a permit that could not be prepared has no flight
    have := List.length_filter_le Flight.isSent fs'
    omega
  have hpermit : ∀ t ∈ ts, w₂.chain.PermitHash k.address t := by
    intro t hm
    obtain ⟨x, hx, hh⟩ := ht t hm
    obtain ⟨f, hf, rfl⟩ := List.mem_map.mp hx
    obtain ⟨u, hu, hfu, permit, nonce, hpu, ho⟩ := (hfs f hf).2
    refine ⟨u, hw₂.chain.signed.subset hu, ?_, permit, nonce, hpu, ho⟩
    rw [hh, hfu, ho.hash]
  by_cases hall : (fs'.all fun f => f.result?.isSome) = true
  · rw [if_pos hall] at h
    obtain ⟨rfl, rfl⟩ := Prod.mk.inj h
    refine ⟨ts, hw₁.trans hw₂, hpermit, .inr ⟨_, rfl, ?_⟩⟩
    show (fs'.filter Flight.isSent).length +
      (permits.length - (fs'.filter Flight.isSent).length) = permits.length
    omega
  · rw [if_neg hall] at h
    obtain ⟨rfl, rfl⟩ := Prod.mk.inj h
    exact ⟨ts, hw₁.trans hw₂, hpermit, .inl rfl⟩

end PointExchange
