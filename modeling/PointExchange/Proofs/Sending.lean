import PointExchange.Proofs.Submission

/-!
# Sending a batch

A batch is sent in three phases: its permits are broadcast, its calls are submitted, and the keys
take turns. `Sends` says how far a run comes with it.
-/

namespace PointExchange

/-- The relayer whose turn it is. -/
structure RelayerTurn (start : SimulatedChain) (w : Bench SimulatedChain) (i : UInt64)
    (k : Signer) : Prop where
  index : ∃ stored, w.indices.get .relayer = .ok stored ∧
    i = stored % poolModulus (start.gateway.poolSize .relayer)
  key : keyAt .relayer start.relayers i = .ok k

/-- The permits of a batch are sent, if it has any. -/
structure PermitsSent (w : Bench SimulatedChain) (b : Batch) (k : Signer)
    (w' : Bench SimulatedChain) (ts : List SignedRecord) : Prop where
  none : b.permits = [] → w' = w
  env : w.Follows w' ts
  permits : ∀ t ∈ ts, w'.chain.PermitHash k.address t

/-- The calls of a batch are submitted, if it has any. -/
inductive CallsSent (w : Bench SimulatedChain) (i : UInt64) (k : Signer) (b : Batch) :
    Option BatchOutcome → Bench SimulatedChain → Prop
  | none (calls : b.calls = []) : CallsSent w i k b .none w
  | some (o : BatchOutcome) (w' : Bench SimulatedChain) (calls : b.calls ≠ [])
    (submits : Submits w i k.address b (.ok o, w')) : CallsSent w i k b (.some o) w'

/-- How far a run comes with a batch. -/
inductive Sends (start : SimulatedChain) (turns : Nat → List Turn) (w : Bench SimulatedChain)
    (b : Batch) (stop : StopReason) : Except Interruption RunReport × Bench SimulatedChain → Prop
  | noRelayer (e : RunError) (why : ∀ i k, ¬RelayerTurn start w i k) :
    Sends start turns w b stop (.error (.failed e), w)
  | permitsWait (i : UInt64) (k : Signer) (ts : List SignedRecord) (w' : Bench SimulatedChain)
    (relayer : RelayerTurn start w i k) (permits : PermitsSent w b k w' ts)
    (why : (Runner.sendPermits start.tools turns i k.address b).perform w =
      (.error .waiting, w')) :
    Sends start turns w b stop (.error .waiting, w')
  | batchWaits (i : UInt64) (k : Signer) (ts : List SignedRecord) (w₁ w' : Bench SimulatedChain)
    (relayer : RelayerTurn start w i k) (permits : PermitsSent w b k w₁ ts)
    (submits : Submits w₁ i k.address b (.error .waiting, w')) :
    Sends start turns w b stop (.error .waiting, w')
  | unturned (i : UInt64) (k : Signer) (ts : List SignedRecord) (w₁ w₂ : Bench SimulatedChain)
    (outcome : Option BatchOutcome) (e : IndexError) (indices : MemoryIndices)
    (relayer : RelayerTurn start w i k) (permits : PermitsSent w b k w₁ ts)
    (calls : CallsSent w₁ i k b outcome w₂) (why : w₂.indices.unavailable = true)
    (turned : indices.unavailable = w₂.indices.unavailable) :
    Sends start turns w b stop (.error (.failed (.indices e)), { w₂ with indices := indices })
  | sent (i : UInt64) (k : Signer) (ts : List SignedRecord) (w₁ w₂ : Bench SimulatedChain)
    (outcome : Option BatchOutcome) (count : PermitCount) (indices : MemoryIndices)
    (relayer : RelayerTurn start w i k) (permits : PermitsSent w b k w₁ ts)
    (counted : count.sent + count.failed = b.permits.length)
    (calls : CallsSent w₁ i k b outcome w₂)
    (turned : indices.unavailable = w₂.indices.unavailable) :
    Sends start turns w b stop
      (.ok ⟨count.sent, count.failed, b.calls.length, outcome, stop⟩,
        { w₂ with indices := indices })

/-! ## The phases -/

section Phases

variable (start : SimulatedChain) (w : Bench SimulatedChain)

theorem rotate_cases (role : KeyRole) (i : UInt64) :
    ∃ r indices, (Runner.rotate start.tools role i).perform w =
        (.ok r, { w with indices := indices }) ∧
      indices.unavailable = w.indices.unavailable ∧
      ((∃ x, r = .ok x) ∨ (∃ e, r = .error e) ∧ w.indices.unavailable = true) := by
  have h : ((start.tools.indices.set role (nextIndex i (start.tools.gateway.poolSize role))).perform
      w) = ((w.indices.set role (nextIndex i (start.tools.gateway.poolSize role))).1,
        { w with indices :=
          (w.indices.set role (nextIndex i (start.tools.gateway.poolSize role))).2 }) := rfl
  rw [Runner.rotate, Call.perform_attempt, IndexAccess.advance, Call.perform_bind, h]
  by_cases hu : w.indices.unavailable = true
  · simp only [MemoryIndices.set, if_pos hu]
    exact ⟨_, w.indices, rfl, rfl, .inr ⟨⟨_, rfl⟩, hu⟩⟩
  · simp only [MemoryIndices.set, if_neg hu]
    cases role with
    | manager => exact ⟨_, { w.indices with manager := _ }, rfl, rfl, .inl ⟨_, rfl⟩⟩
    | relayer => exact ⟨_, { w.indices with relayer := _ }, rfl, rfl, .inl ⟨_, rfl⟩⟩

theorem sendPermits_cases (turns : Nat → List Turn) {i : UInt64} {k : Signer} {b : Batch}
    (hk : keyAt .relayer w.chain.relayers i = .ok k) (hp : ∀ p ∈ b.permits, IsPermit p) :
    ∃ ts w', PermitsSent w b k w' ts ∧
      ((Runner.sendPermits start.tools turns i k.address b).perform w = (.error .waiting, w') ∨
      ∃ count, count.sent + count.failed = b.permits.length ∧
        (Runner.sendPermits start.tools turns i k.address b).perform w = (.ok count, w')) := by
  rw [Runner.sendPermits]
  by_cases he : b.permits.isEmpty = true
  · rw [if_pos he]
    have hb : b.permits = [] := List.isEmpty_iff.mp he
    exact ⟨[], w, ⟨fun _ => rfl, .refl w, by simp⟩, .inr ⟨⟨0, 0⟩, by simp [hb], rfl⟩⟩
  · have hb : b.permits ≠ [] := fun h => he (by rw [h]; rfl)
    rw [if_neg he]
    rcases h : (broadcastPermits start.tools.gateway turns i k.address b.permits).perform w with
      ⟨res, w'⟩
    obtain ⟨ts, hf, ht, hr⟩ := broadcastPermits_follows start turns hk hp h
    refine ⟨ts, w', ⟨fun h => absurd h hb, hf, ht⟩, ?_⟩
    rcases hr with rfl | ⟨count, rfl, hc⟩
    · exact .inl rfl
    · exact .inr ⟨count, hc, rfl⟩

/-- What sending the calls of a batch comes to; the manager's turn passes with them. -/
theorem sendCalls_cases (i : UInt64) (k : Signer) (b : Batch) :
    (∃ w', b.calls ≠ [] ∧ Submits w i k.address b (.error .waiting, w') ∧
      (Runner.sendCalls start.tools i k.address b).perform w = (.error .waiting, w')) ∨
    ∃ o w' r indices, CallsSent w i k b o w' ∧
      (Runner.sendCalls start.tools i k.address b).perform w =
        (.ok (o, r), { w' with indices := indices }) ∧
      indices.unavailable = w'.indices.unavailable ∧
      ((∃ x, r = .ok x) ∨ (∃ e, r = .error e) ∧ w'.indices.unavailable = true) := by
  rw [Runner.sendCalls]
  by_cases he : b.calls.isEmpty = true
  · rw [if_pos he]
    exact .inr ⟨none, w, .ok 0, w.indices, .none (List.isEmpty_iff.mp he), rfl, rfl,
      .inl ⟨0, rfl⟩⟩
  · have hb : b.calls ≠ [] := fun h => he (by rw [h]; rfl)
    rw [if_neg he, Call.perform_bind]
    have hs := submits start i k.address b w
    rcases h : (submitBatch start.tools i k.address b).perform w with ⟨res, w'⟩
    rw [h] at hs
    cases res with
    | error x =>
      have hx : x = .waiting := by cases hs; rfl
      subst hx
      exact .inl ⟨w', hb, hs, rfl⟩
    | ok o =>
      simp only
      cases hm : b.managerIndex with
      | none =>
        exact .inr ⟨some o, w', .ok 0, w'.indices, .some o w' hb hs, rfl, rfl, .inl ⟨0, rfl⟩⟩
      | some j =>
        obtain ⟨r, indices, hr, hi, hx⟩ := rotate_cases start w' .manager j
        simp only
        rw [Call.perform_bind, hr]
        exact .inr ⟨some o, w', r, indices, .some o w' hb hs, rfl, hi, hx⟩

end Phases

/-- Sending a batch from the relayer's turn on. -/
def Runner.sendBy {E : Type} (c : Collaborators E) (turns : Nat → List Turn) (relayer : UInt64)
    (account : Address) (b : Batch) (stop : StopReason) : RunStep E RunReport := do
  let permits ← sendPermits c turns relayer account b
  let sent ← sendCalls c relayer account b
  let next ← rotate c .relayer relayer
  orFail sent.2
  orFail next
  pure ⟨permits.sent, permits.failed, b.calls.length, sent.1, stop⟩

section Relayer

variable (start : SimulatedChain) (turns : Nat → List Turn) (w : Bench SimulatedChain) (b : Batch)
  (stop : StopReason)

/-- A batch is sent by the relayer whose turn it is, if there is one. -/
theorem send_cases :
    (∃ e, (∀ i k, ¬RelayerTurn start w i k) ∧
      (Runner.send start.tools turns b stop).perform w = (.error (.failed e), w)) ∨
    ∃ i k, RelayerTurn start w i k ∧ (Runner.send start.tools turns b stop).perform w =
      (Runner.sendBy start.tools turns i k.address b stop).perform w := by
  rw [Runner.send, Call.perform_bind, RunStep.of, Call.perform_orElse, Drafting.perform_index]
  cases hg : w.indices.get .relayer with
  | error e =>
    refine .inl ⟨_, ?_, rfl⟩
    rintro i k ⟨⟨stored, hs, -⟩, -⟩
    rw [hg] at hs
    simp at hs
  | ok stored =>
    simp only
    rw [RunStep.of, Call.perform_bind, Call.perform_orElse, Call.perform_ask]
    have ha : start.tools.gateway.addressFor .relayer
        (stored % poolModulus (start.tools.gateway.poolSize .relayer)) =
        (keyAt .relayer start.relayers (stored % poolModulus (start.gateway.poolSize .relayer))).map
          Signer.address := rfl
    rw [ha]
    generalize hi : stored % poolModulus (start.gateway.poolSize .relayer) = i
    have hi' : stored % poolModulus (start.tools.gateway.poolSize .relayer) = i := hi
    rw [hi']
    cases hk : keyAt .relayer start.relayers i with
    | error e =>
      refine .inl ⟨_, ?_, rfl⟩
      rintro j k ⟨⟨stored', hs, rfl⟩, hk'⟩
      rw [hg] at hs
      rw [← Except.ok.inj hs, hi, hk] at hk'
      simp at hk'
    | ok k => exact .inr ⟨i, k, ⟨⟨stored, hg, hi.symm⟩, hk⟩, rfl⟩

variable {w w₁ : Bench SimulatedChain} {i : UInt64} {k : Signer} {count : PermitCount}

/-- What a run comes to after its permits. The keys take turns after the calls, but an error of
either turn is told at the end only. -/
theorem sendBy_cases
    (sent : (Runner.sendPermits start.tools turns i k.address b).perform w = (.ok count, w₁)) :
    (∃ w₂, b.calls ≠ [] ∧ Submits w₁ i k.address b (.error .waiting, w₂) ∧
      (Runner.sendBy start.tools turns i k.address b stop).perform w = (.error .waiting, w₂)) ∨
    ∃ o w₂ indices res, CallsSent w₁ i k b o w₂ ∧
      indices.unavailable = w₂.indices.unavailable ∧
      (Runner.sendBy start.tools turns i k.address b stop).perform w =
        (res, { w₂ with indices := indices }) ∧
      (res = .ok ⟨count.sent, count.failed, b.calls.length, o, stop⟩ ∨
        ∃ e, res = .error (.failed (.indices e)) ∧ w₂.indices.unavailable = true) := by
  rw [Runner.sendBy, Call.perform_bind_ok sent]
  rcases sendCalls_cases start w₁ i k b with
    ⟨w₂, hcalls, hsub, hs⟩ | ⟨o, w₂, r, x, calls, hs, hx, hr⟩
  · rw [Call.perform_bind_error hs]
    exact .inl ⟨w₂, hcalls, hsub, rfl⟩
  rw [Call.perform_bind_ok hs]
  obtain ⟨r', x', hs', hx', hr'⟩ := rotate_cases start { w₂ with indices := x } .relayer i
  rw [Call.perform_bind_ok hs']
  rcases hr with ⟨y, rfl⟩ | ⟨⟨e, rfl⟩, hu⟩
  · rcases hr' with ⟨y', rfl⟩ | ⟨⟨e, rfl⟩, hu⟩
    · exact .inr ⟨o, w₂, x', _, calls, hx'.trans hx, rfl, .inl rfl⟩
    · exact .inr ⟨o, w₂, x', _, calls, hx'.trans hx, rfl, .inr ⟨e, rfl, hx.symm.trans hu⟩⟩
  · exact .inr ⟨o, w₂, x', _, calls, hx'.trans hx, rfl, .inr ⟨e, rfl, hu⟩⟩

end Relayer

/-- **A batch is sent in these phases.** -/
theorem sends (start : SimulatedChain) (turns : Nat → List Turn) (w : Bench SimulatedChain)
    (b : Batch) (stop : StopReason) (hr : w.chain.relayers = start.relayers)
    (hp : ∀ p ∈ b.permits, IsPermit p) :
    Sends start turns w b stop ((Runner.send start.tools turns b stop).perform w) := by
  rcases send_cases start turns w b stop with ⟨e, why, hs⟩ | ⟨i, k, relayer, hs⟩
  · rw [hs]
    exact .noRelayer e why
  rw [hs]
  obtain ⟨ts, w₁, permits, hs | ⟨count, hc, hs⟩⟩ :=
    sendPermits_cases start w turns (by rw [hr, relayer.key]) hp
  · rw [Runner.sendBy, Call.perform_bind_error hs]
    exact .permitsWait i k ts w₁ relayer permits hs
  rcases sendBy_cases start turns b stop hs with
    ⟨w₂, -, hsub, h⟩ | ⟨o, w₂, x, res, calls, hx, h, hres⟩
  · rw [h]
    exact .batchWaits i k ts w₁ w₂ relayer permits hsub
  · rw [h]
    rcases hres with rfl | ⟨e, rfl, hu⟩
    · exact .sent i k ts w₁ w₂ o count x relayer permits hc calls hx
    · exact .unturned i k ts w₁ w₂ o e x relayer permits calls hu hx

/-! ## What sending signs -/

theorem Submits.signed {w : Bench SimulatedChain} {i : UInt64} {account : Address} {b : Batch}
    {res : Except Interruption BatchOutcome × Bench SimulatedChain}
    (h : Submits w i account b res) (calls : b.calls ≠ []) :
    ∃ ts, ts.length ≤ min b.calls.length 1 ∧ res.2.chain.signed = w.chain.signed ++ ts := by
  have hone : 1 ≤ min b.calls.length 1 :=
    Nat.le_min.mpr ⟨List.length_pos_iff.mpr calls, Nat.le_refl 1⟩
  cases h with
  | notSigned w' why env =>
    refine ⟨[], Nat.zero_le _, ?_⟩
    rw [List.append_nil]
    exact (congrArg (fun w => w.chain.signed) env :)
  | ledgerFailed t w' transaction | refused t u w' transaction | stalled t u w' transaction
  | included t u w' transaction => exact ⟨[t], hone, transaction.signed⟩

theorem CallsSent.signed {w w' : Bench SimulatedChain} {i : UInt64} {k : Signer} {b : Batch}
    {o : Option BatchOutcome} (h : CallsSent w i k b o w') :
    ∃ ts, ts.length ≤ min b.calls.length 1 ∧ w'.chain.signed = w.chain.signed ++ ts := by
  cases h with
  | none => exact ⟨[], Nat.zero_le _, (List.append_nil _).symm⟩
  | some o w' calls submits => exact submits.signed calls

theorem signed_sendPermits (start : SimulatedChain) (turns : Nat → List Turn) (i : UInt64)
    (account : Address) (b : Batch) (w : Bench SimulatedChain) :
    ∃ ts, ts.length ≤ b.permits.length ∧
      ((Runner.sendPermits start.tools turns i account b).perform w).2.chain.signed =
        w.chain.signed ++ ts := by
  rw [Runner.sendPermits]
  by_cases he : b.permits.isEmpty = true
  · rw [if_pos he]
    exact ⟨[], Nat.zero_le _, (List.append_nil _).symm⟩
  · rw [if_neg he]
    exact signed_broadcastPermits start turns i account b.permits w

/-- **A batch is signed once at most, and each of its permits is.** -/
theorem signed_send (start : SimulatedChain) (turns : Nat → List Turn) (w : Bench SimulatedChain)
    (b : Batch) (stop : StopReason) :
    ∃ ts, ts.length ≤ b.permits.length + min b.calls.length 1 ∧
      ((Runner.send start.tools turns b stop).perform w).2.chain.signed = w.chain.signed ++ ts := by
  rcases send_cases start turns w b stop with ⟨e, -, h⟩ | ⟨i, k, -, h⟩
  · rw [h]
    exact ⟨[], Nat.zero_le _, (List.append_nil _).symm⟩
  rw [h]
  obtain ⟨ts, hl, hs⟩ := signed_sendPermits start turns i k.address b w
  rcases hp : (Runner.sendPermits start.tools turns i k.address b).perform w with ⟨e | count, w₁⟩
  · rw [hp] at hs
    rw [Runner.sendBy, Call.perform_bind_error hp]
    exact ⟨ts, Nat.le_trans hl (Nat.le_add_right _ _), hs⟩
  rw [hp] at hs
  obtain ⟨us, hl', hs'⟩ : ∃ us, us.length ≤ min b.calls.length 1 ∧
      ((Runner.sendBy start.tools turns i k.address b stop).perform w).2.chain.signed =
        w₁.chain.signed ++ us := by
    rcases sendBy_cases start turns b stop hp with
      ⟨w₂, hcalls, hsub, h⟩ | ⟨o, w₂, x, res, calls, -, h, -⟩
    · rw [h]
      exact hsub.signed hcalls
    · rw [h]
      exact calls.signed
  refine ⟨ts ++ us, ?_, by rw [hs', hs, List.append_assoc]⟩
  rw [List.length_append]
  omega

/-! ## What sending leaves as it is -/

/-- What runs leave as it is: the keys of the chain and how it misbehaves, the transactions signed
before, whether the ledger and the indices can be reached, the lock, and the settings. -/
structure Bench.Keeps (w w' : Bench SimulatedChain) : Prop where
  bare : w'.chain.bare = w.chain.bare
  signed : w.chain.signed <+: w'.chain.signed
  failsCommit : w'.ledger.failsCommit = w.ledger.failsCommit
  unavailable : w'.indices.unavailable = w.indices.unavailable
  lock : w'.lock = w.lock
  settings : w'.settings = w.settings

namespace Bench

variable {w w₁ w₂ : Bench SimulatedChain} {ts : List SignedRecord}

theorem Keeps.trans (h : w.Keeps w₁) (h' : w₁.Keeps w₂) : w.Keeps w₂ :=
  ⟨h'.bare.trans h.bare, h.signed.trans h'.signed, h'.failsCommit.trans h.failsCommit,
    h'.unavailable.trans h.unavailable, h'.lock.trans h.lock, h'.settings.trans h.settings⟩

theorem Follows.keeps (h : w.Follows w₁ ts) : w.Keeps w₁ :=
  ⟨h.chain.bare, h.chain.signed, by rw [h.ledger], by rw [h.indices], h.lock, h.settings⟩

theorem Keeps.refl (w : Bench SimulatedChain) : w.Keeps w := (Follows.refl w).keeps

theorem Keeps.committing (w : Bench SimulatedChain) (hash : Hash)
    (accepted : List (Uuid × Direction)) : w.Keeps (w.committing hash accepted) :=
  { Keeps.refl w with
    failsCommit := MemoryLedger.frame_commitAll hash accepted w.ledger ⟨[], []⟩ }

/-- The bench with other indices that can be reached just as well. -/
theorem Keeps.turning {indices : MemoryIndices} (h : indices.unavailable = w.indices.unavailable) :
    w.Keeps { w with indices := indices } :=
  { Keeps.refl w with unavailable := h }

end Bench

theorem Submits.keeps {w : Bench SimulatedChain} {i : UInt64} {account : Address} {b : Batch}
    {res : Except Interruption BatchOutcome × Bench SimulatedChain}
    (h : Submits w i account b res) : w.Keeps res.2 := by
  cases h with
  | notSigned w' why env => exact (Bench.Follows.of_still env).keeps
  | ledgerFailed t w' transaction why env => exact env.keeps
  | refused t u w' transaction found why env => exact (Bench.Keeps.committing _ _ _).trans env.keeps
  | stalled t u w' transaction found why env => exact (Bench.Keeps.committing _ _ _).trans env.keeps
  | included t u w' transaction found env => exact (Bench.Keeps.committing _ _ _).trans env.keeps

theorem CallsSent.keeps {w w' : Bench SimulatedChain} {i : UInt64} {k : Signer} {b : Batch}
    {o : Option BatchOutcome} (h : CallsSent w i k b o w') : w.Keeps w' := by
  cases h with
  | none => exact .refl w
  | some o w' calls submits => exact submits.keeps

/-- The report tells how many permits and calls the batch has. -/
theorem Sends.counted {start : SimulatedChain} {turns : Nat → List Turn}
    {w w' : Bench SimulatedChain} {b : Batch} {stop : StopReason} {report : RunReport}
    (h : Sends start turns w b stop (.ok report, w')) :
    report.permitsSent + report.permitsFailed = b.permits.length ∧
      report.calls = b.calls.length := by
  cases h with
  | sent i k ts w₁ w₂ outcome count indices relayer permits counted => exact ⟨counted, rfl⟩

theorem Sends.keeps {start : SimulatedChain} {turns : Nat → List Turn} {w : Bench SimulatedChain}
    {b : Batch} {stop : StopReason} {res : Except Interruption RunReport × Bench SimulatedChain}
    (h : Sends start turns w b stop res) : w.Keeps res.2 := by
  cases h with
  | noRelayer => exact .refl w
  | permitsWait i k ts w' relayer permits => exact permits.env.keeps
  | batchWaits i k ts w₁ w' relayer permits submits => exact permits.env.keeps.trans submits.keeps
  | unturned i k ts w₁ w₂ outcome e indices relayer permits calls why turned =>
    exact (permits.env.keeps.trans calls.keeps).trans (.turning turned)
  | sent i k ts w₁ w₂ outcome count indices relayer permits counted calls turned =>
    exact (permits.env.keeps.trans calls.keeps).trans (.turning turned)

end PointExchange
