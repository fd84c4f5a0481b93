import PointExchange.Proofs.Permits

/-!
# Submitting a batch

The cases of `submitBatch`, in the order of its steps. The batch is signed, committed to the ledger
and handed over; wherever this ends, the steps before the end have been taken and the ones after it
have not.
-/

namespace PointExchange

/-- The bench with a batch committed to its ledger. -/
def Bench.committing (w : Bench SimulatedChain) (hash : Hash) (accepted : List (Uuid × Direction)) :
    Bench SimulatedChain :=
  { w with ledger := (w.ledger.commitAll hash accepted ⟨[], []⟩).1 }

theorem perform_commit (start : SimulatedChain) (w : Bench SimulatedChain) (hash : Hash)
    (accepted : List (Uuid × Direction)) :
    (start.tools.ledger.commit hash accepted).perform w =
      ((w.ledger.commit hash accepted).1,
        { w with ledger := (w.ledger.commit hash accepted).2 }) := rfl

/-- The transaction of a batch: what the relayer signs for it, and that the chain knows it. -/
structure BatchTransaction (w : Bench SimulatedChain) (relayer : UInt64) (account : Address)
    (b : Batch) (c : SimulatedChain) (t : SignedRecord) : Prop where
  signed : c.signed = w.chain.signed ++ [t]
  record : ∃ k, keyAt .relayer w.chain.relayers relayer = .ok k ∧
    t.Of k.address SimulatedChain.pointManager (encodeMulticall b.calls) (w.chain.txCount account)

theorem BatchTransaction.mem {w : Bench SimulatedChain} {relayer : UInt64} {account : Address}
    {b : Batch} {c : SimulatedChain} {t : SignedRecord}
    (h : BatchTransaction w relayer account b c t) : t ∈ c.signed := by
  rw [h.signed]
  exact List.mem_append_right _ (List.mem_singleton_self t)

/-- What submitting a batch comes to, and the bench after it. In the order of the cases: nothing
was signed; the ledger failed; the node refused the transaction; it waits for good; it was
included. -/
inductive Submits (w : Bench SimulatedChain) (relayer : UInt64) (account : Address) (b : Batch) :
    Except Interruption BatchOutcome × Bench SimulatedChain → Prop
  | notSigned (w' : Bench SimulatedChain)
    (why : (∃ x, (w.chain.estimate SimulatedChain.pointManager
        (encodeMulticall b.calls)).1 = .error x) ∨
      ∀ k, keyAt .relayer w.chain.relayers relayer ≠ .ok k)
    (env : w'.still = w.still) : Submits w relayer account b (.ok .notSigned, w')
  | ledgerFailed (t : SignedRecord) (w' : Bench SimulatedChain)
    (transaction : BatchTransaction w relayer account b w'.chain t)
    (why : w.ledger.failsCommit = true)
    (env : w.Follows w' []) : Submits w relayer account b (.ok (.ledgerFailed t.hash), w')
  | refused (t u : SignedRecord) (w' : Bench SimulatedChain)
    (transaction : BatchTransaction w relayer account b w'.chain t)
    (found : w'.chain.record? t.hash = some u) (why : w'.chain.refuses u = true)
    (env : (w.committing t.hash b.accepted).Follows w' []) :
    Submits w relayer account b (.ok (.broadcastFailed t.hash), w')
  | stalled (t u : SignedRecord) (w' : Bench SimulatedChain)
    (transaction : BatchTransaction w relayer account b w'.chain t)
    (found : w'.chain.record? t.hash = some u) (why : w'.chain.stalls u = true)
    (env : (w.committing t.hash b.accepted).Follows w' []) :
    Submits w relayer account b (.error .waiting, w')
  | included (t u : SignedRecord) (w' : Bench SimulatedChain)
    (transaction : BatchTransaction w relayer account b w'.chain t)
    (found : w'.chain.record? t.hash = some u)
    (env : (w.committing t.hash b.accepted).Follows w' [u]) :
    Submits w relayer account b (.ok (.broadcast t.hash), w')

/-- What handing a batch over comes to, when its transaction is signed and its records are
linked. -/
inductive HandsOver (w : Bench SimulatedChain) (t : SignedRecord) :
    Except Interruption BatchOutcome × Bench SimulatedChain → Prop
  | refused (u : SignedRecord) (found : w.chain.record? t.hash = some u)
    (why : w.chain.refuses u = true) : HandsOver w t (.ok (.broadcastFailed t.hash), w)
  | stalled (u : SignedRecord) (found : w.chain.record? t.hash = some u)
    (why : w.chain.stalls u = true) :
    HandsOver w t (.error .waiting,
      w.withChain { w.chain with stalled := t.hash :: w.chain.stalled })
  | included (u : SignedRecord) (found : w.chain.record? t.hash = some u) :
    HandsOver w t (.ok (.broadcast t.hash), w.withChain (w.chain.settle u))

/-- The end of a submission, from handing the transaction over. -/
def handOver (g : Gateway (Bench SimulatedChain)) (transaction : SignedTransaction) :
    RunStep (Bench SimulatedChain) BatchOutcome := do
  match ← (g.submit transaction.raw).attempt with
  | .error _ => return .broadcastFailed transaction.hash
  | .ok pending =>
    match ← (g.confirm pending).attempt with
    | .error _ => return .broadcastFailed transaction.hash
    | .ok (some included) => return .broadcast included
    | .ok none => throw .waiting

theorem handsOver (start : SimulatedChain) {w : Bench SimulatedChain} {t : SignedRecord}
    (ht : t ∈ w.chain.signed) (hh : t.hash = keccak t.raw) :
    HandsOver w t ((handOver start.tools.gateway ⟨t.raw, t.hash⟩).perform w) := by
  have hs := SimulatedChain.submitted w.chain t.raw
  rw [← hh] at hs
  rw [handOver, Call.perform_bind, Call.perform_attempt, perform_submit]
  generalize w.chain.submit t.raw = res at hs
  cases hs with
  | unknown h =>
    obtain ⟨u, hu⟩ := SimulatedChain.exists_record? ht
    rw [hu] at h
    simp at h
  | refused u h hr => exact .refused u h hr
  | stalled u h hr hs =>
    simp only
    rw [Call.perform_bind, Call.perform_attempt, perform_confirm]
    have hc : (w.withChain { w.chain with stalled := t.hash :: w.chain.stalled }).chain.confirm
        t.hash = none := by
      simp [SimulatedChain.confirm, Bench.withChain]
    simp only [hc]
    exact .stalled u h hs
  | settled u h hr hs =>
    simp only
    rw [Call.perform_bind, Call.perform_attempt, perform_confirm]
    have hc : (w.withChain (w.chain.settle u)).chain.confirm t.hash = some t.hash :=
      SimulatedChain.confirm_settle (SimulatedChain.record?_eq_some h).2
    simp only [hc]
    exact .included u h

theorem perform_signBatch (start : SimulatedChain) (relayer : UInt64) (account : Address)
    (calls : List Bytes) (w : Bench SimulatedChain) :
    (signBatch start.tools.gateway relayer account calls).perform w =
      (start.tools.gateway.prepare relayer SimulatedChain.pointManager (encodeMulticall calls)
        (w.chain.txCount account)).perform w := by
  rw [signBatch, Call.perform_bind, Call.perform_orElse, perform_transactionCount]
  rfl

/-- Committing a batch that is signed and handing it over. -/
def commitAndHandOver (c : Collaborators (Bench SimulatedChain)) (b : Batch)
    (transaction : SignedTransaction) : RunStep (Bench SimulatedChain) BatchOutcome := do
  match ← (c.ledger.commit transaction.hash b.accepted).attempt with
  | .error _ => return .ledgerFailed transaction.hash
  | .ok _ => handOver c.gateway transaction

/-- **A batch is submitted in one of these ways.** -/
theorem submits (start : SimulatedChain) (relayer : UInt64) (account : Address) (b : Batch)
    (w : Bench SimulatedChain) :
    Submits w relayer account b ((submitBatch start.tools relayer account b).perform w) := by
  have hp := prepares start relayer SimulatedChain.pointManager (encodeMulticall b.calls)
    (w.chain.txCount account) w
  rw [← perform_signBatch] at hp
  rw [submitBatch, Call.perform_bind, Call.perform_attempt]
  generalize (signBatch start.tools.gateway relayer account b.calls).perform w = res at hp
  cases hp with
  | failed e w₁ env why => exact .notSigned w₁ why env
  | signed k t w₁ key record env =>
    have hf : w.Follows w₁ [] := .of_signing env
    have hs := Bench.signed_of_signing env
    have ht : t ∈ w₁.chain.signed := Bench.mem_signed_of_signing env
    -- from here on the steps are those of a batch that is signed
    show Submits w relayer account b
      ((commitAndHandOver start.tools b ⟨t.raw, t.hash⟩).perform w₁)
    rw [commitAndHandOver, Call.perform_bind, Call.perform_attempt, perform_commit]
    rcases w₁.ledger.commit_cases t.hash b.accepted with ⟨hc, e, he⟩ | ⟨hc, done, he⟩
    · simp only [he]
      rw [hf.ledger] at hc
      exact .ledgerFailed t w₁ ⟨hs, k, key, record⟩ hc hf
    · simp only [he]
      have hl : (w.committing t.hash b.accepted).Follows (w₁.committing t.hash b.accepted) [] := by
        refine ⟨hf.chain, ?_, hf.indices, hf.lock, hf.settings⟩
        show (w₁.ledger.commitAll _ _ _).1 = (w.ledger.commitAll _ _ _).1
        rw [hf.ledger]
      have hh := handsOver start (w := w₁.committing t.hash b.accepted) ht record.hash
      show Submits w relayer account b ((handOver start.tools.gateway ⟨t.raw, t.hash⟩).perform
        (w₁.committing t.hash b.accepted))
      generalize (handOver start.tools.gateway ⟨t.raw, t.hash⟩).perform
        (w₁.committing t.hash b.accepted) = res at hh
      cases hh with
      | refused u found why => exact .refused t u _ ⟨hs, k, key, record⟩ found why hl
      | stalled u found why =>
        refine .stalled t u _ ⟨hs, k, key, record⟩ found why (hl.trans (.withChain ?_))
        exact SimulatedChain.reaches_stall w₁.chain t.hash
      | included u found =>
        refine .included t u _ ⟨hs, k, key, record⟩ found (hl.trans (.withChain ?_))
        exact SimulatedChain.reaches_settle (SimulatedChain.record?_eq_some found).1

end PointExchange
