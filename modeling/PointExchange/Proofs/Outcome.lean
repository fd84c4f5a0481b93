import PointExchange.Proofs.Healthy

/-!
# What a report says has happened

A run that is completed reports what became of its batch. `RunReport.Tells` says for each outcome
what has happened since the drain, to the ledger, to the chain and to its counts, and what has not.
Nothing is on the chain that the ledger has not been told of before.
-/

namespace PointExchange

/-- Since the first chain the second one has included the transactions of these hashes, and they are
all permits. -/
structure SimulatedChain.AddsPermits (c c' : SimulatedChain) (hashes : List Hash) : Prop where
  broadcasts : c'.broadcasts = c.broadcasts ++ hashes
  targets : ∀ h ∈ hashes, ∃ t, c'.record? h = some t ∧ t.request.target = pointToken

/-- The last hash stands for the batch: it is included after permits, the relayer who signed it has
sent one transaction more for each of these, and the manager's nonce has gone up by the number of
deposits. -/
structure SimulatedChain.AddsBatch (c c' : SimulatedChain) (b : Batch) (hash : Hash) : Prop where
  included : ∃ hashes t, c'.broadcasts = c.broadcasts ++ hashes ++ [hash] ∧
    (∀ h ∈ hashes, ∃ t, c'.record? h = some t ∧ t.request.target = pointToken) ∧
    c'.record? hash = some t ∧ t.request.target = pointManager ∧
    callsOf t.request.input = b.calls ∧
    ∀ a, c'.txCount a =
      if a = t.relayer then c.txCount a + UInt64.ofNat hashes.length + 1 else c.txCount a
  nonces : ∀ a, c'.managerNonce a =
    if b.manager? c = some a then
      c.managerNonce a + BitVec.ofNat 256 ((b.accepted.map Prod.snd).count .pointToToken)
    else c.managerNonce a

/-- What the outcome of a batch says of the time since the drain. -/
def Drained.Tells (d : Drained (Bench SimulatedChain)) (s : Site (Bench SimulatedChain)) :
    Option BatchOutcome → Prop
  | some (.broadcast hash) =>
    d.site.env.ledger.Links s.env.ledger hash d.batch.accepted ∧
      d.site.env.chain.AddsBatch s.env.chain d.batch hash
  | some (.broadcastFailed hash) =>
    d.site.env.ledger.Links s.env.ledger hash d.batch.accepted ∧
      s.env.chain.managerNonce = d.site.env.chain.managerNonce ∧
      ∃ hashes, d.site.env.chain.AddsPermits s.env.chain hashes ∧ hash ∉ hashes
  | _ =>
    s.env.ledger = d.site.env.ledger ∧
      s.env.chain.managerNonce = d.site.env.chain.managerNonce ∧
      ∃ hashes, d.site.env.chain.AddsPermits s.env.chain hashes

/-- What a report says is what has happened since the drain. -/
structure RunReport.Tells (report : RunReport) (d : Drained (Bench SimulatedChain))
    (s : Site (Bench SimulatedChain)) : Prop where
  queue : s.queue = d.site.queue
  stop : report.stop = d.stop
  calls : report.calls = d.batch.accepted.length
  permits : report.permitsSent + report.permitsFailed = d.batch.permits.length
  none_iff : report.batch = none ↔ d.batch.accepted = []
  batch : d.Tells s report.batch

namespace PermitsSent

variable {w w' : Bench SimulatedChain} {b : Batch} {k : Signer} {ts : List SignedRecord}
  {c : SimulatedChain}

/-- As long as nothing but permits is included, permits are all that is added. -/
theorem addsPermits (h : PermitsSent w b k w' ts) (rest : w'.chain.Reaches c [])
    (hc : c.HashesTell) :
    c.managerNonce = w.chain.managerNonce ∧
      w.chain.AddsPermits c (ts.map SignedRecord.hash) := by
  have hr := h.env.chain.trans rest
  rw [List.append_nil] at hr
  refine ⟨?_, hr.broadcasts, ?_⟩
  · funext a
    rw [hr.managerNonce, h.managersIn hc rest.signed]
    simp
  · intro x hx
    obtain ⟨t, ht, rfl⟩ := List.mem_map.mp hx
    obtain ⟨u, hu, hg⟩ := (h.permits t ht).record? (hc.of_prefix rest.signed)
      (h.env.chain.included t ht)
    exact ⟨u, SimulatedChain.record?_mono rest.signed hu, hg⟩

end PermitsSent

/-- What a drain knows of its batch. -/
structure Batch.Known (b : Batch) (c : SimulatedChain) : Prop where
  carriable : Carriable b.calls
  length : b.calls.length = b.accepted.length
  managers : ∀ call ∈ depositsOf b.calls, b.manager? c = some call.manager
  deposits : (depositsOf b.calls).length = (b.accepted.map Prod.snd).count .pointToToken

theorem Drains.known {start : SimulatedChain} {settings : BatchConfig} {n : Nat}
    {q : MessageQueue} {w : Bench SimulatedChain} {log : List Fate}
    {r : Drained (Bench SimulatedChain)} (h : Drains start settings n q ⟨{}, w⟩ log r)
    (hq : PayloadsFit q.payloads) (hk : w.chain.managers = start.managers) :
    r.batch.Known r.site.env.chain := by
  have hm : r.site.env.chain.managers = start.managers :=
    (congrArg SimulatedChain.managers h.quiet :).trans hk
  have hman : r.batch.manager? r.site.env.chain = r.batch.manager? start := by
    rw [Batch.manager?, Batch.manager?]
    congr 1
    funext i
    show ((keyAt .manager r.site.env.chain.managers i).map Signer.address).toOption = _
    rw [hm]
    rfl
  refine ⟨h.carriable hq, h.length_calls, ?_, ?_⟩
  · rw [h.batch_calls, hman]
    exact (h.signed hk rfl).1
  · rw [h.batch_calls, h.batch_accepted, h.length_deposits, List.map_map]
    rfl

/-- The batch that is included after the permits is all else that is added. -/
theorem PermitsSent.addsBatch {w w₁ : Bench SimulatedChain} {b : Batch} {k : Signer}
    {ts : List SignedRecord} {c : SimulatedChain} {u : SignedRecord} {hash : Hash}
    (h : PermitsSent w b k w₁ ts) (rest : w₁.chain.Reaches c [u]) (hc : c.HashesTell)
    (known : b.Known w.chain) (hu : u.hash = hash) (found : c.record? hash = some u)
    (relayer : u.relayer = k.address) (target : u.request.target = SimulatedChain.pointManager)
    (input : u.request.input = encodeMulticall b.calls) : w.chain.AddsBatch c b hash := by
  have hr := h.env.chain.trans rest
  refine ⟨⟨ts.map SignedRecord.hash, u, ?_, ?_, found, target, ?_, ?_⟩, ?_⟩
  · rw [hr.broadcasts, List.map_append, List.map_singleton, hu, List.append_assoc]
  · intro x hx
    obtain ⟨t, ht, rfl⟩ := List.mem_map.mp hx
    obtain ⟨v, hv, hg⟩ := (h.permits t ht).record? (hc.of_prefix rest.signed)
      (h.env.chain.included t ht)
    exact ⟨v, SimulatedChain.record?_mono rest.signed hv, hg⟩
  · rw [input]
    exact SimulatedChain.callsOf_encodeMulticall known.carriable
  · intro a
    rw [hr.txCount, List.map_append, h.relayers hc rest.signed, List.map_singleton, relayer,
      List.count_append, List.length_map]
    by_cases ha : a = k.address
    · subst ha
      rw [if_pos rfl, List.count_replicate_self, List.count_singleton_self, UInt64.ofNat_add,
        ← UInt64.add_assoc]
      rfl
    · rw [if_neg ha, List.count_replicate, List.count_singleton]
      simp [Ne.symm ha]
  · intro a
    have hm := h.managersIn hc rest.signed
    rw [SimulatedChain.managersIn] at hm
    rw [hr.managerNonce, SimulatedChain.managersIn, List.flatMap_append, hm, List.nil_append,
      List.flatMap_singleton, input, SimulatedChain.depositManagers_encodeMulticall known.carriable,
      count_managers, depositsBy_eq known.managers, ← known.deposits]
    by_cases ha : b.manager? w.chain = some a
    · rw [if_pos ha, if_pos ha]
    · rw [if_neg ha, if_neg ha]
      simp

section Tells

variable {d : Drained (Bench SimulatedChain)} {s : Site (Bench SimulatedChain)}

/-- **Whatever phase a batch is stopped in, its outcome tells.** -/
theorem CallsSent.tells {w₁ w₂ : Bench SimulatedChain} {i : UInt64} {k : Signer}
    {ts : List SignedRecord} {o : Option BatchOutcome} (h : CallsSent w₁ i k d.batch o w₂)
    (permits : PermitsSent d.site.env d.batch k w₁ ts)
    (key : keyAt .relayer w₁.chain.relayers i = .ok k) (known : d.batch.Known d.site.env.chain)
    (hc : s.env.chain = w₂.chain) (hl : s.env.ledger = w₂.ledger)
    (ht : s.env.chain.HashesTell) : d.Tells s o := by
  rw [hc] at ht
  cases h with
  | none =>
    obtain ⟨hn, ha⟩ := permits.addsPermits (.refl _) ht
    exact ⟨hl.trans permits.env.ledger, by rw [hc, hn], _, by rw [hc]; exact ha⟩
  | some o w₂ calls submits =>
    cases submits with
    | notSigned w₂ why still =>
      have env := Bench.Follows.of_still still
      obtain ⟨hn, ha⟩ := permits.addsPermits env.chain ht
      exact ⟨hl.trans (env.ledger.trans permits.env.ledger), by rw [hc, hn], _,
        by rw [hc]; exact ha⟩
    | ledgerFailed t w₂ transaction why env =>
      obtain ⟨hn, ha⟩ := permits.addsPermits env.chain ht
      exact ⟨hl.trans (env.ledger.trans permits.env.ledger), by rw [hc, hn], _,
        by rw [hc]; exact ha⟩
    | refused t u w₂ transaction found why env =>
      obtain ⟨hn, ha⟩ := permits.addsPermits env.chain ht
      refine ⟨?_, by rw [hc, hn], _, by rw [hc]; exact ha, ?_⟩
      · rw [hl, env.ledger, ← permits.env.ledger]
        exact w₁.ledger.links_commitAll t.hash d.batch.accepted
      · -- the hash stands for a transaction to the point manager
        intro hm
        obtain ⟨u', hu', hg⟩ := ha.targets _ hm
        obtain ⟨-, -, -, hg', -, -⟩ := transaction.found ht found
        rw [Option.some.inj (found.symm.trans hu'), hg] at hg'
        exact absurd hg' (by decide)
    | included t u w₂ transaction found env =>
      refine ⟨?_, ?_⟩
      · rw [hl, env.ledger, ← permits.env.ledger]
        exact w₁.ledger.links_commitAll t.hash d.batch.accepted
      · obtain ⟨k', hk', hr, hg, hi, -⟩ := transaction.found ht found
        obtain rfl : k' = k := Except.ok.inj (hk'.symm.trans key)
        have hu : u.hash = t.hash := (SimulatedChain.record?_eq_some found).2
        rw [hc]
        exact permits.addsBatch env.chain ht known hu found hr hg hi

end Tells

/-- **The report of a run tells what has happened since its drain.** -/
theorem report_tells (how : Schedule) {s s' : Site (Bench SimulatedChain)} {report : RunReport}
    (fits : PayloadsFit s.queue.payloads)
    (run : s.run s.env.chain how = (.ok (.completed report), s')) (tell : s'.env.chain.HashesTell) :
    ∃ d, s.drained s.env.chain how = some d ∧ report.Tells d s' := by
  have hr := runs s.env.chain how s rfl
  rw [run] at hr
  obtain ⟨l, l', log, d, w, drained, drains, sends, rfl⟩ := hr.sends
  have known : d.batch.Known d.site.env.chain := drains.known fits rfl
  have hrel : d.site.env.chain.relayers = s.env.chain.relayers :=
    (congrArg SimulatedChain.relayers drains.quiet :)
  refine ⟨d, drained, ?_⟩
  cases sends with
  | sent i k ts w₁ w₂ outcome count indices relayer permits counted calls turned =>
    have key : keyAt .relayer w₁.chain.relayers i = .ok k := by
      rw [permits.env.relayers, hrel]
      exact relayer.key
    refine ⟨rfl, rfl, known.length, counted, ?_, calls.tells permits key known rfl rfl tell⟩
    rw [← List.length_eq_zero_iff, ← known.length, List.length_eq_zero_iff]
    cases calls with
    | none calls => exact ⟨fun _ => calls, fun _ => rfl⟩
    | some o w₂ calls => exact ⟨fun h => absurd h (by simp), fun h => absurd h calls⟩

theorem report_tells_oneDeposit :
    ∃ report s' d, Site.oneDeposit.run Site.oneDeposit.env.chain {} =
        (.ok (.completed report), s') ∧
      Site.oneDeposit.drained Site.oneDeposit.env.chain {} = some d ∧ report.Tells d s' := by
  obtain ⟨report, s', -, -, run, -⟩ := Site.oneDeposit_completed
  have tell := Site.oneDeposit_tell {}
  rw [run] at tell
  obtain ⟨d, hd, tells⟩ := report_tells {} Site.oneDeposit_fits run tell
  exact ⟨report, s', d, run, hd, tells⟩

end PointExchange
