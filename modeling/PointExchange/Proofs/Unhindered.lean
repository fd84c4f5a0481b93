import PointExchange.Proofs.Healthy

/-!
# Batches after refused permits

A permit that the node refuses gives its nonce back. The batch is signed after the permits have come
to their ends, with the count that the relayer has by then; so there is no gap ahead of it, and the
run returns (`refusals_leave_no_gap`).
-/

namespace PointExchange

/-! ## Signing the batch -/

section Sending

variable {start : SimulatedChain} {turns : Nat → List Turn} {w w' : Bench SimulatedChain}
  {b : Batch} {stop : StopReason} {i : UInt64} {k : Signer}

/-- **A batch with an estimate is signed with the relayer's next nonce, and does not wait.** -/
theorem Submits.signs {res : Except Interruption BatchOutcome}
    (h : Submits w i k.address b (res, w')) (key : keyAt .relayer w.chain.relayers i = .ok k)
    (estimated : ∀ e, (w.chain.estimate SimulatedChain.pointManager
      (encodeMulticall b.calls)).1 ≠ .error e) (tell : w'.chain.HashesTell) :
    ∃ o t, res = .ok o ∧ w'.chain.signed = w.chain.signed ++ [t] ∧
      t.Of k.address SimulatedChain.pointManager (encodeMulticall b.calls)
        (w.chain.txCount k.address) := by
  cases h with
  | notSigned w' why env =>
    rcases why with ⟨e, he⟩ | hk
    · exact absurd he (estimated e)
    · exact absurd key (hk k)
  | ledgerFailed t w' transaction => exact ⟨_, t, rfl, transaction.signed, transaction.of_key key⟩
  | refused t u w' transaction => exact ⟨_, t, rfl, transaction.signed, transaction.of_key key⟩
  | stalled t u w' transaction found why env =>
    exact absurd (why.symm.trans (transaction.not_stalls key tell found env)) (by decide)
  | included t u w' transaction => exact ⟨_, t, rfl, transaction.signed, transaction.of_key key⟩

/-- What is signed for the permits stays signed. -/
theorem signed_sendPermits_prefix :
    ((Runner.sendPermits start.tools turns i k.address b).perform w).2.chain.signed <+:
      ((Runner.sendBy start.tools turns i k.address b stop).perform w).2.chain.signed := by
  rcases h : (Runner.sendPermits start.tools turns i k.address b).perform w with ⟨e | count, w₁⟩
  · exact ⟨[], by rw [List.append_nil, Runner.sendBy, Call.perform_bind_error h]⟩
  · rcases sendBy_cases start turns b stop h with
      ⟨w₂, -, hsub, hs⟩ | ⟨o, w₂, x, res, calls, -, hs, -⟩
    · rw [hs]
      exact hsub.keeps.signed
    · rw [hs]
      exact calls.keeps.signed

/-- What sending a batch comes to that no refused permit holds up: in the bench `w₁` the permits
have come to their ends, and the batch, if it has calls, is signed next. -/
structure Unhindered (start : SimulatedChain) (turns : Nat → List Turn) (w : Bench SimulatedChain)
    (b : Batch) (report : RunReport) (last : SimulatedChain) (i : UInt64) (k : Signer)
    (ts : List SignedRecord) (w₁ : Bench SimulatedChain) : Prop where
  relayer : RelayerTurn start w i k
  sent : (Runner.sendPermits start.tools turns i k.address b).perform w =
    (.ok ⟨report.permitsSent, report.permitsFailed⟩, w₁)
  permits : PermitsAnswered w k b ts ⟨report.permitsSent, report.permitsFailed⟩ w₁
  batch : b.calls ≠ [] → ∃ t, last.signed = w₁.chain.signed ++ [t] ∧
    t.Of k.address SimulatedChain.pointManager (encodeMulticall b.calls)
      (w.chain.txCount k.address + UInt64.ofNat report.permitsSent) ∧
    w₁.chain.stalls t = false

/-- **Sending a batch returns, whatever permits are refused.** -/
theorem send_unhindered (inOrder : Turn.InOrder turns) (keys : w.chain.relayers = start.relayers)
    (relayers : start.relayers ≠ []) (indices : w.indices.unavailable = false)
    (stalls : w.chain.stallsNonceGaps = true) (estimates : w.chain.estimateUnavailable = false)
    (room : ∀ i k, RelayerTurn start w i k →
      (w.chain.txCount k.address).toNat + b.permits.length < 2 ^ 64)
    (carriable : Carriable b.calls) (accepts : ∀ c ∈ b.calls, w.chain.rejects c = false)
    (tell : ((Runner.send start.tools turns b stop).perform w).2.chain.HashesTell) :
    ∃ report w', (Runner.send start.tools turns b stop).perform w = (.ok report, w') ∧
      ∃ i k ts w₁, Unhindered start turns w b report w'.chain i k ts w₁ := by
  rcases send_cases start turns w b stop with ⟨e, none, -⟩ | ⟨i, k, relayer, hsend⟩
  · obtain ⟨i, k, relayer⟩ := exists_relayerTurn indices relayers
    exact absurd relayer (none i k)
  have key : keyAt .relayer w.chain.relayers i = .ok k := by
    rw [keys]
    exact relayer.key
  rw [hsend] at tell ⊢
  obtain ⟨ts, count, w₁, sent, permits, hkeeps⟩ := sendPermits_answers start inOrder key estimates
    (.inr ⟨stalls, room i k relayer⟩) (tell.of_prefix signed_sendPermits_prefix)
  have key₁ : keyAt .relayer w₁.chain.relayers i = .ok k := by
    rw [show w₁.chain.relayers = w.chain.relayers from
      (congrArg SimulatedChain.relayers hkeeps.bare :), key]
  have estimated : ∀ e, (w₁.chain.estimate SimulatedChain.pointManager
      (encodeMulticall b.calls)).1 ≠ .error e := by
    have hr : w₁.chain.reverting = w.chain.reverting :=
      (congrArg SimulatedChain.reverting hkeeps.bare :)
    refine SimulatedChain.estimate_ne_error ?_ carriable fun x hx => ?_
    · exact (congrArg SimulatedChain.estimateUnavailable hkeeps.bare :).trans estimates
    · rw [SimulatedChain.rejects, hr]
      exact accepts x hx
  rcases sendBy_cases start turns b stop sent with
    ⟨w₂, -, hsub, hs⟩ | ⟨o, w₂, x, res, calls, hx, hs, hres⟩
  · -- the batch does not wait, as there is no gap ahead of it
    rw [hs] at tell
    obtain ⟨o, t, ho, -⟩ := hsub.signs key₁ estimated tell
    exact absurd ho (by simp)
  rw [hs] at tell ⊢
  obtain rfl : res = .ok _ := by
    rcases hres with hres | ⟨e, -, hu⟩
    · exact hres
    · have hi := (hkeeps.trans calls.keeps).unavailable.trans indices
      exact absurd (hu.symm.trans hi) (by decide)
  refine ⟨_, _, rfl, i, k, ts, w₁, relayer, sent, permits, fun hcalls => ?_⟩
  cases calls with
  | none hnone => exact absurd hnone hcalls
  | some o w₂ hcalls hsub =>
    obtain ⟨o, t, -, hsigned, ht⟩ := hsub.signs key₁ estimated tell
    refine ⟨t, hsigned, permits.txCount ▸ ht, SimulatedChain.not_stalls ?_⟩
    rw [ht.nonce, ht.relayer]

end Sending

/-! ## Runs -/

/-- **A refused permit neither keeps a run waiting nor leaves a gap ahead of the batch.** The run
returns; it has sent the permits before the first refused one, and its batch is signed with the
count that the relayer has by then. -/
theorem refusals_leave_no_gap {start : SimulatedChain} (how : Schedule)
    (inOrder : Turn.InOrder how.turns) {s s' : Site (Bench SimulatedChain)}
    {d : Drained (Bench SimulatedChain)} {res : Except Interruption RunOutcome}
    (keys : s.env.chain.relayers = start.relayers) (relayers : start.relayers ≠ [])
    (drained : s.drained start how = some d)
    (stalls : d.site.env.chain.stallsNonceGaps = true)
    (estimates : d.site.env.chain.estimateUnavailable = false)
    (indices : d.site.env.indices.unavailable = false)
    (room : ∀ i k, RelayerTurn start d.site.env i k →
      (d.site.env.chain.txCount k.address).toNat + d.batch.permits.length + 1 < 2 ^ 64)
    (fits : PayloadsFit s.queue.payloads) (run : s.run start how = (res, s'))
    (tell : s'.env.chain.HashesTell) :
    (d.batch.isEmpty = true ∧ res = .ok (.idle d.stop)) ∨
      ∃ report i k ts w₁, res = .ok (.completed report) ∧
        Unhindered start how.turns d.site.env d.batch report s'.env.chain i k ts w₁ := by
  obtain ⟨l, l', log, drains, hrun⟩ := Site.run_of_drained start how drained
  rw [hrun] at run
  by_cases he : d.batch.isEmpty = true
  · rw [if_pos he] at run
    exact .inl ⟨he, (Prod.mk.inj run).1.symm⟩
  rw [if_neg he] at run
  obtain ⟨hres, rfl⟩ := Prod.mk.inj run
  have hkeys : d.site.env.chain.relayers = start.relayers :=
    (congrArg SimulatedChain.relayers drains.quiet :).trans keys
  have accepts : ∀ c ∈ d.batch.calls, d.site.env.chain.rejects c = false := by
    have hcount := fits.count
    intro c hc
    rw [SimulatedChain.rejects_congr drains.quiet]
    exact drains.accepts (.empty (by omega)) fits c (drains.batch_calls ▸ hc)
  obtain ⟨report, w', hsend, i, k, ts, w₁, unhindered⟩ := send_unhindered inOrder hkeys relayers
    indices stalls estimates (fun i k turn => Nat.lt_of_succ_lt (room i k turn))
    (drains.carriable fits) accepts tell
  refine .inr ⟨report, i, k, ts, w₁, ?_, ?_⟩
  · rw [← hres, hsend]
    rfl
  · show Unhindered start how.turns d.site.env d.batch report
      (((Runner.send start.tools how.turns d.batch d.stop).perform d.site.env).2.chain) i k ts w₁
    rw [hsend]
    exact unhindered

/-! ## A site with one refused permit -/

namespace Site

/-- A site with three withdrawals that have a permit each. The node refuses the second permit, and
it keeps all broadcasts waiting that have a gap ahead of them. -/
def oneRefusal : Site (Bench SimulatedChain) where
  queue :=
    { payloads := [permitText '1' '1', permitText '2' '2', permitText '3' '3'].map payloadOf }
  env :=
    { chain :=
        { managers := [.rehearsal 7]
          relayers := [.rehearsal 8]
          rejected := [(SimulatedChain.pointToken, 1)]
          stallsNonceGaps := true }
      ledger := [⟨1⟩, ⟨2⟩, ⟨3⟩].foldl (fun l id => l.insertPending id .tokenToPoint 10) {} }

set_option maxRecDepth 100000 in
theorem oneRefusal_fits : PayloadsFit oneRefusal.queue.payloads :=
  .of_texts (by decide) (by decide +kernel)

set_option maxRecDepth 100000 in
/-- A run there sends the first permit and the calls of all withdrawals. -/
theorem oneRefusal_run : ∃ report s',
    oneRefusal.run oneRefusal.env.chain {} = (.ok (.completed report), s') ∧
      report.permitsSent = 1 ∧ report.permitsFailed = 2 ∧ report.calls = 3 ∧
      s'.env.chain.HashesTell := by
  have h :
      let r := oneRefusal.run oneRefusal.env.chain {}
      (reportOf r.1).map (fun x => (x.permitsSent, x.permitsFailed, x.calls)) = some (1, 2, 3) ∧
        (r.2.env.chain.signed.map SignedRecord.hash).Nodup := by
    decide +kernel
  rcases hrun : oneRefusal.run oneRefusal.env.chain {} with ⟨res, s'⟩
  rw [hrun] at h
  obtain ⟨counts, distinct⟩ := h
  obtain ⟨report, hreport, hcounts⟩ := Option.map_eq_some_iff.mp counts
  simp only [Prod.mk.injEq] at hcounts
  obtain rfl := eq_completed_of_reportOf hreport
  exact ⟨report, s', rfl, hcounts.1, hcounts.2.1, hcounts.2.2, .of_nodup distinct⟩

end Site

/-- The permit behind the refused one is given up, and the batch has the nonce of the refused one.
Its transaction does not wait. -/
theorem refusals_leave_no_gap_oneRefusal :
    ∃ d s' report i k ts w₁ t,
      Site.oneRefusal.drained Site.oneRefusal.env.chain {} = some d ∧
      Site.oneRefusal.run Site.oneRefusal.env.chain {} = (.ok (.completed report), s') ∧
      Unhindered Site.oneRefusal.env.chain Turn.rounds d.site.env d.batch report s'.env.chain i k ts
        w₁ ∧
      report.permitsSent = 1 ∧ report.permitsFailed = 2 ∧
      s'.env.chain.signed = w₁.chain.signed ++ [t] ∧
      t.request.target = SimulatedChain.pointManager ∧ t.request.nonce = 1 ∧
      w₁.chain.stalls t = false := by
  obtain ⟨report, s', hrun, hsent, hfailed, hcalls, tell⟩ := Site.oneRefusal_run
  have hr := runs Site.oneRefusal.env.chain {} Site.oneRefusal rfl
  rw [hrun] at hr
  obtain ⟨l, l', log, d, w, drained, drains, sends, -⟩ := hr.sends
  obtain ⟨hpermits, hlength⟩ := sends.counted
  rw [hsent, hfailed] at hpermits
  rw [hcalls] at hlength
  have quiet : d.site.env.chain.quiet = Site.oneRefusal.env.chain.quiet := drains.quiet
  have hcount : ∀ a, d.site.env.chain.txCount a = 0 :=
    congrFun (congrArg SimulatedChain.txCount quiet :)
  -- no transaction of a relayer is on the chain yet
  have room : ∀ i k, RelayerTurn Site.oneRefusal.env.chain d.site.env i k →
      (d.site.env.chain.txCount k.address).toNat + d.batch.permits.length + 1 < 2 ^ 64 := by
    intro i k _
    rw [hcount, ← hpermits]
    decide
  rcases refusals_leave_no_gap {} Turn.inOrder_rounds rfl (by simp [Site.oneRefusal]) drained
    (congrArg SimulatedChain.stallsNonceGaps quiet :)
    (congrArg SimulatedChain.estimateUnavailable quiet :) drains.keeps.unavailable room
    Site.oneRefusal_fits hrun tell with ⟨-, h⟩ | ⟨report', i, k, ts, w₁, h, unhindered⟩
  · simp at h
  · obtain rfl : report = report' := by simpa using h
    have hne : d.batch.calls ≠ [] := List.ne_nil_of_length_pos (by omega)
    obtain ⟨t, hsigned, ht, hstalls⟩ := unhindered.batch hne
    refine ⟨d, s', report, i, k, ts, w₁, t, drained, hrun, unhindered, hsent, hfailed, hsigned,
      ht.target, ?_, hstalls⟩
    rw [ht.nonce, hcount, hsent]
    rfl

end PointExchange
