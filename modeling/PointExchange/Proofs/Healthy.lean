import PointExchange.Proofs.Inclusion
import PointExchange.Proofs.Refusals
import PointExchange.Proofs.Viability

/-!
# Runs while all is well

While all collaborators are well a run comes to its end (`Runs.healthy`): its drain gives each
message that it takes the right fate, and the batch that comes of that is included. A viable message
at the head of the queue is therefore broadcast by the next run (`Runs.completed`).

Two healthy sites stand at the end, one with one deposit and one with assorted messages, whose runs
are evaluated (`Site.assorted_runs`). Other modules take their cases from there.
-/

namespace PointExchange

/-! ## Sending -/

/-- The collaborators of a run are well. -/
structure Bench.Healthy (start : SimulatedChain) (w : Bench SimulatedChain) : Prop
    extends w.Well start where
  relayers : w.chain.relayers = start.relayers
  some_relayer : start.relayers ≠ []
  opened : w.chain.Open
  commits : w.ledger.failsCommit = false

section Sending

variable {start : SimulatedChain} {w w' : Bench SimulatedChain} {b : Batch} {i : UInt64}
  {k : Signer}

theorem Bench.Healthy.of_keeps (h : w.Healthy start) (hk : w.Keeps w') : w'.Healthy start where
  managers := (congrArg SimulatedChain.managers hk.bare :).trans h.managers
  some_manager := h.some_manager
  indices := hk.unavailable.trans h.indices
  estimates := (congrArg SimulatedChain.estimateUnavailable hk.bare :).trans h.estimates
  relayers := (congrArg SimulatedChain.relayers hk.bare :).trans h.relayers
  some_relayer := h.some_relayer
  opened := h.opened.of_bare hk.bare
  commits := hk.failsCommit.trans h.commits

/-- There is a relayer whose turn it is, if there is any relayer. -/
theorem exists_relayerTurn (indices : w.indices.unavailable = false)
    (relayers : start.relayers ≠ []) : ∃ i k, RelayerTurn start w i k := by
  have hi : w.indices.get .relayer = .ok w.indices.relayer := by
    rw [MemoryIndices.get, indices]
    rfl
  exact ⟨_, _, ⟨w.indices.relayer, hi, rfl⟩,
    keyAt_ok (toNat_mod_poolModulus_lt (List.length_pos_iff.mpr relayers) _)⟩

/-- A batch of calls that do not fail has an estimate. -/
theorem SimulatedChain.estimate_ne_error {c : SimulatedChain} {calls : List Bytes}
    (hu : c.estimateUnavailable = false) (hc : Carriable calls)
    (h : ∀ x ∈ calls, c.rejects x = false) (e : EstimateError) :
    (c.estimate pointManager (encodeMulticall calls)).1 ≠ .error e := by
  rw [estimate, if_neg (by simp [hu]), if_neg (by decide), callsOf_encodeMulticall hc]
  have hg := c.gasOfAll_append h [] baseGas
  rw [List.append_nil] at hg
  show c.gasOfAll calls baseGas ≠ _
  rw [hg]
  simp [gasOfAll]

/-- The transaction of a batch is one of the relayer whose turn it is. -/
theorem BatchTransaction.of_key {c : SimulatedChain} {t : SignedRecord}
    (h : BatchTransaction w i k.address b c t) (key : keyAt .relayer w.chain.relayers i = .ok k) :
    t.Of k.address SimulatedChain.pointManager (encodeMulticall b.calls)
      (w.chain.txCount k.address) := by
  obtain ⟨k', hk', record⟩ := h.record
  obtain rfl : k' = k := Except.ok.inj (hk'.symm.trans key)
  exact record

/-- The transaction of a batch has the relayer's next nonce, so it does not wait. -/
theorem BatchTransaction.not_stalls {t u : SignedRecord}
    (h : BatchTransaction w i k.address b w'.chain t)
    (key : keyAt .relayer w.chain.relayers i = .ok k) (tell : w'.chain.HashesTell)
    (found : w'.chain.record? t.hash = some u)
    (env : (w.committing t.hash b.accepted).Follows w' []) : w'.chain.stalls u = false := by
  obtain ⟨hr, -, -, hn⟩ := SimulatedChain.of_raw_eq (tell.record?_raw h.mem found) (h.of_key key)
  have hc : w'.chain.txCount k.address = w.chain.txCount k.address := by
    rw [env.chain.txCount]
    simp [Bench.committing]
  exact SimulatedChain.not_stalls (by rw [hn, hr, hc])

/-- **A batch is included while all is well.** -/
theorem Submits.healthy {res : Except Interruption BatchOutcome}
    (h : Submits w i k.address b (res, w')) (healthy : w.Healthy start)
    (key : keyAt .relayer w.chain.relayers i = .ok k) (carriable : Carriable b.calls)
    (accepts : ∀ x ∈ b.calls, w.chain.rejects x = false) (tell : w'.chain.HashesTell) :
    ∃ t u, res = .ok (.broadcast t.hash) ∧ BatchTransaction w i k.address b w'.chain t ∧
      w'.chain.record? t.hash = some u ∧ (w.committing t.hash b.accepted).Follows w' [u] := by
  cases h with
  | notSigned w' why env =>
    rcases why with ⟨e, he⟩ | hk
    · exact absurd he (SimulatedChain.estimate_ne_error healthy.estimates carriable accepts e)
    · exact absurd key (hk k)
  | ledgerFailed t w' transaction why env =>
    exact absurd (why.symm.trans healthy.commits) (by decide)
  | refused t u w' transaction found why env =>
    exact absurd (why.symm.trans ((healthy.opened.of_bare env.chain.bare).not_refuses u))
      (by decide)
  | stalled t u w' transaction found why env =>
    exact absurd (why.symm.trans (transaction.not_stalls key tell found env)) (by decide)
  | included t u w' transaction found env => exact ⟨t, u, rfl, transaction, found, env⟩

/-- **Sending a batch includes all its calls and links all its records while all is well.** -/
theorem Sends.healthy {stop : StopReason} {res : Except Interruption RunReport}
    (h : Sends start Turn.rounds w b stop (res, w')) (healthy : w.Healthy start)
    (carriable : Carriable b.calls) (accepts : ∀ x ∈ b.calls, w.chain.rejects x = false)
    (tell : w'.chain.HashesTell) :
    ∃ report ts, res = .ok report ∧ Carried w b w'.chain ts b.calls ∧
      ((b.calls = [] ∧ report.batch = none ∧ w'.ledger = w.ledger) ∨
        ∃ hash, report.batch = some (.broadcast hash) ∧
          w'.ledger = (w.ledger.commitAll hash b.accepted ⟨[], []⟩).1) := by
  have hkey : ∀ {i k}, RelayerTurn start w i k → keyAt .relayer w.chain.relayers i = .ok k := by
    intro i k turn
    rw [healthy.relayers]
    exact turn.key
  cases h with
  | noRelayer e why =>
    obtain ⟨i, k, turn⟩ := exists_relayerTurn healthy.indices healthy.some_relayer
    exact absurd turn (why i k)
  | permitsWait i k ts w' relayer permits why =>
    obtain ⟨-, count, w₁, answers, -⟩ := sendPermits_answers start Turn.inOrder_rounds
      (hkey relayer) healthy.estimates (.inl healthy.opened) (by rw [why]; exact tell)
    rw [why] at answers
    simp at answers
  | batchWaits i k ts w₁ w' relayer permits submits =>
    have hb := permits.env.keeps
    have hr : w₁.chain.reverting = w.chain.reverting :=
      (congrArg SimulatedChain.reverting hb.bare :)
    obtain ⟨t, u, hres, -⟩ := submits.healthy (healthy.of_keeps hb)
      (by rw [permits.env.relayers, hkey relayer]) carriable
      (fun x hx => by rw [SimulatedChain.rejects, hr]; exact accepts x hx) tell
    simp at hres
  | unturned i k ts w₁ w₂ outcome e indices relayer permits calls why turned =>
    have hu := ((healthy.of_keeps permits.env.keeps).of_keeps calls.keeps).indices
    exact absurd (why.symm.trans hu) (by decide)
  | sent i k ts w₁ w₂ outcome count indices relayer permits counted calls turned =>
    have hb := permits.env.keeps
    have hr : w₁.chain.reverting = w.chain.reverting :=
      (congrArg SimulatedChain.reverting hb.bare :)
    cases calls with
    | none calls =>
      refine ⟨_, ts, rfl, ?_, .inl ⟨calls, rfl, permits.env.ledger⟩⟩
      rw [calls]
      exact .permits k w₁ ts permits (.refl _)
    | some o w₂ calls submits =>
      obtain ⟨t, u, hres, transaction, found, env⟩ := submits.healthy (healthy.of_keeps hb)
        (by rw [permits.env.relayers, hkey relayer]) carriable
        (fun x hx => by rw [SimulatedChain.rejects, hr]; exact accepts x hx) tell
      obtain rfl := Except.ok.inj hres
      refine ⟨_, ts ++ [u], rfl, .batch k i w₁ ts t u permits transaction found env.chain,
        .inr ⟨t.hash, rfl, ?_⟩⟩
      rw [← permits.env.ledger]
      exact env.ledger

end Sending

/-! ## Runs -/

/-- All that a run needs is well, and the run lock is free. -/
structure Site.Healthy (start : SimulatedChain) (s : Site (Bench SimulatedChain)) : Prop where
  env : s.env.Healthy start
  queue : s.queue.unavailable = false
  readable : s.env.settings.poisoned = false
  limit : ∀ n ∈ s.env.settings.config.batch.maxMessagesPerRun, 1 ≤ n
  free : s.LockFree

theorem BatchConfig.limitReached_zero {settings : BatchConfig}
    (h : ∀ n ∈ settings.maxMessagesPerRun, 1 ≤ n) : settings.limitReached 0 = false := by
  rw [limitReached]
  cases hm : settings.maxMessagesPerRun with
  | none => rfl
  | some n =>
    have hn : 1 ≤ n.toNat := UInt64.le_iff_toNat_le.mp (h n (by rw [hm]; rfl))
    rw [Option.any_some, decide_eq_false_iff_not]
    omega

/-- A drain of a queue while all is well. -/
theorem Drains.well {start : SimulatedChain} {settings : BatchConfig} {w : Bench SimulatedChain}
    {q : MessageQueue} {log : List Fate} {d : Drained (Bench SimulatedChain)}
    (h : Drains start settings 0 q ⟨{}, w⟩ log d) (hq : q.unavailable = false)
    (well : w.Well start) (fits : PayloadsFit q.payloads) (count : q.payloads.length < 2 ^ 32) :
    (∀ f ∈ log, f.Right start.managers settings w.chain.reverting) ∧
      d.site.env.ledger = w.ledger.failAll (failedOf log) ∧
      ∀ c ∈ callsIn log, d.site.env.chain.rejects c = false := by
  obtain ⟨hright, hstop⟩ := h.settled hq well (.empty count) fits
  obtain ⟨back, hback, henv⟩ := h.env
  have hb : back = [] := by
    rw [List.eq_nil_iff_forall_not_mem]
    intro id hid
    obtain ⟨reason, hr⟩ := ((hback id).mp hid).stop
    exact hstop reason hr
  subst hb
  rw [List.append_nil] at henv
  refine ⟨hright, (congrArg Bench.ledger henv :), fun c hc => ?_⟩
  rw [SimulatedChain.rejects_congr h.quiet]
  exact h.accepts (.empty (by omega)) fits c hc

section Runs

variable {start : SimulatedChain} {how : Schedule} {s s' : Site (Bench SimulatedChain)}

theorem Bench.Healthy.withLock {w : Bench SimulatedChain} (h : w.Healthy start) (l : MemoryLock) :
    (w.withLock l).Healthy start :=
  { h with }

/-- A site stays healthy when its run lock is free at the end. -/
theorem Site.Healthy.of_keeps (h : s.Healthy start)
    (hk : s.env.Keeps (s'.env.withLock s.env.lock))
    (hq : s'.queue.unavailable = s.queue.unavailable)
    (hl : s'.env.lock.isHeld s.env.settings.config.scheduler.lockResource = false) :
    s'.Healthy start where
  env := (h.env.of_keeps hk).withLock s'.env.lock
  queue := hq.trans h.queue
  readable := (congrArg SharedConfig.poisoned hk.settings :).trans h.readable
  limit := by
    have hc : s'.env.settings.config = s.env.settings.config :=
      (congrArg SharedConfig.config hk.settings :)
    rw [hc]
    exact h.limit
  free := by
    have hc : s'.env.settings.config = s.env.settings.config :=
      (congrArg SharedConfig.config hk.settings :)
    rw [LockFree, hc]
    exact hl

/-- A run while all is well: its drain, what it has included by its end, and that the records of its
batch are linked. -/
structure RunsWell (start : SimulatedChain) (how : Schedule) (s s' : Site (Bench SimulatedChain))
    (outcome : RunOutcome) (l : MemoryLock) (log : List Fate)
    (d : Drained (Bench SimulatedChain)) (ts : List SignedRecord) : Prop where
  drained : s.drained start how = some d
  drains : Drains start s.env.settings.config.batch 0 s.queue ⟨{}, s.env.withLock l⟩ log d
  queue : s'.queue = d.site.queue
  freed : s'.env.lock.isHeld s.env.settings.config.scheduler.lockResource = false
  carried : Carried d.site.env d.batch s'.env.chain ts d.batch.calls
  ledger : (d.batch.calls = [] ∧ s'.env.ledger = d.site.env.ledger) ∨
    ∃ report hash, outcome = .completed report ∧ report.batch = some (.broadcast hash) ∧
      s'.env.ledger = (d.site.env.ledger.commitAll hash d.batch.accepted ⟨[], []⟩).1

/-- **While all is well a run comes to its end, and its batch is broadcast if it has one.** -/
theorem Runs.healthy {res : Except Interruption RunOutcome} (h : Runs start how s (res, s'))
    (healthy : s.Healthy start) (inTurn : how.turns = Turn.rounds)
    (fits : PayloadsFit s.queue.payloads) (count : s.queue.payloads.length < 2 ^ 32)
    (tell : s'.env.chain.HashesTell) :
    ∃ outcome l log d ts, res = .ok outcome ∧ RunsWell start how s s' outcome l log d ts := by
  cases h with
  | unreadable e why => exact absurd (why.symm.trans healthy.readable) (by decide)
  | skipped l drained held => exact absurd healthy.free held
  | idle config l l' log d settings drained drains empty freed =>
    obtain rfl := read_ok settings
    have hcalls : d.batch.calls = [] := by
      rw [Batch.isEmpty, Bool.and_eq_true] at empty
      exact List.isEmpty_iff.mp empty.1
    refine ⟨_, l, log, d, [], rfl, drained, drains, rfl, freed healthy.free, ?_, .inl ⟨hcalls, rfl⟩⟩
    rw [hcalls]
    exact .nothing (.refl _)
  | sent config l l' log d res w settings drained drains empty sends freed =>
    obtain rfl := read_ok settings
    have hwell := healthy.env.withLock l
    obtain ⟨-, -, haccepts⟩ := drains.well healthy.queue hwell.toWell fits count
    rw [← drains.batch_calls] at haccepts
    rw [inTurn] at sends
    obtain ⟨report, ts, rfl, carried, hledger⟩ :=
      sends.healthy (hwell.of_keeps drains.keeps) (drains.carriable fits) haccepts tell
    refine ⟨_, l, log, d, ts, rfl, drained, drains, rfl, freed (by simp) healthy.free, carried, ?_⟩
    rcases hledger with ⟨hn, -, hl⟩ | ⟨hash, hb, hl⟩
    · exact .inl ⟨hn, hl⟩
    · exact .inr ⟨report, hash, rfl, hb, hl⟩

/-- The records of the batch are linked, if it has any. -/
theorem RunsWell.links {outcome : RunOutcome} {l : MemoryLock} {log : List Fate}
    {d : Drained (Bench SimulatedChain)} {ts : List SignedRecord}
    (h : RunsWell start how s s' outcome l log d ts) :
    ∃ hash, d.site.env.ledger.Links s'.env.ledger hash d.batch.accepted := by
  rcases h.ledger with ⟨hn, hl⟩ | ⟨report, hash, -, -, hl⟩
  · rw [h.drains.accepted_eq_nil_iff.mpr hn, hl]
    exact ⟨keccak [], .nil _ _⟩
  · rw [hl]
    exact ⟨hash, MemoryLedger.links_commitAll _ _ _⟩

/-- **While all is well a viable message at the head of the queue is accepted, and broadcast.** -/
theorem Runs.completed {res : Except Interruption RunOutcome} {p : Bytes} {rest : List Bytes}
    {m : Message} (h : Runs start how s (res, s')) (healthy : s.Healthy start)
    (inTurn : how.turns = Turn.rounds) (fits : PayloadsFit s.queue.payloads)
    (count : s.queue.payloads.length < 2 ^ 32) (tell : s'.env.chain.HashesTell)
    (queue : s.queue.payloads = p :: rest) (decoded : Message.decode p = .ok m)
    (viable : m.isViable s.env.settings.config.batch s.env.chain.reverting = true) :
    ∃ report hash d, res = .ok (.completed report) ∧ report.batch = some (.broadcast hash) ∧
      s.drained start how = some d ∧ m.id ∈ d.batch.accepted.map Prod.fst := by
  obtain ⟨outcome, l, log, d, ts, rfl, well⟩ := h.healthy healthy inTurn fits count tell
  have hwell := (healthy.env.withLock l).toWell
  obtain ⟨o, hlog⟩ : ∃ o, .accepted m o ∈ log := by
    obtain ⟨hright, -⟩ := well.drains.well healthy.queue hwell fits count
    have progress := well.drains.progress (BatchConfig.limitReached_zero healthy.limit)
      healthy.queue hwell fits count (by simp [queue])
    obtain ⟨front, hfront, hmessages⟩ := well.drains.taken
    cases front with
    | nil =>
      rw [hfront, List.nil_append] at progress
      exact absurd progress (Nat.lt_irrefl _)
    | cons p' front =>
      obtain rfl : p = p' := (List.cons.inj (queue.symm.trans hfront)).1
      rw [messagesOf_cons_ok decoded] at hmessages
      obtain ⟨f, hf, rfl⟩ := List.mem_map.mp (hmessages ▸ List.mem_cons_self)
      cases f with
      | accepted m o => exact ⟨o, hf⟩
      | dropped m => exact absurd (viable.symm.trans (hright _ hf)) (by decide)
  have hmem : m.id ∈ d.batch.accepted.map Prod.fst := by
    rw [well.drains.batch_accepted, List.map_map]
    exact List.mem_map_of_mem (mem_entriesOf.mpr hlog)
  rcases well.ledger with ⟨hcalls, -⟩ | ⟨report, hash, rfl, hb, -⟩
  · rw [well.drains.accepted_eq_nil_iff.mpr hcalls] at hmem
    exact absurd hmem List.not_mem_nil
  · exact ⟨report, hash, d, rfl, hb, well.drained, hmem⟩

end Runs

/-! ## A site with one deposit -/

/-- A payload that asks for a deposit. -/
def depositPayload : Bytes :=
  Bytes.ofText
    "[\"00000000000000000000000000000001\",\"0x0101010101010101010101010101010101010101\",\"10\",1]"

/-- A healthy site with a key for each role and a deposit in its queue. -/
def Site.oneDeposit : Site (Bench SimulatedChain) where
  queue := { payloads := [depositPayload] }
  env :=
    { chain :=
        { managers := [.rehearsal 7]
          relayers := [.rehearsal 8] }
      ledger := ({} : MemoryLedger).insertPending ⟨1⟩ .pointToToken 10 }

set_option maxRecDepth 100000 in
theorem decode_depositPayload :
    ∃ m, Message.decode depositPayload = .ok m ∧ m.id = ⟨1⟩ ∧ m.signature = none ∧
      ¬m.HasPermit ∧ m.isViable {} [] = true := by
  have h : (Message.decode depositPayload).toOption.map (fun m =>
      (m.id, m.signature, m.request.toOption, m.isViable {} [])) =
        some (⟨1⟩, none, some (.deposit ⟨.repeated 1, 10⟩), true) := by
    decide +kernel
  cases hd : Message.decode depositPayload with
  | error e => simp [hd, Except.toOption] at h
  | ok m =>
    simp only [hd, Except.toOption, Option.map_some, Option.some.injEq, Prod.mk.injEq] at h
    obtain ⟨hid, hs, hr, hv⟩ := h
    refine ⟨m, rfl, hid, hs, ?_, hv⟩
    rintro ⟨r, hw, -⟩
    simp [hw] at hr

namespace Site

theorem oneDeposit_payloads : oneDeposit.queue.payloads = [depositPayload] := rfl

theorem oneDeposit_messages : ∃ m, messagesOf oneDeposit.queue.payloads = [m] ∧ m.id = ⟨1⟩ ∧
    m.signature = none ∧ ¬m.HasPermit := by
  obtain ⟨m, hd, hid, hs, hp, -⟩ := decode_depositPayload
  refine ⟨m, ?_, hid, hs, hp⟩
  rw [oneDeposit_payloads, messagesOf_cons_ok hd]
  rfl

theorem oneDeposit_fits : PayloadsFit oneDeposit.queue.payloads := by
  refine ⟨by decide, fun m hm b hb => ?_⟩
  obtain ⟨m', hms, -, hs, -⟩ := oneDeposit_messages
  rw [hms, List.mem_singleton] at hm
  rw [hm, hs] at hb
  simp at hb

theorem oneDeposit_healthy : oneDeposit.Healthy oneDeposit.env.chain where
  env :=
    { managers := rfl
      some_manager := by simp [oneDeposit]
      indices := rfl
      estimates := rfl
      relayers := rfl
      some_relayer := by simp [oneDeposit]
      opened := ⟨rfl, rfl⟩
      commits := rfl }
  queue := rfl
  readable := rfl
  limit := by simp [oneDeposit]
  free := rfl

theorem oneDeposit_pending :
    ∀ m ∈ messagesOf oneDeposit.queue.payloads, oneDeposit.env.ledger.HasStatus m.id .pending := by
  obtain ⟨m, hms, hid, -⟩ := oneDeposit_messages
  intro x hx
  rw [hms, List.mem_singleton] at hx
  rw [hx, hid]
  exact ⟨_, rfl, rfl⟩

theorem oneDeposit_distinct :
    ((messagesOf oneDeposit.queue.payloads).map Message.id).Nodup := by
  obtain ⟨m, hms, -⟩ := oneDeposit_messages
  rw [hms]
  exact List.pairwise_singleton _ _

/-- A run there signs one transaction at most. -/
theorem oneDeposit_tell (how : Schedule) :
    (oneDeposit.run oneDeposit.env.chain how).2.env.chain.HashesTell := by
  obtain ⟨m, hms, -, -, hp⟩ := oneDeposit_messages
  obtain ⟨ts, hl, hs⟩ := signed_run_of_no_permits _ how oneDeposit rfl (by simpa [hms] using hp)
  refine .of_length_le_one ?_
  rw [hs]
  exact hl

/-- A run there broadcasts the deposit. -/
theorem oneDeposit_completed : ∃ report s' hash d,
    oneDeposit.run oneDeposit.env.chain {} = (.ok (.completed report), s') ∧
      report.batch = some (.broadcast hash) ∧
      oneDeposit.drained oneDeposit.env.chain {} = some d ∧
      ⟨1⟩ ∈ d.batch.accepted.map Prod.fst := by
  obtain ⟨m, decoded, hid, -, -, viable⟩ := decode_depositPayload
  have hr := runs oneDeposit.env.chain {} oneDeposit rfl
  have tell := oneDeposit_tell {}
  rcases hres : oneDeposit.run oneDeposit.env.chain {} with ⟨res, s'⟩
  rw [hres] at hr tell
  obtain ⟨report, hash, d, rfl, hb, hd, hm⟩ := hr.completed oneDeposit_healthy rfl
    oneDeposit_fits (by decide) tell oneDeposit_payloads decoded viable
  exact ⟨report, s', hash, d, rfl, hb, hd, hid ▸ hm⟩

end Site

/-! ## A site with assorted messages -/

/-- The payload of a text. -/
def payloadOf (text : List Char) : Bytes := Bytes.ofText (String.ofList text)

/-- The message of a text's payload is the message of the text. -/
theorem decode_payloadOf (text : List Char) :
    (Message.decode (payloadOf text)).toOption = (Json.parse text).bind Message.ofJson? := by
  rw [Message.decode, payloadOf, Json.ofBytes?, Bytes.toChars?_ofText, String.toList_ofList,
    Option.bind_some]
  cases Json.parse text with
  | none => rfl
  | some v =>
    simp only [Option.bind_some]
    cases Message.ofJson? v <;> rfl

theorem messagesOf_payloadOf (texts : List (List Char)) :
    messagesOf (texts.map payloadOf) =
      texts.filterMap fun text => (Json.parse text).bind Message.ofJson? := by
  rw [messagesOf, List.filterMap_map]
  exact congrArg (List.filterMap · texts) (funext decode_payloadOf)

/-- The payloads of texts fit if the signatures in the texts do. -/
theorem PayloadsFit.of_texts {texts : List (List Char)} (count : texts.length < 2 ^ 64)
    (signatures : ∀ m ∈ texts.filterMap fun text => (Json.parse text).bind Message.ofJson?,
      ∀ b ∈ m.signature, b.length < 2 ^ 64) : PayloadsFit (texts.map payloadOf) := by
  refine ⟨by rwa [List.length_map], ?_⟩
  rwa [messagesOf_payloadOf]

/-- The text of a message for an account, whose address repeats one digit. -/
def messageText (id digit : Char) (rest : List Char) : List Char :=
  "[\"".toList ++ List.replicate 31 '0' ++ id :: "\",\"0x".toList ++ List.replicate 40 digit ++
    "\",\"10\",".toList ++ rest

/-- A text that asks for a deposit. -/
def depositText (id digit : Char) : List Char := messageText id digit "1]".toList

/-- A text that asks for a withdrawal with a permit. -/
def permitText (id digit : Char) : List Char :=
  messageText id digit ("2,\"0x\",7,[\"0x".toList ++ List.replicate 40 digit ++
    "\",\"10\",7,\"0x".toList ++ List.replicate 128 '1' ++ "1b\"]]".toList)

namespace Site

/-- Deposits, a withdrawal with a permit, and a text that is no message. -/
def assortedTexts : List (List Char) :=
  [depositText '1' '1', permitText '2' '2', [], depositText '3' '3', depositText '4' '4',
    depositText '5' '5']

/-- A healthy site with two keys for each role, where a run takes two payloads. The calls for the
account of the fourth message fail. -/
def assorted : Site (Bench SimulatedChain) where
  queue := { payloads := assortedTexts.map payloadOf }
  env :=
    { chain :=
        { managers := [.rehearsal 7, .rehearsal 9]
          relayers := [.rehearsal 8, .rehearsal 10]
          reverting := [.repeated 0x44] }
      ledger := [(⟨1⟩, .pointToToken), (⟨2⟩, .tokenToPoint), (⟨3⟩, .pointToToken),
        (⟨4⟩, .pointToToken), (⟨5⟩, .pointToToken)].foldl
          (fun l (id, direction) => l.insertPending id direction 10) {}
      settings := { config := { batch := { maxMessagesPerRun := some 2 } } } }

/-- What is told of the messages there: who they are from, and whether they can be carried out. -/
def brief (m : Message) : Uuid × Bool :=
  (m.id, m.isViable assorted.env.settings.config.batch assorted.env.chain.reverting)

/-- All messages there but the fourth one can be carried out. -/
def briefs : List (Uuid × Bool) :=
  [(⟨1⟩, true), (⟨2⟩, true), (⟨3⟩, true), (⟨4⟩, false), (⟨5⟩, true)]

set_option maxRecDepth 100000 in
theorem assorted_briefs : (messagesOf assorted.queue.payloads).map brief = briefs := by
  rw [show assorted.queue.payloads = assortedTexts.map payloadOf from rfl, messagesOf_payloadOf]
  decide +kernel

set_option maxRecDepth 100000 in
theorem assorted_fits : PayloadsFit assorted.queue.payloads :=
  .of_texts (by decide) (by decide +kernel)

theorem assorted_healthy : assorted.Healthy assorted.env.chain where
  env :=
    { managers := rfl
      some_manager := by simp [assorted]
      indices := rfl
      estimates := rfl
      relayers := rfl
      some_relayer := by simp [assorted]
      opened := ⟨rfl, rfl⟩
      commits := rfl }
  queue := rfl
  readable := rfl
  limit := by
    intro n hn
    obtain rfl : 2 = n := Option.some.inj hn
    decide
  free := rfl

theorem assorted_pending :
    ∀ m ∈ messagesOf assorted.queue.payloads, assorted.env.ledger.HasStatus m.id .pending := by
  intro m hm
  have found : ∀ x ∈ briefs,
      ((assorted.env.ledger.find? x.1).map ExchangeRecord.status) = some .pending := by decide
  rw [← assorted_briefs] at found
  exact Option.map_eq_some_iff.mp (found _ (List.mem_map_of_mem hm))

theorem assorted_distinct :
    ((messagesOf assorted.queue.payloads).map Message.id).Nodup := by
  have h := congrArg (List.map Prod.fst) assorted_briefs
  rw [List.map_map] at h
  rw [show Message.id = Prod.fst ∘ brief from rfl, h]
  decide

/-- The report of a run, if it was completed. -/
def reportOf : Except Interruption RunOutcome → Option RunReport
  | .ok (.completed report) => some report
  | _ => none

theorem eq_completed_of_reportOf {res : Except Interruption RunOutcome} {report : RunReport}
    (h : reportOf res = some report) : res = .ok (.completed report) := by
  unfold reportOf at h
  split at h
  · rw [Option.some.inj h]
  · simp at h

/-- What is told of a run. -/
structure Tally where
  /-- how many permits and calls were sent, if the run was completed -/
  sent : Option (Nat × Nat)
  /-- whether a deposit was taken -/
  deposit : Bool
  /-- how many payloads are left -/
  left : Nat
  /-- how many transactions and authorisations were signed so far -/
  signed : Nat × Nat
deriving DecidableEq

def tally (s : Site (Bench SimulatedChain))
    (r : Except Interruption RunOutcome × Site (Bench SimulatedChain)) : Tally where
  sent := (reportOf r.1).map fun report => (report.permitsSent, report.calls)
  deposit := (s.queue.delivered r.2.queue).any Message.isDeposit
  left := r.2.queue.payloads.length
  signed := (r.2.env.chain.signed.length, r.2.env.chain.signedDeposits.length)

set_option maxRecDepth 100000 in
/-- Three runs empty the queue there, and three more find it empty. The first manager has two
deposits, in the first run and in the third one, since the second manager's turn is in between. -/
theorem assorted_runs :
    let start := assorted.env.chain
    let r₁ := assorted.run start {}
    let r₂ := r₁.2.run start {}
    let r₃ := r₂.2.run start {}
    let last := (((r₃.2.run start {}).2.run start {}).2.run start {}).2.env.chain
    (assorted.tally r₁ = ⟨some (1, 2), true, 4, (2, 1)⟩ ∧
      r₁.2.tally r₂ = ⟨some (0, 1), true, 2, (3, 2)⟩ ∧
      r₂.2.tally r₃ = ⟨some (0, 1), true, 0, (4, 4)⟩) ∧
    last.broadcasts.length = 4 ∧ (last.signed.map SignedRecord.hash).Nodup ∧
    (depositsBy (.repeated 7) (last.broadcasts.flatMap last.batchCalls)).length = 2 ∧
    (depositsBy (.repeated 9) (last.broadcasts.flatMap last.batchCalls)).length = 1 := by
  decide +kernel

end Site
end PointExchange
