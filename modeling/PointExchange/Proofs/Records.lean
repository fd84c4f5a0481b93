import PointExchange.Proofs.Settlement

/-!
# Records over a history

The record of a queued message is pending, unless a run was interrupted: when a collaborator fails a
message its record is failed, although the message goes back to the queue. A later run may accept
the message and send its call, but a commit leaves failed records alone. So of the messages that a
broadcast batch is made of those are completed and linked to it that were never interrupted, and the
others stay failed (`linked_unless_interrupted`).
-/

namespace PointExchange

/-- The event is a run in which a collaborator fails the message of a record. -/
def Event.Interrupts (start : SimulatedChain) (s : Site (Bench SimulatedChain)) (e : Event)
    (id : Uuid) : Prop :=
  match e with
  | run how => ∃ d, s.drained start how = some d ∧ d.Interrupts s.queue id
  | _ => False

/-- One of the events interrupts the message of a record. -/
def Site.Interrupted (start : SimulatedChain) :
    Site (Bench SimulatedChain) → List Event → Uuid → Prop
  | _, [], _ => False
  | s, e :: rest, id => e.Interrupts start s id ∨ Interrupted start (e.apply start s) rest id

/-- Each queued message has a record of its own. It is failed if the message was interrupted, and
pending if not. -/
structure Site.Recorded (s : Site (Bench SimulatedChain)) (interrupted : Uuid → Prop) : Prop where
  distinct : ((messagesOf s.queue.payloads).map Message.id).Nodup
  failed : ∀ m ∈ messagesOf s.queue.payloads, interrupted m.id →
    s.env.ledger.HasStatus m.id .failed
  pending : ∀ m ∈ messagesOf s.queue.payloads, ¬interrupted m.id →
    s.env.ledger.HasStatus m.id .pending

/-- At first all records are pending. -/
theorem Site.Recorded.of_pending {s : Site (Bench SimulatedChain)}
    (distinct : ((messagesOf s.queue.payloads).map Message.id).Nodup)
    (pending : ∀ m ∈ messagesOf s.queue.payloads, s.env.ledger.HasStatus m.id .pending) :
    s.Recorded fun _ => False :=
  ⟨distinct, fun _ _ h => h.elim, fun m hm _ => pending m hm⟩

/-! ## What a run does to records -/

section Sending

variable {w w' : Bench SimulatedChain} {i : UInt64} {b : Batch} {id : Uuid}

/-- Sending a batch touches no records but those of the batch. -/
theorem Submits.others {account : Address}
    {res : Except Interruption BatchOutcome × Bench SimulatedChain} (h : Submits w i account b res)
    (hid : id ∉ b.accepted.map Prod.fst) : res.2.ledger.find? id = w.ledger.find? id := by
  have hc : ∀ hash, (w.committing hash b.accepted).ledger.find? id = w.ledger.find? id :=
    fun hash => MemoryLedger.find?_commitAll hash _ _ _ (.inl hid)
  cases h with
  | notSigned w' why env => rw [(Bench.Follows.of_still env).ledger]
  | ledgerFailed t w' transaction why env => rw [env.ledger]
  | refused t u w' transaction found why env => rw [env.ledger, hc]
  | stalled t u w' transaction found why env => rw [env.ledger, hc]
  | included t u w' transaction found env => rw [env.ledger, hc]

theorem CallsSent.others {k : Signer} {o : Option BatchOutcome} (h : CallsSent w i k b o w')
    (hid : id ∉ b.accepted.map Prod.fst) : w'.ledger.find? id = w.ledger.find? id := by
  cases h with
  | none => rfl
  | some o w' calls submits => exact submits.others hid

theorem Sends.others {start : SimulatedChain} {turns : Nat → List Turn} {stop : StopReason}
    {res : Except Interruption RunReport × Bench SimulatedChain}
    (h : Sends start turns w b stop res) (hid : id ∉ b.accepted.map Prod.fst) :
    res.2.ledger.find? id = w.ledger.find? id := by
  cases h with
  | noRelayer => rfl
  | permitsWait i k ts w' relayer permits => rw [permits.env.ledger]
  | batchWaits i k ts w₁ w' relayer permits submits =>
    rw [submits.others hid, permits.env.ledger]
  | unturned i k ts w₁ w₂ outcome e indices relayer permits calls =>
    exact (calls.others hid).trans (by rw [permits.env.ledger])
  | sent i k ts w₁ w₂ outcome count indices relayer permits counted calls =>
    exact (calls.others hid).trans (by rw [permits.env.ledger])

/-- A batch that was handed over is linked, whether the node has taken it or not. -/
theorem CallsSent.links {k : Signer} {o : BatchOutcome} (h : CallsSent w i k b (Option.some o) w')
    {hash : Hash} (ho : o = .broadcast hash ∨ o = .broadcastFailed hash) :
    w.ledger.Links w'.ledger hash b.accepted := by
  have hc := w.ledger.links_commitAll hash b.accepted
  cases h with
  | some o w' calls submits =>
    cases submits with
    | notSigned | ledgerFailed => simp at ho
    | refused t u w' transaction found why env =>
      obtain rfl : t.hash = hash := by simpa using ho
      rw [env.ledger]
      exact hc
    | included t u w' transaction found env =>
      obtain rfl : t.hash = hash := by simpa using ho
      rw [env.ledger]
      exact hc

end Sending

/-- What a drain does to the records of the messages that it takes and of the one that is
interrupted, if one is. -/
structure Site.Takes (s : Site (Bench SimulatedChain)) (d : Drained (Bench SimulatedChain))
    (log : List Fate) (back : List Uuid) : Prop where
  messages : messagesOf s.queue.payloads =
    log.map Fate.message ++ messagesOf d.site.queue.payloads
  accepted : d.batch.accepted = (entriesOf log).map fun e => (e.1.id, e.2.direction)
  interrupts : ∀ id, id ∈ back ↔ d.Interrupts s.queue id
  ledger : d.site.env.ledger = s.env.ledger.failAll (failedOf log ++ back)

section Runs

variable {start : SimulatedChain} {how : Schedule} {s : Site (Bench SimulatedChain)}

theorem Drains.takes {settings : BatchConfig} {l : MemoryLock} {log : List Fate}
    {d : Drained (Bench SimulatedChain)}
    (h : Drains start settings 0 s.queue ⟨{}, s.env.withLock l⟩ log d) :
    ∃ back, s.Takes d log back := by
  obtain ⟨back, hback, henv⟩ := h.env
  exact ⟨back, h.messages, h.batch_accepted, hback, (congrArg Bench.ledger henv :)⟩

/-- A run that gets to its drain touches no records but those that the drain has failed and those
of its batch. -/
theorem Runs.takes {res : Except Interruption RunOutcome × Site (Bench SimulatedChain)}
    (h : Runs start how s res) :
    (s.drained start how = none ∧ res.2.queue = s.queue ∧ res.2.env.ledger = s.env.ledger) ∨
    ∃ d log back, s.drained start how = some d ∧ s.Takes d log back ∧ res.2.queue = d.site.queue ∧
      ∀ id, id ∉ d.batch.accepted.map Prod.fst →
        res.2.env.ledger.find? id = d.site.env.ledger.find? id := by
  cases h with
  | unreadable e why drained => exact .inl ⟨drained, rfl, rfl⟩
  | skipped l drained => exact .inl ⟨drained, rfl, rfl⟩
  | idle config l l' log d settings drained drains =>
    obtain ⟨back, takes⟩ := drains.takes
    exact .inr ⟨d, log, back, drained, takes, rfl, fun _ _ => rfl⟩
  | sent config l l' log d res w settings drained drains empty sends =>
    obtain ⟨back, takes⟩ := drains.takes
    exact .inr ⟨d, log, back, drained, takes, rfl, fun id hid => sends.others hid⟩

namespace Site.Takes

variable {d : Drained (Bench SimulatedChain)} {log : List Fate} {back : List Uuid}

/-- The records that a drain fails or puts into its batch are those of messages that it takes. -/
theorem mem_log (h : s.Takes d log back) {id : Uuid}
    (hid : id ∈ failedOf log ∨ id ∈ d.batch.accepted.map Prod.fst) :
    id ∈ (log.map Fate.message).map Message.id := by
  rcases hid with hid | hid
  · obtain ⟨m, hm, rfl⟩ := mem_failedOf.mp hid
    exact List.mem_map_of_mem (List.mem_map_of_mem hm)
  · rw [h.accepted, List.map_map] at hid
    obtain ⟨e, he, rfl⟩ := List.mem_map.mp hid
    exact List.mem_map_of_mem (Drains.entry_mem he)

/-- The message that is interrupted stays queued. -/
theorem mem_queue (h : s.Takes d log back) {id : Uuid} (hid : id ∈ back) :
    id ∈ (messagesOf d.site.queue.payloads).map Message.id := by
  obtain ⟨p, rest, m, hq, hd, rfl⟩ := ((h.interrupts id).mp hid).head
  rw [hq, messagesOf_cons_ok hd]
  exact List.mem_cons_self

variable {interrupted : Uuid → Prop}

theorem disjoint (h : s.Takes d log back) (hr : s.Recorded interrupted) :
    ((log.map Fate.message).map Message.id).Disjoint
      ((messagesOf d.site.queue.payloads).map Message.id) := by
  have hd := hr.distinct
  rw [h.messages, List.map_append] at hd
  exact List.disjoint_of_nodup_append hd

/-- A drain fails no record that it puts into its batch. -/
theorem not_failed (h : s.Takes d log back) (hr : s.Recorded interrupted) {id : Uuid}
    (hid : id ∈ d.batch.accepted.map Prod.fst) : id ∉ failedOf log ++ back := by
  have hlog := h.mem_log (.inr hid)
  have hd := hr.distinct
  rw [h.messages, List.map_append] at hd
  have hnodup := hd.of_append_left
  rw [List.map_map] at hnodup
  rw [h.accepted, List.map_map] at hid
  obtain ⟨e, he, rfl⟩ := List.mem_map.mp hid
  intro hfail
  rcases List.mem_append.mp hfail with hfail | hback
  · -- an accepted message and a dropped one are not the same
    obtain ⟨m, hm, hids⟩ := mem_failedOf.mp hfail
    exact absurd (List.inj_on_of_nodup_map hnodup hm (mem_entriesOf.mp he) hids) (by simp)
  · exact h.disjoint hr hlog (h.mem_queue hback)

end Site.Takes

/-! ## Histories of runs -/

variable {interrupted : Uuid → Prop}

/-- **A run keeps the records of queued messages as they should be.** -/
theorem Runs.recorded {res : Except Interruption RunOutcome × Site (Bench SimulatedChain)}
    (h : Runs start how s res) (hr : s.Recorded interrupted) :
    res.2.Recorded fun id =>
      interrupted id ∨ ∃ d, s.drained start how = some d ∧ d.Interrupts s.queue id := by
  rcases h.takes with ⟨hd, hq, hl⟩ | ⟨d, log, back, hd, takes, hq, hothers⟩
  · have hi : ∀ id, (interrupted id ∨ ∃ d, s.drained start how = some d ∧
        d.Interrupts s.queue id) ↔ interrupted id := by
      simp [hd]
    refine ⟨by rw [hq]; exact hr.distinct, ?_, ?_⟩
    · intro m hm hx
      rw [hq] at hm
      rw [hl]
      exact hr.failed m hm ((hi _).mp hx)
    · intro m hm hx
      rw [hq] at hm
      rw [hl]
      exact hr.pending m hm fun hx' => hx ((hi _).mpr hx')
  · have hsub : ∀ m ∈ messagesOf d.site.queue.payloads, m ∈ messagesOf s.queue.payloads := by
      intro m hm
      rw [takes.messages]
      exact List.mem_append_right _ hm
    -- a message that stays queued is neither dropped nor accepted
    have hnot : ∀ m ∈ messagesOf d.site.queue.payloads,
        m.id ∉ failedOf log ∧ m.id ∉ d.batch.accepted.map Prod.fst := by
      intro m hm
      have hdis := takes.disjoint hr
      exact ⟨fun hf => hdis (takes.mem_log (.inl hf)) (List.mem_map_of_mem hm),
        fun ha => hdis (takes.mem_log (.inr ha)) (List.mem_map_of_mem hm)⟩
    have hback : ∀ id, (∃ d, s.drained start how = some d ∧ d.Interrupts s.queue id) ↔
        id ∈ back := by
      intro id
      rw [takes.interrupts, hd]
      simp
    refine ⟨?_, ?_, ?_⟩
    · have hdist := hr.distinct
      rw [takes.messages, List.map_append] at hdist
      rw [hq]
      exact hdist.of_append_right
    · intro m hm hx
      rw [hq] at hm
      obtain ⟨hf, ha⟩ := hnot m hm
      refine MemoryLedger.HasStatus.of_eq ?_ (hothers m.id ha)
      rw [takes.ledger]
      by_cases hi : interrupted m.id
      · exact (hr.failed m (hsub m hm) hi).failAll (by decide) _
      · have hb := (hback m.id).mp (hx.resolve_left hi)
        exact MemoryLedger.hasStatus_failAll_of_mem (hr.pending m (hsub m hm) hi)
          (List.mem_append_right _ hb)
    · intro m hm hx
      rw [hq] at hm
      obtain ⟨hf, ha⟩ := hnot m hm
      refine ((hr.pending m (hsub m hm) fun hi => hx (.inl hi)).of_eq ?_).of_eq (hothers m.id ha)
      rw [takes.ledger]
      refine MemoryLedger.find?_failAll_of_not_mem ?_ _
      rw [List.mem_append, not_or]
      exact ⟨hf, fun hb => hx (.inr ((hback m.id).mpr hb))⟩

/-- **A history of runs keeps the records of queued messages as they should be,** whatever the
conditions are in between. -/
theorem Site.replay_recorded (events : List Event) (s : Site (Bench SimulatedChain))
    {interrupted : Uuid → Prop} (hr : s.env.chain.relayers = start.relayers)
    (noMore : ∀ p, Event.enqueue p ∉ events) (h : s.Recorded interrupted) :
    (s.replay start events).Recorded fun id => interrupted id ∨ s.Interrupted start events id := by
  induction events generalizing s interrupted with
  | nil => simpa [Interrupted, replay] using h
  | cons e rest ih =>
    have he : (e.apply start s).Recorded fun id => interrupted id ∨ e.Interrupts start s id := by
      cases e with
      | enqueue p => exact absurd List.mem_cons_self (noMore p)
      | run how => exact (runs start how s hr).recorded h
      | change k =>
        have hi : ∀ id, (interrupted id ∨ Event.Interrupts start s (.change k) id) ↔
            interrupted id := fun id => iff_of_eq (or_false _)
        exact ⟨h.distinct, fun m hm hx => h.failed m hm ((hi _).mp hx),
          fun m hm hx => h.pending m hm fun hx' => hx ((hi _).mpr hx')⟩
    obtain ⟨-, hr', -⟩ := e.frame s hr
    have hrest := ih (e.apply start s) (hr'.trans hr)
      (fun p hp => noMore p (List.mem_cons_of_mem _ hp)) he
    simp only [or_assoc] at hrest
    exact hrest

/-- What the last run of a history does to the records of its batch when it has handed the batch
over. -/
theorem Runs.linked {s' : Site (Bench SimulatedChain)} {report : RunReport} {hash : Hash}
    {d : Drained (Bench SimulatedChain)} (h : Runs start how s (.ok (.completed report), s'))
    (hd : s.drained start how = some d)
    (hb : report.batch = some (.broadcast hash) ∨ report.batch = some (.broadcastFailed hash))
    (hr : s.Recorded interrupted) : ∀ entry ∈ d.batch.accepted,
      (¬interrupted entry.1 → s'.env.ledger.LinkedTo hash entry.1) ∧
        (interrupted entry.1 → s'.env.ledger.HasStatus entry.1 .failed) := by
  obtain ⟨l, l', log, d', w, drained, drains, sends, rfl⟩ := h.sends
  obtain rfl : d' = d := Option.some.inj (drained.symm.trans hd)
  obtain ⟨back, takes⟩ := drains.takes
  cases sends with
  | sent i k ts w₁ w₂ outcome count indices relayer permits counted calls =>
    obtain ⟨o, rfl, ho⟩ : ∃ o, outcome = some o ∧
        (o = .broadcast hash ∨ o = .broadcastFailed hash) := by
      rcases hb with hb | hb
      · exact ⟨_, hb, .inl rfl⟩
      · exact ⟨_, hb, .inr rfl⟩
    have links := calls.links ho
    rw [permits.env.ledger, takes.ledger] at links
    intro entry he
    have hmem : entry.1 ∈ d'.batch.accepted.map Prod.fst := List.mem_map_of_mem he
    obtain ⟨m, hm, hid⟩ := List.mem_map.mp (takes.mem_log (.inr hmem))
    have hms : m ∈ messagesOf s.queue.payloads := by
      rw [takes.messages]
      exact List.mem_append_left _ hm
    rw [← hid] at hmem ⊢
    refine ⟨fun hi => ?_, fun hi => ?_⟩
    · exact links.linked _ hmem (MemoryLedger.hasStatus_pending_iff.mp
        ((hr.pending m hms hi).of_eq (MemoryLedger.find?_failAll_of_not_mem
          (takes.not_failed hr hmem) _)))
    · -- a commit leaves failed records alone
      have hf := (hr.failed m hms hi).failAll (by decide) (failedOf log ++ back)
      exact hf.of_eq (links.others _ (.inr (hf.pending?_eq_none (by decide))))

end Runs

/-! ## Outages -/

section Outages

variable {start : SimulatedChain} {how : Schedule} {s : Site (Bench SimulatedChain)} {p : Bytes}
  {rest : List Bytes} {m : Message}

/-- A drain that has no estimates is interrupted at a viable message. -/
theorem Drains.interrupted {settings : BatchConfig} {reverting : List Address} {q : MessageQueue}
    {w : Bench SimulatedChain} {log : List Fate} {d : Drained (Bench SimulatedChain)}
    (h : Drains start settings 0 q ⟨{}, w⟩ log d) (outage : w.chain.estimateUnavailable = true)
    (hl : settings.limitReached 0 = false) (hq : q.unavailable = false)
    (count : q.payloads.length < 2 ^ 32) (queue : q.payloads = p :: rest)
    (decoded : Message.decode p = .ok m) (viable : m.isViable settings reverting = true) :
    d.Interrupts q m.id ∧ d.batch.isEmpty = true ∧ d.site.queue.payloads = q.payloads := by
  have hj : ∀ budget trial alone v, w.chain.judgement budget trial alone ≠ .ok v := by
    intro budget trial alone v
    rw [SimulatedChain.judgement, SimulatedChain.estimate, if_pos outage]
    simp
  have hp : ∀ {p' rest' m'}, q.payloads = p' :: rest' → Message.decode p' = .ok m' → m = m' := by
    intro p' rest' m' queue' decoded'
    obtain rfl : p = p' := (List.cons.inj (queue.symm.trans queue')).1
    exact Except.ok.inj (decoded.symm.trans decoded')
  cases h with
  | halted stop why => exact absurd why (not_halts hl hq count (by simp [queue]))
  | undecodable p' rest' e queue' decoded' =>
    obtain rfl : p = p' := (List.cons.inj (queue.symm.trans queue')).1
    simp [decoded] at decoded'
  | dropped p' rest' m' d' queue' decoded' handled =>
    obtain rfl := hp queue' decoded'
    cases handled with
    | rejected e w' task =>
      exact absurd (viable.symm.trans (Drafting.Task.not_viable task reverting)) (by decide)
    | dropped o b w' offered judged => exact absurd judged (hj _ _ _ _)
  | accepted p' rest' m' o b w' queue' decoded' offered judged => exact absurd judged (hj _ _ _ _)
  | full p' rest' m' o b w' stop queue' decoded' offered judged => exact absurd judged (hj _ _ _ _)
  | deferred p' rest' m' o b w' gas budget queue' decoded' offered judged =>
    exact absurd judged (hj _ _ _ _)
  | broken p' rest' m' fault b w' queue' decoded' prepared =>
    obtain rfl := hp queue' decoded'
    refine ⟨⟨⟨_, rfl⟩, rfl, p', rest', m, queue', decoded', rfl⟩, ?_, rfl⟩
    show Batch.isEmpty b = true
    rw [Batch.isEmpty, prepared.calls, prepared.permits]
    rfl

/-- **A run that has no estimates is interrupted at a viable message,** and signs nothing. -/
theorem Runs.interrupted {res : Except Interruption RunOutcome × Site (Bench SimulatedChain)}
    (h : Runs start how s res) (outage : s.env.chain.estimateUnavailable = true)
    (free : s.LockFree) (readable : s.env.settings.poisoned = false)
    (hl : s.env.settings.config.batch.limitReached 0 = false) (hq : s.queue.unavailable = false)
    (count : s.queue.payloads.length < 2 ^ 32) (queue : s.queue.payloads = p :: rest)
    (decoded : Message.decode p = .ok m)
    (viable : m.isViable s.env.settings.config.batch s.env.chain.reverting = true) :
    (∃ d, s.drained start how = some d ∧ d.Interrupts s.queue m.id) ∧
      res.2.queue.payloads = s.queue.payloads ∧
      res.2.env.chain.signed = s.env.chain.signed := by
  cases h with
  | unreadable e why => exact absurd (why.symm.trans readable) (by decide)
  | skipped l drained held => exact absurd free held
  | idle config l l' log d settings drained drains =>
    obtain rfl := read_ok settings
    obtain ⟨hi, -, hpayloads⟩ := drains.interrupted outage hl hq count queue decoded viable
    exact ⟨⟨d, drained, hi⟩, hpayloads, (congrArg SimulatedChain.signed drains.quiet :)⟩
  | sent config l l' log d res w settings drained drains empty =>
    obtain rfl := read_ok settings
    obtain ⟨-, he, -⟩ := drains.interrupted outage hl hq count queue decoded viable
    exact absurd (he.symm.trans empty) (by decide)

/-- When all conditions are good again the site is healthy. -/
theorem Site.healthy_under (hk : s.env.chain.managers = start.managers)
    (hr : s.env.chain.relayers = start.relayers) (some_manager : start.managers ≠ [])
    (some_relayer : start.relayers ≠ []) : (s.under {}).Healthy start where
  env :=
    { managers := hk
      some_manager := some_manager
      indices := rfl
      estimates := rfl
      relayers := hr
      some_relayer := some_relayer
      opened := ⟨rfl, rfl⟩
      commits := rfl }
  queue := rfl
  readable := rfl
  limit := by simp [under]
  free := rfl

end Outages

/-- **Of the messages of a batch that is handed over the records are completed and linked, unless an
earlier run was interrupted at the message:** then its record is failed, and stays so. -/
theorem linked_unless_interrupted (s : Site (Bench SimulatedChain)) (events : List Event)
    (how : Schedule) {report : RunReport} {s' : Site (Bench SimulatedChain)}
    {d : Drained (Bench SimulatedChain)} {hash : Hash} (noMore : ∀ p, Event.enqueue p ∉ events)
    (distinct : ((messagesOf s.queue.payloads).map Message.id).Nodup)
    (pending : ∀ m ∈ messagesOf s.queue.payloads, s.env.ledger.HasStatus m.id .pending)
    (run : (s.replay s.env.chain events).run s.env.chain how = (.ok (.completed report), s'))
    (drained : (s.replay s.env.chain events).drained s.env.chain how = some d)
    (handed : report.batch = some (.broadcast hash) ∨
      report.batch = some (.broadcastFailed hash)) :
    ∀ entry ∈ d.batch.accepted,
      (¬s.Interrupted s.env.chain events entry.1 → s'.env.ledger.LinkedTo hash entry.1) ∧
        (s.Interrupted s.env.chain events entry.1 →
          s'.env.ledger.HasStatus entry.1 .failed) := by
  have hr := runs s.env.chain how (s.replay s.env.chain events) (Site.frame_replay events s rfl).1
  rw [run] at hr
  have linked := hr.linked drained handed
    (Site.replay_recorded events s rfl noMore (.of_pending distinct pending))
  simpa only [false_or] using linked

theorem linked_unless_interrupted_oneDeposit :
    ∃ report s' d hash, Site.oneDeposit.run Site.oneDeposit.env.chain {} =
        (.ok (.completed report), s') ∧
      Site.oneDeposit.drained Site.oneDeposit.env.chain {} = some d ∧
      report.batch = some (.broadcast hash) ∧ ⟨1⟩ ∈ d.batch.accepted.map Prod.fst ∧
      s'.env.ledger.LinkedTo hash ⟨1⟩ := by
  obtain ⟨report, s', hash, d, run, hb, hd, hm⟩ := Site.oneDeposit_completed
  have linked := linked_unless_interrupted Site.oneDeposit [] {} (fun _ => List.not_mem_nil)
    Site.oneDeposit_distinct Site.oneDeposit_pending run hd (.inl hb)
  obtain ⟨entry, he, hid⟩ := List.mem_map.mp hm
  exact ⟨report, s', d, hash, run, hd, hb, hm, hid ▸ (linked entry he).1 id⟩

/-- Estimates are unavailable during one run. -/
def outage : List Event := [.change { estimateUnavailable := true }, .run {}, .change {}]

theorem Site.replay_outage (start : SimulatedChain) (s : Site (Bench SimulatedChain)) :
    s.replay start outage =
      ((s.under { estimateUnavailable := true }).run start {}).2.under {} := rfl

theorem Site.interrupted_outage {start : SimulatedChain} {s : Site (Bench SimulatedChain)}
    {id : Uuid} (h : ∃ d, (s.under { estimateUnavailable := true }).drained start {} = some d ∧
      d.Interrupts (s.under { estimateUnavailable := true }).queue id) :
    s.Interrupted start outage id :=
  .inr (.inl h)

/-- The deposit of a site with one deposit is broadcast after an outage, and its record is
failed. -/
theorem Site.oneDeposit_after_outage : ∃ report s' hash d,
    (oneDeposit.replay oneDeposit.env.chain outage).run oneDeposit.env.chain {} =
        (.ok (.completed report), s') ∧
      report.batch = some (.broadcast hash) ∧
      (oneDeposit.replay oneDeposit.env.chain outage).drained oneDeposit.env.chain {} = some d ∧
      ∃ entry ∈ d.batch.accepted, s'.env.ledger.HasStatus entry.1 .failed := by
  obtain ⟨m, decoded, -, -, hp, viable⟩ := decode_depositPayload
  have recorded := replay_recorded outage oneDeposit rfl (by simp [outage])
    (.of_pending oneDeposit_distinct oneDeposit_pending)
  have first := runs oneDeposit.env.chain {}
    (oneDeposit.under { estimateUnavailable := true }) rfl
  obtain ⟨hint, hpayloads, hsigned⟩ := first.interrupted rfl rfl rfl rfl rfl (by decide)
    oneDeposit_payloads decoded viable
  have bare := first.keeps.1.bare
  rw [replay_outage] at recorded ⊢
  generalize ((oneDeposit.under { estimateUnavailable := true }).run oneDeposit.env.chain {}).2 =
    s₁ at recorded hpayloads hsigned bare ⊢
  have healthy : (s₁.under {}).Healthy oneDeposit.env.chain :=
    healthy_under (congrArg SimulatedChain.managers bare :)
      (congrArg SimulatedChain.relayers bare :) (by simp [oneDeposit]) (by simp [oneDeposit])
  have queue : (s₁.under {}).queue.payloads = [depositPayload] := hpayloads
  have second := runs oneDeposit.env.chain {} (s₁.under {}) healthy.env.relayers
  have tell : ((s₁.under {}).run oneDeposit.env.chain {}).2.env.chain.HashesTell := by
    obtain ⟨ts, hl, hs⟩ := signed_run_of_no_permits oneDeposit.env.chain {} (s₁.under {})
      healthy.env.relayers (by
        rw [queue, messagesOf_cons_ok decoded]
        simpa [messagesOf] using hp)
    refine .of_length_le_one ?_
    rw [hs, show (s₁.under {}).env.chain.signed = [] from hsigned]
    exact hl
  rcases hrun : (s₁.under {}).run oneDeposit.env.chain {} with ⟨res, s'⟩
  rw [hrun] at second tell
  obtain ⟨report, hash, d, rfl, hb, hd, hm⟩ := second.completed healthy rfl
    (queue ▸ oneDeposit_fits) (by rw [queue]; decide) tell queue decoded viable
  obtain ⟨entry, he, hid⟩ := List.mem_map.mp hm
  refine ⟨report, s', hash, d, rfl, hb, hd, entry, he, ?_⟩
  refine (second.linked hd (.inl hb) recorded entry he).2 (.inr ?_)
  rw [hid]
  exact interrupted_outage hint

/-- **Not all records of a batch that is handed over are linked:** the deposit that an outage has
interrupted is sent by the next run, and its record is failed. -/
theorem not_linked_after_outage :
    ¬∀ (s : Site (Bench SimulatedChain)) (events : List Event) (how : Schedule)
      (report : RunReport) (s' : Site (Bench SimulatedChain)) (d : Drained (Bench SimulatedChain))
      (hash : Hash), (∀ p, Event.enqueue p ∉ events) →
      ((messagesOf s.queue.payloads).map Message.id).Nodup →
      (∀ m ∈ messagesOf s.queue.payloads, s.env.ledger.HasStatus m.id .pending) →
      (s.replay s.env.chain events).run s.env.chain how = (.ok (.completed report), s') →
      (s.replay s.env.chain events).drained s.env.chain how = some d →
      (report.batch = some (.broadcast hash) ∨ report.batch = some (.broadcastFailed hash)) →
      ∀ entry ∈ d.batch.accepted, s'.env.ledger.LinkedTo hash entry.1 := by
  intro claim
  obtain ⟨report, s', hash, d, run, hb, hd, entry, he, hf⟩ := Site.oneDeposit_after_outage
  have linked := claim Site.oneDeposit outage {} report s' d hash (by simp [outage])
    Site.oneDeposit_distinct Site.oneDeposit_pending run hd (.inl hb) entry he
  exact absurd (linked.completed.unique hf) (by decide)

end PointExchange
