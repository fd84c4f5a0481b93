import Mathlib.Data.List.Forall2
import Mathlib.Data.List.Nodup
import PointExchange.Proofs.Healthy
import PointExchange.Proofs.History

/-!
# Settlement while all is well

While all collaborators are well, each run settles the payloads that it takes: its batch is included
with one call for each viable message among them, and their records are completed. It takes at least
one, so as many runs as there are payloads settle all of them (`settles_exactly_once`).
-/

namespace PointExchange

/-! ## What a run settles -/

/-- When the fates of messages are the right ones, the viable messages are accepted with calls that
carry them out, and the records of the others are failed. -/
theorem Fate.right_lists {keys : List Signer} {settings : BatchConfig} {reverting : List Address}
    {log : List Fate} (h : ∀ f ∈ log, f.Right keys settings reverting) :
    (entriesOf log).map Prod.fst = (log.map Fate.message).filter (·.isViable settings reverting) ∧
      failedOf log =
        ((log.map Fate.message).filter (!·.isViable settings reverting)).map Message.id ∧
      List.Forall₂ (Carries keys settings)
        ((log.map Fate.message).filter (·.isViable settings reverting)) (callsIn log) := by
  induction log with
  | nil => exact ⟨rfl, rfl, .nil⟩
  | cons f rest ih =>
    obtain ⟨he, hf, hc⟩ := ih fun x hx => h x (List.mem_cons_of_mem _ hx)
    have hr := h f List.mem_cons_self
    cases f with
    | accepted m o =>
      obtain ⟨hv, ho⟩ := hr
      simp only [List.map_cons, message, List.filter_cons, hv, Bool.not_true, if_true,
        Bool.false_eq_true, if_false]
      exact ⟨congrArg (m :: ·) he, hf, .cons ho hc⟩
    | dropped m =>
      have hv : m.isViable settings reverting = false := hr
      simp only [List.map_cons, message, List.filter_cons, hv, Bool.not_false, if_true,
        Bool.false_eq_true, if_false]
      exact ⟨he, congrArg (m.id :: ·) hf, hc⟩

/-- Failing the records of some messages and linking those of the others completes the latter, and
touches no records but theirs. -/
theorem MemoryLedger.Links.settles {l l' : MemoryLedger} {hash : Hash} {ms : List Message}
    {viable : Message → Bool} {accepted : List (Uuid × Direction)}
    (h : (l.failAll ((ms.filter (!viable ·)).map Message.id)).Links l' hash accepted)
    (ha : accepted.map Prod.fst = (ms.filter viable).map Message.id)
    (distinct : (ms.map Message.id).Nodup) :
    (∀ m ∈ ms, viable m = true → l.HasStatus m.id .pending → l'.HasStatus m.id .completed) ∧
      ∀ id, id ∉ ms.map Message.id → l'.find? id = l.find? id := by
  refine ⟨fun m hm hv hp => (h.linked m.id ?_ ?_).completed, fun id hid => ?_⟩
  · rw [ha]
    exact List.mem_map_of_mem (List.mem_filter.mpr ⟨hm, hv⟩)
  · -- no other message has failed the record
    refine hasStatus_pending_iff.mp (hp.of_eq (find?_failAll_of_not_mem ?_ l))
    intro hf
    obtain ⟨x, hx, hi⟩ := List.mem_map.mp hf
    obtain ⟨hx, hn⟩ := List.mem_filter.mp hx
    rw [List.inj_on_of_nodup_map distinct hx hm hi, hv] at hn
    exact absurd hn (by decide)
  · have hsub : ∀ p : Message → Bool, id ∉ (ms.filter p).map Message.id := fun p hf =>
      hid ((List.filter_sublist.map _).subset hf)
    rw [h.others id (.inl (ha ▸ hsub viable)), find?_failAll_of_not_mem (hsub _)]

/-- Between the two sites some payloads are settled, and the broadcasts of the hashes are made for
them. What the hashes stand for is looked up on the chain `last`. -/
structure Site.Settled (start last : SimulatedChain) (s s' : Site (Bench SimulatedChain))
    (front : List Bytes) (hashes : List Hash) : Prop where
  queue : s.queue.payloads = front ++ s'.queue.payloads
  signed : s.env.chain.signed <+: s'.env.chain.signed
  broadcasts : s'.env.chain.broadcasts = s.env.chain.broadcasts ++ hashes
  calls : List.Forall₂ (Carries start.managers s.env.settings.config.batch)
    ((messagesOf front).filter
      (·.isViable s.env.settings.config.batch s.env.chain.reverting))
    (hashes.flatMap last.batchCalls)
  completed : ∀ m ∈ messagesOf front,
    m.isViable s.env.settings.config.batch s.env.chain.reverting = true →
    s.env.ledger.HasStatus m.id .pending → s'.env.ledger.HasStatus m.id .completed
  others : ∀ id, id ∉ (messagesOf front).map Message.id →
    s'.env.ledger.find? id = s.env.ledger.find? id

section Runs

variable {start last : SimulatedChain} {how : Schedule} {s s' : Site (Bench SimulatedChain)}

/-- **While all is well a run settles the payloads that it takes, and takes one if there is
one.** -/
theorem Runs.settled {res : Except Interruption RunOutcome} (h : Runs start how s (res, s'))
    (healthy : s.Healthy start) (inTurn : how.turns = Turn.rounds)
    (fits : PayloadsFit s.queue.payloads) (count : s.queue.payloads.length < 2 ^ 32)
    (distinct : ((messagesOf s.queue.payloads).map Message.id).Nodup) (tell : last.HashesTell)
    (hp : s'.env.chain.signed <+: last.signed) :
    s'.Healthy start ∧ (s.queue.payloads ≠ [] →
      s'.queue.payloads.length < s.queue.payloads.length) ∧
      ∃ front hashes, s.Settled start last s' front hashes := by
  obtain ⟨hk, hqueue⟩ := h.keeps
  obtain ⟨outcome, l, log, d, ts, -, well⟩ := h.healthy healthy inTurn fits count
    (tell.of_prefix hp)
  refine ⟨healthy.of_keeps hk hqueue well.freed, fun hne => ?_, ?_⟩
  · rw [well.queue]
    exact well.drains.progress (BatchConfig.limitReached_zero healthy.limit) healthy.queue
      (healthy.env.withLock l).toWell fits count hne
  obtain ⟨hright, hledger, -⟩ := well.drains.well healthy.queue (healthy.env.withLock l).toWell fits
    count
  obtain ⟨front, hfront, hmessages⟩ := well.drains.taken
  obtain ⟨hentries, hfailed, hcarries⟩ := Fate.right_lists hright
  rw [← hmessages] at hentries hfailed hcarries
  have hids : ((messagesOf front).map Message.id).Nodup := by
    rw [hfront, messagesOf_append, List.map_append] at distinct
    exact distinct.of_append_left
  have haccepted : d.batch.accepted.map Prod.fst = ((messagesOf front).filter
      (·.isViable s.env.settings.config.batch s.env.chain.reverting)).map Message.id := by
    rw [well.drains.batch_accepted, List.map_map]
    show (entriesOf log).map (Message.id ∘ Prod.fst) = _
    rw [← List.map_map, hentries]
    rfl
  obtain ⟨hash, links⟩ := well.links
  rw [hledger, hfailed] at links
  obtain ⟨hcompleted, hothers⟩ := links.settles haccepted hids
  -- the drain has included nothing, and what the run has included after it are its calls
  have hr := (SimulatedChain.Reaches.of_quiet well.drains.quiet).trans well.carried.reaches
  obtain ⟨hflat, -⟩ := well.carried.batchCalls tell hp (well.drains.carriable fits)
  refine ⟨front, ts.map SignedRecord.hash, by rw [hfront, well.queue], hk.signed, hr.broadcasts, ?_,
    hcompleted, hothers⟩
  rw [hflat, well.drains.batch_calls]
  exact hcarries

/-! ## As many runs as there are payloads -/

theorem Site.Settled.refl (s : Site (Bench SimulatedChain)) : s.Settled start last s [] [] :=
  ⟨rfl, List.prefix_refl _, by simp, .nil, by simp [messagesOf], fun _ _ => rfl⟩

/-- What is settled in two steps is settled, when no two messages are about the same record. -/
theorem Site.Settled.trans {s₁ s₂ : Site (Bench SimulatedChain)} {front front' : List Bytes}
    {hashes hashes' : List Hash} (h : s.Settled start last s₁ front hashes)
    (h' : s₁.Settled start last s₂ front' hashes')
    (settings : s₁.env.settings = s.env.settings)
    (reverting : s₁.env.chain.reverting = s.env.chain.reverting)
    (distinct : ((messagesOf s.queue.payloads).map Message.id).Nodup) :
    s.Settled start last s₂ (front ++ front') (hashes ++ hashes') := by
  rw [h.queue, h'.queue, messagesOf_append, messagesOf_append, ← List.append_assoc,
    List.map_append, List.map_append] at distinct
  have hdisjoint := List.disjoint_of_nodup_append distinct.of_append_left
  have hcalls := h'.calls
  have hcompleted := h'.completed
  rw [settings, reverting] at hcalls hcompleted
  refine ⟨by rw [h.queue, h'.queue, List.append_assoc], h.signed.trans h'.signed,
    by rw [h'.broadcasts, h.broadcasts, List.append_assoc], ?_, ?_, ?_⟩
  · rw [messagesOf_append, List.filter_append, List.flatMap_append]
    exact List.rel_append h.calls hcalls
  · intro m hm hv hp
    rw [messagesOf_append] at hm
    rcases List.mem_append.mp hm with hm | hm
    · -- what is completed is not touched again
      exact (h.completed m hm hv hp).of_eq
        (h'.others m.id fun hi => hdisjoint (List.mem_map_of_mem hm) hi)
    · exact hcompleted m hm hv (hp.of_eq
        (h.others m.id fun hi => hdisjoint hi (List.mem_map_of_mem hm)))
  · intro id hid
    rw [messagesOf_append, List.map_append, List.mem_append, not_or] at hid
    rw [h'.others id hid.2, h.others id hid.1]

/-- Healthy runs settle the whole queue if there are enough of them. -/
theorem Site.replay_settled (hows : List Schedule) (s : Site (Bench SimulatedChain))
    (healthy : s.Healthy start) (inTurn : ∀ how ∈ hows, how.turns = Turn.rounds)
    (enough : s.queue.payloads.length ≤ hows.length)
    (fits : PayloadsFit s.queue.payloads) (count : s.queue.payloads.length < 2 ^ 32)
    (distinct : ((messagesOf s.queue.payloads).map Message.id).Nodup) (tell : last.HashesTell)
    (hp : (s.replay start (hows.map Event.run)).env.chain.signed <+: last.signed) :
    (s.replay start (hows.map Event.run)).queue.payloads = [] ∧
      ∃ front hashes, s.Settled start last (s.replay start (hows.map Event.run)) front hashes := by
  induction hows generalizing s with
  | nil => exact ⟨List.length_eq_zero_iff.mp (Nat.le_zero.mp enough), [], [], .refl s⟩
  | cons how rest ih =>
    have hr : Runs start how s ((s.run start how).1, (s.run start how).2) :=
      runs start how s healthy.env.relayers
    have hk := hr.keeps.1
    obtain ⟨-, hsigned⟩ := Site.frame_replay (rest.map Event.run) (s.run start how).2
      ((congrArg SimulatedChain.relayers hk.bare :).trans healthy.env.relayers)
    obtain ⟨healthy', progress, front, hashes, settled⟩ := hr.settled healthy
      (inTurn how List.mem_cons_self) fits count distinct tell (hsigned.trans hp)
    have hq := settled.queue
    have hsub : (s.run start how).2.queue.payloads.Sublist s.queue.payloads := by
      rw [hq]
      exact List.sublist_append_right _ _
    have enough' : (s.run start how).2.queue.payloads.length ≤ rest.length := by
      rw [List.length_cons] at enough
      by_cases hne : s.queue.payloads = []
      · have := hsub.length_le
        rw [hne, List.length_nil] at this
        omega
      · have := progress hne
        omega
    obtain ⟨hempty, front', hashes', settled'⟩ := ih (s.run start how).2 healthy'
      (fun h hm => inTurn h (List.mem_cons_of_mem _ hm)) enough' (fits.sublist hsub)
      (Nat.lt_of_le_of_lt hsub.length_le count)
      (distinct.sublist ((hsub.filterMap _).map _)) hp
    exact ⟨hempty, _, _, settled.trans settled' hk.settings
      (congrArg SimulatedChain.reverting hk.bare :) distinct⟩

end Runs

/-- **While all is well, as many runs as there are payloads settle each viable message once:** the
queue is empty, the batches that are broadcast have one call for each of them in the order of the
queue and no other calls, and their records are completed. -/
theorem settles_exactly_once (s : Site (Bench SimulatedChain)) (hows : List Schedule)
    (healthy : s.Healthy s.env.chain) (inTurn : ∀ how ∈ hows, how.turns = Turn.rounds)
    (enough : s.queue.payloads.length ≤ hows.length)
    (fits : PayloadsFit s.queue.payloads) (count : s.queue.payloads.length < 2 ^ 32)
    (distinct : ((messagesOf s.queue.payloads).map Message.id).Nodup)
    (pending : ∀ m ∈ messagesOf s.queue.payloads, s.env.ledger.HasStatus m.id .pending)
    (tell : (s.replay s.env.chain (hows.map Event.run)).env.chain.HashesTell) :
    (s.replay s.env.chain (hows.map Event.run)).queue.payloads = [] ∧
      ∃ hashes viable, (s.replay s.env.chain (hows.map Event.run)).env.chain.broadcasts =
          s.env.chain.broadcasts ++ hashes ∧
        viable = (messagesOf s.queue.payloads).filter
          (·.isViable s.env.settings.config.batch s.env.chain.reverting) ∧
        List.Forall₂ (Carries s.env.chain.managers s.env.settings.config.batch) viable
          (hashes.flatMap (s.replay s.env.chain (hows.map Event.run)).env.chain.batchCalls) ∧
        ∀ m ∈ viable,
          (s.replay s.env.chain (hows.map Event.run)).env.ledger.HasStatus m.id .completed := by
  obtain ⟨hempty, front, hashes, h⟩ := Site.replay_settled hows s healthy inTurn enough fits count
    distinct tell (List.prefix_refl _)
  have hfront : front = s.queue.payloads := by
    rw [h.queue, hempty, List.append_nil]
  subst hfront
  refine ⟨hempty, hashes, _, h.broadcasts, rfl, h.calls, fun m hm => ?_⟩
  obtain ⟨hm, hv⟩ := List.mem_filter.mp hm
  exact h.completed m hm hv (pending m hm)

/-- The four messages that can be carried out are settled by three batches and a permit; the payload
that is no message and the deposit that fails get no call. -/
theorem settles_exactly_once_assorted :
    ∃ s' hashes viable, s' = Site.assorted.replay Site.assorted.env.chain Event.sixRuns ∧
      s'.queue.payloads = [] ∧ s'.env.chain.broadcasts = hashes ∧ hashes.length = 4 ∧
      viable.map Message.id = [⟨1⟩, ⟨2⟩, ⟨3⟩, ⟨5⟩] ∧
      List.Forall₂
        (Carries Site.assorted.env.chain.managers Site.assorted.env.settings.config.batch) viable
        (hashes.flatMap s'.env.chain.batchCalls) ∧
      ∀ m ∈ viable, s'.env.ledger.HasStatus m.id .completed := by
  obtain ⟨hempty, hashes, viable, hb, hviable, hcalls, hcompleted⟩ :=
    settles_exactly_once Site.assorted (List.replicate 6 {}) Site.assorted_healthy
      (fun _ h => List.eq_of_mem_replicate h ▸ rfl) (by decide) Site.assorted_fits (by decide)
      Site.assorted_distinct Site.assorted_pending Site.assorted_tell
  obtain ⟨-, hlength, -⟩ := Site.assorted_runs
  rw [← Site.replay_sixRuns] at hlength
  have hbroadcasts : (Site.assorted.replay Site.assorted.env.chain
      Event.sixRuns).env.chain.broadcasts = hashes := hb
  have hids : viable.map Message.id = [⟨1⟩, ⟨2⟩, ⟨3⟩, ⟨5⟩] := by
    have hbriefs : viable.map Site.brief = Site.briefs.filter Prod.snd := by
      rw [hviable, ← Site.assorted_briefs, List.filter_map]
      rfl
    have h := congrArg (List.map Prod.fst) hbriefs
    rw [List.map_map] at h
    exact h
  exact ⟨_, hashes, viable, rfl, hempty, hbroadcasts, hbroadcasts ▸ hlength, hids, hcalls,
    hcompleted⟩

end PointExchange
