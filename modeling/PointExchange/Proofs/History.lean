import PointExchange.Proofs.Healthy

/-!
# Nonces over a history

Between runs payloads are queued, and collaborators begin to fail or to work again. Over any such
history each manager's nonces are used in their order, each of them once, by the deposits that the
chain has included (`nonces_in_order`). It does not matter how many deposits were signed and then
dropped, deferred, not committed or refused in between.
-/

namespace PointExchange

/-- How the collaborators behave from some time on. -/
structure Conditions where
  reverting : List Address := []
  failingTargets : List Address := []
  rejected : List (Address × UInt64) := []
  stallsNonceGaps : Bool := false
  estimateUnavailable : Bool := false
  queueUnavailable : Bool := false
  failsCommit : Bool := false
  indices : MemoryIndices := {}
  lock : MemoryLock := {}
  settings : SharedConfig := {}

/-- The site under other conditions. -/
def Site.under (s : Site (Bench SimulatedChain)) (k : Conditions) :
    Site (Bench SimulatedChain) where
  queue := { s.queue with unavailable := k.queueUnavailable }
  env :=
    { s.env with
      chain := { s.env.chain with
        reverting := k.reverting
        failingTargets := k.failingTargets
        rejected := k.rejected
        stallsNonceGaps := k.stallsNonceGaps
        estimateUnavailable := k.estimateUnavailable }
      ledger := { s.env.ledger with failsCommit := k.failsCommit }
      indices := k.indices
      lock := k.lock
      settings := k.settings }

/-- What happens at a site. -/
inductive Event
  | enqueue (payload : Bytes)
  | run (how : Schedule)
  | change (k : Conditions)

namespace Event

/-- The site after an event. -/
def apply (start : SimulatedChain) (s : Site (Bench SimulatedChain)) :
    Event → Site (Bench SimulatedChain)
  | enqueue p => { s with queue := s.queue.push p }
  | run how => (s.run start how).2
  | change k => s.under k

end Event

/-- The site after some events. -/
def Site.replay (start : SimulatedChain) (s : Site (Bench SimulatedChain)) (events : List Event) :
    Site (Bench SimulatedChain) :=
  events.foldl (Event.apply start) s

/-! ## Nonces that are used -/

namespace SimulatedChain

/-- Between two chains the deposits among some calls use nonces: of each manager the next ones, in
their order, and no others. -/
structure UsesNonces (keys : List Signer) (c c' : SimulatedChain) (calls : List Bytes) : Prop where
  inOrder (a : Address) : SignedInOrder keys (c.managerNonce a) (depositsBy a calls)
  next (a : Address) :
    c'.managerNonce a = c.managerNonce a + BitVec.ofNat 256 (depositsBy a calls).length

variable {keys : List Signer} {c c₁ c₂ : SimulatedChain}

theorem UsesNonces.of_eq (h : c₁.managerNonce = c.managerNonce) : UsesNonces keys c c₁ [] :=
  ⟨fun _ => trivial, fun a => by simp [h, depositsBy, depositsOf]⟩

theorem UsesNonces.trans {xs ys : List Bytes} (h : UsesNonces keys c c₁ xs)
    (h' : UsesNonces keys c₁ c₂ ys) : UsesNonces keys c c₂ (xs ++ ys) where
  inOrder a := by
    rw [depositsBy_append]
    apply (h.inOrder a).append
    rw [← h.next]
    exact h'.inOrder a
  next a := by
    rw [h'.next, h.next, depositsBy_append, List.length_append, BitVec.ofNat_add, BitVec.add_assoc]

end SimulatedChain

/-- What happens to a chain during a part of a history that ends with `last`: hashes are added, and
the deposits of the batches that they stand for use the next nonces. -/
structure Continues (start c c' last : SimulatedChain) (hashes : List Hash) : Prop where
  broadcasts : c'.broadcasts = c.broadcasts ++ hashes
  nonces : c.UsesNonces start.managers c' (hashes.flatMap last.batchCalls)

namespace Continues

variable {start c c₁ c₂ last : SimulatedChain} {xs ys : List Hash}

theorem trans (h : Continues start c c₁ last xs) (h' : Continues start c₁ c₂ last ys) :
    Continues start c c₂ last (xs ++ ys) where
  broadcasts := by rw [h'.broadcasts, h.broadcasts, List.append_assoc]
  nonces := by
    rw [List.flatMap_append]
    exact h.nonces.trans h'.nonces

theorem refl (start c last : SimulatedChain) : Continues start c c last [] :=
  ⟨by simp, .of_eq rfl⟩

/-- A chain that has included nothing continues the one before. -/
theorem of_quiet (h : c₁.quiet = c.quiet) : Continues start c c₁ last [] where
  broadcasts := by simpa using (SimulatedChain.Reaches.of_quiet h).broadcasts
  nonces := .of_eq (congrArg SimulatedChain.managerNonce h :)

end Continues

/-! ## Runs and histories -/

section Runs

variable {start last : SimulatedChain}

/-- What a batch includes uses the nonces that it was signed with. -/
theorem Carried.continues {w : Bench SimulatedChain} {b : Batch} {c : SimulatedChain}
    {ts : List SignedRecord} {calls : List Bytes} (h : Carried w b c ts calls)
    (tell : last.HashesTell) (hp : c.signed <+: last.signed) (carriable : Carriable b.calls)
    (managers : ∀ d ∈ depositsOf b.calls, b.manager? start = some d.manager)
    (inOrder : ∀ a, b.manager? start = some a →
      SignedInOrder start.managers (w.chain.managerNonce a) (depositsOf b.calls)) :
    Continues start w.chain c last (ts.map SignedRecord.hash) := by
  have hr := h.reaches
  obtain ⟨hflat, hm⟩ := h.batchCalls tell hp carriable
  have hby : ∀ a, depositsBy a calls = [] ∨
      b.manager? start = some a ∧ depositsBy a calls = depositsOf b.calls := by
    intro a
    rcases h.calls_cases with rfl | rfl
    · exact .inl rfl
    · rw [depositsBy_eq managers]
      by_cases ha : b.manager? start = some a
      · exact .inr ⟨ha, if_pos ha⟩
      · exact .inl (if_neg ha)
  refine ⟨hr.broadcasts, ?_⟩
  rw [hflat]
  refine ⟨fun a => ?_, fun a => ?_⟩
  · rcases hby a with he | ⟨ha, he⟩
    · rw [he]
      trivial
    · rw [he]
      exact inOrder a ha
  · rw [hr.managerNonce, hm, count_managers]

/-- **A run uses the next nonces.** -/
theorem Runs.continues {how : Schedule} {s : Site (Bench SimulatedChain)}
    {res : Except Interruption RunOutcome × Site (Bench SimulatedChain)}
    (h : Runs start how s res) (hk : s.env.chain.managers = start.managers)
    (fits : PayloadsFit s.queue.payloads) (tell : last.HashesTell)
    (hp : res.2.env.chain.signed <+: last.signed) :
    ∃ hashes, Continues start s.env.chain res.2.env.chain last hashes := by
  cases h with
  | unreadable | skipped => exact ⟨[], .refl _ _ _⟩
  | idle config l l' log d settings drained drains =>
    exact ⟨[], .of_quiet drains.quiet⟩
  | sent config l l' log d res w settings drained drains empty sends =>
    have hq : d.site.env.chain.quiet = s.env.chain.quiet := drains.quiet
    obtain ⟨managers, inOrder⟩ := drains.signed hk rfl
    obtain ⟨ts, calls, carried⟩ := sends.carried
    have hn : d.site.env.chain.managerNonce = s.env.chain.managerNonce :=
      (congrArg SimulatedChain.managerNonce hq :)
    -- the drain uses no nonce on the chain, so the batch has the next ones
    refine ⟨[] ++ _, (Continues.of_quiet hq).trans
      (carried.continues tell hp (drains.carriable fits) ?_ ?_)⟩
    · rw [drains.batch_calls]
      exact managers
    · rw [drains.batch_calls, hn]
      exact inOrder

/-- A run takes payloads from the front of the queue, if it takes any. -/
theorem Runs.suffix {how : Schedule} {s : Site (Bench SimulatedChain)}
    {res : Except Interruption RunOutcome × Site (Bench SimulatedChain)}
    (h : Runs start how s res) : res.2.queue.payloads <:+ s.queue.payloads := by
  cases h with
  | unreadable | skipped => exact List.suffix_refl _
  | idle config l l' log d settings drained drains =>
    obtain ⟨front, hf, -⟩ := drains.taken
    exact ⟨front, hf.symm⟩
  | sent config l l' log d res w settings drained drains =>
    obtain ⟨front, hf, -⟩ := drains.taken
    exact ⟨front, hf.symm⟩

namespace Event

variable (e : Event) (s : Site (Bench SimulatedChain))

/-- Nothing that happens changes the keys or what was signed before. -/
theorem frame (hr : s.env.chain.relayers = start.relayers) :
    (e.apply start s).env.chain.managers = s.env.chain.managers ∧
      (e.apply start s).env.chain.relayers = s.env.chain.relayers ∧
      s.env.chain.signed <+: (e.apply start s).env.chain.signed := by
  cases e with
  | enqueue | change => exact ⟨rfl, rfl, List.prefix_refl _⟩
  | run how =>
    have hk := (runs start how s hr).keeps.1
    exact ⟨(congrArg SimulatedChain.managers hk.bare :),
      (congrArg SimulatedChain.relayers hk.bare :), hk.signed⟩

/-- **Whatever happens uses the next nonces.** -/
theorem continues (hk : s.env.chain.managers = start.managers)
    (hr : s.env.chain.relayers = start.relayers) (fits : PayloadsFit s.queue.payloads)
    (tell : last.HashesTell) (hp : (e.apply start s).env.chain.signed <+: last.signed) :
    ∃ hashes, Continues start s.env.chain (e.apply start s).env.chain last hashes := by
  cases e with
  | enqueue p => exact ⟨[], .refl _ _ _⟩
  | run how => exact (runs start how s hr).continues hk fits tell hp
  | change k => exact ⟨[], by simp [apply, Site.under], .of_eq rfl⟩

end Event

/-- A history leaves the relayers and what was signed before. -/
theorem Site.frame_replay (events : List Event) (s : Site (Bench SimulatedChain))
    (hr : s.env.chain.relayers = start.relayers) :
    (s.replay start events).env.chain.relayers = start.relayers ∧
      s.env.chain.signed <+: (s.replay start events).env.chain.signed := by
  induction events generalizing s with
  | nil => exact ⟨hr, List.prefix_refl _⟩
  | cons e rest ih =>
    obtain ⟨-, hr', hs⟩ := e.frame s hr
    obtain ⟨hrest, hs'⟩ := ih (e.apply start s) (hr'.trans hr)
    exact ⟨hrest, hs.trans hs'⟩

/-- A history uses the next nonces. -/
theorem Site.replay_continues (events : List Event) (s : Site (Bench SimulatedChain))
    (hk : s.env.chain.managers = start.managers) (hr : s.env.chain.relayers = start.relayers)
    (fits : ∀ before, before <+: events → PayloadsFit (s.replay start before).queue.payloads)
    (tell : last.HashesTell) (hp : (s.replay start events).env.chain.signed <+: last.signed) :
    ∃ hashes, Continues start s.env.chain (s.replay start events).env.chain last hashes := by
  induction events generalizing s with
  | nil => exact ⟨[], .refl _ _ _⟩
  | cons e rest ih =>
    obtain ⟨hk', hr', -⟩ := e.frame s hr
    have fits' : ∀ before, before <+: rest →
        PayloadsFit ((e.apply start s).replay start before).queue.payloads := fun before hb =>
      fits (e :: before) (List.cons_prefix_cons.mpr ⟨rfl, hb⟩)
    obtain ⟨ys, hy⟩ := ih (e.apply start s) (hk'.trans hk) (hr'.trans hr) fits' hp
    obtain ⟨xs, hx⟩ := e.continues s hk hr (fits [] List.nil_prefix) tell
      ((Site.frame_replay rest _ (hr'.trans hr)).2.trans hp)
    exact ⟨xs ++ ys, hx.trans hy⟩

end Runs

/-- **Over any history the nonces of each manager are used in their order, without gaps, once each,
by the deposits that are included; and the next nonce on the chain is the one after them.** -/
theorem nonces_in_order (s : Site (Bench SimulatedChain)) (events : List Event)
    (fits : ∀ before, before <+: events →
      PayloadsFit (s.replay s.env.chain before).queue.payloads)
    (tell : (s.replay s.env.chain events).env.chain.HashesTell) :
    ∃ hashes, (s.replay s.env.chain events).env.chain.broadcasts =
        s.env.chain.broadcasts ++ hashes ∧
      ∀ manager, ∃ deposits, deposits = depositsBy manager
          (hashes.flatMap (s.replay s.env.chain events).env.chain.batchCalls) ∧
        SignedInOrder s.env.chain.managers (s.env.chain.managerNonce manager) deposits ∧
        (s.replay s.env.chain events).env.chain.managerNonce manager =
          s.env.chain.managerNonce manager + BitVec.ofNat 256 deposits.length := by
  obtain ⟨hashes, h⟩ := Site.replay_continues events s rfl rfl fits tell (List.prefix_refl _)
  exact ⟨hashes, h.broadcasts, fun a => ⟨_, rfl, h.nonces.inOrder a, h.nonces.next a⟩⟩

/-- Six runs. -/
def Event.sixRuns : List Event := List.replicate 6 (.run {})

theorem Site.replay_sixRuns (start : SimulatedChain) (s : Site (Bench SimulatedChain)) :
    s.replay start Event.sixRuns = ((((((s.run start {}).2.run start {}).2.run start {}).2.run
      start {}).2.run start {}).2.run start {}).2 := rfl

/-- Runs take payloads from the front of the queue, and nothing else is done to it. -/
theorem Site.suffix_replay_runs {start : SimulatedChain} (events : List Event)
    (s : Site (Bench SimulatedChain)) (hr : s.env.chain.relayers = start.relayers)
    (only : ∀ e ∈ events, ∃ how, e = .run how) :
    (s.replay start events).queue.payloads <:+ s.queue.payloads := by
  induction events generalizing s with
  | nil => exact List.suffix_refl _
  | cons e rest ih =>
    obtain ⟨how, rfl⟩ := only e List.mem_cons_self
    have hr' := ((Event.run how).frame s hr).2.1.trans hr
    have hrest := ih ((Event.run how).apply start s) hr' fun e he =>
      only e (List.mem_cons_of_mem _ he)
    exact hrest.trans (runs start how s hr).suffix

theorem Site.assorted_tell :
    (assorted.replay assorted.env.chain Event.sixRuns).env.chain.HashesTell := by
  obtain ⟨-, -, distinct, -⟩ := assorted_runs
  rw [replay_sixRuns]
  exact .of_nodup distinct

/-- **Two managers take turns over three runs.** The deposits of the first one are signed with the
nonces 0 and 1, the deposit of the second one with the nonce 0. -/
theorem nonces_in_order_assorted :
    ∃ last hashes, last = (Site.assorted.replay Site.assorted.env.chain Event.sixRuns).env.chain ∧
      last.broadcasts = hashes ∧ hashes.length = 4 ∧
      (∃ d₀ d₁, depositsBy (.repeated 7) (hashes.flatMap last.batchCalls) = [d₀, d₁] ∧
        SignedWith Site.assorted.env.chain.managers 0 d₀ ∧
        SignedWith Site.assorted.env.chain.managers 1 d₁ ∧ last.managerNonce (.repeated 7) = 2) ∧
      ∃ d, depositsBy (.repeated 9) (hashes.flatMap last.batchCalls) = [d] ∧
        SignedWith Site.assorted.env.chain.managers 0 d ∧ last.managerNonce (.repeated 9) = 1 := by
  -- runs only take from the queue, so what is left of it fits as all of it does
  have fits : ∀ before, before <+: Event.sixRuns →
      PayloadsFit (Site.assorted.replay Site.assorted.env.chain before).queue.payloads :=
    fun before hb => Site.assorted_fits.sublist (Site.suffix_replay_runs before _ rfl fun e he =>
      ⟨_, List.eq_of_mem_replicate (hb.subset he)⟩).sublist
  obtain ⟨hashes, hb, hm⟩ := nonces_in_order Site.assorted Event.sixRuns fits Site.assorted_tell
  obtain ⟨-, hlength, -, hfirst, hsecond⟩ := Site.assorted_runs
  rw [← Site.replay_sixRuns] at hlength hfirst hsecond
  have hbroadcasts : (Site.assorted.replay Site.assorted.env.chain
      Event.sixRuns).env.chain.broadcasts = hashes := hb
  rw [hbroadcasts] at hlength hfirst hsecond
  refine ⟨_, hashes, rfl, hbroadcasts, hlength, ?_, ?_⟩
  · obtain ⟨deposits, hd, inOrder, next⟩ := hm (.repeated 7)
    obtain ⟨d₀, d₁, htwo⟩ := List.length_eq_two.mp hfirst
    rw [← hd] at htwo
    subst htwo
    exact ⟨d₀, d₁, hd.symm, inOrder.1, inOrder.2.1, next⟩
  · obtain ⟨deposits, hd, inOrder, next⟩ := hm (.repeated 9)
    obtain ⟨d, hone⟩ := List.length_eq_one_iff.mp hsecond
    rw [← hd] at hone
    subst hone
    exact ⟨d, hd.symm, inOrder.1, next⟩

end PointExchange
