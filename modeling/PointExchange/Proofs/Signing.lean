import PointExchange.Proofs.Frame
import PointExchange.Proofs.Run

/-!
# Who signs what

Everything that a run signs is signed by one relayer and, if it is a deposit, by one manager: those
whose turn it is when the run begins. A transaction goes to the point manager with the calls of the
batch or to the point token with one of its permits, and its gas limit is what the chain estimates
for it.

The chain remembers what was signed (`signed`, `signedDeposits`), so this is told as a relation
between the benches before and after, which every call of a run respects.
-/

namespace PointExchange

/-! ## Estimates -/

namespace SimulatedChain

theorem gasOfAll_congr {c c' : SimulatedChain} (h : ∀ call, c'.gasOf call = c.gasOf call)
    (calls : List Bytes) (total : UInt64) : c'.gasOfAll calls total = c.gasOfAll calls total := by
  induction calls generalizing total with
  | nil => rfl
  | cons call rest ih =>
    unfold gasOfAll
    rw [h call]
    cases c.gasOf call with
    | ok gas => exact ih _
    | error e => rfl

/-- An estimate does not depend on what runs leave behind. -/
theorem estimate_bare (c : SimulatedChain) (target : Address) (input : Bytes) :
    (c.bare.estimate target input).1 = (c.estimate target input).1 := by
  unfold estimate
  rw [show c.bare.estimateUnavailable = c.estimateUnavailable from rfl]
  by_cases h : c.estimateUnavailable = true
  · rw [if_pos h, if_pos h]
  · rw [if_neg h, if_neg h]
    by_cases ht : target = pointToken
    · rw [if_pos ht, if_pos ht]
    · rw [if_neg ht, if_neg ht]
      have hgas : ∀ call, c.bare.gasOf call = c.gasOf call := fun _ => rfl
      exact gasOfAll_congr hgas (callsOf input) baseGas

theorem estimate_congr {c c' : SimulatedChain} (h : c'.bare = c.bare) (target : Address)
    (input : Bytes) : (c'.estimate target input).1 = (c.estimate target input).1 := by
  rw [← estimate_bare c', h, estimate_bare c]

theorem bare_estimate (c : SimulatedChain) (target : Address) (input : Bytes) :
    (c.estimate target input).2.bare = c.bare := by
  rw [bare, quiet_estimate, bare]

theorem signed_estimate (c : SimulatedChain) (target : Address) (input : Bytes) :
    (c.estimate target input).2.signed = c.signed :=
  (congrArg signed (c.quiet_estimate target input) :)

theorem signedDeposits_estimate (c : SimulatedChain) (target : Address) (input : Bytes) :
    (c.estimate target input).2.signedDeposits = c.signedDeposits := by
  unfold estimate
  split
  · rfl
  · split <;> rfl

end SimulatedChain

/-! ## Transactions -/

/-- A transaction that is signed with a relayer's key for a batch. -/
structure SignedRecord.SignedFor (t : SignedRecord) (relayer : UInt64) (b : Batch)
    (c : SimulatedChain) : Prop where
  key : t.relayerIndex = relayer
  purpose : (t.request.target = SimulatedChain.pointToken ∧ t.request.input ∈ b.permits) ∨
    (t.request.target = SimulatedChain.pointManager ∧
      t.request.input = encodeMulticall b.calls ∧ b.calls ≠ [])
  gas : (c.estimate t.request.target t.request.input).1 = .ok t.request.gasLimit

namespace Bench

/-- From the first bench to the second one, transactions were signed for a batch with one relayer's
key and no authorisations, and the indices have stayed. -/
structure SignsFor (relayer : UInt64) (b : Batch) (w w' : Bench SimulatedChain) : Prop where
  bare : w'.chain.bare = w.chain.bare
  indices : w'.indices = w.indices
  deposits : w'.chain.signedDeposits = w.chain.signedDeposits
  signed : ∃ ts, w'.chain.signed = w.chain.signed ++ ts ∧ ∀ t ∈ ts, t.SignedFor relayer b w.chain

namespace SignsFor

variable {start : SimulatedChain} {relayer : UInt64} {b : Batch}

/-- Nothing was signed. -/
theorem of_none {w w' : Bench SimulatedChain} (bare : w'.chain.bare = w.chain.bare)
    (indices : w'.indices = w.indices)
    (deposits : w'.chain.signedDeposits = w.chain.signedDeposits)
    (signed : w'.chain.signed = w.chain.signed) : SignsFor relayer b w w' :=
  ⟨bare, indices, deposits, [], by rw [signed, List.append_nil], by simp⟩

theorem progression : Progression (SignsFor relayer b) where
  refl w := of_none rfl rfl rfl rfl
  trans := by
    rintro w₁ w₂ w₃ ⟨hb, hi, hd, ts, hs, ht⟩ ⟨hb', hi', hd', us, hs', hu⟩
    refine ⟨hb'.trans hb, hi'.trans hi, hd'.trans hd, ts ++ us, ?_, ?_⟩
    · rw [hs', hs, List.append_assoc]
    · intro t htu
      rcases List.mem_append.mp htu with h | h
      · exact ht t h
      · obtain ⟨key, purpose, gas⟩ := hu t h
        exact ⟨key, purpose, (SimulatedChain.estimate_congr hb _ _).symm.trans gas⟩

theorem prepare {target : Address} {input : Bytes} (nonce : UInt64)
    (hp : (target = SimulatedChain.pointToken ∧ input ∈ b.permits) ∨
      (target = SimulatedChain.pointManager ∧ input = encodeMulticall b.calls ∧ b.calls ≠ [])) :
    (start.tools.gateway.prepare relayer target input nonce).Respects (SignsFor relayer b) := by
  intro w
  have hquiet : SignsFor relayer b w (w.withChain (w.chain.estimate target input).2) :=
    of_none (w.chain.bare_estimate target input) rfl
      (w.chain.signedDeposits_estimate target input) (w.chain.signed_estimate target input)
  unfold Gateway.prepare
  rw [Call.perform_bind, Call.perform_orElse, perform_estimateGas]
  cases he : (w.chain.estimate target input).1 with
  | error x => exact hquiet
  | ok gas =>
    -- price and number of the chain are known; what is left is the signature
    show SignsFor relayer b w (((start.tools.gateway.signTransaction relayer
      ⟨target, input, gas, 1000000000, nonce, SimulatedChain.number⟩).orElse
        RunError.gateway).perform (w.withChain (w.chain.estimate target input).2)).2
    have hsign : (start.tools.gateway.signTransaction relayer
        ⟨target, input, gas, 1000000000, nonce, SimulatedChain.number⟩).Respects
          fun v v' => v.chain.bare = w.chain.bare → SignsFor relayer b v v' := by
      intro v hv
      rw [perform_signTransaction, SimulatedChain.signTransaction]
      cases keyAt .relayer v.chain.relayers relayer with
      | error e => exact progression.refl v
      | ok signer =>
        refine ⟨rfl, rfl, rfl, [_], rfl, ?_⟩
        intro t ht
        rw [List.mem_singleton.mp ht]
        exact ⟨rfl, hp, (SimulatedChain.estimate_congr hv _ _).trans he⟩
    exact progression.trans hquiet (Call.Respects.orElse hsign _ _ hquiet.bare)

theorem submit (raw : Bytes) : (start.tools.gateway.submit raw).Respects (SignsFor relayer b) := by
  intro w
  rw [perform_submit]
  have hs := SimulatedChain.submitted w.chain raw
  obtain ⟨ts, hr, -⟩ := hs.reaches
  have hd : (w.chain.submit raw).2.signedDeposits = w.chain.signedDeposits := by
    generalize w.chain.submit raw = res at hs
    cases hs <;> rfl
  exact of_none hr.bare rfl hd hs.signed

/-- **All that sending a batch signs is signed for it, by its relayer.** -/
theorem sendRespects (start : SimulatedChain) (relayer : UInt64) (b : Batch) :
    start.tools.SendRespects relayer b (SignsFor relayer b) where
  toProgression := progression
  count _ w := progression.refl w
  permit nonce _ hp := prepare nonce (.inl ⟨rfl, hp⟩)
  batch nonce calls := prepare nonce (.inr ⟨rfl, rfl, calls⟩)
  commit _ _ := of_none rfl rfl rfl rfl
  submit raw := submit raw
  confirm _ w := progression.refl w

end SignsFor
end Bench

/-! ## Authorisations -/

/-- From the first drafting to the second one, authorisations were signed by one manager only, and
neither the manager of the batch nor the indices have changed. -/
structure Drafting.SignsAs (manager : UInt64) (d d' : Drafting (Bench SimulatedChain)) : Prop where
  same : d'.batch.managerIndex = d.batch.managerIndex
  indices : d'.env.indices = d.env.indices
  deposits : ∃ ds, d'.env.chain.signedDeposits = d.env.chain.signedDeposits ++ ds ∧
    ∀ x ∈ ds, x.1 = manager

namespace Drafting.SignsAs

variable {start : SimulatedChain} {manager : UInt64}

/-- Nothing was signed. -/
theorem of_none {d d' : Drafting (Bench SimulatedChain)}
    (same : d'.batch.managerIndex = d.batch.managerIndex)
    (indices : d'.env.indices = d.env.indices)
    (deposits : d'.env.chain.signedDeposits = d.env.chain.signedDeposits) :
    SignsAs manager d d' :=
  ⟨same, indices, [], by rw [deposits, List.append_nil], by simp⟩

theorem handleRespects (start : SimulatedChain) (manager : UInt64) :
    HandleRespects start.tools (SignsAs manager) where
  refl d := of_none rfl rfl rfl
  trans := by
    rintro d₁ d₂ d₃ ⟨hm, hi, ds, hs, hd⟩ ⟨hm', hi', es, hs', he⟩
    refine ⟨hm'.trans hm, hi'.trans hi, ds ++ es, by rw [hs', hs, List.append_assoc], ?_⟩
    intro x hx
    rcases List.mem_append.mp hx with h | h
    · exact hd x h
    · exact he x h
  amend _ hf d := of_none (hf d.batch) rfl rfl
  chainDomain _ := of_none rfl rfl rfl
  signatureNonce _ _ _ := of_none rfl rfl rfl
  estimateGas target input d :=
    of_none rfl rfl (d.env.chain.signedDeposits_estimate target input)
  failing _ _ _ := of_none rfl rfl rfl

theorem signDeposit (domain : SigningDomain) (a : DepositAuthorization) :
    (call (start.tools.gateway.signDeposit manager domain a) GatewayError.chain).Respects
      (SignsAs manager) := by
  intro d
  rw [perform_call, perform_signDeposit, SimulatedChain.signDeposit]
  cases keyAt .manager d.env.chain.managers manager with
  | error e => exact of_none rfl rfl rfl
  | ok signer =>
    refine ⟨rfl, rfl, [(manager, a.nonce)], rfl, ?_⟩
    intro x hx
    rw [List.mem_singleton.mp hx]

end Drafting.SignsAs

/-- The index that a batch has for its manager, if it has one, is the one whose turn it is. -/
def Batch.TurnOf (start : SimulatedChain) (b : Batch) (x : MemoryIndices) : Prop :=
  ∀ j, b.managerIndex = some j → j = x.manager % poolModulus (start.gateway.poolSize .manager)

/-- What becomes of manager and authorisations when messages are handled, some of which may be
deposits. -/
structure Drafting.Authorizes (start : SimulatedChain) (deposits : Bool)
    (d d' : Drafting (Bench SimulatedChain)) : Prop where
  indices : d'.env.indices = d.env.indices
  turn : d'.batch.TurnOf start d.env.indices
  signed : ∃ ds, d'.env.chain.signedDeposits = d.env.chain.signedDeposits ++ ds ∧
    ∀ x ∈ ds, x.1 = d.env.indices.manager % poolModulus (start.gateway.poolSize .manager)
  settled : d.env.indices.unavailable = false →
    d'.batch.managerIndex.isSome = (d.batch.managerIndex.isSome || deposits)

namespace Drafting.Authorizes

variable {start : SimulatedChain} {settings : BatchConfig}
  {d d₁ d' : Drafting (Bench SimulatedChain)} {x y : Bool}

theorem of_signsAs (turn : d.batch.TurnOf start d.env.indices)
    (h : SignsAs (d.env.indices.manager % poolModulus (start.gateway.poolSize .manager)) d d') :
    Authorizes start false d d' where
  indices := h.indices
  turn := by
    unfold Batch.TurnOf
    rw [h.same]
    exact turn
  signed := h.deposits
  settled _ := by rw [h.same, Bool.or_false]

theorem trans (h : Authorizes start x d d₁) (h' : Authorizes start y d₁ d') :
    Authorizes start (x || y) d d' := by
  obtain ⟨hi, -, ⟨ds, hs, hd⟩, hsome⟩ := h
  obtain ⟨hi', ht', ⟨es, hs', he⟩, hsome'⟩ := h'
  rw [hi] at hi' ht' he hsome'
  refine ⟨hi', ht', ⟨ds ++ es, by rw [hs', hs, List.append_assoc], ?_⟩, fun hu => ?_⟩
  · intro z hz
    rcases List.mem_append.mp hz with h | h
    · exact hd z h
    · exact he z h
  · rw [hsome' hu, hsome hu, Bool.or_assoc]

/-- **Handling a message settles who the manager is just when it is a deposit,** and nobody else
signs it. -/
theorem handle {m : Message} {res : Except Fault Verdict}
    (turn : d.batch.TurnOf start d.env.indices)
    (handled : d.handle start.tools settings m = (res, d')) :
    Authorizes start m.isDeposit d d' := by
  have hr := SignsAs.handleRespects start
    (d.env.indices.manager % poolModulus (start.gateway.poolSize .manager))
  by_cases hm : ∃ r, m.request = .ok (.deposit r)
  · obtain ⟨r, hreq⟩ := hm
    rw [Message.isDeposit_eq_true.mpr ⟨r, hreq⟩]
    rcases managerIndex_cases start d.batch d.env with ⟨f, hu, -, h⟩ | ⟨i, picks, h⟩
    · -- the index cannot be read, so nothing is signed
      have hsame : SignsAs (d.env.indices.manager %
          poolModulus (start.gateway.poolSize .manager)) d d' := by
        refine hr.handle (fun r' _ => ?_) (fun _ => hr.refl d) handled
        unfold Drafting.deposit
        rw [Call.perform_bind_error h]
        exact hr.refl d
      have hd := of_signsAs turn hsame
      exact ⟨hd.indices, hd.turn, hd.signed, fun hu' => by simp [hu] at hu'⟩
    · have hi : i = d.env.indices.manager % poolModulus (start.gateway.poolSize .manager) := by
        cases picks with
        | settled hb => exact turn i hb
        | fresh stored _ hs hi =>
          unfold MemoryIndices.get at hs
          split at hs
          · simp at hs
          · rw [hi, Except.ok.inj hs]
      have hsame : SignsAs i ⟨{ d.batch with managerIndex := some i }, d.env⟩ d' := by
        have hr := SignsAs.handleRespects start i
        refine hr.handle (fun r' _ => hr.deposit h fun _ _ => SignsAs.signDeposit _ _) ?_ handled
        exact fun hno => absurd (Task.ofMessage_deposit_iff.mpr hreq) (hno r)
      refine ⟨hsame.indices, ?_, ?_, fun _ => ?_⟩
      · intro j hj
        rw [hsame.same] at hj
        exact (Option.some.inj hj).symm.trans hi
      · rw [← hi]
        exact hsame.deposits
      · rw [hsame.same, Bool.or_true]
        rfl
  · have hfalse : m.isDeposit = false := by
      rw [← Bool.not_eq_true, Message.isDeposit_eq_true]
      exact hm
    rw [hfalse]
    refine of_signsAs turn (hr.handle (fun r hr' => ?_) (fun _ => hr.refl d) handled)
    exact absurd ⟨r, Task.ofMessage_deposit_iff.mp hr'⟩ hm

theorem checkBudget {budget : UInt64} {stop : Option StopReason}
    (turn : d.batch.TurnOf start d.env.indices)
    (checked : d.checkBudget start.tools budget = (stop, d')) : Authorizes start false d d' :=
  of_signsAs turn ((SignsAs.handleRespects start _).checkBudget checked)

end Drafting.Authorizes

/-! ## What a drain takes -/

section Course

variable {start : SimulatedChain} {settings : BatchConfig} {n : Nat} {q : MessageQueue}
  {d : Drafting (Bench SimulatedChain)} {ending : Ending} {r : Drained (Bench SimulatedChain)}

theorem Course.settled_le (h : Course start.tools settings n q d ending r) :
    q.settled ≤ r.site.queue.settled := by
  induction h with
  | halted => exact Nat.le_refl _
  | undecodable p rest e room queue decoded next ih =>
    simp only [MessageQueue.settled] at ih ⊢
    omega
  | dropped p rest m d' room queue decoded handled next ih =>
    simp only [MessageQueue.settled] at ih ⊢
    omega
  | accepted p rest m d' d'' room queue decoded handled fits next ih =>
    simp only [MessageQueue.settled] at ih ⊢
    omega
  | full | deferred | failed =>
    simp only [MessageQueue.settled, Drafting.close]
    omega

/-- A drain that begins by taking a message for good. -/
theorem any_delivered_cons {q q' : MessageQueue} {p : Bytes} {m : Message} (q₁ : MessageQueue)
    (queue : q.payloads = p :: q₁.payloads) (decoded : Message.decode p = .ok m)
    (one : q₁.settled = q.settled + 1) (le : q₁.settled ≤ q'.settled) :
    (q.delivered q').any Message.isDeposit =
      (m.isDeposit || (q₁.delivered q').any Message.isDeposit) := by
  rw [MessageQueue.delivered_cons q₁ queue one le, messagesOf_cons_ok decoded]
  rfl

/-- A drain that ends by putting a message back. -/
theorem any_delivered_requeued {q : MessageQueue} {p : Bytes} {rest : List Bytes} {m : Message}
    (queue : q.payloads = p :: rest) (decoded : Message.decode p = .ok m) :
    (q.delivered { q with requeued := q.requeued + 1 }).any Message.isDeposit = m.isDeposit := by
  have hone : ({ q with requeued := q.requeued + 1 } : MessageQueue).settled - q.settled = 1 := by
    simp only [MessageQueue.settled]
    omega
  rw [MessageQueue.delivered, hone, queue, List.take_succ_cons, messagesOf_cons_ok decoded]
  simp [messagesOf]

/-- **A drain settles who the manager is just when it takes a deposit,** and nobody else signs. -/
theorem Course.authorizes (h : Course start.tools settings n q d ending r)
    (turn : d.batch.TurnOf start d.env.indices) :
    Drafting.Authorizes start ((q.delivered r.site.queue).any Message.isDeposit) d
      ⟨r.batch, r.site.env⟩ := by
  have hrefl : ∀ {d : Drafting (Bench SimulatedChain)}, d.batch.TurnOf start d.env.indices →
      Drafting.Authorizes start false d d := fun turn =>
    .of_signsAs turn ((Drafting.SignsAs.handleRespects start _).refl _)
  -- the turn is the same after every message, since the indices are
  have hturn : ∀ {x : Bool} {d d' : Drafting (Bench SimulatedChain)},
      Drafting.Authorizes start x d d' → d'.batch.TurnOf start d'.env.indices := fun h => by
    rw [h.indices]
    exact h.turn
  induction h with
  | @halted n q d stop why =>
    rw [show (d.close q stop).site.queue = q from rfl, MessageQueue.delivered_self]
    exact hrefl turn
  | @undecodable n q d ending r p rest e room queue decoded next ih =>
    rw [MessageQueue.delivered_cons { q with
        payloads := rest, deadLettered := q.deadLettered + 1 } queue rfl next.settled_le,
      messagesOf_cons_error decoded]
    exact ih turn
  | @dropped n q d ending r p rest m d' room queue decoded handled next ih =>
    rw [any_delivered_cons _ queue decoded ?_ next.settled_le]
    · have hm := Drafting.Authorizes.handle turn handled
      exact hm.trans (ih (hturn hm))
    · simp only [MessageQueue.settled]
      omega
  | @accepted n q d ending r p rest m d' d'' room queue decoded handled fits next ih =>
    rw [any_delivered_cons _ queue decoded ?_ next.settled_le]
    · have hm := Drafting.Authorizes.handle turn handled
      have hb := Drafting.Authorizes.checkBudget (hturn hm) fits
      exact hm.trans (hb.trans (ih (hturn hb)))
    · simp only [MessageQueue.settled]
      omega
  | @full n q d p rest m d' d'' stop room queue decoded handled full =>
    rw [Drafting.close, any_delivered_cons { q with payloads := rest, acked := q.acked + 1 } queue
      decoded ?_ (Nat.le_refl _), MessageQueue.delivered_self]
    · have hm := Drafting.Authorizes.handle turn handled
      exact hm.trans (Drafting.Authorizes.checkBudget (hturn hm) full)
    · simp only [MessageQueue.settled]
      omega
  | @deferred n q d p rest m d' gas budget queue decoded handled =>
    rw [Drafting.close, any_delivered_requeued queue decoded]
    exact Drafting.Authorizes.handle turn handled
  | @failed n q d p rest m d' fault queue decoded handled =>
    rw [Drafting.close, any_delivered_requeued queue decoded]
    exact Drafting.Authorizes.handle turn handled

end Course

/-! ## A run -/

/-- What a run comes to, when its drain is told by the draining of a batch that is empty at
first. -/
inductive Site.Comes (start : SimulatedChain) (how : Schedule) (s : Site (Bench SimulatedChain)) :
    Except Interruption RunOutcome × Site (Bench SimulatedChain) → Prop
  | unreadable (e : ConfigError) : Comes start how s (.error (.failed (.config e)), s)
  | skipped (l : MemoryLock) :
    Comes start how s (.ok .skipped, { s with env := s.env.withLock l })
  | idle (config : Config) (l l' : MemoryLock) (d : Drained (Bench SimulatedChain))
    (settings : s.env.settings.read = .ok config)
    (drained : s.drained start how = some d)
    (drain : (Drafting.mk {} (s.env.withLock l)).drain start.tools config.batch 0 s.queue = d)
    (empty : d.batch.isEmpty = true) :
    Comes start how s (.ok (.idle d.stop), ⟨d.site.queue, d.site.env.withLock l'⟩)
  | sent (config : Config) (l l' : MemoryLock) (d : Drained (Bench SimulatedChain))
    (res : Except Interruption RunReport) (w : Bench SimulatedChain)
    (settings : s.env.settings.read = .ok config)
    (drained : s.drained start how = some d)
    (drain : (Drafting.mk {} (s.env.withLock l)).drain start.tools config.batch 0 s.queue = d)
    (empty : d.batch.isEmpty = false)
    (sent : (Runner.send start.tools how.turns d.batch d.stop).perform d.site.env = (res, w)) :
    Comes start how s (res.map .completed, ⟨d.site.queue, w.withLock l'⟩)

theorem Site.drain_eq {config : Config} (start : SimulatedChain) (s : Site (Bench SimulatedChain))
    (settings : s.env.settings.read = .ok config) :
    s.drain start.tools = (Drafting.mk {} s.env).drain start.tools config.batch 0 s.queue := by
  rw [Site.drain, show start.tools.config s.env = s.env.settings.read from rfl, settings]

/-- A run that can read its settings waits for the lock, and drains the queue if it gets it. The
draining is that of a batch that is empty at first. -/
theorem Site.drained_of_read (start : SimulatedChain) (how : Schedule)
    (s : Site (Bench SimulatedChain)) {config : Config}
    (settings : s.env.settings.read = .ok config) :
    ∃ a g l, (start.runnerOf how).start s = .ok a ∧
      a.run (start.runnerOf how).lock (Bench.pausing how) s.env = (.ok g, s.env.withLock l) ∧
      s.drained start how = g.map fun _ =>
        (Drafting.mk {} (s.env.withLock l)).drain start.tools config.batch 0 s.queue := by
  have hstart := Runner.start_ok (r := start.runnerOf how) settings
  obtain ⟨g, l, ha, -⟩ := acquisition_env start how ⟨config.scheduler.lockResource,
    config.scheduler.lockTtlMs.toNat, config.scheduler.lockRetryDelayMs.toNat,
    config.scheduler.lockRetryCount.toNat⟩ s.env
  refine ⟨_, g, l, hstart, ha, ?_⟩
  unfold Site.drained
  rw [hstart]
  simp only [ha]
  cases g with
  | none => rfl
  | some g => exact congrArg some (Site.drain_eq start { s with env := s.env.withLock l } settings)

/-- A run that finds the lock free drains the queue at once. -/
theorem Site.drained_of_free (start : SimulatedChain) (how : Schedule)
    {s : Site (Bench SimulatedChain)} {config : Config}
    (settings : s.env.settings.read = .ok config)
    (free : s.env.lock.isHeld config.scheduler.lockResource = false) :
    let l := (s.env.lock.acquire config.scheduler.lockResource
      config.scheduler.lockTtlMs.toNat).2
    s.drained start how = some
      ((Drafting.mk {} (s.env.withLock l)).drain start.tools config.batch 0 s.queue) := by
  intro l
  obtain ⟨g, granted, -⟩ := MemoryLock.acquire_of_free config.scheduler.lockTtlMs.toNat free
  unfold Site.drained
  rw [Runner.start_ok (r := start.runnerOf how) settings]
  simp only
  rw [Acquisition.run, Acquisition.attempt, perform_acquire, granted]
  exact congrArg some (Site.drain_eq start { s with env := s.env.withLock l } settings)

theorem Site.drain_of_drained {start : SimulatedChain} {how : Schedule}
    {s : Site (Bench SimulatedChain)} {d : Drained (Bench SimulatedChain)}
    (drained : s.drained start how = some d) :
    ∃ config l, s.env.settings.read = .ok config ∧
      (Drafting.mk {} (s.env.withLock l)).drain start.tools config.batch 0 s.queue = d := by
  cases hc : s.env.settings.read with
  | error e =>
    unfold Site.drained at drained
    rw [Runner.start_error hc] at drained
    simp at drained
  | ok config =>
    obtain ⟨-, g, l, -, -, hd⟩ := s.drained_of_read start how hc
    rw [hd] at drained
    cases g with
    | none => simp at drained
    | some g => exact ⟨config, l, rfl, Option.some.inj drained⟩

theorem Site.comes (start : SimulatedChain) (how : Schedule) (s : Site (Bench SimulatedChain)) :
    s.Comes start how (s.run start how) := by
  cases hc : s.env.settings.read with
  | error e =>
    rw [Site.run, Runner.runOnce, Runner.start_error hc]
    exact .unreadable e
  | ok config =>
    obtain ⟨a, g, l, hstart, ha, hdrained⟩ := s.drained_of_read start how hc
    rw [Site.run, Runner.runOnce, hstart]
    simp only [ha]
    cases g with
    | none => exact .skipped l
    | some g =>
      have hdrain := Site.drain_eq start { s with env := s.env.withLock l } hc
      obtain ⟨l', hl, -⟩ := finish_eq start how g { s with env := s.env.withLock l }
      rw [hl, locked_of_drain start how hdrain]
      rw [Option.map_some] at hdrained
      generalize hd : (Drafting.mk {} (s.env.withLock l)).drain start.tools config.batch 0
        s.queue = d at hdrained ⊢
      by_cases he : d.batch.isEmpty = true
      · rw [if_pos he]
        exact .idle config l l' d hc hdrained hd he
      · rw [if_neg he]
        exact .sent config l l' d _ _ hc hdrained hd (by simpa using he) rfl

end PointExchange
