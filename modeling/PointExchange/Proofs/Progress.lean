import PointExchange.Proofs.AllOrNothing
import PointExchange.Proofs.Frame
import PointExchange.Proofs.Healthy
import PointExchange.Proofs.Rounds

/-!
# No message blocks the queue

A drain takes at most as many payloads as there are. While no collaborator fails it takes at least
one, whatever the gas budget and the estimates are: the first message of a batch is alone in its
trial, so it is accepted or dropped. Drains one after another therefore empty the queue
(`drains_empty_the_queue`).
-/

namespace PointExchange

variable {E : Type}

/-- No collaborator fails a drain in an environment with a property, and a drain keeps the property.
An estimate may be any gas or a revert, and the ledger may answer as it likes. -/
structure Collaborators.Obliging (c : Collaborators E) (P : E → Prop) : Prop where
  keeps : c.DrainRespects fun e e' => P e → P e'
  config : ∀ e, P e → ∃ config, c.config e = .ok config ∧
    ∀ n ∈ config.batch.maxMessagesPerRun, 1 ≤ n
  index : ∀ e, P e → ∃ stored, ((c.indices.get .manager).perform e).1 = .ok stored
  address : ∀ i, i < poolModulus (c.gateway.poolSize .manager) →
    ∃ a, c.gateway.addressFor .manager i = .ok a
  nonce : ∀ a e, P e → ∃ nonce, ((c.gateway.signatureNonce a).perform e).1 = .ok nonce
  domain : ∀ e, P e → ∃ domain, (c.gateway.chainDomain.perform e).1 = .ok domain
  sign : ∀ i domain a e, P e → i < poolModulus (c.gateway.poolSize .manager) →
    ∃ signature, ((c.gateway.signDeposit i domain a).perform e).1 = .ok signature
  estimate : ∀ calls e x, P e → ((c.gateway.estimateGas c.gateway.pointManager
    (encodeMulticall calls)).perform e).1 ≠ .error (.unavailable x)

theorem poolModulus_pos (size : UInt64) : 0 < poolModulus size := by
  unfold poolModulus
  split
  · decide
  · exact UInt64.pos_iff_ne_zero.mpr ‹_›

namespace Collaborators.Obliging

variable {c : Collaborators E} {P : E → Prop} {settings : BatchConfig} {m : Message}
  {d : Drafting E} (h : c.Obliging P)

include h

/-- The first deposit of a batch is signed. -/
theorem signs (settings : BatchConfig) (hP : P d.env) (hb : d.batch = {}) (r : DepositRequest) :
    ∃ x d', d.Signs c settings r x d' ∧ P d'.env := by
  obtain ⟨b, e⟩ := d
  obtain rfl : b = {} := hb
  obtain ⟨stored, hstored⟩ := h.index e hP
  have index_lt := UInt64.mod_lt stored (poolModulus_pos (c.gateway.poolSize .manager))
  obtain ⟨manager, address⟩ := h.address _ index_lt
  have hP₁ := h.keeps.getIndex e hP
  obtain ⟨nonce, hnonce⟩ := h.nonce manager _ hP₁
  have hP₂ := h.keeps.signatureNonce manager _ hP₁
  obtain ⟨domain, hdomain⟩ := h.domain _ hP₂
  have hP₃ := h.keeps.chainDomain _ hP₂
  obtain ⟨signature, hsignature⟩ := h.sign _ domain (r.authorization settings manager nonce) _ hP₃
    index_lt
  exact ⟨_, _, .intro _ manager nonce domain signature _ _ _ _
    (.asked stored _ rfl (Prod.ext hstored rfl)) address (.asked nonce _ rfl (Prod.ext hnonce rfl))
    (.asked domain _ rfl (Prod.ext hdomain rfl)) (Prod.ext hsignature rfl),
    h.keeps.signDeposit _ _ _ _ hP₃⟩

/-- There is an estimate, or the calls of the trial revert. -/
theorem estimate_ne (hP : P d.env) (trial : List Bytes) (e : GatewayError) (d' : Drafting E) :
    d.estimate c trial ≠ (.error (.unavailable e), d') := by
  intro answer
  exact h.estimate trial d.env e hP (congrArg Prod.fst answer :)

/-- No collaborator fails before the trial of the first offer. -/
theorem env_of_offers {o : Offer} {d₁ : Drafting E} (hP : P d.env) (hb : d.batch = {})
    (offers : d.Offers c settings m o d₁) : P d₁.env := by
  cases offers with
  | withdraw r permit task => exact hP
  | deposit r x d₁ task signed =>
    obtain ⟨x', d₂, signed', hP₂⟩ := h.signs settings hP hb r
    have hd := (Drafting.perform_authorize_iff.mpr signed').symm.trans
      (Drafting.perform_authorize_iff.mpr signed)
    rwa [(Prod.mk.inj hd).2] at hP₂

/-- **The first message of a batch is accepted or dropped.** -/
theorem settles (hP : P d.env) (hb : d.batch = {}) {res : Except Fault Verdict}
    {d' : Drafting E} (handled : d.handle c settings m = (res, d')) : ¬Unsettled res := by
  cases Drafting.decided handled with
  | rejected => simp [Unsettled]
  | unsigned r fault d₁ task failed =>
    obtain ⟨x, d₂, signed, -⟩ := h.signs settings hP hb r
    simpa using failed.symm.trans (Drafting.perform_authorize_iff.mpr signed)
  | tried o d₁ d₂ v offers tried =>
    cases tried with
    | fits | reverted | oversized => simp [Unsettled]
    | deferred gas d₂ answer above company =>
      -- nothing else is in the batch
      rw [offers.noted.isEmpty, hb] at company
      exact absurd company (by decide)
  | untried o d₁ d₂ fault offers tried =>
    cases tried with
    | unavailable e d₂ answer =>
      exact absurd answer (h.estimate_ne (h.env_of_offers hP hb offers) o.trial e d₂)

end Collaborators.Obliging

/-! ## A drain -/

/-- A drain leaves the queue as available as it was. -/
theorem Course.unavailable {c : Collaborators E} {settings : BatchConfig} {n : Nat}
    {q : MessageQueue} {d : Drafting E} {ending : Ending} {r : Drained E}
    (h : Course c settings n q d ending r) : r.site.queue.unavailable = q.unavailable := by
  induction h with
  | undecodable p rest e room queue decoded next ih => exact ih
  | dropped p rest m d' room queue decoded handled next ih => exact ih
  | accepted p rest m d' d'' room queue decoded handled fits next ih => exact ih
  | halted | full | deferred | failed => rfl

/-- **While no collaborator fails, a drain takes a payload if there is one,** unless its limit is
zero. -/
theorem Course.progress {c : Collaborators E} {P : E → Prop} {settings : BatchConfig}
    {q : MessageQueue} {d : Drafting E} {ending : Ending} {r : Drained E}
    (h : Course c settings 0 q d ending r) (obliging : c.Obliging P) (hP : P d.env)
    (hb : d.batch = {}) (hl : settings.limitReached 0 = false) (hq : q.unavailable = false)
    (hn : q.payloads.length < 2 ^ 32) (hne : q.payloads ≠ []) :
    ∃ k, 0 < k ∧ r.site.queue.payloads = q.payloads.drop k := by
  have hnext : ∀ {p rest n q' d' ending'}, q.payloads = p :: rest → q'.payloads = rest →
      Course c settings n q' d' ending' r →
        ∃ k, 0 < k ∧ r.site.queue.payloads = q.payloads.drop k := by
    intro p rest n q' d' ending' queue queue' next
    obtain ⟨k, accepted, hk⟩ := next.conserves
    refine ⟨k + 1, Nat.succ_pos k, ?_⟩
    rw [hk.payloads, queue', queue, List.drop_succ_cons]
  cases h with
  | halted stop why => exact absurd why (Drains.not_halts hl hq hn hne)
  | undecodable p rest e room queue decoded next => exact hnext queue rfl next
  | dropped p rest m d' room queue decoded handled next => exact hnext queue rfl next
  | accepted p rest m d' d'' room queue decoded handled fits next => exact hnext queue rfl next
  | full p rest m d' d'' stop room queue =>
    refine ⟨1, Nat.one_pos, ?_⟩
    rw [queue]
    rfl
  | deferred p rest m d' gas budget queue decoded handled =>
    exact absurd (.inr ⟨gas, budget, rfl⟩) (obliging.settles hP hb handled)
  | failed p rest m d' fault queue decoded handled =>
    exact absurd (.inl ⟨fault, rfl⟩) (obliging.settles hP hb handled)

/-- A site whose queue can be drained while no collaborator fails. -/
structure Site.Drainable (P : E → Prop) (s : Site E) : Prop where
  env : P s.env
  queue : s.queue.unavailable = false
  length : s.queue.payloads.length < 2 ^ 32

/-- The site after some drains in a row. -/
def Site.afterDrains (c : Collaborators E) (s : Site E) : Nat → Site E
  | 0 => s
  | n + 1 => (s.drain c).site.afterDrains c n

namespace Site.Drainable

variable {c : Collaborators E} {P : E → Prop} {s : Site E} (h : s.Drainable P)
  (obliging : c.Obliging P)

include h obliging

/-- A drain there takes a payload if there is one. -/
theorem progress (hne : s.queue.payloads ≠ []) :
    ∃ k, 0 < k ∧ (s.drain c).site.queue.payloads = s.queue.payloads.drop k := by
  obtain ⟨config, hconfig, limit⟩ := obliging.config s.env h.env
  unfold Site.drain
  rw [hconfig]
  obtain ⟨ending, hc⟩ := course c config.batch 0 s.queue ⟨{}, s.env⟩
  exact hc.progress obliging h.env rfl (BatchConfig.limitReached_zero limit) h.queue h.length hne

/-- A drain leaves such a site behind, with no more payloads. -/
theorem drain : (s.drain c).site.Drainable P ∧
    (s.drain c).site.queue.payloads.length ≤ s.queue.payloads.length := by
  have hP := obliging.keeps.drain s h.env
  obtain ⟨config, hconfig, limit⟩ := obliging.config s.env h.env
  obtain ⟨ending, hc⟩ := course c config.batch 0 s.queue ⟨{}, s.env⟩
  have hdrain : s.drain c = (Drafting.mk {} s.env).drain c config.batch 0 s.queue := by
    rw [Site.drain, hconfig]
  rw [← hdrain] at hc
  obtain ⟨k, accepted, hk⟩ := hc.conserves
  have hle : (s.drain c).site.queue.payloads.length ≤ s.queue.payloads.length := by
    rw [hk.payloads, List.length_drop]
    exact Nat.sub_le _ _
  exact ⟨⟨hP, hc.unavailable.trans h.queue, Nat.lt_of_le_of_lt hle h.length⟩, hle⟩

omit h in
/-- **Drains one after another empty the queue,** one for each payload at most. -/
theorem payloads_afterDrains (n : Nat) (h : s.Drainable P) (hn : s.queue.payloads.length ≤ n) :
    (s.afterDrains c n).queue.payloads = [] := by
  induction n generalizing s with
  | zero => exact List.length_eq_zero_iff.mp (Nat.le_zero.mp hn)
  | succ n ih =>
    obtain ⟨next, hle⟩ := h.drain obliging
    refine ih next ?_
    by_cases hne : s.queue.payloads = []
    · rw [hne, List.length_nil, Nat.le_zero] at hle
      rw [hle]
      exact Nat.zero_le n
    · obtain ⟨k, hk, hdrop⟩ := h.progress obliging hne
      rw [hdrop, List.length_drop]
      omega

end Site.Drainable

/-! ## Over a simulated chain -/

namespace SimulatedChain

variable {start : SimulatedChain}

/-- A call that leaves the chain quiet and changes nothing else keeps all well. -/
theorem Well.keeps {w w' : Bench SimulatedChain} {settings : SharedConfig}
    (chain : w'.chain.quiet = w.chain.quiet) (indices : w'.indices = w.indices)
    (hs : w'.settings = w.settings) (h : w.Well start ∧ w.settings = settings) :
    w'.Well start ∧ w'.settings = settings :=
  ⟨h.1.of_eq chain indices, hs.trans h.2⟩

theorem keyAt_of_lt {i : UInt64} {pool : List Signer} (hne : pool ≠ [])
    (hi : i < poolModulus pool.length.toUInt64) : ∃ k, keyAt .manager pool i = .ok k := by
  have hlt := toNat_mod_poolModulus_lt (List.length_pos_iff.mpr hne) i
  rw [UInt64.mod_eq_of_lt hi] at hlt
  exact ⟨_, keyAt_ok hlt⟩

theorem quiet_signDeposit (c : SimulatedChain) (i : UInt64) (d : SigningDomain)
    (a : DepositAuthorization) : (c.signDeposit i d a).2.quiet = c.quiet := by
  unfold signDeposit
  split <;> rfl

/-- No collaborator fails a drain over a simulated chain while all is well. -/
theorem obliging (start : SimulatedChain) (settings : SharedConfig)
    (some_manager : start.managers ≠ []) (readable : settings.poisoned = false)
    (limit : ∀ n ∈ settings.config.batch.maxMessagesPerRun, 1 ≤ n) :
    start.tools.Obliging fun w => w.Well start ∧ w.settings = settings where
  keeps :=
    { refl := fun _ h => h
      trans := fun h h' hw => h' (h hw)
      chainDomain := fun w => Well.keeps rfl rfl rfl
      signatureNonce := fun a w => Well.keeps rfl rfl rfl
      signDeposit := fun i d a w => Well.keeps (quiet_signDeposit w.chain i d a) rfl rfl
      estimateGas := fun target input w => Well.keeps (quiet_estimate _ _ _) rfl rfl
      getIndex := fun w => Well.keeps rfl rfl rfl
      markFailed := fun id w => Well.keeps rfl rfl rfl }
  config w h := by
    refine ⟨settings.config, ?_, limit⟩
    show SharedConfig.read w.settings = _
    rw [h.2, SharedConfig.read, readable]
    rfl
  index w h := by
    refine ⟨w.indices.manager, ?_⟩
    show w.indices.get .manager = _
    rw [MemoryIndices.get, h.1.indices]
    rfl
  address i hi := by
    obtain ⟨k, hk⟩ := keyAt_of_lt some_manager hi
    exact ⟨k.address, congrArg (Except.map Signer.address) hk⟩
  nonce a w h := ⟨_, rfl⟩
  domain w h := ⟨_, rfl⟩
  sign i domain a w h hi := by
    obtain ⟨k, hk⟩ := keyAt_of_lt some_manager hi
    refine ⟨a.sign k domain, ?_⟩
    show (w.chain.signDeposit i domain a).1 = _
    rw [signDeposit, h.1.managers, hk]
  estimate calls w x h := by
    show (w.chain.estimate pointManager (encodeMulticall calls)).1 ≠ _
    rw [estimate, h.1.estimates]
    exact w.chain.gasOfAll_ne_unavailable _ _ _

end SimulatedChain

/-- **Every drain ends, and no message blocks the queue.** A drain takes a payload at most as often
as there are payloads, whatever the collaborators do. While none of them fails, a drain takes the
first payload at least, and drains one after another empty the queue, whatever the gas budget and
the estimates are. -/
theorem drains_empty_the_queue {E : Type} (c : Collaborators E) :
    (∀ s : Site E, ∃ settings rounds, s.Rounds c settings rounds (s.drain c) ∧
      rounds.countP (Draining.takes settings) ≤ s.queue.payloads.length) ∧
    ∀ P, c.Obliging P → ∀ s : Site E, s.Drainable P →
      (s.queue.payloads ≠ [] →
        ∃ k, 0 < k ∧ (s.drain c).site.queue.payloads = s.queue.payloads.drop k) ∧
      ∀ n, s.queue.payloads.length ≤ n → (s.afterDrains c n).queue.payloads = [] := by
  constructor
  · intro s
    obtain ⟨settings, rounds, h⟩ := s.exists_rounds c
    exact ⟨settings, rounds, h, h.countP_takes⟩
  · intro P obliging s h
    exact ⟨h.progress obliging, fun n hn => Site.Drainable.payloads_afterDrains obliging n h hn⟩

set_option maxRecDepth 100000 in
/-- A drain of the assorted messages takes two of the six payloads there, and so does the next. -/
theorem Site.assorted_drains :
    (assorted.afterDrains assorted.env.chain.tools 1).queue.payloads =
        assorted.queue.payloads.drop 2 ∧
      (assorted.afterDrains assorted.env.chain.tools 2).queue.payloads =
        assorted.queue.payloads.drop 4 := by
  decide +kernel

/-- The assorted messages need several drains, the one that is no message and the one that cannot be
carried out among them. -/
theorem drains_empty_the_queue_assorted :
    let tools := Site.assorted.env.chain.tools
    ∃ P, tools.Obliging P ∧ Site.assorted.Drainable P ∧
      (∃ k, 0 < k ∧ (Site.assorted.drain tools).site.queue.payloads =
        Site.assorted.queue.payloads.drop k) ∧
      (Site.assorted.afterDrains tools 1).queue.payloads.length = 4 ∧
      (Site.assorted.afterDrains tools 2).queue.payloads.length = 2 ∧
      (Site.assorted.afterDrains tools 6).queue.payloads = [] := by
  intro tools
  have healthy := Site.assorted_healthy
  have obliging := SimulatedChain.obliging Site.assorted.env.chain Site.assorted.env.settings
    healthy.env.some_manager healthy.readable healthy.limit
  have drainable : Site.assorted.Drainable fun w =>
      w.Well Site.assorted.env.chain ∧ w.settings = Site.assorted.env.settings :=
    ⟨⟨healthy.env.toWell, rfl⟩, healthy.queue, by decide⟩
  obtain ⟨progress, empty⟩ := (drains_empty_the_queue tools).2 _ obliging _ drainable
  obtain ⟨h₁, h₂⟩ := Site.assorted_drains
  refine ⟨_, obliging, drainable, progress (List.cons_ne_nil _ _), ?_, ?_,
    empty 6 (Nat.le_refl 6)⟩
  · rw [h₁]
    rfl
  · rw [h₂]
    rfl

end PointExchange
