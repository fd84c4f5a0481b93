import PointExchange.Proofs.Rotation
import PointExchange.Proofs.Rounds

/-!
# The gas budget

No batch is signed whose gas limit is over the budget (`budget_is_kept`). Three lists of calls are
estimated on the way there, and none of them is what is signed in the end: the trial of a deposit,
which leaves the permits out, the trial of a withdrawal, which has them behind the calls, and the
batch after an acceptance, which has them in front. What carries over from one to the next is only
how many calls there are, and a trial has more calls than the batch it is made for.

## Rounds

This is about what a drain has in hand while it is under way, so a drain is told here by its rounds.
A queue is found empty at every multiple of 2³² payloads, so however many there are, a drain takes
fewer than 2³² of them, and the gas of a batch does not overflow.
-/

namespace PointExchange

/-! ## Rounds -/

namespace Draining

variable {E : Type} {c : Collaborators E} {settings : BatchConfig} {x : Draining E}

/-- The drain takes another payload after the next one; each payload that it takes is settled. -/
def TakesAnother (c : Collaborators E) (settings : BatchConfig) (x : Draining E) : Prop :=
  x.queue.settled + 1 < (x.drain c settings).site.queue.settled

instance : Decidable (x.TakesAnother c settings) := inferInstanceAs (Decidable (_ < _))

/-- If a drain takes another payload after it has accepted a message, the queue was not found empty
before and the batch was not over the budget in between. -/
theorem TakesAnother.checked (another : x.TakesAnother c settings) {p : Bytes} {rest : List Bytes}
    {m : Message} {joined : Drafting E} (queue : x.queue.payloads = p :: rest)
    (decoded : Message.decode p = .ok m)
    (handled : x.drafting.handle c settings m = (.ok .accepted, joined)) :
    UInt32.ofNat x.queue.payloads.length ≠ 0 ∧
      (joined.checkBudget c settings.gasBudget).1 = none := by
  have hg := x.goes c settings
  rw [TakesAnother, drain_eq_round] at another
  generalize x.round c settings = out at hg another
  cases hg with
  | halts | returned | full =>
    simp only [Sum.elim_inl, id, Drafting.close, MessageQueue.settled] at another
    omega
  | undecodable p' rest' e deep queue' decoded' =>
    obtain ⟨rfl, rfl⟩ := List.cons.inj (queue'.symm.trans queue)
    rw [decoded] at decoded'
    exact absurd decoded' (by simp)
  | dropped p' rest' m' d deep queue' decoded' handled' =>
    obtain ⟨rfl, rfl⟩ := List.cons.inj (queue'.symm.trans queue)
    obtain rfl := Except.ok.inj (decoded'.symm.trans decoded)
    rw [handled] at handled'
    exact absurd (Prod.mk.inj handled').1 (by simp)
  | accepted p' rest' m' d d' deep queue' decoded' handled' checked =>
    obtain ⟨rfl, rfl⟩ := List.cons.inj (queue'.symm.trans queue)
    obtain rfl := Except.ok.inj (decoded'.symm.trans decoded)
    obtain rfl := (Prod.mk.inj (handled'.symm.trans handled)).2
    exact ⟨deep, by rw [checked]⟩

end Draining

/-! ## Estimates -/

namespace SimulatedChain

variable {c : SimulatedChain} {calls : List Bytes}

/-- **An estimate tells how many calls there are,** if there is one. -/
theorem toNat_of_estimate {gas : UInt64} (hc : Carriable calls) (hn : calls.length ≤ 2 ^ 33)
    (h : (c.estimate pointManager (encodeMulticall calls)).1 = .ok gas) :
    gas.toNat = batchGas calls.length := by
  rw [estimate] at h
  by_cases hu : c.estimateUnavailable = true
  · simp [hu] at h
  rw [if_neg hu, if_neg (by decide), callsOf_encodeMulticall hc] at h
  replace h : c.gasOfAll calls baseGas = .ok gas := h
  -- an estimate that is given has met no call that fails, so each has cost the same
  have hg := c.gasOfAll_append (not_rejects_of_gasOfAll h) [] baseGas
  rw [List.append_nil, h, gasOfAll, Except.ok.injEq] at hg
  rw [hg, toNat_batchGas hn]

theorem batchGas_le_of_judgement {budget : UInt64} {alone : Bool} (hc : Carriable calls)
    (hn : calls.length ≤ 2 ^ 33) (h : c.judgement budget calls alone = .ok none) :
    batchGas calls.length ≤ budget.toNat := by
  rw [judgement] at h
  rcases he : (c.estimate pointManager (encodeMulticall calls)).1 with (_ | _) | gas
  · simp [he] at h
  · simp [he] at h
  · rw [← toNat_of_estimate hc hn he]
    by_cases hg : gas ≤ budget
    · exact hg
    · cases alone <;> simp [he, hg] at h

end SimulatedChain

/-! ## Batches -/

/-- The calls of the batch are within the budget, if it has any. -/
def Batch.Within (settings : BatchConfig) (b : Batch) : Prop :=
  b.calls ≠ [] → batchGas b.calls.length ≤ settings.gasBudget.toNat

theorem Batch.Within.congr {settings : BatchConfig} {b b' : Batch} (h : b.Within settings)
    (calls : b'.calls = b.calls) : b'.Within settings := by
  rw [Within, calls]
  exact h

theorem Batch.Sized.prepared {bound left : Nat} {b b' : Batch} (h : b.Sized bound (left + 1))
    (prepared : b.Prepared b') : b'.Sized bound left := by
  have hp := h.pass
  refine ⟨?_, ?_⟩
  · rw [prepared.calls, prepared.permits]
    exact hp.lengths
  · rw [prepared.calls, prepared.permits]
    exact hp.size

section Offers

variable {start : SimulatedChain} {settings : BatchConfig} {m : Message} {b b' : Batch}
  {w : Bench SimulatedChain} {o : Offer} {left : Nat}

/-- A trial has more calls than the batch it is made for. -/
theorem Offered.length_calls_lt (h : Offered start settings m b w o b') :
    b.calls.length < o.trial.length := by
  cases h with
  | deposit =>
    simp only [Batch.offerDeposit, List.length_append, List.length_singleton]
    omega
  | withdraw =>
    simp only [Batch.offerWithdraw, List.length_append, List.length_singleton]
    omega

theorem Offered.length_trial_le (h : Offered start settings m b w o b')
    (sized : b.Sized (2 ^ 33) (left + 1)) : o.trial.length ≤ 2 ^ 33 := by
  obtain ⟨front, ht, -, hle, -⟩ := h.trial_eq
  have hsize := sized.size
  have hpermits := h.permits_le
  rw [ht, List.length_append, List.length_singleton]
  omega

/-- Whatever becomes of a message, there is room for the ones left. -/
theorem Handled.sized {bound : Nat} {d d' : Drafting (Bench SimulatedChain)}
    {res : Except Fault Verdict} (h : Handled start settings m d res d')
    (sized : d.batch.Sized bound (left + 1)) (hm : ∀ b ∈ m.signature, b.length < 2 ^ 64) :
    d'.batch.Sized bound left := by
  cases h with
  | rejected => exact sized.pass
  | broken fault b w prepared => exact sized.prepared prepared
  | dropped o b w offered => exact offered.sized_keepPermits sized
  | deferred o b w gas budget offered => exact sized.prepared offered.prepared
  | accepted o b w offered judged => exact offered.sized_accept sized hm

/-- **Whatever becomes of a message, the calls of the batch stay within the budget.** -/
theorem Handled.within {d d' : Drafting (Bench SimulatedChain)} {res : Except Fault Verdict}
    (h : Handled start settings m d res d') (sized : d.batch.Sized (2 ^ 33) (left + 1))
    (hm : ∀ b ∈ m.signature, b.length < 2 ^ 64) (within : d.batch.Within settings) :
    d'.batch.Within settings := by
  cases h with
  | rejected => exact within
  | broken fault b w prepared => exact within.congr prepared.calls
  | dropped o b w offered => exact within.congr offered.prepared.calls
  | deferred o b w gas budget offered => exact within.congr offered.prepared.calls
  | accepted o b w offered judged =>
    intro _
    have htrial := SimulatedChain.batchGas_le_of_judgement
      (offered.carriable_trial sized (by decide) hm) (offered.length_trial_le sized) judged
    have hcalls : (b.accept m.id o).calls.length = d.batch.calls.length + 1 := by
      rw [Batch.accept, List.length_append, offered.prepared.calls, List.length_singleton]
    rw [hcalls]
    exact Nat.le_trans (batchGas_mono offered.length_calls_lt) htrial

/-- Calls of a batch, with or without its permits, can be carried by a multicall. -/
theorem Batch.Sized.carriable {bound : Nat} (sized : b.Sized bound left) (hb : bound < 2 ^ 66)
    {calls : List Bytes} (mem : ∀ c ∈ calls, c ∈ b.calls ++ b.permits)
    (le : calls.length ≤ b.calls.length + b.permits.length) :
    Carriable calls ∧ calls.length ≤ bound := by
  have hsize := sized.size
  refine ⟨⟨?_, fun c hc => sized.lengths c (mem c hc)⟩, ?_⟩
  · omega
  · omega

end Offers

/-! ## Drains -/

section Drains

variable {start : SimulatedChain} {settings : BatchConfig} {x y : Draining (Bench SimulatedChain)}

/-- What a drain has in hand stays within the budget, and there is room in it for the payloads that
may still be taken. -/
structure Draining.Keeps (settings : BatchConfig) (x : Draining (Bench SimulatedChain)) : Prop where
  fits : PayloadsFit x.queue.payloads
  sized : x.drafting.batch.Sized (2 ^ 33) (x.queue.payloads.length % 2 ^ 32)
  within : x.drafting.batch.Within settings

/-- A payload that is taken counts, as the queue was not found empty. -/
theorem length_mod_of_deep {p : Bytes} {payloads rest : List Bytes} (queue : payloads = p :: rest)
    (deep : UInt32.ofNat payloads.length ≠ 0) :
    payloads.length % 2 ^ 32 = rest.length % 2 ^ 32 + 1 := by
  have hne : payloads.length % 2 ^ 32 ≠ 0 := by
    intro h0
    apply deep
    rw [← UInt32.toNat_inj, UInt32.toNat_ofNat', h0]
    rfl
  rw [queue, List.length_cons] at hne ⊢
  omega

namespace Draining.Keeps

/-- A message that is handled. -/
theorem handled (h : x.Keeps settings) {p : Bytes} {rest : List Bytes} {m : Message}
    {res : Except Fault Verdict} {d : Drafting (Bench SimulatedChain)}
    (deep : UInt32.ofNat x.queue.payloads.length ≠ 0) (queue : x.queue.payloads = p :: rest)
    (decoded : Message.decode p = .ok m)
    (handled : x.drafting.handle start.tools settings m = (res, d)) :
    d.batch.Sized (2 ^ 33) (rest.length % 2 ^ 32) ∧ d.batch.Within settings := by
  have hfits := h.fits
  have hsized := h.sized
  rw [length_mod_of_deep queue deep] at hsized
  rw [queue] at hfits
  have hm := hfits.head decoded
  have hhandled := Drafting.handled_of handled
  exact ⟨hhandled.sized hsized hm, hhandled.within hsized hm h.within⟩

theorem next (h : x.Keeps settings) (next : x.round start.tools settings = .inr y) :
    y.Keeps settings := by
  have hg := x.goes start.tools settings
  have hfits := h.fits
  rw [next] at hg
  cases hg with
  | undecodable p rest e deep queue =>
    have hsized := h.sized
    rw [length_mod_of_deep queue deep] at hsized
    rw [queue] at hfits
    exact ⟨hfits.tail, hsized.pass, h.within⟩
  | dropped p rest m d deep queue decoded handled =>
    obtain ⟨hs, hw⟩ := h.handled deep queue decoded handled
    rw [queue] at hfits
    exact ⟨hfits.tail, hs, hw⟩
  | accepted p rest m d d' deep queue decoded handled checked =>
    obtain ⟨hs, hw⟩ := h.handled deep queue decoded handled
    rw [Drafting.checkBudget_eq] at checked
    obtain rfl := (Prod.mk.inj checked).2
    rw [queue] at hfits
    exact ⟨hfits.tail, hs, hw⟩

theorem ends {r : Drained (Bench SimulatedChain)} (h : x.Keeps settings)
    (last : x.round start.tools settings = .inl r) :
    ∃ left, r.batch.Sized (2 ^ 33) left ∧ r.batch.Within settings := by
  have hg := x.goes start.tools settings
  rw [last] at hg
  cases hg with
  | halts => exact ⟨_, h.sized, h.within⟩
  | returned p rest m res d stop deep queue decoded handled =>
    exact ⟨_, h.handled deep queue decoded handled⟩
  | full p rest m d d' stop deep queue decoded handled checked =>
    rw [Drafting.checkBudget_eq] at checked
    obtain rfl := (Prod.mk.inj checked).2
    have hd := h.handled deep queue decoded handled
    exact ⟨_, hd⟩

theorem reaches (h : x.Keeps settings) (reaches : x.Reaches start.tools settings y) :
    y.Keeps settings := by
  induction reaches with
  | refl => exact h
  | tail _ hnext ih => exact ih.next hnext

/-- **What a drain leads to is within the budget.** -/
theorem drain (h : x.Keeps settings) (start : SimulatedChain) :
    ∃ left, (x.drain start.tools settings).batch.Sized (2 ^ 33) left ∧
      (x.drain start.tools settings).batch.Within settings := by
  obtain ⟨y, hxy, hy⟩ : ∃ y, x.Reaches start.tools settings y ∧
      y.round start.tools settings = .inl (x.drain start.tools settings) := x.reaches_last
  exact (h.reaches hxy).ends hy

/-- **Unless a drain stops after an acceptance, the batch is within the budget with all its
permits.** -/
theorem joined (h : x.Keeps settings) (another : x.TakesAnother start.tools settings) {p : Bytes}
    {rest : List Bytes} {m : Message} {joined : Drafting (Bench SimulatedChain)}
    (queue : x.queue.payloads = p :: rest) (decoded : Message.decode p = .ok m)
    (handled : x.drafting.handle start.tools settings m = (.ok .accepted, joined)) :
    batchGas (joined.batch.permits.length + joined.batch.calls.length) ≤
      settings.gasBudget.toNat := by
  obtain ⟨deep, checked⟩ := another.checked queue decoded handled
  obtain ⟨sized, -⟩ := h.handled deep queue decoded handled
  have hcarriable : Carriable (joined.batch.permits ++ joined.batch.calls) ∧
      (joined.batch.permits ++ joined.batch.calls).length ≤ 2 ^ 33 := by
    refine sized.carriable (by decide) (fun c hc => ?_) ?_
    · rwa [List.mem_append, or_comm, ← List.mem_append] at hc
    · rw [List.length_append]
      omega
  obtain ⟨hc, hn⟩ := hcarriable
  rw [Drafting.checkBudget_eq] at checked
  cases he : (joined.env.chain.estimate SimulatedChain.pointManager
      (encodeMulticall (joined.batch.permits ++ joined.batch.calls))).1 with
  | error e => simp [he] at checked
  | ok gas =>
    rw [← List.length_append, ← SimulatedChain.toNat_of_estimate hc hn he]
    by_cases hg : gas ≤ settings.gasBudget
    · exact hg
    · simp [he, hg] at checked

theorem empty (fits : PayloadsFit x.queue.payloads) (nothing : x.drafting.batch = {}) :
    x.Keeps settings := by
  refine ⟨fits, ?_, ?_⟩
  · rw [nothing]
    exact .empty (by omega)
  · rw [nothing]
    exact fun h => absurd rfl h

end Draining.Keeps

end Drains

/-! ## Runs -/

/-- The transaction of a batch whose calls are within the budget has a gas limit within the budget,
which tells how many calls there are. -/
theorem SignedRecord.SignedFor.within {t : SignedRecord} {relayer : UInt64} {b : Batch}
    {c : SimulatedChain} {settings : BatchConfig} {left : Nat} (h : t.SignedFor relayer b c)
    (target : t.request.target = SimulatedChain.pointManager) (sized : b.Sized (2 ^ 33) left)
    (within : b.Within settings) :
    t.request.gasLimit.toNat = batchGas b.calls.length ∧
      batchGas b.calls.length ≤ settings.gasBudget.toNat := by
  rcases h.purpose with ⟨ht, -⟩ | ⟨-, hi, hne⟩
  · exact absurd (ht.symm.trans target) (by decide)
  · have hgas := h.gas
    rw [target, hi] at hgas
    obtain ⟨hc, hn⟩ := sized.carriable (by decide)
      (fun c hc => List.mem_append_left b.permits hc) (Nat.le_add_right _ _)
    exact ⟨SimulatedChain.toNat_of_estimate hc hn hgas, within hne⟩

/-- All that sending a batch signs is signed for it, whatever the sending comes to. -/
theorem send_signs {start : SimulatedChain} {turns : Nat → List Turn} {b : Batch}
    {stop : StopReason} {w w' : Bench SimulatedChain} {res : Except Interruption RunReport}
    (sent : (Runner.send start.tools turns b stop).perform w = (res, w')) :
    ∃ ts, w'.chain.signed = w.chain.signed ++ ts ∧
      ∀ t ∈ ts, t.SignedFor (w.indices.relayerTurn start) b w.chain := by
  obtain ⟨v, ⟨-, -, -, ts, hts, hsigned⟩, hv⟩ := send_turns start (w := w) (b := b) turns stop
  refine ⟨ts, ?_, hsigned⟩
  rw [sent] at hv
  rcases hv with ⟨e, he⟩ | ⟨report, -, -, he⟩
  · rw [(Prod.mk.inj he).2, hts]
  · rw [(Prod.mk.inj he).2, ← hts]
    rfl

section Runs

variable {start : SimulatedChain} {s : Site (Bench SimulatedChain)}

theorem Site.opening_keeps (fits : PayloadsFit s.queue.payloads) (settings : BatchConfig)
    (l : MemoryLock) :
    ({ s with env := s.env.withLock l } : Site _).opening.Keeps settings := .empty fits rfl

/-- The settings that a run reads are those of its site. -/
theorem SharedConfig.config_of_read {x : SharedConfig} {config : Config}
    (h : x.read = .ok config) : x.config = config := by
  unfold read at h
  split at h
  · simp at h
  · exact Except.ok.inj h

/-- The transactions of a batch that a run signs. -/
theorem Site.signs_within (how : Schedule) (fits : PayloadsFit s.queue.payloads) :
    ∃ ts, (s.run start how).2.env.chain.signed = s.env.chain.signed ++ ts ∧
      ∀ t ∈ ts, t.request.target = SimulatedChain.pointManager →
        ∃ d, s.drained start how = some d ∧
          t.request.gasLimit.toNat = batchGas d.batch.calls.length ∧
          batchGas d.batch.calls.length ≤ s.env.settings.config.batch.gasBudget.toNat := by
  have hcomes := s.comes start how
  generalize s.run start how = res at hcomes
  cases hcomes with
  | unreadable | skipped => exact ⟨[], (List.append_nil _).symm, by simp⟩
  | idle config l l' d settings drained drain =>
    exact ⟨[], (drain_authorizes drain).2.trans (List.append_nil _).symm, by simp⟩
  | sent config l l' d res w settings drained drain empty sent =>
    obtain ⟨ts, hts, hsigned⟩ := send_signs sent
    rw [(drain_authorizes drain).2] at hts
    obtain ⟨left, sized, within⟩ := (opening_keeps fits config.batch l).drain start
    replace drain : Draining.drain start.tools config.batch
      ({ s with env := s.env.withLock l } : Site _).opening = d := drain
    rw [drain] at sized within
    rw [SharedConfig.config_of_read settings]
    exact ⟨ts, hts, fun t ht target => ⟨d, drained, (hsigned t ht).within target sized within⟩⟩

end Runs

/-- **The gas budget is kept.** The transaction of a batch that a run signs has a gas limit of 21000
and 100000 for each accepted call, which is at most the ceiling less the margin, whatever the run
comes to. While the drain was under way the batch was within this budget with all its permits, those
of dropped messages included, each time that a message was accepted and another payload was taken
after it. -/
theorem budget_is_kept (start : SimulatedChain) (how : Schedule) (s : Site (Bench SimulatedChain))
    (fits : PayloadsFit s.queue.payloads) :
    let settings := s.env.settings.config.batch
    let budget := settings.gasCeiling.toNat - settings.gasSafetyMargin.toNat
    (∃ ts, (s.run start how).2.env.chain.signed = s.env.chain.signed ++ ts ∧
      ∀ t ∈ ts, t.request.target = SimulatedChain.pointManager →
        ∃ d, s.drained start how = some d ∧
          t.request.gasLimit.toNat = 21000 + 100000 * d.batch.calls.length ∧
          21000 + 100000 * d.batch.calls.length ≤ budget) ∧
    ∀ d, s.drained start how = some d → ∃ l,
      let first := ({ s with env := s.env.withLock l } : Site _).opening
      first.drain start.tools settings = d ∧
      ∀ x, first.Reaches start.tools settings x → x.TakesAnother start.tools settings →
        ∀ p rest m joined, x.queue.payloads = p :: rest → Message.decode p = .ok m →
          x.drafting.handle start.tools settings m = (.ok .accepted, joined) →
          21000 + 100000 * (joined.batch.permits.length + joined.batch.calls.length) ≤ budget := by
  intro settings budget
  have hbudget : budget = settings.gasBudget.toNat := settings.toNat_gasBudget.symm
  rw [hbudget]
  refine ⟨s.signs_within how fits, fun d drained => ?_⟩
  obtain ⟨config, l, hc, drain⟩ := Site.drain_of_drained drained
  rw [← SharedConfig.config_of_read hc] at drain
  refine ⟨l, drain, ?_⟩
  intro x hx another p rest m joined queue decoded handled
  exact ((s.opening_keeps fits settings l).reaches hx).joined another queue decoded handled

/-! ## A permit that is kept -/

namespace Site

/-- A site whose queue holds a withdrawal that leaves its permit behind, since the calls for its
account fail, and two deposits. -/
def permitKept : Site (Bench SimulatedChain) where
  queue :=
    { payloads :=
        [permitText '1' '4', depositText '2' '1', depositText '3' '3'].map payloadOf }
  env := { assorted.env with settings := {} }

/-- The drain of a run there. -/
def permitKeptDraining : Draining (Bench SimulatedChain) :=
  let scheduler := permitKept.env.settings.config.scheduler
  let l := (permitKept.env.lock.acquire scheduler.lockResource scheduler.lockTtlMs.toNat).2
  ({ permitKept with env := permitKept.env.withLock l } : Site _).opening

set_option maxRecDepth 100000 in
theorem permitKept_fits : PayloadsFit permitKept.queue.payloads :=
  .of_texts (by decide) (by decide +kernel)

theorem permitKept_drained : permitKept.drained permitKept.env.chain {} =
    some (permitKeptDraining.drain permitKept.env.chain.tools {}) :=
  drained_of_free permitKept.env.chain {} (s := permitKept) rfl rfl

set_option maxRecDepth 100000 in
/-- The first round there drops the withdrawal, and the second one accepts a deposit with the permit
of the withdrawal in hand. Another deposit is accepted after it. -/
theorem permitKept_rounds : ∃ x,
    permitKeptDraining.round permitKept.env.chain.tools {} = .inr x ∧
      x.TakesAnother permitKept.env.chain.tools {} ∧
      x.verdict? permitKept.env.chain.tools {} = some (.accepted, 1, 1) ∧
      (x.drain permitKept.env.chain.tools {}).batch.calls.length = 2 := by
  have h : (permitKeptDraining.round permitKept.env.chain.tools {}).elim (fun _ => false)
      (fun x => x.TakesAnother permitKept.env.chain.tools {} ∧
        x.verdict? permitKept.env.chain.tools {} = some (.accepted, 1, 1) ∧
        (x.drain permitKept.env.chain.tools {}).batch.calls.length = 2) = true := by
    decide +kernel
  obtain ⟨x, first, h⟩ := Draining.exists_next h
  exact ⟨x, first, of_decide_eq_true h⟩

set_option maxRecDepth 100000 in
theorem permitKept_signs : ∃ t ∈ (permitKept.run permitKept.env.chain {}).2.env.chain.signed,
    t.request.target = SimulatedChain.pointManager := by
  decide +kernel

end Site

/-- The transaction of two deposits has a gas limit of 221000, within the 4800000 that a site has by
default. When the first one was accepted, the permit that a withdrawal had left was counted with it,
and the second one was taken after it. -/
theorem budget_is_kept_permitKept :
    let tools := Site.permitKept.env.chain.tools
    PayloadsFit Site.permitKept.queue.payloads ∧
      (∃ t ∈ (Site.permitKept.run Site.permitKept.env.chain {}).2.env.chain.signed,
        t.request.target = SimulatedChain.pointManager ∧
          t.request.gasLimit.toNat = 21000 + 100000 * 2 ∧
          21000 + 100000 * 2 ≤ 5000000 - 200000) ∧
      ∃ x, Site.permitKeptDraining.Reaches tools {} x ∧ x.TakesAnother tools {} ∧
        ∃ p rest m joined, x.queue.payloads = p :: rest ∧ Message.decode p = .ok m ∧
          x.drafting.handle tools {} m = (.ok .accepted, joined) ∧
          joined.batch.permits.length = 1 ∧ joined.batch.calls.length = 1 ∧
          21000 + 100000 * (1 + 1) ≤ 5000000 - 200000 := by
  intro tools
  obtain ⟨⟨ts, hts, hsigned⟩, hdrain⟩ :=
    budget_is_kept Site.permitKept.env.chain {} Site.permitKept Site.permitKept_fits
  obtain ⟨x, first, another, accepted, hlength⟩ := Site.permitKept_rounds
  refine ⟨Site.permitKept_fits, ?_, x, .single first, another, ?_⟩
  · obtain ⟨t, ht, target⟩ := Site.permitKept_signs
    refine ⟨t, ht, target, ?_⟩
    rw [hts] at ht
    obtain ⟨d, drained, hgas, hle⟩ := hsigned t ht target
    obtain rfl := Option.some.inj (Site.permitKept_drained.symm.trans drained)
    rw [Draining.drain_eq_round, first, Sum.elim_inr, hlength] at hgas hle
    exact ⟨hgas, hle⟩
  · obtain ⟨l, drain, hbudget⟩ := hdrain _ Site.permitKept_drained
    -- a drain leaves the lock alone, so the two drains begin with the same one
    obtain rfl : Site.permitKeptDraining.drafting.env.lock = l := by
      obtain ⟨_, h⟩ := drains Site.permitKept.env.chain {} 0 Site.permitKept.queue
        ⟨{}, Site.permitKept.env.withLock l⟩
      obtain ⟨_, h'⟩ := drains Site.permitKept.env.chain {} 0 Site.permitKept.queue
        Site.permitKeptDraining.drafting
      exact h'.keeps.lock.symm.trans ((congrArg (fun d => d.site.env.lock) drain.symm).trans
        h.keeps.lock)
    obtain ⟨p, rest, m, joined, ⟨-, queue, decoded⟩, handled, hpermits, hcalls⟩ :=
      Draining.exists_handled accepted
    have hjoined := hbudget x (.single first) another p rest m joined queue decoded handled
    rw [hpermits, hcalls] at hjoined
    exact ⟨p, rest, m, joined, queue, decoded, handled, hpermits, hcalls, hjoined⟩

end PointExchange
