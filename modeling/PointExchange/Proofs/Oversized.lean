import PointExchange.Proofs.Budget
import PointExchange.Proofs.Decisions
import PointExchange.Proofs.GivingUp
import PointExchange.Proofs.Messages

/-!
# Messages over the budget

A message whose trial is over the budget is dropped if the batch is empty, and goes back to the
queue otherwise. The trial of a withdrawal has all of the batch in it, so a withdrawal is dropped
just when nothing else is in its trial. That of a deposit lacks the permits: a deposit that is alone
in its trial goes back to the queue if a dropped withdrawal has left its permit
(`deferred_though_alone`).
-/

namespace PointExchange

/-- Nothing but what the message itself brings is in the trial. -/
def Offer.IsAlone (o : Offer) : Prop := o.trial = o.permits ++ [o.call]

namespace Drafting

variable {E : Type} {c : Collaborators E} {settings : BatchConfig} {m : Message}
  {d d₁ d₂ : Drafting E} {o o' : Offer}

/-- A message makes one offer at most. -/
theorem Offers.unique (h : d.Offers c settings m o d₁) (h' : d.Offers c settings m o' d₂) :
    o' = o ∧ d₂ = d₁ := by
  cases h with
  | deposit r x d₁ task signed =>
    cases h' with
    | deposit r' x' d₂ task' signed' =>
      obtain rfl : r = r' := by simpa using task.symm.trans task'
      have hx := (perform_authorize_iff.mpr signed).symm.trans (perform_authorize_iff.mpr signed')
      obtain ⟨rfl, rfl⟩ : x = x' ∧ d₁ = d₂ := by simpa using hx
      exact ⟨rfl, rfl⟩
    | withdraw r' permit task' => simpa using task.symm.trans task'
  | withdraw r permit task =>
    cases h' with
    | deposit r' x' d₂ task' signed' => simpa using task.symm.trans task'
    | withdraw r' permit' task' =>
      obtain ⟨rfl, rfl⟩ : r = r' ∧ permit = permit' := by simpa using task.symm.trans task'
      exact ⟨rfl, rfl⟩

/-- A message that makes an offer is decided on by the trial, or fails with it. -/
theorem Offers.tried (offers : d.Offers c settings m o d₁) {res : Except Fault Verdict}
    {d' : Drafting E} (handled : d.handle c settings m = (res, d')) :
    ∃ d₂, d₁.Tried c settings m.id o res d₂ ∧ ∀ v, res = .ok v → d' = d₂ := by
  cases decided handled with
  | rejected e task =>
    cases offers with
    | deposit r x d₁ task' | withdraw r permit task' => simpa using task.symm.trans task'
  | unsigned r fault d₂ task failed =>
    cases offers with
    | deposit r' x d₁ task' signed =>
      obtain rfl : r = r' := by simpa using task.symm.trans task'
      simpa using failed.symm.trans (perform_authorize_iff.mpr signed)
    | withdraw r' permit task' => simpa using task.symm.trans task'
  | tried o' d₂ d₃ v offers' tried =>
    obtain ⟨rfl, rfl⟩ := offers.unique offers'
    exact ⟨d', tried, fun _ _ => rfl⟩
  | untried o' d₂ d₃ fault offers' tried =>
    obtain ⟨rfl, rfl⟩ := offers.unique offers'
    exact ⟨d₃, tried, by simp⟩

/-- **A message over the budget is dropped if the batch is empty, and deferred if not.** -/
theorem Offers.handle_above {gas : UInt64} (offers : d.Offers c settings m o d₁)
    (answer : d₁.estimate c o.trial = (.ok gas, d₂)) (above : settings.gasBudget < gas) :
    d.handle c settings m =
      if d.batch.isEmpty then
        (.ok .dropped, ⟨d₂.batch.keepPermits o, (d₂.failing c m.id).env⟩)
      else (.ok (.deferred gas settings.gasBudget), d₂) := by
  rcases handled : d.handle c settings m with ⟨res, d'⟩
  obtain ⟨d₃, tried, hd⟩ := offers.tried handled
  rw [← offers.noted.isEmpty]
  cases tried with
  | fits gas' d₄ answer' within =>
    obtain ⟨rfl, -⟩ : gas = gas' ∧ d₂ = d₄ := by simpa using answer.symm.trans answer'
    exact absurd above (UInt64.not_lt.mpr within)
  | reverted reason d₄ answer' => simpa using answer.symm.trans answer'
  | oversized gas' d₄ answer' above' alone =>
    obtain ⟨rfl, rfl⟩ : gas = gas' ∧ d₂ = d₄ := by simpa using answer.symm.trans answer'
    rw [if_pos alone, hd _ rfl]
  | deferred gas' d₄ answer' above' company =>
    obtain ⟨rfl, rfl⟩ : gas = gas' ∧ d₂ = d₃ := by simpa using answer.symm.trans answer'
    rw [if_neg (by simp [company]), hd _ rfl]
  | unavailable e d₄ answer' => simpa using answer.symm.trans answer'

/-- **The batch is empty just if the offer is alone in its trial and, for a deposit, there are no
permits of dropped withdrawals.** -/
theorem Offers.isEmpty_iff (offers : d.Offers c settings m o d₁) :
    d.batch.isEmpty = true ↔ o.IsAlone ∧ (o.direction = .pointToToken → d.batch.permits = []) := by
  rw [Batch.isEmpty, Bool.and_eq_true, List.isEmpty_iff, List.isEmpty_iff]
  cases offers with
  | deposit r x d₁ task signed =>
    -- no permits are in this trial, whoever has left them
    show _ ↔ d₁.batch.calls ++ [x.call.encode] = [] ++ [x.call.encode] ∧ _
    rw [List.append_left_inj, signed.noted.calls]
    simp [Batch.offerDeposit]
  | withdraw r permit task =>
    show _ ↔ d.batch.calls ++ (d.batch.permits ++ permit.toList) ++
      [(WithdrawCall.ofRequest r).encode] = permit.toList ++ [(WithdrawCall.ofRequest r).encode] ∧ _
    rw [List.append_left_inj, ← List.append_assoc, List.append_left_eq_self]
    simp [Batch.offerWithdraw]

end Drafting

/-! ## Over a ledger in memory -/

namespace Draining

variable {F : Type} {p : Partners F} {settings : BatchConfig} {x : Draining (Books F)}
  {payload : Bytes} {rest : List Bytes} {m : Message} {o : Offer} {d₁ d₂ : Drafting (Books F)}
  {gas : UInt64}

/-- A message is given up on: it is acknowledged, and its record is failed if it was pending. -/
structure GivesUp (x : Draining (Books F)) (rest : List Bytes) (id : Uuid)
    (y : Draining (Books F)) : Prop where
  queue : y.queue = { x.queue with payloads := rest, acked := x.queue.acked + 1 }
  ledger : x.drafting.ledger.Fails y.drafting.ledger [id]

/-- A message is sent back for its gas: it is at the head of the queue as before, the ledger is as
it was, and the drain stops. -/
structure SendsBack (x : Draining (Books F)) (gas budget : UInt64) (r : Drained (Books F)) :
    Prop where
  queue : r.site.queue = { x.queue with requeued := x.queue.requeued + 1 }
  ledger : r.site.env.ledger = x.drafting.ledger
  stop : r.stop = .gasCeiling gas budget

/-- **A message over the budget is given up on if the batch is empty, and sent back if not.** -/
theorem round_of_above (h : x.Handles settings payload rest m)
    (offers : x.drafting.Offers p.tools settings m o d₁)
    (answer : d₁.estimate p.tools o.trial = (.ok gas, d₂)) (above : settings.gasBudget < gas) :
    (x.drafting.batch.isEmpty = true →
      ∃ y, x.round p.tools settings = .inr y ∧ x.GivesUp rest m.id y) ∧
    (x.drafting.batch.isEmpty = false →
      ∃ r, x.round p.tools settings = .inl r ∧ x.SendsBack gas settings.gasBudget r) := by
  have handled := offers.handle_above answer above
  have hround := round_of_handles (c := p.tools) h
  constructor
  · intro alone
    rw [if_pos alone] at handled
    rw [handled] at hround
    refine ⟨_, hround, rfl, ?_⟩
    show x.drafting.ledger.Fails (Drafting.ledger _) [m.id]
    rw [(Drafting.marks_handle handled).failed (.inl rfl)]
    exact x.drafting.ledger.fails_failAll [m.id]
  · intro company
    rw [if_neg (by simp [company])] at handled
    rw [handled] at hround
    exact ⟨_, hround, rfl, (Drafting.marks_handle handled).same (by simp), rfl⟩

end Draining

/-! ## A deposit after a withdrawal, both over the budget -/

/-- The partners of a drain over a simulated chain. -/
def SimulatedChain.partners (start : SimulatedChain) (settings : BatchConfig) :
    Partners SimulatedChain where
  gateway := start.gateway
  indices := { get _ := pure 0, set _ _ := pure () }
  config _ := .ok { batch := settings }

/-- A withdrawal with a permit. -/
def permittedWithdrawal : Message where
  id := ⟨2⟩
  account := .repeated 2
  amount := "5"
  kind := .number (.natural 2)
  signature := some []
  validUntil := some 7
  permit := some ⟨.repeated 9, "30", 7, List.replicate 64 1 ++ [27]⟩

def plainDeposit : Message := .depositWith (.number (.natural 1))

theorem decode_permittedWithdrawal :
    Message.decode permittedWithdrawal.encode = .ok permittedWithdrawal :=
  Message.decode_encode_self (by decide) (by decide) rfl (by decide)

theorem decode_plainDeposit : Message.decode plainDeposit.encode = .ok plainDeposit :=
  Message.decode_encode_self (by decide) (by decide) rfl (by decide)

set_option maxRecDepth 100000 in
theorem task_permittedWithdrawal : ∃ r permit,
    Drafting.Task.ofMessage permittedWithdrawal SimulatedChain.pointManager =
      .ok (.withdraw r (some permit)) ∧ Carriable [permit, (WithdrawCall.ofRequest r).encode] :=
  ⟨_, _, rfl, by decide, by decide +kernel⟩

theorem task_plainDeposit :
    Drafting.Task.ofMessage plainDeposit SimulatedChain.pointManager =
      .ok (.deposit ⟨.repeated 0x11, 5⟩) := rfl

/-- Settings with a budget that no call fits. -/
def tightSettings : BatchConfig := { gasCeiling := 300000 }

/-- A chain with one manager. -/
def SimulatedChain.oneManager : SimulatedChain :=
  { managers := [.rehearsal 7] }

/-- A site with a withdrawal, which has a permit, and a deposit. -/
def Site.leftPermit : Site (Books SimulatedChain) where
  queue := { payloads := [permittedWithdrawal.encode, plainDeposit.encode] }
  env :=
    { ledger :=
        (({} : MemoryLedger).insertPending ⟨2⟩ .tokenToPoint 5).insertPending ⟨1⟩ .pointToToken 5
      rest := .oneManager }

/-- The collaborators there. -/
def Site.tightTools : Collaborators (Books SimulatedChain) :=
  (SimulatedChain.oneManager.partners tightSettings).tools

/-- Whatever is estimated there is over the budget. -/
theorem Site.exists_estimate_above {d : Drafting (Books SimulatedChain)}
    (quiet : d.env.rest.quiet = SimulatedChain.oneManager.quiet) {calls : List Bytes}
    (carriable : Carriable calls) (pos : 0 < calls.length) (few : calls.length ≤ 2) :
    ∃ gas d', d.estimate tightTools calls = (.ok gas, d') ∧ tightSettings.gasBudget < gas ∧
      d'.env.rest.quiet = SimulatedChain.oneManager.quiet := by
  have hestimate : (d.estimate tightTools calls).1 =
      (d.env.rest.estimate SimulatedChain.pointManager (encodeMulticall calls)).1 := rfl
  have hrest : (d.estimate tightTools calls).2.env.rest =
      (d.env.rest.estimate SimulatedChain.pointManager (encodeMulticall calls)).2 := rfl
  cases answer : (d.env.rest.estimate SimulatedChain.pointManager (encodeMulticall calls)).1 with
  | error e =>
    refine absurd answer (SimulatedChain.estimate_ne_error ?_ carriable (fun x _ => ?_) e)
    · exact (congrArg SimulatedChain.estimateUnavailable quiet :)
    · rw [SimulatedChain.rejects_congr quiet]
      simp [SimulatedChain.rejects, SimulatedChain.oneManager]
  | ok gas =>
    refine ⟨gas, _, Prod.ext (hestimate.trans answer) rfl, ?_, ?_⟩
    · have hgas := SimulatedChain.toNat_of_estimate carriable (by omega) answer
      have hbudget : tightSettings.gasBudget.toNat = 100000 := rfl
      rw [UInt64.lt_iff_toNat_lt, hgas, hbudget, batchGas]
      omega
    · rw [hrest, SimulatedChain.quiet_estimate, quiet]

theorem Site.handles_leftPermit : leftPermit.opening.Handles tightSettings
    permittedWithdrawal.encode [plainDeposit.encode] permittedWithdrawal :=
  ⟨by decide, rfl, decode_permittedWithdrawal⟩

/-- The withdrawal is dropped there, and its permit stays. -/
theorem Site.leftPermit_dropped : ∃ y permit,
    leftPermit.opening.round tightTools tightSettings = .inr y ∧
      y.queue.payloads = [plainDeposit.encode] ∧ y.queue.unavailable = false ∧
      y.drafting.batch = { permits := [permit] } ∧
      y.drafting.env.rest.quiet = SimulatedChain.oneManager.quiet ∧
      y.drafting.ledger = leftPermit.env.ledger.fail ⟨2⟩ := by
  obtain ⟨r, permit, task, carriable⟩ := task_permittedWithdrawal
  have offers : leftPermit.opening.drafting.Offers tightTools tightSettings permittedWithdrawal
      _ _ := .withdraw r (some permit) task
  obtain ⟨gas, d', answer, above, quiet⟩ :=
    exists_estimate_above (d := leftPermit.opening.drafting) rfl carriable (by simp) (by simp)
  have handled := offers.handle_above answer above
  rw [if_pos (show leftPermit.opening.drafting.batch.isEmpty = true from rfl)] at handled
  have hround := Draining.round_of_handles (c := tightTools) handles_leftPermit
  rw [handled] at hround
  have hbatch : d'.batch = {} := Drafting.batch_of_estimate answer
  refine ⟨_, permit, hround, rfl, rfl, ?_, quiet, (Drafting.marks_handle handled).failed (.inl rfl)⟩
  show d'.batch.keepPermits _ = _
  rw [hbatch]
  rfl

/-- The manager there signs what it is asked for. -/
theorem Site.perform_signDeposit_tightTools {w : Books SimulatedChain}
    (managers : w.rest.managers = SimulatedChain.oneManager.managers) (domain : SigningDomain)
    (a : DepositAuthorization) :
    (tightTools.gateway.signDeposit 0 domain a).perform w =
      (.ok (a.sign (.rehearsal 7) domain), { w with
        rest := { w.rest with signedDeposits := w.rest.signedDeposits ++ [(0, a.nonce)] } }) := by
  have hsign : (tightTools.gateway.signDeposit 0 domain a).perform w =
      ((w.rest.signDeposit 0 domain a).1,
        { w with rest := (w.rest.signDeposit 0 domain a).2 }) := rfl
  have key : keyAt .manager w.rest.managers 0 = .ok (.rehearsal 7) := by
    rw [managers]
    rfl
  rw [hsign, SimulatedChain.signDeposit, key]

/-- A deposit is offered there, whatever was estimated before. -/
theorem Site.tightTools_offers {d : Drafting (Books SimulatedChain)} {permit : Bytes}
    (batch : d.batch = { permits := [permit] })
    (quiet : d.env.rest.quiet = SimulatedChain.oneManager.quiet) :
    ∃ (call : DepositCall) (nonce : Word) (d' : Drafting (Books SimulatedChain)),
      d.Offers tightTools tightSettings plainDeposit (d'.batch.offerDeposit call nonce) d' ∧
        d'.batch.calls = [] ∧ d'.env.rest.quiet = SimulatedChain.oneManager.quiet ∧
        Carriable [call.encode] := by
  obtain ⟨b, w⟩ := d
  obtain rfl : b = { permits := [permit] } := batch
  have managers : w.rest.managers = SimulatedChain.oneManager.managers :=
    (congrArg SimulatedChain.managers quiet :)
  have signs : (⟨{ permits := [permit] }, w⟩ : Drafting (Books SimulatedChain)).Signs tightTools
      tightSettings ⟨.repeated 0x11, 5⟩ _ _ :=
    .intro 0 (.repeated 7) (w.rest.managerNonce (.repeated 7)) SimulatedChain.domain _ _ _ _ _
      (.asked 0 w rfl rfl) rfl (.asked _ _ rfl rfl) (.asked _ _ rfl rfl)
      (perform_signDeposit_tightTools (by exact managers) _ _)
  refine ⟨_, _, _, .deposit _ _ _ task_plainDeposit signs, rfl, quiet, by simp, ?_⟩
  intro b hb
  rw [List.mem_singleton.mp hb]
  refine Nat.lt_of_le_of_lt (DepositCall.length_encode_le _) ?_
  show (DepositAuthorization.sign _ _ _).length + 227 < 2 ^ 66
  rw [DepositAuthorization.length_sign]
  decide

/-! ## What becomes of a message over the budget -/

namespace Draining

/-- **A message over the budget is given up on just if nothing else is in its trial,** unless it is
a deposit and a dropped withdrawal has left its permit: that one is sent back. -/
theorem over_budget_given_up_iff_alone {F : Type} (p : Partners F) (settings : BatchConfig)
    (x : Draining (Books F)) (payload : Bytes) (rest : List Bytes) (m : Message)
    (h : x.Handles settings payload rest m) (o : Offer) (d₁ : Drafting (Books F))
    (offers : x.drafting.Offers p.tools settings m o d₁) (gas : UInt64) (d₂ : Drafting (Books F))
    (answer : d₁.estimate p.tools o.trial = (.ok gas, d₂)) (above : settings.gasBudget < gas) :
    (o.IsAlone ∧ (o.direction = .pointToToken → x.drafting.batch.permits = []) →
      ∃ y, x.round p.tools settings = .inr y ∧ x.GivesUp rest m.id y) ∧
    (¬(o.IsAlone ∧ (o.direction = .pointToToken → x.drafting.batch.permits = [])) →
      ∃ r, x.round p.tools settings = .inl r ∧ x.SendsBack gas settings.gasBudget r) := by
  obtain ⟨givesUp, sendsBack⟩ := round_of_above h offers answer above
  rw [← offers.isEmpty_iff]
  refine ⟨givesUp, fun hne => sendsBack ?_⟩
  simpa using hne

theorem over_budget_given_up_iff_alone_leftPermit :
    ∃ (o : Offer) (y : Draining (Books SimulatedChain)), o.IsAlone ∧
      Site.leftPermit.opening.drafting.Offers Site.tightTools tightSettings permittedWithdrawal o
        Site.leftPermit.opening.drafting ∧
      Site.leftPermit.opening.round Site.tightTools tightSettings = .inr y ∧
      Site.leftPermit.opening.GivesUp [plainDeposit.encode] ⟨2⟩ y := by
  obtain ⟨r, permit, task, carriable⟩ := task_permittedWithdrawal
  have offers : Site.leftPermit.opening.drafting.Offers Site.tightTools tightSettings
      permittedWithdrawal _ _ := .withdraw r (some permit) task
  obtain ⟨gas, d', answer, above, -⟩ :=
    Site.exists_estimate_above (d := Site.leftPermit.opening.drafting) rfl carriable (by simp)
      (by simp)
  obtain ⟨givesUp, -⟩ := over_budget_given_up_iff_alone _ _ _ _ _ _ Site.handles_leftPermit _ _
    offers gas d' answer above
  have alone : (Site.leftPermit.opening.drafting.batch.offerWithdraw r (some permit)).IsAlone := rfl
  obtain ⟨y, hround, hy⟩ := givesUp ⟨alone, nofun⟩
  exact ⟨_, y, alone, offers, hround, hy⟩

/-- **A deposit that is alone in its trial can be sent back,** though it is over the budget: what
keeps it is the permit of a withdrawal that was dropped before it. -/
theorem deferred_though_alone :
    ∃ x payload rest m o d₁ gas d₂ r,
      Reaches Site.tightTools tightSettings Site.leftPermit.opening x ∧
      x.Handles tightSettings payload rest m ∧
      x.drafting.Offers Site.tightTools tightSettings m o d₁ ∧ o.IsAlone ∧
      d₁.estimate Site.tightTools o.trial = (.ok gas, d₂) ∧ tightSettings.gasBudget < gas ∧
      x.round Site.tightTools tightSettings = .inl r ∧
      r.site.queue.payloads = payload :: rest ∧ r.site.env.ledger.HasStatus m.id .pending ∧
      r.stop = .gasCeiling gas tightSettings.gasBudget := by
  obtain ⟨y, permit, hround, queue, available, batch, quiet, ledger⟩ := Site.leftPermit_dropped
  obtain ⟨call, nonce, d₁, offers, calls, quiet₁, carriable⟩ := Site.tightTools_offers batch quiet
  have trial : (d₁.batch.offerDeposit call nonce).trial = [call.encode] := by
    show d₁.batch.calls ++ _ = _
    rw [calls, List.nil_append]
  obtain ⟨gas, d₂, answer, above, -⟩ := Site.exists_estimate_above quiet₁ carriable
    (by simp) (by simp)
  rw [← trial] at answer
  have handles : y.Handles tightSettings plainDeposit.encode [] plainDeposit := by
    refine ⟨takes_iff.mpr ⟨rfl, available, ?_⟩, queue, decode_plainDeposit⟩
    rw [queue]
    decide
  have company : y.drafting.batch.isEmpty = false := by
    rw [batch]
    rfl
  obtain ⟨r, hr, back⟩ := (round_of_above handles offers answer above).2 company
  refine ⟨y, _, _, _, _, d₁, gas, d₂, r, .single hround, handles, offers, trial, answer, above, hr,
    ?_, ?_, back.stop⟩
  · rw [back.queue]
    exact queue
  · rw [back.ledger, ledger]
    exact ⟨_, rfl, rfl⟩

end Draining
end PointExchange
