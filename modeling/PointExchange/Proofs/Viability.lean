import PointExchange.Proofs.Gas

/-!
# Viable messages

A message is viable when a batch of its own could carry it out. While the collaborators of a drain
are well the drain accepts the viable ones among the messages that it takes, and drops the others
(`Drains.settled`); and it takes a payload whenever there is one (`Drains.progress`).
-/

namespace PointExchange

/-- How many calls a request takes, its permit included; none if the signature of the permit cannot
be split. -/
def ExchangeRequest.calls? : ExchangeRequest → Option Nat
  | .deposit _ => some 1
  | .withdraw r =>
    match r.permit with
    | none => some 1
    | some p => (SplitSignature.ofBytes p.signature).toOption.map fun _ => 2

/-- The message is a request of an account whose calls do not fail, and fits the budget by
itself. -/
def Message.isViable (settings : BatchConfig) (reverting : List Address) (m : Message) : Bool :=
  (m.request.toOption.bind ExchangeRequest.calls?).any fun n =>
    decide (m.account ∉ reverting) && decide (batchGas n ≤ settings.gasBudget.toNat)

/-- The call carries a message out: a deposit that is signed by one of the keys, or a withdrawal
as its user has signed it. -/
inductive Carries (keys : List Signer) (settings : BatchConfig) (m : Message) : Bytes → Prop
  | deposit (r : DepositRequest) (k : Signer) (nonce : Word)
    (request : m.request = .ok (.deposit r)) (key : k ∈ keys) :
    Carries keys settings m
      ((r.authorization settings k.address nonce).call k SimulatedChain.domain).encode
  | withdraw (r : WithdrawRequest) (request : m.request = .ok (.withdraw r)) :
    Carries keys settings m (WithdrawCall.ofRequest r).encode

theorem Message.not_mem_of_viable {settings : BatchConfig} {reverting : List Address} {m : Message}
    (h : m.isViable settings reverting = true) : m.account ∉ reverting := by
  rw [isViable, Option.any_eq_true] at h
  obtain ⟨n, -, hn⟩ := h
  rw [Bool.and_eq_true, decide_eq_true_eq] at hn
  exact hn.1

/-- A deposit call tells its account. -/
theorem DepositAuthorization.accountOf?_call (a : DepositAuthorization) (signer : Signer)
    (domain : SigningDomain) :
    SimulatedChain.accountOf? (a.call signer domain).encode = some a.account := by
  apply SimulatedChain.accountOf?_deposit
  rw [DepositAuthorization.length_signature_call]
  decide

section Offers

variable {start : SimulatedChain} {settings : BatchConfig} {m : Message} {b b' : Batch}
  {w : Bench SimulatedChain} {o : Offer}

/-- A withdrawal takes its call and that of its permit. -/
theorem calls?_withdraw (r : WithdrawRequest) (s : Address) :
    (ExchangeRequest.withdraw r).calls? =
      (Drafting.permitCall? r s).toOption.map fun permit => permit.toList.length + 1 := by
  rw [ExchangeRequest.calls?, Drafting.permitCall?]
  cases r.permit with
  | none => rfl
  | some p =>
    simp only [permitCalldata, PermitCall.ofRequest]
    cases SplitSignature.ofBytes p.signature <;> rfl

/-- A message that makes no offer is not viable. -/
theorem Drafting.Task.not_viable {s : Address} {e : MessageError}
    (h : Drafting.Task.ofMessage m s = .error e) (reverting : List Address) :
    m.isViable settings reverting = false := by
  unfold ofMessage at h
  rw [Message.isViable]
  cases hr : m.request with
  | error x => rfl
  | ok x =>
    cases x with
    | deposit r => simp [hr, bind, Except.bind, pure, Except.pure] at h
    | withdraw r =>
      have hp : permitCall? r s = .error e := by
        cases hp : permitCall? r s with
        | error x => simpa [hr, hp, bind, Except.bind] using h
        | ok x => simp [hr, hp, bind, Except.bind, pure, Except.pure] at h
      show ((ExchangeRequest.withdraw r).calls?).any _ = false
      rw [calls?_withdraw r s, hp]
      rfl

/-- An offer takes as many calls as the request, and is about the account of the message. -/
theorem Offered.request (h : Offered start settings m b w o b')
    (hm : ∀ b ∈ m.signature, b.length < 2 ^ 64) :
    m.request.toOption.bind ExchangeRequest.calls? = some (o.permits.length + 1) ∧
      SimulatedChain.accountOf? o.call = some m.account := by
  cases h with
  | deposit r i manager k task =>
    have hr := Drafting.Task.ofMessage_deposit_iff.mp task
    refine ⟨by rw [hr]; rfl, ?_⟩
    rw [← Message.account_of_deposit hr]
    exact DepositAuthorization.accountOf?_call _ _ _
  | withdraw r permit task =>
    obtain ⟨hr, hp⟩ := Drafting.Task.ofMessage_withdraw_iff.mp task
    obtain ⟨ha, hs⟩ := Message.fields_of_withdraw hr
    refine ⟨?_, ?_⟩
    · rw [hr]
      show (ExchangeRequest.withdraw r).calls? = _
      rw [calls?_withdraw r SimulatedChain.pointManager, hp]
      rfl
    · rw [← ha]
      exact SimulatedChain.accountOf?_withdraw _ (hm _ hs)

/-- Whether a message is viable is told by its offer. -/
theorem Offered.isViable_eq (h : Offered start settings m b w o b')
    (hm : ∀ b ∈ m.signature, b.length < 2 ^ 64) :
    m.isViable settings w.chain.reverting = (!w.chain.rejects o.call &&
      decide (batchGas (o.permits.length + 1) ≤ settings.gasBudget.toNat)) := by
  obtain ⟨hr, ha⟩ := h.request hm
  rw [Message.isViable, hr, Option.any_some, SimulatedChain.rejects, ha, Option.any_some,
    decide_not]

/-- The call of an offer carries its message out. -/
theorem Offered.carries (h : Offered start settings m b w o b')
    (hk : w.chain.managers = start.managers) (hd : b.domainOf = SimulatedChain.domain) :
    Carries start.managers settings m o.call := by
  cases h with
  | withdraw r permit task => exact .withdraw r (Drafting.Task.ofMessage_withdraw_iff.mp task).1
  | deposit r i manager k task picks address key =>
    rw [hk] at key
    obtain ⟨hm, hmem⟩ := address_of_key address key
    have hr := Drafting.Task.ofMessage_deposit_iff.mp task
    show Carries start.managers settings m
      ((r.authorization settings manager (b.nonceOf w.chain manager)).call k b.domainOf).encode
    rw [hd, hm]
    exact .deposit r k _ hr hmem

end Offers

/-! ## Drains while all is well -/

/-- The collaborators of a drain are well. -/
structure Bench.Well (start : SimulatedChain) (w : Bench SimulatedChain) : Prop where
  managers : w.chain.managers = start.managers
  some_manager : start.managers ≠ []
  indices : w.indices.unavailable = false
  estimates : w.chain.estimateUnavailable = false

theorem Bench.Well.of_eq {start : SimulatedChain} {w w' : Bench SimulatedChain} (h : w.Well start)
    (hq : w'.chain.quiet = w.chain.quiet) (hi : w'.indices = w.indices) : w'.Well start where
  managers := (congrArg SimulatedChain.managers hq :).trans h.managers
  some_manager := h.some_manager
  indices := by rw [hi, h.indices]
  estimates := (congrArg SimulatedChain.estimateUnavailable hq :).trans h.estimates

/-- The batch can be carried out on the chain, and there is room in it for the messages left. -/
structure Batch.Fitting (start c : SimulatedChain) (left : Nat) (b : Batch) : Prop where
  index : ∀ i, b.managerIndex = some i → i.toNat < start.managers.length
  domain : b.domainOf = SimulatedChain.domain
  accepts : ∀ call ∈ b.calls ++ b.permits, c.rejects call = false
  lengths : ∀ call ∈ b.calls ++ b.permits, call.length < 2 ^ 66
  size : b.calls.length + b.permits.length + 2 * left ≤ 2 ^ 33

theorem Batch.Fitting.sized {start c : SimulatedChain} {left : Nat} {b : Batch}
    (fit : b.Fitting start c left) : b.Sized (2 ^ 33) left :=
  ⟨fit.lengths, fit.size⟩

/-- A remainder by the size of a pool is the place of a key. -/
theorem toNat_mod_poolModulus_lt {n : Nat} (h : 0 < n) (stored : UInt64) :
    (stored % poolModulus n.toUInt64).toNat < n := by
  have hn : n.toUInt64.toNat = n % 2 ^ 64 := UInt64.toNat_ofNat'
  have hle : n % 2 ^ 64 ≤ n := Nat.mod_le _ _
  rw [UInt64.toNat_mod, poolModulus]
  by_cases h0 : n.toUInt64 = 0
  · rw [if_pos h0]
    show stored.toNat % 1 < n
    rw [Nat.mod_one]
    exact h
  · have hpos : 0 < n.toUInt64.toNat := by
      refine Nat.pos_of_ne_zero fun hz => h0 ?_
      exact UInt64.toNat_inj.mp hz
    rw [if_neg h0]
    have := Nat.mod_lt stored.toNat hpos
    omega

/-- A batch with nothing in it has room for as many messages as a queue can count. -/
theorem Batch.Fitting.empty {start c : SimulatedChain} {left : Nat} (h : left < 2 ^ 32) :
    Batch.Fitting start c left {} := by
  refine ⟨by simp, rfl, by simp, by simp, ?_⟩
  show 0 + 0 + 2 * left ≤ 2 ^ 33
  omega

theorem keyAt_ok {α : Type} {role : KeyRole} {pool : List α} {i : UInt64}
    (h : i.toNat < pool.length) : keyAt role pool i = .ok pool[i.toNat] :=
  keyAt_eq_ok_iff.mpr (List.getElem?_eq_getElem h)

section Well

variable {start : SimulatedChain} {settings : BatchConfig} {m : Message} {b b' : Batch}
  {w : Bench SimulatedChain} {o : Offer} {left : Nat}

theorem Batch.Fitting.picks_lt (fit : b.Fitting start w.chain left) (well : w.Well start)
    {i : UInt64} (h : b.Picks start w i) : i.toNat < start.managers.length := by
  cases h with
  | settled h => exact fit.index i h
  | fresh stored h hs hi =>
    rw [hi]
    exact toNat_mod_poolModulus_lt (List.length_pos_iff.mpr well.some_manager) stored

/-- Collaborators that are well fail no message. -/
theorem Bench.Well.not_broken (well : w.Well start) (fit : b.Fitting start w.chain left) :
    ¬Broken start b w := by
  intro h
  cases h with
  | indices h => exact absurd (h.symm.trans well.indices) (by decide)
  | address i picks h =>
    have hk : keyAt .manager start.managers i = .ok _ := keyAt_ok (fit.picks_lt well picks)
    exact h _ (congrArg (Except.map Signer.address) hk)
  | key i picks h =>
    rw [well.managers] at h
    exact h _ (keyAt_ok (fit.picks_lt well picks))
  | estimate h => exact absurd (h.symm.trans well.estimates) (by decide)

theorem Offered.permit_not_rejected (h : Offered start settings m b w o b') :
    ∀ p ∈ o.permits, w.chain.rejects p = false := by
  intro p hp
  obtain ⟨c, rfl⟩ := h.permits p hp
  rw [SimulatedChain.rejects, SimulatedChain.accountOf?_permit]
  rfl

/-- The judgement of an offer depends on its call and on how many calls stand before it. -/
theorem Offered.judgement_eq (h : Offered start settings m b w o b') (well : w.Well start)
    (fit : b.Fitting start w.chain (left + 1)) (hm : ∀ b ∈ m.signature, b.length < 2 ^ 64) :
    ∃ front gas, o.permits.length ≤ front ∧ (b.isEmpty = true → front = o.permits.length) ∧
      w.chain.judgement settings.gasBudget o.trial b.isEmpty =
        if w.chain.rejects o.call = true then .ok (some .dropped)
        else if batchGas (front + 1) ≤ settings.gasBudget.toNat then .ok none
        else if b.isEmpty = true then .ok (some .dropped)
        else .ok (some (.deferred gas settings.gasBudget)) := by
  obtain ⟨front, ht, hfront, hle, hge, halone⟩ := h.trial_eq
  have hsize := fit.size
  have hpermits := h.permits_le
  have hc : Carriable (front ++ [o.call]) := ht ▸ h.carriable_trial fit.sized (by decide) hm
  have hr : ∀ c ∈ front, w.chain.rejects c = false := fun c hc =>
    (hfront c hc).elim (fit.accepts c) (h.permit_not_rejected c)
  refine ⟨front.length,
    SimulatedChain.baseGas + SimulatedChain.callGas * UInt64.ofNat (front.length + 1), hge,
    fun ha => by rw [halone ha], ?_⟩
  rw [ht, w.chain.judgement_eq well.estimates hc hr (by omega)]

/-- **An offer is accepted only if its message is viable, dropped only if it is not, and deferred
only by a batch that is not empty.** -/
theorem Offered.judged (h : Offered start settings m b w o b') (well : w.Well start)
    (fit : b.Fitting start w.chain (left + 1)) (hm : ∀ b ∈ m.signature, b.length < 2 ^ 64)
    {v : Option Verdict}
    (hj : w.chain.judgement settings.gasBudget o.trial b.isEmpty = .ok v) :
    (v = none → m.isViable settings w.chain.reverting = true) ∧
      (v = some .dropped → m.isViable settings w.chain.reverting = false) ∧
      ∀ gas budget, v = some (.deferred gas budget) → b.isEmpty = false := by
  obtain ⟨front, gas, hge, halone, he⟩ := h.judgement_eq well fit hm
  rw [he] at hj
  rw [h.isViable_eq hm]
  by_cases hrej : w.chain.rejects o.call = true
  · rw [if_pos hrej] at hj
    obtain rfl := Except.ok.inj hj
    simp [hrej]
  rw [if_neg hrej] at hj
  rw [Bool.not_eq_true] at hrej
  -- what does not fit behind other calls may still fit alone
  by_cases hb : batchGas (front + 1) ≤ settings.gasBudget.toNat
  · rw [if_pos hb] at hj
    obtain rfl := Except.ok.inj hj
    have hb' : batchGas (o.permits.length + 1) ≤ settings.gasBudget.toNat :=
      Nat.le_trans (batchGas_mono (Nat.succ_le_succ hge)) hb
    simp [hrej, hb']
  rw [if_neg hb] at hj
  by_cases ha : b.isEmpty = true
  · rw [if_pos ha] at hj
    obtain rfl := Except.ok.inj hj
    rw [halone ha] at hb
    simp [hb]
  · rw [if_neg ha] at hj
    obtain rfl := Except.ok.inj hj
    simpa using ha

/-- A batch stays fitting with an offer that is dropped. -/
theorem Offered.fitting_keepPermits (h : Offered start settings m b w o b') (well : w.Well start)
    (fit : b.Fitting start w.chain (left + 1)) : (b'.keepPermits o).Fitting start w.chain left := by
  have sized := h.sized_keepPermits fit.sized
  refine ⟨?_, h.prepared.domainOf fit.domain, ?_, sized.lengths, sized.size⟩
  · cases h with
    | withdraw => exact fit.index
    | deposit r i manager k task picks address key =>
      intro j hj
      obtain rfl : i = j := Option.some.inj hj
      exact fit.picks_lt well picks
  · intro c hc
    rw [Batch.keepPermits, h.prepared.calls, h.prepared.permits, ← List.append_assoc] at hc
    rcases List.mem_append.mp hc with hc | hc
    · exact fit.accepts c hc
    · exact h.permit_not_rejected c hc

theorem Batch.Fitting.of_quiet {c c' : SimulatedChain} (fit : b.Fitting start c left)
    (h : c'.quiet = c.quiet) : b.Fitting start c' left :=
  { fit with accepts := fun call hc => by rw [SimulatedChain.rejects_congr h, fit.accepts call hc] }

/-- A payload that is no request takes no room. -/
theorem Batch.Fitting.pass {c : SimulatedChain} (fit : b.Fitting start c (left + 1)) :
    b.Fitting start c left :=
  { fit with size := Nat.le_trans (Nat.add_le_add_left (by omega) _) fit.size }

/-- A batch stays fitting with an offer that is accepted. -/
theorem Offered.fitting_accept (h : Offered start settings m b w o b') (well : w.Well start)
    (fit : b.Fitting start w.chain (left + 1)) (hm : ∀ b ∈ m.signature, b.length < 2 ^ 64)
    (viable : m.isViable settings w.chain.reverting = true) :
    (b'.accept m.id o).Fitting start w.chain left := by
  have hk := h.fitting_keepPermits well fit
  have sized := h.sized_accept fit.sized hm
  have hr : w.chain.rejects o.call = false := by
    rw [h.isViable_eq hm, Bool.and_eq_true, Bool.not_eq_true'] at viable
    exact viable.1
  refine ⟨hk.index, hk.domain, fun c hc => ?_, sized.lengths, sized.size⟩
  rcases Batch.mem_accept.mp hc with hc | rfl
  · exact hk.accepts c hc
  · exact hr

/-- A message that is dropped is not viable, and the drafting goes on as well as before. -/
theorem Handled.settled {d d' : Drafting (Bench SimulatedChain)}
    (h : Handled start settings m d (.ok .dropped) d') (well : d.env.Well start)
    (fit : d.batch.Fitting start d.env.chain (left + 1))
    (hm : ∀ b ∈ m.signature, b.length < 2 ^ 64) :
    m.isViable settings d.env.chain.reverting = false ∧ d'.env.Well start ∧
      d'.batch.Fitting start d'.env.chain left := by
  have hq : d'.env.chain.quiet = d.env.chain.quiet := (congrArg Bench.chain h.failing :)
  have hw := well.of_eq hq (congrArg Bench.indices h.failing :)
  cases h with
  | rejected e w task => exact ⟨Drafting.Task.not_viable task _, hw, fit.pass.of_quiet hq⟩
  | dropped o b w offered judged =>
    exact ⟨(offered.judged well fit hm judged).2.1 rfl, hw,
      (offered.fitting_keepPermits well fit).of_quiet hq⟩

end Well

/-- The fate of a message is the right one: it is accepted with a call that carries it out if it is
viable, and dropped if it is not. -/
def Fate.Right (keys : List Signer) (settings : BatchConfig) (reverting : List Address) :
    Fate → Prop
  | accepted m o => m.isViable settings reverting = true ∧ Carries keys settings m o.call
  | dropped m => m.isViable settings reverting = false

namespace Drains

variable {start : SimulatedChain} {settings : BatchConfig} {n : Nat} {q : MessageQueue}
  {d : Drafting (Bench SimulatedChain)} {log : List Fate} {r : Drained (Bench SimulatedChain)}

/-- **While the collaborators are well every message that a drain takes has the right fate,** and
no collaborator stops the drain. -/
theorem settled (h : Drains start settings n q d log r) (hq : q.unavailable = false)
    (well : d.env.Well start) (fit : d.batch.Fitting start d.env.chain q.payloads.length)
    (fits : PayloadsFit q.payloads) :
    (∀ f ∈ log, f.Right start.managers settings d.env.chain.reverting) ∧
      ∀ reason, r.stop ≠ .infrastructure reason := by
  induction h with
  | @halted n q d stop why =>
    refine ⟨by simp, fun reason hr => ?_⟩
    cases why with
    | limit => simp [Drafting.close] at hr
    | unreachable reason hu => exact absurd (hu.symm.trans hq) (by decide)
    | empty => simp [Drafting.close] at hr
  | @undecodable n q d log r p rest e queue decoded next ih =>
    rw [queue] at fit fits
    exact ih hq well fit.pass fits.tail
  | @dropped n q d log r p rest m d' queue decoded handled next ih =>
    rw [queue] at fit fits
    have hm := fits.head decoded
    obtain ⟨hv, hw, hf⟩ := handled.settled well fit hm
    obtain ⟨hlog, hstop⟩ := ih hq hw hf fits.tail
    have hr : d'.env.chain.reverting = d.env.chain.reverting :=
      (congrArg (fun w => w.chain.reverting) handled.failing :)
    rw [hr] at hlog
    exact ⟨List.forall_mem_cons.mpr ⟨hv, hlog⟩, hstop⟩
  | @accepted n q d log r p rest m o b w queue decoded offered judged env next ih =>
    rw [queue] at fit fits
    have hm := fits.head decoded
    have hv := (offered.judged well fit hm judged).1 rfl
    have hqu : w.chain.quiet = d.env.chain.quiet := (congrArg Bench.chain env :)
    obtain ⟨hlog, hstop⟩ := ih hq (well.of_eq hqu (congrArg Bench.indices env :))
      ((offered.fitting_accept well fit hm hv).of_quiet hqu) fits.tail
    have hr : w.chain.reverting = d.env.chain.reverting :=
      (congrArg SimulatedChain.reverting hqu :)
    rw [show (Drafting.mk (b.accept m.id o) w).env = w from rfl, hr] at hlog
    exact ⟨List.forall_mem_cons.mpr ⟨⟨hv, offered.carries well.managers fit.domain⟩, hlog⟩, hstop⟩
  | @full n q d p rest m o b w stop queue decoded offered judged env why =>
    rw [queue] at fit fits
    have hm := fits.head decoded
    have hv := (offered.judged well fit hm judged).1 rfl
    refine ⟨List.forall_mem_cons.mpr
      ⟨⟨hv, offered.carries well.managers fit.domain⟩, by simp⟩, fun reason hr => ?_⟩
    cases why <;> simp [Drafting.close] at hr
  | deferred => exact ⟨by simp, fun reason hr => by simp [Drafting.close] at hr⟩
  | broken p rest m fault b w queue decoded prepared why =>
    rw [queue] at fit
    exact absurd why (well.not_broken fit)

/-- A drain leaves no more payloads than there were. -/
theorem length_le (h : Drains start settings n q d log r) :
    r.site.queue.payloads.length ≤ q.payloads.length := by
  obtain ⟨front, hf, -⟩ := h.taken
  rw [hf, List.length_append]
  exact Nat.le_add_left _ _

/-- A drain does not halt at once when there is a payload, unless its limit is zero. -/
theorem not_halts {stop : StopReason} (hl : settings.limitReached 0 = false)
    (hq : q.unavailable = false) (hn : q.payloads.length < 2 ^ 32) (hne : q.payloads ≠ []) :
    ¬Halts settings 0 q stop := by
  intro why
  cases why with
  | limit h => exact absurd (h.symm.trans hl) (by decide)
  | unreachable reason hu => exact absurd (hu.symm.trans hq) (by decide)
  | empty h =>
    have hz := congrArg UInt32.toNat h
    rw [UInt32.toNat_ofNat', Nat.mod_eq_of_lt hn] at hz
    exact absurd (List.length_eq_zero_iff.mp hz) hne

/-- **A drain takes a payload when there is one,** unless its limit is zero. -/
theorem progress {w : Bench SimulatedChain} (h : Drains start settings 0 q ⟨{}, w⟩ log r)
    (hl : settings.limitReached 0 = false) (hq : q.unavailable = false) (well : w.Well start)
    (fits : PayloadsFit q.payloads) (hn : q.payloads.length < 2 ^ 32) (hne : q.payloads ≠ []) :
    r.site.queue.payloads.length < q.payloads.length := by
  have fit : Batch.Fitting start w.chain q.payloads.length {} := .empty hn
  cases h with
  | halted stop why => exact absurd why (not_halts hl hq hn hne)
  | undecodable p rest e queue decoded next =>
    rw [queue]
    exact Nat.lt_succ_of_le next.length_le
  | dropped p rest m d' queue decoded handled next =>
    rw [queue]
    exact Nat.lt_succ_of_le next.length_le
  | accepted p rest m o b w queue decoded offered judged env next =>
    rw [queue]
    exact Nat.lt_succ_of_le next.length_le
  | full p rest m o b w stop queue =>
    rw [queue]
    exact Nat.lt_succ_self _
  | deferred p rest m o b w' gas budget queue decoded offered judged =>
    -- the first message of a batch is not deferred
    rw [queue] at fit fits
    have hm := fits.head decoded
    have he : Batch.isEmpty {} = false := (offered.judged well fit hm judged).2.2 gas budget rfl
    exact absurd he (by decide)
  | broken p rest m fault b w queue decoded prepared why =>
    rw [queue] at fit
    exact absurd why (well.not_broken fit)

end Drains
end PointExchange
