import PointExchange.Proofs.Healthy

/-!
# Hopeless messages make no difference

A payload is hopeless when no batch will ever take its call: it is no message, or no request, or its
permit cannot be split, or its account reverts. A drain that meets such payloads comes to the same
batch as one that never sees them (`hopeless_filtered`).

A hopeless message can settle who the manager is and what the signing domain is, and a deposit that
comes later settles the same. So two draftings are compared by what the next message can find out
from them (`Drafting.Alike`): alike draftings handle a message alike, and a hopeless message leads
to a drafting like the one before.
-/

namespace PointExchange

/-- No batch will ever take the call of the message, given the accounts that revert. A withdrawal
with a permit is not hopeless, because it leaves its permit behind. -/
def Message.isHopeless (reverting : List Address) (m : Message) : Bool :=
  match m.request with
  | .error _ => true
  | .ok (.deposit r) => r.account ∈ reverting
  | .ok (.withdraw r) =>
    match r.permit with
    | none => r.account ∈ reverting
    | some p => !(SplitSignature.ofBytes p.signature).isOk

/-- The payload is no message, or a hopeless one. -/
def isHopeless (reverting : List Address) (payload : Bytes) : Bool :=
  match Message.decode payload with
  | .error _ => true
  | .ok m => m.isHopeless reverting

/-- A message that a batch of its own could carry out is not hopeless. -/
theorem Message.not_hopeless_of_viable {settings : BatchConfig} {reverting : List Address}
    {m : Message} (h : m.isViable settings reverting = true) : m.isHopeless reverting = false := by
  have ha := not_mem_of_viable h
  unfold isHopeless
  cases hr : m.request with
  | error e => simp [isViable, hr, Except.toOption] at h
  | ok request =>
    cases request with
    | deposit r => simpa [account_of_deposit hr] using ha
    | withdraw r =>
      cases hp : r.permit with
      | none => simpa [hp, (fields_of_withdraw hr).1] using ha
      | some p =>
        cases hs : SplitSignature.ofBytes p.signature with
        | error reason => simp [isViable, hr, Except.toOption, ExchangeRequest.calls?, hp, hs] at h
        | ok x => simp [hp, hs, Except.isOk, Except.toBool]

/-! ## Draftings that are alike -/

/-- Two draftings that tell the next message the same. -/
structure Drafting.Alike (start : SimulatedChain) (d d' : Drafting (Bench SimulatedChain)) :
    Prop where
  calls : d'.batch.calls = d.batch.calls
  permits : d'.batch.permits = d.batch.permits
  accepted : d'.batch.accepted = d.batch.accepted
  lastNonce : d'.batch.lastNonce = d.batch.lastNonce
  domain : d'.batch.domainOf = d.batch.domainOf
  picks : ∀ i, d'.batch.Picks start d'.env i ↔ d.batch.Picks start d.env i
  chain : d'.env.chain.quiet = d.env.chain.quiet
  indices : d'.env.indices = d.env.indices

namespace Batch

variable {start : SimulatedChain} {b b' : Batch} {w w' : Bench SimulatedChain} {i j : UInt64}

theorem Picks.unique (h : b.Picks start w i) (h' : b.Picks start w j) : i = j := by
  cases h with
  | settled h =>
    cases h' with
    | settled h' => exact Option.some.inj (h.symm.trans h')
    | fresh _ h' => simp [h] at h'
  | fresh stored h hs hi =>
    cases h' with
    | settled h' => simp [h] at h'
    | fresh stored' _ hs' hj =>
      obtain rfl : stored = stored' := Except.ok.inj (hs.symm.trans hs')
      rw [hi, hj]

theorem picks_of_some (h : b.managerIndex = some i) : b.Picks start w j ↔ j = i := by
  constructor
  · intro hj
    exact hj.unique (.settled h)
  · rintro rfl
    exact .settled h

/-- Who is picked depends on the choice of the batch and on the indices. -/
theorem picks_congr (hb : b'.managerIndex = b.managerIndex) (hw : w'.indices = w.indices) :
    b'.Picks start w' i ↔ b.Picks start w i := by
  constructor
  · intro h
    cases h with
    | settled h => exact .settled (hb.symm.trans h)
    | fresh stored h hs hi => exact .fresh stored (hb.symm.trans h) (hw ▸ hs) hi
  · intro h
    cases h with
    | settled h => exact .settled (hb.trans h)
    | fresh stored h hs hi => exact .fresh stored (hb.trans h) (hw ▸ hs) hi

end Batch

namespace Drafting.Alike

variable {start : SimulatedChain} {d d' d'' : Drafting (Bench SimulatedChain)}

theorem refl (start : SimulatedChain) (d : Drafting (Bench SimulatedChain)) : d.Alike start d :=
  ⟨rfl, rfl, rfl, rfl, rfl, fun _ => .rfl, rfl, rfl⟩

theorem symm (h : d.Alike start d') : d'.Alike start d :=
  ⟨h.calls.symm, h.permits.symm, h.accepted.symm, h.lastNonce.symm, h.domain.symm,
    fun i => (h.picks i).symm, h.chain.symm, h.indices.symm⟩

theorem trans (h : d.Alike start d') (h' : d'.Alike start d'') : d.Alike start d'' where
  calls := h'.calls.trans h.calls
  permits := h'.permits.trans h.permits
  accepted := h'.accepted.trans h.accepted
  lastNonce := h'.lastNonce.trans h.lastNonce
  domain := h'.domain.trans h.domain
  picks i := (h'.picks i).trans (h.picks i)
  chain := h'.chain.trans h.chain
  indices := h'.indices.trans h.indices

/-- The environment may change in what no message finds out. -/
theorem of_env {b : Batch} {w w' : Bench SimulatedChain} (hq : w'.chain.quiet = w.chain.quiet)
    (hi : w'.indices = w.indices) : Alike start ⟨b, w⟩ ⟨b, w'⟩ :=
  ⟨rfl, rfl, rfl, rfl, rfl, fun _ => Batch.picks_congr rfl hi, hq, hi⟩

theorem well (h : d.Alike start d') (well : d.env.Well start) : d'.env.Well start :=
  well.of_eq h.chain h.indices

theorem fitting {left : Nat} (h : d.Alike start d') (well : d.env.Well start)
    (fit : d.batch.Fitting start d.env.chain left) :
    d'.batch.Fitting start d'.env.chain left := by
  have hcalls : d'.batch.calls ++ d'.batch.permits = d.batch.calls ++ d.batch.permits := by
    rw [h.calls, h.permits]
  refine ⟨fun i hi => ?_, h.domain.trans fit.domain, fun x hx => ?_, fun x hx => ?_, ?_⟩
  · exact fit.picks_lt well ((h.picks i).mp (.settled hi))
  · rw [SimulatedChain.rejects_congr h.chain]
    exact fit.accepts x (hcalls ▸ hx)
  · exact fit.lengths x (hcalls ▸ hx)
  · rw [h.calls, h.permits]
    exact fit.size

end Drafting.Alike

section Offers

variable {start : SimulatedChain} {settings : BatchConfig} {m : Message} {b b' b₁ b₁' : Batch}
  {w w' : Bench SimulatedChain} {o o' : Offer}

/-- A message makes one offer at most. -/
theorem Offered.unique (h : Offered start settings m b w o b₁)
    (h' : Offered start settings m b w o' b₁') : o' = o ∧ b₁' = b₁ := by
  cases h with
  | deposit r i manager k task picks address key =>
    cases h' with
    | withdraw r' permit' task' => simp [task] at task'
    | deposit r' i' manager' k' task' picks' address' key' =>
      obtain rfl : r = r' := by simpa [task] using task'
      obtain rfl := picks.unique picks'
      obtain rfl : manager = manager' := Except.ok.inj (address.symm.trans address')
      obtain rfl : k = k' := Except.ok.inj (key.symm.trans key')
      exact ⟨rfl, rfl⟩
  | withdraw r permit task =>
    cases h' with
    | deposit r' i' manager' k' task' => simp [task] at task'
    | withdraw r' permit' task' =>
      obtain ⟨rfl, rfl⟩ : r = r' ∧ permit = permit' := by simpa [task] using task'
      exact ⟨rfl, rfl⟩

/-- In a drafting that is alike a message makes the same offer, and leads to a drafting that is
alike. -/
theorem Offered.transport (h : Offered start settings m b w o b₁)
    (ha : Drafting.Alike start ⟨b, w⟩ ⟨b', w'⟩) :
    ∃ b₁', Offered start settings m b' w' o b₁' ∧ Drafting.Alike start ⟨b₁, w⟩ ⟨b₁', w'⟩ := by
  have hcalls : b'.calls = b.calls := ha.calls
  have hpermits : b'.permits = b.permits := ha.permits
  have hlast : b'.lastNonce = b.lastNonce := ha.lastNonce
  have hdomain : b'.domainOf = b.domainOf := ha.domain
  have hquiet : w'.chain.quiet = w.chain.quiet := ha.chain
  cases h with
  | withdraw r permit task =>
    have ho : b'.offerWithdraw r permit = b.offerWithdraw r permit := by
      rw [Batch.offerWithdraw, Batch.offerWithdraw, hcalls, hpermits, hlast]
    refine ⟨b', ?_, ha⟩
    rw [← ho]
    exact .withdraw r permit task
  | deposit r i manager k task picks address key =>
    have ho : b'.offerDeposit ((r.authorization settings manager
        (b'.nonceOf w'.chain manager)).call k b'.domainOf) (b'.nonceOf w'.chain manager) =
        b.offerDeposit ((r.authorization settings manager
          (b.nonceOf w.chain manager)).call k b.domainOf) (b.nonceOf w.chain manager) := by
      rw [Batch.nonceOf_congr hlast hquiet, hdomain, Batch.offerDeposit, Batch.offerDeposit, hcalls]
    have hmanagers : w'.chain.managers = w.chain.managers :=
      (congrArg SimulatedChain.managers hquiet :)
    refine ⟨{ b' with managerIndex := some i, domain := some b'.domainOf }, ?_, ?_⟩
    · rw [← ho]
      exact .deposit r i manager k task ((ha.picks i).mpr picks) address (hmanagers ▸ key)
    · exact ⟨hcalls, hpermits, ha.accepted, hlast, hdomain,
        fun _ => (Batch.picks_of_some rfl).trans (Batch.picks_of_some rfl).symm, hquiet, ha.indices⟩

/-- The batch after an offer was judged. -/
def Batch.conclude (b : Batch) (id : Uuid) (o : Offer) : Option Verdict → Batch
  | none | some .accepted => b.accept id o
  | some .dropped => b.keepPermits o
  | some (.deferred ..) => b

theorem Drafting.Alike.conclude (ha : Drafting.Alike start ⟨b, w⟩ ⟨b', w'⟩) (id : Uuid) (o : Offer)
    (v : Option Verdict) :
    Drafting.Alike start ⟨b.conclude id o v, w⟩ ⟨b'.conclude id o v, w'⟩ := by
  have hpermits : b'.permits ++ o.permits = b.permits ++ o.permits := congrArg (· ++ _) ha.permits
  have hpicks : ∀ c c' : Batch, c.managerIndex = b.managerIndex →
      c'.managerIndex = b'.managerIndex → ∀ i, c'.Picks start w' i ↔ c.Picks start w i := by
    intro c c' hc hc' i
    exact (Batch.picks_congr hc' rfl).trans ((ha.picks i).trans (Batch.picks_congr hc rfl).symm)
  have haccept : Drafting.Alike start ⟨b.accept id o, w⟩ ⟨b'.accept id o, w'⟩ :=
    ⟨congrArg (· ++ _) ha.calls, hpermits, congrArg (· ++ _) ha.accepted, rfl, ha.domain,
      hpicks _ _ rfl rfl, ha.chain, ha.indices⟩
  match v with
  | none => exact haccept
  | some .accepted => exact haccept
  | some .dropped =>
    exact ⟨ha.calls, hpermits, ha.accepted, ha.lastNonce, ha.domain, hpicks _ _ rfl rfl, ha.chain,
      ha.indices⟩
  | some (.deferred ..) => exact ha

/-- What becomes of a message that no collaborator fails. -/
inductive Concluded (start : SimulatedChain) (settings : BatchConfig) (m : Message)
    (d : Drafting (Bench SimulatedChain)) : Except Fault Verdict → Batch → Prop
  | rejected (e : MessageError)
    (task : Drafting.Task.ofMessage m SimulatedChain.pointManager = .error e) :
    Concluded start settings m d (.ok .dropped) d.batch
  | judged (o : Offer) (b : Batch) (v : Option Verdict)
    (offered : Offered start settings m d.batch d.env o b)
    (judgement : d.env.chain.judgement settings.gasBudget o.trial d.batch.isEmpty = .ok v) :
    Concluded start settings m d (.ok (v.getD .accepted)) (b.conclude m.id o v)

/-- Handling a message leaves what other messages find out as it was. -/
theorem Handled.frame {d d' : Drafting (Bench SimulatedChain)} {res : Except Fault Verdict}
    (h : Handled start settings m d res d') :
    d'.env.chain.quiet = d.env.chain.quiet ∧ d'.env.indices = d.env.indices := by
  have hs : ∀ w : Bench SimulatedChain,
      w.still = d.env.still ∨ w.still = d.env.still.failing m.id →
      w.chain.quiet = d.env.chain.quiet ∧ w.indices = d.env.indices := by
    rintro w (h | h)
    · exact ⟨(congrArg Bench.chain h :), (congrArg Bench.indices h :)⟩
    · exact ⟨(congrArg Bench.chain h :), (congrArg Bench.indices h :)⟩
  cases h with
  | rejected _ _ _ env => exact hs _ (.inr env)
  | broken _ _ _ _ _ env => exact hs _ (.inr env)
  | accepted _ _ _ _ _ env => exact hs _ (.inl env)
  | dropped _ _ _ _ _ env => exact hs _ (.inr env)
  | deferred _ _ _ _ _ _ _ env => exact hs _ (.inl env)

theorem Handled.concluded {d d' : Drafting (Bench SimulatedChain)} {res : Except Fault Verdict}
    (h : Handled start settings m d res d') (hb : ¬Broken start d.batch d.env) :
    Concluded start settings m d res d'.batch := by
  cases h with
  | rejected e w task => exact .rejected e task
  | broken fault b w prepared why => exact absurd why hb
  | accepted o b w offered judged => exact .judged o b none offered judged
  | dropped o b w offered judged => exact .judged o b (some .dropped) offered judged
  | deferred o b w gas budget offered judged =>
    exact .judged o b (some (.deferred gas budget)) offered judged

theorem Offered.task (h : Offered start settings m b w o b') (e : MessageError) :
    Drafting.Task.ofMessage m SimulatedChain.pointManager ≠ .error e := by
  cases h with
  | deposit r i manager k task => simp [task]
  | withdraw r permit task => simp [task]

/-- **Alike draftings handle a message alike.** -/
theorem Handled.alike {d d' d₁ d₁' : Drafting (Bench SimulatedChain)}
    {res res' : Except Fault Verdict} (h : Handled start settings m d res d₁)
    (h' : Handled start settings m d' res' d₁') (ha : d.Alike start d')
    (hb : ¬Broken start d.batch d.env) (hb' : ¬Broken start d'.batch d'.env) :
    res' = res ∧ d₁.Alike start d₁' := by
  obtain ⟨b₁, w₁⟩ := d₁
  obtain ⟨b₁', w₁'⟩ := d₁'
  obtain ⟨hq, hi⟩ := h.frame
  obtain ⟨hq', hi'⟩ := h'.frame
  have hfrom : ∀ b b' : Batch, Drafting.Alike start ⟨b, d.env⟩ ⟨b', d'.env⟩ →
      Drafting.Alike start ⟨b, w₁⟩ ⟨b', w₁'⟩ := fun b b' h =>
    ((Drafting.Alike.of_env hq hi).symm.trans h).trans (.of_env hq' hi')
  have hc : Concluded start settings m d res b₁ := h.concluded hb
  have hc' : Concluded start settings m d' res' b₁' := h'.concluded hb'
  cases hc with
  | rejected e task =>
    cases hc' with
    | rejected => exact ⟨rfl, hfrom _ _ ha⟩
    | judged o' b' v' offered' => exact absurd task (offered'.task e)
  | judged o b v offered judgement =>
    obtain ⟨b', hoffered, hb⟩ := offered.transport ha
    cases hc' with
    | rejected e task => exact absurd task (hoffered.task e)
    | judged o' b'' v' offered' judgement' =>
      obtain ⟨rfl, rfl⟩ := hoffered.unique offered'
      have hempty : d'.batch.isEmpty = d.batch.isEmpty := by
        rw [Batch.isEmpty, Batch.isEmpty, ha.calls, ha.permits]
      rw [SimulatedChain.judgement_congr ha.chain, hempty, judgement] at judgement'
      obtain rfl := Except.ok.inj judgement'
      exact ⟨rfl, hfrom _ _ (hb.conclude m.id _ v)⟩

/-! ## Hopeless messages -/

/-- The offer of a hopeless message is rejected, and has no permit. -/
theorem Offered.hopeless (h : Offered start settings m b w o b')
    (hm : ∀ b ∈ m.signature, b.length < 2 ^ 64) (hh : m.isHopeless w.chain.reverting = true) :
    w.chain.rejects o.call = true ∧ o.permits = [] := by
  have ha := (h.request hm).2
  rw [SimulatedChain.rejects, ha, Option.any_some, decide_eq_true_eq]
  unfold Message.isHopeless at hh
  cases h with
  | deposit r i manager k task =>
    have hr := Drafting.Task.ofMessage_deposit_iff.mp task
    rw [hr] at hh
    rw [← Message.account_of_deposit hr]
    exact ⟨by simpa using hh, rfl⟩
  | withdraw r permit task =>
    obtain ⟨hr, hp⟩ := Drafting.Task.ofMessage_withdraw_iff.mp task
    obtain ⟨hr', -⟩ := Message.fields_of_withdraw hr
    rw [hr] at hh
    cases hpermit : r.permit with
    | none =>
      simp only [hpermit, decide_eq_true_eq] at hh
      rw [← hr']
      refine ⟨hh, ?_⟩
      rw [Drafting.permitCall?, hpermit] at hp
      rw [← Except.ok.inj hp]
      rfl
    | some p =>
      -- a permit that cannot be split makes no offer
      simp only [hpermit] at hh
      rw [Drafting.permitCall?, hpermit] at hp
      cases hs : SplitSignature.ofBytes p.signature with
      | error reason => simp [permitCalldata, PermitCall.ofRequest, hs, Except.map] at hp
      | ok x => simp [hs, Except.isOk, Except.toBool] at hh

/-- What a message finds out that is offered and leaves nothing behind, the next one finds out. -/
theorem Offered.alike {d : Drafting (Bench SimulatedChain)}
    (h : Offered start settings m d.batch d.env o b) : d.Alike start ⟨b, d.env⟩ := by
  have hp := h.prepared
  refine ⟨hp.calls, hp.permits, hp.accepted, hp.lastNonce, ?_, ?_, rfl, rfl⟩
  · cases h with
    | deposit => rfl
    | withdraw => rfl
  · intro j
    cases h with
    | withdraw => exact .rfl
    | deposit r i manager k task picks =>
      refine (Batch.picks_of_some rfl).trans ⟨?_, fun hj => hj.unique picks⟩
      rintro rfl
      exact picks

/-- **A hopeless message is dropped, and the drafting is as good as before.** -/
theorem Handled.hopeless {d d' : Drafting (Bench SimulatedChain)} {res : Except Fault Verdict}
    {left : Nat} (h : Handled start settings m d res d') (well : d.env.Well start)
    (fit : d.batch.Fitting start d.env.chain (left + 1))
    (hm : ∀ b ∈ m.signature, b.length < 2 ^ 64)
    (hh : m.isHopeless d.env.chain.reverting = true) :
    res = .ok .dropped ∧ d.Alike start d' := by
  obtain ⟨b', w'⟩ := d'
  obtain ⟨hq, hi⟩ := h.frame
  have hc : Concluded start settings m d res b' := h.concluded (well.not_broken fit)
  cases hc with
  | rejected e task => exact ⟨rfl, .of_env hq hi⟩
  | judged o b v offered judgement =>
    obtain ⟨hr, hp⟩ := offered.hopeless hm hh
    obtain ⟨front, gas, -, -, hj⟩ := offered.judgement_eq well fit hm
    rw [if_pos hr, judgement] at hj
    obtain rfl := Except.ok.inj hj
    have hkeep : b.conclude m.id o (some .dropped) = b := by
      rw [Batch.conclude, Batch.keepPermits, hp, List.append_nil]
    rw [hkeep]
    exact ⟨rfl, offered.alike.trans (.of_env hq hi)⟩

/-- With a message that is accepted the drafting goes on as well as before. -/
theorem Handled.accepted_settled {d d' : Drafting (Bench SimulatedChain)} {left : Nat}
    (h : Handled start settings m d (.ok .accepted) d') (well : d.env.Well start)
    (fit : d.batch.Fitting start d.env.chain (left + 1))
    (hm : ∀ b ∈ m.signature, b.length < 2 ^ 64) :
    d'.env.Well start ∧ d'.batch.Fitting start d'.env.chain left := by
  obtain ⟨hq, hi⟩ := h.frame
  refine ⟨well.of_eq hq hi, ?_⟩
  cases h with
  | accepted o b w offered judged =>
    have hv := (offered.judged well fit hm judged).1 rfl
    exact (offered.fitting_accept well fit hm hv).of_quiet hq

end Offers

/-! ## Two drains -/

namespace Drafting

variable {start : SimulatedChain} {d d' : Drafting (Bench SimulatedChain)}

theorem alike_estimated (start : SimulatedChain) (d : Drafting (Bench SimulatedChain)) :
    d.Alike start d.estimated :=
  .of_env (Bench.still_chain (d.env.still_estimating _)) rfl

theorem Alike.checkBudget (ha : d.Alike start d') (budget : UInt64) :
    ∃ stop, d.checkBudget start.tools budget = (stop, d.estimated) ∧
      d'.checkBudget start.tools budget = (stop, d'.estimated) := by
  have he : (d'.env.chain.estimate SimulatedChain.pointManager
      (encodeMulticall (d'.batch.permits ++ d'.batch.calls))).1 =
      (d.env.chain.estimate SimulatedChain.pointManager
        (encodeMulticall (d.batch.permits ++ d.batch.calls))).1 := by
    rw [ha.calls, ha.permits, ← SimulatedChain.estimate_quiet d'.env.chain,
      ← SimulatedChain.estimate_quiet d.env.chain, ha.chain]
  refine ⟨_, checkBudget_eq start budget d, ?_⟩
  rw [checkBudget_eq, he]

end Drafting

/-- The payloads that are not hopeless. -/
abbrev hopeful (reverting : List Address) (payloads : List Bytes) : List Bytes :=
  payloads.filter fun p => !isHopeless reverting p

/-- Two drains come to the same, but for hopeless payloads that the first one leaves. -/
structure Drained.Agrees (reverting : List Address) (r r' : Drained (Bench SimulatedChain)) :
    Prop where
  calls : r'.batch.calls = r.batch.calls
  permits : r'.batch.permits = r.batch.permits
  accepted : r'.batch.accepted = r.batch.accepted
  lastNonce : r'.batch.lastNonce = r.batch.lastNonce
  stop : r'.stop = r.stop
  left : r'.site.queue.payloads = hopeful reverting r.site.queue.payloads

section Drains

variable {start : SimulatedChain} {settings : BatchConfig} {reverting : List Address}

theorem Drafting.Alike.close {d d' : Drafting (Bench SimulatedChain)} {q q' : MessageQueue}
    (h : d.Alike start d') (hq : q'.payloads = hopeful reverting q.payloads) (stop : StopReason) :
    (d.close q stop).Agrees reverting (d'.close q' stop) :=
  ⟨h.calls, h.permits, h.accepted, h.lastNonce, rfl, hq⟩

/-- A drain passes a hopeless payload, and goes on with a drafting as good as before. -/
theorem drain_hopeless {n : Nat} {q : MessageQueue} {d : Drafting (Bench SimulatedChain)}
    {p : Bytes} {rest : List Bytes} (room : settings.limitReached n = false)
    (hu : q.unavailable = false) (few : q.payloads.length < 2 ^ 32)
    (queue : q.payloads = p :: rest) (fits : PayloadsFit q.payloads) (well : d.env.Well start)
    (fit : d.batch.Fitting start d.env.chain (rest.length + 1))
    (hp : isHopeless d.env.chain.reverting p = true) :
    ∃ q₁ d₁, d.drain start.tools settings n q = Drafting.drain start.tools settings (n + 1) q₁ d₁ ∧
      q₁.payloads = rest ∧ q₁.unavailable = false ∧ d.Alike start d₁ ∧
      d₁.batch.Fitting start d₁.env.chain rest.length := by
  unfold isHopeless at hp
  cases hd : Message.decode p with
  | error e =>
    exact ⟨_, d, drain_cons_error room hu few queue hd, rfl, hu, .refl start d, fit.pass⟩
  | ok m =>
    rw [hd] at hp
    have hm := (queue ▸ fits : PayloadsFit (p :: rest)).head hd
    rw [drain_cons_ok room hu few queue hd]
    rcases hres : d.handle start.tools settings m with ⟨res, d₁⟩
    have hhandled := Drafting.handled_of hres
    obtain ⟨rfl, ha⟩ := hhandled.hopeless well fit hm hp
    exact ⟨_, d₁, rfl, rfl, hu, ha, (hhandled.settled well fit hm).2.2⟩

/-- Alike draftings give a message the same verdict. -/
theorem Drafting.Alike.handle {d d' : Drafting (Bench SimulatedChain)} {m : Message} {left : Nat}
    (ha : d.Alike start d') (settings : BatchConfig) (well : d.env.Well start)
    (fit : d.batch.Fitting start d.env.chain (left + 1))
    (hm : ∀ b ∈ m.signature, b.length < 2 ^ 64) :
    ∃ v d₁ d₁', d.handle start.tools settings m = (.ok v, d₁) ∧
      d'.handle start.tools settings m = (.ok v, d₁') ∧ d₁.Alike start d₁' ∧
      d₁.env.Well start ∧ d₁.env.chain.reverting = d.env.chain.reverting ∧
      ((∃ gas budget, v = .deferred gas budget) ∨
        d₁.batch.Fitting start d₁.env.chain left) := by
  have hb := well.not_broken fit
  have hb' := (ha.well well).not_broken (ha.fitting well fit)
  rcases hres : d.handle start.tools settings m with ⟨res, d₁⟩
  rcases hres' : d'.handle start.tools settings m with ⟨res', d₁'⟩
  have hhandled := Drafting.handled_of hres
  obtain ⟨rfl, ha₁⟩ := hhandled.alike (Drafting.handled_of hres') ha hb hb'
  have hw : d₁.env.Well start := well.of_eq hhandled.frame.1 hhandled.frame.2
  have hr : d₁.env.chain.reverting = d.env.chain.reverting :=
    (congrArg SimulatedChain.reverting hhandled.frame.1 :)
  match res' with
  | .error fault =>
    cases hhandled with
    | broken _ _ _ _ why => exact absurd why hb
  | .ok (.deferred gas budget) => exact ⟨_, d₁, d₁', rfl, rfl, ha₁, hw, hr, .inl ⟨gas, budget, rfl⟩⟩
  | .ok .dropped =>
    exact ⟨_, d₁, d₁', rfl, rfl, ha₁, hw, hr, .inr (hhandled.settled well fit hm).2.2⟩
  | .ok .accepted =>
    exact ⟨_, d₁, d₁', rfl, rfl, ha₁, hw, hr, .inr (hhandled.accepted_settled well fit hm).2⟩

/-- **Drains of alike draftings agree, if one of the queues is the other one without hopeless
payloads.** -/
theorem Drafting.Alike.drains (unlimited : settings.maxMessagesPerRun = none)
    {payloads : List Bytes} (fits : PayloadsFit payloads) (few : payloads.length < 2 ^ 32)
    {n n' : Nat} {q q' : MessageQueue} {d d' : Drafting (Bench SimulatedChain)}
    (hq : q.payloads = payloads) (hq' : q'.payloads = hopeful reverting payloads)
    (hu : q.unavailable = false) (hu' : q'.unavailable = false) (ha : d.Alike start d')
    (well : d.env.Well start) (fit : d.batch.Fitting start d.env.chain payloads.length)
    (hr : d.env.chain.reverting = reverting) :
    (d.drain start.tools settings n q).Agrees reverting (d'.drain start.tools settings n' q') := by
  have room : ∀ k, settings.limitReached k = false := by simp [BatchConfig.limitReached, unlimited]
  induction payloads generalizing n n' q q' d d' with
  | nil =>
    rw [drain_nil (room n) hu hq, drain_nil (room n') hu' hq']
    exact ha.close (by rw [hq, hq']) .queueEmpty
  | cons p rest ih =>
    have hsub : PayloadsFit rest := fits.tail
    have hfew : rest.length < 2 ^ 32 := Nat.lt_of_succ_lt few
    have hn : q.payloads.length < 2 ^ 32 := by rwa [hq]
    have hfits : PayloadsFit q.payloads := by rwa [hq]
    by_cases hp : isHopeless reverting p = true
    -- only the first drain sees the payload
    · obtain ⟨q₁, d₁, he, hq₁, hu₁, ha₁, hf⟩ :=
        drain_hopeless (room n) hu hn hq hfits well fit (by rwa [hr])
      have hr₁ := (congrArg SimulatedChain.reverting ha₁.chain :).trans hr
      rw [he]
      refine ih hsub hfew hq₁ ?_ hu₁ hu' (ha₁.symm.trans ha) (ha₁.well well) hf hr₁
      rw [hq', hopeful, List.filter_cons_of_neg (by simp [hp])]
    -- both drains see it
    · have hhead : q'.payloads = p :: hopeful reverting rest := by
        rw [hq', hopeful, List.filter_cons_of_pos (by simp [hp])]
      have hn' : q'.payloads.length < 2 ^ 32 := by
        rw [hq']
        exact Nat.lt_of_le_of_lt (List.length_filter_le _ _) few
      cases hd : Message.decode p with
      | error e => simp [isHopeless, hd] at hp
      | ok m =>
        have hm := fits.head hd
        obtain ⟨v, d₁, d₁', hv, hv', ha₁, hw, hr₁, hf⟩ := ha.handle settings well fit hm
        rw [drain_cons_ok (room n) hu hn hq hd, drain_cons_ok (room n') hu' hn' hhead hd, hv, hv']
        cases v with
        | deferred gas budget => exact ha₁.close (by rw [hq, hq']) _
        | dropped =>
          exact ih hsub hfew rfl rfl hu hu' ha₁ hw (hf.resolve_left (by simp)) (hr₁.trans hr)
        | accepted =>
          obtain ⟨stop, hc, hc'⟩ := ha₁.checkBudget settings.gasBudget
          have he := Drafting.alike_estimated start d₁
          have ha₂ := (he.symm.trans ha₁).trans (Drafting.alike_estimated start d₁')
          simp only [Drafting.proceed, hc, hc']
          cases stop with
          | some stop => exact ha₂.close rfl stop
          | none =>
            have hr₂ := (congrArg SimulatedChain.reverting he.chain :).trans (hr₁.trans hr)
            have hf₂ := he.fitting hw (hf.resolve_left (by simp))
            exact ih hsub hfew rfl rfl hu hu' ha₂ (he.well hw) hf₂ hr₂

end Drains

/-- **A drain comes to the same without the hopeless payloads of its queue.** -/
theorem hopeless_filtered (start : SimulatedChain) (s : Site (Bench SimulatedChain))
    (well : s.env.Well start) (available : s.queue.unavailable = false)
    (fits : PayloadsFit s.queue.payloads) (few : s.queue.payloads.length < 2 ^ 32)
    (unlimited : ∀ config, start.tools.config s.env = .ok config →
      config.batch.maxMessagesPerRun = none) :
    (s.drain start.tools).Agrees s.env.chain.reverting
      (({ s with queue := { s.queue with
          payloads := hopeful s.env.chain.reverting s.queue.payloads } } :
        Site (Bench SimulatedChain)).drain start.tools) := by
  unfold Site.drain
  cases h : start.tools.config s.env with
  | error e => exact ⟨rfl, rfl, rfl, rfl, rfl, rfl⟩
  | ok config =>
    exact (Drafting.Alike.refl start ⟨{}, s.env⟩).drains (unlimited config h) fits few rfl rfl
      available available well (.empty few) rfl

theorem decode_nil : ∃ e, Message.decode [] = .error e := by
  have h : (Message.decode []).isOk = false := by decide +kernel
  cases hd : Message.decode [] with
  | error e => exact ⟨e, rfl⟩
  | ok m => simp [hd, Except.isOk, Except.toBool] at h

/-- A site with one deposit, and an empty payload in front of it. -/
def Site.spoiled : Site (Bench SimulatedChain) :=
  { oneDeposit with queue := { payloads := [[], depositPayload] } }

theorem Site.spoiled_fits : PayloadsFit spoiled.queue.payloads := by
  obtain ⟨e, he⟩ := decode_nil
  refine ⟨by decide, ?_⟩
  rw [show spoiled.queue.payloads = [] :: oneDeposit.queue.payloads from rfl,
    messagesOf_cons_error he]
  exact oneDeposit_fits.signatures

theorem hopeful_spoiled : hopeful [] Site.spoiled.queue.payloads = [depositPayload] := by
  obtain ⟨e, he⟩ := decode_nil
  obtain ⟨m, hm, -, -, -, hv⟩ := decode_depositPayload
  have hempty : isHopeless [] [] = true := by rw [isHopeless, he]
  have hdeposit : isHopeless [] depositPayload = false := by
    rw [isHopeless, hm]
    exact Message.not_hopeless_of_viable hv
  simp [hopeful, Site.spoiled, hempty, hdeposit]

theorem hopeless_filtered_spoiled :
    hopeful [] Site.spoiled.queue.payloads = [depositPayload] ∧
      (Site.spoiled.drain Site.oneDeposit.env.chain.tools).Agrees []
        (({ Site.spoiled with queue := { Site.spoiled.queue with
            payloads := hopeful [] Site.spoiled.queue.payloads } } :
          Site (Bench SimulatedChain)).drain Site.oneDeposit.env.chain.tools) := by
  have unlimited : ∀ config,
      Site.oneDeposit.env.chain.tools.config Site.spoiled.env = .ok config →
        config.batch.maxMessagesPerRun = none := by
    intro config h
    obtain rfl := Except.ok.inj h
    rfl
  exact ⟨hopeful_spoiled, hopeless_filtered Site.oneDeposit.env.chain Site.spoiled
    Site.oneDeposit_healthy.env.toWell rfl Site.spoiled_fits (by decide) unlimited⟩

end PointExchange
