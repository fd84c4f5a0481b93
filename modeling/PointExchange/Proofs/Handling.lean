import PointExchange.Bench
import PointExchange.Proofs.Chain

/-!
# What becomes of a message

`Drafting.handle` talks to its collaborators in a fixed order and any of these calls can end it.
Here this is told once, as the cases of `Handled`, for collaborators in memory with a simulated
chain: a message is no request, or a collaborator fails, or the message makes an *offer*, which the
trial estimate accepts, drops or defers. Later proofs go by these cases and never open
`Drafting.handle` again.

## What handling leaves behind

On the chain, notes of estimates and signatures only (`SimulatedChain.quiet`). In the ledger, one
record may be failed. All else is as it was (`Bench.still`).
-/

namespace PointExchange

/-- The collaborators of a run over a simulated chain. -/
abbrev SimulatedChain.tools (start : SimulatedChain) : Collaborators (Bench SimulatedChain) :=
  start.runner.toCollaborators

namespace Bench

/-- The bench without the notes of estimates and signatures. -/
def still (w : Bench SimulatedChain) : Bench SimulatedChain := { w with chain := w.chain.quiet }

/-- The bench with the record of an identifier failed, if it is pending. -/
def failing (w : Bench SimulatedChain) (id : Uuid) : Bench SimulatedChain :=
  { w with ledger := (w.ledger.updateStatus id .failed).2 }

/-- The bench after a trial was estimated. -/
def estimating (w : Bench SimulatedChain) (trial : List Bytes) : Bench SimulatedChain :=
  { w with
    chain := (w.chain.estimate SimulatedChain.pointManager (encodeMulticall trial)).2 }

@[simp] theorem still_failing (w : Bench SimulatedChain) (id : Uuid) :
    (w.failing id).still = w.still.failing id := rfl

@[simp] theorem still_estimating (w : Bench SimulatedChain) (trial : List Bytes) :
    (w.estimating trial).still = w.still := by
  rw [still, estimating, SimulatedChain.quiet_estimate, still]

theorem still_chain {w w' : Bench SimulatedChain} (h : w'.still = w.still) :
    w'.chain.quiet = w.chain.quiet :=
  congrArg Bench.chain h

end Bench

/-! ## Judging a trial -/

namespace SimulatedChain

/-- What an estimate says about a trial; `none` when it fits. -/
def judgement (c : SimulatedChain) (budget : UInt64) (trial : List Bytes) (alone : Bool) :
    Except GatewayError (Option Verdict) :=
  match (c.estimate pointManager (encodeMulticall trial)).1 with
  | .ok gas =>
    if gas ≤ budget then .ok none
    else if alone then .ok (some .dropped)
    else .ok (some (.deferred gas budget))
  | .error (.reverted _) => .ok (some .dropped)
  | .error (.unavailable e) => .error e

theorem gasOfAll_quiet (c : SimulatedChain) (calls : List Bytes) (total : UInt64) :
    c.quiet.gasOfAll calls total = c.gasOfAll calls total := by
  induction calls generalizing total with
  | nil => rfl
  | cons call rest ih =>
    rw [gasOfAll, gasOfAll, show c.quiet.gasOf call = c.gasOf call from rfl]
    cases c.gasOf call with
    | ok gas => exact ih _
    | error e => rfl

/-- An estimate does not depend on what earlier ones have left behind. -/
theorem estimate_quiet (c : SimulatedChain) (target : Address) (input : Bytes) :
    (c.quiet.estimate target input).1 = (c.estimate target input).1 := by
  rw [estimate, estimate, show c.quiet.estimateUnavailable = c.estimateUnavailable from rfl]
  by_cases h : c.estimateUnavailable = true
  · rw [if_pos h, if_pos h]
  · rw [if_neg h, if_neg h]
    by_cases ht : target = pointToken
    · rw [if_pos ht, if_pos ht]
    · rw [if_neg ht, if_neg ht]
      exact c.gasOfAll_quiet _ _

theorem judgement_congr {c c' : SimulatedChain} (h : c'.quiet = c.quiet) (budget : UInt64)
    (trial : List Bytes) (alone : Bool) :
    c'.judgement budget trial alone = c.judgement budget trial alone := by
  rw [judgement, judgement, ← estimate_quiet c', ← estimate_quiet c, h]

end SimulatedChain

namespace Drafting

variable {E : Type}

theorem perform_call {ε α : Type} (c : Call E ε α) (f : ε → Fault) (d : Drafting E) :
    (call c f).perform d =
      match c.perform d.env with
      | (.ok a, e) => (.ok a, { d with env := e })
      | (.error x, e) => (.error (f x), { d with env := e }) := by
  rw [call, Call.perform_inside, Call.perform_orElse]
  rcases c.perform d.env with ⟨_ | _, e⟩ <;> rfl

section Bench

variable (start : SimulatedChain) (d : Drafting (Bench SimulatedChain))

theorem perform_index (role : KeyRole) (w : Bench SimulatedChain) :
    (start.tools.indices.get role).perform w = (w.indices.get role, w) := rfl

theorem perform_nonce (a : Address) (w : Bench SimulatedChain) :
    (start.tools.gateway.signatureNonce a).perform w = (.ok (w.chain.managerNonce a), w) := rfl

theorem perform_domain (w : Bench SimulatedChain) :
    start.tools.gateway.chainDomain.perform w = (.ok SimulatedChain.domain,
      { w with chain := { w.chain with domainCalls := w.chain.domainCalls + 1 } }) := rfl

theorem perform_signDeposit (i : UInt64) (s : SigningDomain) (a : DepositAuthorization)
    (w : Bench SimulatedChain) :
    (start.tools.gateway.signDeposit i s a).perform w =
      ((w.chain.signDeposit i s a).1, { w with chain := (w.chain.signDeposit i s a).2 }) := rfl

theorem perform_judge (budget : UInt64) (id : Uuid) (trial : List Bytes) (alone : Bool) :
    (judge start.tools budget id trial alone).perform d =
      match d.env.chain.judgement budget trial alone with
      | .ok none => (.ok none, { d with env := d.env.estimating trial })
      | .ok (some .dropped) =>
        (.ok (some .dropped), { d with env := (d.env.estimating trial).failing id })
      | .ok (some v) => (.ok (some v), { d with env := d.env.estimating trial })
      | .error e =>
        (.error ("gas estimation unavailable" :: e.chain),
          { d with env := d.env.estimating trial }) := by
  have he : ((start.tools.gateway.estimateGas start.tools.gateway.pointManager
      (encodeMulticall trial)).attempt : Call _ Fault _).perform d.env =
      (.ok (d.env.chain.estimate SimulatedChain.pointManager (encodeMulticall trial)).1,
        d.env.estimating trial) := rfl
  rw [judge, Call.perform_bind, Call.perform_inside, he, SimulatedChain.judgement]
  rcases (d.env.chain.estimate SimulatedChain.pointManager (encodeMulticall trial)).1 with
    (_ | _) | gas
  · rfl
  · rfl
  · by_cases hg : gas ≤ budget
    · simp only [if_pos hg]
      rfl
    · simp only [if_neg hg]
      cases alone <;> rfl

end Bench

end Drafting

/-! ## Offers -/

/-- What a message that is a request adds to a batch, and the trial that decides on it. -/
structure Offer where
  call : Bytes
  direction : Direction
  /-- the permit of a withdrawal -/
  permits : List Bytes
  trial : List Bytes
  /-- the nonce of the last deposit, with this call -/
  lastNonce : Option Word

/-- The authorisation of a deposit by a manager. -/
def DepositRequest.authorization (r : DepositRequest) (settings : BatchConfig) (manager : Address)
    (nonce : Word) : DepositAuthorization :=
  ⟨r.account, r.amount, BitVec.ofNat 256 settings.depositValidUntil.toNat, manager, nonce⟩

/-- A deposit call with the signature of a manager's key. -/
def DepositAuthorization.call (a : DepositAuthorization) (signer : Signer)
    (domain : SigningDomain) : DepositCall :=
  .ofAuthorization a (a.sign signer domain)

theorem DepositAuthorization.length_signature_call (a : DepositAuthorization) (signer : Signer)
    (domain : SigningDomain) : (a.call signer domain).signature.length = 65 :=
  a.length_sign signer domain

namespace Batch

def offerDeposit (b : Batch) (call : DepositCall) (nonce : Word) : Offer where
  call := call.encode
  direction := .pointToToken
  permits := []
  trial := b.calls ++ [call.encode]
  lastNonce := some nonce

def offerWithdraw (b : Batch) (r : WithdrawRequest) (permit : Option Bytes) : Offer where
  call := (WithdrawCall.ofRequest r).encode
  direction := .tokenToPoint
  permits := permit.toList
  trial := b.calls ++ (b.permits ++ permit.toList) ++ [(WithdrawCall.ofRequest r).encode]
  lastNonce := b.lastNonce

/-- The batch with an offer that was accepted for a record. -/
def accept (b : Batch) (id : Uuid) (o : Offer) : Batch :=
  { b with
    calls := b.calls ++ [o.call]
    permits := b.permits ++ o.permits
    accepted := b.accepted ++ [(id, o.direction)]
    lastNonce := o.lastNonce }

/-- The batch with an offer that was dropped: its permit stays. -/
def keepPermits (b : Batch) (o : Offer) : Batch := { b with permits := b.permits ++ o.permits }

/-- The second batch knows more of the manager and the domain than the first one, and is the same
batch otherwise. -/
structure Prepared (b b' : Batch) : Prop where
  calls : b'.calls = b.calls
  permits : b'.permits = b.permits
  accepted : b'.accepted = b.accepted
  lastNonce : b'.lastNonce = b.lastNonce
  managerIndex : ∀ i, b.managerIndex = some i → b'.managerIndex = some i
  domain : b'.domain = b.domain ∨ b'.domain = some SimulatedChain.domain

theorem Prepared.refl (b : Batch) : Prepared b b :=
  ⟨rfl, rfl, rfl, rfl, fun _ h => h, .inl rfl⟩

/-- The nonce of the next deposit of a manager. -/
def nonceOf (b : Batch) (c : SimulatedChain) (manager : Address) : Word :=
  match b.lastNonce with
  | some last => last + 1
  | none => c.managerNonce manager

/-- The signing domain of the next deposit. -/
def domainOf (b : Batch) : SigningDomain := b.domain.getD SimulatedChain.domain

/-- The manager whose turn it is. -/
inductive Picks (start : SimulatedChain) (b : Batch) (w : Bench SimulatedChain) (i : UInt64) : Prop
  | settled (h : b.managerIndex = some i)
  | fresh (stored : UInt64) (h : b.managerIndex = none) (hs : w.indices.get .manager = .ok stored)
    (hi : i = stored % poolModulus (start.gateway.poolSize .manager))

end Batch

/-- Knowing the manager and the domain is all that the deposits of a batch need. -/
theorem Batch.Prepared.of_picks {start : SimulatedChain} {b : Batch} {w : Bench SimulatedChain}
    {i : UInt64} (h : b.Picks start w i) : b.Prepared { b with managerIndex := some i } := by
  refine ⟨rfl, rfl, rfl, rfl, ?_, .inl rfl⟩
  intro j hj
  cases h with
  | settled h => rw [← hj, h]
  | fresh _ h => simp [h] at hj

/-- Asking for the domain changes nothing else. -/
theorem Batch.Prepared.withDomain {b b' : Batch} (h : b.Prepared b') :
    b.Prepared { b' with domain := some b.domainOf } := by
  refine ⟨h.calls, h.permits, h.accepted, h.lastNonce, h.managerIndex, ?_⟩
  show some b.domainOf = b.domain ∨ some b.domainOf = _
  rw [Batch.domainOf]
  cases b.domain with
  | none => exact .inr rfl
  | some _ => exact .inl rfl

/-- The offer of a message to a batch, and the batch by then. -/
inductive Offered (start : SimulatedChain) (settings : BatchConfig) (m : Message) (b : Batch)
    (w : Bench SimulatedChain) : Offer → Batch → Prop
  | deposit (r : DepositRequest) (i : UInt64) (manager : Address) (signer : Signer)
    (task : Drafting.Task.ofMessage m SimulatedChain.pointManager = .ok (.deposit r))
    (picks : b.Picks start w i)
    (address : start.gateway.addressFor .manager i = .ok manager)
    (key : keyAt .manager w.chain.managers i = .ok signer) :
    Offered start settings m b w
      (b.offerDeposit ((r.authorization settings manager (b.nonceOf w.chain manager)).call signer
        b.domainOf) (b.nonceOf w.chain manager))
      { b with managerIndex := some i, domain := some b.domainOf }
  | withdraw (r : WithdrawRequest) (permit : Option Bytes)
    (task : Drafting.Task.ofMessage m SimulatedChain.pointManager = .ok (.withdraw r permit)) :
    Offered start settings m b w (b.offerWithdraw r permit) b

/-- Why the collaborators fail a message. -/
inductive Broken (start : SimulatedChain) (b : Batch) (w : Bench SimulatedChain) : Prop
  | indices (h : w.indices.unavailable = true) (hb : b.managerIndex = none)
  | address (i : UInt64) (picks : b.Picks start w i)
    (h : ∀ a, start.gateway.addressFor .manager i ≠ .ok a)
  | key (i : UInt64) (picks : b.Picks start w i)
    (h : ∀ k, keyAt .manager w.chain.managers i ≠ .ok k)
  | estimate (h : w.chain.estimateUnavailable = true)

/-- What becomes of a message in a drafting: a verdict or a fault, and the drafting after it. -/
inductive Handled (start : SimulatedChain) (settings : BatchConfig) (m : Message)
    (d : Drafting (Bench SimulatedChain)) :
    Except Fault Verdict → Drafting (Bench SimulatedChain) → Prop
  | rejected (e : MessageError) (w : Bench SimulatedChain)
    (task : Drafting.Task.ofMessage m SimulatedChain.pointManager = .error e)
    (env : w.still = d.env.still.failing m.id) :
    Handled start settings m d (.ok .dropped) ⟨d.batch, w⟩
  | broken (fault : Fault) (b : Batch) (w : Bench SimulatedChain) (prepared : d.batch.Prepared b)
    (why : Broken start d.batch d.env) (env : w.still = d.env.still.failing m.id) :
    Handled start settings m d (.error fault) ⟨b, w⟩
  | accepted (o : Offer) (b : Batch) (w : Bench SimulatedChain)
    (offered : Offered start settings m d.batch d.env o b)
    (judged : d.env.chain.judgement settings.gasBudget o.trial d.batch.isEmpty = .ok none)
    (env : w.still = d.env.still) :
    Handled start settings m d (.ok .accepted) ⟨b.accept m.id o, w⟩
  | dropped (o : Offer) (b : Batch) (w : Bench SimulatedChain)
    (offered : Offered start settings m d.batch d.env o b)
    (judged : d.env.chain.judgement settings.gasBudget o.trial d.batch.isEmpty =
      .ok (some .dropped))
    (env : w.still = d.env.still.failing m.id) :
    Handled start settings m d (.ok .dropped) ⟨b.keepPermits o, w⟩
  | deferred (o : Offer) (b : Batch) (w : Bench SimulatedChain) (gas budget : UInt64)
    (offered : Offered start settings m d.batch d.env o b)
    (judged : d.env.chain.judgement settings.gasBudget o.trial d.batch.isEmpty =
      .ok (some (.deferred gas budget)))
    (env : w.still = d.env.still) :
    Handled start settings m d (.ok (.deferred gas budget)) ⟨b, w⟩

theorem Offered.prepared {start : SimulatedChain} {settings : BatchConfig} {m : Message}
    {b b' : Batch} {w : Bench SimulatedChain} {o : Offer}
    (h : Offered start settings m b w o b') : b.Prepared b' := by
  cases h with
  | withdraw => exact .refl b
  | deposit r i manager signer task picks => exact (Batch.Prepared.of_picks picks).withDomain

namespace SimulatedChain

theorem gasOfAll_ne_unavailable (c : SimulatedChain) (calls : List Bytes) (total : UInt64)
    (e : GatewayError) : c.gasOfAll calls total ≠ .error (.unavailable e) := by
  induction calls generalizing total with
  | nil => simp [gasOfAll]
  | cons call rest ih =>
    rw [gasOfAll]
    cases h : c.gasOf call with
    | ok gas => exact ih _
    | error x =>
      unfold gasOf at h
      split at h
      · split at h <;> simp_all
        simp [← h]
      · simp at h

/-- The ways a judgement can go. -/
theorem judgement_cases (c : SimulatedChain) (budget : UInt64) (trial : List Bytes) (alone : Bool) :
    c.judgement budget trial alone = .ok none ∨
    c.judgement budget trial alone = .ok (some .dropped) ∨
    (∃ gas, c.judgement budget trial alone = .ok (some (.deferred gas budget))) ∨
    (∃ e, c.judgement budget trial alone = .error e ∧ c.estimateUnavailable = true) := by
  rw [judgement]
  rcases he : (c.estimate pointManager (encodeMulticall trial)).1 with (_ | e) | gas
  · exact .inr (.inl rfl)
  · refine .inr (.inr (.inr ⟨e, rfl, ?_⟩))
    rw [estimate] at he
    by_cases hu : c.estimateUnavailable = true
    · exact hu
    · rw [if_neg hu, if_neg (by decide)] at he
      exact absurd he (c.gasOfAll_ne_unavailable _ _ _)
  · by_cases hg : gas ≤ budget
    · exact .inl (if_pos hg)
    · simp only [if_neg hg]
      cases alone with
      | true => exact .inr (.inl rfl)
      | false => exact .inr (.inr (.inl ⟨gas, rfl⟩))

end SimulatedChain

/-! ## Carrying a message out -/

namespace Drafting

variable {start : SimulatedChain} {settings : BatchConfig} {m : Message}
  {d : Drafting (Bench SimulatedChain)}

/-- What carrying a message out comes to, before a fault is recorded. -/
inductive CarriedOut (start : SimulatedChain) (settings : BatchConfig) (m : Message)
    (d : Drafting (Bench SimulatedChain)) :
    Except Fault Verdict × Drafting (Bench SimulatedChain) → Prop
  | faulty (fault : Fault) (b : Batch) (w : Bench SimulatedChain) (prepared : d.batch.Prepared b)
    (why : Broken start d.batch d.env) (env : w.still = d.env.still) :
    CarriedOut start settings m d (.error fault, ⟨b, w⟩)
  | done (v : Verdict) (d' : Drafting (Bench SimulatedChain))
    (handled : Handled start settings m d (.ok v) d') : CarriedOut start settings m d (.ok v, d')

theorem carriedOut_withdraw {r : WithdrawRequest} {permit : Option Bytes}
    (task : Task.ofMessage m SimulatedChain.pointManager = .ok (.withdraw r permit)) :
    CarriedOut start settings m d ((withdraw start.tools settings m.id r permit).perform d) := by
  have ho : Offered start settings m d.batch d.env (d.batch.offerWithdraw r permit) d.batch :=
    .withdraw r permit task
  have he := Bench.still_estimating d.env (d.batch.offerWithdraw r permit).trial
  rw [withdraw, Call.perform_bind, Call.perform_get]
  show CarriedOut start settings m d
    ((judge start.tools settings.gasBudget m.id (d.batch.offerWithdraw r permit).trial
      d.batch.isEmpty >>= _ : Call _ Fault Verdict).perform d)
  rw [Call.perform_bind, perform_judge]
  rcases d.env.chain.judgement_cases settings.gasBudget (d.batch.offerWithdraw r permit).trial
    d.batch.isEmpty with h | h | ⟨gas, h⟩ | ⟨e, h, hu⟩
  · rw [h]
    exact .done _ _ (.accepted _ _ _ ho h he)
  · rw [h]
    exact .done _ _ (.dropped _ _ _ ho h (by rw [Bench.still_failing, he]))
  · rw [h]
    exact .done _ _ (.deferred _ _ _ _ _ ho h he)
  · rw [h]
    exact .faulty _ _ _ (.refl _) (.estimate hu) he

section Deposit

variable (start : SimulatedChain) (b : Batch) (w : Bench SimulatedChain)

theorem managerIndex_cases :
    (∃ f, w.indices.unavailable = true ∧ b.managerIndex = none ∧
      (managerIndex start.tools).perform ⟨b, w⟩ = (.error f, ⟨b, w⟩)) ∨
    ∃ i, b.Picks start w i ∧ (managerIndex start.tools).perform ⟨b, w⟩ =
      (.ok i, ⟨{ b with managerIndex := some i }, w⟩) := by
  rw [managerIndex, Call.perform_bind, Call.perform_get]
  rcases hb : b.managerIndex with _ | i
  · simp only [hb]
    rw [Call.perform_bind, perform_call, perform_index]
    rcases hi : w.indices.get .manager with e | stored
    · refine .inl ⟨e.chain, ?_, trivial, rfl⟩
      by_cases hu : w.indices.unavailable = true
      · exact hu
      · simp [MemoryIndices.get, hu] at hi
    · exact .inr ⟨_, .fresh stored hb hi rfl, rfl⟩
  · simp only [hb]
    refine .inr ⟨i, .settled hb, ?_⟩
    rw [← hb]
    rfl

theorem address_cases (i : UInt64) :
    (∃ f, (∀ a, start.gateway.addressFor .manager i ≠ .ok a) ∧
      (call (.ask fun _ => start.tools.gateway.addressFor .manager i)
        GatewayError.chain).perform ⟨b, w⟩ = (.error f, ⟨b, w⟩)) ∨
    ∃ a, start.gateway.addressFor .manager i = .ok a ∧
      (call (.ask fun _ => start.tools.gateway.addressFor .manager i)
        GatewayError.chain).perform ⟨b, w⟩ = (.ok a, ⟨b, w⟩) := by
  rw [perform_call, Call.perform_ask, show start.tools.gateway.addressFor .manager i =
    start.gateway.addressFor .manager i from rfl]
  cases h : start.gateway.addressFor .manager i with
  | error e => exact .inl ⟨_, by simp, rfl⟩
  | ok a => exact .inr ⟨a, rfl, rfl⟩

theorem perform_nextNonce (manager : Address) :
    (nextNonce start.tools manager).perform ⟨b, w⟩ =
      (.ok (b.nonceOf w.chain manager), ⟨b, w⟩) := by
  rw [nextNonce, Call.perform_bind, Call.perform_get, Batch.nonceOf]
  cases h : b.lastNonce with
  | none =>
    simp only [h]
    rw [perform_call, perform_nonce]
  | some last =>
    simp only [h]
    rfl

theorem signingDomain_cases :
    ∃ w', w'.still = w.still ∧ (signingDomain start.tools).perform ⟨b, w⟩ =
      (.ok b.domainOf, ⟨{ b with domain := some b.domainOf }, w'⟩) := by
  rw [signingDomain, Call.perform_bind, Call.perform_get, Batch.domainOf]
  cases h : b.domain with
  | none =>
    simp only [h]
    rw [Call.perform_bind, perform_call, perform_domain]
    refine ⟨_, ?_, rfl⟩
    rfl
  | some domain =>
    simp only [h]
    refine ⟨w, rfl, ?_⟩
    rw [Option.getD_some, ← h]
    rfl

/-- Signing an authorisation, or why that fails. -/
theorem signDeposit_cases (i : UInt64) (s : SigningDomain) (a : DepositAuthorization) :
    (∃ f, (∀ k, keyAt .manager w.chain.managers i ≠ .ok k) ∧
      (call (start.tools.gateway.signDeposit i s a) GatewayError.chain).perform ⟨b, w⟩ =
        (.error f, ⟨b, w⟩)) ∨
    ∃ k w', keyAt .manager w.chain.managers i = .ok k ∧ w'.still = w.still ∧
      (call (start.tools.gateway.signDeposit i s a) GatewayError.chain).perform ⟨b, w⟩ =
        (.ok (a.sign k s), ⟨b, w'⟩) := by
  rw [perform_call, perform_signDeposit, SimulatedChain.signDeposit]
  cases h : keyAt .manager w.chain.managers i with
  | error e => exact .inl ⟨e.chain, by simp, rfl⟩
  | ok k =>
    refine .inr ⟨k, _, rfl, ?_, rfl⟩
    rfl

/-- The end of a deposit, from its trial on. -/
theorem carriedOut_offer {start : SimulatedChain} {b b' : Batch} {w w' : Bench SimulatedChain}
    {call : DepositCall} {nonce : Word}
    (ho : Offered start settings m b w (b.offerDeposit call nonce) b') (hp : b.Prepared b')
    (hw : w'.still = w.still) :
    CarriedOut start settings m ⟨b, w⟩ (Call.perform (do
      let verdict? ← judge start.tools settings.gasBudget m.id
        (b.offerDeposit call nonce).trial b.isEmpty
      match verdict? with
      | some verdict => pure verdict
      | none =>
        amend fun b => { b with
          calls := b.calls ++ [call.encode]
          accepted := b.accepted ++ [(m.id, .pointToToken)]
          lastNonce := some nonce }
        pure Verdict.accepted) ⟨b', w'⟩) := by
  have he : (w'.estimating (b.offerDeposit call nonce).trial).still = w.still := by
    rw [Bench.still_estimating, hw]
  have hj := SimulatedChain.judgement_congr (Bench.still_chain hw) settings.gasBudget
    (b.offerDeposit call nonce).trial b.isEmpty
  -- a deposit comes without permits
  have hpermits : ∀ b' : Batch, b'.permits ++ (b.offerDeposit call nonce).permits = b'.permits :=
    fun b' => List.append_nil _
  rw [Call.perform_bind, perform_judge, hj]
  rcases w.chain.judgement_cases settings.gasBudget (b.offerDeposit call nonce).trial b.isEmpty with
    h | h | ⟨gas, h⟩ | ⟨e, h, hu⟩
  · have hd := Handled.accepted (d := ⟨b, w⟩) _ _ _ ho h he
    rw [Batch.accept, hpermits] at hd
    rw [h]
    exact .done _ _ hd
  · have hd := Handled.dropped (d := ⟨b, w⟩) _ _ ((w'.estimating _).failing m.id) ho h
      (by rw [Bench.still_failing, he])
    rw [Batch.keepPermits, hpermits] at hd
    rw [h]
    exact .done _ _ hd
  · rw [h]
    exact .done _ _ (.deferred _ _ _ _ _ ho h he)
  · rw [h]
    exact .faulty _ _ _ hp (.estimate hu) he

theorem carriedOut_deposit {start : SimulatedChain} {r : DepositRequest}
    (task : Task.ofMessage m SimulatedChain.pointManager = .ok (.deposit r)) :
    CarriedOut start settings m ⟨b, w⟩ ((deposit start.tools settings m.id r).perform ⟨b, w⟩) := by
  rw [deposit]
  -- a fault at any step leaves what the steps before it have prepared
  rcases managerIndex_cases start b w with ⟨f, hu, hb, h⟩ | ⟨i, picks, h⟩
  · rw [Call.perform_bind_error h]
    exact .faulty _ _ _ (.refl _) (.indices hu hb) rfl
  rw [Call.perform_bind_ok h]
  have hp := Batch.Prepared.of_picks picks
  rcases address_cases start { b with managerIndex := some i } w i with
    ⟨f, ha, h⟩ | ⟨manager, ha, h⟩
  · rw [Call.perform_bind_error h]
    exact .faulty _ _ _ hp (.address i picks ha) rfl
  rw [Call.perform_bind_ok h, Call.perform_bind_ok (perform_nextNonce start _ w manager)]
  obtain ⟨w₁, hw₁, h⟩ := signingDomain_cases start { b with managerIndex := some i } w
  have hk : w₁.chain.managers = w.chain.managers := congrArg (fun w => w.chain.managers) hw₁
  rw [Call.perform_bind_ok h]
  rcases signDeposit_cases start { b with managerIndex := some i, domain := some b.domainOf } w₁ i
    b.domainOf (r.authorization settings manager (b.nonceOf w.chain manager)) with
    ⟨f, hs, h⟩ | ⟨k, w₂, hs, hw₂, h⟩
  · rw [hk] at hs
    refine (Call.perform_bind_error h _) ▸ ?_
    exact .faulty _ _ _ hp.withDomain (.key i picks hs) hw₁
  rw [hk] at hs
  refine (Call.perform_bind_ok h _) ▸ ?_
  rw [Call.perform_bind, Call.perform_get]
  exact carriedOut_offer (.deposit r i manager k task picks ha hs) hp.withDomain
    (hw₂.trans hw₁)

end Deposit

/-- **Whatever the collaborators do, a message is handled in one of these ways.** -/
theorem handled (start : SimulatedChain) (settings : BatchConfig) (m : Message)
    (d : Drafting (Bench SimulatedChain)) :
    Handled start settings m d (handle start.tools settings m d).1
      (handle start.tools settings m d).2 := by
  have hc : CarriedOut start settings m d ((carryOut start.tools settings m).perform d) := by
    unfold carryOut
    rcases ht : Task.ofMessage m SimulatedChain.pointManager with e | (r | ⟨r, permit⟩)
    · have ht' : Task.ofMessage m start.tools.gateway.pointManager = .error e := ht
      simp only [ht']
      exact .done _ _ (.rejected e _ ht rfl)
    · have ht' : Task.ofMessage m start.tools.gateway.pointManager = .ok (.deposit r) := ht
      simp only [ht']
      exact carriedOut_deposit _ _ ht
    · have ht' : Task.ofMessage m start.tools.gateway.pointManager = .ok (.withdraw r permit) := ht
      simp only [ht']
      exact carriedOut_withdraw ht
  unfold handle
  generalize (carryOut start.tools settings m).perform d = res at hc
  cases hc with
  | faulty fault b w prepared why env =>
    have hw : (w.failing m.id).still = d.env.still.failing m.id := by
      rw [Bench.still_failing, env]
    exact .broken fault b _ prepared why hw
  | done v d' handled => exact handled

end Drafting
end PointExchange
