import PointExchange.Proofs.Conservation

/-!
# How a message is decided on

The cases of `Handled` are for collaborators in memory. Here the same is told for collaborators that
do as they like, with every answer that they give on the way (`Drafting.Decided`): a message is no
request, or its deposit is not signed, or it makes an offer, and the answer about the trial of the
offer decides on it (`Drafting.Tried`).

Only the manager and the domain of a batch are noted down before the trial (`Batch.Noted`).
-/

namespace PointExchange

/-- If two calls in a row succeed, the first one does, and then the second one. -/
theorem Call.perform_bind_eq_ok {E ε α β : Type} {x : Call E ε α} {k : α → Call E ε β} {e e' : E}
    {b : β} (h : (x >>= k).perform e = (.ok b, e')) :
    ∃ a e₁, x.perform e = (.ok a, e₁) ∧ (k a).perform e₁ = (.ok b, e') := by
  rcases hx : x.perform e with ⟨y | a, e₁⟩
  · rw [perform_bind_error hx] at h
    simp at h
  · rw [perform_bind_ok hx] at h
    exact ⟨a, e₁, rfl, h⟩

theorem Call.Leads.imp {E ε α : Type} {x : Call E ε α} {e : E} {P Q : Except ε α → E → Prop}
    (h : x.Leads e P) (hpq : ∀ res e', P res e' → Q res e') : x.Leads e Q :=
  hpq _ _ h

theorem Call.Leads.get {E ε α : Type} {k : E → Call E ε α} {e : E} {P : Except ε α → E → Prop}
    (h : (k e).Leads e P) : ((get : Call E ε E) >>= k).Leads e P := by
  unfold Leads
  rwa [perform_bind, perform_get]

/-- A deposit that a manager has signed. -/
structure SignedDeposit where
  index : UInt64
  authorization : DepositAuthorization
  domain : SigningDomain
  signature : Bytes

/-- The call of a signed deposit. -/
def SignedDeposit.call (x : SignedDeposit) : DepositCall :=
  .ofAuthorization x.authorization x.signature

/-- The second batch is the first one, with its manager or its domain noted down by now. -/
structure Batch.Noted (b b' : Batch) : Prop where
  calls : b'.calls = b.calls
  permits : b'.permits = b.permits
  accepted : b'.accepted = b.accepted
  lastNonce : b'.lastNonce = b.lastNonce
  managerIndex : ∀ i, b.managerIndex = some i → b'.managerIndex = some i
  domain : ∀ s, b.domain = some s → b'.domain = some s

namespace Batch.Noted

variable {b b' b'' : Batch}

theorem refl (b : Batch) : b.Noted b := ⟨rfl, rfl, rfl, rfl, fun _ h => h, fun _ h => h⟩

theorem trans (h : b.Noted b') (h' : b'.Noted b'') : b.Noted b'' where
  calls := h'.calls.trans h.calls
  permits := h'.permits.trans h.permits
  accepted := h'.accepted.trans h.accepted
  lastNonce := h'.lastNonce.trans h.lastNonce
  managerIndex i hi := h'.managerIndex i (h.managerIndex i hi)
  domain s hs := h'.domain s (h.domain s hs)

theorem isEmpty (h : b.Noted b') : b'.isEmpty = b.isEmpty := by
  unfold Batch.isEmpty
  rw [h.calls, h.permits]

end Batch.Noted

namespace Drafting

variable {E : Type} {c : Collaborators E} {settings : BatchConfig} {d d' : Drafting E}

/-! ## Signing a deposit -/

/-- Who signs: noted down already, or asked for now. -/
inductive PicksManager (c : Collaborators E) (d : Drafting E) : UInt64 → Drafting E → Prop
  | noted (index : UInt64) (h : d.batch.managerIndex = some index) : PicksManager c d index d
  | asked (stored : UInt64) (w : E) (h : d.batch.managerIndex = none)
    (answer : (c.indices.get .manager).perform d.env = (.ok stored, w)) :
    PicksManager c d (stored % poolModulus (c.gateway.poolSize .manager))
      ⟨{ d.batch with
        managerIndex := some (stored % poolModulus (c.gateway.poolSize .manager)) }, w⟩

/-- The nonce to sign with: the one after the last, or what the chain says now. -/
inductive PicksNonce (c : Collaborators E) (manager : Address) (d : Drafting E) :
    Word → Drafting E → Prop
  | next (last : Word) (h : d.batch.lastNonce = some last) : PicksNonce c manager d (last + 1) d
  | asked (nonce : Word) (w : E) (h : d.batch.lastNonce = none)
    (answer : (c.gateway.signatureNonce manager).perform d.env = (.ok nonce, w)) :
    PicksNonce c manager d nonce { d with env := w }

/-- The domain to sign under: noted down already, or asked for now. -/
inductive PicksDomain (c : Collaborators E) (d : Drafting E) : SigningDomain → Drafting E → Prop
  | noted (domain : SigningDomain) (h : d.batch.domain = some domain) : PicksDomain c d domain d
  | asked (domain : SigningDomain) (w : E) (h : d.batch.domain = none)
    (answer : c.gateway.chainDomain.perform d.env = (.ok domain, w)) :
    PicksDomain c d domain ⟨{ d.batch with domain := some domain }, w⟩

/-- The steps in which a deposit is signed, each in the drafting that the one before has left. -/
inductive Signs (c : Collaborators E) (settings : BatchConfig) (r : DepositRequest)
    (d : Drafting E) : SignedDeposit → Drafting E → Prop
  | intro (index : UInt64) (manager : Address) (nonce : Word) (domain : SigningDomain)
    (signature : Bytes) (d₁ d₂ d₃ : Drafting E) (w : E)
    (picked : d.PicksManager c index d₁)
    (address : c.gateway.addressFor .manager index = .ok manager)
    (counted : d₁.PicksNonce c manager nonce d₂) (named : d₂.PicksDomain c domain d₃)
    (signed : (c.gateway.signDeposit index domain
      (r.authorization settings manager nonce)).perform d₃.env = (.ok signature, w)) :
    Signs c settings r d ⟨index, r.authorization settings manager nonce, domain, signature⟩
      { d₃ with env := w }

/-- What is done for a deposit before its trial. -/
def authorize (c : Collaborators E) (settings : BatchConfig) (r : DepositRequest) :
    Call (Drafting E) Fault SignedDeposit := do
  let index ← managerIndex c
  let manager ← call (.ask fun _ => c.gateway.addressFor .manager index) GatewayError.chain
  let nonce ← nextNonce c manager
  let domain ← signingDomain c
  let authorization := r.authorization settings manager nonce
  let signature ← call (c.gateway.signDeposit index domain authorization) GatewayError.chain
  return ⟨index, authorization, domain, signature⟩

theorem perform_managerIndex_iff {index : UInt64} :
    (managerIndex c).perform d = (.ok index, d') ↔ d.PicksManager c index d' := by
  unfold managerIndex
  rw [Call.perform_bind, Call.perform_get]
  constructor
  · intro h
    cases hb : d.batch.managerIndex with
    | some i =>
      simp only [hb, Call.perform_pure, Prod.mk.injEq, Except.ok.injEq] at h
      obtain ⟨rfl, rfl⟩ := h
      exact .noted i hb
    | none =>
      simp only [hb] at h
      obtain ⟨stored, d₁, hstored, h⟩ := Call.perform_bind_eq_ok h
      obtain ⟨w, answer, rfl⟩ := perform_call_ok hstored
      obtain ⟨hi, rfl⟩ := Prod.mk.inj h
      obtain rfl := Except.ok.inj hi
      exact .asked stored w hb answer
  · intro h
    cases h with
    | noted index h => simp only [h, Call.perform_pure]
    | asked stored w h answer =>
      simp only [h]
      rw [Call.perform_bind, perform_call, answer]
      rfl

theorem perform_nextNonce_iff {manager : Address} {nonce : Word} :
    (nextNonce c manager).perform d = (.ok nonce, d') ↔ d.PicksNonce c manager nonce d' := by
  unfold nextNonce
  rw [Call.perform_bind, Call.perform_get]
  constructor
  · intro h
    cases hb : d.batch.lastNonce with
    | some last =>
      simp only [hb, Call.perform_pure, Prod.mk.injEq, Except.ok.injEq] at h
      obtain ⟨rfl, rfl⟩ := h
      exact .next last hb
    | none =>
      simp only [hb] at h
      obtain ⟨w, answer, rfl⟩ := perform_call_ok h
      exact .asked nonce w hb answer
  · intro h
    cases h with
    | next last h => simp only [h, Call.perform_pure]
    | asked nonce w h answer =>
      simp only [h]
      rw [perform_call, answer]

theorem perform_signingDomain_iff {domain : SigningDomain} :
    (signingDomain c).perform d = (.ok domain, d') ↔ d.PicksDomain c domain d' := by
  unfold signingDomain
  rw [Call.perform_bind, Call.perform_get]
  constructor
  · intro h
    cases hb : d.batch.domain with
    | some s =>
      simp only [hb, Call.perform_pure, Prod.mk.injEq, Except.ok.injEq] at h
      obtain ⟨rfl, rfl⟩ := h
      exact .noted s hb
    | none =>
      simp only [hb] at h
      obtain ⟨s, d₁, hs, h⟩ := Call.perform_bind_eq_ok h
      obtain ⟨w, answer, rfl⟩ := perform_call_ok hs
      obtain ⟨hd, rfl⟩ := Prod.mk.inj h
      obtain rfl := Except.ok.inj hd
      exact .asked s w hb answer
  · intro h
    cases h with
    | noted h => simp only [h, Call.perform_pure]
    | asked w h answer =>
      simp only [h]
      rw [Call.perform_bind, perform_call, answer]
      rfl

/-- **A deposit is signed just when it goes through all the steps.** -/
theorem perform_authorize_iff {r : DepositRequest} {x : SignedDeposit} :
    (authorize c settings r).perform d = (.ok x, d') ↔ d.Signs c settings r x d' := by
  unfold authorize
  constructor
  · intro h
    obtain ⟨index, d₁, hindex, h⟩ := Call.perform_bind_eq_ok h
    obtain ⟨manager, d₂, hmanager, h⟩ := Call.perform_bind_eq_ok h
    obtain ⟨nonce, d₃, hnonce, h⟩ := Call.perform_bind_eq_ok h
    obtain ⟨domain, d₄, hdomain, h⟩ := Call.perform_bind_eq_ok h
    obtain ⟨signature, d₅, hsignature, h⟩ := Call.perform_bind_eq_ok h
    obtain ⟨hx, rfl⟩ := Prod.mk.inj h
    obtain rfl := Except.ok.inj hx
    obtain ⟨w, asked, rfl⟩ := perform_call_ok hmanager
    obtain ⟨address, rfl⟩ := Prod.mk.inj asked
    obtain ⟨w', signed, rfl⟩ := perform_call_ok hsignature
    exact .intro index manager nonce domain signature d₁ d₃ d₄ w'
      (perform_managerIndex_iff.mp hindex) address (perform_nextNonce_iff.mp hnonce)
      (perform_signingDomain_iff.mp hdomain) signed
  · intro h
    cases h with
    | intro index manager nonce domain signature d₁ d₂ d₃ w picked address counted named signed =>
      rw [Call.perform_bind_ok (perform_managerIndex_iff.mpr picked)]
      have hmanager : (call (.ask fun _ => c.gateway.addressFor .manager index)
          GatewayError.chain).perform d₁ = (.ok manager, d₁) := by
        rw [perform_call, Call.perform_ask, address]
      rw [Call.perform_bind_ok hmanager, Call.perform_bind_ok (perform_nextNonce_iff.mpr counted),
        Call.perform_bind_ok (perform_signingDomain_iff.mpr named)]
      simp only
      rw [Call.perform_bind, perform_call, signed]
      rfl

/-! ### What is noted down -/

theorem noted_managerIndex (c : Collaborators E) (d : Drafting E) :
    (managerIndex c).Leads d fun _ d' => d.batch.Noted d'.batch := by
  unfold managerIndex
  refine .get ?_
  cases hb : d.batch.managerIndex with
  | some index => exact .pure (.refl d.batch)
  | none =>
    refine .bind_of_keeps (batch_call _ _) rfl (fun _ d₁ h => h ▸ .refl d.batch)
      fun stored d₁ _ h => ?_
    show d.batch.Noted { d₁.batch with managerIndex := some _ }
    rw [h]
    -- no manager was noted down that could be lost
    exact ⟨rfl, rfl, rfl, rfl, fun i hi => absurd hi (by simp [hb]), fun _ hs => hs⟩

theorem noted_nextNonce (c : Collaborators E) (manager : Address) (d : Drafting E) :
    (nextNonce c manager).Leads d fun _ d' => d.batch.Noted d'.batch := by
  unfold nextNonce
  refine .get ?_
  cases d.batch.lastNonce with
  | some last => exact .pure (.refl d.batch)
  | none =>
    show d.batch.Noted (Drafting.batch _)
    rw [batch_call]
    exact .refl d.batch

theorem noted_signingDomain (c : Collaborators E) (d : Drafting E) :
    (signingDomain c).Leads d fun _ d' => d.batch.Noted d'.batch := by
  unfold signingDomain
  refine .get ?_
  cases hb : d.batch.domain with
  | some domain => exact .pure (.refl d.batch)
  | none =>
    refine .bind_of_keeps (batch_call _ _) rfl (fun _ d₁ h => h ▸ .refl d.batch)
      fun domain d₁ _ h => ?_
    show d.batch.Noted { d₁.batch with domain := some domain }
    rw [h]
    exact ⟨rfl, rfl, rfl, rfl, fun _ hi => hi, fun s hs => absurd hs (by simp [hb])⟩

/-- **Before its trial a deposit changes nothing in the batch but what is noted down.** -/
theorem noted_authorize (c : Collaborators E) (settings : BatchConfig) (r : DepositRequest)
    (d : Drafting E) : (authorize c settings r).Leads d fun _ d' => d.batch.Noted d'.batch := by
  have hnoted : ∀ {α : Type} {x : Call (Drafting E) Fault α} {d₁ : Drafting E},
      d.batch.Noted d₁.batch → (x.Leads d₁ fun _ d' => d₁.batch.Noted d'.batch) →
        x.Leads d₁ fun _ d' => d.batch.Noted d'.batch := fun h hx => h.trans hx
  unfold authorize
  refine (noted_managerIndex c d).bind (fun _ _ h => h) fun index d₁ h₁ => ?_
  refine .bind_of_keeps (batch_call _ _) rfl (fun _ d₂ h => ?_) fun manager d₂ _ h => ?_
  · rwa [h]
  rw [← h] at h₁
  refine (hnoted h₁ (noted_nextNonce c manager d₂)).bind (fun _ _ h => h) fun nonce d₃ h₃ => ?_
  refine (hnoted h₃ (noted_signingDomain c d₃)).bind (fun _ _ h => h) fun domain d₄ h₄ => ?_
  refine .bind_of_keeps (batch_call _ _) rfl (fun _ d₅ h => ?_) fun signature d₅ _ h => ?_
  · rwa [h]
  · rw [← h] at h₄
    exact h₄

theorem PicksManager.noted_batch {index : UInt64} (h : d.PicksManager c index d') :
    d.batch.Noted d'.batch := by
  have hn := noted_managerIndex c d
  unfold Call.Leads at hn
  rwa [perform_managerIndex_iff.mpr h] at hn

theorem PicksNonce.batch_eq {manager : Address} {nonce : Word}
    (h : d.PicksNonce c manager nonce d') : d'.batch = d.batch := by
  cases h with
  | next => rfl
  | asked => rfl

theorem PicksDomain.noted_batch {domain : SigningDomain} (h : d.PicksDomain c domain d') :
    d.batch.Noted d'.batch := by
  have hn := noted_signingDomain c d
  unfold Call.Leads at hn
  rwa [perform_signingDomain_iff.mpr h] at hn

theorem Signs.noted {r : DepositRequest} {x : SignedDeposit} (h : d.Signs c settings r x d') :
    d.batch.Noted d'.batch := by
  have hn := noted_authorize c settings r d
  unfold Call.Leads at hn
  rwa [perform_authorize_iff.mpr h] at hn

/-! ## The trial of an offer -/

/-- The estimate of a trial, and the drafting after it. -/
def estimate (c : Collaborators E) (trial : List Bytes) (d : Drafting E) :
    Except EstimateError UInt64 × Drafting E :=
  let (answer, w) :=
    (c.gateway.estimateGas c.gateway.pointManager (encodeMulticall trial)).perform d.env
  (answer, { d with env := w })

theorem batch_of_estimate {trial : List Bytes} {answer : Except EstimateError UInt64}
    (h : d.estimate c trial = (answer, d')) : d'.batch = d.batch := by
  rw [← (Prod.mk.inj h).2]

/-- The drafting after the ledger was told that a record is failed. -/
def failing (c : Collaborators E) (id : Uuid) (d : Drafting E) : Drafting E :=
  { d with env := ((c.ledger.markFailed id).perform d.env).2 }

theorem perform_markFailed (c : Collaborators E) (id : Uuid) (d : Drafting E) :
    (markFailed c id).perform d = (.ok (), d.failing c id) := by
  unfold markFailed
  rw [Call.perform_bind, Call.perform_attempt, perform_call]
  unfold failing
  rcases (c.ledger.markFailed id).perform d.env with ⟨_ | _, w⟩ <;> rfl

theorem perform_amend (f : Batch → Batch) (v : Verdict) (d : Drafting E) :
    (amend f >>= fun _ => Pure.pure v).perform d = (.ok v, { d with batch := f d.batch }) := rfl

/-- What the answer about a trial says of it; `none` when it fits. -/
theorem perform_judge_eq (budget : UInt64) (id : Uuid) (trial : List Bytes) (alone : Bool) :
    (judge c budget id trial alone).perform d =
      match d.estimate c trial with
      | (.ok gas, d') =>
        if gas ≤ budget then (.ok none, d')
        else if alone then (.ok (some .dropped), d'.failing c id)
        else (.ok (some (.deferred gas budget)), d')
      | (.error (.reverted _), d') => (.ok (some .dropped), d'.failing c id)
      | (.error (.unavailable e), d') =>
        (.error ("gas estimation unavailable" :: e.chain), d') := by
  have hestimate : ((Call.inside Drafting.env (fun e d => { d with env := e })
      (c.gateway.estimateGas c.gateway.pointManager (encodeMulticall trial)).attempt) :
        Call (Drafting E) Fault _).perform d =
      (.ok (d.estimate c trial).1, (d.estimate c trial).2) := rfl
  have hdrop : ∀ d', (markFailed c id >>= fun _ => Pure.pure (some Verdict.dropped)).perform d' =
      (.ok (some .dropped), d'.failing c id) := by
    intro d'
    rw [Call.perform_bind_ok (perform_markFailed c id d'), Call.perform_pure]
  unfold judge
  rw [Call.perform_bind_ok hestimate]
  rcases d.estimate c trial with ⟨(_ | _) | gas, d'⟩
  · exact hdrop d'
  · rfl
  · by_cases hg : gas ≤ budget
    · simp only [hg, if_true, Call.perform_pure]
    · cases alone with
      | true =>
        simp only [hg, if_false, if_true]
        exact hdrop d'
      | false => simp only [hg, if_false, Bool.false_eq_true, Call.perform_pure]

/-- An offer that a message makes to a batch, and the drafting by then. -/
inductive Offers (c : Collaborators E) (settings : BatchConfig) (m : Message) (d : Drafting E) :
    Offer → Drafting E → Prop
  | deposit (r : DepositRequest) (x : SignedDeposit) (d' : Drafting E)
    (task : Task.ofMessage m c.gateway.pointManager = .ok (.deposit r))
    (signed : d.Signs c settings r x d') :
    Offers c settings m d (d'.batch.offerDeposit x.call x.authorization.nonce) d'
  | withdraw (r : WithdrawRequest) (permit : Option Bytes)
    (task : Task.ofMessage m c.gateway.pointManager = .ok (.withdraw r permit)) :
    Offers c settings m d (d.batch.offerWithdraw r permit) d

theorem Offers.noted {m : Message} {o : Offer} (h : d.Offers c settings m o d') :
    d.batch.Noted d'.batch := by
  cases h with
  | deposit r x d' task signed => exact signed.noted
  | withdraw r permit task => exact .refl d.batch

theorem Offers.direction {m : Message} {o : Offer} (h : d.Offers c settings m o d') :
    m.direction = .ok o.direction := by
  cases h with
  | deposit r x d' task signed =>
    cases Message.asks (Task.ofMessage_deposit_iff.mp task) with
    | deposit amount parsed direction => exact direction
  | withdraw r permit task =>
    cases Message.asks (Task.ofMessage_withdraw_iff.mp task).1 with
    | withdraw amount signature validUntil permit parsed direction => exact direction

/-- What an offer comes to. -/
inductive Tried (c : Collaborators E) (settings : BatchConfig) (id : Uuid) (o : Offer)
    (d : Drafting E) : Except Fault Verdict → Drafting E → Prop
  | fits (gas : UInt64) (d' : Drafting E) (answer : d.estimate c o.trial = (.ok gas, d'))
    (within : gas ≤ settings.gasBudget) :
    Tried c settings id o d (.ok .accepted) { d' with batch := d'.batch.accept id o }
  | reverted (reason : String) (d' : Drafting E)
    (answer : d.estimate c o.trial = (.error (.reverted reason), d')) :
    Tried c settings id o d (.ok .dropped)
      { d'.failing c id with batch := d'.batch.keepPermits o }
  | oversized (gas : UInt64) (d' : Drafting E) (answer : d.estimate c o.trial = (.ok gas, d'))
    (above : settings.gasBudget < gas) (alone : d.batch.isEmpty = true) :
    Tried c settings id o d (.ok .dropped)
      { d'.failing c id with batch := d'.batch.keepPermits o }
  | deferred (gas : UInt64) (d' : Drafting E) (answer : d.estimate c o.trial = (.ok gas, d'))
    (above : settings.gasBudget < gas) (company : d.batch.isEmpty = false) :
    Tried c settings id o d (.ok (.deferred gas settings.gasBudget)) d'
  | unavailable (e : GatewayError) (d' : Drafting E)
    (answer : d.estimate c o.trial = (.error (.unavailable e), d')) :
    Tried c settings id o d (.error ("gas estimation unavailable" :: e.chain)) d'

/-- How a message is decided on. -/
inductive Decided (c : Collaborators E) (settings : BatchConfig) (m : Message) (d : Drafting E) :
    Except Fault Verdict → Drafting E → Prop
  | rejected (e : MessageError) (task : Task.ofMessage m c.gateway.pointManager = .error e) :
    Decided c settings m d (.ok .dropped) (d.failing c m.id)
  | unsigned (r : DepositRequest) (fault : Fault) (d' : Drafting E)
    (task : Task.ofMessage m c.gateway.pointManager = .ok (.deposit r))
    (failed : (authorize c settings r).perform d = (.error fault, d')) :
    Decided c settings m d (.error fault) (d'.failing c m.id)
  | tried (o : Offer) (d₁ d₂ : Drafting E) (v : Verdict) (offers : d.Offers c settings m o d₁)
    (tried : d₁.Tried c settings m.id o (.ok v) d₂) : Decided c settings m d (.ok v) d₂
  | untried (o : Offer) (d₁ d₂ : Drafting E) (fault : Fault) (offers : d.Offers c settings m o d₁)
    (tried : d₁.Tried c settings m.id o (.error fault) d₂) :
    Decided c settings m d (.error fault) (d₂.failing c m.id)

/-- A trial decides on an offer, if what follows does what the verdict says. -/
theorem tried_of_judge {id : Uuid} {o : Offer}
    {k : Option Verdict → Call (Drafting E) Fault Verdict} {alone : Bool} {trial : List Bytes}
    (hd : d.batch.isEmpty = alone) (ht : o.trial = trial)
    (fits : ∀ d', d'.batch = d.batch →
      (k none).perform d' = (.ok .accepted, { d' with batch := d'.batch.accept id o }))
    (dropped : ∀ d', d'.batch = d.batch →
      (k (some .dropped)).perform d' = (.ok .dropped, { d' with batch := d'.batch.keepPermits o }))
    (deferred : ∀ gas budget d', (k (some (.deferred gas budget))).perform d' =
      (.ok (.deferred gas budget), d')) :
    (judge c settings.gasBudget id trial alone >>= k).Leads d (d.Tried c settings id o) := by
  subst hd ht
  unfold Call.Leads
  rw [Call.perform_bind, perform_judge_eq]
  rcases answer : d.estimate c o.trial with ⟨(reason | e) | gas, d'⟩
  · simp only
    have hbatch : d'.batch = d.batch := batch_of_estimate answer
    rw [dropped (d'.failing c id) hbatch]
    exact .reverted reason d' answer
  · exact .unavailable e d' answer
  · by_cases hg : gas ≤ settings.gasBudget
    · simp only [hg, if_true]
      rw [fits d' (batch_of_estimate answer)]
      exact .fits gas d' answer hg
    · have above : settings.gasBudget < gas := UInt64.not_le.mp hg
      cases alone : d.batch.isEmpty with
      | true =>
        simp only [hg, if_false, if_true]
        have hbatch : d'.batch = d.batch := batch_of_estimate answer
        rw [dropped (d'.failing c id) hbatch]
        exact .oversized gas d' answer above alone
      | false =>
        simp only [hg, if_false, Bool.false_eq_true]
        rw [deferred gas settings.gasBudget d']
        exact .deferred gas d' answer above alone

/-- A deposit is signed and then tried. -/
theorem deposit_eq_authorize (c : Collaborators E) (settings : BatchConfig) (id : Uuid)
    (r : DepositRequest) : deposit c settings id r = (do
      let x ← authorize c settings r
      let batch := (← get).batch
      let verdict ← judge c settings.gasBudget id (batch.calls ++ [x.call.encode]) batch.isEmpty
      verdict.elim
        (do
          amend fun b => { b with
            calls := b.calls ++ [x.call.encode]
            accepted := b.accepted ++ [(id, .pointToToken)]
            lastNonce := some x.authorization.nonce }
          return .accepted)
        pure) := by
  simp only [deposit, authorize, bind_assoc, pure_bind]
  -- the steps are the same; only the verdict is taken apart in another way
  refine bind_congr fun index => bind_congr fun manager => bind_congr fun nonce =>
    bind_congr fun domain => bind_congr fun signature => bind_congr fun d =>
    bind_congr fun verdict => ?_
  cases verdict <;> rfl

/-- A deposit is signed, or it fails before its trial; then its offer is tried. -/
theorem leads_deposit (c : Collaborators E) (settings : BatchConfig) (id : Uuid)
    (r : DepositRequest) (d : Drafting E) :
    (deposit c settings id r).Leads d fun res d' =>
      (∃ fault, (authorize c settings r).perform d = (.error fault, d') ∧ res = .error fault) ∨
      ∃ x d₁, (authorize c settings r).perform d = (.ok x, d₁) ∧
        d₁.Tried c settings id (d₁.batch.offerDeposit x.call x.authorization.nonce) res d' := by
  rw [deposit_eq_authorize]
  refine Call.Leads.bind (Q := fun res d' => (authorize c settings r).perform d = (res, d')) rfl
    (fun fault d' h => .inl ⟨fault, h, rfl⟩) fun x d₁ h => .get ?_
  refine Call.Leads.imp (tried_of_judge rfl rfl (fun d' _ => ?_) (fun d' _ => ?_) fun _ _ _ => rfl)
    fun res d' tried => .inr ⟨x, d₁, h, tried⟩
  · refine (perform_amend _ _ d').trans ?_
    simp [Batch.accept, Batch.offerDeposit]
  · simp [Batch.keepPermits, Batch.offerDeposit]

/-- The offer of a withdrawal is tried. -/
theorem leads_withdraw (c : Collaborators E) (settings : BatchConfig) (id : Uuid)
    (r : WithdrawRequest) (permit : Option Bytes) (d : Drafting E) :
    (withdraw c settings id r permit).Leads d
      (d.Tried c settings id (d.batch.offerWithdraw r permit)) := by
  unfold withdraw
  refine .get ?_
  refine tried_of_judge rfl rfl (fun d' hb => ?_) (fun d' hb => ?_) fun _ _ _ => rfl
  · refine (perform_amend _ _ d').trans ?_
    simp [Batch.accept, Batch.offerWithdraw, hb]
  · refine (perform_amend _ _ d').trans ?_
    simp [Batch.keepPermits, Batch.offerWithdraw, hb]

/-- The drafting after a message was carried out: a fault fails its record. -/
def recording (c : Collaborators E) (id : Uuid) : Except Fault Verdict → Drafting E → Drafting E
  | .ok _, d => d
  | .error _, d => d.failing c id

theorem handle_of_carryOut {m : Message} {res : Except Fault Verdict}
    (h : (carryOut c settings m).perform d = (res, d')) :
    d.handle c settings m = (res, d'.recording c m.id res) := by
  rw [handle, h]
  cases res with
  | ok verdict => rfl
  | error fault =>
    simp only
    rw [perform_markFailed]
    rfl

theorem Decided.of_tried {m : Message} {o : Offer} {d₁ : Drafting E} {res : Except Fault Verdict}
    (offers : d.Offers c settings m o d₁) (tried : d₁.Tried c settings m.id o res d') :
    d.Decided c settings m res (d'.recording c m.id res) := by
  cases res with
  | ok v => exact .tried o d₁ d' v offers tried
  | error fault => exact .untried o d₁ d' fault offers tried

/-- **A message is decided on, whatever the collaborators do.** -/
theorem decided {m : Message} {res : Except Fault Verdict}
    (handled : d.handle c settings m = (res, d')) : d.Decided c settings m res d' := by
  rcases h : (carryOut c settings m).perform d with ⟨res', d₂⟩
  obtain ⟨rfl, rfl⟩ := Prod.mk.inj ((handle_of_carryOut h).symm.trans handled)
  unfold carryOut at h
  rcases task : Task.ofMessage m c.gateway.pointManager with e | r | ⟨r, permit⟩
  · rw [task] at h
    simp only [reject] at h
    rw [Call.perform_bind_ok (perform_markFailed c m.id d), Call.perform_pure] at h
    obtain ⟨rfl, rfl⟩ := Prod.mk.inj h
    exact .rejected e task
  · rw [task] at h
    have hdeposit := leads_deposit c settings m.id r d
    unfold Call.Leads at hdeposit
    rw [h] at hdeposit
    rcases hdeposit with ⟨fault, failed, rfl⟩ | ⟨x, d₁, signed, tried⟩
    · exact .unsigned r fault d₂ task failed
    · exact .of_tried (.deposit r x d₁ task (perform_authorize_iff.mp signed)) tried
  · rw [task] at h
    have hwithdraw := leads_withdraw c settings m.id r permit d
    unfold Call.Leads at hwithdraw
    rw [h] at hwithdraw
    exact .of_tried (.withdraw r permit task) hwithdraw

end Drafting
end PointExchange
