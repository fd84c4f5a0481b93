import PointExchange.Proofs.Batch
import PointExchange.Proofs.Decisions
import PointExchange.Proofs.Healthy
import PointExchange.Proofs.Rounds

/-!
# Messages are handled completely or not at all

A message that is deferred or that a collaborator fails goes back to the queue, and the batch is
what it was before, but for the manager and the domain that may be noted down by now. A message that
is dropped leaves its permit at most, and one that is accepted brings one call for its record
(`handled_completely_or_not_at_all`).
-/

namespace PointExchange

/-- The message was not settled: it is deferred, or a collaborator failed it. -/
def Unsettled (res : Except Fault Verdict) : Prop :=
  (∃ fault, res = .error fault) ∨ ∃ gas budget, res = .ok (.deferred gas budget)

namespace Drafting

variable {E : Type} {c : Collaborators E} {settings : BatchConfig} {m : Message}
  {d d' : Drafting E}

/-- What handling a message makes of a batch, by the answer. -/
structure AllOrNothing (c : Collaborators E) (settings : BatchConfig) (m : Message)
    (d : Drafting E) (res : Except Fault Verdict) (d' : Drafting E) : Prop where
  unsettled : Unsettled res → d.batch.Noted d'.batch
  /-- the permit stays only if the trial of its withdrawal was estimated -/
  dropped : res = .ok .dropped →
    d.batch.Noted { d'.batch with permits := d.batch.permits } ∧
      (d'.batch.permits = d.batch.permits ∨
        ∃ r permit, Task.ofMessage m c.gateway.pointManager = .ok (.withdraw r (some permit)) ∧
          d.Tried c settings m.id (d.batch.offerWithdraw r (some permit)) (.ok .dropped) d' ∧
          d'.batch.permits = d.batch.permits ++ [permit])
  accepted : res = .ok .accepted →
    ∃ task direction call, Task.ofMessage m c.gateway.pointManager = .ok task ∧
      m.direction = .ok direction ∧ d'.batch.calls = d.batch.calls ++ [call] ∧
      d'.batch.accepted = d.batch.accepted ++ [(m.id, direction)] ∧
      d'.batch.permits = d.batch.permits ++ task.permits ∧
      (d'.batch.lastNonce ≠ d.batch.lastNonce ↔ ∃ r, task = .deposit r)

/-! ## Offers -/

/-- The nonce of a deposit is not the one of the deposit before it. -/
theorem Signs.nonce_ne {r : DepositRequest} {x : SignedDeposit} (h : d.Signs c settings r x d') :
    some x.authorization.nonce ≠ d.batch.lastNonce := by
  cases h with
  | intro index manager nonce domain signature d₁ d₂ d₃ w picked address counted =>
    show some nonce ≠ d.batch.lastNonce
    rw [← picked.noted_batch.lastNonce]
    cases counted with
    | next last hl =>
      rw [hl]
      intro h
      -- words wrap, but the next one is another one all the same
      simpa using Option.some.inj h
    | asked _ _ hl =>
      rw [hl]
      exact Option.some_ne_none nonce

/-- An offer of a message is for one of its tasks, and brings the permits of that task. -/
theorem Offers.task {o : Offer} (h : d.Offers c settings m o d') :
    ∃ task, Task.ofMessage m c.gateway.pointManager = .ok task ∧ o.permits = task.permits ∧
      (o.lastNonce ≠ d.batch.lastNonce ↔ ∃ r, task = .deposit r) := by
  cases h with
  | deposit r x d' task signed => exact ⟨_, task, rfl, fun _ => ⟨r, rfl⟩, fun _ => signed.nonce_ne⟩
  | withdraw r permit task => exact ⟨_, task, rfl, fun h => absurd rfl h, by simp⟩

/-! ## Handling -/

theorem AllOrNothing.of_unsettled {res : Except Fault Verdict} (hu : Unsettled res)
    (noted : d.batch.Noted d'.batch) : d.AllOrNothing c settings m res d' where
  unsettled _ := noted
  dropped h := by simp [Unsettled, h] at hu
  accepted h := by simp [Unsettled, h] at hu

theorem AllOrNothing.of_dropped
    (noted : d.batch.Noted { d'.batch with permits := d.batch.permits })
    (permits : d'.batch.permits = d.batch.permits ∨
      ∃ r permit, Task.ofMessage m c.gateway.pointManager = .ok (.withdraw r (some permit)) ∧
        d.Tried c settings m.id (d.batch.offerWithdraw r (some permit)) (.ok .dropped) d' ∧
        d'.batch.permits = d.batch.permits ++ [permit]) :
    d.AllOrNothing c settings m (.ok .dropped) d' where
  unsettled h := by simp [Unsettled] at h
  dropped _ := ⟨noted, permits⟩
  accepted h := by simp at h

/-- An offer that is dropped leaves its permits. -/
theorem Tried.batch_of_dropped {id : Uuid} {o : Offer}
    (h : d.Tried c settings id o (.ok .dropped) d') : d'.batch = d.batch.keepPermits o := by
  cases h with
  | reverted reason d₁ answer | oversized gas d₁ answer =>
    show d₁.batch.keepPermits o = _
    rw [batch_of_estimate answer]

theorem Tried.batch_of_accepted {id : Uuid} {o : Offer}
    (h : d.Tried c settings id o (.ok .accepted) d') : d'.batch = d.batch.accept id o := by
  cases h with
  | fits gas d₁ answer =>
    show d₁.batch.accept id o = _
    rw [batch_of_estimate answer]

theorem Tried.batch_of_unsettled {id : Uuid} {o : Offer} {res : Except Fault Verdict}
    (h : d.Tried c settings id o res d') (hu : Unsettled res) : d'.batch = d.batch := by
  cases h with
  | fits | reverted | oversized => simp [Unsettled] at hu
  | deferred gas d₁ answer | unavailable e d₁ answer => exact batch_of_estimate answer

/-- A batch with the permits of an offer is noted down as before. -/
theorem Offers.noted_keepPermits {o : Offer} (h : d.Offers c settings m o d') :
    d.batch.Noted { d'.batch.keepPermits o with permits := d.batch.permits } where
  calls := h.noted.calls
  permits := rfl
  accepted := h.noted.accepted
  lastNonce := h.noted.lastNonce
  managerIndex := h.noted.managerIndex
  domain := h.noted.domain

theorem allOrNothing_of_dropped {o : Offer} {d₁ : Drafting E} (offers : d.Offers c settings m o d₁)
    (tried : d₁.Tried c settings m.id o (.ok .dropped) d') :
    d.AllOrNothing c settings m (.ok .dropped) d' := by
  refine .of_dropped (tried.batch_of_dropped ▸ offers.noted_keepPermits) ?_
  rw [tried.batch_of_dropped]
  cases offers with
  | deposit r x d₁ task signed =>
    left
    show d₁.batch.permits ++ [] = _
    rw [List.append_nil, signed.noted.permits]
  | withdraw r permit task =>
    cases permit with
    | none => exact .inl (List.append_nil _)
    | some permit => exact .inr ⟨r, permit, task, tried, rfl⟩

theorem allOrNothing_of_accepted {o : Offer} {d₁ : Drafting E}
    (offers : d.Offers c settings m o d₁)
    (tried : d₁.Tried c settings m.id o (.ok .accepted) d') :
    d.AllOrNothing c settings m (.ok .accepted) d' where
  unsettled h := by simp [Unsettled] at h
  dropped h := by simp at h
  accepted _ := by
    obtain ⟨task, htask, hpermits, hnonce⟩ := offers.task
    refine ⟨task, o.direction, o.call, htask, offers.direction, ?_⟩
    rw [tried.batch_of_accepted, ← offers.noted.calls, ← offers.noted.accepted,
      ← offers.noted.permits, ← hpermits]
    exact ⟨rfl, rfl, rfl, hnonce⟩

/-- **A message is handled completely or not at all,** whatever the collaborators do. -/
theorem allOrNothing {res : Except Fault Verdict} (handled : d.handle c settings m = (res, d')) :
    d.AllOrNothing c settings m res d' := by
  cases decided handled with
  | rejected e task => exact .of_dropped (.refl d.batch) (.inl rfl)
  | unsigned r fault d₁ task failed =>
    have hn := noted_authorize c settings r d
    unfold Call.Leads at hn
    rw [failed] at hn
    exact .of_unsettled (.inl ⟨fault, rfl⟩) hn
  | untried o d₁ d₂ fault offers tried =>
    have hu : Unsettled (.error fault) := .inl ⟨fault, rfl⟩
    refine .of_unsettled hu ?_
    show d.batch.Noted d₂.batch
    rw [tried.batch_of_unsettled hu]
    exact offers.noted
  | tried o d₁ d₂ v offers tried =>
    cases v with
    | accepted => exact allOrNothing_of_accepted offers tried
    | dropped => exact allOrNothing_of_dropped offers tried
    | deferred gas budget =>
      have hu : Unsettled (.ok (.deferred gas budget)) := .inr ⟨gas, budget, rfl⟩
      exact .of_unsettled hu (tried.batch_of_unsettled hu ▸ offers.noted)

end Drafting

/-! ## A drain with three verdicts -/

namespace Site

end Site

namespace Drafting

end Drafting
end PointExchange
