import PointExchange.Proofs.Course
import PointExchange.Proofs.Handling

/-!
# What a run leaves to its collaborators

A run changes its environment by calls to its collaborators and in no other way. A relation between
environments that all of these calls respect is therefore respected by a drain, by the sending of a
batch and by the whole part of a run that the lock protects (`Runner.locked_respects`). For sending
it is enough to know about the calls of that batch by that relayer (`Collaborators.SendRespects`).
-/

namespace PointExchange

variable {E : Type} {R : E → E → Prop}

/-- The relation allows for any number of calls, none included. -/
structure Progression (R : E → E → Prop) : Prop where
  refl (e : E) : R e e
  trans {e₁ e₂ e₃ : E} : R e₁ e₂ → R e₂ e₃ → R e₁ e₃

namespace Call

variable {ε δ α β : Type}

/-- Whatever comes of a call, the environment after it is related to the one before. -/
def Respects (c : Call E ε α) (R : E → E → Prop) : Prop := ∀ e, R e (c.perform e).2

theorem Respects.attempt {c : Call E ε α} (hc : c.Respects R) :
    (c.attempt : Call E δ (Except ε α)).Respects R := hc

theorem Respects.orElse {c : Call E ε α} (hc : c.Respects R) (f : ε → δ) :
    (c.orElse f).Respects R := by
  intro e
  have he := hc e
  rw [perform_orElse]
  rcases h : c.perform e with ⟨_ | _, e'⟩ <;> rwa [h] at he

end Call

namespace Progression

variable {ε α β : Type} (h : Progression R)

include h

theorem pure (a : α) : (Pure.pure a : Call E ε α).Respects R := fun e => h.refl e

theorem throw (x : ε) : (throw x : Call E ε α).Respects R := fun e => h.refl e

theorem get : (get : Call E ε E).Respects R := fun e => h.refl e

theorem ask (f : E → Except ε α) : (Call.ask f).Respects R := fun e => h.refl e

theorem bind {c : Call E ε α} {k : α → Call E ε β} (hc : c.Respects R)
    (hk : ∀ a, (k a).Respects R) : (c >>= k).Respects R := by
  intro e
  have he := hc e
  rcases hr : c.perform e with ⟨x | a, e'⟩
  · rw [Call.perform_bind_error hr]
    rwa [hr] at he
  · rw [Call.perform_bind_ok hr]
    rw [hr] at he
    exact h.trans he (hk a e')

end Progression

/-! ## Sending -/

/-- The calls that send a batch respect the relation, those that let keys take turns apart. -/
structure Collaborators.SendRespects (c : Collaborators E) (relayer : UInt64) (b : Batch)
    (R : E → E → Prop) : Prop extends Progression R where
  count (a : Address) : (c.gateway.transactionCount a).Respects R
  permit (nonce : UInt64) : ∀ p ∈ b.permits,
    (c.gateway.prepare relayer c.gateway.pointToken p nonce).Respects R
  batch (nonce : UInt64) (calls : b.calls ≠ []) :
    (c.gateway.prepare relayer c.gateway.pointManager (encodeMulticall b.calls) nonce).Respects R
  commit (hash : Hash) : (c.ledger.commit hash b.accepted).Respects R
  submit (raw : Bytes) : (c.gateway.submit raw).Respects R
  confirm (hash : Hash) : (c.gateway.confirm hash).Respects R

namespace Collaborators.SendRespects

variable {c : Collaborators E} {relayer : UInt64} {b : Batch} (h : c.SendRespects relayer b R)

include h

theorem look (hash : Hash) (e : E) : R e (Progress.look c.gateway hash e).2 := by
  have he := h.confirm hash e
  unfold Progress.look
  rcases hr : (c.gateway.confirm hash).perform e with ⟨_ | _ | _, e'⟩ <;> rwa [hr] at he

theorem advance (raw : Bytes) (p : Progress) (e : E) : R e (p.advance c.gateway raw e).2 := by
  cases p with
  | queued =>
    have he := h.submit raw e
    unfold Progress.advance
    rcases hr : (c.gateway.submit raw).perform e with ⟨x | hash, e'⟩
    · rwa [hr] at he
    · rw [hr] at he
      exact h.trans he (h.look hash e')
  | waiting hash => exact h.look hash e
  | settled r => exact h.refl e

theorem turn (gapFirst : Bool) (gap : Option Nat) (f : Flight) (e : E) :
    R e (f.turn c.gateway gapFirst gap e).2 := by
  have ha := h.advance f.transaction.raw f.progress e
  unfold Flight.turn
  split
  · exact h.refl e
  · exact ha
  · by_cases hg : gapFirst = true
    · rw [if_pos hg]
      exact h.refl e
    · rw [if_neg hg]
      -- the broadcast goes on in either case, what differs is how it is told
      rcases hr : f.progress.advance c.gateway f.transaction.raw e with ⟨_ | _ | _, e'⟩ <;>
        rwa [hr] at ha

theorem turnAt (t : Turn) (fs : List Flight) (e : E) :
    R e (Flight.turnAt c.gateway t fs e).2 := by
  unfold Flight.turnAt
  split
  · exact h.turn _ _ _ e
  · exact h.refl e

theorem run (turns : List Turn) (fs : List Flight) (e : E) :
    R e (Flight.run c.gateway turns fs e).2 := by
  induction turns generalizing fs e with
  | nil => exact h.refl e
  | cons t rest ih =>
    have ht := h.turnAt t fs e
    exact h.trans ht (ih _ _)

theorem prepare (permits : List Bytes) (hp : ∀ p ∈ permits, p ∈ b.permits) (number : Nat)
    (nonce : UInt64) (e : E) : R e (Flight.prepare c.gateway relayer permits number nonce e).2 := by
  induction permits generalizing number nonce e with
  | nil => exact h.refl e
  | cons p rest ih =>
    have hrest : ∀ q ∈ rest, q ∈ b.permits := fun q hq => hp q (List.mem_cons_of_mem p hq)
    have he := h.permit nonce p (hp p List.mem_cons_self) e
    unfold Flight.prepare
    rcases hr : (c.gateway.prepare relayer c.gateway.pointToken p nonce).perform e with
      ⟨x | t, e'⟩
    · rw [hr] at he
      exact h.trans he (ih hrest _ _ e')
    · rw [hr] at he
      exact h.trans he (ih hrest _ _ e')

/-- **Whatever the turns of the broadcasts are, sending the permits respects the relation.** -/
theorem sendPermits (turns : Nat → List Turn) (account : Address) :
    (Runner.sendPermits c turns relayer account b).Respects R := by
  unfold Runner.sendPermits
  by_cases he : b.permits.isEmpty = true
  · rw [if_pos he]
    exact h.pure _
  rw [if_neg he]
  unfold broadcastPermits
  refine h.bind (.attempt (h.count account)) fun counted => ?_
  cases counted with
  | error x => exact h.pure _
  | ok nonce =>
    refine h.bind (fun e => ?_) fun flights => ?_
    · exact h.trans (h.prepare b.permits (fun p hp => hp) 1 nonce e) (h.run _ _ _)
    · split
      · exact h.pure _
      · exact h.throw _

/-- **Submitting a batch that has calls respects the relation.** -/
theorem submitBatch (calls : b.calls ≠ []) (account : Address) :
    (PointExchange.submitBatch c relayer account b).Respects R := by
  unfold PointExchange.submitBatch
  refine h.bind (.attempt (h.bind (.orElse (h.count account) _) fun nonce => h.batch nonce calls))
    fun signed => ?_
  cases signed with
  | error x => exact h.pure _
  | ok t =>
    refine h.bind (.attempt (h.commit t.hash)) fun committed => ?_
    cases committed with
    | error x => exact h.pure _
    | ok done =>
      refine h.bind (.attempt (h.submit t.raw)) fun submitted => ?_
      cases submitted with
      | error x => exact h.pure _
      | ok pending =>
        refine h.bind (.attempt (h.confirm pending)) fun confirmed => ?_
        rcases confirmed with x | _ | included
        · exact h.pure _
        · exact h.throw _
        · exact h.pure _

end Collaborators.SendRespects

/-! ## The protected part -/

/-- Every call to a collaborator respects the relation. -/
structure Collaborators.Respects (c : Collaborators E) (R : E → E → Prop) : Prop
    extends Progression R where
  chainDomain : c.gateway.chainDomain.Respects R
  signatureNonce (a : Address) : (c.gateway.signatureNonce a).Respects R
  signDeposit (i : UInt64) (d : SigningDomain) (a : DepositAuthorization) :
    (c.gateway.signDeposit i d a).Respects R
  estimateGas (target : Address) (input : Bytes) : (c.gateway.estimateGas target input).Respects R
  gasPrice : c.gateway.gasPrice.Respects R
  transactionCount (a : Address) : (c.gateway.transactionCount a).Respects R
  chainId : c.gateway.chainId.Respects R
  signTransaction (i : UInt64) (r : TransactionRequest) :
    (c.gateway.signTransaction i r).Respects R
  submit (raw : Bytes) : (c.gateway.submit raw).Respects R
  confirm (hash : Hash) : (c.gateway.confirm hash).Respects R
  getIndex (role : KeyRole) : (c.indices.get role).Respects R
  setIndex (role : KeyRole) (index : UInt64) : (c.indices.set role index).Respects R
  updateStatus (id : Uuid) (s : Status) : (c.ledger.updateStatus id s).Respects R
  commit (hash : Hash) (accepted : List (Uuid × Direction)) :
    (c.ledger.commit hash accepted).Respects R

namespace Collaborators.Respects

variable {c : Collaborators E} (h : c.Respects R)

include h

theorem prepare (relayer : UInt64) (target : Address) (input : Bytes) (nonce : UInt64) :
    (c.gateway.prepare relayer target input nonce).Respects R := by
  unfold Gateway.prepare
  refine h.bind (.orElse (h.estimateGas target input) _) fun gasLimit => ?_
  refine h.bind (.orElse h.gasPrice _) fun gasPrice => ?_
  refine h.bind (.orElse h.chainId _) fun chainId => ?_
  exact .orElse (h.signTransaction relayer _) _

theorem sendRespects (relayer : UInt64) (b : Batch) : c.SendRespects relayer b R where
  toProgression := h.toProgression
  count := h.transactionCount
  permit nonce p _ := h.prepare relayer c.gateway.pointToken p nonce
  batch nonce _ := h.prepare relayer c.gateway.pointManager (encodeMulticall b.calls) nonce
  commit hash := h.commit hash b.accepted
  submit := h.submit
  confirm := h.confirm

theorem rotate (role : KeyRole) (index : UInt64) : (Runner.rotate c role index).Respects R :=
  .attempt (h.bind (h.setIndex role _) fun _ => h.pure _)

theorem orFail (r : Except IndexError UInt64) :
    (Runner.orFail r : RunStep E Unit).Respects R := by
  cases r with
  | ok _ => exact h.pure _
  | error e => exact h.throw _

theorem sendCalls (relayer : UInt64) (account : Address) (b : Batch) :
    (Runner.sendCalls c relayer account b).Respects R := by
  unfold Runner.sendCalls
  by_cases he : b.calls.isEmpty = true
  · rw [if_pos he]
    exact h.pure _
  rw [if_neg he]
  have hne : b.calls ≠ [] := fun h0 => he (List.isEmpty_iff.mpr h0)
  refine h.bind ((h.sendRespects relayer b).submitBatch hne account) fun outcome => ?_
  cases b.managerIndex with
  | none => exact h.pure _
  | some index => exact h.bind (h.rotate .manager index) fun _ => h.pure _

theorem send (turns : Nat → List Turn) (b : Batch) (stop : StopReason) :
    (Runner.send c turns b stop).Respects R := by
  unfold Runner.send
  refine h.bind (.orElse (h.getIndex .relayer) _) fun stored => ?_
  refine h.bind (.orElse (h.ask _) _) fun account => ?_
  refine h.bind ((h.sendRespects _ b).sendPermits turns account) fun permits => ?_
  refine h.bind (h.sendCalls _ account b) fun sent => ?_
  refine h.bind (h.rotate .relayer _) fun next => ?_
  exact h.bind (h.orFail _) fun _ => h.bind (h.orFail _) fun _ => h.pure _

end Collaborators.Respects

/-! ### Draining -/

namespace Drafting

/-- All that handling a message does respects the relation, apart from what concerns the manager of
the batch: who it is, and what it signs. -/
structure HandleRespects (c : Collaborators E) (R : Drafting E → Drafting E → Prop) : Prop
    extends Progression R where
  amend (f : Batch → Batch) (hf : ∀ b, (f b).managerIndex = b.managerIndex) :
    (Drafting.amend f : Call (Drafting E) Fault Unit).Respects R
  chainDomain : (call c.gateway.chainDomain GatewayError.chain).Respects R
  signatureNonce (a : Address) (f : GatewayError → Fault) :
    (call (c.gateway.signatureNonce a) f).Respects R
  estimateGas (target : Address) (input : Bytes) :
    (Call.inside env (fun e d => { d with env := e }) (c.gateway.estimateGas target input).attempt :
      Call (Drafting E) Fault _).Respects R
  failing (id : Uuid) (f : LedgerError → Fault) : (call (c.ledger.markFailed id) f).Respects R

namespace HandleRespects

variable {R : Drafting E → Drafting E → Prop} {c : Collaborators E} {settings : BatchConfig}
  (h : HandleRespects c R)

include h

theorem nextNonce (manager : Address) : (Drafting.nextNonce c manager).Respects R := by
  refine h.bind h.get fun d => ?_
  cases d.batch.lastNonce with
  | some last => exact h.pure _
  | none => exact h.signatureNonce manager _

theorem signingDomain : (Drafting.signingDomain c).Respects R := by
  refine h.bind h.get fun d => ?_
  cases d.batch.domain with
  | some domain => exact h.pure _
  | none =>
    refine h.bind h.chainDomain fun domain => ?_
    exact h.bind (h.amend _ fun _ => rfl) fun _ => h.pure _

theorem markFailed (id : Uuid) : (Drafting.markFailed c id).Respects R :=
  h.bind (.attempt (h.failing id _)) fun _ => h.pure _

theorem judge (budget : UInt64) (id : Uuid) (trial : List Bytes) (alone : Bool) :
    (Drafting.judge c budget id trial alone).Respects R := by
  have hdrop : Call.Respects
      (Drafting.markFailed c id >>= fun _ => Pure.pure (some Verdict.dropped)) R :=
    h.bind (h.markFailed id) fun _ => h.pure _
  unfold Drafting.judge
  refine h.bind (h.estimateGas _ _) fun estimate => ?_
  match estimate with
  | .ok gas =>
    by_cases hg : gas ≤ budget
    · simp only [hg, if_true]
      exact h.pure _
    · cases alone with
      | true =>
        simp only [hg, if_false, if_true]
        exact hdrop
      | false =>
        simp only [hg, if_false, Bool.false_eq_true]
        exact h.pure _
  | .error (.reverted _) => exact hdrop
  | .error (.unavailable e) => exact h.throw _

/-- A deposit respects the relation if finding out who its manager is does, and then what this
manager signs. -/
theorem deposit {id : Uuid} {r : DepositRequest} {d d' : Drafting E} {index : UInt64}
    (hindex : (Drafting.managerIndex c).perform d = (.ok index, d'))
    (hsign : ∀ domain a,
      (call (c.gateway.signDeposit index domain a) GatewayError.chain).Respects R) :
    R d' ((Drafting.deposit c settings id r).perform d).2 := by
  unfold Drafting.deposit
  rw [Call.perform_bind_ok hindex]
  refine (?_ : Call.Respects _ R) d'
  refine h.bind (fun d => ?_) fun manager => ?_
  · rw [perform_call, Call.perform_ask]
    cases c.gateway.addressFor .manager index <;> exact h.refl d
  refine h.bind (h.nextNonce manager) fun nonce => ?_
  refine h.bind h.signingDomain fun domain => ?_
  refine h.bind (hsign _ _) fun signature => ?_
  refine h.bind h.get fun d => ?_
  refine h.bind (h.judge _ _ _ _) fun verdict => ?_
  cases verdict with
  | some verdict => exact h.pure _
  | none => exact h.bind (h.amend _ fun _ => rfl) fun _ => h.pure _

theorem withdraw (id : Uuid) (r : WithdrawRequest) (permit : Option Bytes) :
    (Drafting.withdraw c settings id r permit).Respects R := by
  unfold Drafting.withdraw
  refine h.bind h.get fun d => ?_
  refine h.bind (h.judge _ _ _ _) fun verdict => ?_
  rcases verdict with _ | _ | _ | _
  · exact h.bind (h.amend _ fun _ => rfl) fun _ => h.pure _
  · exact h.bind (h.amend _ fun _ => rfl) fun _ => h.pure _
  · exact h.bind (h.amend _ fun _ => rfl) fun _ => h.pure _
  · exact h.pure _

theorem reject (id : Uuid) : (Drafting.reject c id).Respects R :=
  h.bind (h.markFailed id) fun _ => h.pure _

/-- Handling a message respects the relation if its deposit does, should it be one. -/
theorem handle {m : Message} {d d₀ d' : Drafting E} {res : Except Fault Verdict}
    (hdeposit : ∀ r, Task.ofMessage m c.gateway.pointManager = .ok (.deposit r) →
      R d₀ ((Drafting.deposit c settings m.id r).perform d).2)
    (hother : (∀ r, Task.ofMessage m c.gateway.pointManager ≠ .ok (.deposit r)) → R d₀ d)
    (handled : d.handle c settings m = (res, d')) : R d₀ d' := by
  have hout : R d₀ ((carryOut c settings m).perform d).2 := by
    unfold carryOut
    rcases ht : Task.ofMessage m c.gateway.pointManager with e | r | ⟨r, permit⟩
    · exact h.trans (hother (by simp [ht])) (h.reject m.id d)
    · exact hdeposit r ht
    · exact h.trans (hother (by simp [ht])) (h.withdraw m.id r permit d)
  unfold Drafting.handle at handled
  rcases hr : (carryOut c settings m).perform d with ⟨fault | verdict, d₁⟩
  all_goals
    rw [hr] at hout handled
    obtain ⟨-, rfl⟩ := Prod.mk.inj handled
  · exact h.trans hout (h.markFailed m.id d₁)
  · exact hout

theorem checkBudget {budget : UInt64} {d d' : Drafting E} {stop : Option StopReason}
    (checked : d.checkBudget c budget = (stop, d')) : R d d' := by
  have he := h.estimateGas c.gateway.pointManager
    (encodeMulticall (d.batch.permits ++ d.batch.calls)) d
  rw [Call.perform_inside, Call.perform_attempt] at he
  unfold Drafting.checkBudget at checked
  rcases hr : (c.gateway.estimateGas c.gateway.pointManager
    (encodeMulticall (d.batch.permits ++ d.batch.calls))).perform d.env with ⟨x | gas, e⟩
  all_goals
    simp only [hr] at he checked
    obtain ⟨-, rfl⟩ := Prod.mk.inj checked
    exact he

end HandleRespects

/-- A relation between environments, of the draftings that are made in them. -/
def Related (R : E → E → Prop) (d d' : Drafting E) : Prop := R d.env d'.env

theorem respects_call {ε α : Type} {x : Call E ε α} (hx : x.Respects R) (f : ε → Fault) :
    (call x f).Respects (Related R) := by
  intro d
  have hd := hx d.env
  rw [perform_call]
  rcases hr : x.perform d.env with ⟨_ | _, e⟩ <;> rwa [hr] at hd

end Drafting

/-- Every call that a drain makes to a collaborator respects the relation. -/
structure Collaborators.DrainRespects (c : Collaborators E) (R : E → E → Prop) : Prop
    extends Progression R where
  chainDomain : c.gateway.chainDomain.Respects R
  signatureNonce (a : Address) : (c.gateway.signatureNonce a).Respects R
  signDeposit (i : UInt64) (d : SigningDomain) (a : DepositAuthorization) :
    (c.gateway.signDeposit i d a).Respects R
  estimateGas (target : Address) (input : Bytes) : (c.gateway.estimateGas target input).Respects R
  getIndex : (c.indices.get .manager).Respects R
  markFailed (id : Uuid) : (c.ledger.markFailed id).Respects R

theorem Collaborators.Respects.drainRespects {c : Collaborators E} (h : c.Respects R) :
    c.DrainRespects R where
  toProgression := h.toProgression
  chainDomain := h.chainDomain
  signatureNonce := h.signatureNonce
  signDeposit := h.signDeposit
  estimateGas := h.estimateGas
  getIndex := h.getIndex .manager
  markFailed id := h.updateStatus id .failed

namespace Collaborators.DrainRespects

open Drafting (Related respects_call)

variable {c : Collaborators E} {settings : BatchConfig} (h : c.DrainRespects R)

include h

theorem handleRespects : Drafting.HandleRespects c (Related R) where
  refl d := h.refl d.env
  trans h₁ h₂ := h.trans h₁ h₂
  amend _ _ d := h.refl d.env
  chainDomain := respects_call h.chainDomain _
  signatureNonce a f := respects_call (h.signatureNonce a) f
  estimateGas target input d := h.estimateGas target input d.env
  failing id f := respects_call (h.markFailed id) f

theorem managerIndex : (Drafting.managerIndex c).Respects (Related R) := by
  have hd := h.handleRespects
  refine hd.bind hd.get fun d => ?_
  cases d.batch.managerIndex with
  | some index => exact hd.pure _
  | none =>
    refine hd.bind (respects_call h.getIndex _) fun stored => ?_
    exact hd.bind (fun d => h.refl d.env) fun _ => hd.pure _

theorem deposit (id : Uuid) (r : DepositRequest) :
    (Drafting.deposit c settings id r).Respects (Related R) := by
  intro d
  have hm := h.managerIndex d
  rcases hi : (Drafting.managerIndex c).perform d with ⟨x | index, d'⟩
  · unfold Drafting.deposit
    rw [Call.perform_bind_error hi]
    rwa [hi] at hm
  · rw [hi] at hm
    exact h.handleRespects.trans hm
      (h.handleRespects.deposit hi fun domain a => respects_call (h.signDeposit index domain a) _)

theorem course {n : Nat} {q : MessageQueue} {d : Drafting E} {ending : Ending} {r : Drained E}
    (hc : Course c settings n q d ending r) : R d.env r.site.env := by
  have hd := h.handleRespects
  have hhandle : ∀ {m : Message} {d d' : Drafting E} {res : Except Fault Verdict},
      d.handle c settings m = (res, d') → Related R d d' := fun handled =>
    hd.handle (fun r _ => h.deposit _ r _) (fun _ => hd.refl _) handled
  induction hc with
  | halted => exact h.refl _
  | undecodable p rest e room queue decoded next ih => exact ih
  | dropped p rest m d' room queue decoded handled next ih => exact h.trans (hhandle handled) ih
  | accepted p rest m d' d'' room queue decoded handled fits next ih =>
    exact h.trans (hd.trans (hhandle handled) (hd.checkBudget fits)) ih
  | full p rest m d' d'' stop room queue decoded handled full =>
    exact hd.trans (hhandle handled) (hd.checkBudget full)
  | deferred p rest m d' gas budget queue decoded handled => exact hhandle handled
  | failed p rest m d' fault queue decoded handled => exact hhandle handled

theorem drain (s : Site E) : R s.env (s.drain c).site.env := by
  unfold Site.drain
  cases c.config s.env with
  | error e => exact h.refl _
  | ok config =>
    obtain ⟨ending, hc⟩ := PointExchange.course c config.batch 0 s.queue ⟨{}, s.env⟩
    exact h.course hc

end Collaborators.DrainRespects

/-- **What all collaborators respect, the protected part of a run respects.** -/
theorem Runner.locked_respects {r : Runner E} (h : r.toCollaborators.Respects R) (s : Site E) :
    R s.env (r.locked s).2.env := by
  have hd := h.drainRespects.drain s
  unfold Runner.locked
  by_cases he : (s.drain r.toCollaborators).batch.isEmpty = true
  · simp only [he, if_true]
    exact hd
  · simp only [he, if_false, Bool.false_eq_true]
    exact h.trans hd (h.send r.turns _ _ _)

end PointExchange
