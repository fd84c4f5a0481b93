import PointExchange.Proofs.Conservation
import PointExchange.Proofs.Ledger

/-!
# What a drain gives up on

A drain gives up on a message by dropping it or by failing at it. Whatever the collaborators do, it
drops a message for one of three causes (`Cause`), and a message that it has dropped stays out of
the queue. Over a ledger in memory the pending records of the messages that were given up on are
failed, and nothing else happens to the ledger (`drain_fails_what_it_gives_up`).
-/

namespace PointExchange

/-! ## Causes -/

/-- Why a message is dropped. -/
inductive Cause
  /-- it asks for nothing that makes sense, or its permit cannot be written down -/
  | invalid (e : MessageError)
  /-- its call would fail on the chain -/
  | reverted (reason : String)
  /-- it is over the budget with nothing else in the trial -/
  | oversized (gas : UInt64)

/-- There is an environment in which the gateway answers so about the gas of some calls. -/
def Collaborators.Answers {E : Type} (c : Collaborators E) (calls : List Bytes)
    (answer : Except EstimateError UInt64) : Prop :=
  ∃ e, ((c.gateway.estimateGas c.gateway.pointManager (encodeMulticall calls)).perform e).1 = answer

/-- The cause why a trial does not do and never will. -/
inductive Cause.OfTrial {E : Type} (c : Collaborators E) (budget : UInt64) (trial : List Bytes)
    (alone : Bool) : Cause → Prop
  | reverted (reason : String) (answer : c.Answers trial (.error (.reverted reason))) :
    OfTrial c budget trial alone (.reverted reason)
  | oversized (gas : UInt64) (answer : c.Answers trial (.ok gas)) (above : budget < gas)
    (only : alone = true) : OfTrial c budget trial alone (.oversized gas)

namespace Drafting

variable {E : Type} {c : Collaborators E} {settings : BatchConfig} {m : Message}

/-- The trial for a message: its call comes last, after the calls and permits in hand. -/
inductive Tries (c : Collaborators E) (settings : BatchConfig) (m : Message) (d : Drafting E) :
    List Bytes → Prop
  | deposit (call : Bytes) (built : m.Builds c settings .pointToToken call) :
    Tries c settings m d (d.batch.calls ++ [call])
  | withdraw (r : WithdrawRequest) (permit : Option Bytes)
    (asked : Task.ofMessage m c.gateway.pointManager = .ok (.withdraw r permit))
    (built : m.Builds c settings .tokenToPoint (WithdrawCall.ofRequest r).encode) :
    Tries c settings m d
      (d.batch.calls ++ (d.batch.permits ++ permit.toList) ++ [(WithdrawCall.ofRequest r).encode])

/-- What it means that a message is dropped for a cause. -/
inductive Drops (c : Collaborators E) (settings : BatchConfig) (m : Message) (d : Drafting E) :
    Cause → Prop
  | invalid (e : MessageError) (h : Task.ofMessage m c.gateway.pointManager = .error e) :
    Drops c settings m d (.invalid e)
  | tried (trial : List Bytes) (cause : Cause) (tries : d.Tries c settings m trial)
    (fails : cause.OfTrial c settings.gasBudget trial d.batch.isEmpty) : Drops c settings m d cause

/-- The calls and permits in hand. -/
def inHand (d : Drafting E) : List Bytes × List Bytes := (d.batch.calls, d.batch.permits)

theorem inHand_call {ε α : Type} (x : Call E ε α) (f : ε → Fault) : (call x f).Keeps inHand := by
  intro d
  rw [perform_call]
  rcases x.perform d.env with ⟨_ | _, e⟩ <;> rfl

/-- After a change to the batch the verdict stands. -/
theorem leads_amend {f : Batch → Batch} {v : Verdict} {d : Drafting E}
    {P : Except Fault Verdict → Drafting E → Prop} (h : P (.ok v) { d with batch := f d.batch }) :
    (amend f >>= fun _ => Pure.pure v).Leads d P := h

/-- A trial that is dropped has its cause. -/
theorem cause_of_judge (budget : UInt64) (id : Uuid) (trial : List Bytes) (alone : Bool)
    (d : Drafting E) : (judge c budget id trial alone).Leads d fun res _ =>
      res = .ok (some .dropped) → ∃ cause : Cause, cause.OfTrial c budget trial alone := by
  unfold judge
  refine .bind (Q := fun res _ => ∀ answer, res = .ok answer → c.Answers trial answer) ?_ ?_ ?_
  · intro answer h
    exact ⟨d.env, by simpa using h⟩
  · intro x e' _ h
    simp at h
  · intro answer e' hq
    have ha := hq answer rfl
    match answer with
    | .ok gas =>
      by_cases hg : gas ≤ budget
      · simp only [hg, if_true]
        exact .pure (by simp)
      · cases alone with
        | true =>
          simp only [hg, if_false, if_true]
          exact fun _ => ⟨_, .oversized gas ha (UInt64.not_le.mp hg) rfl⟩
        | false =>
          simp only [hg, if_false, Bool.false_eq_true]
          exact .pure (by simp)
    | .error (.reverted reason) => exact fun _ => ⟨_, .reverted reason ha⟩
    | .error (.unavailable e) =>
      intro h
      simp at h

theorem cause_of_deposit {r : DepositRequest} (hr : m.request = .ok (.deposit r))
    (d : Drafting E) : (deposit c settings m.id r).Leads d fun res _ =>
      res = .ok .dropped → ∃ cause, d.Drops c settings m cause := by
  obtain ⟨amount, rfl, hasks⟩ : ∃ amount, r = ⟨m.account, amount⟩ ∧ m.Asks (.deposit r) := by
    cases Message.asks hr with
    | deposit amount parsed direction => exact ⟨amount, rfl, .deposit amount parsed direction⟩
  have herror : ∀ (x : Fault) (d' : Drafting E), d'.inHand = d.inHand →
      (.error x : Except Fault Verdict) = .ok .dropped → ∃ cause, d.Drops c settings m cause := by
    intro x d' _ h
    simp at h
  unfold deposit
  -- what is done before the trial leaves the calls and permits in hand as they are
  refine .bind_of_keeps (keeps_managerIndex (inHand_call _ _) fun _ _ => rfl) rfl herror
    fun index d₁ _ h₁ => ?_
  refine .bind_of_keeps (inHand_call _ _) h₁ herror fun manager d₂ hmanager h₂ => ?_
  refine .bind_of_keeps (keeps_nextNonce fun _ => inHand_call _ _) h₂ herror fun nonce d₃ _ h₃ => ?_
  refine .bind_of_keeps (keeps_signingDomain (inHand_call _ _) fun _ _ => rfl) h₃ herror
    fun domain d₄ _ h₄ => ?_
  refine .bind_of_keeps (inHand_call _ _) h₄ herror fun signature d₅ hsignature h₅ => ?_
  refine .bind_of_keeps (.get _) h₅ herror fun d₆ d₇ hget h₆ => ?_
  obtain ⟨rfl, rfl⟩ : d₅ = d₆ ∧ d₅ = d₇ := by simpa using hget
  obtain ⟨hcalls, hpermits⟩ := Prod.mk.inj h₅
  refine .bind (cause_of_judge _ _ _ _ d₅) (fun x d' _ => by simp) fun verdict d₈ hcause => ?_
  cases verdict with
  | none => exact leads_amend (by simp)
  | some verdict =>
    intro h
    obtain rfl : verdict = .dropped := by simpa using h
    obtain ⟨cause, hc⟩ := hcause rfl
    obtain ⟨w, haddress, -⟩ := perform_call_ok hmanager
    obtain ⟨w', hsigned, -⟩ := perform_call_ok hsignature
    rw [Batch.isEmpty, hcalls, hpermits] at hc
    exact ⟨cause, .tried _ _ (.deposit _ (.deposit amount index manager nonce domain signature _ w'
      hasks (Prod.mk.inj haddress).1 hsigned)) hc⟩

theorem cause_of_withdraw {r : WithdrawRequest} {permit : Option Bytes}
    (h : Task.ofMessage m c.gateway.pointManager = .ok (.withdraw r permit)) (d : Drafting E) :
    (withdraw c settings m.id r permit).Leads d fun res _ =>
      res = .ok .dropped → ∃ cause, d.Drops c settings m cause := by
  have hr := (Task.ofMessage_withdraw_iff.mp h).1
  have hbuilt : m.Builds c settings .tokenToPoint (WithdrawCall.ofRequest r).encode := by
    cases Message.asks hr with
    | withdraw amount signature validUntil permit parsed direction signed expires permitted =>
      exact .withdraw amount validUntil signature permit
        (.withdraw amount signature validUntil permit parsed direction signed expires permitted)
  unfold withdraw
  refine .bind (Q := fun res d' => res = .ok d ∧ d' = d) ⟨rfl, rfl⟩ (by simp) ?_
  rintro d₁ d₂ ⟨he, rfl⟩
  obtain rfl : d₁ = d₂ := by simpa using he
  refine .bind (cause_of_judge _ _ _ _ d₁) (fun x d' _ => by simp) fun verdict d₂ hcause => ?_
  match verdict with
  | none => exact leads_amend (by simp)
  | some (.deferred gas budget) => exact .pure (by simp)
  | some .accepted => exact leads_amend (by simp)
  | some .dropped =>
    intro _
    obtain ⟨cause, hc⟩ := hcause rfl
    exact ⟨cause, .tried _ _ (.withdraw r permit h hbuilt) hc⟩

/-- **A message is dropped for a cause, whatever the collaborators do.** -/
theorem cause_of_handle {d d' : Drafting E}
    (h : d.handle c settings m = (.ok .dropped, d')) : ∃ cause, d.Drops c settings m cause := by
  have hres : ((carryOut c settings m).perform d).1 = .ok .dropped := by
    unfold handle at h
    rcases hp : (carryOut c settings m).perform d with ⟨fault | verdict, d₁⟩
    · simp [hp] at h
    · simp only [hp, Prod.mk.injEq] at h
      exact h.1
  unfold carryOut at hres
  cases htask : Task.ofMessage m c.gateway.pointManager with
  | error e => exact ⟨_, .invalid e htask⟩
  | ok task =>
    rw [htask] at hres
    cases task with
    | deposit r => exact cause_of_deposit (Task.ofMessage_deposit_iff.mp htask) d hres
    | withdraw r permit => exact cause_of_withdraw htask d hres

end Drafting

/-! ## The rounds of a drain -/

/-- A message that a drain has taken for good, with the cause if it was dropped. -/
structure Taken where
  message : Message
  cause : Option Cause

/-- The record of a message that was given up on. -/
def Taken.givenUp? (x : Taken) : Option Uuid := x.cause.map fun _ => x.message.id

/-- Messages are handled one after another, each in the drafting that the one before has left. -/
inductive Drafting.Takes {E : Type} (c : Collaborators E) (settings : BatchConfig) :
    Drafting E → List Taken → Drafting E → Prop
  | nothing (d : Drafting E) : Takes c settings d [] d
  | accepted {d log last} (m : Message) (d' : Drafting E)
    (handled : d.handle c settings m = (.ok .accepted, d'))
    (next : Takes c settings (d'.checkBudget c settings.gasBudget).2 log last) :
    Takes c settings d (⟨m, none⟩ :: log) last
  | dropped {d log last} (m : Message) (d' : Drafting E) (cause : Cause)
    (handled : d.handle c settings m = (.ok .dropped, d')) (why : d.Drops c settings m cause)
    (next : Takes c settings d' log last) :
    Takes c settings d (⟨m, some cause⟩ :: log) last

namespace Ending

/-- The record of the message that the collaborators failed. -/
def failed? : Ending → Option Uuid
  | failed m _ => some m.id
  | settled | deferred .. => none

/-- What an ending does after the messages that were taken for good. -/
inductive Follows {E : Type} (c : Collaborators E) (settings : BatchConfig) (last : Drafting E) :
    Ending → E → Prop
  | settled : Follows c settings last .settled last.env
  | deferred (m : Message) (gas budget : UInt64) (d : Drafting E)
    (handled : last.handle c settings m = (.ok (.deferred gas budget), d)) :
    Follows c settings last (.deferred m gas budget) d.env
  | failed (m : Message) (fault : Fault) (d : Drafting E)
    (handled : last.handle c settings m = (.error fault, d)) :
    Follows c settings last (.failed m fault) d.env

end Ending

/-- A drain takes the first `k` payloads for good. The messages among them are taken one after
another; then the drain ends, and the other payloads stay as they are. -/
structure Drained.Of {E : Type} (c : Collaborators E) (settings : BatchConfig) (q : MessageQueue)
    (d : Drafting E) (k : Nat) (log : List Taken) (last : Drafting E) (ending : Ending)
    (r : Drained E) : Prop where
  messages : messagesOf (q.payloads.take k) = log.map Taken.message
  left : r.site.queue.payloads = q.payloads.drop k
  takes : d.Takes c settings log last
  follows : ending.Follows c settings last r.site.env
  explains : ending.Explains q.payloads[k]? r.stop

section Rounds

variable {E : Type} {c : Collaborators E} {settings : BatchConfig} {n : Nat} {q q' : MessageQueue}
  {d last : Drafting E} {k : Nat} {log : List Taken} {ending : Ending} {r : Drained E}

theorem Drained.Of.nothing {stop : StopReason} {d' : Drafting E}
    (left : q'.payloads = q.payloads) (follows : ending.Follows c settings d d'.env)
    (explains : ending.Explains q.payloads[0]? stop) :
    (d'.close q' stop).Of c settings q d 0 [] d ending :=
  ⟨rfl, left, .nothing d, follows, explains⟩

/-- A drain goes on after a payload that is no message. -/
theorem Drained.Of.undecodable {p : Bytes} {e : DecodeError}
    (queue : q.payloads = p :: q'.payloads) (decoded : Message.decode p = .error e)
    (h : r.Of c settings q' d k log last ending) : r.Of c settings q d (k + 1) log last ending where
  messages := by rw [queue, List.take_succ_cons, messagesOf_cons_error decoded, h.messages]
  left := by rw [queue, List.drop_succ_cons, h.left]
  takes := h.takes
  follows := h.follows
  explains := by simpa [queue] using h.explains

/-- A drain goes on after a message that was taken. -/
theorem Drained.Of.cons {p : Bytes} {x : Taken} {d' : Drafting E}
    (queue : q.payloads = p :: q'.payloads) (decoded : Message.decode p = .ok x.message)
    (h : r.Of c settings q' d' k log last ending)
    (takes : d.Takes c settings (x :: log) last) :
    r.Of c settings q d (k + 1) (x :: log) last ending where
  messages := by
    rw [queue, List.take_succ_cons, messagesOf_cons_ok decoded, h.messages, List.map_cons]
  left := by rw [queue, List.drop_succ_cons, h.left]
  takes := takes
  follows := h.follows
  explains := by simpa [queue] using h.explains

/-- **Every course of a drain is one of messages taken.** -/
theorem Course.takes (h : Course c settings n q d ending r) :
    ∃ k log last, r.Of c settings q d k log last ending := by
  induction h with
  | halted stop why => exact ⟨0, [], _, .nothing rfl .settled (.settled stop)⟩
  | undecodable p rest e room queue decoded next ih =>
    obtain ⟨k, log, last, ih⟩ := ih
    exact ⟨k + 1, log, last, ih.undecodable queue decoded⟩
  | dropped p rest m d' room queue decoded handled next ih =>
    obtain ⟨k, log, last, ih⟩ := ih
    obtain ⟨cause, why⟩ := Drafting.cause_of_handle handled
    exact ⟨k + 1, ⟨m, some cause⟩ :: log, last,
      ih.cons queue decoded (.dropped m d' cause handled why ih.takes)⟩
  | @accepted n q d ending r p rest m d' d'' room queue decoded handled fits next ih =>
    obtain ⟨k, log, last, ih⟩ := ih
    have hd : (d'.checkBudget c settings.gasBudget).2 = d'' := congrArg Prod.snd fits
    refine ⟨k + 1, ⟨m, none⟩ :: log, last,
      ih.cons queue decoded (.accepted m d' handled ?_)⟩
    rw [hd]
    exact ih.takes
  | @full n q d p rest m d' d'' stop room queue decoded handled full =>
    have hd : (d'.checkBudget c settings.gasBudget).2 = d'' := congrArg Prod.snd full
    have hlast : (d''.close { q with payloads := rest, acked := q.acked + 1 } stop).Of c settings
        { q with payloads := rest, acked := q.acked + 1 } d'' 0 [] d'' .settled :=
      .nothing rfl .settled (.settled stop)
    refine ⟨1, [⟨m, none⟩], d'', hlast.cons queue decoded (.accepted m d' handled ?_)⟩
    rw [hd]
    exact .nothing d''
  | deferred p rest m d' gas budget queue decoded handled =>
    exact ⟨0, [], _, .nothing rfl (.deferred m gas budget d' handled)
      (.deferred p m gas budget (by simp [queue]) decoded)⟩
  | failed p rest m d' fault queue decoded handled =>
    exact ⟨0, [], _, .nothing rfl (.failed m fault d' handled)
      (.failed p m fault (by simp [queue]) decoded)⟩

end Rounds

/-! ## Over a ledger in memory -/

/-- A ledger in memory, and whatever else there is. -/
structure Books (F : Type) where
  ledger : MemoryLedger
  rest : F

/-- The other collaborators, which live in an environment of their own and do as they like. -/
structure Partners (F : Type) where
  gateway : Gateway F
  indices : IndexAccess F
  config : F → Except ConfigError Config

/-- A store of indices in a part of an environment. -/
def IndexAccess.inside {E S : Type} (s : IndexAccess E) (read : S → E) (write : E → S → S) :
    IndexAccess S where
  get role := (s.get role).inside read write
  set role index := (s.set role index).inside read write

/-- The ledger of the books. -/
def Books.access {F : Type} : LedgerAccess (Books F) where
  updateStatus id status := .of fun b =>
    let (r, l) := b.ledger.updateStatus id status
    (.ok r, { b with ledger := l })
  commit hash accepted := .of fun b =>
    let (r, l) := b.ledger.commit hash accepted
    (r, { b with ledger := l })

namespace Partners

variable {F : Type} (p : Partners F)

/-- The collaborators with a ledger in memory. -/
def tools : Collaborators (Books F) where
  gateway := p.gateway.inside Books.rest fun f b => { b with rest := f }
  indices := p.indices.inside Books.rest fun f b => { b with rest := f }
  ledger := Books.access
  config b := p.config b.rest

end Partners

namespace Drafting

variable {F : Type} {p : Partners F} {settings : BatchConfig} {m : Message}

/-- The ledger that a drafting has come to. -/
def ledger (d : Drafting (Books F)) : MemoryLedger := d.env.ledger

/-- A call leaves the ledger of a drafting alone if it leaves that of the books alone. -/
theorem ledger_call {ε α : Type} {x : Call (Books F) ε α} (hx : x.Keeps Books.ledger)
    (f : ε → Fault) : (call x f).Keeps ledger := by
  intro d
  have hd := hx d.env
  rw [perform_call]
  rcases h : x.perform d.env with ⟨_ | _, e⟩
  · rwa [h] at hd
  · rwa [h] at hd

/-- The record of an identifier is failed in one case, and nothing else happens to the ledger. -/
structure Marks (id : Uuid) (l l' : MemoryLedger) (marked : Prop) : Prop where
  failed : marked → l' = l.fail id
  same : ¬marked → l' = l

theorem marks_judge (budget : UInt64) (id : Uuid) (trial : List Bytes) (alone : Bool)
    (d : Drafting (Books F)) : (judge p.tools budget id trial alone).Leads d fun res d' =>
      Marks id d.ledger d'.ledger (res = .ok (some .dropped)) := by
  unfold judge
  refine .bind_of_keeps (f := ledger) (fun _ => rfl) rfl (fun _ _ h => ⟨by simp, fun _ => h⟩)
    fun estimate d₁ _ h₁ => ?_
  have hdrop : (markFailed p.tools id >>= fun _ => Pure.pure (some Verdict.dropped)).Leads d₁
      fun res d' => Marks id d.ledger d'.ledger (res = .ok (some .dropped)) :=
    ⟨fun _ => congrArg (MemoryLedger.fail · id) h₁, fun h => absurd rfl h⟩
  match estimate with
  | .ok gas =>
    by_cases hg : gas ≤ budget
    · simp only [hg, if_true]
      exact ⟨(nomatch ·), fun _ => h₁⟩
    · cases alone with
      | true =>
        simp only [hg, if_false, if_true]
        exact hdrop
      | false =>
        simp only [hg, if_false, Bool.false_eq_true]
        exact ⟨(nomatch ·), fun _ => h₁⟩
  | .error (.reverted _) => exact hdrop
  | .error (.unavailable e) => exact ⟨(nomatch ·), fun _ => h₁⟩

/-- What is done with a verdict on a trial marks nothing more. -/
theorem Marks.of_verdict {id : Uuid} {l : MemoryLedger} {v : Verdict} {d : Drafting (Books F)}
    (h : Marks id l d.ledger
      ((.ok (some v) : Except Fault (Option Verdict)) = .ok (some .dropped))) :
    Marks id l d.ledger ((.ok v : Except Fault Verdict) = .ok .dropped) :=
  ⟨fun hv => h.failed (by simpa using hv), fun hv => h.same (by simpa using hv)⟩

theorem marks_deposit (id : Uuid) (r : DepositRequest) (d : Drafting (Books F)) :
    (deposit p.tools settings id r).Leads d fun res d' =>
      Marks id d.ledger d'.ledger (res = .ok .dropped) := by
  have herror : ∀ (x : Fault) (d' : Drafting (Books F)), d'.ledger = d.ledger →
      Marks id d.ledger d'.ledger ((.error x : Except Fault Verdict) = .ok .dropped) :=
    fun x d' h => ⟨by simp, fun _ => h⟩
  unfold deposit
  refine .bind_of_keeps (keeps_managerIndex (ledger_call (fun _ => rfl) _) fun _ _ => rfl) rfl
    herror fun index d₁ _ h₁ => ?_
  refine .bind_of_keeps (ledger_call (fun _ => rfl) _) h₁ herror fun manager d₂ _ h₂ => ?_
  refine .bind_of_keeps (keeps_nextNonce fun _ => ledger_call (fun _ => rfl) _) h₂ herror
    fun nonce d₃ _ h₃ => ?_
  refine .bind_of_keeps (keeps_signingDomain (ledger_call (fun _ => rfl) _) fun _ _ => rfl) h₃
    herror fun domain d₄ _ h₄ => ?_
  refine .bind_of_keeps (ledger_call (fun _ => rfl) _) h₄ herror fun signature d₅ _ h₅ => ?_
  refine .bind_of_keeps (.get _) h₅ herror fun _ d₆ _ h₆ => ?_
  rw [← h₆]
  refine .bind (marks_judge _ id _ _ d₆) (fun x d' h => ⟨by simp, fun _ => h.same (by simp)⟩)
    fun verdict d₇ h₇ => ?_
  cases verdict with
  | some verdict => exact .pure h₇.of_verdict
  | none => exact leads_amend ⟨(nomatch ·), fun _ => h₇.same (by simp)⟩

theorem marks_withdraw (id : Uuid) (r : WithdrawRequest) (permit : Option Bytes)
    (d : Drafting (Books F)) : (withdraw p.tools settings id r permit).Leads d fun res d' =>
      Marks id d.ledger d'.ledger (res = .ok .dropped) := by
  unfold withdraw
  refine .bind_of_keeps (f := ledger) (.get _) rfl (fun _ _ h => ⟨by simp, fun _ => h⟩)
    fun _ d₁ _ h₁ => ?_
  rw [← h₁]
  refine .bind (marks_judge _ id _ _ d₁) (fun x d' h => ⟨by simp, fun _ => h.same (by simp)⟩)
    fun verdict d₂ h₂ => ?_
  match verdict with
  | some (.deferred gas budget) => exact .pure h₂.of_verdict
  -- the permit stays in the batch, which is nothing to the ledger
  | some .dropped => exact leads_amend (d := d₂) ⟨fun _ => h₂.failed rfl, fun h => absurd rfl h⟩
  | some .accepted => exact leads_amend ⟨(nomatch ·), fun _ => h₂.same (by simp)⟩
  | none => exact leads_amend ⟨(nomatch ·), fun _ => h₂.same (by simp)⟩

/-- **Handling a message fails its record if the message is dropped or a collaborator fails it, and
does nothing else to the ledger.** -/
theorem marks_handle {d d' : Drafting (Books F)} {res : Except Fault Verdict}
    (h : d.handle p.tools settings m = (res, d')) :
    Marks m.id d.ledger d'.ledger (res = .ok .dropped ∨ ∃ fault, res = .error fault) := by
  have hc : (carryOut p.tools settings m).Leads d fun res d' =>
      Marks m.id d.ledger d'.ledger (res = .ok .dropped) := by
    unfold carryOut
    cases Task.ofMessage m p.tools.gateway.pointManager with
    | error e => exact ⟨fun _ => rfl, fun h => absurd rfl h⟩
    | ok task =>
      cases task with
      | deposit r => exact marks_deposit m.id r d
      | withdraw r permit => exact marks_withdraw m.id r permit d
  unfold Call.Leads at hc
  unfold handle at h
  rcases hp : (carryOut p.tools settings m).perform d with ⟨fault | verdict, d₁⟩
  · rw [hp] at hc h
    obtain ⟨rfl, rfl⟩ := Prod.mk.inj h
    refine ⟨fun _ => ?_, fun hn => absurd (.inr ⟨fault, rfl⟩) hn⟩
    -- nothing was marked before the collaborator failed
    exact congrArg (MemoryLedger.fail · m.id) (hc.same (by simp))
  · rw [hp] at hc h
    obtain ⟨rfl, rfl⟩ := Prod.mk.inj h
    exact ⟨fun hd => hc.failed (by simpa using hd), fun hn => hc.same fun hd => hn (.inl hd)⟩

/-- Estimating the batch leaves the ledger alone. -/
theorem ledger_checkBudget (budget : UInt64) (d : Drafting (Books F)) :
    (d.checkBudget p.tools budget).2.ledger = d.ledger := by
  simp only [checkBudget]
  split
  · rfl
  · rfl

/-- Messages taken one after another fail the records of those that were given up on. -/
theorem Takes.ledger {d last : Drafting (Books F)} {log : List Taken}
    (h : d.Takes p.tools settings log last) :
    last.ledger = d.ledger.failAll (log.filterMap Taken.givenUp?) := by
  induction h with
  | nothing d => rfl
  | @accepted d log last m d' handled next ih =>
    have hm : d'.ledger = d.ledger := (marks_handle handled).same (by simp)
    rw [ih, ledger_checkBudget, hm]
    rfl
  | @dropped d log last m d' cause handled why next ih =>
    have hm : d'.ledger = d.ledger.fail m.id := (marks_handle handled).failed (.inl rfl)
    rw [ih, hm]
    rfl

end Drafting

/-- The end of a drain fails the record of the message that the collaborators failed. -/
theorem Ending.Follows.ledger {F : Type} {p : Partners F} {settings : BatchConfig}
    {last : Drafting (Books F)} {ending : Ending} {b : Books F}
    (h : ending.Follows p.tools settings last b) :
    b.ledger = last.ledger.failAll ending.failed?.toList := by
  cases h with
  | settled => rfl
  | deferred m gas budget d handled => exact (Drafting.marks_handle handled).same (by simp)
  | failed m fault d handled => exact (Drafting.marks_handle handled).failed (.inr ⟨fault, rfl⟩)

/-! ## What a drain does to the ledger -/

/-- The records of the messages that a drain gave up on. -/
def givenUp (log : List Taken) (ending : Ending) : List Uuid :=
  log.filterMap Taken.givenUp? ++ ending.failed?.toList

/-- The second ledger is the first one with the pending records among some identifiers failed. -/
structure MemoryLedger.Fails (l l' : MemoryLedger) (ids : List Uuid) : Prop where
  changed : ∀ id, l'.find? id ≠ l.find? id ↔ l.HasStatus id .pending ∧ id ∈ ids
  failed : ∀ id r, l.find? id = some r → l'.find? id ≠ l.find? id →
    l'.find? id = some { r with status := .failed }
  links : l'.links = l.links

theorem MemoryLedger.fails_failAll (l : MemoryLedger) (ids : List Uuid) :
    l.Fails (l.failAll ids) ids := by
  have hfind : ∀ id, (l.failAll ids).find? id ≠ l.find? id →
      ∃ r, l.find? id = some r ∧ r.status = .pending ∧ id ∈ ids := by
    intro id hne
    rw [find?_failAll] at hne
    cases hf : l.find? id with
    | none => simp [hf] at hne
    | some r =>
      by_cases hr : r.status = .pending ∧ r.id ∈ ids
      · exact ⟨r, rfl, hr.1, (find?_eq_some hf).1 ▸ hr.2⟩
      · simp [hf, ExchangeRecord.failedIn, hr] at hne
  refine ⟨fun id => ⟨fun hne => ?_, ?_⟩, fun id r hr hne => ?_, (frame_failAll ids l).1⟩
  · obtain ⟨r, hf, hs, hi⟩ := hfind id hne
    exact ⟨⟨r, hf, hs⟩, hi⟩
  · rintro ⟨hp, hi⟩ he
    have hfailed := (hasStatus_failAll_of_mem hp hi).of_eq he.symm
    exact absurd (hp.unique hfailed) (by simp)
  · obtain ⟨r', hf, hs, hi⟩ := hfind id hne
    obtain rfl : r' = r := Option.some.inj (hf.symm.trans hr)
    rw [find?_failAll, hf, Option.map_some, ExchangeRecord.failedIn,
      if_pos ⟨hs, (find?_eq_some hf).1 ▸ hi⟩]

/-- **A drain changes the ledger by failing what it gave up on, and in no other way.** Whatever the
other collaborators do, a record is changed if and only if it was pending and is that of a message
that was dropped, for an invalid request, a simulated revert or a size that fits no batch, or of the
one that a collaborator failed. What was dropped has left the queue. -/
theorem drain_fails_what_it_gives_up {F : Type} (p : Partners F) (s : Site (Books F)) :
    ∃ settings ending k log last, s.Course p.tools settings ending (s.drain p.tools) ∧
      (s.drain p.tools).Of p.tools settings s.queue ⟨{}, s.env⟩ k log last ending ∧
      s.env.ledger.Fails (s.drain p.tools).site.env.ledger (givenUp log ending) := by
  obtain ⟨settings, ending, k, log, last, hcourse, hof⟩ :
      ∃ settings ending k log last, s.Course p.tools settings ending (s.drain p.tools) ∧
        (s.drain p.tools).Of p.tools settings s.queue ⟨{}, s.env⟩ k log last ending := by
    unfold Site.drain
    cases h : p.tools.config s.env with
    -- without settings nothing is taken, whatever they could have been
    | error e =>
      exact ⟨{}, .settled, 0, [], _, .unreadable e _ h, .nothing rfl .settled (.settled _)⟩
    | ok config =>
      obtain ⟨ending, hcourse⟩ := course p.tools config.batch 0 s.queue ⟨{}, s.env⟩
      obtain ⟨k, log, last, hof⟩ := hcourse.takes
      exact ⟨_, ending, k, log, last, .readable config ending _ h hcourse, hof⟩
  refine ⟨settings, ending, k, log, last, hcourse, hof, ?_⟩
  have hledger : (s.drain p.tools).site.env.ledger =
      s.env.ledger.failAll (givenUp log ending) := by
    rw [hof.follows.ledger, hof.takes.ledger, givenUp]
    exact List.foldl_append.symm
  rw [hledger]
  exact s.env.ledger.fails_failAll _

end PointExchange
