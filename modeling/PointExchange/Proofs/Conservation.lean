import PointExchange.Proofs.Course
import PointExchange.Proofs.Sizes

/-!
# A drain loses nothing

Whatever the collaborators do, a drain takes some payloads from the front of the queue and leaves
the others as they were. Each payload that it takes is counted once, at most one goes back, and the
batch has the calls of the accepted messages in the order of the queue (`drain_conserves`).

A handler can change the calls and records of a batch in one way only: by accepting its message. So
most of what follows is about calls to collaborators that leave them alone (`Call.Keeps`).
-/

namespace PointExchange

/-! ## Calls that leave things alone -/

namespace Call

variable {E S ε δ α β γ : Type}

/-- Whatever comes of a call, it leaves an observation of the environment as it was. -/
def Keeps (c : Call E ε α) (f : E → γ) : Prop := ∀ e, f (c.perform e).2 = f e

/-- What a call from an environment comes to has a property. -/
def Leads (c : Call E ε α) (e : E) (P : Except ε α → E → Prop) : Prop :=
  P (c.perform e).1 (c.perform e).2

theorem Keeps.pure (a : α) (f : E → γ) : Keeps (Pure.pure a : Call E ε α) f := fun _ => rfl

theorem Keeps.get (f : E → γ) : Keeps (get : Call E ε E) f := fun _ => rfl

theorem Keeps.bind {c : Call E ε α} {k : α → Call E ε β} {f : E → γ} (hc : c.Keeps f)
    (hk : ∀ a, (k a).Keeps f) : (c >>= k).Keeps f := by
  intro e
  have he := hc e
  rcases h : c.perform e with ⟨x | a, e'⟩
  · rw [perform_bind_error h]
    rwa [h] at he
  · rw [perform_bind_ok h, hk a e']
    rwa [h] at he

theorem Keeps.attempt {c : Call E ε α} {f : E → γ} (hc : c.Keeps f) :
    (c.attempt : Call E δ (Except ε α)).Keeps f := hc

/-- After a call that succeeds the next one goes on. -/
theorem Leads.bind {c : Call E ε α} {k : α → Call E ε β} {e : E} {Q : Except ε α → E → Prop}
    {P : Except ε β → E → Prop} (hc : c.Leads e Q)
    (herror : ∀ x e', Q (.error x) e' → P (.error x) e')
    (hok : ∀ a e', Q (.ok a) e' → (k a).Leads e' P) : (c >>= k).Leads e P := by
  unfold Leads at hc ⊢
  rcases h : c.perform e with ⟨x | a, e'⟩
  · rw [perform_bind_error h]
    rw [h] at hc
    exact herror x e' hc
  · rw [perform_bind_ok h]
    rw [h] at hc
    exact hok a e' hc

/-- After a call that leaves an observation alone it is still what it was. -/
theorem Leads.bind_of_keeps {c : Call E ε α} {k : α → Call E ε β} {e : E}
    {P : Except ε β → E → Prop} {f : E → γ} {v : γ} (hc : c.Keeps f) (he : f e = v)
    (herror : ∀ x e', f e' = v → P (.error x) e')
    (hok : ∀ a e', c.perform e = (.ok a, e') → f e' = v → (k a).Leads e' P) :
    (c >>= k).Leads e P := by
  have hq : c.Leads e fun r e' => c.perform e = (r, e') ∧ f e' = v := ⟨rfl, (hc e).trans he⟩
  exact hq.bind (fun x e' h => herror x e' h.2) fun a e' h => hok a e' h.1 h.2

theorem Leads.pure {a : α} {e : E} {P : Except ε α → E → Prop} (h : P (.ok a) e) :
    (Pure.pure a : Call E ε α).Leads e P := h

end Call

namespace Drafting

variable {E : Type} {c : Collaborators E} {settings : BatchConfig} {m : Message}

/-- The accepted calls of the batch, and the records that they are for. -/
def accepted (d : Drafting E) : List Bytes × List (Uuid × Direction) :=
  (d.batch.calls, d.batch.accepted)

theorem batch_call {ε α : Type} (x : Call E ε α) (f : ε → Fault) : (call x f).Keeps batch := by
  intro d
  rw [perform_call]
  rcases x.perform d.env with ⟨_ | _, e⟩ <;> rfl

theorem keeps_call {ε α : Type} (x : Call E ε α) (f : ε → Fault) : (call x f).Keeps accepted :=
  fun d => congrArg (fun b : Batch => (b.calls, b.accepted)) (batch_call x f d)

theorem keeps_amend {f : Batch → Batch}
    (h : ∀ b, (f b).calls = b.calls ∧ (f b).accepted = b.accepted) :
    (amend f : Call (Drafting E) Fault Unit).Keeps accepted := fun d =>
  Prod.ext (h d.batch).1 (h d.batch).2

/-! The questions that come before a deposit leave an observation alone if the calls to the
collaborators do and if it does not look at what is noted down. -/

section Questions

variable {γ : Type} {f : Drafting E → γ}

theorem keeps_managerIndex (ask : (call (c.indices.get .manager) IndexError.chain).Keeps f)
    (note : ∀ index : UInt64, (amend fun b => { b with managerIndex := some index }).Keeps f) :
    (managerIndex c).Keeps f := by
  refine .bind (.get _) fun d => ?_
  cases d.batch.managerIndex with
  | some index => exact .pure _ _
  | none => exact .bind ask fun _ => .bind (note _) fun _ => .pure _ _

theorem keeps_nextNonce {manager : Address}
    (ask : ∀ f', (call (c.gateway.signatureNonce manager) f').Keeps f) :
    (nextNonce c manager).Keeps f := by
  refine .bind (.get _) fun d => ?_
  cases d.batch.lastNonce with
  | some last => exact .pure _ _
  | none => exact ask _

theorem keeps_signingDomain (ask : (call c.gateway.chainDomain GatewayError.chain).Keeps f)
    (note : ∀ domain : SigningDomain, (amend fun b => { b with domain := some domain }).Keeps f) :
    (signingDomain c).Keeps f := by
  refine .bind (.get _) fun d => ?_
  cases d.batch.domain with
  | some domain => exact .pure _ _
  | none => exact .bind ask fun _ => .bind (note _) fun _ => .pure _ _

end Questions

theorem keeps_markFailed (id : Uuid) : (markFailed c id).Keeps accepted :=
  .bind (.attempt (keeps_call _ _)) fun _ => .pure _ _

/-- A call that succeeds is one of a collaborator that succeeds. -/
theorem perform_call_ok {ε α : Type} {x : Call E ε α} {f : ε → Fault} {d d' : Drafting E} {a : α}
    (h : (call x f).perform d = (.ok a, d')) :
    ∃ w, x.perform d.env = (.ok a, w) ∧ d' = { d with env := w } := by
  rw [perform_call] at h
  rcases hx : x.perform d.env with ⟨y | b, w⟩
  · simp [hx] at h
  · simp only [hx, Prod.mk.injEq, Except.ok.injEq] at h
    exact ⟨w, by rw [h.1], h.2.symm⟩

/-- Judging a trial leaves the accepted calls alone, and what it judges is not accepted already. -/
theorem leads_judge (budget : UInt64) (id : Uuid) (trial : List Bytes) (alone : Bool)
    (d : Drafting E) : (judge c budget id trial alone).Leads d
      fun res d' => d'.accepted = d.accepted ∧ res ≠ .ok (some .accepted) := by
  have hestimate : (Call.inside Drafting.env (fun e d => { d with env := e })
      ((c.gateway.estimateGas c.gateway.pointManager (encodeMulticall trial)).attempt) :
        Call (Drafting E) Fault _).Keeps accepted := fun _ => rfl
  unfold judge
  refine .bind_of_keeps hestimate rfl (fun _ _ h => ⟨h, by simp⟩) fun estimate d₁ _ h₁ => ?_
  have hdrop : (markFailed c id >>= fun _ => Pure.pure (some Verdict.dropped)).Leads d₁
      fun res d' => d'.accepted = d.accepted ∧ res ≠ .ok (some .accepted) := by
    refine .bind_of_keeps (keeps_markFailed id) h₁ (fun _ _ h => ⟨h, by simp⟩) fun _ d₂ _ h₂ => ?_
    exact .pure ⟨h₂, by simp⟩
  match estimate with
  | .ok gas =>
    by_cases hg : gas ≤ budget
    · simp only [hg, if_true]
      exact .pure ⟨h₁, by simp⟩
    · cases alone with
      | true =>
        simp only [hg, if_false, if_true]
        exact hdrop
      | false =>
        simp only [hg, if_false, Bool.false_eq_true]
        exact .pure ⟨h₁, by simp⟩
  | .error (.reverted _) => exact hdrop
  | .error (.unavailable e) => exact ⟨h₁, by simp⟩

end Drafting

/-! ## The call of a message -/

/-- The call is built from the fields of the message. -/
inductive Message.Builds {E : Type} (m : Message) (c : Collaborators E) (settings : BatchConfig) :
    Direction → Bytes → Prop
  | deposit (amount : Word) (index : UInt64) (manager : Address) (nonce : Word)
    (domain : SigningDomain) (signature : Bytes) (w w' : E)
    (asks : m.Asks (.deposit ⟨m.account, amount⟩))
    (address : c.gateway.addressFor .manager index = .ok manager)
    (signed : (c.gateway.signDeposit index domain
      ((DepositRequest.mk m.account amount).authorization settings manager nonce)).perform w =
        (.ok signature, w')) :
    Builds m c settings .pointToToken
      (DepositCall.mk m.account amount (BitVec.ofNat 256 settings.depositValidUntil.toNat) manager
        signature).encode
  | withdraw (amount : Word) (validUntil : UInt64) (signature : Bytes)
    (permit : Option PermitRequest)
    (asks : m.Asks
      (.withdraw ⟨m.account, amount, BitVec.ofNat 256 validUntil.toNat, signature, permit⟩)) :
    Builds m c settings .tokenToPoint
      (WithdrawCall.mk m.account amount (BitVec.ofNat 256 validUntil.toNat) signature).encode

namespace Drafting

variable {E : Type} {c : Collaborators E} {settings : BatchConfig} {m : Message}

/-- What handling a message does to the calls and records of the batch. -/
inductive Outcome (c : Collaborators E) (settings : BatchConfig) (m : Message) (d : Drafting E) :
    Except Fault Verdict → Drafting E → Prop
  | joined {d'} (direction : Direction) (call : Bytes)
    (built : m.Builds c settings direction call)
    (calls : d'.batch.calls = d.batch.calls ++ [call])
    (records : d'.batch.accepted = d.batch.accepted ++ [(m.id, direction)]) :
    Outcome c settings m d (.ok .accepted) d'
  | left {res d'} (h : res ≠ .ok .accepted) (same : d'.accepted = d.accepted) :
    Outcome c settings m d res d'

theorem outcome_deposit {r : DepositRequest} (hr : m.request = .ok (.deposit r)) (d : Drafting E) :
    (deposit c settings m.id r).Leads d (Outcome c settings m d) := by
  obtain ⟨amount, rfl, hasks⟩ : ∃ amount, r = ⟨m.account, amount⟩ ∧ m.Asks (.deposit r) := by
    cases Message.asks hr with
    | deposit amount parsed direction => exact ⟨amount, rfl, .deposit amount parsed direction⟩
  have herror : ∀ (x : Fault) (d' : Drafting E), d'.accepted = d.accepted →
      Outcome c settings m d (.error x) d' := fun x d' => .left (by simp)
  unfold deposit
  refine .bind_of_keeps (keeps_managerIndex (keeps_call _ _) fun _ _ => rfl) rfl herror
    fun index d₁ _ h₁ => ?_
  refine .bind_of_keeps (keeps_call _ _) h₁ herror fun manager d₂ hmanager h₂ => ?_
  refine .bind_of_keeps (keeps_nextNonce fun _ => keeps_call _ _) h₂ herror fun nonce d₃ _ h₃ => ?_
  refine .bind_of_keeps (keeps_signingDomain (keeps_call _ _) fun _ _ => rfl) h₃ herror
    fun domain d₄ _ h₄ => ?_
  refine .bind_of_keeps (keeps_call _ _) h₄ herror fun signature d₅ hsignature h₅ => ?_
  refine .bind_of_keeps (.get _) h₅ herror fun _ d₆ _ h₆ => ?_
  refine .bind (leads_judge _ _ _ _ d₆) (fun x d' h => herror x d' (h.1.trans h₆))
    fun verdict d₇ h₇ => ?_
  cases verdict with
  | some verdict => exact .pure (.left (fun h => h₇.2 (by simpa using h)) (h₇.1.trans h₆))
  | none =>
    obtain ⟨w, haddress, -⟩ := perform_call_ok hmanager
    obtain ⟨w', hsigned, -⟩ := perform_call_ok hsignature
    obtain ⟨hcalls, hrecords⟩ := Prod.mk.inj (h₇.1.trans h₆)
    have hbuilt : m.Builds c settings .pointToToken _ :=
      .deposit amount index manager nonce domain signature _ w' hasks (Prod.mk.inj haddress).1
        hsigned
    refine .joined .pointToToken _ hbuilt ?_ ?_
    · exact congrArg (· ++ [_]) hcalls
    · exact congrArg (· ++ [_]) hrecords

theorem outcome_withdraw {r : WithdrawRequest} (hr : m.request = .ok (.withdraw r))
    (permit : Option Bytes) (d : Drafting E) :
    (withdraw c settings m.id r permit).Leads d (Outcome c settings m d) := by
  have hbuilt : m.Builds c settings .tokenToPoint (WithdrawCall.ofRequest r).encode := by
    cases Message.asks hr with
    | withdraw amount signature validUntil permit parsed direction signed expires permitted =>
      exact .withdraw amount validUntil signature permit
        (.withdraw amount signature validUntil permit parsed direction signed expires permitted)
  have herror : ∀ (x : Fault) (d' : Drafting E), d'.accepted = d.accepted →
      Outcome c settings m d (.error x) d' := fun x d' => .left (by simp)
  unfold withdraw
  refine .bind_of_keeps (.get _) rfl herror fun _ d₁ _ h₁ => ?_
  refine .bind (leads_judge _ _ _ _ d₁) (fun x d' h => herror x d' (h.1.trans h₁))
    fun verdict d₂ h₂ => ?_
  -- a verdict other than that the trial fits leaves at most a permit behind
  have hleft : ∀ v, some v = verdict → ∀ permits,
      (amend (fun b => { b with permits := permits }) >>= fun _ => Pure.pure v :
        Call (Drafting E) Fault Verdict).Leads d₂ (Outcome c settings m d) := by
    intro v hv permits
    refine .bind_of_keeps (keeps_amend fun _ => ⟨rfl, rfl⟩) (h₂.1.trans h₁) herror fun _ _ _ h => ?_
    exact .pure (.left (fun he => h₂.2 (by simpa [← hv] using he)) h)
  match verdict with
  | some (.deferred gas budget) => exact .pure (.left (by simp) (h₂.1.trans h₁))
  | some .dropped => exact hleft .dropped rfl _
  | some .accepted => exact absurd rfl h₂.2
  | none =>
    obtain ⟨hcalls, hrecords⟩ := Prod.mk.inj (h₂.1.trans h₁)
    refine .joined .tokenToPoint _ hbuilt ?_ ?_
    · exact congrArg (· ++ [_]) hcalls
    · exact congrArg (· ++ [_]) hrecords

theorem outcome_reject (d : Drafting E) :
    (reject c m.id).Leads d (Outcome c settings m d) := by
  unfold reject
  refine .bind_of_keeps (keeps_markFailed m.id) rfl (fun _ _ => .left (by simp)) fun _ d' _ h => ?_
  exact .pure (.left (by simp) h)

theorem outcome_carryOut (c : Collaborators E) (settings : BatchConfig) (m : Message)
    (d : Drafting E) : (carryOut c settings m).Leads d (Outcome c settings m d) := by
  unfold carryOut
  cases h : Task.ofMessage m c.gateway.pointManager with
  | error e => exact outcome_reject d
  | ok task =>
    cases task with
    | deposit r => exact outcome_deposit (Task.ofMessage_deposit_iff.mp h) d
    | withdraw r permit => exact outcome_withdraw (Task.ofMessage_withdraw_iff.mp h).1 permit d

/-- **Whatever the collaborators do, a message that is accepted adds its own call and record to the
batch, and any other one adds neither.** -/
theorem outcome_handle (c : Collaborators E) (settings : BatchConfig) (m : Message)
    (d : Drafting E) :
    Outcome c settings m d (d.handle c settings m).1 (d.handle c settings m).2 := by
  have hc := outcome_carryOut c settings m d
  unfold Call.Leads at hc
  unfold handle
  rcases h : (carryOut c settings m).perform d with ⟨fault | verdict, d'⟩
  · rw [h] at hc
    cases hc with
    | left hne same => exact .left hne ((keeps_markFailed m.id d').trans same)
  · rw [h] at hc
    exact hc

/-- Estimating the batch changes nothing in it. -/
theorem batch_checkBudget (c : Collaborators E) (budget : UInt64) (d : Drafting E) :
    (d.checkBudget c budget).2.batch = d.batch := by
  simp only [checkBudget]
  split
  · rfl
  · rfl

end Drafting

/-! ## What a drain does to the queue and the batch -/

/-- The payload is no message. -/
def isUndecodable (p : Bytes) : Bool := !(Message.decode p).isOk

namespace Ending

/-- The number of messages that go back to the queue. -/
def putBack : Ending → Nat
  | settled => 0
  | deferred .. | failed .. => 1

/-- What an ending says about the first payload that is left, and about the reason to stop. -/
inductive Explains (left : Option Bytes) : Ending → StopReason → Prop
  | settled (stop : StopReason) : Explains left .settled stop
  | deferred (p : Bytes) (m : Message) (gas budget : UInt64) (head : left = some p)
    (decoded : Message.decode p = .ok m) :
    Explains left (.deferred m gas budget) (.gasCeiling gas budget)
  | failed (p : Bytes) (m : Message) (fault : Fault) (head : left = some p)
    (decoded : Message.decode p = .ok m) :
    Explains left (.failed m fault) (.infrastructure fault.text)

end Ending

/-- An accepted message, with the direction and the call that the batch has for it. -/
structure Acceptance where
  message : Message
  direction : Direction
  call : Bytes

/-- A drain that starts with `n` payloads taken takes `k` more, accepts some of their messages, and
ends. -/
structure Conserves {E : Type} (c : Collaborators E) (settings : BatchConfig) (n : Nat)
    (q : MessageQueue) (d : Drafting E) (k : Nat) (accepted : List Acceptance) (ending : Ending)
    (r : Drained E) : Prop where
  length : k ≤ q.payloads.length
  limit : ∀ limit, settings.maxMessagesPerRun = some limit → n + k ≤ max n limit.toNat
  payloads : r.site.queue.payloads = q.payloads.drop k
  counted : r.site.queue.acked + r.site.queue.deadLettered = q.acked + q.deadLettered + k
  deadLettered : r.site.queue.deadLettered =
    q.deadLettered + (q.payloads.take k).countP isUndecodable
  requeued : r.site.queue.requeued = q.requeued + ending.putBack
  explains : ending.Explains q.payloads[k]? r.stop
  messages : (accepted.map Acceptance.message).Sublist (messagesOf (q.payloads.take k))
  records : r.batch.accepted = d.batch.accepted ++ accepted.map fun a => (a.message.id, a.direction)
  calls : r.batch.calls = d.batch.calls ++ accepted.map Acceptance.call
  built : ∀ a ∈ accepted, a.message.Builds c settings a.direction a.call

namespace Conserves

variable {E : Type} {c : Collaborators E} {settings : BatchConfig} {n : Nat} {q : MessageQueue}
  {d d' : Drafting E} {k : Nat} {accepted : List Acceptance} {ending : Ending} {r : Drained E}

/-- A drain that takes nothing. -/
theorem nothing (same : d'.accepted = d.accepted) {stop : StopReason}
    (explains : ending.Explains q.payloads[0]? stop) :
    Conserves c settings n q d 0 [] ending
      (d'.close { q with requeued := q.requeued + ending.putBack } stop) where
  length := Nat.zero_le _
  limit _ _ := Nat.le_max_left n _
  payloads := rfl
  counted := rfl
  deadLettered := rfl
  requeued := rfl
  explains := explains
  messages := .refl _
  records := (congrArg Prod.snd same).trans (List.append_nil _).symm
  calls := (congrArg Prod.fst same).trans (List.append_nil _).symm
  built _ h := absurd h List.not_mem_nil

/-- A drain that takes one payload. -/
theorem one (q' : MessageQueue) {p : Bytes} (room : settings.limitReached n = false)
    (queue : q.payloads = p :: q'.payloads)
    (counted : q'.acked + q'.deadLettered = q.acked + q.deadLettered + 1)
    (deadLettered : q'.deadLettered = q.deadLettered + [p].countP isUndecodable)
    (requeued : q'.requeued = q.requeued)
    (messages : (accepted.map Acceptance.message).Sublist (messagesOf [p]))
    (records : d'.batch.accepted =
      d.batch.accepted ++ accepted.map fun a => (a.message.id, a.direction))
    (calls : d'.batch.calls = d.batch.calls ++ accepted.map Acceptance.call)
    (built : ∀ a ∈ accepted, a.message.Builds c settings a.direction a.call) (stop : StopReason) :
    Conserves c settings n q d 1 accepted .settled (d'.close q' stop) where
  length := by simp [queue]
  limit limit hl := by
    simp only [BatchConfig.limitReached, hl, Option.any_some, decide_eq_false_iff_not] at room
    omega
  payloads := by simp [queue, Drafting.close]
  counted := counted
  deadLettered := by simpa [queue, Drafting.close] using deadLettered
  requeued := requeued
  explains := .settled stop
  messages := by simpa [queue] using messages
  records := records
  calls := calls
  built := built

/-- A drain that takes one payload and accepts nothing. -/
theorem skip (q' : MessageQueue) {p : Bytes} (room : settings.limitReached n = false)
    (queue : q.payloads = p :: q'.payloads)
    (counted : q'.acked + q'.deadLettered = q.acked + q.deadLettered + 1)
    (deadLettered : q'.deadLettered = q.deadLettered + [p].countP isUndecodable)
    (requeued : q'.requeued = q.requeued) (same : d'.accepted = d.accepted) (stop : StopReason) :
    Conserves c settings n q d 1 [] .settled (d'.close q' stop) := by
  obtain ⟨hcalls, hrecords⟩ := Prod.mk.inj same
  refine one q' room queue counted deadLettered requeued ?_ ?_ ?_ ?_ stop
  · exact List.nil_sublist _
  · rw [hrecords]
    exact (List.append_nil _).symm
  · rw [hcalls]
    exact (List.append_nil _).symm
  · intro a ha
    exact absurd ha List.not_mem_nil

/-- A drain goes on where another one has left off. -/
theorem trans {q' : MessageQueue} {stop : StopReason} {k' : Nat} {accepted' : List Acceptance}
    (h : Conserves c settings n q d k accepted .settled (d'.close q' stop))
    (h' : Conserves c settings (n + k) q' d' k' accepted' ending r) :
    Conserves c settings n q d (k + k') (accepted ++ accepted') ending r := by
  have hq' : q'.payloads = q.payloads.drop k := h.payloads
  have htake : q.payloads.take (k + k') = q.payloads.take k ++ q'.payloads.take k' := by
    rw [hq', List.take_add]
  refine ⟨?length, ?limit, ?payloads, ?counted, ?deadLettered, ?requeued, ?explains, ?messages,
    ?records, ?calls, ?built⟩
  case length =>
    have := h'.length
    rw [hq', List.length_drop] at this
    have := h.length
    omega
  case limit =>
    intro limit hl
    have := h.limit limit hl
    have := h'.limit limit hl
    omega
  case payloads => rw [h'.payloads, hq', List.drop_drop]
  case counted =>
    have hc : q'.acked + q'.deadLettered = q.acked + q.deadLettered + k := h.counted
    rw [h'.counted, hc, Nat.add_assoc]
  case deadLettered =>
    have hd : q'.deadLettered = _ := h.deadLettered
    rw [h'.deadLettered, hd, htake, List.countP_append, Nat.add_assoc]
  case requeued =>
    have hr : q'.requeued = q.requeued := h.requeued
    rw [h'.requeued, hr]
  case explains =>
    have he := h'.explains
    rwa [hq', List.getElem?_drop] at he
  case messages =>
    rw [htake, messagesOf_append, List.map_append]
    exact h.messages.append h'.messages
  case records =>
    have hb : d'.batch.accepted = _ := h.records
    rw [h'.records, hb, List.map_append, List.append_assoc]
  case calls =>
    have hb : d'.batch.calls = _ := h.calls
    rw [h'.calls, hb, List.map_append, List.append_assoc]
  case built =>
    intro a ha
    rcases List.mem_append.mp ha with ha | ha
    · exact h.built a ha
    · exact h'.built a ha

end Conserves

section Course

variable {E : Type} {c : Collaborators E} {settings : BatchConfig}

/-- A drain that takes one message for good. -/
theorem Conserves.handled {n : Nat} {q : MessageQueue} {d d' d'' : Drafting E} {p : Bytes}
    {rest : List Bytes} {m : Message} {v : Verdict} (room : settings.limitReached n = false)
    (queue : q.payloads = p :: rest) (decoded : Message.decode p = .ok m)
    (handled : d.handle c settings m = (.ok v, d')) (same : d''.batch = d'.batch)
    (stop : StopReason) : ∃ accepted, Conserves c settings n q d 1 accepted .settled
      (d''.close { q with payloads := rest, acked := q.acked + 1 } stop) := by
  have hp : isUndecodable p = false := by simp [isUndecodable, decoded, Except.isOk, Except.toBool]
  have hm : messagesOf [p] = [m] := messagesOf_cons_ok decoded []
  have hcounted : (q.acked + 1) + q.deadLettered = q.acked + q.deadLettered + 1 := by omega
  have ho := Drafting.outcome_handle c settings m d
  rw [handled] at ho
  cases ho with
  | joined direction call built calls records =>
    refine ⟨[⟨m, direction, call⟩], .one { q with payloads := rest, acked := q.acked + 1 } room
      queue hcounted ?_ rfl ?_ ?_ ?_ ?_ stop⟩
    · simp [hp]
    · rw [hm]
      exact .refl _
    · rw [same, records]
      rfl
    · rw [same, calls]
      rfl
    · intro a ha
      rw [List.mem_singleton.mp ha]
      exact built
  | left hne hsame =>
    have hs : d''.accepted = d.accepted := by
      rw [← hsame, Drafting.accepted, same, Drafting.accepted]
    refine ⟨[], .skip { q with payloads := rest, acked := q.acked + 1 } room queue hcounted ?_ rfl
      hs stop⟩
    simp [hp]

/-- **Every course of a drain loses nothing.** -/
theorem Course.conserves {n : Nat} {q : MessageQueue} {d : Drafting E} {ending : Ending}
    {r : Drained E} (h : Course c settings n q d ending r) :
    ∃ k accepted, Conserves c settings n q d k accepted ending r := by
  induction h with
  | halted stop why => exact ⟨0, [], .nothing rfl (.settled stop)⟩
  | @undecodable n q d ending r p rest e room queue decoded next ih =>
    obtain ⟨k, accepted, ih⟩ := ih
    have hp : isUndecodable p = true := by simp [isUndecodable, decoded, Except.isOk, Except.toBool]
    have hone : Conserves c settings n q d 1 [] .settled
        (d.close { q with payloads := rest, deadLettered := q.deadLettered + 1 } r.stop) := by
      refine .skip { q with payloads := rest, deadLettered := q.deadLettered + 1 } room queue ?_ ?_
        rfl rfl _
      · show q.acked + (q.deadLettered + 1) = _
        omega
      · simp [hp]
    exact ⟨_, _, hone.trans ih⟩
  | dropped p rest m d' room queue decoded handled next ih =>
    obtain ⟨k, accepted, ih⟩ := ih
    obtain ⟨first, hone⟩ := Conserves.handled room queue decoded handled rfl .queueEmpty
    exact ⟨_, _, hone.trans ih⟩
  | accepted p rest m d' d'' room queue decoded handled fits next ih =>
    obtain ⟨k, accepted, ih⟩ := ih
    have hb := Drafting.batch_checkBudget c settings.gasBudget d'
    rw [fits] at hb
    obtain ⟨first, hone⟩ := Conserves.handled room queue decoded handled hb .queueEmpty
    exact ⟨_, _, hone.trans ih⟩
  | full p rest m d' d'' stop room queue decoded handled full =>
    have hb := Drafting.batch_checkBudget c settings.gasBudget d'
    rw [full] at hb
    obtain ⟨first, hone⟩ := Conserves.handled room queue decoded handled hb stop
    exact ⟨1, first, hone⟩
  | @deferred n q d p rest m d' gas budget queue decoded handled =>
    have ho := Drafting.outcome_handle c settings m d
    rw [handled] at ho
    cases ho with
    | left hne same =>
      exact ⟨0, [], .nothing same (.deferred p m gas budget (by simp [queue]) decoded)⟩
  | @failed n q d p rest m d' fault queue decoded handled =>
    have ho := Drafting.outcome_handle c settings m d
    rw [handled] at ho
    cases ho with
    | left hne same =>
      exact ⟨0, [], .nothing same (.failed p m fault (by simp [queue]) decoded)⟩

end Course

/-- The course of a drain from the start. A drain without settings ends at once. -/
inductive Site.Course {E : Type} (c : Collaborators E) (s : Site E) :
    BatchConfig → Ending → Drained E → Prop
  | unreadable (e : ConfigError) (settings : BatchConfig) (h : c.config s.env = .error e) :
    Course c s settings .settled ⟨{}, .infrastructure (Coded.text e), s⟩
  | readable (config : Config) (ending : Ending) (r : Drained E) (h : c.config s.env = .ok config)
    (course : PointExchange.Course c config.batch 0 s.queue ⟨{}, s.env⟩ ending r) :
    Course c s config.batch ending r

/-- **A drain loses, duplicates and reorders nothing, whatever the collaborators do.** -/
theorem drain_conserves {E : Type} (c : Collaborators E) (s : Site E) :
    ∃ settings ending k accepted, s.Course c settings ending (s.drain c) ∧
      Conserves c settings 0 s.queue ⟨{}, s.env⟩ k accepted ending (s.drain c) := by
  unfold Site.drain
  cases h : c.config s.env with
  | error e =>
    have hn : Conserves c {} 0 s.queue ⟨{}, s.env⟩ 0 [] .settled
        ((⟨{}, s.env⟩ : Drafting E).close s.queue (.infrastructure (Coded.text e))) :=
      .nothing rfl (.settled _)
    exact ⟨{}, .settled, 0, [], .unreadable e _ h, hn⟩
  | ok config =>
    obtain ⟨ending, hcourse⟩ := course c config.batch 0 s.queue ⟨{}, s.env⟩
    obtain ⟨k, accepted, hk⟩ := hcourse.conserves
    exact ⟨_, ending, k, accepted, .readable config ending _ h hcourse, hk⟩

end PointExchange
