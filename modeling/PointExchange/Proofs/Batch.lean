import PointExchange.Proofs.Drain
import PointExchange.Proofs.Ledger

/-!
# What a drain makes of its messages

The fates of the messages tell the whole drain: which payloads are gone, which calls the batch has,
which records were failed. Each theorem here is an induction on `Drains`.

## Interruptions

When a collaborator fails a message, its record is failed although the message goes back to the
queue (`Drained.Interrupts`). No other message that stays queued has its record changed.
-/

namespace PointExchange

/-- The messages among payloads. -/
def messagesOf (payloads : List Bytes) : List Message :=
  payloads.filterMap fun p => (Message.decode p).toOption

theorem messagesOf_append (a b : List Bytes) : messagesOf (a ++ b) = messagesOf a ++ messagesOf b :=
  List.filterMap_append

theorem messagesOf_cons_ok {p : Bytes} {m : Message} (h : Message.decode p = .ok m)
    (rest : List Bytes) : messagesOf (p :: rest) = m :: messagesOf rest := by
  rw [messagesOf, List.filterMap_cons, h]
  rfl

theorem messagesOf_cons_error {p : Bytes} {e : DecodeError} (h : Message.decode p = .error e)
    (rest : List Bytes) : messagesOf (p :: rest) = messagesOf rest := by
  rw [messagesOf, List.filterMap_cons, h]
  rfl

namespace MessageQueue

/-- How many deliveries were settled so far. -/
def settled (q : MessageQueue) : Nat := q.acked + q.requeued + q.deadLettered

/-- The messages that were delivered between two states of a queue of which nobody else takes, the
one that went back included. -/
def delivered (q q' : MessageQueue) : List Message :=
  messagesOf (q.payloads.take (q'.settled - q.settled))

theorem delivered_self (q : MessageQueue) : q.delivered q = [] := by
  simp [delivered, messagesOf]

theorem delivered_cons {q q' : MessageQueue} {p : Bytes} (q₁ : MessageQueue)
    (queue : q.payloads = p :: q₁.payloads) (one : q₁.settled = q.settled + 1)
    (le : q₁.settled ≤ q'.settled) :
    q.delivered q' = messagesOf [p] ++ q₁.delivered q' := by
  have hn : q'.settled - q.settled = (q'.settled - q₁.settled) + 1 := by omega
  rw [delivered, queue, hn, List.take_succ_cons, delivered, ← messagesOf_append]
  rfl

end MessageQueue

/-- The messages that were accepted, with their offers. -/
def entriesOf (log : List Fate) : List (Message × Offer) := log.filterMap Fate.entry?

/-- The records that were failed. -/
def failedOf (log : List Fate) : List Uuid := log.filterMap Fate.failed?

theorem mem_entriesOf {log : List Fate} {m : Message} {o : Offer} :
    (m, o) ∈ entriesOf log ↔ .accepted m o ∈ log := by
  rw [entriesOf, List.mem_filterMap]
  refine ⟨?_, fun h => ⟨_, h, rfl⟩⟩
  rintro ⟨f, hf, hx⟩
  cases f with
  | accepted m' o' =>
    obtain ⟨rfl, rfl⟩ := Prod.mk.inj (Option.some.inj hx)
    exact hf
  | dropped => simp [Fate.entry?] at hx

theorem mem_failedOf {log : List Fate} {id : Uuid} :
    id ∈ failedOf log ↔ ∃ m, .dropped m ∈ log ∧ m.id = id := by
  rw [failedOf, List.mem_filterMap]
  refine ⟨?_, fun ⟨m, hm, hid⟩ => ⟨_, hm, congrArg some hid⟩⟩
  rintro ⟨f, hf, hx⟩
  cases f with
  | accepted => simp [Fate.failed?] at hx
  | dropped m => exact ⟨m, hf, Option.some.inj hx⟩

/-- The bench with the pending ones among some records failed. -/
def Bench.failingAll (w : Bench SimulatedChain) (ids : List Uuid) : Bench SimulatedChain :=
  { w with ledger := w.ledger.failAll ids }

/-- A collaborator failed the message of a record; it stopped the drain and is at the head of the
queue again. -/
structure Drained.Interrupts {E : Type} (r : Drained E) (before : MessageQueue) (id : Uuid) :
    Prop where
  stop : ∃ reason, r.stop = .infrastructure reason
  requeued : r.site.queue.requeued = before.requeued + 1
  head : ∃ p rest m, r.site.queue.payloads = p :: rest ∧ Message.decode p = .ok m ∧ m.id = id

namespace Drained

variable {E : Type} {r : Drained E} {before before' : MessageQueue}

theorem interrupts_congr (h : before'.requeued = before.requeued) (id : Uuid) :
    r.Interrupts before' id ↔ r.Interrupts before id := by
  refine ⟨fun hi => ⟨hi.stop, ?_, hi.head⟩, fun hi => ⟨hi.stop, ?_, hi.head⟩⟩
  · rw [← h]
    exact hi.requeued
  · rw [h]
    exact hi.requeued

/-- A drain that puts nothing back interrupts nothing. -/
theorem mem_nil_iff_interrupts (h : r.site.queue.requeued = before.requeued) (id : Uuid) :
    id ∈ [] ↔ r.Interrupts before id := by
  refine ⟨fun hi => absurd hi List.not_mem_nil, fun hi => ?_⟩
  have := hi.requeued
  omega

end Drained

/-! ## How a batch grows -/

/-- The octets are a permit call. -/
def IsPermit (b : Bytes) : Prop := ∃ c : PermitCall, b = c.encode

namespace Drafting.Task

variable {m : Message} {s : Address}

theorem ofMessage_deposit_iff {r : DepositRequest} :
    ofMessage m s = .ok (.deposit r) ↔ m.request = .ok (.deposit r) := by
  unfold ofMessage
  cases m.request with
  | error e => simp [bind, Except.bind]
  | ok x =>
    cases x with
    | deposit r' => simp [bind, Except.bind, pure, Except.pure]
    | withdraw r' => cases h : permitCall? r' s <;> simp [h, bind, Except.bind, pure, Except.pure]

theorem ofMessage_withdraw_iff {r : WithdrawRequest} {permit : Option Bytes} :
    ofMessage m s = .ok (.withdraw r permit) ↔
      m.request = .ok (.withdraw r) ∧ permitCall? r s = .ok permit := by
  unfold ofMessage
  cases m.request with
  | error e => simp [bind, Except.bind]
  | ok x =>
    cases x with
    | deposit r' => simp [bind, Except.bind, pure, Except.pure]
    | withdraw r' =>
      cases h : permitCall? r' s with
      | error e =>
        simp only [bind, Except.bind, h, reduceCtorEq, Except.ok.injEq,
          ExchangeRequest.withdraw.injEq, false_iff, not_and]
        rintro rfl
        rw [h]
        simp
      | ok v =>
        simp only [bind, Except.bind, pure, Except.pure, h, Except.ok.injEq, withdraw.injEq,
          ExchangeRequest.withdraw.injEq]
        refine and_congr_right ?_
        rintro rfl
        rw [h, Except.ok.injEq]

/-- The permit of a withdrawal is a permit call. -/
theorem isPermit {r : WithdrawRequest} {permit : Option Bytes}
    (h : ofMessage m s = .ok (.withdraw r permit)) {b : Bytes} (hb : b ∈ permit) : IsPermit b := by
  have hp := (ofMessage_withdraw_iff.mp h).2
  unfold permitCall? at hp
  cases hr : r.permit with
  | none =>
    rw [hr] at hp
    rw [← Except.ok.inj hp] at hb
    exact absurd hb (by simp)
  | some p =>
    simp only [hr, permitCalldata] at hp
    cases hc : PermitCall.ofRequest p s with
    | error e => simp [hc, Except.map] at hp
    | ok c =>
      simp only [hc, Except.map, Except.ok.injEq] at hp
      rw [← hp, Option.mem_some_iff] at hb
      exact ⟨c, hb.symm⟩

end Drafting.Task

namespace Batch

/-- The second batch is the first one with the calls of some accepted messages, and with permits. -/
structure Grows (b b' : Batch) (entries : List (Message × Offer)) : Prop where
  calls : b'.calls = b.calls ++ entries.map fun e => e.2.call
  accepted : b'.accepted = b.accepted ++ entries.map fun e => (e.1.id, e.2.direction)
  permits : ∀ p ∈ b'.permits, p ∈ b.permits ∨ IsPermit p
  managerIndex : ∀ i, b.managerIndex = some i → b'.managerIndex = some i

variable {b b' b'' : Batch}

theorem Grows.of_prepared (h : b.Prepared b') : b.Grows b' [] where
  calls := by rw [h.calls, List.map_nil, List.append_nil]
  accepted := by rw [h.accepted, List.map_nil, List.append_nil]
  permits p hp := by
    rw [h.permits] at hp
    exact .inl hp
  managerIndex := h.managerIndex

theorem Grows.trans {es es' : List (Message × Offer)} (h : b.Grows b' es) (h' : b'.Grows b'' es') :
    b.Grows b'' (es ++ es') where
  calls := by rw [h'.calls, h.calls, List.map_append, List.append_assoc]
  accepted := by rw [h'.accepted, h.accepted, List.map_append, List.append_assoc]
  permits p hp := by
    rcases h'.permits p hp with hp | hp
    · exact h.permits p hp
    · exact .inr hp
  managerIndex i hi := h'.managerIndex i (h.managerIndex i hi)

end Batch

section Offers

variable {start : SimulatedChain} {settings : BatchConfig} {m : Message} {b b' : Batch}
  {w : Bench SimulatedChain} {o : Offer}

theorem Offered.permits (h : Offered start settings m b w o b') : ∀ p ∈ o.permits, IsPermit p := by
  intro p hp
  cases h with
  | deposit => exact absurd hp List.not_mem_nil
  | withdraw r permit task => exact Drafting.Task.isPermit task (Option.mem_toList.mp hp)

/-- The message asks for a withdrawal with a permit. -/
def Message.HasPermit (m : Message) : Prop :=
  ∃ r, m.request = .ok (.withdraw r) ∧ r.permit ≠ none

/-- The message asks for a deposit. -/
def Message.isDeposit (m : Message) : Bool :=
  match m.request with
  | .ok (.deposit _) => true
  | _ => false

theorem Message.isDeposit_eq_true {m : Message} :
    m.isDeposit = true ↔ ∃ r, m.request = .ok (.deposit r) := by
  unfold isDeposit
  rcases m.request with e | r | r <;> simp

/-- The permits that carrying out a message adds to a batch. -/
def Drafting.Task.permits : Drafting.Task → List Bytes
  | .deposit _ => []
  | .withdraw _ permit => permit.toList

/-- The permits that a message adds to a batch. -/
def Message.permits (m : Message) : List Bytes :=
  (Drafting.Task.ofMessage m SimulatedChain.pointManager).toOption.elim [] Drafting.Task.permits

theorem Message.permits_of_task {t : Drafting.Task}
    (task : Drafting.Task.ofMessage m SimulatedChain.pointManager = .ok t) :
    m.permits = t.permits := by
  rw [permits, task]
  rfl

theorem Message.permits_eq_nil (hm : ¬m.HasPermit) : m.permits = [] := by
  cases task : Drafting.Task.ofMessage m SimulatedChain.pointManager with
  | error e =>
    rw [permits, task]
    rfl
  | ok t =>
    rw [permits_of_task task]
    cases t with
    | deposit r => rfl
    | withdraw r permit =>
      obtain ⟨hr, hp⟩ := Drafting.Task.ofMessage_withdraw_iff.mp task
      have hn : r.permit = none := by
        by_cases hn : r.permit = none
        · exact hn
        · exact absurd ⟨r, hr, hn⟩ hm
      rw [Drafting.permitCall?, hn] at hp
      rw [← Except.ok.inj hp]
      rfl

theorem Offered.permits_eq (h : Offered start settings m b w o b') : o.permits = m.permits := by
  cases h with
  | deposit r i manager signer task =>
    rw [Message.permits_of_task task]
    rfl
  | withdraw r permit task =>
    rw [Message.permits_of_task task]
    rfl

theorem Offered.grows_keepPermits (h : Offered start settings m b w o b') :
    b.Grows (b'.keepPermits o) [] := by
  have hg := Batch.Grows.of_prepared h.prepared
  refine ⟨hg.calls, hg.accepted, ?_, hg.managerIndex⟩
  intro p hp
  rcases List.mem_append.mp hp with hp | hp
  · exact hg.permits p hp
  · exact .inr (h.permits p hp)

theorem Offered.grows_accept (h : Offered start settings m b w o b') :
    b.Grows (b'.accept m.id o) [(m, o)] := by
  refine ⟨?_, ?_, h.grows_keepPermits.permits, h.prepared.managerIndex⟩
  · show b'.calls ++ [o.call] = _
    rw [h.prepared.calls]
    rfl
  · show b'.accepted ++ [(m.id, o.direction)] = _
    rw [h.prepared.accepted]
    rfl

/-- The record of a message that is dropped is failed. -/
theorem Handled.failing {d d' : Drafting (Bench SimulatedChain)}
    (h : Handled start settings m d (.ok .dropped) d') :
    d'.env.still = d.env.still.failing m.id := by
  cases h with
  | rejected _ _ _ env => exact env
  | dropped _ _ _ _ _ env => exact env

theorem Offered.permits_accept (h : Offered start settings m b w o b') :
    (b'.accept m.id o).permits = b.permits ++ m.permits := by
  rw [Batch.accept, h.prepared.permits, h.permits_eq]

/-- A message that is dropped leaves its permit behind. -/
theorem Handled.permits {d d' : Drafting (Bench SimulatedChain)}
    (h : Handled start settings m d (.ok .dropped) d') :
    d'.batch.permits = d.batch.permits ++ m.permits := by
  cases h with
  | rejected e w task =>
    rw [Message.permits, task]
    exact (List.append_nil _).symm
  | dropped o b w offered => rw [Batch.keepPermits, offered.prepared.permits, offered.permits_eq]

/-- A message that is dropped adds a permit at most. -/
theorem Handled.grows {d d' : Drafting (Bench SimulatedChain)}
    (h : Handled start settings m d (.ok .dropped) d') : d.batch.Grows d'.batch [] := by
  cases h with
  | rejected => exact .of_prepared (.refl _)
  | dropped o b w offered => exact offered.grows_keepPermits

end Offers

namespace Drains

variable {start : SimulatedChain} {settings : BatchConfig} {n : Nat} {q : MessageQueue}
  {d : Drafting (Bench SimulatedChain)} {log : List Fate} {r : Drained (Bench SimulatedChain)}

/-! ## Payloads -/

/-- **A drain takes payloads from the front of the queue, and every message among them has a
fate.** -/
theorem taken (h : Drains start settings n q d log r) :
    ∃ front, q.payloads = front ++ r.site.queue.payloads ∧
      messagesOf front = log.map Fate.message := by
  induction h with
  | halted | deferred | broken => exact ⟨[], rfl, rfl⟩
  | undecodable p rest e queue decoded next ih =>
    obtain ⟨front, hf, hm⟩ := ih
    refine ⟨p :: front, ?_, ?_⟩
    · rw [queue, List.cons_append]
      exact congrArg _ hf
    · rw [messagesOf_cons_error decoded, hm]
  | dropped p rest m d' queue decoded handled next ih =>
    obtain ⟨front, hf, hm⟩ := ih
    refine ⟨p :: front, ?_, ?_⟩
    · rw [queue, List.cons_append]
      exact congrArg _ hf
    · rw [messagesOf_cons_ok decoded, hm]
      rfl
  | accepted p rest m o b w queue decoded offered judged env next ih =>
    obtain ⟨front, hf, hm⟩ := ih
    refine ⟨p :: front, ?_, ?_⟩
    · rw [queue, List.cons_append]
      exact congrArg _ hf
    · rw [messagesOf_cons_ok decoded, hm]
      rfl
  | full p rest m o b w stop queue decoded =>
    refine ⟨[p], queue, ?_⟩
    rw [messagesOf_cons_ok decoded]
    rfl

/-- A drain does not make the queue unavailable. -/
theorem unavailable (h : Drains start settings n q d log r) :
    r.site.queue.unavailable = q.unavailable := by
  induction h with
  | halted | deferred | broken | full => rfl
  | undecodable p rest e queue decoded next ih => exact ih
  | dropped p rest m d' queue decoded handled next ih => exact ih
  | accepted p rest m o b w queue decoded offered judged env next ih => exact ih

/-! ## Calls -/

/-- **The batch has the calls of the accepted messages, in their order.** -/
theorem grows (h : Drains start settings n q d log r) :
    d.batch.Grows r.batch (entriesOf log) := by
  induction h with
  | halted => exact .of_prepared (.refl _)
  | undecodable p rest e queue decoded next ih => exact ih
  | dropped p rest m d' queue decoded handled next ih => exact handled.grows.trans ih
  | accepted p rest m o b w queue decoded offered judged env next ih =>
    exact offered.grows_accept.trans ih
  | full p rest m o b w stop queue decoded offered => exact offered.grows_accept
  | deferred p rest m o b w gas budget queue decoded offered =>
    exact .of_prepared offered.prepared
  | broken p rest m fault b w queue decoded prepared => exact .of_prepared prepared

/-- **The batch has the permits of all messages that were taken,** the dropped ones included. -/
theorem permits (h : Drains start settings n q d log r) :
    r.batch.permits = d.batch.permits ++ (log.map Fate.message).flatMap Message.permits := by
  induction h with
  | halted => exact (List.append_nil _).symm
  | undecodable p rest e queue decoded next ih => exact ih
  | dropped p rest m d' queue decoded handled next ih =>
    rw [ih, handled.permits, List.append_assoc]
    rfl
  | accepted p rest m o b w queue decoded offered judged env next ih =>
    rw [ih, offered.permits_accept, List.append_assoc]
    rfl
  | full p rest m o b w stop queue decoded offered =>
    show (b.accept m.id o).permits = _
    rw [offered.permits_accept, List.map_cons, List.map_nil, List.flatMap_singleton]
    rfl
  | deferred p rest m o b w gas budget queue decoded offered =>
    exact offered.prepared.permits.trans (List.append_nil _).symm
  | broken p rest m fault b w queue decoded prepared =>
    exact prepared.permits.trans (List.append_nil _).symm

/-- Only withdrawals with permits add permits to a batch. -/
theorem permits_eq_nil (h : Drains start settings n q d log r) (hd : d.batch.permits = [])
    (hq : ∀ m ∈ messagesOf q.payloads, ¬m.HasPermit) : r.batch.permits = [] := by
  obtain ⟨front, hf, hm⟩ := h.taken
  rw [h.permits, hd, List.nil_append, List.flatMap_eq_nil_iff, ← hm]
  intro m hmem
  apply Message.permits_eq_nil
  apply hq m
  rw [hf, messagesOf_append]
  exact List.mem_append_left _ hmem

/-! ## What is left behind -/

/-- **A drain fails the records of dropped messages, and that of the message that a collaborator
failed. Nothing else in the environment changes.** -/
theorem env (h : Drains start settings n q d log r) :
    ∃ back, (∀ id, id ∈ back ↔ r.Interrupts q id) ∧
      r.site.env.still = d.env.still.failingAll (failedOf log ++ back) := by
  induction h with
  | halted => exact ⟨[], Drained.mem_nil_iff_interrupts rfl, rfl⟩
  | undecodable p rest e queue decoded next ih =>
    obtain ⟨back, hb, he⟩ := ih
    exact ⟨back, fun id => (hb id).trans (Drained.interrupts_congr (by rfl) id), he⟩
  | dropped p rest m d' queue decoded handled next ih =>
    obtain ⟨back, hb, he⟩ := ih
    refine ⟨back, fun id => (hb id).trans (Drained.interrupts_congr (by rfl) id), ?_⟩
    rw [he, handled.failing]
    rfl
  | accepted p rest m o b w queue decoded offered judged env next ih =>
    obtain ⟨back, hb, he⟩ := ih
    refine ⟨back, fun id => (hb id).trans (Drained.interrupts_congr (by rfl) id), ?_⟩
    rw [he, env]
    rfl
  | full p rest m o b w stop queue decoded offered judged env =>
    exact ⟨[], Drained.mem_nil_iff_interrupts rfl, env⟩
  | deferred p rest m o b w gas budget queue decoded offered judged env =>
    -- a deferred message is put back too, but no collaborator has stopped the drain
    refine ⟨[], fun id => ⟨fun hi => absurd hi List.not_mem_nil, fun hi => ?_⟩, env⟩
    obtain ⟨reason, hr⟩ := hi.stop
    exact absurd hr (by simp [Drafting.close])
  | broken p rest m fault b w queue decoded prepared why env =>
    refine ⟨[m.id], fun id => ⟨fun hi => ?_, fun hi => ?_⟩, env⟩
    · rw [List.mem_singleton.mp hi]
      exact ⟨⟨_, rfl⟩, rfl, p, rest, m, queue, decoded, rfl⟩
    · obtain ⟨p', rest', m', hq, hd, hi⟩ := hi.head
      have hp : p' = p := (List.cons.inj (hq.symm.trans queue)).1
      rw [hp, decoded] at hd
      rw [List.mem_singleton, ← hi, Except.ok.inj hd]

/-- A drain includes no transactions and signs none. -/
theorem quiet (h : Drains start settings n q d log r) :
    r.site.env.chain.quiet = d.env.chain.quiet := by
  obtain ⟨back, -, henv⟩ := h.env
  exact (congrArg Bench.chain henv :)

end Drains
end PointExchange
