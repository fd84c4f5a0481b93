import Mathlib.Data.List.Forall2
import PointExchange.Proofs.Calldata
import PointExchange.Proofs.GivingUp
import PointExchange.Proofs.Messages
import PointExchange.Proofs.Viability

/-!
# How deposits are packed

While the collaborators of a drain are well, deposits go into the batch in the order of the queue,
as long as one more of them fits the gas budget. A deposit of an account whose calls fail takes no
room and is failed, wherever it stands before the end. The drain ends when the queue is empty, or at
the first deposit that would fit a batch of its own and finds this one full
(`deposits_packed_in_order`).

Handling a deposit comes to one of three things (`Drafting.Packs`), and the rounds of a drain follow
from that by induction on its course (`Course.fills`).
-/

namespace PointExchange

/-! ## One deposit -/

/-- Whether a deposit is viable depends on its account and on whether any batch fits the budget. -/
theorem Message.isViable_deposit {m : Message} {r : DepositRequest}
    (request : m.request = .ok (.deposit r)) (settings : BatchConfig) (reverting : List Address) :
    m.isViable settings reverting =
      (decide (m.account ∉ reverting) && decide (batchGas 1 ≤ settings.gasBudget.toNat)) := by
  rw [isViable, request]
  rfl

/-- A deposit that fits behind other calls is viable. -/
theorem Message.isViable_of_fits {m : Message} {r : DepositRequest}
    (request : m.request = .ok (.deposit r)) {settings : BatchConfig} {reverting : List Address}
    (goes : m.account ∉ reverting) {calls : Nat} (pos : 0 < calls)
    (fits : batchGas calls ≤ settings.gasBudget.toNat) : m.isViable settings reverting = true := by
  have h1 : batchGas 1 ≤ settings.gasBudget.toNat := Nat.le_trans (batchGas_mono pos) fits
  rw [m.isViable_deposit request, decide_eq_true goes, decide_eq_true h1]
  rfl

/-- What a deposit offers to a batch: a call for its account behind the calls of the batch. -/
structure Offer.OfDeposit (b : Batch) (m : Message) (o : Offer) : Prop where
  trial : o.trial = b.calls ++ [o.call]
  permits : o.permits = []
  direction : o.direction = .pointToToken
  length : o.call.length < 2 ^ 66
  account : SimulatedChain.accountOf? o.call = some m.account

/-- A chain rejects the call of a deposit if it rejects those of the account. -/
theorem Offer.OfDeposit.rejects_iff {b : Batch} {m : Message} {o : Offer} (h : o.OfDeposit b m)
    (chain : SimulatedChain) : chain.rejects o.call = true ↔ m.account ∈ chain.reverting := by
  rw [SimulatedChain.rejects, h.account, Option.any_some, decide_eq_true_iff]

theorem Offered.ofDeposit {start : SimulatedChain} {settings : BatchConfig} {m : Message}
    {b b' : Batch} {w : Bench SimulatedChain} {o : Offer} {r : DepositRequest}
    (h : Offered start settings m b w o b') (request : m.request = .ok (.deposit r)) :
    o.OfDeposit b m := by
  cases h with
  | withdraw r' permit task =>
    have hr := (Drafting.Task.ofMessage_withdraw_iff.mp task).1
    rw [request] at hr
    simp at hr
  | deposit r' i manager k task =>
    have hr := Drafting.Task.ofMessage_deposit_iff.mp task
    refine ⟨rfl, rfl, rfl, ?_, ?_⟩
    · have hl := DepositCall.length_encode_le
        ((r'.authorization settings manager (b.nonceOf w.chain manager)).call k b.domainOf)
      rw [DepositAuthorization.length_signature_call] at hl
      exact Nat.lt_of_le_of_lt hl (by decide)
    · rw [← Message.account_of_deposit hr]
      exact DepositAuthorization.accountOf?_call _ _ _

namespace Drafting

variable {start : SimulatedChain} {settings : BatchConfig} {m : Message} {r : DepositRequest}
  {d d' : Drafting (Bench SimulatedChain)} {left : Nat}

/-- A drafting of deposits whose collaborators are well, with room for the messages left. -/
structure Ready (start : SimulatedChain) (left : Nat) (d : Drafting (Bench SimulatedChain)) :
    Prop where
  well : d.env.Well start
  fit : d.batch.Fitting start d.env.chain left
  permits : d.batch.permits = []

/-- A drafting stays ready when estimates and signatures are noted, and when a record is failed. -/
theorem Ready.of_quiet {w : Bench SimulatedChain} (h : d.Ready start left)
    (quiet : w.chain.quiet = d.env.chain.quiet) (indices : w.indices = d.env.indices) :
    Ready start left ⟨d.batch, w⟩ :=
  ⟨h.well.of_eq quiet indices, h.fit.of_quiet quiet, h.permits⟩

theorem Ready.carriable (h : d.Ready start left) : Carriable d.batch.calls where
  count := by
    have hs := h.fit.size
    omega
  lengths c hc := h.fit.lengths c (List.mem_append_left _ hc)

/-- The gas of what a ready drafting has in hand. -/
theorem Ready.estimate (h : d.Ready start left) :
    ∃ gas, (d.env.chain.estimate SimulatedChain.pointManager
      (encodeMulticall (d.batch.permits ++ d.batch.calls))).1 = .ok gas ∧
        gas.toNat = batchGas d.batch.calls.length := by
  have hs := h.fit.size
  have hr : ∀ c ∈ d.batch.calls, d.env.chain.rejects c = false :=
    fun c hc => h.fit.accepts c (List.mem_append_left _ hc)
  rw [h.permits, List.nil_append,
    d.env.chain.estimate_encodeMulticall h.well.estimates (by decide) h.carriable,
    d.env.chain.gasOfAll_of_not_rejects hr]
  refine ⟨_, rfl, UInt64.toNat_ofNat_of_lt ?_⟩
  rw [batchGas]
  show _ < 2 ^ 64
  omega

/-- A deposit is judged by its account and by how many calls stand before it. -/
theorem Ready.judged (h : d.Ready start (left + 1)) {o : Offer} (ho : o.OfDeposit d.batch m)
    {v : Option Verdict}
    (hj : d.env.chain.judgement settings.gasBudget o.trial d.batch.isEmpty = .ok v) :
    (v = some .dropped ∧ (m.account ∈ d.env.chain.reverting ∨
      d.batch.calls = [] ∧ settings.gasBudget.toNat < batchGas (d.batch.calls.length + 1))) ∨
    (v = none ∧ m.account ∉ d.env.chain.reverting ∧
      batchGas (d.batch.calls.length + 1) ≤ settings.gasBudget.toNat) ∨
    (∃ gas : UInt64, v = some (.deferred gas settings.gasBudget) ∧
      gas.toNat = batchGas (d.batch.calls.length + 1) ∧ m.account ∉ d.env.chain.reverting ∧
      settings.gasBudget.toNat < batchGas (d.batch.calls.length + 1) ∧ d.batch.calls ≠ []) := by
  have hs := h.fit.size
  have hn : d.batch.calls.length + 1 ≤ 2 ^ 33 := by omega
  have hc : Carriable (d.batch.calls ++ [o.call]) := by
    refine ⟨?_, fun c hc => ?_⟩
    · rw [List.length_append, List.length_singleton]
      omega
    · rcases List.mem_append.mp hc with hc | hc
      · exact h.carriable.lengths c hc
      · rw [List.mem_singleton.mp hc]
        exact ho.length
  have hr : ∀ c ∈ d.batch.calls, d.env.chain.rejects c = false :=
    fun c hc => h.fit.accepts c (List.mem_append_left _ hc)
  have he : d.batch.isEmpty = true ↔ d.batch.calls = [] := by
    rw [Batch.isEmpty, h.permits, List.isEmpty_nil, Bool.and_true, List.isEmpty_iff]
  have hm := ho.rejects_iff d.env.chain
  rw [ho.trial, d.env.chain.judgement_eq h.well.estimates hc hr hn] at hj
  by_cases ha : m.account ∈ d.env.chain.reverting
  · rw [if_pos (hm.mpr ha)] at hj
    exact .inl ⟨(Except.ok.inj hj).symm, .inl ha⟩
  rw [if_neg fun h => ha (hm.mp h)] at hj
  by_cases hg : batchGas (d.batch.calls.length + 1) ≤ settings.gasBudget.toNat
  · rw [if_pos hg] at hj
    exact .inr (.inl ⟨(Except.ok.inj hj).symm, ha, hg⟩)
  rw [if_neg hg] at hj
  by_cases hb : d.batch.calls = []
  · rw [if_pos (he.mpr hb)] at hj
    exact .inl ⟨(Except.ok.inj hj).symm, .inr ⟨hb, Nat.lt_of_not_le hg⟩⟩
  · rw [if_neg fun h => hb (he.mp h)] at hj
    exact .inr (.inr ⟨_, (Except.ok.inj hj).symm, SimulatedChain.toNat_batchGas hn, ha,
      Nat.lt_of_not_le hg, hb⟩)

/-- The drafting with the call of a deposit is ready for what is left. -/
theorem Ready.accept {o : Offer} {b : Batch} (h : d.Ready start (left + 1))
    (offered : Offered start settings m d.batch d.env o b) (ho : o.OfDeposit d.batch m)
    (goes : m.account ∉ d.env.chain.reverting) : Ready start left ⟨b.accept m.id o, d.env⟩ := by
  have hk := offered.fitting_keepPermits h.well h.fit
  have hr : d.env.chain.rejects o.call = false := by
    rw [← Bool.not_eq_true, ho.rejects_iff]
    exact goes
  refine ⟨h.well, ⟨hk.index, hk.domain, fun c hc => ?_, fun c hc => ?_, ?_⟩, ?_⟩
  · rcases Batch.mem_accept.mp hc with hc | rfl
    · exact hk.accepts c hc
    · exact hr
  · rcases Batch.mem_accept.mp hc with hc | rfl
    · exact hk.lengths c hc
    · exact ho.length
  · have hs := h.fit.size
    show (b.calls ++ [o.call]).length + (b.permits ++ o.permits).length + 2 * left ≤ 2 ^ 33
    rw [offered.prepared.calls, offered.prepared.permits, ho.permits, List.append_nil,
      List.length_append, List.length_singleton]
    omega
  · show b.permits ++ o.permits = []
    rw [offered.prepared.permits, ho.permits, h.permits]
    rfl

/-- What handling a deposit comes to, with the drafting after it. -/
inductive Packs (start : SimulatedChain) (settings : BatchConfig) (m : Message)
    (d : Drafting (Bench SimulatedChain)) (left : Nat) :
    Except Fault Verdict → Drafting (Bench SimulatedChain) → Prop
  /-- it could not be carried out by any batch -/
  | dropped (d' : Drafting (Bench SimulatedChain)) (ready : d'.Ready start left)
    (viable : m.isViable settings d.env.chain.reverting = false)
    (calls : d'.batch.calls = d.batch.calls) (accepted : d'.batch.accepted = d.batch.accepted)
    (env : d'.env.still = d.env.still.failing m.id) :
    Packs start settings m d left (.ok .dropped) d'
  /-- it fits behind the calls of the batch -/
  | joined (d' : Drafting (Bench SimulatedChain)) (call : Bytes) (ready : d'.Ready start left)
    (goes : m.account ∉ d.env.chain.reverting)
    (fits : batchGas (d.batch.calls.length + 1) ≤ settings.gasBudget.toNat)
    (carries : Carries start.managers settings m call)
    (calls : d'.batch.calls = d.batch.calls ++ [call])
    (accepted : d'.batch.accepted = d.batch.accepted ++ [(m.id, .pointToToken)])
    (env : d'.env.still = d.env.still) : Packs start settings m d left (.ok .accepted) d'
  /-- it does not fit behind them -/
  | deferred (d' : Drafting (Bench SimulatedChain)) (gas : UInt64)
    (goes : m.account ∉ d.env.chain.reverting)
    (above : settings.gasBudget.toNat < batchGas (d.batch.calls.length + 1))
    (behind : d.batch.calls ≠ []) (estimate : gas.toNat = batchGas (d.batch.calls.length + 1))
    (calls : d'.batch.calls = d.batch.calls) (accepted : d'.batch.accepted = d.batch.accepted)
    (env : d'.env.still = d.env.still) :
    Packs start settings m d left (.ok (.deferred gas settings.gasBudget)) d'

/-- **A deposit is dropped, joins the batch, or is deferred.** -/
theorem packs {res : Except Fault Verdict} (h : Handled start settings m d res d')
    (ready : d.Ready start (left + 1)) (request : m.request = .ok (.deposit r)) :
    Packs start settings m d left res d' := by
  cases h with
  | rejected e w task =>
    rw [Drafting.Task.ofMessage_deposit_iff.mpr request] at task
    simp at task
  | broken fault b w prepared why => exact absurd why (ready.well.not_broken ready.fit)
  | accepted o b w offered judged env =>
    have ho := offered.ofDeposit request
    have hq : w.chain.quiet = d.env.chain.quiet := (congrArg Bench.chain env :)
    rcases ready.judged ho judged with ⟨hv, -⟩ | ⟨-, goes, fits⟩ | ⟨gas, hv, -⟩
    · simp at hv
    · refine .joined _ o.call ((ready.accept offered ho goes).of_quiet hq
        (congrArg Bench.indices env :)) goes fits
        (offered.carries ready.well.managers ready.fit.domain) ?_ ?_ env
      · exact congrArg (· ++ [o.call]) offered.prepared.calls
      · show b.accepted ++ [(m.id, o.direction)] = _
        rw [offered.prepared.accepted, ho.direction]
    · simp at hv
  | dropped o b w offered judged env =>
    have ho := offered.ofDeposit request
    have hq : w.chain.quiet = d.env.chain.quiet := (congrArg Bench.chain env :)
    have hready : Ready start left ⟨b.keepPermits o, w⟩ := by
      refine ⟨ready.well.of_eq hq (congrArg Bench.indices env :),
        (offered.fitting_keepPermits ready.well ready.fit).of_quiet hq, ?_⟩
      show b.permits ++ o.permits = []
      rw [offered.prepared.permits, ho.permits, ready.permits]
      rfl
    rcases ready.judged ho judged with ⟨-, hopeless⟩ | ⟨hv, -⟩ | ⟨gas, hv, -⟩
    · refine .dropped _ hready ?_ offered.prepared.calls offered.prepared.accepted env
      rw [m.isViable_deposit request]
      rcases hopeless with hm | ⟨hb, above⟩
      · simp [hm]
      · have h1 : ¬batchGas 1 ≤ settings.gasBudget.toNat := by
          rw [hb] at above
          exact Nat.not_le_of_lt above
        simp [h1]
    · simp at hv
    · simp at hv
  | deferred o b w gas budget offered judged env =>
    have ho := offered.ofDeposit request
    rcases ready.judged ho judged with ⟨hv, -⟩ | ⟨hv, -⟩ | ⟨gas', hv, hgas, goes, above, behind⟩
    · simp at hv
    · simp at hv
    · simp only [Option.some.injEq, Verdict.deferred.injEq] at hv
      obtain ⟨rfl, rfl⟩ := hv
      exact .deferred _ gas goes above behind hgas offered.prepared.calls
        offered.prepared.accepted env

/-- A batch that is within the budget passes the check after an acceptance. -/
theorem Ready.checkBudget (h : d.Ready start left)
    (fits : batchGas d.batch.calls.length ≤ settings.gasBudget.toNat) :
    d.checkBudget start.tools settings.gasBudget = (none, d.estimated) := by
  obtain ⟨gas, he, hgas⟩ := h.estimate
  have hle : gas ≤ settings.gasBudget := by
    rw [UInt64.le_iff_toNat_le, hgas]
    exact fits
  rw [checkBudget_eq, he]
  exact Prod.ext (if_pos hle) rfl

end Drafting

/-! ## The room in a batch -/

/-- The budget has room for `room` more calls behind the calls of a batch, and for no more. -/
structure BatchConfig.HasRoom (settings : BatchConfig) (calls room : Nat) : Prop where
  within : calls + room = 0 ∨ batchGas (calls + room) ≤ settings.gasBudget.toNat
  above : settings.gasBudget.toNat < batchGas (calls + room + 1)

namespace BatchConfig.HasRoom

variable {settings : BatchConfig} {calls room : Nat}

/-- An empty batch has room for what the budget leaves over the base. -/
theorem empty (settings : BatchConfig) :
    settings.HasRoom 0 ((settings.gasBudget.toNat - 21000) / 100000) := by
  constructor
  · rw [batchGas]
    omega
  · rw [batchGas]
    omega

/-- A call that fits takes its part of the room. -/
theorem step (h : settings.HasRoom calls room)
    (fits : batchGas (calls + 1) ≤ settings.gasBudget.toNat) :
    ∃ k, room = k + 1 ∧ settings.HasRoom (calls + 1) k := by
  obtain ⟨within, above⟩ := h
  rw [batchGas] at fits
  cases room with
  | zero =>
    rw [batchGas] at above
    omega
  | succ k =>
    refine ⟨k, rfl, ?_, ?_⟩
    · rw [Nat.add_right_comm]
      exact within
    · rw [Nat.add_right_comm calls 1 k]
      exact above

/-- There is no room when a call does not fit. -/
theorem eq_zero (h : settings.HasRoom calls room) (pos : 0 < calls)
    (exceeds : settings.gasBudget.toNat < batchGas (calls + 1)) :
    room = 0 ∧ batchGas calls ≤ settings.gasBudget.toNat := by
  have fits := h.within.resolve_left (by omega)
  rw [batchGas] at fits exceeds
  rw [batchGas]
  omega

end BatchConfig.HasRoom

/-! ## A queue of deposits -/

/-- Every payload asks for a deposit. -/
def AreDeposits (payloads : List Bytes) : Prop :=
  ∀ p ∈ payloads, ∃ m r, Message.decode p = .ok m ∧ m.request = .ok (.deposit r)

theorem AreDeposits.head {p : Bytes} {rest : List Bytes} (h : AreDeposits (p :: rest)) :
    ∃ m r, Message.decode p = .ok m ∧ m.request = .ok (.deposit r) :=
  h p List.mem_cons_self

theorem AreDeposits.request {p : Bytes} {rest : List Bytes} (h : AreDeposits (p :: rest))
    {m : Message} (decoded : Message.decode p = .ok m) : ∃ r, m.request = .ok (.deposit r) := by
  obtain ⟨m', r, hd, request⟩ := h.head
  obtain rfl : m = m' := Except.ok.inj (decoded.symm.trans hd)
  exact ⟨r, request⟩

theorem AreDeposits.of_append {front rest : List Bytes} (h : AreDeposits (front ++ rest)) :
    AreDeposits front ∧ AreDeposits rest :=
  ⟨fun p hp => h p (List.mem_append_left _ hp), fun p hp => h p (List.mem_append_right _ hp)⟩

theorem AreDeposits.tail {p : Bytes} {rest : List Bytes} (h : AreDeposits (p :: rest)) :
    AreDeposits rest :=
  fun x hx => h x (List.mem_cons_of_mem _ hx)

/-- The viable messages among payloads. -/
def viableIn (settings : BatchConfig) (reverting : List Address) (payloads : List Bytes) :
    List Message :=
  (messagesOf payloads).filter fun m => m.isViable settings reverting

/-- The messages among payloads that are not viable. -/
def unviableIn (settings : BatchConfig) (reverting : List Address) (payloads : List Bytes) :
    List Message :=
  (messagesOf payloads).filter fun m => !m.isViable settings reverting

section Queue

variable {start : SimulatedChain} {settings : BatchConfig} {m : Message} {p : Bytes}
  {rest front : List Bytes} {room : Nat} {d d' : Drafting (Bench SimulatedChain)}
  {r : Drained (Bench SimulatedChain)}

theorem viableIn_cons_of_viable (front : List Bytes) (decoded : Message.decode p = .ok m)
    {reverting : List Address} (viable : m.isViable settings reverting = true) :
    viableIn settings reverting (p :: front) = m :: viableIn settings reverting front ∧
      unviableIn settings reverting (p :: front) = unviableIn settings reverting front := by
  rw [viableIn, unviableIn, messagesOf_cons_ok decoded]
  exact ⟨List.filter_cons_of_pos viable, List.filter_cons_of_neg (by simp [viable])⟩

theorem viableIn_cons_of_not_viable (front : List Bytes) (decoded : Message.decode p = .ok m)
    {reverting : List Address} (viable : m.isViable settings reverting = false) :
    viableIn settings reverting (p :: front) = viableIn settings reverting front ∧
      unviableIn settings reverting (p :: front) = m :: unviableIn settings reverting front := by
  rw [viableIn, unviableIn, messagesOf_cons_ok decoded]
  exact ⟨List.filter_cons_of_neg (by simp [viable]), List.filter_cons_of_pos (by simp [viable])⟩

/-- What a drain makes of deposits, from a drafting with room for `room` more of them. It takes the
payloads of `front`, accepts the viable messages among them and fails the others. It has emptied the
queue by then, or it has used up the room and a viable deposit is next. -/
structure Drained.Fills (start : SimulatedChain) (settings : BatchConfig) (payloads : List Bytes)
    (d : Drafting (Bench SimulatedChain)) (room : Nat) (front : List Bytes)
    (r : Drained (Bench SimulatedChain)) : Prop where
  queue : payloads = front ++ r.site.queue.payloads
  accepted : r.batch.accepted = d.batch.accepted ++
    (viableIn settings d.env.chain.reverting front).map fun m => (m.id, .pointToToken)
  calls : ∃ calls, r.batch.calls = d.batch.calls ++ calls ∧
    List.Forall₂ (Carries start.managers settings)
      (viableIn settings d.env.chain.reverting front) calls
  ledger : r.site.env.ledger = d.env.ledger.failAll
    ((unviableIn settings d.env.chain.reverting front).map Message.id)
  ends : (r.site.queue.payloads = [] ∧ r.stop = .queueEmpty ∧
      (viableIn settings d.env.chain.reverting front).length ≤ room) ∨
    ∃ p rest m gas, r.site.queue.payloads = p :: rest ∧ Message.decode p = .ok m ∧
      m.isViable settings d.env.chain.reverting = true ∧
      (viableIn settings d.env.chain.reverting front).length = room ∧
      r.stop = .gasCeiling gas settings.gasBudget ∧
      gas.toNat = batchGas (d.batch.calls.length + room + 1)

namespace Drained.Fills

/-- An empty queue ends a drain at once. -/
theorem empty {q : MessageQueue} (queue : q.payloads = []) :
    Fills start settings q.payloads d room [] (d.close q .queueEmpty) where
  queue := rfl
  accepted := (List.append_nil _).symm
  calls := ⟨[], (List.append_nil _).symm, .nil⟩
  ledger := rfl
  ends := .inl ⟨queue, rfl, Nat.zero_le _⟩

/-- A deposit that is dropped is failed and takes no room. -/
theorem dropped (h : Fills start settings rest d' room front r)
    (decoded : Message.decode p = .ok m)
    (viable : m.isViable settings d.env.chain.reverting = false)
    (calls : d'.batch.calls = d.batch.calls) (accepted : d'.batch.accepted = d.batch.accepted)
    (env : d'.env.still = d.env.still.failing m.id) :
    Fills start settings (p :: rest) d room (p :: front) r := by
  have hr : d'.env.chain.reverting = d.env.chain.reverting :=
    (congrArg (fun w => w.chain.reverting) env :)
  have hl : d'.env.ledger = d.env.ledger.fail m.id := (congrArg Bench.ledger env :)
  rw [← hr] at viable
  obtain ⟨hv, hu⟩ := viableIn_cons_of_not_viable front decoded viable
  constructor
  · rw [h.queue]
    rfl
  · rw [← hr, hv, h.accepted, accepted]
  · rw [← hr, hv, ← calls]
    exact h.calls
  · rw [← hr, hu, h.ledger, hl]
    rfl
  · rw [← hr, hv, ← calls]
    exact h.ends

/-- A deposit that joins the batch takes its part of the room. -/
theorem joined {call : Bytes} (h : Fills start settings rest d' room front r)
    (decoded : Message.decode p = .ok m)
    (viable : m.isViable settings d.env.chain.reverting = true)
    (carries : Carries start.managers settings m call)
    (calls : d'.batch.calls = d.batch.calls ++ [call])
    (accepted : d'.batch.accepted = d.batch.accepted ++ [(m.id, .pointToToken)])
    (env : d'.env.still = d.env.still) :
    Fills start settings (p :: rest) d (room + 1) (p :: front) r := by
  have hr : d'.env.chain.reverting = d.env.chain.reverting :=
    (congrArg (fun w => w.chain.reverting) env :)
  have hl : d'.env.ledger = d.env.ledger := (congrArg Bench.ledger env :)
  rw [← hr] at viable
  obtain ⟨hv, hu⟩ := viableIn_cons_of_viable front decoded viable
  constructor
  · rw [h.queue]
    rfl
  · rw [← hr, hv, h.accepted, accepted, List.append_assoc]
    rfl
  · obtain ⟨later, hlater, hcarries⟩ := h.calls
    refine ⟨call :: later, ?_, ?_⟩
    · rw [hlater, calls, List.append_assoc]
      rfl
    · rw [← hr, hv]
      exact .cons carries hcarries
  · rw [← hr, hu, h.ledger, hl]
  · rw [← hr, hv, List.length_cons]
    rcases h.ends with ⟨hq, hs, hle⟩ | ⟨p', rest', m', gas, hq, hd, hm, hfull, hs, hgas⟩
    · exact .inl ⟨hq, hs, Nat.succ_le_succ hle⟩
    · refine .inr ⟨p', rest', m', gas, hq, hd, hm, congrArg Nat.succ hfull, hs, ?_⟩
      rw [hgas, calls, List.length_append, List.length_singleton, Nat.add_right_comm _ 1 room]
      rfl

/-- A deposit that is deferred stays at the head of the queue. -/
theorem deferred {q : MessageQueue} {gas : UInt64} (queue : q.payloads = p :: rest)
    (decoded : Message.decode p = .ok m)
    (viable : m.isViable settings d.env.chain.reverting = true)
    (estimate : gas.toNat = batchGas (d.batch.calls.length + 1))
    (calls : d'.batch.calls = d.batch.calls) (accepted : d'.batch.accepted = d.batch.accepted)
    (env : d'.env.still = d.env.still) :
    Fills start settings q.payloads d 0 []
      (d'.close { q with requeued := q.requeued + 1 } (.gasCeiling gas settings.gasBudget)) where
  queue := rfl
  accepted := accepted.trans (List.append_nil _).symm
  calls := ⟨[], calls.trans (List.append_nil _).symm, .nil⟩
  ledger := (congrArg Bench.ledger env :)
  ends := .inr ⟨p, rest, m, gas, queue, decoded, viable, rfl, rfl, estimate⟩

end Drained.Fills

/-- **A drain of deposits fills the room that there is.** The induction follows the course of the
drain; the room becomes smaller by one with each deposit that joins the batch. -/
theorem Course.fills {n : Nat} {q : MessageQueue} {ending : Ending}
    (h : Course start.tools settings n q d ending r) (unlimited : settings.maxMessagesPerRun = none)
    (available : q.unavailable = false) (count : q.payloads.length < 2 ^ 32)
    (deposits : AreDeposits q.payloads) (ready : d.Ready start q.payloads.length)
    (hasRoom : settings.HasRoom d.batch.calls.length room) :
    ∃ front, r.Fills start settings q.payloads d room front := by
  induction h generalizing room with
  | halted stop why =>
    cases why with
    | limit h => simp [BatchConfig.limitReached, unlimited] at h
    | unreachable reason h => exact absurd (h.symm.trans available) (by decide)
    | empty h =>
      have hz := congrArg UInt32.toNat h
      rw [UInt32.toNat_ofNat', Nat.mod_eq_of_lt count] at hz
      exact ⟨[], .empty (List.length_eq_zero_iff.mp hz)⟩
  | undecodable p rest e _ queue decoded =>
    rw [queue] at deposits
    obtain ⟨m, _, hd, -⟩ := deposits.head
    rw [decoded] at hd
    simp at hd
  | dropped p rest m d' _ queue decoded handled next ih =>
    rw [queue] at count deposits ready ⊢
    obtain ⟨_, request⟩ := deposits.request decoded
    cases Drafting.packs (Drafting.handled_of handled) ready request with
    | dropped _ ready' viable calls accepted env =>
      rw [← calls] at hasRoom
      obtain ⟨front, hf⟩ :=
        ih available (Nat.lt_of_succ_lt count) deposits.tail ready' hasRoom
      exact ⟨p :: front, hf.dropped decoded viable calls accepted env⟩
  | @accepted n q d ending r p rest m d' d'' _ queue decoded handled fits next ih =>
    rw [queue] at count deposits ready ⊢
    obtain ⟨_, request⟩ := deposits.request decoded
    cases Drafting.packs (Drafting.handled_of handled) ready request with
    | joined _ call ready' goes below carries calls accepted env =>
      have hlen : d'.batch.calls.length = d.batch.calls.length + 1 := by
        rw [calls, List.length_append, List.length_singleton]
      obtain rfl : d'.estimated = d'' := by
        rw [ready'.checkBudget (hlen ▸ below)] at fits
        exact (Prod.mk.inj fits).2
      have hstill : d'.estimated.env.still = d'.env.still := Bench.still_estimating _ _
      obtain ⟨k, rfl, hasRoom'⟩ := hasRoom.step below
      rw [← hlen] at hasRoom'
      obtain ⟨front, hf⟩ := ih available (Nat.lt_of_succ_lt count) deposits.tail
        (ready'.of_quiet (Bench.still_chain hstill) (congrArg Bench.indices hstill :)) hasRoom'
      exact ⟨p :: front, hf.joined decoded (m.isViable_of_fits request goes (Nat.succ_pos _) below)
        carries calls accepted (hstill.trans env)⟩
  | full p rest m d' d'' stop _ queue decoded handled full =>
    rw [queue] at deposits ready
    obtain ⟨_, request⟩ := deposits.request decoded
    cases Drafting.packs (Drafting.handled_of handled) ready request with
    | joined _ call ready' goes below carries calls =>
      rw [ready'.checkBudget (by rw [calls, List.length_append]; exact below)] at full
      simp at full
  | deferred p rest m d' gas budget queue decoded handled =>
    rw [queue] at deposits ready
    obtain ⟨_, request⟩ := deposits.request decoded
    cases Drafting.packs (Drafting.handled_of handled) ready request with
    | deferred _ _ goes exceeds behind estimate calls accepted env =>
      have hpos := List.length_pos_iff.mpr behind
      obtain ⟨rfl, fits⟩ := hasRoom.eq_zero hpos exceeds
      exact ⟨[], .deferred queue decoded (m.isViable_of_fits request goes hpos fits) estimate calls
        accepted env⟩
  | failed p rest m d' fault queue decoded handled =>
    rw [queue] at deposits ready
    obtain ⟨_, request⟩ := deposits.request decoded
    cases Drafting.packs (Drafting.handled_of handled) ready request

end Queue

/-! ## A drain of deposits -/

/-- The messages among payloads whose accounts are not on a list. -/
def goingIn (reverting : List Address) (payloads : List Bytes) : List Message :=
  (messagesOf payloads).filter fun m => m.account ∉ reverting

/-- The messages among payloads whose accounts are on a list. -/
def revertingIn (reverting : List Address) (payloads : List Bytes) : List Message :=
  (messagesOf payloads).filter fun m => m.account ∈ reverting

theorem goingIn_append (reverting : List Address) (front rest : List Bytes) :
    goingIn reverting (front ++ rest) = goingIn reverting front ++ goingIn reverting rest := by
  rw [goingIn, messagesOf_append, List.filter_append]
  rfl

theorem goingIn_cons {reverting : List Address} {p : Bytes} {m : Message} (rest : List Bytes)
    (decoded : Message.decode p = .ok m) (goes : m.account ∉ reverting) :
    goingIn reverting (p :: rest) = m :: goingIn reverting rest := by
  rw [goingIn, messagesOf_cons_ok decoded]
  exact List.filter_cons_of_pos (by simpa using goes)

/-- Every message of a queue of deposits is a deposit. -/
theorem AreDeposits.messages {payloads : List Bytes} (h : AreDeposits payloads) :
    ∀ m ∈ messagesOf payloads, ∃ r, m.request = .ok (.deposit r) := by
  intro m hm
  obtain ⟨p, hp, hd⟩ := List.mem_filterMap.mp hm
  obtain ⟨m', r, decoded, request⟩ := h p hp
  rw [decoded] at hd
  obtain rfl := Option.some.inj hd
  exact ⟨r, request⟩

section Budget

variable {settings : BatchConfig} {payloads : List Bytes} (deposits : AreDeposits payloads)
  (reverting : List Address)

include deposits

/-- No deposit is viable under a budget that none of them fits. -/
theorem AreDeposits.viableIn_of_lt (low : settings.gasBudget.toNat < 121000) :
    viableIn settings reverting payloads = [] ∧
      unviableIn settings reverting payloads = messagesOf payloads := by
  have hv : ∀ m ∈ messagesOf payloads, m.isViable settings reverting = false := by
    intro m hm
    obtain ⟨r, request⟩ := deposits.messages m hm
    have h1 : ¬batchGas 1 ≤ settings.gasBudget.toNat := Nat.not_le_of_lt low
    rw [m.isViable_deposit request, decide_eq_false h1, Bool.and_false]
  constructor
  · rw [viableIn, List.filter_eq_nil_iff]
    intro m hm
    simp [hv m hm]
  · rw [unviableIn, List.filter_eq_self]
    intro m hm
    simp [hv m hm]

/-- Under any other budget the deposits that are viable are those that would go through. -/
theorem AreDeposits.viableIn_of_le (high : 121000 ≤ settings.gasBudget.toNat) :
    viableIn settings reverting payloads = goingIn reverting payloads ∧
      unviableIn settings reverting payloads = revertingIn reverting payloads := by
  have hv : ∀ m ∈ messagesOf payloads,
      m.isViable settings reverting = decide (m.account ∉ reverting) := by
    intro m hm
    obtain ⟨r, request⟩ := deposits.messages m hm
    have h1 : batchGas 1 ≤ settings.gasBudget.toNat := high
    rw [m.isViable_deposit request, decide_eq_true h1, Bool.and_true]
  constructor
  · exact List.filter_congr hv
  · refine List.filter_congr fun m hm => ?_
    rw [hv m hm]
    by_cases ha : m.account ∈ reverting
    · simp [ha]
    · simp [ha]

end Budget

/-- A drain while all is well fills an empty batch. -/
theorem Site.drain_fills {start : SimulatedChain} {s : Site (Bench SimulatedChain)}
    (well : s.env.Well start) (available : s.queue.unavailable = false)
    (readable : s.env.settings.poisoned = false)
    (unlimited : s.env.settings.config.batch.maxMessagesPerRun = none)
    (count : s.queue.payloads.length < 2 ^ 32) (deposits : AreDeposits s.queue.payloads) :
    ∃ front, (s.drain start.tools).Fills start s.env.settings.config.batch s.queue.payloads
      ⟨{}, s.env⟩ ((s.env.settings.config.batch.gasBudget.toNat - 21000) / 100000) front := by
  have hc : start.tools.config s.env = .ok s.env.settings.config := by
    show s.env.settings.read = _
    rw [SharedConfig.read, readable, if_neg Bool.false_ne_true]
  rw [Site.drain, hc]
  obtain ⟨ending, h⟩ := course start.tools s.env.settings.config.batch 0 s.queue ⟨{}, s.env⟩
  exact h.fills unlimited available count deposits ⟨well, .empty count, rfl⟩ (.empty _)

section Outcome

variable {start : SimulatedChain} {settings : BatchConfig} {payloads front : List Bytes}
  {w : Bench SimulatedChain} {r : Drained (Bench SimulatedChain)} {room : Nat}
  (h : r.Fills start settings payloads ⟨{}, w⟩ room front) (deposits : AreDeposits payloads)

include h deposits

/-- Under a budget that no deposit fits the queue is emptied for nothing. -/
theorem Drained.Fills.of_lt (low : settings.gasBudget.toNat < 121000) :
    r.batch.accepted = [] ∧ r.batch.calls = [] ∧ r.site.queue.payloads = [] ∧
      r.stop = .queueEmpty ∧
      w.ledger.Fails r.site.env.ledger ((messagesOf payloads).map Message.id) := by
  obtain ⟨dfront, drest⟩ := (h.queue ▸ deposits).of_append
  obtain ⟨hv, hu⟩ := dfront.viableIn_of_lt w.chain.reverting low
  have hempty : r.site.queue.payloads = [] ∧ r.stop = .queueEmpty := by
    rcases h.ends with ⟨hq, hs, -⟩ | ⟨p, rest, m, gas, hq, hd, hm, -⟩
    · exact ⟨hq, hs⟩
    · -- a deposit that could be deferred would be viable
      obtain ⟨x, request⟩ := (hq ▸ drest).request hd
      have h1 : ¬batchGas 1 ≤ settings.gasBudget.toNat := Nat.not_le_of_lt low
      rw [m.isViable_deposit request, decide_eq_false h1, Bool.and_false] at hm
      exact absurd hm Bool.false_ne_true
  have hall : payloads = front := by
    rw [h.queue, hempty.1, List.append_nil]
  refine ⟨?_, ?_, hempty.1, hempty.2, ?_⟩
  · rw [h.accepted, hv]
    rfl
  · obtain ⟨calls, hc, hcarries⟩ := h.calls
    rw [hv, List.forall₂_nil_left_iff] at hcarries
    rw [hc, hcarries]
    rfl
  · rw [h.ledger, hu, hall]
    exact w.ledger.fails_failAll _

/-- Under any other budget the batch is filled with the deposits that go through. -/
theorem Drained.Fills.of_le (high : 121000 ≤ settings.gasBudget.toNat) :
    let going := goingIn w.chain.reverting payloads
    r.batch.accepted = (going.take room).map (fun m => (m.id, .pointToToken)) ∧
    List.Forall₂ (Carries start.managers settings) (going.take room) r.batch.calls ∧
    (going.length ≤ room →
      r.site.queue.payloads = [] ∧ r.stop = .queueEmpty ∧
      w.ledger.Fails r.site.env.ledger
        ((revertingIn w.chain.reverting payloads).map Message.id)) ∧
    (room < going.length → ∃ front p rest m gas,
      payloads = front ++ p :: rest ∧ goingIn w.chain.reverting front = going.take room ∧
      Message.decode p = .ok m ∧ going[room]? = some m ∧
      r.site.queue.payloads = p :: rest ∧ r.stop = .gasCeiling gas settings.gasBudget ∧
      gas.toNat = 21000 + 100000 * (room + 1) ∧
      w.ledger.Fails r.site.env.ledger
        ((revertingIn w.chain.reverting front).map Message.id)) := by
  intro going
  obtain ⟨dfront, -⟩ := (h.queue ▸ deposits).of_append
  obtain ⟨hv, hu⟩ := dfront.viableIn_of_le w.chain.reverting high
  have haccepted := h.accepted
  obtain ⟨calls, hcalls, hcarries⟩ := h.calls
  have hledger : w.ledger.Fails r.site.env.ledger
      ((revertingIn w.chain.reverting front).map Message.id) := by
    rw [h.ledger, hu]
    exact w.ledger.fails_failAll _
  rw [hv] at haccepted hcarries
  obtain rfl : r.batch.calls = calls := hcalls
  rcases h.ends with ⟨hq, hs, hle⟩ | ⟨p, rest, m, gas, hq, hd, hm, hfull, hs, hgas⟩
  · rw [hv] at hle
    obtain rfl : payloads = front := by
      rw [h.queue, hq, List.append_nil]
    rw [List.take_of_length_le hle]
    exact ⟨haccepted, hcarries, fun _ => ⟨hq, hs, hledger⟩,
      fun hlt => absurd hle (Nat.not_le_of_lt hlt)⟩
  · rw [hv] at hfull
    have hgo : m.account ∉ w.chain.reverting := Message.not_mem_of_viable hm
    have hgoing : going = goingIn w.chain.reverting front ++
        m :: goingIn w.chain.reverting rest := by
      rw [← goingIn_cons rest hd hgo, ← hq, ← goingIn_append, ← h.queue]
    have htake : going.take room = goingIn w.chain.reverting front := by
      rw [hgoing, List.take_left' hfull]
    have hlt : room < going.length := by
      rw [hgoing, List.length_append, hfull, List.length_cons]
      omega
    rw [htake]
    refine ⟨haccepted, hcarries, fun hle => absurd hle (Nat.not_le_of_lt hlt), fun _ => ?_⟩
    refine ⟨front, p, rest, m, gas, by rw [← hq]; exact h.queue, rfl, hd, ?_, hq, hs, ?_, hledger⟩
    · rw [hgoing, ← hfull, List.getElem?_append_right (Nat.le_refl _), Nat.sub_self]
      rfl
    · rw [hgas, batchGas]
      show 21000 + 100000 * (0 + room + 1) = _
      rw [Nat.zero_add]

end Outcome

/-- **Deposits are packed greedily, in the order of the queue, and as many as fit.** Of the messages
whose accounts' calls go through, as many are accepted as the budget holds calls. If that is all of
them the queue is emptied; otherwise it is left over from the first one on that found no room. A
record is failed if its message is taken and its account's calls fail. Under a budget that no
deposit fits, all are failed and the queue is emptied. -/
theorem deposits_packed_in_order (start : SimulatedChain) (s : Site (Bench SimulatedChain))
    (well : s.env.Well start) (available : s.queue.unavailable = false)
    (readable : s.env.settings.poisoned = false)
    (unlimited : s.env.settings.config.batch.maxMessagesPerRun = none)
    (count : s.queue.payloads.length < 2 ^ 32) (deposits : AreDeposits s.queue.payloads) :
    let settings := s.env.settings.config.batch
    let budget := settings.gasBudget.toNat
    let room := (budget - 21000) / 100000
    let reverting := s.env.chain.reverting
    let going := goingIn reverting s.queue.payloads
    let r := s.drain start.tools
    (budget < 121000 →
      r.batch.accepted = [] ∧ r.batch.calls = [] ∧ r.site.queue.payloads = [] ∧
      r.stop = .queueEmpty ∧ s.env.ledger.Fails r.site.env.ledger
        ((messagesOf s.queue.payloads).map Message.id)) ∧
    (121000 ≤ budget →
      r.batch.accepted = (going.take room).map (fun m => (m.id, .pointToToken)) ∧
      List.Forall₂ (Carries start.managers settings) (going.take room) r.batch.calls ∧
      (going.length ≤ room →
        r.site.queue.payloads = [] ∧ r.stop = .queueEmpty ∧
        s.env.ledger.Fails r.site.env.ledger
          ((revertingIn reverting s.queue.payloads).map Message.id)) ∧
      (room < going.length → ∃ front p rest m gas,
        s.queue.payloads = front ++ p :: rest ∧ goingIn reverting front = going.take room ∧
        Message.decode p = .ok m ∧ going[room]? = some m ∧
        r.site.queue.payloads = p :: rest ∧ r.stop = .gasCeiling gas settings.gasBudget ∧
        gas.toNat = 21000 + 100000 * (room + 1) ∧
        s.env.ledger.Fails r.site.env.ledger ((revertingIn reverting front).map Message.id))) := by
  intro settings budget room reverting going r
  obtain ⟨front, h⟩ := Site.drain_fills well available readable unlimited count deposits
  exact ⟨h.of_lt deposits, h.of_le deposits⟩

/-- A deposit of 5 points for an account. -/
def Message.depositFor (id : Uuid) (account : Address) : Message :=
  { depositWith (.number (.natural 1)) with id := id, account := account }

theorem Message.decode_depositFor (id : Uuid) (account : Address) :
    decode (depositFor id account).encode = .ok (depositFor id account) :=
  decode_encode_self (by decide : (Json.number (.natural 1)).IsExact)
    (by decide : (Json.number (.natural 1)).IsPlain) rfl
    (by decide : (Json.number (.natural 1)).depth ≤ 126)

theorem Message.request_depositFor (id : Uuid) (account : Address) :
    (depositFor id account).request = .ok (.deposit ⟨account, 5⟩) := by
  have amount : parseAmount (depositFor id account).amount = .ok 5 :=
    show parseAmount "5" = .ok 5 from rfl
  have direction : (depositFor id account).direction = .ok .pointToToken := rfl
  rw [request, amount, direction]
  rfl

/-- Payloads of deposits of 5 points. -/
def depositPayloads (xs : List (Uuid × Address)) : List Bytes :=
  xs.map fun x => (Message.depositFor x.1 x.2).encode

theorem areDeposits_depositPayloads (xs : List (Uuid × Address)) :
    AreDeposits (depositPayloads xs) := by
  intro p hp
  obtain ⟨x, -, rfl⟩ := List.mem_map.mp hp
  exact ⟨_, _, Message.decode_depositFor x.1 x.2, Message.request_depositFor x.1 x.2⟩

theorem messagesOf_depositPayloads (xs : List (Uuid × Address)) :
    messagesOf (depositPayloads xs) = xs.map fun x => .depositFor x.1 x.2 := by
  induction xs with
  | nil => rfl
  | cons x xs ih =>
    rw [List.map_cons, ← ih]
    exact messagesOf_cons_ok (Message.decode_depositFor x.1 x.2) _

/-- A site with three deposits, where the first account's calls fail and the budget holds one
call. -/
def Site.threeDeposits : Site (Bench SimulatedChain) where
  queue :=
    { payloads := depositPayloads [(⟨1⟩, .repeated 1), (⟨2⟩, .repeated 2), (⟨3⟩, .repeated 3)] }
  env :=
    { chain :=
        { managers := [.rehearsal 7]
          reverting := [.repeated 1] }
      ledger := ({} : MemoryLedger).insertPending ⟨1⟩ .pointToToken 5
      settings := { config := { batch := { gasCeiling := 220999, gasSafetyMargin := 0 } } } }

/-- The second deposit is accepted there, and the third one is left over. -/
theorem deposits_packed_in_order_threeDeposits :
    let r := Site.threeDeposits.drain Site.threeDeposits.env.chain.tools
    r.batch.accepted = [(⟨2⟩, .pointToToken)] ∧
      ∃ p rest gas, r.site.queue.payloads = p :: rest ∧
        Message.decode p = .ok (.depositFor ⟨3⟩ (.repeated 3)) ∧
        r.stop = .gasCeiling gas 220999 ∧ gas.toNat = 221000 := by
  have going : goingIn Site.threeDeposits.env.chain.reverting Site.threeDeposits.queue.payloads =
      [.depositFor ⟨2⟩ (.repeated 2), .depositFor ⟨3⟩ (.repeated 3)] := by
    rw [goingIn, Site.threeDeposits, messagesOf_depositPayloads]
    rfl
  have budget : Site.threeDeposits.env.settings.config.batch.gasBudget = 220999 := rfl
  have room : ((220999 : UInt64).toNat - 21000) / 100000 = 1 := rfl
  obtain ⟨-, h⟩ := deposits_packed_in_order Site.threeDeposits.env.chain Site.threeDeposits
    ⟨rfl, by simp [Site.threeDeposits], rfl, rfl⟩ rfl rfl rfl
    (show (depositPayloads _).length < _ by rw [depositPayloads, List.length_map]; decide)
    (areDeposits_depositPayloads _)
  rw [going, budget, room] at h
  obtain ⟨accepted, -, -, full⟩ := h (by decide)
  obtain ⟨front, p, rest, m, gas, -, -, decoded, hm, queue, stop, hgas, -⟩ := full (by decide)
  obtain rfl := Option.some.inj hm
  exact ⟨accepted, p, rest, gas, queue, decoded, stop, hgas⟩

end PointExchange
