import PointExchange.Proofs.Course
import PointExchange.Proofs.Handling

/-!
# What a drain goes through

`Drains` has one constructor for each way a round of a drain can go, and the rounds after it below.
A statement about drains is proved by induction on it, with a case for each constructor; what a
message may come to in a round is `Handled`.
-/

namespace PointExchange

variable {start : SimulatedChain} {settings : BatchConfig}

/-- Why a drain stops after it has accepted a message. -/
inductive StopReason.OfBudget : StopReason → Prop
  | ceiling (estimate budget : UInt64) : OfBudget (.gasCeiling estimate budget)
  | estimate (reason : String) : OfBudget (.estimateFailed reason)

namespace Drafting

/-- The drafting after its batch was estimated with the permits in front. -/
def estimated (d : Drafting (Bench SimulatedChain)) : Drafting (Bench SimulatedChain) :=
  { d with env := d.env.estimating (d.batch.permits ++ d.batch.calls) }

theorem checkBudget_eq (start : SimulatedChain) (budget : UInt64)
    (d : Drafting (Bench SimulatedChain)) :
    d.checkBudget start.tools budget =
      (match (d.env.chain.estimate SimulatedChain.pointManager
          (encodeMulticall (d.batch.permits ++ d.batch.calls))).1 with
        | .ok gas => if gas ≤ budget then none else some (.gasCeiling gas budget)
        | .error e => some (.estimateFailed e.text), d.estimated) := by
  have he : (start.tools.gateway.estimateGas start.tools.gateway.pointManager
      (encodeMulticall (d.batch.permits ++ d.batch.calls))).perform d.env =
      ((d.env.chain.estimate SimulatedChain.pointManager
        (encodeMulticall (d.batch.permits ++ d.batch.calls))).1,
        d.env.estimating (d.batch.permits ++ d.batch.calls)) := rfl
  rw [checkBudget, he]
  cases (d.env.chain.estimate SimulatedChain.pointManager
      (encodeMulticall (d.batch.permits ++ d.batch.calls))).1 with
  | ok gas => rfl
  | error e => rfl

theorem checkBudget_cases (start : SimulatedChain) (budget : UInt64)
    (d : Drafting (Bench SimulatedChain)) :
    d.checkBudget start.tools budget = (none, d.estimated) ∨
    ∃ stop : StopReason, stop.OfBudget ∧
      d.checkBudget start.tools budget = (some stop, d.estimated) := by
  rw [checkBudget_eq]
  cases (d.env.chain.estimate SimulatedChain.pointManager
      (encodeMulticall (d.batch.permits ++ d.batch.calls))).1 with
  | ok gas =>
    by_cases hg : gas ≤ budget
    · exact .inl (Prod.ext (if_pos hg) rfl)
    · exact .inr ⟨_, .ceiling gas budget, Prod.ext (if_neg hg) rfl⟩
  | error e => exact .inr ⟨_, .estimate e.text, rfl⟩

end Drafting

/-- What has become of a message that a drain has taken for good. -/
inductive Fate
  | accepted (m : Message) (o : Offer)
  | dropped (m : Message)

namespace Fate

def message : Fate → Message
  | accepted m _ => m
  | dropped m => m

/-- The message and its offer, if the offer was accepted. -/
def entry? : Fate → Option (Message × Offer)
  | accepted m o => some (m, o)
  | dropped _ => none

/-- The record that was failed. -/
def failed? : Fate → Option Uuid
  | accepted _ _ => none
  | dropped m => some m.id

end Fate

/-- A drain: how many messages it has taken, the queue and the drafting it starts from, the fates of
the messages that it takes from then on, and what it leads to. -/
inductive Drains (start : SimulatedChain) (settings : BatchConfig) :
    Nat → MessageQueue → Drafting (Bench SimulatedChain) → List Fate →
      Drained (Bench SimulatedChain) → Prop
  | halted {n q d} (stop : StopReason) (why : Halts settings n q stop) :
    Drains start settings n q d [] (d.close q stop)
  | undecodable {n q d log r} (p : Bytes) (rest : List Bytes) (e : DecodeError)
    (queue : q.payloads = p :: rest) (decoded : Message.decode p = .error e)
    (next : Drains start settings (n + 1)
      { q with payloads := rest, deadLettered := q.deadLettered + 1 } d log r) :
    Drains start settings n q d log r
  | dropped {n q d log r} (p : Bytes) (rest : List Bytes) (m : Message)
    (d' : Drafting (Bench SimulatedChain))
    (queue : q.payloads = p :: rest) (decoded : Message.decode p = .ok m)
    (handled : Handled start settings m d (.ok .dropped) d')
    (next : Drains start settings (n + 1)
      { q with payloads := rest, acked := q.acked + 1 } d' log r) :
    Drains start settings n q d (.dropped m :: log) r
  | accepted {n q d log r} (p : Bytes) (rest : List Bytes) (m : Message) (o : Offer) (b : Batch)
    (w : Bench SimulatedChain)
    (queue : q.payloads = p :: rest) (decoded : Message.decode p = .ok m)
    (offered : Offered start settings m d.batch d.env o b)
    (judged : d.env.chain.judgement settings.gasBudget o.trial d.batch.isEmpty = .ok none)
    (env : w.still = d.env.still)
    (next : Drains start settings (n + 1)
      { q with payloads := rest, acked := q.acked + 1 } ⟨b.accept m.id o, w⟩ log r) :
    Drains start settings n q d (.accepted m o :: log) r
  | full {n q d} (p : Bytes) (rest : List Bytes) (m : Message) (o : Offer) (b : Batch)
    (w : Bench SimulatedChain) (stop : StopReason)
    (queue : q.payloads = p :: rest) (decoded : Message.decode p = .ok m)
    (offered : Offered start settings m d.batch d.env o b)
    (judged : d.env.chain.judgement settings.gasBudget o.trial d.batch.isEmpty = .ok none)
    (env : w.still = d.env.still) (why : stop.OfBudget) :
    Drains start settings n q d [.accepted m o]
      ((Drafting.mk (b.accept m.id o) w).close
        { q with payloads := rest, acked := q.acked + 1 } stop)
  | deferred {n q d} (p : Bytes) (rest : List Bytes) (m : Message) (o : Offer) (b : Batch)
    (w : Bench SimulatedChain) (gas budget : UInt64)
    (queue : q.payloads = p :: rest) (decoded : Message.decode p = .ok m)
    (offered : Offered start settings m d.batch d.env o b)
    (judged : d.env.chain.judgement settings.gasBudget o.trial d.batch.isEmpty =
      .ok (some (.deferred gas budget)))
    (env : w.still = d.env.still) :
    Drains start settings n q d []
      ((Drafting.mk b w).close { q with requeued := q.requeued + 1 } (.gasCeiling gas budget))
  | broken {n q d} (p : Bytes) (rest : List Bytes) (m : Message) (fault : Fault) (b : Batch)
    (w : Bench SimulatedChain)
    (queue : q.payloads = p :: rest) (decoded : Message.decode p = .ok m)
    (prepared : d.batch.Prepared b) (why : Broken start d.batch d.env)
    (env : w.still = d.env.still.failing m.id) :
    Drains start settings n q d []
      ((Drafting.mk b w).close { q with requeued := q.requeued + 1 }
        (.infrastructure fault.text))

theorem Drafting.handled_of {m : Message} {d d' : Drafting (Bench SimulatedChain)}
    {res : Except Fault Verdict} (h : d.handle start.tools settings m = (res, d')) :
    Handled start settings m d res d' := by
  have hm := handled start settings m d
  rwa [h] at hm

/-- **A drain goes through rounds.** -/
theorem Course.drains {n : Nat} {q : MessageQueue} {d : Drafting (Bench SimulatedChain)}
    {ending : Ending} {r : Drained (Bench SimulatedChain)}
    (h : Course start.tools settings n q d ending r) :
    ∃ log, Drains start settings n q d log r := by
  induction h with
  | halted stop why => exact ⟨[], .halted stop why⟩
  | undecodable p rest e room queue decoded next ih =>
    obtain ⟨log, ih⟩ := ih
    exact ⟨log, .undecodable p rest e queue decoded ih⟩
  | dropped p rest m d' room queue decoded handled next ih =>
    obtain ⟨log, ih⟩ := ih
    exact ⟨_, .dropped p rest m d' queue decoded (Drafting.handled_of handled) ih⟩
  | accepted p rest m d' d'' room queue decoded handled fits next ih =>
    obtain ⟨log, ih⟩ := ih
    rcases Drafting.checkBudget_cases start settings.gasBudget d' with hc | ⟨stop, ho, hc⟩
    · obtain rfl : d'.estimated = d'' := (Prod.mk.inj (hc.symm.trans fits)).2
      cases Drafting.handled_of handled with
      | accepted o b w offered judged env =>
        refine ⟨_, .accepted p rest m o b _ queue decoded offered judged ?_ ih⟩
        rw [Bench.still_estimating, env]
    · exact absurd (Prod.mk.inj (hc.symm.trans fits)).1 (by simp)
  | full p rest m d' d'' stop room queue decoded handled full =>
    rcases Drafting.checkBudget_cases start settings.gasBudget d' with hc | ⟨stop', ho, hc⟩
    · exact absurd (Prod.mk.inj (hc.symm.trans full)).1 (by simp)
    · obtain ⟨h₁, rfl⟩ := Prod.mk.inj (hc.symm.trans full)
      obtain rfl : stop' = stop := by simpa using h₁
      cases Drafting.handled_of handled with
      | accepted o b w offered judged env =>
        refine ⟨_, .full p rest m o b _ stop' queue decoded offered judged ?_ ho⟩
        rw [Bench.still_estimating, env]
  | deferred p rest m d' gas budget queue decoded handled =>
    cases Drafting.handled_of handled with
    | deferred o b w _ _ offered judged env =>
      exact ⟨[], .deferred p rest m o b w gas budget queue decoded offered judged env⟩
  | failed p rest m d' fault queue decoded handled =>
    cases Drafting.handled_of handled with
    | broken _ b w prepared why env =>
      exact ⟨[], .broken p rest m fault b w queue decoded prepared why env⟩

theorem drains (start : SimulatedChain) (settings : BatchConfig) (n : Nat) (q : MessageQueue)
    (d : Drafting (Bench SimulatedChain)) :
    ∃ log, Drains start settings n q d log (d.drain start.tools settings n q) := by
  obtain ⟨ending, h⟩ := course start.tools settings n q d
  exact h.drains

end PointExchange
