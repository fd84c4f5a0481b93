import Mathlib.Algebra.Group.Nat.Defs
import PointExchange.Batch.Drain

/-!
# The course of a drain

Whatever the collaborators do, a drain goes through rounds: it takes a payload for good and goes on,
or it ends. `Course` has one constructor for each way a round can go, with the answers that
`Drafting.handle` and `Drafting.checkBudget` gave in it. The recursion of `Drafting.drain` is opened
here only.
-/

namespace PointExchange

/-- Why a drain stops before it takes a message. -/
inductive Halts (settings : BatchConfig) (consumed : Nat) (q : MessageQueue) : StopReason → Prop
  | limit (h : settings.limitReached consumed = true) : Halts settings consumed q .messageLimit
  | unreachable (reason : String) (h : q.unavailable = true) :
    Halts settings consumed q (.infrastructure reason)
  | empty (h : UInt32.ofNat q.payloads.length = 0) : Halts settings consumed q .queueEmpty

/-- How a drain ends. -/
inductive Ending
  /-- with nothing in hand -/
  | settled
  /-- a message did not fit, and goes back to the queue -/
  | deferred (m : Message) (gas budget : UInt64)
  /-- a collaborator failed a message, and it goes back to the queue -/
  | failed (m : Message) (fault : Fault)

/-- A drain: how many payloads it has taken, the queue and the drafting it starts from, how it ends
and what it leads to. -/
inductive Course {E : Type} (c : Collaborators E) (settings : BatchConfig) :
    Nat → MessageQueue → Drafting E → Ending → Drained E → Prop
  | halted {n q d} (stop : StopReason) (why : Halts settings n q stop) :
    Course c settings n q d .settled (d.close q stop)
  | undecodable {n q d ending r} (p : Bytes) (rest : List Bytes) (e : DecodeError)
    (room : settings.limitReached n = false)
    (queue : q.payloads = p :: rest) (decoded : Message.decode p = .error e)
    (next : Course c settings (n + 1)
      { q with payloads := rest, deadLettered := q.deadLettered + 1 } d ending r) :
    Course c settings n q d ending r
  | dropped {n q d ending r} (p : Bytes) (rest : List Bytes) (m : Message) (d' : Drafting E)
    (room : settings.limitReached n = false)
    (queue : q.payloads = p :: rest) (decoded : Message.decode p = .ok m)
    (handled : d.handle c settings m = (.ok .dropped, d'))
    (next : Course c settings (n + 1)
      { q with payloads := rest, acked := q.acked + 1 } d' ending r) :
    Course c settings n q d ending r
  | accepted {n q d ending r} (p : Bytes) (rest : List Bytes) (m : Message) (d' d'' : Drafting E)
    (room : settings.limitReached n = false)
    (queue : q.payloads = p :: rest) (decoded : Message.decode p = .ok m)
    (handled : d.handle c settings m = (.ok .accepted, d'))
    (fits : d'.checkBudget c settings.gasBudget = (none, d''))
    (next : Course c settings (n + 1)
      { q with payloads := rest, acked := q.acked + 1 } d'' ending r) :
    Course c settings n q d ending r
  | full {n q d} (p : Bytes) (rest : List Bytes) (m : Message) (d' d'' : Drafting E)
    (stop : StopReason) (room : settings.limitReached n = false)
    (queue : q.payloads = p :: rest) (decoded : Message.decode p = .ok m)
    (handled : d.handle c settings m = (.ok .accepted, d'))
    (full : d'.checkBudget c settings.gasBudget = (some stop, d'')) :
    Course c settings n q d .settled
      (d''.close { q with payloads := rest, acked := q.acked + 1 } stop)
  | deferred {n q d} (p : Bytes) (rest : List Bytes) (m : Message) (d' : Drafting E)
    (gas budget : UInt64)
    (queue : q.payloads = p :: rest) (decoded : Message.decode p = .ok m)
    (handled : d.handle c settings m = (.ok (.deferred gas budget), d')) :
    Course c settings n q d (.deferred m gas budget)
      (d'.close { q with requeued := q.requeued + 1 } (.gasCeiling gas budget))
  | failed {n q d} (p : Bytes) (rest : List Bytes) (m : Message) (d' : Drafting E) (fault : Fault)
    (queue : q.payloads = p :: rest) (decoded : Message.decode p = .ok m)
    (handled : d.handle c settings m = (.error fault, d')) :
    Course c settings n q d (.failed m fault)
      (d'.close { q with requeued := q.requeued + 1 } (.infrastructure fault.text))

namespace MessageQueue

variable {q r : MessageQueue}

theorem take_nothing (h : q.take = (.nothing, r)) : q.payloads = [] := by
  unfold take at h
  split at h
  next hq => exact hq
  next => split at h <;> simp at h

theorem take_undecodable {e : DecodeError} (h : q.take = (.undecodable e, r)) :
    ∃ p rest, q.payloads = p :: rest ∧ Message.decode p = .error e ∧
      r = { q with payloads := rest, deadLettered := q.deadLettered + 1 } := by
  unfold take at h
  split at h
  next => simp at h
  next p rest hq =>
    split at h
    next => simp at h
    next e' he =>
      obtain ⟨h₁, h₂⟩ := Prod.mk.inj h
      obtain rfl : e' = e := by simpa using h₁
      exact ⟨p, rest, hq, he, h₂.symm⟩

theorem take_message {p : Bytes} {m : Message} (h : q.take = (.message p m, r)) :
    ∃ rest, q.payloads = p :: rest ∧ Message.decode p = .ok m ∧
      r = { q with payloads := rest } := by
  unfold take at h
  split at h
  next => simp at h
  next p' rest hq =>
    split at h
    next m' hm =>
      obtain ⟨h₁, h₂⟩ := Prod.mk.inj h
      obtain ⟨rfl, rfl⟩ : p' = p ∧ m' = m := by simpa using h₁
      exact ⟨rest, hq, hm, h₂.symm⟩
    next => simp at h

theorem peek_error {e : QueueError} (h : q.peek = .error e) : q.unavailable = true := by
  by_cases hu : q.unavailable = true
  · exact hu
  · simp [peek, hu] at h

theorem peek_ok {s : QueueStatus} (h : q.peek = .ok s) :
    q.unavailable = false ∧ s.depth = UInt32.ofNat q.payloads.length := by
  by_cases hu : q.unavailable = true
  · simp [peek, hu] at h
  · simp only [peek, hu, if_false, Except.ok.injEq, Bool.false_eq_true] at h
    exact ⟨by simpa using hu, by rw [← h]⟩

/-- A payload that is put back stands where it stood. -/
theorem settle_requeue {p : Bytes} {rest : List Bytes} (h : q.payloads = p :: rest) :
    ({ q with payloads := rest } : MessageQueue).settle p .requeue =
      { q with requeued := q.requeued + 1 } := by
  simp only [settle, ← h]

end MessageQueue

/-- What a drain comes to after a message was handled. -/
def Drafting.proceed {E : Type} (c : Collaborators E) (settings : BatchConfig) (n : Nat)
    (q : MessageQueue) (rest : List Bytes) : Except Fault Verdict × Drafting E → Drained E
  | (.error fault, d) => d.close { q with requeued := q.requeued + 1 } (.infrastructure fault.text)
  | (.ok (.deferred gas budget), d) =>
    d.close { q with requeued := q.requeued + 1 } (.gasCeiling gas budget)
  | (.ok .dropped, d) =>
    d.drain c settings (n + 1) { q with payloads := rest, acked := q.acked + 1 }
  | (.ok .accepted, d) =>
    match d.checkBudget c settings.gasBudget with
    | (some stop, d) => d.close { q with payloads := rest, acked := q.acked + 1 } stop
    | (none, d) => d.drain c settings (n + 1) { q with payloads := rest, acked := q.acked + 1 }

section Drain

variable {E : Type} {c : Collaborators E} {settings : BatchConfig} {n : Nat} {q : MessageQueue}
  {d : Drafting E}

theorem drain_nil (room : settings.limitReached n = false) (hq : q.unavailable = false)
    (queue : q.payloads = []) : d.drain c settings n q = d.close q .queueEmpty := by
  rw [Drafting.drain, room]
  simp [MessageQueue.peek, hq, queue]

/-- A queue that holds payloads says so. -/
theorem peek_cons {p : Bytes} {rest : List Bytes} (hq : q.unavailable = false)
    (hn : q.payloads.length < 2 ^ 32) (queue : q.payloads = p :: rest) :
    ∃ s, q.peek = .ok s ∧ s.depth ≠ 0 := by
  refine ⟨⟨UInt32.ofNat q.payloads.length, 0⟩, by simp [MessageQueue.peek, hq], fun h => ?_⟩
  have hz := congrArg UInt32.toNat h
  rw [UInt32.toNat_ofNat', Nat.mod_eq_of_lt hn, queue] at hz
  simp at hz

theorem drain_cons_error {p : Bytes} {rest : List Bytes} {e : DecodeError}
    (room : settings.limitReached n = false) (hq : q.unavailable = false)
    (hn : q.payloads.length < 2 ^ 32) (queue : q.payloads = p :: rest)
    (decoded : Message.decode p = .error e) :
    d.drain c settings n q = d.drain c settings (n + 1)
      { q with payloads := rest, deadLettered := q.deadLettered + 1 } := by
  obtain ⟨s, hpeek, hdepth⟩ := peek_cons hq hn queue
  rw [Drafting.drain, if_neg (by simp [room]), hpeek]
  simp only [hdepth, if_false]
  split
  next r ht => simp [MessageQueue.take_nothing ht] at queue
  next e r ht =>
    obtain ⟨p', rest', hq', hd, rfl⟩ := MessageQueue.take_undecodable ht
    obtain ⟨rfl, rfl⟩ := List.cons.inj (hq'.symm.trans queue)
    rfl
  next p' m r ht =>
    obtain ⟨rest', hq', hd, rfl⟩ := MessageQueue.take_message ht
    obtain ⟨rfl, rfl⟩ := List.cons.inj (hq'.symm.trans queue)
    simp [hd] at decoded

theorem drain_cons_ok {p : Bytes} {rest : List Bytes} {m : Message}
    (room : settings.limitReached n = false) (hq : q.unavailable = false)
    (hn : q.payloads.length < 2 ^ 32) (queue : q.payloads = p :: rest)
    (decoded : Message.decode p = .ok m) :
    d.drain c settings n q = Drafting.proceed c settings n q rest (d.handle c settings m) := by
  obtain ⟨s, hpeek, hdepth⟩ := peek_cons hq hn queue
  rw [Drafting.drain, if_neg (by simp [room]), hpeek]
  simp only [hdepth, if_false]
  split
  next r ht => simp [MessageQueue.take_nothing ht] at queue
  next e r ht =>
    obtain ⟨p', rest', hq', hd, rfl⟩ := MessageQueue.take_undecodable ht
    obtain ⟨rfl, rfl⟩ := List.cons.inj (hq'.symm.trans queue)
    simp [hd] at decoded
  next p' m' r ht =>
    obtain ⟨rest', hq', hd, rfl⟩ := MessageQueue.take_message ht
    obtain ⟨rfl, rfl⟩ := List.cons.inj (hq'.symm.trans queue)
    obtain rfl : m' = m := Except.ok.inj (hd.symm.trans decoded)
    rw [MessageQueue.settle_requeue hq']
    unfold Drafting.proceed
    rcases d.handle c settings m' with ⟨fault | ⟨_ | _ | _⟩, d'⟩
    · rfl
    · rcases h : d'.checkBudget c settings.gasBudget with ⟨_ | _, d''⟩
      · simp only [h]
        rfl
      · simp only [h]
        rfl
    · rfl
    · rfl

end Drain

/-- **Every drain has its course.** -/
theorem course {E : Type} (c : Collaborators E) (settings : BatchConfig) (n : Nat)
    (q : MessageQueue) (d : Drafting E) :
    ∃ ending, Course c settings n q d ending (d.drain c settings n q) := by
  fun_induction Drafting.drain c settings n q d with
  | case1 n q d h => exact ⟨_, .halted _ (.limit h)⟩
  | case2 n q d h e hp => exact ⟨_, .halted _ (.unreachable _ (MessageQueue.peek_error hp))⟩
  | case3 n q d h s hp hs =>
    rw [(MessageQueue.peek_ok hp).2] at hs
    exact ⟨_, .halted _ (.empty hs)⟩
  | case4 n q d h s hp hs r ht =>
    -- the depth of an empty queue is zero
    refine absurd ?_ hs
    rw [(MessageQueue.peek_ok hp).2, MessageQueue.take_nothing ht]
    rfl
  | case5 n q d h s hp hs e r ht ih =>
    obtain ⟨p, rest, hq, hd, rfl⟩ := MessageQueue.take_undecodable ht
    obtain ⟨ending, ih⟩ := ih
    exact ⟨ending, .undecodable p rest e (by simpa using h) hq hd ih⟩
  | case6 n q d h s hp hs p m r ht fault d' hm =>
    obtain ⟨rest, hq, hd, rfl⟩ := MessageQueue.take_message ht
    rw [MessageQueue.settle_requeue hq]
    exact ⟨_, .failed p rest m d' fault hq hd hm⟩
  | case7 n q d h s hp hs p m r ht gas budget d' hm =>
    obtain ⟨rest, hq, hd, rfl⟩ := MessageQueue.take_message ht
    rw [MessageQueue.settle_requeue hq]
    exact ⟨_, .deferred p rest m d' gas budget hq hd hm⟩
  | case8 n q d h s hp hs p m r ht d' hm ih =>
    obtain ⟨rest, hq, hd, rfl⟩ := MessageQueue.take_message ht
    obtain ⟨ending, ih⟩ := ih
    exact ⟨ending, .dropped p rest m d' (by simpa using h) hq hd hm ih⟩
  | case9 n q d h s hp hs p m r ht d' hm stop d'' hb =>
    obtain ⟨rest, hq, hd, rfl⟩ := MessageQueue.take_message ht
    exact ⟨_, .full p rest m d' d'' stop (by simpa using h) hq hd hm hb⟩
  | case10 n q d h s hp hs p m r ht d' hm d'' hb ih =>
    obtain ⟨rest, hq, hd, rfl⟩ := MessageQueue.take_message ht
    obtain ⟨ending, ih⟩ := ih
    exact ⟨ending, .accepted p rest m d' d'' (by simpa using h) hq hd hm hb ih⟩

end PointExchange
