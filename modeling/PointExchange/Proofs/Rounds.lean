import Mathlib.Logic.Relation
import PointExchange.Proofs.Course

/-!
# The rounds of a drain

While a drain is under way it goes through rounds, each of which ends it or leads to a next one
(`Draining.round`). A round looks at the queue first, which tells its depth in 32 bits and is found
empty at every multiple of 2³²; otherwise it takes the oldest payload (`Draining.takes`). Each round
but the last one leaves a payload less, so a drain comes to its end (`Draining.exists_rounds`) and
has taken at most as many payloads as there were (`Draining.Rounds.countP_takes`).
-/

namespace PointExchange

/-- A drain under way: how many payloads it has taken, and what it goes on with. -/
structure Draining (E : Type) where
  consumed : Nat
  queue : MessageQueue
  drafting : Drafting E

namespace Draining

variable {E : Type} (c : Collaborators E) (settings : BatchConfig)

/-- What a drain under way leads to. -/
def drain (x : Draining E) : Drained E := x.drafting.drain c settings x.consumed x.queue

/-- A round of a drain: the drain ends in it, or goes on after one payload. -/
def round (x : Draining E) : Drained E ⊕ Draining E :=
  if settings.limitReached x.consumed then .inl (x.drafting.close x.queue .messageLimit)
  else
    match x.queue.peek with
    | .error e => .inl (x.drafting.close x.queue (.infrastructure (Coded.text e)))
    | .ok status =>
      if status.depth = 0 then .inl (x.drafting.close x.queue .queueEmpty)
      else
        match x.queue.take with
        | (.nothing, q) => .inl (x.drafting.close q .noMessage)
        | (.undecodable _, r) => .inr ⟨x.consumed + 1, r, x.drafting⟩
        | (.message payload m, r) =>
          match x.drafting.handle c settings m with
          | (.error fault, d) =>
            .inl (d.close (r.settle payload .requeue) (.infrastructure fault.text))
          | (.ok (.deferred gas budget), d) =>
            .inl (d.close (r.settle payload .requeue) (.gasCeiling gas budget))
          | (.ok .dropped, d) => .inr ⟨x.consumed + 1, r.settle payload .acknowledge, d⟩
          | (.ok .accepted, d) =>
            match d.checkBudget c settings.gasBudget with
            | (some stop, d) => .inl (d.close (r.settle payload .acknowledge) stop)
            | (none, d) => .inr ⟨x.consumed + 1, r.settle payload .acknowledge, d⟩

/-- **A drain is one round and then the drain from there.** -/
theorem drain_eq_round (x : Draining E) :
    x.drain c settings = (x.round c settings).elim id (drain c settings) := by
  rw [drain, Drafting.drain, round]
  by_cases room : settings.limitReached x.consumed = true
  · rw [if_pos room, if_pos room, Sum.elim_inl, id]
  rw [if_neg room, if_neg room]
  cases x.queue.peek with
  | error e => rfl
  | ok status =>
    by_cases depth : status.depth = 0
    · simp only [depth, if_true, Sum.elim_inl, id]
    simp only [depth, if_false]
    split
    next q take => simp only [take, Sum.elim_inl, id]
    next e r take => simp only [take, Sum.elim_inr, drain]
    next payload m r take =>
      simp only [take]
      rcases x.drafting.handle c settings m with ⟨fault | ⟨_ | _ | _⟩, d⟩
      · rfl
      · rcases checked : d.checkBudget c settings.gasBudget with ⟨_ | stop, d'⟩
        · simp only [checked]
          rfl
        · simp only [checked]
          rfl
      · rfl
      · rfl

/-- The ways a round can go. In all but one of them the queue was not found empty. -/
inductive Goes (x : Draining E) : Drained E ⊕ Draining E → Prop
  | halts (stop : StopReason) : Goes x (.inl (x.drafting.close x.queue stop))
  | undecodable (p : Bytes) (rest : List Bytes) (e : DecodeError)
    (deep : UInt32.ofNat x.queue.payloads.length ≠ 0)
    (queue : x.queue.payloads = p :: rest) (decoded : Message.decode p = .error e) :
    Goes x (.inr ⟨x.consumed + 1,
      { x.queue with payloads := rest, deadLettered := x.queue.deadLettered + 1 }, x.drafting⟩)
  | returned (p : Bytes) (rest : List Bytes) (m : Message) (res : Except Fault Verdict)
    (d : Drafting E) (stop : StopReason) (deep : UInt32.ofNat x.queue.payloads.length ≠ 0)
    (queue : x.queue.payloads = p :: rest) (decoded : Message.decode p = .ok m)
    (handled : x.drafting.handle c settings m = (res, d)) :
    Goes x (.inl (d.close { x.queue with requeued := x.queue.requeued + 1 } stop))
  | dropped (p : Bytes) (rest : List Bytes) (m : Message) (d : Drafting E)
    (deep : UInt32.ofNat x.queue.payloads.length ≠ 0)
    (queue : x.queue.payloads = p :: rest) (decoded : Message.decode p = .ok m)
    (handled : x.drafting.handle c settings m = (.ok .dropped, d)) :
    Goes x (.inr ⟨x.consumed + 1, { x.queue with payloads := rest, acked := x.queue.acked + 1 }, d⟩)
  | full (p : Bytes) (rest : List Bytes) (m : Message) (d d' : Drafting E) (stop : StopReason)
    (deep : UInt32.ofNat x.queue.payloads.length ≠ 0)
    (queue : x.queue.payloads = p :: rest) (decoded : Message.decode p = .ok m)
    (handled : x.drafting.handle c settings m = (.ok .accepted, d))
    (checked : d.checkBudget c settings.gasBudget = (some stop, d')) :
    Goes x (.inl (d'.close { x.queue with payloads := rest, acked := x.queue.acked + 1 } stop))
  | accepted (p : Bytes) (rest : List Bytes) (m : Message) (d d' : Drafting E)
    (deep : UInt32.ofNat x.queue.payloads.length ≠ 0)
    (queue : x.queue.payloads = p :: rest) (decoded : Message.decode p = .ok m)
    (handled : x.drafting.handle c settings m = (.ok .accepted, d))
    (checked : d.checkBudget c settings.gasBudget = (none, d')) :
    Goes x (.inr
      ⟨x.consumed + 1, { x.queue with payloads := rest, acked := x.queue.acked + 1 }, d'⟩)

theorem goes (x : Draining E) : x.Goes c settings (x.round c settings) := by
  fun_cases Draining.round c settings x with
  | case1 | case2 | case3 => exact .halts _
  | case4 room status peek depth q take =>
    -- the depth of an empty queue is zero
    refine absurd ?_ depth
    rw [(MessageQueue.peek_ok peek).2, MessageQueue.take_nothing take]
    rfl
  | case5 room status peek depth e r take =>
    rw [(MessageQueue.peek_ok peek).2] at depth
    obtain ⟨p, rest, queue, decoded, rfl⟩ := MessageQueue.take_undecodable take
    exact .undecodable p rest e depth queue decoded
  | case6 room status peek depth p m r take fault d handled =>
    rw [(MessageQueue.peek_ok peek).2] at depth
    obtain ⟨rest, queue, decoded, rfl⟩ := MessageQueue.take_message take
    rw [MessageQueue.settle_requeue queue]
    exact .returned p rest m _ d _ depth queue decoded handled
  | case7 room status peek depth p m r take gas budget d handled =>
    rw [(MessageQueue.peek_ok peek).2] at depth
    obtain ⟨rest, queue, decoded, rfl⟩ := MessageQueue.take_message take
    rw [MessageQueue.settle_requeue queue]
    exact .returned p rest m _ d _ depth queue decoded handled
  | case8 room status peek depth p m r take d handled =>
    rw [(MessageQueue.peek_ok peek).2] at depth
    obtain ⟨rest, queue, decoded, rfl⟩ := MessageQueue.take_message take
    exact .dropped p rest m d depth queue decoded handled
  | case9 room status peek depth p m r take d handled stop d' checked =>
    rw [(MessageQueue.peek_ok peek).2] at depth
    obtain ⟨rest, queue, decoded, rfl⟩ := MessageQueue.take_message take
    exact .full p rest m d d' stop depth queue decoded handled checked
  | case10 room status peek depth p m r take d handled d' checked =>
    rw [(MessageQueue.peek_ok peek).2] at depth
    obtain ⟨rest, queue, decoded, rfl⟩ := MessageQueue.take_message take
    exact .accepted p rest m d d' depth queue decoded handled checked

/-- The drain from the first one comes to the second one. -/
def Reaches : Draining E → Draining E → Prop :=
  Relation.ReflTransGen fun x y => x.round c settings = .inr y

variable {c settings} {x y : Draining E}

/-- A drain that goes on has a payload less. -/
theorem length_lt (next : x.round c settings = .inr y) :
    y.queue.payloads.length < x.queue.payloads.length := by
  have hg := x.goes c settings
  rw [next] at hg
  cases hg with
  | undecodable p rest e deep queue | dropped p rest m d deep queue
  | accepted p rest m d d' deep queue =>
    rw [queue]
    exact Nat.lt_succ_self _

/-! ### What a round takes -/

/-- The round takes the oldest payload: the limit leaves room for it, and the queue says that it
holds some. -/
def takes (settings : BatchConfig) (x : Draining E) : Bool :=
  !settings.limitReached x.consumed && x.queue.peek.toOption.any fun status => status.depth ≠ 0

theorem takes_iff : x.takes settings = true ↔ settings.limitReached x.consumed = false ∧
    x.queue.unavailable = false ∧ UInt32.ofNat x.queue.payloads.length ≠ 0 := by
  unfold takes MessageQueue.peek
  by_cases hu : x.queue.unavailable = true
  · simp [hu, Except.toOption]
  · simp [hu, Except.toOption]

/-- The round handles the message of the oldest payload. -/
structure Handles (settings : BatchConfig) (x : Draining E) (p : Bytes) (rest : List Bytes)
    (m : Message) : Prop where
  takes : x.takes settings = true
  queue : x.queue.payloads = p :: rest
  decoded : Message.decode p = .ok m

/-- What a round comes to after a message was handled. -/
def proceed (c : Collaborators E) (settings : BatchConfig) (x : Draining E) (rest : List Bytes) :
    Except Fault Verdict × Drafting E → Drained E ⊕ Draining E
  | (.error fault, d) =>
    .inl (d.close { x.queue with requeued := x.queue.requeued + 1 } (.infrastructure fault.text))
  | (.ok (.deferred gas budget), d) =>
    .inl (d.close { x.queue with requeued := x.queue.requeued + 1 } (.gasCeiling gas budget))
  | (.ok .dropped, d) =>
    .inr ⟨x.consumed + 1, { x.queue with payloads := rest, acked := x.queue.acked + 1 }, d⟩
  | (.ok .accepted, d) =>
    match d.checkBudget c settings.gasBudget with
    | (some stop, d) =>
      .inl (d.close { x.queue with payloads := rest, acked := x.queue.acked + 1 } stop)
    | (none, d) =>
      .inr ⟨x.consumed + 1, { x.queue with payloads := rest, acked := x.queue.acked + 1 }, d⟩

/-- A round that takes nothing ends the drain and leaves all as it is. -/
theorem round_of_not_takes (h : x.takes settings = false) :
    ∃ stop, x.round c settings = .inl (x.drafting.close x.queue stop) := by
  unfold takes at h
  unfold round
  by_cases room : settings.limitReached x.consumed = true
  · exact ⟨_, if_pos room⟩
  rw [if_neg room]
  cases hp : x.queue.peek with
  | error e => exact ⟨_, rfl⟩
  | ok status =>
    have hd : status.depth = 0 := by simpa [hp, room, Except.toOption] using h
    simp only [hd, if_true]
    exact ⟨_, rfl⟩

/-- **A round that handles a message goes on as the verdict says.** -/
theorem round_of_handles {p : Bytes} {rest : List Bytes} {m : Message}
    (h : x.Handles settings p rest m) :
    x.round c settings = x.proceed c settings rest (x.drafting.handle c settings m) := by
  obtain ⟨room, available, deep⟩ := takes_iff.mp h.takes
  unfold round
  rw [if_neg (by simp [room]), MessageQueue.peek, if_neg (by simp [available])]
  simp only [deep, if_false]
  rw [MessageQueue.take, h.queue]
  simp only [h.decoded]
  rw [MessageQueue.settle_requeue h.queue]
  unfold proceed
  rcases x.drafting.handle c settings m with ⟨fault | ⟨_ | _ | _⟩, d⟩
  · rfl
  · rcases checked : d.checkBudget c settings.gasBudget with ⟨_ | stop, d'⟩
    · simp only [checked]
      rfl
    · simp only [checked]
      rfl
  · rfl
  · rfl

/-- A payload that is no message is put aside. -/
theorem round_of_undecodable {p : Bytes} {rest : List Bytes} {e : DecodeError}
    (h : x.takes settings = true) (queue : x.queue.payloads = p :: rest)
    (decoded : Message.decode p = .error e) :
    x.round c settings = .inr ⟨x.consumed + 1,
      { x.queue with payloads := rest, deadLettered := x.queue.deadLettered + 1 }, x.drafting⟩ := by
  obtain ⟨room, available, deep⟩ := takes_iff.mp h
  unfold round
  rw [if_neg (by simp [room]), MessageQueue.peek, if_neg (by simp [available])]
  simp only [deep, if_false]
  rw [MessageQueue.take, queue]
  simp only [decoded]

theorem payloads_ne_nil (h : x.takes settings = true) : x.queue.payloads ≠ [] := by
  intro hn
  have deep := (takes_iff.mp h).2.2
  rw [hn] at deep
  exact deep rfl

/-- A round takes nothing, or a payload that is no message, or it handles a message. -/
theorem takes_cases (settings : BatchConfig) (x : Draining E) :
    x.takes settings = false ∨
    (∃ p rest e, x.takes settings = true ∧ x.queue.payloads = p :: rest ∧
      Message.decode p = .error e) ∨
    ∃ p rest m, x.Handles settings p rest m := by
  by_cases h : x.takes settings = true
  · cases queue : x.queue.payloads with
    | nil => exact absurd queue (payloads_ne_nil h)
    | cons p rest =>
      cases decoded : Message.decode p with
      | error e => exact .inr (.inl ⟨p, rest, e, h, rfl, decoded⟩)
      | ok m => exact .inr (.inr ⟨p, rest, m, h, queue, decoded⟩)
  · exact .inl (by simpa using h)

/-- The verdict on the message that the next round handles, with how many permits and calls there
are after it. -/
def verdict? (c : Collaborators E) (settings : BatchConfig) (x : Draining E) :
    Option (Verdict × Nat × Nat) :=
  match x.takes settings, x.queue.payloads with
  | true, p :: _ =>
    match Message.decode p with
    | .ok m =>
      match x.drafting.handle c settings m with
      | (.ok v, d) => some (v, d.batch.permits.length, d.batch.calls.length)
      | (.error _, _) => none
    | .error _ => none
  | _, _ => none

theorem exists_handled {v : Verdict} {permits calls : Nat}
    (h : x.verdict? c settings = some (v, permits, calls)) :
    ∃ p rest m d, x.Handles settings p rest m ∧ x.drafting.handle c settings m = (.ok v, d) ∧
      d.batch.permits.length = permits ∧ d.batch.calls.length = calls := by
  unfold verdict? at h
  split at h
  next p rest takes queue =>
    split at h
    next m decoded =>
      split at h
      next v' d handled =>
        simp only [Option.some.injEq, Prod.mk.injEq] at h
        obtain ⟨rfl, hpermits, hcalls⟩ := h
        exact ⟨p, rest, m, d, ⟨takes, queue, decoded⟩, handled, hpermits, hcalls⟩
      next => simp at h
    next => simp at h
  next => simp at h

/-- A drain goes on after the next round if something holds of what it goes on with. -/
theorem exists_next {f : Draining E → Bool}
    (h : (x.round c settings).elim (fun _ => false) f = true) :
    ∃ y, x.round c settings = .inr y ∧ f y = true := by
  cases hx : x.round c settings with
  | inl r => simp [hx] at h
  | inr y => exact ⟨y, rfl, by simpa [hx] using h⟩

/-! ### All rounds of a drain -/

/-- The rounds of a drain from the first one on, and what the last one leads to. -/
inductive Rounds (c : Collaborators E) (settings : BatchConfig) :
    Draining E → List (Draining E) → Drained E → Prop
  | last {x r} (h : x.round c settings = .inl r) : Rounds c settings x [x] r
  | next {x y xs r} (h : x.round c settings = .inr y) (rounds : Rounds c settings y xs r) :
    Rounds c settings x (x :: xs) r

/-- **Every drain comes to its end after some rounds.** -/
theorem exists_rounds (c : Collaborators E) (settings : BatchConfig) (x : Draining E) :
    ∃ xs, Rounds c settings x xs (x.drain c settings) := by
  induction hn : x.queue.payloads.length using Nat.strongRecOn generalizing x with
  | ind n ih =>
    rw [drain_eq_round]
    cases hr : x.round c settings with
    | inl r => exact ⟨[x], .last hr⟩
    | inr y =>
      obtain ⟨xs, h⟩ := ih _ (hn ▸ length_lt hr) y rfl
      exact ⟨x :: xs, .next hr h⟩

/-- The last round of a drain is reached, and ends it. -/
theorem Rounds.reaches_last {xs : List (Draining E)} {r : Drained E}
    (h : Rounds c settings x xs r) : ∃ y, Reaches c settings x y ∧ y.round c settings = .inl r := by
  induction h with
  | @last x r hr => exact ⟨x, .refl, hr⟩
  | @next x y xs r hr rounds ih =>
    obtain ⟨z, hyz, hz⟩ := ih
    exact ⟨z, .head hr hyz, hz⟩

/-- **Every drain comes to a last round,** which is its end. -/
theorem reaches_last (x : Draining E) :
    ∃ y, Reaches c settings x y ∧ y.round c settings = .inl (x.drain c settings) :=
  have ⟨_, h⟩ := exists_rounds c settings x
  h.reaches_last

/-- What holds in a round has held from the first one on, or has come about in one of them. -/
theorem Rounds.traced {P A : Draining E → Prop}
    (step : ∀ {y z}, y.round c settings = .inr z → P z → P y ∨ A y) {xs : List (Draining E)}
    {r : Drained E} (h : Rounds c settings x xs r) : ∀ z ∈ xs, P z → P x ∨ ∃ y ∈ xs, A y := by
  induction h with
  | @last x r h =>
    intro z hz hp
    obtain rfl := List.mem_singleton.mp hz
    exact .inl hp
  | @next x y xs r h rounds ih =>
    intro z hz hp
    rcases List.mem_cons.mp hz with rfl | hz
    · exact .inl hp
    · rcases ih z hz hp with hy | ⟨w, hw, ha⟩
      · exact (step h hy).imp_right fun ha => ⟨x, List.mem_cons_self, ha⟩
      · exact .inr ⟨w, List.mem_cons_of_mem x hw, ha⟩

/-- **A drain takes at most as many payloads as there are.** -/
theorem Rounds.countP_takes {xs : List (Draining E)} {r : Drained E}
    (h : Rounds c settings x xs r) :
    xs.countP (takes settings) ≤ x.queue.payloads.length := by
  induction h with
  | @last x r h =>
    rw [List.countP_singleton]
    split
    next ht => exact List.length_pos_iff.mpr (payloads_ne_nil ht)
    next => exact Nat.zero_le _
  | @next x y xs r h rounds ih =>
    have hlt := length_lt h
    rw [List.countP_cons]
    split <;> omega

end Draining

/-- A drain that has taken nothing yet. -/
def Site.opening {E : Type} (s : Site E) : Draining E := ⟨0, s.queue, ⟨{}, s.env⟩⟩

/-- The rounds of a drain from the start. A drain without settings has none. -/
inductive Site.Rounds {E : Type} (c : Collaborators E) (s : Site E) :
    BatchConfig → List (Draining E) → Drained E → Prop
  | unreadable (e : ConfigError) (settings : BatchConfig) (h : c.config s.env = .error e) :
    Rounds c s settings [] ⟨{}, .infrastructure (Coded.text e), s⟩
  | readable (config : Config) (xs : List (Draining E)) (r : Drained E)
    (h : c.config s.env = .ok config)
    (rounds : Draining.Rounds c config.batch s.opening xs r) :
    Rounds c s config.batch xs r

theorem Site.Rounds.countP_takes {E : Type} {c : Collaborators E} {s : Site E}
    {settings : BatchConfig} {xs : List (Draining E)} {r : Drained E}
    (h : s.Rounds c settings xs r) :
    xs.countP (Draining.takes settings) ≤ s.queue.payloads.length := by
  cases h with
  | unreadable => exact Nat.zero_le _
  | readable config xs r hconfig rounds => exact rounds.countP_takes

theorem Site.exists_rounds {E : Type} (c : Collaborators E) (s : Site E) :
    ∃ settings xs, s.Rounds c settings xs (s.drain c) := by
  unfold Site.drain
  cases h : c.config s.env with
  | error e => exact ⟨{}, [], .unreadable e _ h⟩
  | ok config =>
    obtain ⟨xs, hx⟩ := Draining.exists_rounds c config.batch s.opening
    exact ⟨config.batch, xs, .readable config xs _ h hx⟩

end PointExchange
