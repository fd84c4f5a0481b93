import PointExchange.Proofs.Sizes

/-!
# The gas of a batch

An estimate of a simulated chain has a closed form: a batch costs its base and the same for each
call, unless it has a call of an account whose calls fail. The judgement of a trial follows from
that (`judgement_eq`), and that no call fails which a drain has accepted (`Drains.accepts`).
-/

namespace PointExchange

/-- The gas of a batch of some calls. -/
def batchGas (calls : Nat) : Nat := 21000 + 100000 * calls

theorem batchGas_mono {m n : Nat} (h : m ≤ n) : batchGas m ≤ batchGas n :=
  Nat.add_le_add_left (Nat.mul_le_mul_left _ h) _

namespace SimulatedChain

/-- The call is one of an account whose deposits and withdrawals fail. -/
def rejects (c : SimulatedChain) (call : Bytes) : Bool :=
  (accountOf? call).any fun a => a ∈ c.reverting

theorem rejects_congr {c c' : SimulatedChain} (h : c'.quiet = c.quiet) (call : Bytes) :
    c'.rejects call = c.rejects call := by
  have hr : c'.reverting = c.reverting := (congrArg SimulatedChain.reverting h :)
  rw [rejects, rejects, hr]

variable (c : SimulatedChain) {call : Bytes} {calls : List Bytes}

theorem gasOf_of_rejects (h : c.rejects call = true) :
    ∃ reason, c.gasOf call = .error (.reverted reason) := by
  rw [rejects, Option.any_eq_true] at h
  obtain ⟨a, ha, hm⟩ := h
  rw [gasOf, ha]
  exact ⟨_, if_pos (by simpa using hm)⟩

theorem gasOf_of_not_rejects (h : c.rejects call = false) : c.gasOf call = .ok callGas := by
  rw [rejects] at h
  rw [gasOf]
  cases ha : accountOf? call with
  | none => rfl
  | some a =>
    rw [ha, Option.any_some] at h
    exact if_neg (by simpa using h)

/-- Calls that do not fail cost the same each. -/
theorem gasOfAll_append (h : ∀ x ∈ calls, c.rejects x = false) (more : List Bytes)
    (total : UInt64) : c.gasOfAll (calls ++ more) total =
      c.gasOfAll more (total + callGas * UInt64.ofNat calls.length) := by
  induction calls generalizing total with
  | nil => simp
  | cons x rest ih =>
    have hx := c.gasOf_of_not_rejects (h x List.mem_cons_self)
    rw [List.cons_append, gasOfAll, hx]
    show c.gasOfAll (rest ++ more) (total + callGas) = _
    rw [ih fun y hy => h y (List.mem_cons_of_mem _ hy), List.length_cons, UInt64.ofNat_add,
      UInt64.mul_add, UInt64.add_assoc, UInt64.add_comm (callGas * UInt64.ofNat rest.length)]
    rfl

/-- The gas of a batch does not overflow. -/
theorem toNat_batchGas {n : Nat} (h : n ≤ 2 ^ 33) :
    (baseGas + callGas * UInt64.ofNat n).toNat = batchGas n := by
  rw [UInt64.toNat_add, UInt64.toNat_mul, UInt64.toNat_ofNat', batchGas,
    show baseGas.toNat = 21000 from rfl, show callGas.toNat = 100000 from rfl]
  omega

/-- **The judgement of a trial depends on its last call and on its size,** when none of the calls
before the last one fails. -/
theorem judgement_eq (hu : c.estimateUnavailable = false) (hc : Carriable (calls ++ [call]))
    (h : ∀ x ∈ calls, c.rejects x = false) (hn : calls.length + 1 ≤ 2 ^ 33) (budget : UInt64)
    (alone : Bool) :
    c.judgement budget (calls ++ [call]) alone =
      if c.rejects call = true then .ok (some .dropped)
      else if batchGas (calls.length + 1) ≤ budget.toNat then .ok none
      else if alone = true then .ok (some .dropped)
      else .ok (some (.deferred (baseGas + callGas * UInt64.ofNat (calls.length + 1)) budget)) := by
  have he : (c.estimate pointManager (encodeMulticall (calls ++ [call]))).1 =
      c.gasOfAll [call] (baseGas + callGas * UInt64.ofNat calls.length) := by
    rw [estimate, if_neg (by simp [hu]), if_neg (by decide), callsOf_encodeMulticall hc]
    exact c.gasOfAll_append h _ _
  rw [judgement, he, gasOfAll]
  by_cases hr : c.rejects call = true
  · obtain ⟨reason, hg⟩ := c.gasOf_of_rejects hr
    rw [if_pos hr, hg]
  · have hg : baseGas + callGas * UInt64.ofNat calls.length + callGas =
        baseGas + callGas * UInt64.ofNat (calls.length + 1) := by
      rw [UInt64.ofNat_add, UInt64.mul_add, UInt64.add_assoc]
      rfl
    rw [if_neg hr, c.gasOf_of_not_rejects (by simpa using hr)]
    simp only [gasOfAll, hg, UInt64.le_iff_toNat_le, toNat_batchGas hn]

end SimulatedChain

/-! ## Accepted calls -/

namespace SimulatedChain

variable {c : SimulatedChain}

/-- Calls that have an estimate do not fail. -/
theorem not_rejects_of_gasOfAll {calls : List Bytes} {total gas : UInt64}
    (h : c.gasOfAll calls total = .ok gas) : ∀ x ∈ calls, c.rejects x = false := by
  induction calls generalizing total with
  | nil => exact fun x hx => absurd hx List.not_mem_nil
  | cons call rest ih =>
    rw [gasOfAll] at h
    cases hg : c.gasOf call with
    | error e => simp [hg] at h
    | ok g =>
      simp only [hg] at h
      refine List.forall_mem_cons.mpr ⟨?_, ih h⟩
      cases hr : c.rejects call with
      | false => rfl
      | true =>
        obtain ⟨reason, he⟩ := c.gasOf_of_rejects hr
        simp [hg] at he

/-- A trial that fits has no call that fails. -/
theorem not_rejects_of_judgement {budget : UInt64} {trial : List Bytes} {alone : Bool}
    (hc : Carriable trial) (h : c.judgement budget trial alone = .ok none) :
    ∀ x ∈ trial, c.rejects x = false := by
  rw [judgement] at h
  rcases he : (c.estimate pointManager (encodeMulticall trial)).1 with (_ | _) | gas
  · simp [he] at h
  · simp [he] at h
  · rw [estimate] at he
    by_cases hu : c.estimateUnavailable = true
    · simp [hu] at he
    · rw [if_neg hu, if_neg (by decide), callsOf_encodeMulticall hc] at he
      exact not_rejects_of_gasOfAll he

end SimulatedChain

section Offers

variable {start : SimulatedChain} {settings : BatchConfig} {m : Message} {b b' : Batch}
  {w : Bench SimulatedChain} {o : Offer} {left : Nat}

/-- The call of an offer that is accepted does not fail. -/
theorem Offered.not_rejects (h : Offered start settings m b w o b')
    (sized : b.Sized (2 ^ 65) (left + 1)) (hm : ∀ b ∈ m.signature, b.length < 2 ^ 64)
    (judged : w.chain.judgement settings.gasBudget o.trial b.isEmpty = .ok none) :
    w.chain.rejects o.call = false := by
  obtain ⟨front, ht, -⟩ := h.trial_eq
  have carriable := h.carriable_trial sized (by decide) hm
  apply SimulatedChain.not_rejects_of_judgement carriable judged
  rw [ht]
  exact List.mem_append_right _ (List.mem_singleton_self _)

end Offers

/-- **No call that a drain accepts fails,** whatever becomes of its collaborators: an estimate has
said so. -/
theorem Drains.accepts {start : SimulatedChain} {settings : BatchConfig} {n : Nat}
    {q : MessageQueue} {d : Drafting (Bench SimulatedChain)} {log : List Fate}
    {r : Drained (Bench SimulatedChain)} (h : Drains start settings n q d log r)
    (sized : d.batch.Sized (2 ^ 65) q.payloads.length) (fits : PayloadsFit q.payloads) :
    ∀ c ∈ callsIn log, d.env.chain.rejects c = false := by
  induction h with
  | halted | deferred | broken => exact fun c hc => absurd hc List.not_mem_nil
  | undecodable p rest e queue decoded next ih =>
    rw [queue] at sized fits
    exact ih sized.pass fits.tail
  | @dropped n q d log r p rest m d' queue decoded handled next ih =>
    rw [queue] at sized fits
    have hq : d.env.chain.quiet = d'.env.chain.quiet :=
      (congrArg Bench.chain handled.failing :).symm
    have hsized : d'.batch.Sized (2 ^ 65) rest.length := by
      cases handled with
      | rejected => exact sized.pass
      | dropped o b w offered => exact offered.sized_keepPermits sized
    intro c hc
    rw [SimulatedChain.rejects_congr hq]
    exact ih hsized fits.tail c hc
  | @accepted n q d log r p rest m o b w queue decoded offered judged env next ih =>
    rw [queue] at sized fits
    have hm := fits.head decoded
    have hq : d.env.chain.quiet = w.chain.quiet := (congrArg Bench.chain env :).symm
    refine List.forall_mem_cons.mpr ⟨offered.not_rejects sized hm judged, fun c hc => ?_⟩
    rw [SimulatedChain.rejects_congr hq]
    exact ih (offered.sized_accept sized hm) fits.tail c hc
  | @full n q d p rest m o b w stop queue decoded offered judged env why =>
    rw [queue] at sized fits
    have hm := fits.head decoded
    exact List.forall_mem_cons.mpr
      ⟨offered.not_rejects sized hm judged, fun c hc => absurd hc List.not_mem_nil⟩

end PointExchange
