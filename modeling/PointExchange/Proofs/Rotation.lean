import PointExchange.Proofs.Healthy
import PointExchange.Proofs.Signing

/-!
# Keys take turns

A run that is completed lets the next relayer take its turn, and the next manager if it has sent
calls and has taken a deposit. A run that comes to anything else leaves both indices as they were.
So over any history the indices go round: they count the completed runs, and the runs that used a
manager, modulo the number of keys (`keys_take_turns`).

Reading an index and writing it are separate calls, the manager's index is read in the drain and
both are written after the batch was submitted; each of them can fail. What a run does to the
indices is therefore told first for the part that writes (`Bench.Turns`), then for the whole run
(`Site.Rotates`).
-/

namespace PointExchange

/-! ## Indices -/

/-- The index after a stored one, which may be out of range, is the next one of a key. -/
theorem toNat_nextIndex {stored size : UInt64} (h : 0 < size.toNat) :
    (nextIndex (stored % poolModulus size) size).toNat = (stored.toNat + 1) % size.toNat := by
  have hne : size ≠ 0 := by
    rintro rfl
    exact Nat.lt_irrefl 0 h
  have hlt : stored.toNat % size.toNat < size.toNat := Nat.mod_lt _ h
  have hsize : size.toNat < 2 ^ 64 := size.toNat_lt
  -- the reduced index is below the size, so its successor does not overflow
  have hsum : (stored.toNat % size.toNat + 1) % 2 ^ 64 = stored.toNat % size.toNat + 1 :=
    Nat.mod_eq_of_lt (by omega)
  rw [nextIndex, poolModulus, if_neg hne, UInt64.toNat_mod, UInt64.toNat_add, UInt64.toNat_mod,
    UInt64.toNat_one, hsum, Nat.mod_add_mod]

/-- A stored index, reduced to the keys that there are. -/
theorem toNat_mod_poolModulus {stored size : UInt64} (h : 0 < size.toNat) :
    (stored % poolModulus size).toNat = stored.toNat % size.toNat := by
  have hne : size ≠ 0 := by
    rintro rfl
    exact Nat.lt_irrefl 0 h
  rw [poolModulus, if_neg hne, UInt64.toNat_mod]

namespace MemoryIndices

/-- The indices after the manager of a batch has had its turn. -/
def managed (x : MemoryIndices) (start : SimulatedChain) (b : Batch) : MemoryIndices :=
  match b.calls, b.managerIndex with
  | _ :: _, some j => { x with manager := nextIndex j (start.gateway.poolSize .manager) }
  | _, _ => x

/-- The indices after a relayer has had its turn. -/
def relayed (x : MemoryIndices) (start : SimulatedChain) (i : UInt64) : MemoryIndices :=
  { x with relayer := nextIndex i (start.gateway.poolSize .relayer) }

@[simp] theorem unavailable_managed (x : MemoryIndices) (start : SimulatedChain) (b : Batch) :
    (x.managed start b).unavailable = x.unavailable := by
  unfold managed
  split <;> rfl

end MemoryIndices

/-- The bench with other indices. -/
def Bench.withIndices (w : Bench SimulatedChain) (x : MemoryIndices) : Bench SimulatedChain :=
  { w with indices := x }

/-! ## The turns of a batch -/

section Turns

variable (start : SimulatedChain) {i : UInt64} {account : Address} {b : Batch}
  {w : Bench SimulatedChain}

theorem perform_setIndex (role : KeyRole) (index : UInt64) (w : Bench SimulatedChain) :
    (start.tools.indices.set role index).perform w =
      ((w.indices.set role index).1, w.withIndices (w.indices.set role index).2) := rfl

theorem rotate_manager (available : w.indices.unavailable = false) (j : UInt64) :
    (Runner.rotate start.tools .manager j).perform w =
      (.ok (.ok (nextIndex j (start.gateway.poolSize .manager))), w.withIndices
        { w.indices with manager := nextIndex j (start.gateway.poolSize .manager) }) := by
  have hset : w.indices.set .manager (nextIndex j (start.gateway.poolSize .manager)) =
      (.ok (), { w.indices with manager := nextIndex j (start.gateway.poolSize .manager) }) := by
    simp [MemoryIndices.set, available]
  rw [Runner.rotate, Call.perform_attempt, IndexAccess.advance, Call.perform_bind, perform_setIndex]
  rw [show start.tools.gateway.poolSize = start.gateway.poolSize from rfl, hset]
  rfl

theorem rotate_relayer (available : w.indices.unavailable = false) (j : UInt64) :
    (Runner.rotate start.tools .relayer j).perform w =
      (.ok (.ok (nextIndex j (start.gateway.poolSize .relayer))),
        w.withIndices (w.indices.relayed start j)) := by
  have hset : w.indices.set .relayer (nextIndex j (start.gateway.poolSize .relayer)) =
      (.ok (), w.indices.relayed start j) := by
    simp [MemoryIndices.set, available, MemoryIndices.relayed]
  rw [Runner.rotate, Call.perform_attempt, IndexAccess.advance, Call.perform_bind, perform_setIndex]
  rw [show start.tools.gateway.poolSize = start.gateway.poolSize from rfl, hset]
  rfl

/-- What sending the calls of a batch comes to when the indices can be reached: it goes on for good
before anybody has had a turn, or the manager of the batch has had one. -/
theorem sendCalls_turns (available : w.indices.unavailable = false) :
    ∃ v, Bench.SignsFor i b w v ∧
      ((∃ e, (Runner.sendCalls start.tools i account b).perform w = (.error e, v)) ∨
      ∃ o n, (Runner.sendCalls start.tools i account b).perform w =
        (.ok (o, .ok n), v.withIndices (v.indices.managed start b))) := by
  have hr := Bench.SignsFor.sendRespects start i b
  unfold Runner.sendCalls
  by_cases he : b.calls.isEmpty = true
  · rw [if_pos he]
    refine ⟨w, hr.refl w, .inr ⟨none, 0, ?_⟩⟩
    rw [MemoryIndices.managed, List.isEmpty_iff.mp he]
    rfl
  rw [if_neg he]
  have hne : b.calls ≠ [] := fun h0 => he (List.isEmpty_iff.mpr h0)
  have hs := hr.submitBatch hne account w
  rcases h : (submitBatch start.tools i account b).perform w with ⟨e | outcome, v⟩
  all_goals rw [h] at hs
  · exact ⟨v, hs, .inl ⟨e, Call.perform_bind_error h _⟩⟩
  refine ⟨v, hs, .inr ?_⟩
  rw [Call.perform_bind_ok h]
  obtain ⟨call, rest, hcalls⟩ := List.exists_cons_of_ne_nil hne
  rw [MemoryIndices.managed, hcalls]
  cases b.managerIndex with
  | none => exact ⟨some outcome, 0, rfl⟩
  | some j =>
    have hv : v.indices.unavailable = false := by rw [hs.indices, available]
    exact ⟨some outcome, _, Call.perform_bind_ok (rotate_manager start hv j) _⟩

/-- The relayer whose turn it is. -/
def MemoryIndices.relayerTurn (x : MemoryIndices) (start : SimulatedChain) : UInt64 :=
  x.relayer % poolModulus (start.gateway.poolSize .relayer)

/-- **What sending a batch comes to.** Everything is signed by the relayer whose turn it is. The
indices move when the sending is completed, and only then. -/
theorem send_turns (turns : Nat → List Turn) (stop : StopReason) :
    ∃ v, Bench.SignsFor (w.indices.relayerTurn start) b w v ∧
      ((∃ e, (Runner.send start.tools turns b stop).perform w = (.error e, v)) ∨
      ∃ report, report.calls = b.calls.length ∧ w.indices.unavailable = false ∧
        (Runner.send start.tools turns b stop).perform w = (.ok report, v.withIndices
          ((w.indices.managed start b).relayed start (w.indices.relayerTurn start)))) := by
  rcases send_cases start turns w b stop with ⟨e, -, h⟩ | ⟨i, k, ⟨⟨stored, hg, hi⟩, -⟩, h⟩
  · exact ⟨w, Bench.SignsFor.progression.refl w, .inl ⟨_, h⟩⟩
  have available : w.indices.unavailable = false := by
    by_cases hu : w.indices.unavailable = true
    · simp [MemoryIndices.get, hu] at hg
    · simpa using hu
  have hturn : w.indices.relayerTurn start = i := by
    simp only [MemoryIndices.get, available, if_false, Bool.false_eq_true, Except.ok.injEq] at hg
    rw [hi, ← hg]
    rfl
  rw [h, hturn]
  have hr := Bench.SignsFor.sendRespects start i b
  have hp := hr.sendPermits turns k.address w
  unfold Runner.sendBy
  rcases hs : (Runner.sendPermits start.tools turns i k.address b).perform w with ⟨e | count, w₁⟩
  all_goals rw [hs] at hp
  · exact ⟨w₁, hp, .inl ⟨e, Call.perform_bind_error hs _⟩⟩
  rw [Call.perform_bind_ok hs]
  have hw₁ : w₁.indices.unavailable = false := by rw [hp.indices, available]
  obtain ⟨v, hv, ⟨e, hc⟩ | ⟨o, n, hc⟩⟩ := sendCalls_turns start hw₁
  · exact ⟨v, hr.trans hp hv, .inl ⟨e, Call.perform_bind_error hc _⟩⟩
  refine ⟨v, hr.trans hp hv, .inr ⟨⟨count.sent, count.failed, b.calls.length, o, stop⟩, rfl,
    available, ?_⟩⟩
  have hindices : v.indices = w.indices := hv.indices.trans hp.indices
  have hmanaged : (v.withIndices (v.indices.managed start b)).indices.unavailable = false := by
    show (v.indices.managed start b).unavailable = false
    rw [MemoryIndices.unavailable_managed, hindices, available]
  rw [Call.perform_bind_ok hc, Call.perform_bind_ok (rotate_relayer start hmanaged i), ← hindices]
  rfl

end Turns

/-! ## The turns of a run -/

/-- The manager whose turn it is. -/
def MemoryIndices.managerTurn (x : MemoryIndices) (start : SimulatedChain) : UInt64 :=
  x.manager % poolModulus (start.gateway.poolSize .manager)

namespace Site

/-- A run from a site was completed. -/
def wasCompleted (_ : Site (Bench SimulatedChain)) :
    Except Interruption RunOutcome × Site (Bench SimulatedChain) → Bool
  | (.ok (.completed _), _) => true
  | _ => false

/-- A run from a site was completed and has sent calls and taken a deposit. -/
def usedManager (s : Site (Bench SimulatedChain)) :
    Except Interruption RunOutcome × Site (Bench SimulatedChain) → Bool
  | (.ok (.completed report), s') =>
    0 < report.calls && (s.queue.delivered s'.queue).any Message.isDeposit
  | _ => false

/-- What a run does to the indices, and which keys it signs with. -/
structure Rotates (start : SimulatedChain) (s : Site (Bench SimulatedChain))
    (res : Except Interruption RunOutcome × Site (Bench SimulatedChain)) : Prop where
  signed : ∃ ts, res.2.env.chain.signed = s.env.chain.signed ++ ts ∧
    ∀ t ∈ ts, t.relayerIndex = s.env.indices.relayerTurn start
  authorized : ∃ ds, res.2.env.chain.signedDeposits = s.env.chain.signedDeposits ++ ds ∧
    ∀ x ∈ ds, x.1 = s.env.indices.managerTurn start
  relayer : res.2.env.indices.relayer =
    if s.wasCompleted res then
      nextIndex (s.env.indices.relayerTurn start) (start.gateway.poolSize .relayer)
    else s.env.indices.relayer
  manager : res.2.env.indices.manager =
    if s.usedManager res then
      nextIndex (s.env.indices.managerTurn start) (start.gateway.poolSize .manager)
    else s.env.indices.manager
  kept : (∀ report, res.1 ≠ .ok (.completed report)) → res.2.env.indices = s.env.indices

end Site

section Run

variable {start : SimulatedChain} {s : Site (Bench SimulatedChain)}

/-- A run that is not completed, and leaves the indices alone. -/
theorem Site.Rotates.of_kept {res : Except Interruption RunOutcome}
    {s' : Site (Bench SimulatedChain)} (hres : ∀ report, res ≠ .ok (.completed report))
    (indices : s'.env.indices = s.env.indices)
    (signed : ∃ ts, s'.env.chain.signed = s.env.chain.signed ++ ts ∧
      ∀ t ∈ ts, t.relayerIndex = s.env.indices.relayerTurn start)
    (authorized : ∃ ds, s'.env.chain.signedDeposits = s.env.chain.signedDeposits ++ ds ∧
      ∀ x ∈ ds, x.1 = s.env.indices.managerTurn start) : s.Rotates start (res, s') := by
  refine ⟨signed, authorized, ?_, ?_, fun _ => indices⟩
  · rcases res with _ | _ | _ | report
    · exact congrArg MemoryIndices.relayer indices
    · exact congrArg MemoryIndices.relayer indices
    · exact congrArg MemoryIndices.relayer indices
    · exact absurd rfl (hres report)
  · rcases res with _ | _ | _ | report
    · exact congrArg MemoryIndices.manager indices
    · exact congrArg MemoryIndices.manager indices
    · exact congrArg MemoryIndices.manager indices
    · exact absurd rfl (hres report)

/-- What the drain of a run has signed, and whom it has made the manager of the batch. -/
theorem drain_authorizes {settings : BatchConfig} {l : MemoryLock}
    {d : Drained (Bench SimulatedChain)}
    (drain : (Drafting.mk {} (s.env.withLock l)).drain start.tools settings 0 s.queue = d) :
    Drafting.Authorizes start ((s.queue.delivered d.site.queue).any Message.isDeposit)
      ⟨{}, s.env.withLock l⟩ ⟨d.batch, d.site.env⟩ ∧
      d.site.env.chain.signed = s.env.chain.signed := by
  obtain ⟨ending, hc⟩ := course start.tools settings 0 s.queue ⟨{}, s.env.withLock l⟩
  obtain ⟨log, hd⟩ := drains start settings 0 s.queue ⟨{}, s.env.withLock l⟩
  rw [drain] at hc hd
  refine ⟨hc.authorizes ?_, (congrArg SimulatedChain.signed hd.quiet :)⟩
  intro j hj
  simp at hj

/-- The manager's index after a batch was sent. -/
theorem managed_eq (start : SimulatedChain) {x : MemoryIndices} {b : Batch}
    (turn : b.TurnOf start x) :
    (x.managed start b).manager =
      if 0 < b.calls.length && b.managerIndex.isSome then
        nextIndex (x.managerTurn start) (start.gateway.poolSize .manager)
      else x.manager := by
  unfold MemoryIndices.managed
  cases b.calls with
  | nil => simp
  | cons call rest =>
    cases hj : b.managerIndex with
    | none => simp
    | some j =>
      rw [turn j hj]
      simp [MemoryIndices.managerTurn]

/-- **A run signs with the keys whose turn it is, and lets the next ones take their turns if it is
completed.** -/
theorem Site.rotates (start : SimulatedChain) (how : Schedule) (s : Site (Bench SimulatedChain)) :
    s.Rotates start (s.run start how) := by
  have hcomes := s.comes start how
  generalize s.run start how = res at hcomes
  have hnone : ∀ {α : Type} (xs : List α) (P : α → Prop), ∃ ys, xs = xs ++ ys ∧ ∀ y ∈ ys, P y :=
    fun xs P => ⟨[], (List.append_nil xs).symm, by simp⟩
  cases hcomes with
  | unreadable e => exact .of_kept (by simp) rfl (hnone _ _) (hnone _ _)
  | skipped l => exact .of_kept (by simp) rfl (hnone _ _) (hnone _ _)
  | idle config l l' d settings drained drain empty =>
    obtain ⟨ha, hs⟩ := drain_authorizes drain
    exact .of_kept (by simp) ha.indices (hs ▸ hnone _ _) ha.signed
  | sent config l l' d res w settings drained drain empty sent =>
    obtain ⟨ha, hs⟩ := drain_authorizes drain
    have hindices : d.site.env.indices = s.env.indices := ha.indices
    obtain ⟨ds, hds, hkeys⟩ := ha.signed
    obtain ⟨v, ⟨-, hvi, hvd, ts, hts, htk⟩, hv⟩ :=
      send_turns start (w := d.site.env) (b := d.batch) how.turns d.stop
    rw [sent, hindices] at hv
    rw [hindices] at htk
    rw [hs] at hts
    have hsigned : ∃ ts, v.chain.signed = s.env.chain.signed ++ ts ∧
        ∀ t ∈ ts, t.relayerIndex = s.env.indices.relayerTurn start :=
      ⟨ts, hts, fun t ht => (htk t ht).key⟩
    have hauthorized : ∃ ds, v.chain.signedDeposits = s.env.chain.signedDeposits ++ ds ∧
        ∀ x ∈ ds, x.1 = s.env.indices.managerTurn start := ⟨ds, hvd.trans hds, hkeys⟩
    rcases hv with ⟨e, he⟩ | ⟨report, hcalls, available, he⟩
    · obtain ⟨rfl, rfl⟩ := Prod.mk.inj he
      exact .of_kept (by simp [Except.map]) (hvi.trans hindices) hsigned hauthorized
    · obtain ⟨rfl, rfl⟩ := Prod.mk.inj he
      refine ⟨hsigned, hauthorized, rfl, ?_, fun h => absurd rfl (h report)⟩
      -- the batch knows its manager just when a deposit was taken
      have hsettled : d.batch.managerIndex.isSome =
          (s.queue.delivered d.site.queue).any Message.isDeposit := ha.settled available
      have hmanager := managed_eq start (x := s.env.indices) ha.turn
      rw [hsettled, ← hcalls] at hmanager
      exact hmanager

end Run

/-! ## Histories -/

/-- What happens between two runs: anything at all, as long as nobody writes an index. Messages
come and go, collaborators fail and work again, settings change. -/
structure Interlude where
  act : Site (Bench SimulatedChain) → Site (Bench SimulatedChain)
  relayer (s : Site (Bench SimulatedChain)) :
    (act s).env.indices.relayer = s.env.indices.relayer
  manager (s : Site (Bench SimulatedChain)) :
    (act s).env.indices.manager = s.env.indices.manager

/-- Nothing happens. -/
def Interlude.idle : Interlude := ⟨id, fun _ => rfl, fun _ => rfl⟩

@[simp] theorem Interlude.act_idle (s : Site (Bench SimulatedChain)) : idle.act s = s := rfl

namespace Site

/-- The site after some runs, each of them after an interlude. -/
def after (start : SimulatedChain) :
    List (Interlude × Schedule) → Site (Bench SimulatedChain) → Site (Bench SimulatedChain)
  | [], s => s
  | (x, how) :: rest, s => after start rest ((x.act s).run start how).2

/-- How many of these runs pass a test. -/
def countRuns (start : SimulatedChain)
    (test : Site (Bench SimulatedChain) →
      Except Interruption RunOutcome × Site (Bench SimulatedChain) → Bool) :
    List (Interlude × Schedule) → Site (Bench SimulatedChain) → Nat
  | [], _ => 0
  | (x, how) :: rest, s =>
    (if test (x.act s) ((x.act s).run start how) then 1 else 0) +
      countRuns start test rest ((x.act s).run start how).2

variable {start : SimulatedChain}

/-- An index that goes on by one with each run that passes a test, and is left alone by all else,
counts these runs. -/
theorem stored_after {f : MemoryIndices → UInt64} {size : UInt64}
    {test : Site (Bench SimulatedChain) →
      Except Interruption RunOutcome × Site (Bench SimulatedChain) → Bool}
    (keys : 0 < size.toNat) (hact : ∀ (x : Interlude) s, f (x.act s).env.indices = f s.env.indices)
    (hrun : ∀ s how, f (run start how s).2.env.indices =
      if test s (run start how s) then nextIndex (f s.env.indices % poolModulus size) size
      else f s.env.indices)
    (past : List (Interlude × Schedule)) (s : Site (Bench SimulatedChain)) :
    (f (after start past s).env.indices).toNat =
      if countRuns start test past s = 0 then (f s.env.indices).toNat
      else ((f s.env.indices).toNat + countRuns start test past s) % size.toNat := by
  induction past generalizing s with
  | nil => simp [after, countRuns]
  | cons leg rest ih =>
    obtain ⟨x, how⟩ := leg
    have hr := hrun (x.act s) how
    rw [hact] at hr
    rw [after, ih, hr, countRuns]
    by_cases ht : test (x.act s) ((x.act s).run start how) = true
    · rw [if_pos ht, if_pos ht, toNat_nextIndex keys]
      generalize countRuns start test rest ((x.act s).run start how).2 = c
      by_cases hc : c = 0
      · simp [hc]
      · rw [if_neg hc, if_neg (by omega), Nat.mod_add_mod, Nat.add_assoc]
    · rw [if_neg ht, if_neg ht, Nat.zero_add]

end Site

/-- **Keys take turns over any history.** The index of the relayers counts the completed runs, the
index of the managers those among them that have sent calls and taken a deposit, each from where it
stood at first and modulo the number of keys. A run signs all its transactions with the relayer and
all its deposits with the manager at these indices; a run that is not completed moves neither. -/
theorem keys_take_turns (start : SimulatedChain) (s : Site (Bench SimulatedChain))
    (managers : 0 < (start.gateway.poolSize .manager).toNat)
    (relayers : 0 < (start.gateway.poolSize .relayer).toNat)
    (past : List (Interlude × Schedule)) (x : Interlude) (how : Schedule) :
    let stored := s.env.indices
    let completed := Site.countRuns start Site.wasCompleted past s
    let used := Site.countRuns start Site.usedManager past s
    let now := x.act (Site.after start past s)
    let res := now.run start how
    now.env.indices.relayer.toNat = (if completed = 0 then stored.relayer.toNat
      else (stored.relayer.toNat + completed) % (start.gateway.poolSize .relayer).toNat) ∧
    now.env.indices.manager.toNat = (if used = 0 then stored.manager.toNat
      else (stored.manager.toNat + used) % (start.gateway.poolSize .manager).toNat) ∧
    (∃ ts, res.2.env.chain.signed = now.env.chain.signed ++ ts ∧ ∀ t ∈ ts,
      t.relayerIndex.toNat =
        (stored.relayer.toNat + completed) % (start.gateway.poolSize .relayer).toNat) ∧
    (∃ ds, res.2.env.chain.signedDeposits = now.env.chain.signedDeposits ++ ds ∧ ∀ d ∈ ds,
      d.1.toNat = now.env.indices.manager.toNat % (start.gateway.poolSize .manager).toNat) ∧
    ((∀ report, res.1 ≠ .ok (.completed report)) → res.2.env.indices = now.env.indices) := by
  intro stored completed used now res
  have hr := now.rotates start how
  have hrelayer : now.env.indices.relayer.toNat = if completed = 0 then stored.relayer.toNat
      else (stored.relayer.toNat + completed) % (start.gateway.poolSize .relayer).toNat := by
    rw [x.relayer]
    exact Site.stored_after relayers Interlude.relayer
      (fun s how => (s.rotates start how).relayer) past s
  have hmanager : now.env.indices.manager.toNat = if used = 0 then stored.manager.toNat
      else (stored.manager.toNat + used) % (start.gateway.poolSize .manager).toNat := by
    rw [x.manager]
    exact Site.stored_after managers Interlude.manager
      (fun s how => (s.rotates start how).manager) past s
  refine ⟨hrelayer, hmanager, ?_, ?_, hr.kept⟩
  · obtain ⟨ts, hts, hkeys⟩ := hr.signed
    refine ⟨ts, hts, fun t ht => ?_⟩
    rw [hkeys t ht, MemoryIndices.relayerTurn, toNat_mod_poolModulus relayers, hrelayer]
    split
    next hc => rw [hc, Nat.add_zero]
    next => rw [Nat.mod_mod]
  · obtain ⟨ds, hds, hkeys⟩ := hr.authorized
    refine ⟨ds, hds, fun d hd => ?_⟩
    rw [hkeys d hd, MemoryIndices.managerTurn, toNat_mod_poolModulus managers]

theorem Site.signed_of_tally {s : Site (Bench SimulatedChain)}
    {r : Except Interruption RunOutcome × Site (Bench SimulatedChain)} {t : Tally}
    (h : s.tally r = t) : r.2.env.chain.signed.length = t.signed.1 ∧
      r.2.env.chain.signedDeposits.length = t.signed.2 := by
  subst h
  exact ⟨rfl, rfl⟩

theorem Site.used_of_tally {s : Site (Bench SimulatedChain)}
    {r : Except Interruption RunOutcome × Site (Bench SimulatedChain)} {permits calls left : Nat}
    {signed : Nat × Nat} (h : s.tally r = ⟨some (permits, calls + 1), true, left, signed⟩) :
    s.wasCompleted r = true ∧ s.usedManager r = true := by
  obtain ⟨res, s'⟩ := r
  obtain ⟨hres, hdeposit, -⟩ := by simpa only [tally, Tally.mk.injEq] using h
  obtain ⟨report, hreport, hsent⟩ := Option.map_eq_some_iff.mp hres
  obtain rfl := eq_completed_of_reportOf hreport
  refine ⟨rfl, ?_⟩
  rw [usedManager, hdeposit, (Prod.mk.inj hsent).2]
  rfl

theorem Site.countRuns_idle {start : SimulatedChain}
    {test : Site (Bench SimulatedChain) →
      Except Interruption RunOutcome × Site (Bench SimulatedChain) → Bool}
    {s : Site (Bench SimulatedChain)} (h : test s (s.run start {}) = true)
    (past : List (Interlude × Schedule)) :
    countRuns start test ((.idle, {}) :: past) s =
      1 + countRuns start test past (s.run start {}).2 := by
  rw [countRuns, Interlude.act_idle, if_pos h]

/-- Three runs one after another. -/
def Site.threeRuns : List (Interlude × Schedule) := [(.idle, {}), (.idle, {}), (.idle, {})]

theorem Site.after_one (start : SimulatedChain) (s : Site (Bench SimulatedChain)) :
    after start (threeRuns.take 1) s = (s.run start {}).2 := by
  rw [show threeRuns.take 1 = [(.idle, {})] from rfl, after, Interlude.act_idle, after]

/-- All runs on the assorted messages are completed and use the manager. -/
theorem Site.assorted_counts :
    let count := countRuns assorted.env.chain
    (count wasCompleted (threeRuns.take 1) assorted = 1 ∧
      count usedManager (threeRuns.take 1) assorted = 1) ∧
    count wasCompleted threeRuns assorted = 3 ∧ count usedManager threeRuns assorted = 3 := by
  obtain ⟨⟨t₁, t₂, t₃⟩, -⟩ := assorted_runs
  obtain ⟨c₁, u₁⟩ := used_of_tally t₁
  obtain ⟨c₂, u₂⟩ := used_of_tally t₂
  obtain ⟨c₃, u₃⟩ := used_of_tally t₃
  intro count
  refine ⟨⟨?_, ?_⟩, ?_, ?_⟩
  · exact countRuns_idle c₁ []
  · exact countRuns_idle u₁ []
  · show countRuns _ _ threeRuns _ = 3
    rw [threeRuns, countRuns_idle c₁, countRuns_idle c₂, countRuns_idle c₃, countRuns]
  · show countRuns _ _ threeRuns _ = 3
    rw [threeRuns, countRuns_idle u₁, countRuns_idle u₂, countRuns_idle u₃, countRuns]

/-- Two keys for each role, and three runs that use both: the second run signs a transaction and a
deposit with the second keys, and after the third one it is their turn again. -/
theorem keys_take_turns_assorted :
    ∃ start s₁ s₂ s₃, start = Site.assorted.env.chain ∧
      s₁ = Site.after start (Site.threeRuns.take 1) Site.assorted ∧ s₂ = (s₁.run start {}).2 ∧
      s₃ = Site.after start Site.threeRuns Site.assorted ∧
      (start.gateway.poolSize .manager, start.gateway.poolSize .relayer) = (2, 2) ∧
      (∃ t, s₂.env.chain.signed = s₁.env.chain.signed ++ [t] ∧ t.relayerIndex.toNat = 1) ∧
      (∃ d, s₂.env.chain.signedDeposits = s₁.env.chain.signedDeposits ++ [d] ∧ d.1.toNat = 1) ∧
      s₃.env.indices.relayer.toNat = 1 ∧ s₃.env.indices.manager.toNat = 1 := by
  have managers : 0 < (Site.assorted.env.chain.gateway.poolSize .manager).toNat := by decide
  have relayers : 0 < (Site.assorted.env.chain.gateway.poolSize .relayer).toNat := by decide
  obtain ⟨⟨completed₁, used₁⟩, completed₃, used₃⟩ := Site.assorted_counts
  have one := keys_take_turns Site.assorted.env.chain Site.assorted managers relayers
    (Site.threeRuns.take 1) .idle {}
  have three := keys_take_turns Site.assorted.env.chain Site.assorted managers relayers
    Site.threeRuns .idle {}
  rw [Interlude.act_idle, Site.after_one, completed₁, used₁] at one
  rw [Interlude.act_idle, completed₃, used₃] at three
  obtain ⟨-, hmanager, ⟨ts, hts, hrelayers⟩, ⟨ds, hds, hmanagers⟩, -⟩ := one
  obtain ⟨h₃, h₃', -⟩ := three
  -- how much the second run has signed is what the tallies differ by
  obtain ⟨⟨t₁, t₂, -⟩, -⟩ := Site.assorted_runs
  obtain ⟨signed₁, deposits₁⟩ := Site.signed_of_tally t₁
  obtain ⟨signed₂, deposits₂⟩ := Site.signed_of_tally t₂
  rw [hts, List.length_append, signed₁] at signed₂
  rw [hds, List.length_append, deposits₁] at deposits₂
  obtain ⟨t, rfl⟩ := List.length_eq_one_iff.mp (Nat.add_left_cancel signed₂)
  obtain ⟨d, rfl⟩ := List.length_eq_one_iff.mp (Nat.add_left_cancel deposits₂)
  refine ⟨_, _, _, _, rfl, rfl, rfl, rfl, rfl, ?_, ?_, h₃, h₃'⟩
  · rw [Site.after_one]
    exact ⟨t, hts, hrelayers t (List.mem_singleton_self t)⟩
  · rw [Site.after_one]
    have h := hmanagers d (List.mem_singleton_self d)
    rw [hmanager] at h
    exact ⟨d, hds, h⟩

end PointExchange
