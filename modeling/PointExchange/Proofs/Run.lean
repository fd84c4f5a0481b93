import PointExchange.Proofs.Sending

/-!
# One run

A run over a simulated chain is skipped, or it drains the queue and sends what came of that. What
others do to the lock while the run waits for it, and in which turns the permits are broadcast, is
left open (`Schedule`).
-/

namespace PointExchange

/-- What a run does not decide itself: the turns of its broadcasts, and what happens to the lock
while it waits. -/
structure Schedule where
  turns : Nat → List Turn := Turn.rounds
  waiting : Nat → MemoryLock → MemoryLock := fun _ l => l

namespace Bench

/-- The bench with another lock. -/
def withLock (w : Bench SimulatedChain) (l : MemoryLock) : Bench SimulatedChain :=
  { w with lock := l }

/-- The bench while a run waits. -/
def pausing (how : Schedule) (ms : Nat) (w : Bench SimulatedChain) : Bench SimulatedChain :=
  w.withLock (how.waiting ms w.lock)

end Bench

/-- The runner of a schedule. -/
def SimulatedChain.runnerOf (start : SimulatedChain) (how : Schedule) :
    Runner (Bench SimulatedChain) :=
  { start.runner with turns := how.turns }

/-- One run. -/
def Site.run (start : SimulatedChain) (how : Schedule) (s : Site (Bench SimulatedChain)) :
    Except Interruption RunOutcome × Site (Bench SimulatedChain) :=
  (start.runnerOf how).runOnce (Bench.pausing how) s

/-- The drain of a run: what it has put together before it sends anything. There is none when the
run does not get as far. -/
def Site.drained (start : SimulatedChain) (how : Schedule) (s : Site (Bench SimulatedChain)) :
    Option (Drained (Bench SimulatedChain)) :=
  match (start.runnerOf how).start s with
  | .error _ => none
  | .ok a =>
    match a.run (start.runnerOf how).lock (Bench.pausing how) s.env with
    | (.ok (some _), env) => some (({ s with env := env } : Site _).drain start.tools)
    | _ => none

/-! ## The lock -/

/-- Nobody holds the lock that a run has to take. -/
def Site.LockFree (s : Site (Bench SimulatedChain)) : Prop :=
  s.env.lock.isHeld s.env.settings.config.scheduler.lockResource = false

/-- A resource that nobody holds is granted, and once the guard has given it back nobody holds it
again. -/
theorem MemoryLock.acquire_of_free {l : MemoryLock} {resource : String} (ttl : Nat)
    (h : l.isHeld resource = false) :
    ∃ g, (l.acquire resource ttl).1 = some g ∧
      ((l.acquire resource ttl).2.release g).isHeld resource = false := by
  have hf : isHeld { l with attempts := l.attempts + 1 } resource = false := h
  simp only [acquire, hf, Bool.false_eq_true, if_false, Option.some.injEq, exists_eq_left']
  rw [isHeld, active?, Option.isSome_eq_false_iff, Option.isNone_iff_eq_none, List.find?_eq_none]
  intro s hs
  rw [release, List.mem_filter] at hs
  -- the lease that was granted is given back, and all others are on other resources
  rcases List.mem_cons.mp hs.1 with rfl | hm
  · simp at hs
  · have hr := (List.mem_filter.mp hm).2
    simp only [bne_iff_ne, ne_eq] at hr
    simp [hr]

section Lock

variable (start : SimulatedChain) (how : Schedule)

theorem perform_acquire (resource : String) (ttl : Nat) (w : Bench SimulatedChain) :
    ((start.runnerOf how).lock.acquire resource ttl).perform w =
      (.ok (w.lock.acquire resource ttl).1, w.withLock (w.lock.acquire resource ttl).2) := rfl

/-- An attempt changes the lock only, and does not fail. It is made once if the lock is free. -/
theorem attempt_cases (a : Acquisition) (w : Bench SimulatedChain) :
    ∃ l, (∃ g, a.attempt (start.runnerOf how).lock w = (.settled (.ok g), w.withLock l) ∧
        (w.lock.isHeld a.resource = false →
          ∃ h, g = some h ∧ (l.release h).isHeld a.resource = false)) ∨
      ∃ b, a.attempt (start.runnerOf how).lock w = (.again b, w.withLock l) ∧
        w.lock.isHeld a.resource ≠ false := by
  refine ⟨(w.lock.acquire a.resource a.ttl).2, ?_⟩
  rw [Acquisition.attempt, perform_acquire]
  have hfree := fun h : w.lock.isHeld a.resource = false => MemoryLock.acquire_of_free a.ttl h
  generalize w.lock.acquire a.resource a.ttl = res at hfree ⊢
  rcases res with ⟨_ | g, l⟩
  · have held : w.lock.isHeld a.resource ≠ false := fun h => by
      obtain ⟨g, hg, -⟩ := hfree h
      simp at hg
    cases a.left with
    | zero => exact .inl ⟨none, rfl, fun h => absurd h held⟩
    | succ n => exact .inr ⟨_, rfl, held⟩
  · exact .inl ⟨some g, rfl, hfree⟩

/-- Waiting for the lock changes the lock only, and the lock does not fail. A lock that is free is
granted. -/
theorem acquisition_env (a : Acquisition) (w : Bench SimulatedChain) :
    ∃ g l, a.run (start.runnerOf how).lock (Bench.pausing how) w = (.ok g, w.withLock l) ∧
      (w.lock.isHeld a.resource = false →
        ∃ h, g = some h ∧ (l.release h).isHeld a.resource = false) := by
  fun_induction Acquisition.run a (start.runnerOf how).lock (Bench.pausing how) w with
  | case1 a w r w' h =>
    obtain ⟨l, ⟨g, hg, hf⟩ | ⟨b, hb, -⟩⟩ := attempt_cases start how a w
    · rw [hg] at h
      obtain ⟨hr, rfl⟩ := Prod.mk.inj h
      obtain rfl : .ok g = r := by simpa using hr
      exact ⟨g, l, rfl, hf⟩
    · rw [hb] at h
      simp at h
  | case2 a w b w' h ih =>
    obtain ⟨l, ⟨g, hg, -⟩ | ⟨b', hb, held⟩⟩ := attempt_cases start how a w
    · rw [hg] at h
      simp at h
    · rw [hb] at h
      obtain ⟨-, rfl⟩ := Prod.mk.inj h
      obtain ⟨g, l', hl, -⟩ := ih
      exact ⟨g, l', hl, fun h => absurd h held⟩

end Lock

variable (start : SimulatedChain) (how : Schedule)

/-! ## Cases of a run -/

/-- What a run comes to. -/
inductive Runs (start : SimulatedChain) (how : Schedule) (s : Site (Bench SimulatedChain)) :
    Except Interruption RunOutcome × Site (Bench SimulatedChain) → Prop
  | unreadable (e : RunError) (why : s.env.settings.poisoned = true)
    (drained : s.drained start how = none) : Runs start how s (.error (.failed e), s)
  | skipped (l : MemoryLock) (drained : s.drained start how = none) (held : ¬s.LockFree) :
    Runs start how s (.ok .skipped, { s with env := s.env.withLock l })
  | idle (config : Config) (l l' : MemoryLock) (log : List Fate)
    (d : Drained (Bench SimulatedChain)) (settings : s.env.settings.read = .ok config)
    (drained : s.drained start how = some d)
    (drains : Drains start config.batch 0 s.queue ⟨{}, s.env.withLock l⟩ log d)
    (empty : d.batch.isEmpty = true)
    (freed : s.LockFree → l'.isHeld config.scheduler.lockResource = false) :
    Runs start how s (.ok (.idle d.stop), ⟨d.site.queue, d.site.env.withLock l'⟩)
  | sent (config : Config) (l l' : MemoryLock) (log : List Fate)
    (d : Drained (Bench SimulatedChain)) (res : Except Interruption RunReport)
    (w : Bench SimulatedChain) (settings : s.env.settings.read = .ok config)
    (drained : s.drained start how = some d)
    (drains : Drains start config.batch 0 s.queue ⟨{}, s.env.withLock l⟩ log d)
    (empty : d.batch.isEmpty = false)
    (sends : Sends start how.turns d.site.env d.batch d.stop (res, w))
    (freed : res ≠ .error .waiting → s.LockFree →
      l'.isHeld config.scheduler.lockResource = false) :
    Runs start how s (res.map .completed, ⟨d.site.queue, w.withLock l'⟩)

/-- The end of a run that holds the lock: all that comes on top of the protected part is that the
lock is given back. A run that waits for good keeps it. -/
theorem finish_eq (g : LockGuard) (s : Site (Bench SimulatedChain)) :
    ∃ l, (start.runnerOf how).finish (.ok (some g)) s =
      (((start.runnerOf how).locked s).1, ⟨((start.runnerOf how).locked s).2.queue,
        ((start.runnerOf how).locked s).2.env.withLock l⟩) ∧
      (((start.runnerOf how).locked s).1 ≠ .error .waiting →
        l = ((start.runnerOf how).locked s).2.env.lock.release g) := by
  rw [Runner.finish]
  rcases (start.runnerOf how).locked s with ⟨(_ | _) | outcome, s'⟩
  · exact ⟨s'.env.lock.release g, rfl, fun _ => rfl⟩
  · exact ⟨s'.env.lock, rfl, fun h => absurd rfl h⟩
  · exact ⟨s'.env.lock.release g, rfl, fun _ => rfl⟩

/-- The protected part of a run, given its drain. -/
theorem locked_of_drain {s : Site (Bench SimulatedChain)} {d : Drained (Bench SimulatedChain)}
    (h : s.drain start.tools = d) :
    (start.runnerOf how).locked s =
      if d.batch.isEmpty then (.ok (.idle d.stop), d.site)
      else
        let res := (Runner.send start.tools how.turns d.batch d.stop).perform d.site.env
        (res.1.map .completed, ⟨d.site.queue, res.2⟩) := by
  subst h
  rfl

theorem read_error {c : SharedConfig} {e : ConfigError} (h : c.read = .error e) :
    c.poisoned = true := by
  by_cases hp : c.poisoned = true
  · exact hp
  · simp [SharedConfig.read, hp] at h

/-- A drain of a run. -/
theorem site_drains {s : Site (Bench SimulatedChain)} {config : Config}
    (h : s.env.settings.read = .ok config) :
    ∃ log, Drains start config.batch 0 s.queue ⟨{}, s.env⟩ log (s.drain start.tools) := by
  rw [Site.drain, show start.tools.config s.env = s.env.settings.read from rfl, h]
  exact drains start config.batch 0 s.queue ⟨{}, s.env⟩

theorem read_ok {c : SharedConfig} {config : Config} (h : c.read = .ok config) :
    c.config = config := by
  by_cases hp : c.poisoned = true
  · simp [SharedConfig.read, hp] at h
  · simpa [SharedConfig.read, hp] using h

/-- **A run comes to one of these.** -/
theorem runs (s : Site (Bench SimulatedChain)) (hr : s.env.chain.relayers = start.relayers) :
    Runs start how s (s.run start how) := by
  rw [Site.run, Runner.runOnce]
  cases hc : s.env.settings.read with
  | error e =>
    have hs : (start.runnerOf how).start s = .error (.config e) := by
      rw [Runner.start, show (start.runnerOf how).config s.env = s.env.settings.read from rfl, hc]
    rw [hs]
    exact .unreadable _ (read_error hc) (by rw [Site.drained, hs])
  | ok config =>
    obtain ⟨a, hs, hres⟩ : ∃ a, (start.runnerOf how).start s = .ok a ∧
        a.resource = config.scheduler.lockResource := by
      rw [Runner.start, show (start.runnerOf how).config s.env = s.env.settings.read from rfl, hc]
      exact ⟨_, rfl, rfl⟩
    have hlock : s.LockFree → s.env.lock.isHeld a.resource = false := by
      rw [Site.LockFree, read_ok hc, hres]
      exact id
    obtain ⟨g, l, ha, hfree⟩ := acquisition_env start how a s.env
    rw [hres] at hfree
    rw [hs]
    simp only [ha]
    cases g with
    | none =>
      refine .skipped l (by rw [Site.drained, hs]; simp only [ha]) fun h => ?_
      obtain ⟨g, hg, -⟩ := hfree (hres ▸ hlock h)
      simp at hg
    | some g =>
      have hrelease : s.LockFree → (l.release g).isHeld config.scheduler.lockResource = false := by
        intro h
        obtain ⟨g', hg, hr⟩ := hfree (hres ▸ hlock h)
        rwa [Option.some.inj hg]
      obtain ⟨log, hd⟩ := site_drains start (s := { s with env := s.env.withLock l }) hc
      have hdr : s.drained start how = some
          (({ s with env := s.env.withLock l } : Site _).drain start.tools) := by
        rw [Site.drained, hs]
        simp only [ha]
      obtain ⟨l', hl, hl'⟩ := finish_eq start how g { s with env := s.env.withLock l }
      have hk := locked_of_drain start how (s := { s with env := s.env.withLock l }) rfl
      generalize ({ s with env := s.env.withLock l } : Site _).drain start.tools = d at hd hdr hk
      rw [hl, hk]
      rw [hk] at hl'
      obtain ⟨back, -, henv⟩ := hd.env
      have hdl : d.site.env.lock = l := (congrArg Bench.lock henv :)
      by_cases he : d.batch.isEmpty = true
      · rw [if_pos he] at hl' ⊢
        refine .idle config l l' log d hc hdr hd he fun h => ?_
        rw [hl' (by simp), hdl]
        exact hrelease h
      · rw [if_neg he] at hl' ⊢
        have hr' : d.site.env.chain.relayers = start.relayers :=
          (congrArg SimulatedChain.relayers hd.quiet :).trans hr
        have hp : ∀ p ∈ d.batch.permits, IsPermit p := fun p hp =>
          (hd.grows.permits p hp).resolve_left List.not_mem_nil
        have hsends := sends start how.turns d.site.env d.batch d.stop hr' hp
        refine .sent config l l' log d _ _ hc hdr hd (by simpa using he) hsends fun hw h => ?_
        rw [hl' ?_, hsends.keeps.lock, hdl]
        · exact hrelease h
        · intro hx
          apply hw
          simp only at hx
          revert hx
          cases ((Runner.send start.tools how.turns d.batch d.stop).perform d.site.env).1 with
          | error e => simp [Except.map]
          | ok r => simp [Except.map]

/-- **A run that drains the queue sends what came of it,** and then gives the lock back. -/
theorem Site.run_of_drained {s : Site (Bench SimulatedChain)} {d : Drained (Bench SimulatedChain)}
    (h : s.drained start how = some d) :
    ∃ l l' log, Drains start s.env.settings.config.batch 0 s.queue ⟨{}, s.env.withLock l⟩ log d ∧
      s.run start how =
        if d.batch.isEmpty then (.ok (.idle d.stop), ⟨d.site.queue, d.site.env.withLock l'⟩)
        else
          let res := (Runner.send start.tools how.turns d.batch d.stop).perform d.site.env
          (res.1.map .completed, ⟨d.site.queue, res.2.withLock l'⟩) := by
  rw [Site.run, Runner.runOnce]
  rw [Site.drained] at h
  have hread : (start.runnerOf how).config s.env = s.env.settings.read := rfl
  rw [Runner.start, hread] at h ⊢
  cases hc : s.env.settings.read with
  | error e => simp [hc] at h
  | ok config =>
    simp only [hc] at h ⊢
    obtain ⟨g, l, ha, -⟩ := acquisition_env start how ⟨config.scheduler.lockResource,
      config.scheduler.lockTtlMs.toNat, config.scheduler.lockRetryDelayMs.toNat,
      config.scheduler.lockRetryCount.toNat⟩ s.env
    simp only [ha] at h ⊢
    cases g with
    | none => simp at h
    | some g =>
      obtain rfl := Option.some.inj h
      obtain ⟨log, hd⟩ := site_drains start (s := { s with env := s.env.withLock l }) hc
      obtain ⟨l', hl, -⟩ := finish_eq start how g { s with env := s.env.withLock l }
      refine ⟨l, l', log, read_ok hc ▸ hd, ?_⟩
      rw [hl, locked_of_drain start how rfl]
      split <;> rfl

/-- A run that is completed has sent the batch of its drain. -/
theorem Runs.sends {start : SimulatedChain} {how : Schedule} {s s' : Site (Bench SimulatedChain)}
    {report : RunReport} (h : Runs start how s (.ok (.completed report), s')) :
    ∃ l l' log d w, s.drained start how = some d ∧
      Drains start s.env.settings.config.batch 0 s.queue ⟨{}, s.env.withLock l⟩ log d ∧
      Sends start how.turns d.site.env d.batch d.stop (.ok report, w) ∧
      s' = ⟨d.site.queue, w.withLock l'⟩ := by
  generalize hx : (Except.ok (RunOutcome.completed report), s') = x at h
  cases h with
  | unreadable | skipped | idle => simp at hx
  | sent config l l' log d res w settings drained drains empty sends =>
    obtain ⟨h₁, rfl⟩ := Prod.mk.inj hx
    obtain rfl : res = .ok report := by
      cases res with
      | error e => simp [Except.map] at h₁
      | ok r => simpa [Except.map] using h₁.symm
    rw [← read_ok settings] at drains
    exact ⟨l, l', log, d, w, drained, drains, sends, rfl⟩

/-- **A run signs its batch once at most, and each of its permits.** -/
theorem Site.signed_run (s : Site (Bench SimulatedChain))
    (keys : s.env.chain.relayers = start.relayers) {bound : Nat}
    (le : ∀ d, s.drained start how = some d →
      d.batch.permits.length + min d.batch.calls.length 1 ≤ bound) :
    ∃ ts, ts.length ≤ bound ∧
      (s.run start how).2.env.chain.signed = s.env.chain.signed ++ ts := by
  cases hd : s.drained start how with
  | none =>
    have hruns := runs start how s keys
    generalize s.run start how = res at hruns
    cases hruns with
    | unreadable | skipped => exact ⟨[], Nat.zero_le _, (List.append_nil _).symm⟩
    | idle config l l' log d settings drained => simp [hd] at drained
    | sent config l l' log d res w settings drained => simp [hd] at drained
  | some d =>
    obtain ⟨l, l', log, drains, hrun⟩ := Site.run_of_drained start how hd
    have hquiet : d.site.env.chain.signed = s.env.chain.signed :=
      (congrArg SimulatedChain.signed drains.quiet :)
    rw [hrun]
    by_cases he : d.batch.isEmpty = true
    · rw [if_pos he]
      exact ⟨[], Nat.zero_le _, by rw [List.append_nil]; exact hquiet⟩
    · rw [if_neg he]
      obtain ⟨ts, hl, hs⟩ := signed_send start how.turns d.site.env d.batch d.stop
      exact ⟨ts, Nat.le_trans hl (le d hd), by rw [← hquiet]; exact hs⟩

/-- A run over a queue without permits signs one transaction at most. -/
theorem Site.signed_run_of_no_permits (s : Site (Bench SimulatedChain))
    (keys : s.env.chain.relayers = start.relayers)
    (hq : ∀ m ∈ messagesOf s.queue.payloads, ¬m.HasPermit) :
    ∃ ts, ts.length ≤ 1 ∧ (s.run start how).2.env.chain.signed = s.env.chain.signed ++ ts := by
  apply Site.signed_run start how s keys
  intro d hd
  obtain ⟨l, l', log, drains, -⟩ := Site.run_of_drained start how hd
  rw [drains.permits_eq_nil rfl hq, List.length_nil, Nat.zero_add]
  exact Nat.min_le_right _ _

/-! ## What runs leave as it is -/

theorem Drains.keeps {start : SimulatedChain} {settings : BatchConfig} {n : Nat}
    {q : MessageQueue} {d : Drafting (Bench SimulatedChain)} {log : List Fate}
    {r : Drained (Bench SimulatedChain)} (h : Drains start settings n q d log r) :
    d.env.Keeps r.site.env := by
  obtain ⟨back, -, henv⟩ := h.env
  have hl : r.site.env.ledger = d.env.ledger.failAll (failedOf log ++ back) :=
    (congrArg Bench.ledger henv :)
  have hr := SimulatedChain.Reaches.of_quiet h.quiet
  exact ⟨hr.bare, hr.signed, by rw [hl, (MemoryLedger.frame_failAll _ _).2],
    (congrArg (fun w => w.indices.unavailable) henv :), (congrArg Bench.lock henv :),
    (congrArg Bench.settings henv :)⟩

theorem Bench.Keeps.of_withLock {w w' : Bench SimulatedChain} {l l' : MemoryLock}
    (h : (w.withLock l).Keeps w') : w.Keeps ((w'.withLock l').withLock w.lock) :=
  ⟨h.bare, h.signed, h.failsCommit, h.unavailable, rfl, h.settings⟩

/-- **A run leaves everything but the lock as `Keeps` says, and the queue available if it was.** -/
theorem Runs.keeps {start : SimulatedChain} {how : Schedule} {s : Site (Bench SimulatedChain)}
    {res : Except Interruption RunOutcome × Site (Bench SimulatedChain)}
    (h : Runs start how s res) :
    s.env.Keeps (res.2.env.withLock s.env.lock) ∧
      res.2.queue.unavailable = s.queue.unavailable := by
  cases h with
  | unreadable | skipped => exact ⟨.refl s.env, rfl⟩
  | idle config l l' log d settings drained drains =>
    exact ⟨.of_withLock drains.keeps, drains.unavailable⟩
  | sent config l l' log d res w settings drained drains empty sends =>
    exact ⟨.of_withLock (drains.keeps.trans sends.keeps), drains.unavailable⟩

end PointExchange
