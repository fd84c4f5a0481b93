import PointExchange.Run.Once

/-!
# The service in time

The service reads the interval once and then runs at every tick. A run that waits for the lock lets
time pass, and others act meanwhile: other services, and holders of the lock who give it back. A
timeline holds all that is going to happen, and `Timeline.advanceTo` lets it happen in the order of
time.

A tick that comes too late by more than `tickTolerance` moves the following ones; one that is late
by less does not.

An end is reached because every event either moves a service's next tick into the future or uses up
one of the attempts that a run has left.
-/

namespace PointExchange

variable {E : Type}

/-- What a service is doing. -/
inductive Phase
  /-- waiting for its next tick -/
  | idle
  /-- waiting until a time for another attempt to take the lock -/
  | acquiring (a : Acquisition) (time : Nat)
  /-- in a run that waits for good -/
  | stuck

/-- A service that is running. -/
structure Scheduler where
  /-- tells it from other services -/
  label : Nat
  /-- time between ticks, in milliseconds -/
  period : Nat
  positive : 0 < period
  /-- when the next tick is due -/
  due : Nat
  phase : Phase

/-- The present and what is going to happen. -/
structure Timeline (E : Type) where
  site : Site E
  /-- the time in milliseconds -/
  now : Nat := 0
  schedulers : List Scheduler := []
  releases : List PlannedRelease := []
  /-- the label of the next service -/
  nextLabel : Nat := 0

/-- By how many milliseconds a tick may be late without moving the following ones. -/
def tickTolerance : Nat := 5

namespace Scheduler

/-- When it acts next. -/
def next? (s : Scheduler) : Option Nat :=
  match s.phase with
  | .idle => some s.due
  | .acquiring _ time => some time
  | .stuck => none

/-- When the tick after the one that is due will be due, if that one comes now. -/
def dueAfter (s : Scheduler) (now : Nat) : Nat :=
  if s.due + tickTolerance < now then now + s.period else s.due + s.period

/-- Attempts that it has left, and the one that it is waiting for. -/
def attempts (s : Scheduler) : Nat :=
  match s.phase with
  | .acquiring a _ => a.left + 1
  | _ => 0

theorem lt_dueAfter (s : Scheduler) (now : Nat) : s.due < s.dueAfter now := by
  have := s.positive
  unfold dueAfter
  split <;> omega

/-- Makes an attempt to take the lock, and the run if it is settled. -/
def attempt (r : Runner E) (a : Acquisition) (now : Nat) (s : Scheduler) (site : Site E) :
    Scheduler × Site E :=
  match a.attempt r.lock site.env with
  | (.again b, env) => ({ s with phase := .acquiring b (now + b.delay) }, { site with env := env })
  | (.settled acquired, env) =>
    match r.finish acquired { site with env := env } with
    | (.error .waiting, site) => ({ s with phase := .stuck }, site)
    | (_, site) => ({ s with phase := .idle }, site)

/-- A tick: starts a run. A service that cannot read the settings any more ends. -/
def tick (r : Runner E) (now : Nat) (s : Scheduler) (site : Site E) : Option Scheduler × Site E :=
  match r.start site with
  | .error _ => (none, site)
  | .ok a =>
    let (s, site) := attempt r a now { s with due := s.dueAfter now } site
    (some s, site)

/-- What it does next. -/
def act (r : Runner E) (now : Nat) (s : Scheduler) (site : Site E) : Option Scheduler × Site E :=
  match s.phase with
  | .idle => s.tick r now site
  | .acquiring a _ =>
    let (s, site) := attempt r a now s site
    (some s, site)
  | .stuck => (some s, site)

theorem due_attempt (r : Runner E) (a : Acquisition) (now : Nat) (s : Scheduler) (site : Site E) :
    (attempt r a now s site).1.due = s.due := by
  unfold attempt
  split
  · rfl
  · split <;> rfl

theorem attempts_attempt (r : Runner E) (a : Acquisition) (now : Nat) (s : Scheduler)
    (site : Site E) : (attempt r a now s site).1.attempts ≤ a.left := by
  unfold attempt
  split
  next h => exact Acquisition.left_lt h
  next => split <;> exact Nat.zero_le _

end Scheduler

/-- The first element that a choice prefers to all others, with what stands around it. -/
def splitFirst {α : Type} (better : α → α → Bool) : List α → Option (List α × α × List α)
  | [] => none
  | a :: rest =>
    match splitFirst better rest with
    | none => some ([], a, rest)
    | some (before, b, after) =>
      if better b a then some (a :: before, b, after) else some ([], a, rest)

theorem eq_append_of_splitFirst {α : Type} {better : α → α → Bool} {l before after : List α} {a : α}
    (h : splitFirst better l = some (before, a, after)) : l = before ++ a :: after := by
  induction l generalizing before a after with
  | nil => simp [splitFirst] at h
  | cons x rest ih =>
    unfold splitFirst at h
    split at h
    next =>
      obtain ⟨rfl, rfl, rfl⟩ := h
      rfl
    next b c d hs =>
      split at h
      next =>
        obtain ⟨rfl, rfl, rfl⟩ := h
        rw [ih hs]
        rfl
      next =>
        obtain ⟨rfl, rfl, rfl⟩ := h
        rfl

namespace Timeline

/-- An earlier time, where none is later than all. -/
def earlier : Option Nat → Option Nat → Bool
  | some a, some b => a < b
  | some _, none => true
  | none, _ => false

/-- The service that acts next. -/
def nextScheduler? (t : Timeline E) : Option (List Scheduler × Scheduler × List Scheduler) :=
  splitFirst (fun a b => earlier a.next? b.next?) t.schedulers

/-- The release that happens next. -/
def nextRelease? (t : Timeline E) :
    Option (List PlannedRelease × PlannedRelease × List PlannedRelease) :=
  splitFirst (fun a b => a.time < b.time) t.releases

/-- What happens next. -/
inductive Event
  | service (before : List Scheduler) (s : Scheduler) (after : List Scheduler) (time : Nat)
  | release (before : List PlannedRelease) (p : PlannedRelease) (after : List PlannedRelease)

/-- The next action of a service before a time. -/
def serviceEvent? (t : Timeline E) (deadline : Nat) : Option Event :=
  match t.nextScheduler? with
  | some (before, s, after) =>
    match s.next? with
    | some time => if time < deadline then some (.service before s after time) else none
    | none => none
  | none => none

/-- The next release before a time. -/
def releaseEvent? (t : Timeline E) (deadline : Nat) : Option Event :=
  match t.nextRelease? with
  | some (before, p, after) => if p.time < deadline then some (.release before p after) else none
  | none => none

/-- The next event before a time. At the same time a service goes before a release. -/
def event? (t : Timeline E) (deadline : Nat) : Option Event :=
  match t.serviceEvent? deadline, t.releaseEvent? deadline with
  | some (.service b s a time), some (.release b' p a') =>
    if p.time < time then some (.release b' p a') else some (.service b s a time)
  | some e, _ => some e
  | none, e => e

/-- Lets an event happen. -/
def happen (r : Runner E) (t : Timeline E) : Event → Timeline E
  | .service before s after time =>
    let now := max t.now time
    let (s, site) := s.act r now t.site
    { t with site := site, now := now, schedulers := before ++ s.toList ++ after }
  | .release before p after =>
    { t with
      site := r.release p.holder t.site
      now := max t.now p.time
      releases := before ++ after }

/-- The sum of some numbers. -/
def total : List Nat → Nat
  | [] => 0
  | n :: r => n + total r

@[simp] theorem total_cons (n : Nat) (r : List Nat) : total (n :: r) = n + total r := rfl

@[simp] theorem total_append (a b : List Nat) : total (a ++ b) = total a + total b := by
  induction a with
  | nil => simp [total]
  | cons n r ih => simp [ih, Nat.add_assoc]

/-- What the services have before them until a time. -/
def ahead (t : Timeline E) (deadline : Nat) : Nat :=
  total (t.schedulers.map fun s => deadline - s.due)

/-- Attempts and releases that are left. -/
def left (t : Timeline E) : Nat := total (t.schedulers.map Scheduler.attempts) + t.releases.length

theorem serviceEvent?_eq_some {t : Timeline E} {deadline : Nat} {e : Event}
    (h : t.serviceEvent? deadline = some e) :
    ∃ before s after time, e = .service before s after time ∧
      t.schedulers = before ++ s :: after ∧ s.next? = some time ∧ time < deadline := by
  unfold serviceEvent? at h
  split at h
  next before s after hs =>
    split at h
    next time hn =>
      split at h
      next hlt =>
        exact
          ⟨before, s, after, time, (Option.some.inj h).symm, eq_append_of_splitFirst hs, hn, hlt⟩
      next => simp at h
    next => simp at h
  next => simp at h

theorem releaseEvent?_eq_some {t : Timeline E} {deadline : Nat} {e : Event}
    (h : t.releaseEvent? deadline = some e) :
    ∃ before p after, e = .release before p after ∧ t.releases = before ++ p :: after ∧
      p.time < deadline := by
  unfold releaseEvent? at h
  split at h
  next before p after hs =>
    split at h
    next hlt =>
      exact ⟨before, p, after, (Option.some.inj h).symm, eq_append_of_splitFirst hs, hlt⟩
    next => simp at h
  next => simp at h

/-- An event is one of a service or of a release. -/
theorem event?_eq_some {t : Timeline E} {deadline : Nat} {e : Event}
    (h : t.event? deadline = some e) :
    t.serviceEvent? deadline = some e ∨ t.releaseEvent? deadline = some e := by
  unfold event? at h
  split at h
  next hs hr =>
    split at h
    · exact .inr (hr.trans h)
    · exact .inl (hs.trans h)
  next hs _ => exact .inl (hs.trans h)
  next => exact .inr h

/-- **Every event brings a timeline nearer to its end.** -/
theorem happen_lt (r : Runner E) {t : Timeline E} {deadline : Nat} {e : Event}
    (h : t.event? deadline = some e) :
    Prod.Lex (· < ·) (· < ·) ((happen r t e).ahead deadline, (happen r t e).left)
      (t.ahead deadline, t.left) := by
  rcases event?_eq_some h with h | h
  · obtain ⟨before, s, after, time, rfl, hl, hn, hlt⟩ := serviceEvent?_eq_some h
    unfold Scheduler.next? at hn
    split at hn
    next hp =>
      apply Prod.Lex.left
      obtain rfl := Option.some.inj hn
      have hdue := s.lt_dueAfter (max t.now s.due)
      simp only [happen, ahead, Scheduler.act, hp, Scheduler.tick, hl]
      split
      · simp
        omega
      next =>
        simp [Scheduler.due_attempt]
        omega
    next a time' hp =>
      obtain rfl := Option.some.inj hn
      have hdue := Scheduler.due_attempt r a (max t.now time') s t.site
      have hatt := Scheduler.attempts_attempt r a (max t.now time') s t.site
      have hs : s.attempts = a.left + 1 := by simp [Scheduler.attempts, hp]
      have heq :
          (happen r t (.service before s after time')).ahead deadline = t.ahead deadline := by
        simp [happen, ahead, Scheduler.act, hp, hl, hdue]
      rw [heq]
      apply Prod.Lex.right
      simp [happen, left, Scheduler.act, hp, hl]
      omega
    next => simp at hn
  · obtain ⟨before, p, after, rfl, hl, -⟩ := releaseEvent?_eq_some h
    apply Prod.Lex.right
    simp [happen, left, hl]

/-- Lets everything happen that happens before a time, and lets it become that time. -/
def advanceTo (r : Runner E) (deadline : Nat) (t : Timeline E) : Timeline E :=
  match _h : t.event? deadline with
  | some e => advanceTo r deadline (happen r t e)
  | none => { t with now := max t.now deadline }
termination_by (t.ahead deadline, t.left)
decreasing_by exact happen_lt r _h

/-! ## Runs and services on a timeline -/

/-- The lock as one of the timeline. -/
def lock (r : Runner E) : LockAccess (Timeline E) :=
  let read (t : Timeline E) := t.site.env
  let write (e : E) (t : Timeline E) : Timeline E := { t with site := { t.site with env := e } }
  ⟨fun resource ttl => (r.lock.acquire resource ttl).inside read write,
    fun g => (r.lock.release g).inside read write⟩

/-- A run that starts now. Time passes while it waits for the lock, and guards are released
meanwhile as `releases` says. -/
def runOnce (r : Runner E) (releases : List PlannedRelease) (t : Timeline E) :
    Except Interruption RunOutcome × Timeline E :=
  match r.start t.site with
  | .error e => (.error (.failed e), t)
  | .ok a =>
    let pause (ms : Nat) (t : Timeline E) := t.advanceTo r (t.now + ms)
    let (acquired, t) := a.run (lock r) pause { t with releases := releases }
    let (outcome, site) := r.finish acquired t.site
    (outcome, { t with site := site, releases := [] })

/-- What has become of a service. -/
inductive ServiceStatus
  | running
  /-- it could not read the settings -/
  | faulted
  /-- it cannot tick without an interval -/
  | panicked
deriving DecidableEq

/-- Starts a service and looks at it after a time. -/
def serve (r : Runner E) (ms : Nat) (t : Timeline E) : ServiceStatus × Timeline E :=
  match r.config t.site.env with
  | .error _ => (.faulted, t)
  | .ok config =>
    let period := config.scheduler.runIntervalMs.toNat
    if h : 0 < period then
      let s : Scheduler := ⟨t.nextLabel, period, h, t.now, .idle⟩
      let t := { t with schedulers := t.schedulers ++ [s], nextLabel := t.nextLabel + 1 }
      let t := t.advanceTo r (t.now + ms)
      (if t.schedulers.any (·.label == s.label) then .running else .faulted, t)
    else (.panicked, t)

end Timeline
end PointExchange
