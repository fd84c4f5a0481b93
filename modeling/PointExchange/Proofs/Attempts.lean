import Mathlib.Order.Bounds.Defs
import PointExchange.Proofs.Leases

/-!
# Attempts to take the lock

An acquisition asks until it gets a guard or an error, or has no attempts left. What it does is told
for a lock that answers by a script and keeps a record (`ScriptedLock`): pairs of a refused attempt
and a pause, and one last attempt whose answer is the result (`run_scripted`). So it holds no guard
but the one that it returns, and does not wait behind its last attempt.

A lock in memory that somebody holds refuses every attempt until it is given back. The invariant
(`AwaitedLock.HeldFor`) goes from one attempt to the next, with what is left of the time until then
(`HeldFor.wait`); the first attempt after it gets the lock (`HeldFor.freed`).
-/

namespace PointExchange

/-! ## The rounds of an acquisition -/

namespace Acquisition

variable {E : Type} {a b : Acquisition} {lock : LockAccess E} {pause : Nat → E → E} {e e' : E}
  {r : Except LockError (Option LockGuard)}

theorem run_of_settled (h : a.attempt lock e = (.settled r, e')) :
    a.run lock pause e = (r, e') := by
  rw [run]
  split <;> simp_all

theorem run_of_again (h : a.attempt lock e = (.again b, e')) :
    a.run lock pause e = b.run lock pause (pause b.delay e') := by
  rw [run]
  split <;> simp_all

/-- An answer that decides, or that is the last one, is the result. -/
theorem run_of_decided (h : (lock.acquire a.resource a.ttl).perform e = (r, e'))
    (decided : r ≠ .ok none ∨ a.left = 0) : a.run lock pause e = (r, e') := by
  refine run_of_settled ?_
  unfold attempt
  rw [h]
  split
  next refused =>
    obtain ⟨rfl, rfl⟩ := Prod.mk.inj refused
    rw [decided.resolve_left (by simp)]
  next => simp_all

/-- After a refusal there is a pause and another attempt, while some are left. -/
theorem run_of_refused {n : Nat} (h : (lock.acquire a.resource a.ttl).perform e = (.ok none, e'))
    (left : a.left = n + 1) :
    a.run lock pause e = Acquisition.run { a with left := n } lock pause (pause a.delay e') := by
  refine run_of_again (b := { a with left := n }) ?_
  unfold attempt
  rw [h]
  simp only [left]

end Acquisition

/-! ## A lock that answers by a script -/

/-- What somebody does who wants a lock. -/
inductive LockEvent
  | attempt (answer : Except LockError (Option LockGuard))
  | wait (ms : Nat)

namespace LockEvent

def isAttempt : LockEvent → Bool
  | .attempt _ => true
  | .wait _ => false

/-- The guard that was got. -/
def guard? : LockEvent → Option LockGuard
  | .attempt (.ok g) => g
  | _ => none

def wait? : LockEvent → Option Nat
  | .wait ms => some ms
  | .attempt _ => none

end LockEvent

/-- A lock with an answer for each attempt, and a record of what was done, oldest first. -/
structure ScriptedLock where
  answers : Nat → Except LockError (Option LockGuard)
  events : List LockEvent := []

namespace ScriptedLock

def attempts (w : ScriptedLock) : Nat := w.events.countP LockEvent.isAttempt

def waits (w : ScriptedLock) : List Nat := w.events.filterMap LockEvent.wait?

/-- All guards that were handed out. -/
def guards (w : ScriptedLock) : List LockGuard := w.events.filterMap LockEvent.guard?

def record (w : ScriptedLock) (events : List LockEvent) : ScriptedLock :=
  { w with events := w.events ++ events }

def access : LockAccess ScriptedLock where
  acquire _ _ := .of fun w => (w.answers w.attempts, w.record [.attempt (w.answers w.attempts)])
  release _ := .of fun w => (.ok (), w)

def pause (ms : Nat) (w : ScriptedLock) : ScriptedLock := w.record [.wait ms]

/-- Refused attempts with a pause behind each of them. -/
def refusals (delay m : Nat) : List LockEvent :=
  (List.replicate m [.attempt (.ok none), .wait delay]).flatten

variable {w : ScriptedLock} {delay m : Nat}

theorem refusals_succ :
    refusals delay (m + 1) = .attempt (.ok none) :: .wait delay :: refusals delay m := by
  simp [refusals, List.replicate_succ]

@[simp] theorem record_record (xs ys : List LockEvent) :
    (w.record xs).record ys = w.record (xs ++ ys) := by
  simp [record]

theorem attempts_record (events : List LockEvent) :
    (w.record events).attempts = w.attempts + events.countP LockEvent.isAttempt := by
  simp [attempts, record]

/-- **What an acquisition does:** it is refused `m` times, and then comes the last attempt, either
because it decides or because there are no more. -/
theorem run_scripted (a : Acquisition) (w : ScriptedLock) : ∃ m ≤ a.left,
    (∀ i < m, w.answers (w.attempts + i) = .ok none) ∧
    (m = a.left ∨ w.answers (w.attempts + m) ≠ .ok none) ∧
    a.run access pause w = (w.answers (w.attempts + m),
      w.record (refusals a.delay m ++ [.attempt (w.answers (w.attempts + m))])) := by
  obtain ⟨resource, ttl, delay, left⟩ := a
  induction left generalizing w with
  | zero =>
    exact ⟨0, Nat.le_refl 0, by simp, .inl rfl, Acquisition.run_of_decided rfl (.inr rfl)⟩
  | succ n ih =>
    by_cases held : w.answers w.attempts = .ok none
    · let next := w.record [.attempt (.ok none), .wait delay]
      have count : next.attempts = w.attempts + 1 := attempts_record _
      obtain ⟨m, hm, refused, last, run⟩ := ih next
      have shift : ∀ i, next.attempts + i = w.attempts + (i + 1) := fun i => by omega
      refine ⟨m + 1, Nat.succ_le_succ hm, ?_, ?_, ?_⟩
      · intro i hi
        cases i with
        | zero => exact held
        | succ i => exact shift i ▸ refused i (Nat.lt_of_succ_lt_succ hi)
      · exact shift m ▸ last.imp_left (congrArg Nat.succ)
      · have first : (access.acquire resource ttl).perform w =
            (.ok none, w.record [.attempt (.ok none)]) := by
          rw [← held]
          rfl
        have paused : pause delay (w.record [.attempt (.ok none)]) = next := record_record _ _
        rw [Acquisition.run_of_refused first rfl, paused, run, shift, record_record, refusals_succ]
        rfl
    · exact ⟨0, Nat.zero_le _, by simp, .inr held, Acquisition.run_of_decided rfl (.inl held)⟩

theorem countP_refusals : (refusals delay m).countP LockEvent.isAttempt = m := by
  induction m with
  | zero => rfl
  | succ m ih =>
    rw [refusals_succ, List.countP_cons_of_pos rfl,
      List.countP_cons_of_neg (by simp [LockEvent.isAttempt]), ih]

theorem filterMap_wait?_refusals :
    (refusals delay m).filterMap LockEvent.wait? = List.replicate m delay := by
  induction m with
  | zero => rfl
  | succ m ih =>
    have one : LockEvent.wait? (.wait delay) = some delay := rfl
    rw [refusals_succ, List.filterMap_cons_none rfl, List.filterMap_cons_some one, ih]
    rfl

theorem filterMap_guard?_refusals : (refusals delay m).filterMap LockEvent.guard? = [] := by
  induction m with
  | zero => rfl
  | succ m ih => rw [refusals_succ, List.filterMap_cons_none rfl, List.filterMap_cons_none rfl, ih]

section Record

variable {answer : Except LockError (Option LockGuard)}
  {answers : Nat → Except LockError (Option LockGuard)}

theorem attempts_refusals :
    attempts ⟨answers, refusals delay m ++ [.attempt answer]⟩ = m + 1 := by
  rw [attempts, List.countP_append, countP_refusals]
  rfl

theorem waits_refusals :
    waits ⟨answers, refusals delay m ++ [.attempt answer]⟩ = List.replicate m delay := by
  rw [waits, List.filterMap_append, filterMap_wait?_refusals]
  exact List.append_nil _

theorem guards_refusals :
    guards ⟨answers, refusals delay m ++ [.attempt answer]⟩ =
      (LockEvent.attempt answer).guard?.toList := by
  rw [guards, List.filterMap_append, filterMap_guard?_refusals, List.nil_append]
  cases h : (LockEvent.attempt answer).guard? <;> simp [h]

end Record

/-- From the first attempt on there is nothing in the record but what the acquisition did. -/
theorem run_from_start (a : Acquisition) (answers : Nat → Except LockError (Option LockGuard)) :
    ∃ m ≤ a.left, (∀ i < m, answers i = .ok none) ∧ (m = a.left ∨ answers m ≠ .ok none) ∧
      a.run access pause ⟨answers, []⟩ =
        (answers m, ⟨answers, refusals a.delay m ++ [.attempt (answers m)]⟩) := by
  obtain ⟨m, hm, refused, last, run⟩ := run_scripted a ⟨answers, []⟩
  have first : ∀ i, attempts ⟨answers, []⟩ + i = i := Nat.zero_add
  simp only [first] at refused last run
  exact ⟨m, hm, refused, last, run⟩

end ScriptedLock

/-! ## A lock that is held for a while -/

namespace AwaitedLock

/-- The times behind `t` at which there is an attempt in every `delay`. -/
def attemptsBehind (delay t : Nat) : Set Nat := {x | delay ∣ x ∧ t < x}

theorem isLeast_attemptsBehind_of_lt {delay t : Nat} (soon : t < delay) :
    IsLeast (attemptsBehind delay t) delay :=
  ⟨⟨Nat.dvd_refl delay, soon⟩, fun _ ⟨multiple, behind⟩ =>
    Nat.le_of_dvd (Nat.zero_lt_of_lt behind) multiple⟩

/-- A pause moves the times of the attempts. -/
theorem isLeast_attemptsBehind_add {delay t x : Nat} (later : delay ≤ t)
    (h : IsLeast (attemptsBehind delay (t - delay)) x) :
    IsLeast (attemptsBehind delay t) (delay + x) := by
  obtain ⟨⟨multiple, behind⟩, least⟩ := h
  refine ⟨⟨(Nat.dvd_add_right (Nat.dvd_refl delay)).mpr multiple, by omega⟩, ?_⟩
  rintro y ⟨multiple, behind⟩
  have := least ⟨Nat.dvd_sub multiple (Nat.dvd_refl delay), by omega⟩
  omega

/-- Lets time pass for those who wait, and by another clock for the leases. -/
def passing (measured : Nat → Nat) (ms : Nat) (w : AwaitedLock) : AwaitedLock :=
  { w.pass ms with lock := (w.pass ms).lock.elapse (measured ms) }

/-- If the clock of the leases stands still, time passes for those who wait alone. -/
example : passing (fun _ => 0) = pass := rfl

/-- Somebody holds the resource and is going to give it back after a time `t`. At no attempt before
that the lease has run out, if there is one in every `delay`; the clock of the leases goes on by
`tick` meanwhile. -/
structure HeldFor (w : AwaitedLock) (resource : String) (s : Lease) (delay tick t : Nat) :
    Prop where
  leased : s ∈ w.lock.leases
  own : s.resource = resource
  alone : ∀ x ∈ w.lock.leases, x.resource = resource → x = s
  release : w.releases = [⟨w.now + t, s.holder⟩]
  lasts : ∀ j, j * delay < t → w.lock.now + j * tick < s.expires

/-- The lock after an attempt that it refused. -/
def refused (w : AwaitedLock) : AwaitedLock :=
  { w with lock := { w.lock with attempts := w.lock.attempts + 1 } }

section Attempt

variable {w : AwaitedLock} {resource : String} {ttl : Nat}

theorem perform_acquire (w : AwaitedLock) (resource : String) (ttl : Nat) :
    (access.acquire resource ttl).perform w =
      (.ok (w.lock.acquire resource ttl).1, { w with lock := (w.lock.acquire resource ttl).2 }) :=
  rfl

theorem perform_of_isHeld (held : w.lock.isHeld resource = true) :
    (access.acquire resource ttl).perform w = (.ok none, w.refused) := by
  rw [perform_acquire, MemoryLock.acquire_of_isHeld ttl held]
  rfl

theorem perform_of_free (ttl : Nat) (free : w.lock.isHeld resource = false) :
    ∃ g l, (access.acquire resource ttl).perform w = (.ok (some g), { w with lock := l }) ∧
      g.resource = resource := by
  rcases w.lock.acquire_cases resource ttl with ⟨held, -⟩ | ⟨-, granted⟩
  · exact absurd (free.symm.trans held) Bool.false_ne_true
  · rw [perform_acquire, granted]
    exact ⟨_, _, rfl, rfl⟩

end Attempt

section Release

variable {w : AwaitedLock} {g : LockGuard} {ms t : Nat}

theorem pass_before (release : w.releases = [⟨w.now + t, g⟩]) (early : ms ≤ t) :
    w.pass ms = { w with now := w.now + ms } := by
  have later : ¬w.now + t < w.now + ms := by omega
  have kept : w.now + ms ≤ w.now + t := by omega
  simp [pass, release, later, kept]

theorem pass_behind (release : w.releases = [⟨w.now + t, g⟩]) (late : t < ms) :
    w.pass ms = ⟨w.lock.release g, w.now + ms, []⟩ := by
  have due : w.now + t < w.now + ms := by omega
  have gone : ¬w.now + ms ≤ w.now + t := by omega
  simp [pass, release, due, gone]

end Release

namespace HeldFor

variable {w : AwaitedLock} {resource : String} {s : Lease} {delay t : Nat}
  {measured : Nat → Nat} (h : w.HeldFor resource s delay (measured delay) t)

include h

theorem isHeld (later : 0 < t) : w.lock.isHeld resource = true := by
  have lasts : w.lock.now < s.expires := by simpa using h.lasts 0 (by omega)
  rw [MemoryLock.isHeld, MemoryLock.active?, List.find?_isSome]
  exact ⟨s, h.leased, by simp [h.own, lasts]⟩

/-- As long as it is not given back, a refused attempt and a pause only bring that nearer. -/
theorem wait (later : delay ≤ t) :
    (passing measured delay w.refused).HeldFor resource s delay (measured delay) (t - delay) := by
  have passed : w.refused.pass delay = { w.refused with now := w.now + delay } :=
    pass_before h.release later
  rw [passing, passed]
  refine ⟨h.leased, h.own, h.alone, ?_, fun j hj => ?_⟩
  · have rest : w.now + delay + (t - delay) = w.now + t := by omega
    show w.releases = [⟨w.now + delay + (t - delay), s.holder⟩]
    rw [rest, h.release]
  · have lasts := h.lasts (j + 1) (by rw [Nat.succ_mul]; omega)
    rw [Nat.succ_mul] at lasts
    show w.lock.now + measured delay + j * measured delay < s.expires
    omega

/-- The first attempt after it was given back finds the resource free. -/
theorem freed (soon : t < delay) :
    (passing measured delay w.refused).lock.isHeld resource = false := by
  have passed : w.refused.pass delay = ⟨w.refused.lock.release s.holder, w.now + delay, []⟩ :=
    pass_behind h.release soon
  rw [passing, passed, MemoryLock.isHeld, MemoryLock.active?, Option.isSome_eq_false_iff,
    Option.isNone_iff_eq_none, List.find?_eq_none]
  intro x hx active
  obtain ⟨leased, kept⟩ := List.mem_filter.mp hx
  have of_resource : x.resource = resource := by simp_all
  obtain rfl := h.alone x leased of_resource
  simp [Lease.holder] at kept

/-- **Waiting for a lock that is given back after a time `t`.** If there are attempts behind that
time the first of them gets it, otherwise none does. -/
theorem run (between : ¬delay ∣ t) (ttl left : Nat) :
    (t < left * delay → ∃ g w', Acquisition.run ⟨resource, ttl, delay, left⟩ access
        (passing measured) w = (.ok (some g), w') ∧ g.resource = resource ∧
        ∃ x, w'.now = w.now + x ∧ IsLeast (attemptsBehind delay t) x) ∧
    (left * delay ≤ t → ∃ w', Acquisition.run ⟨resource, ttl, delay, left⟩ access
        (passing measured) w = (.ok none, w') ∧ w'.now = w.now + left * delay) := by
  induction left generalizing w t with
  | zero =>
    have held := h.isHeld (Nat.pos_of_ne_zero fun h => between (h ▸ Nat.dvd_zero delay))
    refine ⟨fun none_behind => by omega, fun _ => ⟨w.refused, ?_, by simp [refused]⟩⟩
    exact Acquisition.run_of_decided (perform_of_isHeld held) (.inr rfl)
  | succ n ih =>
    have held := h.isHeld (Nat.pos_of_ne_zero fun h => between (h ▸ Nat.dvd_zero delay))
    have again : Acquisition.run ⟨resource, ttl, delay, n + 1⟩ access (passing measured) w =
        Acquisition.run ⟨resource, ttl, delay, n⟩ access (passing measured)
          (passing measured delay w.refused) :=
      Acquisition.run_of_refused (perform_of_isHeld held) rfl
    rw [again, Nat.succ_mul]
    by_cases soon : t < delay
    · obtain ⟨g, l, granted, of_resource⟩ := perform_of_free ttl (h.freed soon)
      refine ⟨fun _ => ⟨g, _, Acquisition.run_of_decided granted (.inl (by simp)), of_resource,
        delay, rfl, isLeast_attemptsBehind_of_lt soon⟩, fun none_behind => by omega⟩
    · have later : delay ≤ t := Nat.le_of_not_lt soon
      have between : ¬delay ∣ t - delay := fun multiple =>
        between ((Nat.dvd_sub_iff_left later (Nat.dvd_refl delay)).mp multiple)
      obtain ⟨gets, misses⟩ := ih (h.wait later) between
      constructor
      · intro some_behind
        obtain ⟨g, w', run, of_resource, x, now, least⟩ := gets (by omega)
        refine ⟨g, w', run, of_resource, delay + x, ?_, isLeast_attemptsBehind_add later least⟩
        rw [now, ← Nat.add_assoc]
        rfl
      · intro none_behind
        obtain ⟨w', run, now⟩ := misses (by omega)
        refine ⟨w', run, ?_⟩
        rw [now, Nat.add_comm (n * delay), ← Nat.add_assoc]
        rfl

end HeldFor

end AwaitedLock

/-- **An acquisition ends with the first decision and takes one guard at most.** Whatever a lock
answers, there are attempts up to the first guard or error, and one more than the retries if there
is none. The last answer is the result. There is a pause behind every attempt but the last, and no
guard is handed out but the one that is returned.

So a lock that its only holder gives back after a time `t`, at no time of an attempt and before the
lease runs out, is got if there are attempts behind `t`, and then by the first of them. -/
theorem acquisition_ends_with_decision :
    (∀ (a : Acquisition) (answers : Nat → Except LockError (Option LockGuard)),
      let out := a.run ScriptedLock.access ScriptedLock.pause ⟨answers, []⟩
      ∃ m ≤ a.left, (∀ i < m, answers i = .ok none) ∧ (m = a.left ∨ answers m ≠ .ok none) ∧
        out.1 = answers m ∧
        out.2.events = ScriptedLock.refusals a.delay m ++ [.attempt (answers m)] ∧
        out.2.attempts = m + 1 ∧ out.2.waits = List.replicate m a.delay ∧
        out.2.guards = (LockEvent.attempt out.1).guard?.toList) ∧
    ∀ (a : Acquisition) (w : AwaitedLock) (s : Lease) (t : Nat) (measured : Nat → Nat),
      ¬a.delay ∣ t → w.HeldFor a.resource s a.delay (measured a.delay) t →
      let out := a.run AwaitedLock.access (AwaitedLock.passing measured) w
      ((∃ g, out.1 = .ok (some g)) ↔ t < a.left * a.delay) ∧
      (t < a.left * a.delay →
        ∃ x, out.2.now = w.now + x ∧ IsLeast (AwaitedLock.attemptsBehind a.delay t) x) ∧
      (a.left * a.delay ≤ t → out.1 = .ok none) := by
  constructor
  · intro a answers out
    obtain ⟨m, hm, refused, last, run⟩ := ScriptedLock.run_from_start a answers
    have run : out = _ := run
    refine ⟨m, hm, refused, last, ?_⟩
    rw [run]
    exact ⟨rfl, rfl, ScriptedLock.attempts_refusals, ScriptedLock.waits_refusals,
      ScriptedLock.guards_refusals⟩
  · intro a w s t measured between held out
    obtain ⟨gets, misses⟩ := held.run between a.ttl a.left
    by_cases some_behind : t < a.left * a.delay
    · obtain ⟨g, w', run, -, arrival⟩ := gets some_behind
      have run : out = (.ok (some g), w') := run
      rw [run]
      exact ⟨⟨fun _ => some_behind, fun _ => ⟨g, rfl⟩⟩, fun _ => arrival,
        fun none_behind => absurd some_behind (Nat.not_lt.mpr none_behind)⟩
    · obtain ⟨w', run, -⟩ := misses (Nat.le_of_not_lt some_behind)
      have run : out = (.ok none, w') := run
      rw [run]
      exact ⟨⟨fun ⟨g, hg⟩ => by simp at hg, fun h => absurd h some_behind⟩,
        fun h => absurd h some_behind, fun _ => rfl⟩

/-- A lock under a lease of 100 that is given back after 7. -/
def leasedLock : AwaitedLock where
  lock := { leases := [⟨"run", 0, 100⟩], nextToken := 1 }
  releases := [⟨7, ⟨"run", 0⟩⟩]

theorem heldFor_leasedLock : leasedLock.HeldFor "run" ⟨"run", 0, 100⟩ 5 5 7 where
  leased := List.mem_singleton_self _
  own := rfl
  alone _ hx _ := List.mem_singleton.mp hx
  release := rfl
  lasts j hj := by
    show 0 + j * 5 < 100
    omega

theorem acquisition_ends_with_decision_leased :
    (∃ g, (Acquisition.run ⟨"run", 50, 5, 2⟩ AwaitedLock.access (AwaitedLock.passing id)
      leasedLock).1 = .ok (some g)) ∧
    (Acquisition.run ⟨"run", 50, 5, 1⟩ AwaitedLock.access (AwaitedLock.passing id)
      leasedLock).1 = .ok none := by
  have twice := acquisition_ends_with_decision.2 ⟨"run", 50, 5, 2⟩ leasedLock _ 7 id (by decide)
    heldFor_leasedLock
  have once := acquisition_ends_with_decision.2 ⟨"run", 50, 5, 1⟩ leasedLock _ 7 id (by decide)
    heldFor_leasedLock
  exact ⟨twice.1.mpr (by decide), once.2.2 (by decide)⟩

end PointExchange
