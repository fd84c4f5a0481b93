import PointExchange.Service.Supervision

/-!
# How often a task is restarted

A supervised task is given as a script of runs. `supervise_eq` says what comes of it in one
equation, for any rule of counting restarts: the runs start one after the other, each one a pause
after the end of the one before (`startOf`), up to the first run that has no restart behind it, and
that run decides the result. Which pauses there are goes by the count before each restart
(`RestartRule.Counts`).

Two ways of counting matter (`restarts_follow_policy`). Without a limit for counting anew the count
before the restart of run `i` is `i`, so there are as many restarts as the policy allows. If every
run takes long enough to start the count anew, the count is zero each time, so the pause is always
the first one and the restarts never run out, unless there are none.
-/

namespace PointExchange

/-! ## Scripts -/

/-- What supervision comes to when no run follows one that ends like this. -/
def TaskEnd.result : TaskEnd → SupervisionResult
  | .clean => .clean
  | .recoverable => .retriesExceeded
  | .fault => .hardFailure
  | .panic => .panicked

/-- How the run in a place ends; behind the script every run ends cleanly. -/
def endOf (script : List TaskRun) (i : Nat) : TaskEnd := (script[i]?.map TaskRun.ending).getD .clean

/-- How long the run in a place takes; behind the script it takes no time. -/
def durationOf (script : List TaskRun) (i : Nat) : Nat :=
  (script[i]?.map TaskRun.duration).getD 0

/-- When the run in a place starts, if each one before it was restarted after its pause. -/
def startOf (script : List TaskRun) (pause : Nat → Nat) (now : Nat) : Nat → Nat
  | 0 => now
  | i + 1 => startOf script pause now i + durationOf script i + pause i

/-- How many runs at the front of the script fail so that the task may recover. -/
def failures (script : List TaskRun) : Nat :=
  (script.takeWhile fun run => run.ending = .recoverable).length

section Script

variable {script : List TaskRun} {run : TaskRun} {pause : Nat → Nat} {now i : Nat}

/-- The first run moves all later ones. -/
theorem startOf_cons :
    startOf (run :: script) pause now (i + 1) =
      startOf script (fun j => pause (j + 1)) (now + run.duration + pause 0) i := by
  induction i with
  | zero => rfl
  | succ i ih =>
    rw [startOf, ih, startOf]
    rfl

theorem map_startOf_cons (m : Nat) :
    (List.range (m + 1)).map (startOf (run :: script) pause now) =
      now :: (List.range m).map
        (startOf script (fun j => pause (j + 1)) (now + run.duration + pause 0)) := by
  rw [List.range_succ_eq_map, List.map_cons, List.map_map]
  exact congrArg (now :: ·) (List.map_congr_left fun i _ => startOf_cons)

theorem endOf_of_lt_failures (h : i < failures script) : endOf script i = .recoverable := by
  induction script generalizing i with
  | nil => exact absurd h (Nat.not_lt_zero i)
  | cons run script ih =>
    unfold failures at h
    rw [List.takeWhile_cons] at h
    split at h
    next fails =>
      cases i with
      | zero => simpa [endOf] using fails
      | succ i => exact ih (Nat.lt_of_succ_lt_succ h)
    next => exact absurd h (Nat.not_lt_zero i)

theorem endOf_failures : endOf script (failures script) ≠ .recoverable := by
  induction script with
  | nil => decide
  | cons run script ih =>
    unfold failures
    rw [List.takeWhile_cons]
    split
    next => exact ih
    next ends => simpa [endOf] using ends

theorem exists_run_of_endOf (h : endOf script i = .recoverable) :
    ∃ run, script[i]? = some run ∧ run.duration = durationOf script i := by
  unfold endOf at h
  unfold durationOf
  cases hr : script[i]? with
  | none => simp [hr] at h
  | some run => exact ⟨run, rfl, rfl⟩

end Script

/-! ## One run after the other -/

namespace RestartRule

variable {p : RestartRule} {script : List TaskRun} {count : Nat → Nat} {now retries m : Nat}

/-- `count i` is the count of restarts when the run in place `i` may be restarted; `retries` was the
count when the first one started. -/
def Counts (p : RestartRule) (script : List TaskRun) (retries : Nat) (count : Nat → Nat) : Prop :=
  ∀ i run, script[i]? = some run → run.ending = .recoverable →
    count i = p.countAfter run (match i with
      | 0 => retries
      | j + 1 => count j + 1)

/-- The last run: no other one follows it. -/
theorem supervise_last (counts : p.Counts script retries count)
    (ends : endOf script 0 = .recoverable → p.exhausted (count 0) = true) :
    supervise p script now retries =
      ⟨[now], now + durationOf script 0, (endOf script 0).result⟩ := by
  cases script with
  | nil => rfl
  | cons run script =>
    have here : endOf (run :: script) 0 = run.ending := rfl
    rw [here] at ends ⊢
    rw [supervise]
    cases how : run.ending with
    | clean | fault | panic => rfl
    | recoverable =>
      have own : count 0 = p.countAfter run retries := counts 0 run rfl how
      dsimp only
      rw [← own, if_pos (ends how)]
      rfl

/-- A run that is restarted. -/
theorem supervise_cons {run : TaskRun} (counts : p.Counts (run :: script) retries count)
    (fails : run.ending = .recoverable) (goes_on : p.exhausted (count 0) = false) :
    supervise p (run :: script) now retries =
      let later := supervise p script (now + run.duration + p.delayFor (count 0)) (count 0 + 1)
      { later with starts := now :: later.starts } := by
  have own : count 0 = p.countAfter run retries := counts 0 run rfl fails
  rw [supervise, fails]
  dsimp only
  rw [← own, if_neg (by simp [goes_on])]

theorem Counts.tail {run : TaskRun} (counts : p.Counts (run :: script) retries count) :
    p.Counts script (count 0 + 1) fun i => count (i + 1) := by
  intro i next hnext fails
  have := counts (i + 1) next hnext fails
  cases i <;> exact this

/-- **What supervision does**, if the runs before place `m` are restarted and the one in this place
is not. -/
theorem supervise_eq (counts : p.Counts script retries count)
    (fails : ∀ i < m, endOf script i = .recoverable)
    (goes_on : ∀ i < m, p.exhausted (count i) = false)
    (ends : endOf script m = .recoverable → p.exhausted (count m) = true) :
    supervise p script now retries =
      let start := startOf script (fun i => p.delayFor (count i)) now
      ⟨(List.range (m + 1)).map start, start m + durationOf script m, (endOf script m).result⟩ := by
  induction m generalizing script now retries count with
  | zero => exact supervise_last counts ends
  | succ m ih =>
    cases script with
    | nil => exact absurd (fails 0 (Nat.succ_pos m)) (by decide)
    | cons run script =>
      have first := fails 0 (Nat.succ_pos m)
      rw [supervise_cons counts first (goes_on 0 (Nat.succ_pos m)),
        ih counts.tail (fun i hi => fails (i + 1) (Nat.succ_lt_succ hi))
          (fun i hi => goes_on (i + 1) (Nat.succ_lt_succ hi)) ends]
      dsimp only
      rw [map_startOf_cons, startOf_cons]
      rfl

/-- Without a limit for counting anew every restart counts. -/
theorem counts_all (h : p.resetAfter = none) : p.Counts script 0 id := by
  intro i run _ _
  rw [countAfter, h]
  cases i <;> rfl

/-- The count starts anew whenever a run was long enough. -/
theorem counts_none {limit : Nat} (h : p.resetAfter = some limit)
    (long : ∀ run ∈ script, limit ≤ run.measured) : p.Counts script 0 fun _ => 0 := by
  intro i run hrun _
  have := long run (List.mem_of_getElem? hrun)
  simp [countAfter, h, this]

end RestartRule

/-! ## The restarts of a policy -/

/-- The task was started once more than `restarts` says. The first run started at `now` and each
restart came its pause after the end of the run before it; the end of the last run was the end. -/
structure Supervision.Restarts (s : Supervision) (script : List TaskRun) (restarts : Nat)
    (pause : Nat → Nat) (now : Nat) : Prop where
  length : s.starts.length = restarts + 1
  first : s.starts[0]? = some now
  next : ∀ i < restarts, ∃ run start, script[i]? = some run ∧ s.starts[i]? = some start ∧
    s.starts[i + 1]? = some (start + run.duration + pause i)
  finish : ∃ start, s.starts[restarts]? = some start ∧
    s.finish = start + durationOf script restarts

section Policy

variable {p : RestartRule} {script : List TaskRun} {count : Nat → Nat} {now m : Nat}

/-- The restarts of a script whose first runs fail, up to place `m`. -/
theorem restarts_of_counts (now : Nat) (counts : p.Counts script 0 count)
    (front : m ≤ failures script) (goes_on : ∀ i < m, p.exhausted (count i) = false)
    (ends : endOf script m = .recoverable → p.exhausted (count m) = true) :
    (supervise p script now 0).Restarts script m (fun i => p.delayFor (count i)) now ∧
      (supervise p script now 0).result = (endOf script m).result := by
  have fails : ∀ i < m, endOf script i = .recoverable :=
    fun i hi => endOf_of_lt_failures (Nat.lt_of_lt_of_le hi front)
  have place : ∀ i ≤ m, (supervise p script now 0).starts[i]? =
      some (startOf script (fun i => p.delayFor (count i)) now i) := by
    intro i hi
    rw [RestartRule.supervise_eq counts fails goes_on ends]
    simp [List.getElem?_range (Nat.lt_succ_of_le hi)]
  refine ⟨⟨?_, place 0 (Nat.zero_le m), fun i hi => ?_, ⟨_, place m (Nat.le_refl m), ?_⟩⟩, ?_⟩
  · rw [RestartRule.supervise_eq counts fails goes_on ends]
    simp
  · obtain ⟨run, hrun, duration⟩ := exists_run_of_endOf (fails i hi)
    refine ⟨run, _, hrun, place i (Nat.le_of_lt hi), ?_⟩
    rw [place (i + 1) hi, startOf, duration]
  all_goals rw [RestartRule.supervise_eq counts fails goes_on ends]

theorem exhausted_eq_false {retries : Nat} (h : ∀ n, p.maxRetries = some n → retries < n) :
    p.exhausted retries = false := by
  unfold RestartRule.exhausted
  cases hm : p.maxRetries with
  | none => rfl
  | some n => simpa using h n hm

theorem result_ne_retriesExceeded {how : TaskEnd} (h : how ≠ .recoverable) :
    how.result ≠ .retriesExceeded := by
  cases how <;> simp_all [TaskEnd.result]

section Counted

variable (counted : p.resetAfter = none)

include counted

theorem gives_up_after {n : Nat} (max : p.maxRetries = some n) (few : n < failures script) :
    (supervise p script now 0).Restarts script n p.delayFor now ∧
      (supervise p script now 0).result = .retriesExceeded := by
  have fails : endOf script n = .recoverable := endOf_of_lt_failures few
  have goes_on : ∀ i < n, p.exhausted i = false := by
    intro i hi
    exact exhausted_eq_false fun m hm => Option.some.inj (max.symm.trans hm) ▸ hi
  have restarts := restarts_of_counts now (RestartRule.counts_all counted)
    (Nat.le_of_lt few) goes_on fun _ => by simp [RestartRule.exhausted, max]
  rwa [fails] at restarts

theorem restarts_while_allowed (enough : ∀ n, p.maxRetries = some n → failures script ≤ n) :
    (supervise p script now 0).Restarts script (failures script) p.delayFor now ∧
      (supervise p script now 0).result = (endOf script (failures script)).result := by
  refine restarts_of_counts now (RestartRule.counts_all counted) (Nat.le_refl _) (fun i hi => ?_)
    fun h => absurd h endOf_failures
  exact exhausted_eq_false fun n hn => Nat.lt_of_lt_of_le hi (enough n hn)

end Counted

section Renewed

variable {limit : Nat} (renewed : p.resetAfter = some limit)
  (long : ∀ run ∈ script, limit ≤ run.measured)

include renewed long

theorem gives_up_at_once (max : p.maxRetries = some 0) (fails : 0 < failures script) :
    (supervise p script now 0).Restarts script 0 (fun _ => p.delayFor 0) now ∧
      (supervise p script now 0).result = .retriesExceeded := by
  have restarts := restarts_of_counts now (RestartRule.counts_none renewed long)
    (Nat.zero_le _) (by simp) fun _ => by simp [RestartRule.exhausted, max]
  rwa [endOf_of_lt_failures fails] at restarts

theorem restarts_without_end (now : Nat)
    (some_allowed : ¬(p.maxRetries = some 0 ∧ 0 < failures script)) :
    (supervise p script now 0).Restarts script (failures script) (fun _ => p.delayFor 0) now ∧
      (supervise p script now 0).result = (endOf script (failures script)).result := by
  refine restarts_of_counts now (RestartRule.counts_none renewed long) (Nat.le_refl _)
    (fun i hi => exhausted_eq_false fun n hn => Nat.pos_of_ne_zero ?_) fun h =>
      absurd h endOf_failures
  rintro rfl
  exact some_allowed ⟨hn, Nat.zero_lt_of_lt hi⟩

end Renewed

end Policy

/-- **A task is restarted exactly as often as its policy allows.** Let `k` runs at the front of the
script fail so that the task may recover. If no run starts the count anew, there are `n` restarts
and the retries are exceeded if the policy allows `n` and `n < k`; otherwise there are `k`, and the
run in place `k` decides the result. The pause before restart `i` is the one after `i` restarts.

If every run starts the count anew, every pause is the first one. The retries are exceeded only if
none are allowed; otherwise there are `k` restarts, however many that are. -/
theorem restarts_follow_policy (p : RestartRule) (script : List TaskRun) (now : Nat) :
    let k := failures script
    let s := supervise p script now 0
    (p.resetAfter = none →
      (∀ n, p.maxRetries = some n → n < k →
        s.Restarts script n p.delayFor now ∧ s.result = .retriesExceeded) ∧
      ((∀ n, p.maxRetries = some n → k ≤ n) →
        s.Restarts script k p.delayFor now ∧ s.result = (endOf script k).result)) ∧
    ∀ limit, p.resetAfter = some limit → (∀ run ∈ script, limit ≤ run.measured) →
      (s.result = .retriesExceeded ↔ p.maxRetries = some 0 ∧ 0 < k) ∧
      (p.maxRetries = some 0 ∧ 0 < k → s.Restarts script 0 (fun _ => p.delayFor 0) now) ∧
      (¬(p.maxRetries = some 0 ∧ 0 < k) →
        s.Restarts script k (fun _ => p.delayFor 0) now ∧ s.result = (endOf script k).result) := by
  intro k s
  refine ⟨fun counted => ⟨fun n => gives_up_after counted, restarts_while_allowed counted⟩, ?_⟩
  intro limit renewed long
  refine ⟨⟨fun exceeded => ?_, fun ⟨max, fails⟩ => (gives_up_at_once renewed long max fails).2⟩,
    fun ⟨max, fails⟩ => (gives_up_at_once renewed long max fails).1,
    restarts_without_end renewed long now⟩
  refine Decidable.byContradiction fun some_allowed => ?_
  have decided := (restarts_without_end renewed long now some_allowed).2
  exact result_ne_retriesExceeded endOf_failures (decided.symm.trans exceeded)

/-- Two runs that fail, each of which is long by the clock that counts, and one that cannot be
recovered from. -/
def troubledScript : List TaskRun :=
  [⟨5, 60, .recoverable⟩, ⟨3, 60, .recoverable⟩, ⟨2, 60, .fault⟩]

/-- Pauses of 10, 20, 30 and so on. -/
def growingRule (maxRetries resetAfter : Option Nat) : RestartRule :=
  ⟨fun retries => 10 * (retries + 1), maxRetries, resetAfter⟩

theorem restarts_follow_policy_troubled :
    (supervise (growingRule (some 1) none) troubledScript 0 0).result = .retriesExceeded ∧
    (supervise (growingRule (some 2) none) troubledScript 0 0).Restarts troubledScript 2
      (growingRule (some 2) none).delayFor 0 ∧
    (supervise (growingRule (some 1) (some 60)) troubledScript 0 0).Restarts troubledScript 2
      (fun _ => 10) 0 ∧
    (supervise (growingRule (some 0) (some 60)) troubledScript 0 0).Restarts troubledScript 0
      (fun _ => 10) 0 := by
  have few := restarts_follow_policy (growingRule (some 1) none) troubledScript 0
  have enough := restarts_follow_policy (growingRule (some 2) none) troubledScript 0
  have renewed := restarts_follow_policy (growingRule (some 1) (some 60)) troubledScript 0
  have at_once := restarts_follow_policy (growingRule (some 0) (some 60)) troubledScript 0
  have long : ∀ run ∈ troubledScript, 60 ≤ run.measured := by decide
  have two : ∀ n, some 2 = some n → failures troubledScript ≤ n :=
    fun n h => Option.some.inj h ▸ by decide
  exact ⟨((few.1 rfl).1 1 rfl (by decide)).2, ((enough.1 rfl).2 two).1,
    ((renewed.2 60 rfl long).2.2 (by simp [growingRule])).1,
    (at_once.2 60 rfl long).2.1 ⟨rfl, by decide⟩⟩

end PointExchange
