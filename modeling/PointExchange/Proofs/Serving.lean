import PointExchange.Config.Loader
import PointExchange.Proofs.Frame
import PointExchange.Service.Timeline

/-!
# What ends the service

Whatever its runs come to, the service goes on. It ends at a tick at which it cannot read its
settings, and no run spoils them: neither its own nor one of another service, nor the release of a
guard (`Timeline.goes_on`). There is one setting that is readable and that the service cannot start
with, an interval of zero (`service_runs_unless`).
-/

namespace PointExchange

variable {E : Type} {r : Runner E}

/-! ## What a runner does to its settings -/

/-- The settings that a runner would read are the same. -/
def Runner.SameSettings (r : Runner E) (e e' : E) : Prop := r.config e' = r.config e

/-- Nothing that the runner does is a change to its settings. -/
structure Runner.LeavesSettings (r : Runner E) : Prop where
  collaborators : r.toCollaborators.Respects r.SameSettings
  acquire (resource : String) (ttl : Nat) : (r.lock.acquire resource ttl).Respects r.SameSettings
  release (g : LockGuard) : (r.lock.release g).Respects r.SameSettings

namespace Runner.LeavesSettings

variable (h : r.LeavesSettings)

include h

theorem attempt (a : Acquisition) (e : E) : r.SameSettings e (a.attempt r.lock e).2 := by
  have he := h.acquire a.resource a.ttl e
  unfold Acquisition.attempt
  rcases hr : (r.lock.acquire a.resource a.ttl).perform e with ⟨x | _ | g, e'⟩
  · rwa [hr] at he
  · rw [hr] at he
    cases a.left with
    | zero => exact he
    | succ n => exact he
  · rwa [hr] at he

theorem finish (acquired : Except LockError (Option LockGuard)) (s : Site E) :
    r.SameSettings s.env (r.finish acquired s).2.env := by
  rcases acquired with e | _ | g
  · exact h.collaborators.refl _
  · exact h.collaborators.refl _
  · have hl := Runner.locked_respects h.collaborators s
    have hrelease : ∀ s', r.SameSettings s.env s'.env → r.SameSettings s.env (r.release g s').env :=
      fun s' hs => h.collaborators.trans hs (h.release g s'.env)
    unfold Runner.finish
    rcases hr : r.locked s with ⟨(x | _) | outcome, s'⟩
    all_goals rw [hr] at hl
    · exact hrelease s' hl
    · exact hl
    · exact hrelease s' hl

end Runner.LeavesSettings

/-! ## Services -/

namespace Scheduler

variable (h : r.LeavesSettings)

include h

theorem settings_attempt (a : Acquisition) (now : Nat) (s : Scheduler) (site : Site E) :
    r.SameSettings site.env (attempt r a now s site).2.env := by
  have ha := h.attempt a site.env
  unfold attempt
  rcases hr : a.attempt r.lock site.env with ⟨acquired | b, env⟩
  · rw [hr] at ha
    have hf := h.finish acquired { site with env := env }
    rcases hfr : r.finish acquired { site with env := env } with ⟨(x | _) | outcome, site'⟩
    all_goals
      rw [hfr] at hf
      simp only [hfr]
      exact h.collaborators.trans ha hf
  · rwa [hr] at ha

omit h in
theorem label_attempt (a : Acquisition) (now : Nat) (s : Scheduler) (site : Site E) :
    (attempt r a now s site).1.label = s.label := by
  unfold attempt
  split
  · rfl
  · split <;> rfl

/-- **What a service does next does not end it** as long as it can read the settings, whatever the
run comes to. -/
theorem act_of_readable {site : Site E} {config : Config}
    (readable : r.config site.env = .ok config) (now : Nat) (s : Scheduler) :
    ∃ s' site', s.act r now site = (some s', site') ∧ s'.label = s.label ∧
      r.SameSettings site.env site'.env := by
  unfold act
  cases s.phase with
  | idle =>
    unfold tick
    rw [Runner.start_ok readable]
    exact ⟨_, _, rfl, label_attempt _ _ _ _, settings_attempt h _ _ _ _⟩
  | acquiring a time => exact ⟨_, _, rfl, label_attempt _ _ _ _, settings_attempt h _ _ _ _⟩
  | stuck => exact ⟨_, _, rfl, rfl, h.collaborators.refl _⟩

end Scheduler

/-! ## Timelines -/

namespace Timeline

/-- The services that are running. -/
def labels (t : Timeline E) : List Nat := t.schedulers.map Scheduler.label

/-- The second timeline has the services of the first one and its settings. -/
structure GoesOn (r : Runner E) (t t' : Timeline E) : Prop where
  labels : t'.labels = t.labels
  settings : r.SameSettings t.site.env t'.site.env

variable (h : r.LeavesSettings) {config : Config}

include h

/-- No event ends a service or changes the settings. -/
theorem happen_goes_on {t : Timeline E} (readable : r.config t.site.env = .ok config)
    {deadline : Nat} {e : Event} (event : t.event? deadline = some e) :
    t.GoesOn r (happen r t e) := by
  rcases event?_eq_some event with event | event
  · obtain ⟨before, s, after, time, rfl, hl, -, -⟩ := serviceEvent?_eq_some event
    obtain ⟨s', site', hact, hlabel, hsettings⟩ := s.act_of_readable h readable (max t.now time)
    refine ⟨?_, ?_⟩
    · simp [labels, happen, hact, hl, hlabel]
    · simpa [happen, hact] using hsettings
  · obtain ⟨before, p, after, rfl, -, -⟩ := releaseEvent?_eq_some event
    exact ⟨rfl, h.release p.holder t.site.env⟩

/-- **Whatever happens until a time, all services go on.** -/
theorem goes_on (deadline : Nat) (t : Timeline E) (readable : r.config t.site.env = .ok config) :
    t.GoesOn r (t.advanceTo r deadline) := by
  fun_induction Timeline.advanceTo r deadline t with
  | case1 t e event ih =>
    have hfirst := happen_goes_on h readable event
    have hrest := ih (hfirst.settings.trans readable)
    exact ⟨hrest.labels.trans hfirst.labels, h.collaborators.trans hfirst.settings hrest.settings⟩
  | case2 t event => exact ⟨rfl, h.collaborators.refl _⟩

/-- A service that is started is running, unless it cannot read its settings or has no interval. -/
theorem status_serve (ms : Nat) (t : Timeline E) :
    (t.serve r ms).1 =
      match r.config t.site.env with
      | .error _ => .faulted
      | .ok config => if config.scheduler.runIntervalMs = 0 then .panicked else .running := by
  unfold serve
  cases readable : r.config t.site.env with
  | error e => rfl
  | ok config =>
    by_cases hz : config.scheduler.runIntervalMs = 0
    · simp [hz]
    · have hpos : 0 < config.scheduler.runIntervalMs.toNat := by
        rw [Nat.pos_iff_ne_zero]
        intro h0
        exact hz (UInt64.toNat_inj.mp h0)
      let s : Scheduler := ⟨t.nextLabel, config.scheduler.runIntervalMs.toNat, hpos, t.now, .idle⟩
      let t₁ : Timeline E :=
        { t with schedulers := t.schedulers ++ [s], nextLabel := t.nextLabel + 1 }
      -- the new service is found by its label, and no label goes away
      have hlabels : (t₁.advanceTo r (t₁.now + ms)).labels = t₁.labels :=
        (goes_on h (t₁.now + ms) t₁ readable).labels
      have hmem : s.label ∈ (t₁.advanceTo r (t₁.now + ms)).labels := by
        rw [hlabels]
        exact List.mem_map_of_mem (List.mem_append_right _ (List.mem_singleton_self s))
      obtain ⟨s', hs', he⟩ := List.mem_map.mp hmem
      have hany : (t₁.advanceTo r (t₁.now + ms)).schedulers.any (·.label == s.label) = true :=
        List.any_eq_true.mpr ⟨s', hs', by simpa using he⟩
      simp only [hpos, dif_pos, if_neg hz]
      exact if_pos hany

end Timeline

/-! ## In memory -/

/-- The runner of a bench over a chain of any kind. -/
def Gateway.onBench {C : Type} (g : Gateway C) : Runner (Bench C) :=
  Bench.runner (g.inside Bench.chain fun c w => { w with chain := c })

theorem Gateway.onBench_leavesSettings {C : Type} (g : Gateway C) : g.onBench.LeavesSettings where
  collaborators :=
    { refl := fun _ => rfl
      trans := fun h h' => h'.trans h
      chainDomain := fun _ => rfl
      signatureNonce := fun _ _ => rfl
      signDeposit := fun _ _ _ _ => rfl
      estimateGas := fun _ _ _ => rfl
      gasPrice := fun _ => rfl
      transactionCount := fun _ _ => rfl
      chainId := fun _ => rfl
      signTransaction := fun _ _ _ => rfl
      submit := fun _ _ => rfl
      confirm := fun _ _ => rfl
      getIndex := fun _ _ => rfl
      setIndex := fun _ _ _ => rfl
      updateStatus := fun _ _ _ => rfl
      commit := fun _ _ _ => rfl }
  acquire _ _ _ := rfl
  release _ _ := rfl

/-- **What becomes of a service,** whatever the chain does, whatever is in the queue, out of reach
or held by others, whatever other services do and however long it takes: it is running, unless its
settings are spoiled or it has an interval of zero. With such an interval it does not start. -/
theorem service_runs_unless {C : Type} (g : Gateway C) (ms : Nat) (t : Timeline (Bench C)) :
    (t.serve g.onBench ms).1 =
      if t.site.env.settings.poisoned then .faulted
      else if t.site.env.settings.config.scheduler.runIntervalMs = 0 then .panicked
      else .running := by
  rw [Timeline.status_serve g.onBench_leavesSettings,
    show g.onBench.config t.site.env = t.site.env.settings.read from rfl, SharedConfig.read]
  by_cases hp : t.site.env.settings.poisoned = true
  · simp only [hp, if_true]
  · simp only [hp, if_false, Bool.false_eq_true]

/-- The settings of a file that has an interval of zero. -/
def idleSettings : String := "[scheduler]\nrun_interval_ms = 0\n"

set_option maxRecDepth 100000 in
/-- There is a file that is loaded, and with whose settings no service starts. -/
theorem service_panics_on_zero_interval :
    ∃ config, Config.load (some idleSettings) = .ok config ∧
      ({ site := ⟨{}, { chain := {}, settings := { config := config } }⟩ } :
        Timeline (Bench SimulatedChain)).serve ({} : SimulatedChain).runner 1000 =
        (.panicked, { site := ⟨{}, { chain := {}, settings := { config := config } }⟩ }) := by
  have hread : Config.ofText? idleSettings = some { scheduler := { runIntervalMs := 0 } } := by
    decide +kernel
  refine ⟨{ scheduler := { runIntervalMs := 0 } }, ?_, rfl⟩
  simp only [Config.load, hread]

end PointExchange
