import PointExchange.Proofs.Leases

/-!
# Taking the lock and giving it back

A run asks for the lock as often as its settings say. If it is refused each time it is skipped, and
all that it leaves behind is the count of its attempts. If it gets the lock, it gives it back
whatever it comes to; the one exception is a run that never comes to an end.

While a run waits between two attempts anything may happen (`pause`). So what a skipped run does by
itself is told attempt by attempt (`Bench.Refused`).
-/

namespace PointExchange

variable {C E : Type}

/-! ## The errors of a run -/

namespace Call

variable {ε δ α β : Type} {P : ε → Prop}

/-- If a call fails, its error has a property. -/
def Fails (c : Call E ε α) (P : ε → Prop) : Prop := ∀ e x, (c.perform e).1 = .error x → P x

theorem Fails.pure (a : α) : (Pure.pure a : Call E ε α).Fails P := by
  intro e x h
  simp at h

theorem Fails.throw {x : ε} (hx : P x) : (throw x : Call E ε α).Fails P := by
  intro e y h
  obtain rfl : x = y := by simpa using h
  exact hx

theorem Fails.attempt (c : Call E δ α) : (c.attempt : Call E ε (Except δ α)).Fails P := by
  intro e x h
  simp at h

theorem Fails.orElse {c : Call E δ α} {f : δ → ε} (hf : ∀ x, P (f x)) : (c.orElse f).Fails P := by
  intro e x h
  rw [perform_orElse] at h
  rcases hr : c.perform e with ⟨y | a, e'⟩
  · rw [hr] at h
    obtain rfl : f y = x := by simpa using h
    exact hf y
  · simp [hr] at h

theorem Fails.bind {c : Call E ε α} {k : α → Call E ε β} (hc : c.Fails P)
    (hk : ∀ a, (k a).Fails P) : (c >>= k).Fails P := by
  intro e x h
  rcases hr : c.perform e with ⟨y | a, e'⟩
  · rw [perform_bind_error hr] at h
    exact hc e x (by simpa [hr] using h)
  · rw [perform_bind_ok hr] at h
    exact hk a e' x h

end Call

/-- It is not that the settings could not be read. -/
def Interruption.NotConfig (x : Interruption) : Prop := ∀ e, x ≠ .failed (.config e)

namespace Runner

open Call (Fails)

theorem fails_submitBatch (c : Collaborators E) (relayer : UInt64) (account : Address) (b : Batch) :
    (submitBatch c relayer account b).Fails Interruption.NotConfig := by
  unfold submitBatch
  refine .bind (.attempt _) fun signed => ?_
  rcases signed with x | t
  · exact .pure _
  refine .bind (.attempt _) fun committed => ?_
  rcases committed with x | done
  · exact .pure _
  refine .bind (.attempt _) fun submitted => ?_
  rcases submitted with x | pending
  · exact .pure _
  refine .bind (.attempt _) fun confirmed => ?_
  rcases confirmed with x | _ | included
  · exact .pure _
  · exact .throw (by simp [Interruption.NotConfig])
  · exact .pure _

theorem fails_sendPermits (c : Collaborators E) (turns : Nat → List Turn) (relayer : UInt64)
    (account : Address) (b : Batch) :
    (sendPermits c turns relayer account b).Fails Interruption.NotConfig := by
  unfold sendPermits
  split
  · exact .pure _
  unfold broadcastPermits
  refine .bind (.attempt _) fun counted => ?_
  rcases counted with x | nonce
  · exact .pure _
  refine .bind (fun e x h => by simp at h) fun flights => ?_
  split
  · exact .pure _
  · exact .throw (by simp [Interruption.NotConfig])

theorem fails_orFail (r : Except IndexError UInt64) :
    (orFail r : RunStep E Unit).Fails Interruption.NotConfig := by
  rcases r with e | next
  · exact .throw (by simp [Interruption.NotConfig])
  · exact .pure _

theorem fails_send (c : Collaborators E) (turns : Nat → List Turn) (b : Batch)
    (stop : StopReason) : (send c turns b stop).Fails Interruption.NotConfig := by
  unfold send
  refine .bind (.orElse (by simp [Interruption.NotConfig])) fun stored => ?_
  refine .bind (.orElse (by simp [Interruption.NotConfig])) fun account => ?_
  refine .bind (fails_sendPermits _ _ _ _ _) fun permits => ?_
  refine .bind ?_ fun sent => ?_
  · unfold sendCalls
    split
    · exact .pure _
    refine .bind (fails_submitBatch _ _ _ _) fun outcome => ?_
    split
    · exact .bind (.attempt _) fun _ => .pure _
    · exact .pure _
  refine .bind (.attempt _) fun next => ?_
  exact .bind (fails_orFail _) fun _ => .bind (fails_orFail _) fun _ => .pure _

/-- The protected part of a run has no settings of its own to fail on: a drain that cannot read
them stops. -/
theorem locked_ne_config (r : Runner E) (s : Site E) (e : ConfigError) :
    (r.locked s).1 ≠ .error (.failed (.config e)) := by
  unfold locked
  by_cases he : (s.drain r.toCollaborators).batch.isEmpty = true
  · simp [he]
  · simp only [he, if_false, Bool.false_eq_true]
    intro h
    have hf := fails_send r.toCollaborators r.turns (s.drain r.toCollaborators).batch
      (s.drain r.toCollaborators).stop (s.drain r.toCollaborators).site.env
    cases hr : ((send r.toCollaborators r.turns (s.drain r.toCollaborators).batch
      (s.drain r.toCollaborators).stop).perform (s.drain r.toCollaborators).site.env).1 with
    | error x =>
      rw [hr] at h
      obtain rfl : x = .failed (.config e) := by simpa [Except.map] using h
      exact hf _ hr e rfl
    | ok report =>
      rw [hr] at h
      simp [Except.map] at h

theorem locked_ne_skipped (r : Runner E) (s : Site E) : (r.locked s).1 ≠ .ok .skipped := by
  unfold locked
  by_cases he : (s.drain r.toCollaborators).batch.isEmpty = true
  · simp [he]
  · simp only [he, if_false, Bool.false_eq_true]
    generalize (send r.toCollaborators r.turns (s.drain r.toCollaborators).batch
      (s.drain r.toCollaborators).stop).perform (s.drain r.toCollaborators).site.env = sent
    rcases sent with ⟨e | report, w⟩ <;> simp [Except.map]

end Runner

/-! ## The attempts of a run -/

namespace Bench

/-- A number of attempts, each of which finds the resource leased to somebody. An attempt changes
nothing but its count; what happens between two attempts is not the doing of the run. -/
inductive Refused (pause : Nat → Bench C → Bench C) (resource : String) (delay : Nat) :
    Nat → Bench C → Bench C → Prop
  | last (w : Bench C) (owner : Lease) (held : w.lock.active? resource = some owner) :
    Refused pause resource delay 1 w w.refused
  | more {n : Nat} {w' : Bench C} (w : Bench C) (owner : Lease)
    (held : w.lock.active? resource = some owner)
    (next : Refused pause resource delay n (pause delay w.refused) w') :
    Refused pause resource delay (n + 1) w w'

/-- If nothing but time passes in between, the count of the attempts is all that changes. -/
theorem Refused.undisturbed {resource : String} {delay n : Nat} {w w' : Bench C}
    (h : Refused ticking resource delay n w w') :
    w' = { w with lock := { w.lock with
      attempts := w.lock.attempts + n, now := w.lock.now + (n - 1) * delay } } := by
  induction h with
  | last w owner held => simp [refused]
  | @more n w' w owner held next ih =>
    have hn : n ≠ 0 := by cases next <;> simp
    obtain ⟨m, rfl⟩ := Nat.exists_eq_succ_of_ne_zero hn
    rw [ih]
    simp only [ticking, refused, MemoryLock.elapse, Nat.add_sub_cancel, Nat.succ_mul,
      Nat.succ_eq_add_one]
    congr 2 <;> omega

/-- What waiting for the lock comes to: every attempt is refused, or one is granted. -/
theorem acquisition_cases (g : Gateway (Bench C)) (a : Acquisition)
    (pause : Nat → Bench C → Bench C) (w : Bench C) :
    (∃ w', a.run (runner g).lock pause w = (.ok none, w') ∧
      Refused pause a.resource a.delay (a.left + 1) w w') ∨
    ∃ h w', a.run (runner g).lock pause w = (.ok (some h), w') ∧
      ∃ owned ∈ w'.lock.leases, owned.holder = h := by
  fun_induction Acquisition.run a (runner g).lock pause w with
  | case1 a w r w' h =>
    rcases attempt_cases g a w with ⟨held, ⟨hl, he⟩ | ⟨n, -, he⟩⟩ | ⟨granted, l, hl, he⟩
    · obtain ⟨owner, ho⟩ := Option.isSome_iff_exists.mp held
      rw [he] at h
      obtain ⟨hr, rfl⟩ := Prod.mk.inj h
      obtain rfl : .ok none = r := by simpa using hr
      rw [hl]
      exact .inl ⟨_, rfl, .last w owner ho⟩
    · rw [he] at h
      simp at h
    · rw [he] at h
      obtain ⟨hr, rfl⟩ := Prod.mk.inj h
      obtain rfl : .ok (some granted) = r := by simpa using hr
      refine .inr ⟨granted, _, rfl, ?_⟩
      rcases w.lock.acquire_cases a.resource a.ttl with ⟨-, hc⟩ | ⟨-, hc⟩
      · simp [hc] at hl
      · rw [hc] at hl
        obtain ⟨hg, rfl⟩ := Prod.mk.inj hl
        exact ⟨_, List.mem_cons_self, Option.some.inj hg⟩
  | case2 a w b w' h ih =>
    rcases attempt_cases g a w with ⟨held, ⟨-, he⟩ | ⟨n, hn, he⟩⟩ | ⟨granted, l, -, he⟩
    · rw [he] at h
      simp at h
    · obtain ⟨owner, ho⟩ := Option.isSome_iff_exists.mp held
      rw [he] at h
      obtain ⟨hb, rfl⟩ := Prod.mk.inj h
      obtain rfl : { a with left := n } = b := by simpa using hb
      rcases ih with ⟨w', hr, hw⟩ | hgranted
      · refine .inl ⟨w', hr, ?_⟩
        rw [hn]
        exact .more w owner ho hw
      · exact .inr hgranted
    · rw [he] at h
      simp at h

end Bench

/-- A guard that was given back owns nothing. -/
theorem MemoryLock.holder_ne_of_release {l : MemoryLock} {g : LockGuard} :
    ∀ s ∈ (l.release g).leases, s.holder ≠ g := by
  intro s hs he
  obtain ⟨-, hkept⟩ := List.mem_filter.mp hs
  rw [← he] at hkept
  simp [Lease.holder] at hkept

/-! ## The result -/

/-- What a run comes to, given what its attempts to get the lock have come to. -/
inductive Runner.Taken (r : Runner (Bench C)) (s : Site (Bench C)) (w : Bench C) :
    Option LockGuard → Except Interruption RunOutcome × Site (Bench C) → Prop
  | skipped : Taken r s w none (.ok .skipped, { s with env := w })
  | waits (h : LockGuard) (s' : Site (Bench C)) : Taken r s w (some h) (.error .waiting, s')
  | ended (h : LockGuard) (s' : Site (Bench C)) (res : Except Interruption RunOutcome)
    (config : ∀ e, res ≠ .error (.failed (.config e))) (skipped : res ≠ .ok .skipped) :
    Taken r s w (some h) (res, r.release h s')

theorem Runner.taken (r : Runner (Bench C)) (s : Site (Bench C)) (w : Bench C)
    (granted : Option LockGuard) :
    Taken r s w granted (r.finish (.ok granted) { s with env := w }) := by
  cases granted with
  | none => exact .skipped
  | some h =>
    have hconfig := r.locked_ne_config { s with env := w }
    have hskipped := r.locked_ne_skipped { s with env := w }
    unfold finish
    rcases hl : r.locked { s with env := w } with ⟨(e | _) | outcome, s'⟩
    all_goals rw [hl] at hconfig hskipped
    · exact .ended h s' _ hconfig hskipped
    · exact .waits h s'
    · exact .ended h s' _ hconfig hskipped

/-- **A run that does not get the lock touches nothing, and a run that gets it gives it back.** If
the settings cannot be read, nothing has changed. If the run is skipped, each of its attempts has
found the resource leased and changed nothing but the count of attempts. If it comes to anything
else, it had got a guard, and the guard owns nothing any more. -/
theorem takes_nothing_or_gives_back (g : Gateway (Bench C)) (turns : Nat → List Turn)
    (pause : Nat → Bench C → Bench C) (s : Site (Bench C)) :
    let r : Runner (Bench C) := { Bench.runner g with turns := turns }
    let res := r.runOnce pause s
    (∀ e, res.1 = .error (.failed (.config e)) → res.2 = s) ∧
    (res.1 = .ok .skipped → ∃ config, s.env.settings.read = .ok config ∧ res.2.queue = s.queue ∧
      Bench.Refused pause config.scheduler.lockResource config.scheduler.lockRetryDelayMs.toNat
        (config.scheduler.lockRetryCount.toNat + 1) s.env res.2.env ∧
      (pause = Bench.ticking → res.2.env = { s.env with lock := { s.env.lock with
        attempts := s.env.lock.attempts + (config.scheduler.lockRetryCount.toNat + 1)
        now := s.env.lock.now +
          config.scheduler.lockRetryCount.toNat * config.scheduler.lockRetryDelayMs.toNat } })) ∧
    ((∀ e, res.1 ≠ .error (.failed (.config e))) → res.1 ≠ .ok .skipped →
      res.1 ≠ .error .waiting → ∃ a h w, r.start s = .ok a ∧
        a.run r.lock pause s.env = (.ok (some h), w) ∧
        (∃ owned ∈ w.lock.leases, owned.holder = h) ∧
        ∀ owned ∈ res.2.env.lock.leases, owned.holder ≠ h) := by
  intro r res
  cases hc : s.env.settings.read with
  | error e =>
    have hres : res = (.error (.failed (.config e)), s) := by
      simp only [res, Runner.runOnce, Runner.start_error (r := r) hc]
    rw [hres]
    exact ⟨fun _ _ => rfl, by simp, fun h => absurd rfl (h e)⟩
  | ok config =>
    have hstart := Runner.start_ok (r := r) hc
    have hcases := Bench.acquisition_cases g ⟨config.scheduler.lockResource,
      config.scheduler.lockTtlMs.toNat, config.scheduler.lockRetryDelayMs.toNat,
      config.scheduler.lockRetryCount.toNat⟩ pause s.env
    rcases hcases with ⟨w, ha, hw⟩ | ⟨h, w, ha, howned⟩
    · have hres : res = (.ok .skipped, { s with env := w }) := by
        simp only [res, Runner.runOnce, hstart]
        rw [show r.lock = (Bench.runner g).lock from rfl, ha]
        rfl
      rw [hres]
      refine ⟨by simp, fun _ => ⟨config, rfl, rfl, hw, ?_⟩, fun _ h => absurd rfl h⟩
      rintro rfl
      simpa using hw.undisturbed
    · have htaken := r.taken s w (some h)
      have hres : res = r.finish (.ok (some h)) { s with env := w } := by
        simp only [res, Runner.runOnce, hstart]
        rw [show r.lock = (Bench.runner g).lock from rfl, ha]
      rw [← hres] at htaken
      generalize res = res at htaken
      cases htaken with
      | waits => exact ⟨by simp, by simp, fun _ _ h => absurd rfl h⟩
      | ended h s' res hconfig hskipped =>
        refine ⟨fun e he => absurd he (hconfig e), fun he => absurd he hskipped, fun _ _ _ => ?_⟩
        exact ⟨_, h, w, hstart, ha, howned, MemoryLock.holder_ne_of_release⟩

end PointExchange
