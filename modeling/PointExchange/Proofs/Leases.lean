import PointExchange.Proofs.Frame

/-!
# One holder at a time

Any number of clients and runs compete for one lock. A client takes a resource for as long as it
likes and gives it back once, twice or too late; a run tries as often as its settings say and gives
back what it got when it leaves. All of this happens in any order, and time passes in between
(`Contest.Event`).

What is known about the guards is written down when they are granted and when they are released
(`Grant`), without looking into the lock. The invariant (`MemoryLock.Backs`) ties these notes to the
lock: of the guards for one resource only the last one that was granted can be live, and a live
guard is the one that the lock has a lease of.
-/

namespace PointExchange

variable {C : Type}

/-- The guard that owns a leased resource. -/
def Lease.holder (s : Lease) : LockGuard := ⟨s.resource, s.token⟩

/-- What is known about a guard without looking into the lock. -/
structure Grant where
  holder : LockGuard
  /-- the time at which its lease runs out -/
  expires : Nat
  /-- it was handed to a client; the guard of a run is known to that run alone -/
  direct : Bool
  released : Bool := false

namespace Grant

/-- The guard is neither released nor expired. -/
def Live (a : Grant) (now : Nat) : Prop := a.released = false ∧ now < a.expires

/-- The lease that the lock has of the guard while it is live. -/
def lease (a : Grant) : Lease := ⟨a.holder.resource, a.holder.token, a.expires⟩

/-- The notes on a guard after `g` was released. -/
def releasing (g : LockGuard) (a : Grant) : Grant :=
  if a.holder = g then { a with released := true } else a

@[simp] theorem holder_releasing (g : LockGuard) (a : Grant) :
    (a.releasing g).holder = a.holder := by
  unfold releasing
  split <;> rfl

theorem Live.of_releasing {g : LockGuard} {a : Grant} {now : Nat}
    (h : (a.releasing g).Live now) : a.holder ≠ g ∧ a.Live now ∧ a.releasing g = a := by
  unfold releasing at h ⊢
  by_cases hg : a.holder = g
  · simp [hg, Live] at h
  · rw [if_neg hg] at h ⊢
    exact ⟨hg, h, rfl⟩

theorem Live.earlier {a : Grant} {now later : Nat} (h : a.Live later) (hn : now ≤ later) :
    a.Live now := ⟨h.1, Nat.lt_of_le_of_lt hn h.2⟩

end Grant

/-! ## The lock and the notes -/

/-- A search for fewer elements finds the same one if that is among them. -/
theorem find?_of_narrower {α : Type} {p q : α → Bool} {a : α} {xs : List α}
    (h : xs.find? p = some a) (ha : q a = true) (hq : ∀ x, q x = true → p x = true) :
    xs.find? q = some a := by
  obtain ⟨-, before, after, rfl, hb⟩ := List.find?_eq_some_iff_append.mp h
  refine List.find?_eq_some_iff_append.mpr ⟨ha, before, after, rfl, fun x hx => ?_⟩
  have hp : p x = false := by simpa using hb x hx
  cases hqx : q x with
  | false => rfl
  | true => simp [hq x hqx] at hp

namespace MemoryLock

variable {l l' : MemoryLock} {resource : String} {g : LockGuard} {s : Lease} {gs : List Grant}

theorem active?_eq_some (h : l.active? resource = some s) :
    s.resource = resource ∧ l.now < s.expires := by
  simpa [active?] using List.find?_some h

/-- **Giving back a guard takes nothing from another one.** -/
theorem active?_release (h : l.active? resource = some s) (hs : s.holder ≠ g) :
    (l.release g).active? resource = some s := by
  obtain ⟨hr, hn⟩ := active?_eq_some h
  have hkept : s.resource ≠ g.resource ∨ s.token ≠ g.token := by
    by_cases hr : s.resource = g.resource
    · exact .inr fun ht => hs (by rw [Lease.holder, hr, ht])
    · exact .inl hr
  rw [active?, release, List.find?_filter]
  refine find?_of_narrower h ?_ fun x hx => (of_decide_eq_true hx).2
  simpa [← hr, hn] using hkept

/-- As time passes a lease stays until it runs out. -/
theorem active?_elapse {ms : Nat} (h : l.active? resource = some s) (hs : l.now + ms < s.expires) :
    (l.elapse ms).active? resource = some s := by
  obtain ⟨hr, -⟩ := active?_eq_some h
  refine find?_of_narrower h ?_ fun x hx => ?_
  · exact Bool.and_eq_true_iff.mpr ⟨beq_iff_eq.mpr hr, decide_eq_true hs⟩
  · obtain ⟨hx, hlate⟩ := Bool.and_eq_true_iff.mp hx
    have hlate : l.now + ms < x.expires := of_decide_eq_true hlate
    exact Bool.and_eq_true_iff.mpr ⟨hx, decide_eq_true (by omega)⟩

theorem acquire_cases (l : MemoryLock) (resource : String) (ttl : Nat) :
    (l.isHeld resource = true ∧
      l.acquire resource ttl = (none, { l with attempts := l.attempts + 1 })) ∨
    (l.isHeld resource = false ∧ l.acquire resource ttl = (some ⟨resource, l.nextToken⟩,
      { l with
        leases := ⟨resource, l.nextToken, l.now + ttl⟩ ::
          l.leases.filter fun s => s.resource != resource
        attempts := l.attempts + 1
        nextToken := l.nextToken + 1 })) := by
  by_cases hl : l.isHeld resource = true
  · exact .inl ⟨hl, acquire_of_isHeld ttl hl⟩
  · refine .inr ⟨by simpa using hl, ?_⟩
    have hl' : isHeld { l with attempts := l.attempts + 1 } resource ≠ true := hl
    rw [acquire]
    simp only [hl', if_false, Bool.false_eq_true]

/-- The lock is as the guards that were granted say. -/
structure Backs (l : MemoryLock) (gs : List Grant) : Prop where
  tokens : gs.Pairwise fun a b => a.holder.token < b.holder.token
  below : ∀ a ∈ gs, a.holder.token < l.nextToken
  owned : ∀ a ∈ gs, a.Live l.now → l.active? a.holder.resource = some a.lease
  newest : gs.Pairwise fun a b => a.holder.resource = b.holder.resource → ¬a.Live l.now

namespace Backs

theorem empty : Backs {} [] := ⟨.nil, by simp, by simp, .nil⟩

theorem refused (h : l.Backs gs) : Backs { l with attempts := l.attempts + 1 } gs :=
  ⟨h.tokens, h.below, h.owned, h.newest⟩

/-- A guard is granted when no other guard of the resource is live. -/
theorem granted (h : l.Backs gs) {ttl : Nat} (direct : Bool)
    (ha : l.acquire resource ttl = (some g, l')) :
    l'.Backs (gs ++ [⟨g, l.now + ttl, direct, false⟩]) ∧ g.resource = resource ∧
      ∀ a ∈ gs, a.holder ≠ g := by
  rcases l.acquire_cases resource ttl with ⟨-, he⟩ | ⟨hfree, he⟩
  · rw [he] at ha
    simp at ha
  rw [he] at ha
  obtain ⟨hg, rfl⟩ := Prod.mk.inj ha
  obtain rfl := Option.some.inj hg
  have hdead : ∀ a ∈ gs, a.holder.resource = resource → ¬a.Live l.now := by
    intro a ha hr hlive
    rw [isHeld, ← hr, h.owned a ha hlive] at hfree
    simp at hfree
  refine ⟨⟨?_, ?_, ?_, ?_⟩, rfl, ?_⟩
  · refine List.pairwise_append.mpr ⟨h.tokens, List.pairwise_singleton _ _, ?_⟩
    intro a ha b hb
    rw [List.mem_singleton.mp hb]
    exact h.below a ha
  · intro a ha
    rcases List.mem_append.mp ha with ha | ha
    · exact Nat.lt_succ_of_lt (h.below a ha)
    · rw [List.mem_singleton.mp ha]
      exact Nat.lt_succ_self _
  · intro a ha hlive
    rcases List.mem_append.mp ha with ha | ha
    · -- a guard that is still live is one of another resource
      have hr : a.holder.resource ≠ resource := fun hr => hdead a ha hr hlive
      have ho := h.owned a ha hlive
      rw [active?, List.find?_cons_of_neg (by simpa using fun h => absurd h.symm hr),
        List.find?_filter]
      refine find?_of_narrower ho ?_ fun x hx => (of_decide_eq_true hx).2
      have hn : l.now < a.lease.expires := hlive.2
      simpa [show a.lease.resource = a.holder.resource from rfl, hr] using hn
    · rw [List.mem_singleton.mp ha] at hlive ⊢
      exact List.find?_cons_of_pos (by simpa using hlive.2)
  · refine List.pairwise_append.mpr ⟨h.newest, List.pairwise_singleton _ _, ?_⟩
    intro a ha b hb hr
    rw [List.mem_singleton.mp hb] at hr
    exact hdead a ha hr
  · intro a ha he
    have ht := h.below a ha
    rw [he] at ht
    exact Nat.lt_irrefl _ ht

/-- Tokens tell the guards apart. -/
theorem eq_of_holder (h : l.Backs gs) {m n : Nat} {a b : Grant} (ha : gs[m]? = some a)
    (hb : gs[n]? = some b) (he : a.holder = b.holder) : m = n := by
  obtain ⟨hm, rfl⟩ := List.getElem?_eq_some_iff.mp ha
  obtain ⟨hn, rfl⟩ := List.getElem?_eq_some_iff.mp hb
  rcases Nat.lt_trichotomy m n with hlt | heq | hlt
  · have ht := List.pairwise_iff_getElem.mp h.tokens m n hm hn hlt
    rw [he] at ht
    exact absurd ht (Nat.lt_irrefl _)
  · exact heq
  · have ht := List.pairwise_iff_getElem.mp h.tokens n m hn hm hlt
    rw [he] at ht
    exact absurd ht (Nat.lt_irrefl _)

theorem released (h : l.Backs gs) (g : LockGuard) :
    (l.release g).Backs (gs.map (Grant.releasing g)) := by
  refine ⟨?_, ?_, ?_, ?_⟩
  · simpa [List.pairwise_map] using h.tokens
  · intro a ha
    obtain ⟨b, hb, rfl⟩ := List.mem_map.mp ha
    rw [Grant.holder_releasing]
    exact h.below b hb
  · intro a ha hlive
    obtain ⟨b, hb, rfl⟩ := List.mem_map.mp ha
    obtain ⟨hg, hb', he⟩ := hlive.of_releasing
    rw [he]
    exact active?_release (h.owned b hb hb') hg
  · refine List.pairwise_map.mpr (h.newest.imp ?_)
    intro a b hab hr hlive
    rw [Grant.holder_releasing, Grant.holder_releasing] at hr
    exact hab hr hlive.of_releasing.2.1

theorem elapsed (h : l.Backs gs) (ms : Nat) : (l.elapse ms).Backs gs := by
  have hn : l.now ≤ (l.elapse ms).now := Nat.le_add_right _ _
  refine ⟨h.tokens, h.below, ?_, ?_⟩
  · intro a ha hlive
    exact active?_elapse (h.owned a ha (hlive.earlier hn)) hlive.2
  · exact h.newest.imp fun hab hr hlive => hab hr (hlive.earlier hn)

/-- **At most one guard of a resource is live.** -/
theorem single (h : l.Backs gs) {m n : Nat} {a b : Grant} (ha : gs[m]? = some a)
    (hb : gs[n]? = some b) (hr : a.holder.resource = b.holder.resource) (hla : a.Live l.now)
    (hlb : b.Live l.now) : m = n := by
  obtain ⟨hm, rfl⟩ := List.getElem?_eq_some_iff.mp ha
  obtain ⟨hn, rfl⟩ := List.getElem?_eq_some_iff.mp hb
  rcases Nat.lt_trichotomy m n with hlt | heq | hlt
  · exact absurd hla (List.pairwise_iff_getElem.mp h.newest m n hm hn hlt hr)
  · exact heq
  · exact absurd hlb (List.pairwise_iff_getElem.mp h.newest n m hn hm hlt hr.symm)

/-- Of two guards of a resource that are not released the earlier one has expired. -/
theorem expired (h : l.Backs gs) {m n : Nat} {a b : Grant} (ha : gs[m]? = some a)
    (hb : gs[n]? = some b) (hr : a.holder.resource = b.holder.resource)
    (hkept : a.released = false) (hlt : m < n) : a.expires ≤ l.now := by
  obtain ⟨hm, rfl⟩ := List.getElem?_eq_some_iff.mp ha
  obtain ⟨hn, rfl⟩ := List.getElem?_eq_some_iff.mp hb
  have hdead := List.pairwise_iff_getElem.mp h.newest m n hm hn hlt hr
  exact Nat.le_of_not_lt fun hlate => hdead ⟨hkept, hlate⟩

end Backs
end MemoryLock

/-! ## The contest -/

/-- How far a run has come with the lock. -/
inductive Stage
  | acquiring (a : Acquisition)
  /-- in the part that the lock protects -/
  | inside (g : LockGuard)
  | ended

/-- Clients and runs that compete for the lock of a site. -/
structure Contest (C : Type) where
  site : Site (Bench C)
  /-- all guards that were granted, oldest first -/
  grants : List Grant := []
  runs : List Stage := []

/-- What happens next. -/
inductive Contest.Event (C : Type)
  /-- a client asks for a resource -/
  | acquire (resource : String) (ttl : Nat)
  /-- a client gives back the guard in a place -/
  | release (place : Nat)
  | elapse (ms : Nat)
  /-- something is done that leaves the lock alone, by a run that is inside or by anybody else -/
  | work (f : Site (Bench C) → Site (Bench C))
  | begin
  /-- the run in a place asks for the lock -/
  | attempt (place : Nat)
  /-- the run in a place leaves the protected part -/
  | leave (place : Nat)

/-- The bench some time later. -/
def Bench.ticking (ms : Nat) (w : Bench C) : Bench C := { w with lock := w.lock.elapse ms }

namespace Contest

def lock (k : Contest C) : MemoryLock := k.site.env.lock

/-- A site with nobody in it and a lock that was never taken. -/
def opening (s : Site (Bench C)) : Contest C where
  site := { s with env := { s.env with lock := {} } }

def withLock (k : Contest C) (l : MemoryLock) : Contest C :=
  { k with site := { k.site with env := { k.site.env with lock := l } } }

/-- The notes after an answer of the lock. -/
def noted (k : Contest C) (ttl : Nat) (direct : Bool) : Option LockGuard → List Grant
  | some g => k.grants ++ [⟨g, k.lock.now + ttl, direct, false⟩]
  | none => k.grants

/-- The contest after a run has asked for the lock. -/
def attempted (k : Contest C) (place ttl : Nat) :
    Acquisition.Outcome × Bench C → Contest C
  | (.again next, w) =>
    { k with site := { k.site with env := w }, runs := k.runs.set place (.acquiring next) }
  | (.settled (.ok (some g)), w) =>
    { site := { k.site with env := w }
      grants := k.noted ttl false (some g)
      runs := k.runs.set place (.inside g) }
  | (.settled _, w) =>
    { k with site := { k.site with env := w }, runs := k.runs.set place .ended }

/-- The contest after an event. What a run does is what its runner does. -/
def step (g : Gateway (Bench C)) (k : Contest C) : Event C → Contest C
  | .acquire resource ttl =>
    let (h, l) := k.lock.acquire resource ttl
    { k.withLock l with grants := k.noted ttl true h }
  | .release place =>
    match k.grants[place]? with
    | some a =>
      if a.direct then
        { k.withLock (k.lock.release a.holder) with
          grants := k.grants.map (Grant.releasing a.holder) }
      else k
    | none => k
  | .elapse ms => k.withLock (k.lock.elapse ms)
  | .work f => { k with site := f k.site }.withLock k.lock
  | .begin =>
    match (Bench.runner g).start k.site with
    | .ok a => { k with runs := k.runs ++ [.acquiring a] }
    | .error _ => k
  | .attempt place =>
    match k.runs[place]? with
    | some (.acquiring a) => k.attempted place a.ttl (a.attempt (Bench.runner g).lock k.site.env)
    | _ => k
  | .leave place =>
    match k.runs[place]? with
    | some (.inside h) =>
      { site := (Bench.runner g).release h k.site
        grants := k.grants.map (Grant.releasing h)
        runs := k.runs.set place .ended }
    | _ => k

def replay (g : Gateway (Bench C)) (k : Contest C) (events : List (Event C)) : Contest C :=
  events.foldl (step g) k

/-- The run in a place is in the protected part with a guard. -/
def Inside (k : Contest C) (place : Nat) (g : LockGuard) : Prop :=
  k.runs[place]? = some (.inside g)

end Contest

/-- The bench after an attempt that was refused. -/
def Bench.refused (w : Bench C) : Bench C :=
  { w with lock := { w.lock with attempts := w.lock.attempts + 1 } }

/-- An attempt is refused when the resource is held, and is granted otherwise. -/
theorem Bench.attempt_cases (g : Gateway (Bench C)) (a : Acquisition) (w : Bench C) :
    (w.lock.isHeld a.resource = true ∧
      ((a.left = 0 ∧ a.attempt (runner g).lock w = (.settled (.ok none), w.refused)) ∨
      ∃ n, a.left = n + 1 ∧
        a.attempt (runner g).lock w = (.again { a with left := n }, w.refused))) ∨
    ∃ h l, w.lock.acquire a.resource a.ttl = (some h, l) ∧
      a.attempt (runner g).lock w = (.settled (.ok (some h)), { w with lock := l }) := by
  have hp : ((runner g).lock.acquire a.resource a.ttl).perform w =
      (.ok (w.lock.acquire a.resource a.ttl).1,
        { w with lock := (w.lock.acquire a.resource a.ttl).2 }) := rfl
  unfold Acquisition.attempt
  rw [hp]
  rcases w.lock.acquire_cases a.resource a.ttl with ⟨held, h⟩ | ⟨-, h⟩
  · rw [h]
    refine .inl ⟨held, ?_⟩
    cases a.left with
    | zero => exact .inl ⟨rfl, rfl⟩
    | succ n => exact .inr ⟨n, rfl, rfl⟩
  · rw [h]
    exact .inr ⟨_, _, rfl, rfl⟩

/-- Runs over a chain of any kind leave the lock alone while they hold it. -/
theorem Bench.lock_locked (g : Gateway C) (s : Site (Bench C)) :
    ((runner (g.inside chain fun c w => { w with chain := c })).locked s).2.env.lock =
      s.env.lock := by
  refine Runner.locked_respects (R := fun w w' => w'.lock = w.lock) ?_ s
  exact {
    refl := fun _ => rfl
    trans := fun h h' => h'.trans h
    chainDomain := fun _ => rfl
    signatureNonce := fun _ _ => rfl
    signDeposit := fun _ _ _ _ => rfl
    estimateGas := fun _ _ _ => rfl
    gasPrice := fun _ => rfl
    transactionCount := fun _ _ => rfl
    chainId := fun _ => rfl
    signTransaction := fun _ _ _ => rfl
    submit := fun _ _ => rfl
    confirm := fun _ _ => rfl
    getIndex := fun _ _ => rfl
    setIndex := fun _ _ _ => rfl
    updateStatus := fun _ _ _ => rfl
    commit := fun _ _ _ => rfl }

namespace Contest

variable {k : Contest C} {g : Gateway (Bench C)}

/-- The notes are right, and every run that is inside has a guard of its own which nobody has
released. -/
structure Sound (k : Contest C) : Prop where
  backs : k.lock.Backs k.grants
  own : ∀ i h, k.Inside i h → ∃ a ∈ k.grants, a.holder = h ∧ a.direct = false ∧ a.released = false
  apart : ∀ i j h, k.Inside i h → k.Inside j h → i = j

namespace Sound

theorem opening (s : Site (Bench C)) : (opening s).Sound :=
  ⟨.empty, by simp [Inside, Contest.opening], by simp [Inside, Contest.opening]⟩

/-- No run gets in, and no notes of a run's guard change. -/
theorem of_runs (h : k.Sound) {k' : Contest C} (backs : k'.lock.Backs k'.grants)
    (runs : ∀ i h, k'.Inside i h → k.Inside i h)
    (grants : ∀ i h, k'.Inside i h → ∀ a ∈ k.grants, a.holder = h → a.direct = false →
      a ∈ k'.grants) : k'.Sound := by
  refine ⟨backs, ?_, ?_⟩
  · intro i g hi
    obtain ⟨a, ha, hg, hd, hr⟩ := h.own i g (runs i g hi)
    exact ⟨a, grants i g hi a ha hg hd, hg, hd, hr⟩
  · intro i j g hi hj
    exact h.apart i j g (runs i g hi) (runs j g hj)

theorem acquire (h : k.Sound) (resource : String) (ttl : Nat) :
    (k.step g (.acquire resource ttl)).Sound := by
  rcases hl : k.lock.acquire resource ttl with ⟨_ | granted, l⟩
  all_goals simp only [step, hl]
  · rcases k.lock.acquire_cases resource ttl with ⟨-, he⟩ | ⟨-, he⟩
    · rw [he] at hl
      obtain ⟨-, rfl⟩ := Prod.mk.inj hl
      exact h.of_runs h.backs.refused (fun i h hi => hi) fun _ _ _ a ha _ _ => ha
    · simp [he] at hl
  · obtain ⟨hb, -, -⟩ := h.backs.granted true hl
    exact h.of_runs hb (fun i h hi => hi) fun _ _ _ a ha _ _ => List.mem_append_left _ ha

theorem release (h : k.Sound) (place : Nat) : (k.step g (.release place)).Sound := by
  simp only [step]
  split
  next a ha =>
    by_cases hd : a.direct = true
    · rw [if_pos hd]
      refine h.of_runs (h.backs.released a.holder) (fun i h hi => hi) ?_
      -- the guard of a client is not one of a run
      intro i g hi b hb hg hdb
      have hne : b.holder ≠ a.holder := by
        intro he
        obtain ⟨n, hn⟩ := List.mem_iff_getElem?.mp hb
        have hsame := h.backs.eq_of_holder hn ha he
        rw [hsame, ha] at hn
        rw [← Option.some.inj hn, hd] at hdb
        exact Bool.noConfusion hdb
      exact List.mem_map.mpr ⟨b, hb, if_neg hne⟩
    · rw [if_neg hd]
      exact h
  next => exact h

/-- Who is inside after the stage of one run has changed. -/
theorem inside_set {runs : List Stage} {place i : Nat} {stage : Stage} {g : LockGuard}
    (hi : (runs.set place stage)[i]? = some (.inside g)) :
    (i = place ∧ stage = .inside g) ∨ (i ≠ place ∧ runs[i]? = some (.inside g)) := by
  rw [List.getElem?_set] at hi
  by_cases hp : place = i
  · rw [if_pos hp] at hi
    split at hi
    · exact .inl ⟨hp.symm, Option.some.inj hi⟩
    · simp at hi
  · rw [if_neg hp] at hi
    exact .inr ⟨Ne.symm hp, hi⟩

theorem begin (h : k.Sound) : (k.step g .begin).Sound := by
  simp only [step]
  split
  next a ha =>
    refine h.of_runs h.backs (fun i g hi => ?_) fun _ _ _ a ha _ _ => ha
    unfold Inside at hi ⊢
    rw [List.getElem?_append] at hi
    split at hi
    · exact hi
    · simp [List.getElem?_singleton] at hi
  next => exact h

theorem attempt (h : k.Sound) (place : Nat) : (k.step g (.attempt place)).Sound := by
  simp only [step]
  split
  next a ha =>
    have hset : ∀ stage : Stage, (∀ g, stage ≠ .inside g) → ∀ (i : Nat) (g : LockGuard),
        (k.runs.set place stage)[i]? = some (.inside g) → k.Inside i g := by
      intro stage hs i g hi
      rcases inside_set hi with ⟨-, hg⟩ | ⟨-, hi⟩
      · exact absurd hg (hs g)
      · exact hi
    rcases Bench.attempt_cases g a k.site.env with
      ⟨-, ⟨-, he⟩ | ⟨n, -, he⟩⟩ | ⟨granted, l, hl, he⟩
    · rw [he]
      exact h.of_runs h.backs.refused (hset .ended (by simp)) fun _ _ _ a ha _ _ => ha
    · rw [he]
      exact h.of_runs h.backs.refused (hset (.acquiring _) (by simp)) fun _ _ _ a ha _ _ => ha
    · rw [he]
      obtain ⟨hb, -, hfresh⟩ := h.backs.granted false hl
      have hother : ∀ (i : Nat) (h' : LockGuard),
          (k.runs.set place (.inside granted))[i]? = some (.inside h') →
          i = place ∧ h' = granted ∨ k.Inside i h' := by
        intro i h' hi
        rcases inside_set hi with ⟨hp, hg⟩ | ⟨-, hi⟩
        · exact .inl ⟨hp, by simpa using hg.symm⟩
        · exact .inr hi
      -- nobody else is inside with a guard that has just been granted
      have hnew : ∀ i, ¬k.Inside i granted := by
        intro i hi
        obtain ⟨b, hb, hg, -⟩ := h.own i granted hi
        exact hfresh b hb hg
      refine ⟨hb, ?_, ?_⟩
      · intro i h' hi
        rcases hother i h' hi with ⟨-, rfl⟩ | hi
        · exact ⟨_, List.mem_append_right _ (List.mem_singleton_self _), rfl, rfl, rfl⟩
        · obtain ⟨b, hb, hg⟩ := h.own i h' hi
          exact ⟨b, List.mem_append_left _ hb, hg⟩
      · intro i j h' hi hj
        rcases hother i h' hi with ⟨hpi, hg⟩ | hki
        · rcases hother j h' hj with ⟨hpj, -⟩ | hkj
          · rw [hpi, hpj]
          · exact absurd (hg ▸ hkj) (hnew j)
        · rcases hother j h' hj with ⟨-, hg⟩ | hkj
          · exact absurd (hg ▸ hki) (hnew i)
          · exact h.apart i j h' hki hkj
  next => exact h

theorem leave (h : k.Sound) (place : Nat) : (k.step g (.leave place)).Sound := by
  simp only [step]
  split
  next own hown =>
    have hset : ∀ (i : Nat) (g : LockGuard),
        (k.runs.set place .ended)[i]? = some (.inside g) → i ≠ place ∧ k.Inside i g := by
      intro i g hi
      rcases inside_set hi with ⟨-, hg⟩ | hi
      · simp at hg
      · exact hi
    refine h.of_runs (h.backs.released own) (fun i g hi => (hset i g hi).2) ?_
    intro i g hi b hb hg _
    -- the run that leaves is the only one with its guard
    obtain ⟨hp, hi⟩ := hset i g hi
    have hne : b.holder ≠ own := by
      intro he
      rw [← hg, he] at hi
      exact hp (h.apart i place own hi hown)
    exact List.mem_map.mpr ⟨b, hb, if_neg hne⟩
  next => exact h

/-- **Whatever happens next, the notes stay right.** -/
theorem step (h : k.Sound) (e : Event C) : (k.step g e).Sound := by
  cases e with
  | acquire resource ttl => exact h.acquire resource ttl
  | release place => exact h.release place
  | elapse ms =>
    exact h.of_runs (h.backs.elapsed ms) (fun i h hi => hi) fun _ _ _ a ha _ _ => ha
  | work f => exact h.of_runs h.backs (fun i h hi => hi) fun _ _ _ a ha _ _ => ha
  | begin => exact h.begin
  | attempt place => exact h.attempt place
  | leave place => exact h.leave place

theorem replay (h : k.Sound) (events : List (Event C)) : (k.replay g events).Sound := by
  induction events generalizing k with
  | nil => exact h
  | cons e rest ih => exact ih (h.step e)

end Sound

/-! ### A run as a sequence of events -/

theorem replay_append (g : Gateway (Bench C)) (k : Contest C) (es fs : List (Event C)) :
    k.replay g (es ++ fs) = (k.replay g es).replay g fs := List.foldl_append

theorem step_attempt {a : Acquisition} {place : Nat} (hk : k.runs[place]? = some (.acquiring a)) :
    k.step g (.attempt place) =
      k.attempted place a.ttl (a.attempt (Bench.runner g).lock k.site.env) := by
  simp only [step, hk]

theorem site_leave {place : Nat} {h : LockGuard} (hi : k.Inside place h) :
    (k.step g (.leave place)).site = (Bench.runner g).release h k.site := by
  unfold Inside at hi
  simp only [step, hi]

/-- A run that asks for the lock again and again, while nothing but time passes in between. -/
theorem exists_replay_acquisition (g : Gateway (Bench C)) (a : Acquisition) (w : Bench C)
    (k : Contest C) (place : Nat) (hk : k.runs[place]? = some (.acquiring a))
    (hw : k.site.env = w) :
    ∃ events, (k.replay g events).site = { k.site with
        env := (a.run (Bench.runner g).lock Bench.ticking w).2 } ∧
      ∀ h, (a.run (Bench.runner g).lock Bench.ticking w).1 = .ok (some h) →
        (k.replay g events).Inside place h := by
  have hlen : place < k.runs.length := (List.getElem?_eq_some_iff.mp hk).1
  fun_induction Acquisition.run a (Bench.runner g).lock Bench.ticking w generalizing k with
  | case1 a w r w' h =>
    refine ⟨[.attempt place], ?_⟩
    show (k.step g (.attempt place)).site = _ ∧ ∀ h, _ → (k.step g (.attempt place)).Inside place h
    rw [step_attempt hk, hw, h]
    rcases r with e | _ | granted
    · exact ⟨rfl, by simp⟩
    · exact ⟨rfl, by simp⟩
    · refine ⟨rfl, fun h hg => ?_⟩
      obtain rfl : granted = h := by simpa using hg
      simp [attempted, Inside, hlen]
  | case2 a w b w' h ih =>
    have hagain : k.step g (.attempt place) =
        { k with site := { k.site with env := w' }, runs := k.runs.set place (.acquiring b) } := by
      rw [step_attempt hk, hw, h]
      rfl
    obtain ⟨events, hsite, hinside⟩ := ih ((k.step g (.attempt place)).step g (.elapse b.delay))
      (by rw [hagain]; simp [step, withLock, hlen]) (by rw [hagain]; rfl)
      (by rw [hagain]; simpa [step, withLock] using hlen)
    refine ⟨.attempt place :: .elapse b.delay :: events, hsite.trans ?_, hinside⟩
    rw [hagain]
    rfl

/-- A run that is inside works there, and unless it waits for good it leaves. -/
theorem exists_replay_finish {g : Gateway (Bench C)}
    (hlock : ∀ s, ((Bench.runner g).locked s).2.env.lock = s.env.lock) (k : Contest C) {place : Nat}
    {h : LockGuard} (hi : k.Inside place h) :
    ∃ events, (k.replay g events).site =
      ((Bench.runner g).finish (.ok (some h)) k.site).2 := by
  let work : Event C := .work fun s => ((Bench.runner g).locked s).2
  have hwork : (k.step g work).site = ((Bench.runner g).locked k.site).2 := by
    simp only [work, step, withLock, lock, ← hlock k.site]
  have hleave : (k.replay g [work, .leave place]).site =
      (Bench.runner g).release h (k.step g work).site := site_leave (k := k.step g work) hi
  unfold Runner.finish
  rcases hl : (Bench.runner g).locked k.site with ⟨(e | _) | outcome, s⟩
  all_goals rw [hl] at hwork
  · refine ⟨[work, .leave place], ?_⟩
    rw [hleave, hwork]
  · exact ⟨[work], hwork⟩
  · refine ⟨[work, .leave place], ?_⟩
    rw [hleave, hwork]

/-- **A run that nobody disturbs is one of these sequences of events,** over a chain of any kind. -/
theorem exists_replay_runOnce (chain : Gateway C) (k : Contest C) :
    ∃ events,
      (k.replay (chain.inside Bench.chain fun c w => { w with chain := c }) events).site =
        ((Bench.runner (chain.inside Bench.chain fun c w => { w with chain := c })).runOnce
          Bench.ticking k.site).2 := by
  have hlock := Bench.lock_locked chain
  generalize chain.inside Bench.chain (fun c w => { w with chain := c }) = g at hlock ⊢
  unfold Runner.runOnce
  cases hs : (Bench.runner g).start k.site with
  | error e => exact ⟨[], rfl⟩
  | ok a =>
    have hbegin : k.step g .begin = { k with runs := k.runs ++ [.acquiring a] } := by
      simp only [step, hs]
    obtain ⟨events, hsite, hinside⟩ := exists_replay_acquisition g a k.site.env (k.step g .begin)
      k.runs.length (by simp [hbegin]) (by rw [hbegin])
    have hreplay : (k.step g .begin).replay g events = k.replay g (.begin :: events) := rfl
    rw [hreplay, hbegin] at hsite
    rw [hreplay] at hinside
    rcases hr : a.run (Bench.runner g).lock Bench.ticking k.site.env with ⟨e | _ | h, w⟩
    all_goals
      rw [hr] at hsite hinside
      simp only [hr]
    · exact ⟨.begin :: events, hsite⟩
    · exact ⟨.begin :: events, hsite⟩
    · obtain ⟨more, hmore⟩ := exists_replay_finish hlock _ (hinside h rfl)
      refine ⟨.begin :: events ++ more, ?_⟩
      rw [replay_append, hmore, hsite]

end Contest

/-! ## The result -/

/-- **The lock has one holder at a time,** whatever clients and runs do with it in whatever order.
At every moment at most one guard of a resource is neither released nor expired, and the lock is
its. If two runs are in the protected part for the same resource, the lease of the one that got in
earlier has expired. And giving back a guard frees no resource that another guard owns. -/
theorem one_holder_at_a_time (g : Gateway (Bench C)) (s : Site (Bench C))
    (events : List (Contest.Event C)) :
    let k := (Contest.opening s).replay g events
    (∀ (m n : Nat) (a b : Grant), k.grants[m]? = some a → k.grants[n]? = some b →
      a.holder.resource = b.holder.resource → a.Live k.lock.now → b.Live k.lock.now → m = n) ∧
    (∀ a ∈ k.grants, a.Live k.lock.now → k.lock.active? a.holder.resource = some a.lease) ∧
    (∀ (i j : Nat) (x y : LockGuard), i ≠ j → k.Inside i x → k.Inside j y →
      x.resource = y.resource →
      ∃ (m n : Nat) (a b : Grant), k.grants[m]? = some a ∧ k.grants[n]? = some b ∧
        a.holder = x ∧ b.holder = y ∧
        (m < n ∧ a.expires ≤ k.lock.now ∨ n < m ∧ b.expires ≤ k.lock.now)) ∧
    (∀ (x : LockGuard) (resource : String) (owner : Lease),
      k.lock.active? resource = some owner → owner.holder ≠ x →
      (k.lock.release x).active? resource = some owner) := by
  intro k
  have h : k.Sound := (Contest.Sound.opening s).replay events
  refine ⟨?_, h.backs.owned, ?_, ?_⟩
  · intro m n a b ha hb hr hla hlb
    exact h.backs.single ha hb hr hla hlb
  · intro i j x y hij hx hy hr
    obtain ⟨a, hma, hax, -, hka⟩ := h.own i x hx
    obtain ⟨b, hmb, hby, -, hkb⟩ := h.own j y hy
    obtain ⟨m, ha⟩ := List.mem_iff_getElem?.mp hma
    obtain ⟨n, hb⟩ := List.mem_iff_getElem?.mp hmb
    have hres : a.holder.resource = b.holder.resource := by rw [hax, hby, hr]
    refine ⟨m, n, a, b, ha, hb, hax, hby, ?_⟩
    rcases Nat.lt_trichotomy m n with hlt | heq | hlt
    · exact .inl ⟨hlt, h.backs.expired ha hb hres hka hlt⟩
    · -- two runs do not share a guard
      rw [heq, hb] at ha
      obtain rfl := Option.some.inj ha
      rw [hax] at hby
      exact absurd (h.apart i j x hx (hby ▸ hy)) hij
    · exact .inr ⟨hlt, h.backs.expired hb ha hres.symm hkb hlt⟩
  · intro x resource owner ho hne
    exact MemoryLock.active?_release ho hne

/-- Two runs can be inside at once: the second one gets in when the lease of the first one is over,
and is not disturbed when the first one leaves. -/
example :
    let s : Site (Bench SimulatedChain) := { queue := {}, env := { chain := {} } }
    let g := s.env.chain.runner.gateway
    let resource := "handle_point_swap_transaction_lock"
    let k := (Contest.opening s).replay g [.begin, .attempt 0, .elapse 10000, .begin, .attempt 1]
    k.Inside 0 ⟨resource, 0⟩ ∧ k.Inside 1 ⟨resource, 1⟩ ∧
      (k.step g (.leave 0)).lock.active? resource = some ⟨resource, 1, 20000⟩ :=
  ⟨rfl, rfl, rfl⟩

end PointExchange
