import Mathlib.Data.List.Induction
import PointExchange.Node.Gateway
import PointExchange.Proofs.Flights

/-!
# What becomes of a broadcast

Whatever the gateway answers and in whatever order the broadcasts take their turns, a broadcast is
judged by what the gateway answers to itself, unless it is given up behind one that was refused, and
it is the lower number of this one that its error tells (`Flight.Stand.verdicts`).

The induction is on the turns with the last one apart (`Flight.Stand.turn`). What carries it is that
a broadcast that is settled stays as it is, so one that was refused is still there at the end.
-/

namespace PointExchange

variable {E : Type} {g : Gateway E}

/-! ## What the gateway answers to a broadcast -/

namespace Flight

/-- The turn with the place `n` among the turns is one of the broadcast in `place`, and finds the
environment `now`. -/
structure HasTurn (g : Gateway E) (turns : List Turn) (fs : List Flight) (e : E) (place n : Nat)
    (now : E) : Prop where
  turn : ∃ t, turns[n]? = some t ∧ t.place = place
  env : (run g (turns.take n) fs e).2 = now

/-- The node has taken a transaction over in the turn with the place `n`, and told its hash. -/
def TakenOver (g : Gateway E) (turns : List Turn) (fs : List Flight) (e : E) (place : Nat)
    (raw : Bytes) (hash : Hash) (n : Nat) (after : E) : Prop :=
  ∃ now, HasTurn g turns fs e place n now ∧ (g.submit raw).perform now = (.ok hash, after)

/-- A transaction that the node has taken over is looked for, in the same turn of its broadcast or
in a later one. -/
def LookedFor (g : Gateway E) (turns : List Turn) (fs : List Flight) (e : E) (place : Nat)
    (raw : Bytes) (hash : Hash) (now : E) : Prop :=
  ∃ n after, TakenOver g turns fs e place raw hash n after ∧
    (now = after ∨ ∃ m, n < m ∧ HasTurn g turns fs e place m now)

/-- What the gateway answers to a broadcast itself. -/
inductive Judged (g : Gateway E) (turns : List Turn) (fs : List Flight) (e : E) (place : Nat)
    (raw : Bytes) : Except GatewayError Hash → Prop
  /-- the transaction was not taken over -/
  | rejected {n now x after} (turn : HasTurn g turns fs e place n now)
    (answer : (g.submit raw).perform now = (.error x, after)) :
    Judged g turns fs e place raw (.error x)
  /-- it was, and something became of it -/
  | included {hash now block after} (look : LookedFor g turns fs e place raw hash now)
    (answer : (g.confirm hash).perform now = (.ok (some block), after)) :
    Judged g turns fs e place raw (.ok block)
  | failed {hash now x after} (look : LookedFor g turns fs e place raw hash now)
    (answer : (g.confirm hash).perform now = (.error x, after)) :
    Judged g turns fs e place raw (.error x)

/-- How far a broadcast has come by what the gateway answers to it. -/
inductive Told (g : Gateway E) (turns : List Turn) (fs : List Flight) (e : E) (place : Nat)
    (raw : Bytes) : Progress → Prop
  | queued : Told g turns fs e place raw .queued
  | waiting {hash n after} (taken : TakenOver g turns fs e place raw hash n after) :
    Told g turns fs e place raw (.waiting hash)
  | settled {r} (judged : Judged g turns fs e place raw r) :
    Told g turns fs e place raw (.settled r)

section Turns

variable {turns : List Turn} {fs : List Flight} {e now after : E} {place n : Nat} {raw : Bytes}
  {hash : Hash}

theorem HasTurn.lt (h : HasTurn g turns fs e place n now) : n < turns.length := by
  obtain ⟨t, ht, -⟩ := h.turn
  exact (List.getElem?_eq_some_iff.mp ht).1

/-- Further turns do not change the earlier ones. -/
theorem HasTurn.concat (h : HasTurn g turns fs e place n now) (t : Turn) :
    HasTurn g (turns ++ [t]) fs e place n now where
  turn := by
    rw [List.getElem?_append_left h.lt]
    exact h.turn
  env := by
    rw [List.take_append_of_le_length (Nat.le_of_lt h.lt)]
    exact h.env

/-- The last turn finds the environment that the others leave. -/
theorem HasTurn.last (g : Gateway E) (turns : List Turn) (fs : List Flight) (e : E) (t : Turn) :
    HasTurn g (turns ++ [t]) fs e t.place turns.length (run g turns fs e).2 where
  turn := ⟨t, List.getElem?_concat_length, rfl⟩
  env := by rw [List.take_left]

theorem TakenOver.concat (h : TakenOver g turns fs e place raw hash n after) (t : Turn) :
    TakenOver g (turns ++ [t]) fs e place raw hash n after := by
  obtain ⟨now, ht, hs⟩ := h
  exact ⟨now, ht.concat t, hs⟩

theorem TakenOver.lt (h : TakenOver g turns fs e place raw hash n after) : n < turns.length := by
  obtain ⟨now, ht, -⟩ := h
  exact ht.lt

theorem LookedFor.concat (h : LookedFor g turns fs e place raw hash now) (t : Turn) :
    LookedFor g (turns ++ [t]) fs e place raw hash now := by
  obtain ⟨n, after, ht, hl⟩ := h
  refine ⟨n, after, ht.concat t, ?_⟩
  rcases hl with hl | ⟨m, hm, hl⟩
  · exact .inl hl
  · exact .inr ⟨m, hm, hl.concat t⟩

theorem Judged.concat {r : Except GatewayError Hash} (h : Judged g turns fs e place raw r)
    (t : Turn) : Judged g (turns ++ [t]) fs e place raw r := by
  cases h with
  | rejected turn answer => exact .rejected (turn.concat t) answer
  | included look answer => exact .included (look.concat t) answer
  | failed look answer => exact .failed (look.concat t) answer

theorem Told.concat {p : Progress} (h : Told g turns fs e place raw p) (t : Turn) :
    Told g (turns ++ [t]) fs e place raw p := by
  cases h with
  | queued => exact .queued
  | waiting taken => exact .waiting (taken.concat t)
  | settled judged => exact .settled (judged.concat t)

/-- A look tells what became of the transaction, or that it still waits. -/
theorem Told.look (taken : TakenOver g turns fs e place raw hash n after)
    (look : LookedFor g turns fs e place raw hash now) :
    Told g turns fs e place raw (Progress.look g hash now).1 := by
  rw [Progress.look]
  rcases h : (g.confirm hash).perform now with ⟨x | _ | block, e'⟩
  · exact .settled (.failed look h)
  · exact .waiting taken
  · exact .settled (.included look h)

/-- **A broadcast goes on by what the gateway answers to it** in the last turn. -/
theorem Told.advance {p : Progress} {t : Turn} (h : Told g turns fs e t.place raw p) :
    Told g (turns ++ [t]) fs e t.place raw (p.advance g raw (run g turns fs e).2).1 := by
  have hlast := HasTurn.last g turns fs e t
  cases h with
  | queued =>
    rw [Progress.advance]
    rcases hs : (g.submit raw).perform (run g turns fs e).2 with ⟨x | hash, e'⟩
    · exact .settled (.rejected hlast hs)
    · have taken : TakenOver g (turns ++ [t]) fs e t.place raw hash turns.length e' :=
        ⟨_, hlast, hs⟩
      exact .look taken ⟨_, _, taken, .inl rfl⟩
  | waiting taken =>
    exact .look (taken.concat t) ⟨_, _, taken.concat t, .inr ⟨_, taken.lt, hlast⟩⟩
  | settled judged => exact .settled (judged.concat t)

end Turns

/-! ## What a turn does -/

/-- Which permit a broadcast is of. -/
def identity (f : Flight) : Nat × SignedTransaction := (f.number, f.transaction)

/-- The broadcast was given up, since one of lower number was refused. -/
def GivenUp (f : Flight) (now : List Flight) : Prop :=
  ∃ k, f.progress = .settled (.error (.nonceGap k)) ∧ k < f.number ∧
    ∃ x ∈ now, x.number = k ∧ x.refused = true

/-- What a turn of a broadcast comes to. -/
inductive Turned (g : Gateway E) (gap : Option Nat) (f : Flight) (e : E) : Flight → Prop
  /-- it was settled already -/
  | done {r} (before : f.progress = .settled r) : Turned g gap f e f
  /-- it goes on by what the gateway answers -/
  | goes : Turned g gap f e { f with progress := (f.progress.advance g f.transaction.raw e).1 }
  | gap {k} (ahead : gap = some k) (before : ¬f.Settled) :
    Turned g gap f e { f with progress := .settled (.error (.nonceGap k)) }

theorem turn_turned (g : Gateway E) (gapFirst : Bool) (gap : Option Nat) (f : Flight) (e : E) :
    Turned g gap f e (f.turn g gapFirst gap e).1 := by
  have unsettled (h : ∀ r, f.progress = .settled r → False) : ¬f.Settled := fun ⟨r, hr⟩ => h r hr
  unfold turn
  split
  next r hr => exact .done hr
  next => exact .goes
  next k hp =>
    split
    next => exact .gap rfl (unsettled hp)
    next =>
      split
      next r e' ha =>
        have hgo : Turned g (some k) f e
          { f with progress := (f.progress.advance g f.transaction.raw e).1 } := .goes
        rw [ha] at hgo
        exact hgo
      next => exact .gap rfl (unsettled hp)

section Turned

variable {gap : Option Nat} {f f' : Flight} {e : E}

theorem Turned.identity_eq (h : Turned g gap f e f') : f'.identity = f.identity := by
  cases h <;> rfl

/-- A turn does not change a broadcast that is over. -/
theorem Turned.of_settled (h : Turned g gap f e f') (hf : f.Settled) : f' = f := by
  obtain ⟨r, hr⟩ := hf
  cases h with
  | done => rfl
  | goes =>
    rw [hr]
    show ({ f with progress := .settled r } : Flight) = f
    rw [← hr]
  | gap ahead before => exact absurd ⟨r, hr⟩ before

end Turned

theorem refused_iff {f : Flight} : f.refused = true ↔
    ∃ x, f.progress = .settled (.error x) ∧ x.rejectedAtSubmit = true := by
  unfold refused
  split
  next x hx => simp [hx]
  next hx => simpa using fun x h => absurd h (hx x)

theorem Settled.of_refused {f : Flight} (h : f.refused = true) : f.Settled := by
  obtain ⟨x, hx, -⟩ := refused_iff.mp h
  exact ⟨_, hx⟩

/-- What is looked for ahead of a broadcast is the number of one that was refused. -/
theorem exists_refused_of_gap {fs : List Flight} {number k : Nat}
    (h : ((firstRefused? fs).filter fun k => k < number) = some k) :
    k < number ∧ ∃ x ∈ fs, x.number = k ∧ x.refused = true := by
  obtain ⟨hmin, hlt⟩ := Option.filter_eq_some_iff.mp h
  obtain ⟨x, hx, rfl⟩ := List.mem_map.mp (List.min?_eq_some_iff.mp hmin).1
  obtain ⟨hm, hr⟩ := List.mem_filter.mp hx
  exact ⟨by simpa using hlt, x, hm, rfl, hr⟩

/-- A broadcast that was given up stays so, as long as those that were refused are still there. -/
theorem GivenUp.mono {f : Flight} {now next : List Flight} (h : f.GivenUp now)
    (stay : ∀ x ∈ now, x.refused = true → x ∈ next) : f.GivenUp next := by
  obtain ⟨k, hp, hk, x, hx, hn, hr⟩ := h
  exact ⟨k, hp, hk, x, stay x hx hr, hn, hr⟩

/-- How the broadcasts stand after some turns: each has come as far as the gateway answered to it,
or was given up. -/
structure Stand (g : Gateway E) (turns : List Turn) (fs : List Flight) (e : E)
    (now : List Flight) : Prop where
  same : now.map identity = fs.map identity
  told : ∀ (place : Nat) (f : Flight), now[place]? = some f →
    Told g turns fs e place f.transaction.raw f.progress ∨ f.GivenUp now

section Stand

variable {turns : List Turn} {fs now : List Flight} {e : E}

/-- Those that were refused stay where they are. -/
theorem mem_set_of_refused {f f' : Flight} {gap : Option Nat} {e' : E} {place : Nat}
    (hf : now[place]? = some f) (h : Turned g gap f e' f') :
    ∀ x ∈ now, x.refused = true → x ∈ now.set place f' := by
  intro x hx hr
  obtain ⟨i, hi⟩ := List.mem_iff_getElem?.mp hx
  by_cases hp : place = i
  · obtain rfl : f = x := Option.some.inj (hf.symm.trans (hp ▸ hi))
    rw [h.of_settled (.of_refused hr)]
    obtain ⟨hl, rfl⟩ := List.getElem?_eq_some_iff.mp hf
    rw [List.set_getElem_self]
    exact hx
  · exact List.mem_of_getElem? ((List.getElem?_set_ne hp).trans hi)

/-- A turn of a broadcast keeps the stand of all of them. -/
theorem Stand.set {f f' : Flight} {t : Turn} (h : Stand g turns fs e now)
    (hf : now[t.place]? = some f)
    (turned : Turned g ((firstRefused? now).filter fun k => k < f.number) f
      (run g turns fs e).2 f') :
    Stand g (turns ++ [t]) fs e (now.set t.place f') where
  same := by
    obtain ⟨hl, rfl⟩ := List.getElem?_eq_some_iff.mp hf
    have hl' : t.place < (now.map identity).length := by rwa [List.length_map]
    rw [List.map_set, turned.identity_eq, ← List.getElem_map identity (h := hl'),
      List.set_getElem_self, h.same]
  told place x hx := by
    have stay := mem_set_of_refused hf turned
    by_cases hp : t.place = place
    · subst hp
      obtain ⟨hl, -⟩ := List.getElem?_eq_some_iff.mp hf
      rw [List.getElem?_set_self hl] at hx
      obtain rfl := Option.some.inj hx
      cases turned with
      | done before => exact (h.told _ f hf).imp (fun ha => ha.concat t) (fun hg => hg.mono stay)
      | goes =>
        rcases h.told _ f hf with ha | ⟨k, hk, hg⟩
        · exact .inl ha.advance
        · -- what was given up is over
          refine .inr (GivenUp.mono ⟨k, ?_, hg⟩ stay)
          rw [hk]
          rfl
      | @gap k ahead before =>
        obtain ⟨hk, hr⟩ := exists_refused_of_gap ahead
        exact .inr (GivenUp.mono ⟨k, rfl, hk, hr⟩ stay)
    · rw [List.getElem?_set_ne hp] at hx
      exact (h.told place x hx).imp (fun ha => ha.concat t) (fun hg => hg.mono stay)

/-- **A turn keeps the stand.** -/
theorem Stand.turn (h : Stand g turns fs e (run g turns fs e).1) (t : Turn) :
    Stand g (turns ++ [t]) fs e (run g (turns ++ [t]) fs e).1 := by
  rw [run_append]
  show Stand g (turns ++ [t]) fs e (turnAt g t (run g turns fs e).1 (run g turns fs e).2).1
  unfold turnAt
  split
  next f hf => exact h.set hf (turn_turned g t.gapFirst _ f _)
  next =>
    refine ⟨h.same, fun place f hf => ?_⟩
    exact (h.told place f hf).imp (fun ha => ha.concat t) fun hg => hg

/-- **Whatever turns the broadcasts take,** each has come as far as the gateway answered to it, or
was given up. -/
theorem stand_run (g : Gateway E) (turns : List Turn) (fs : List Flight) (e : E)
    (queued : ∀ f ∈ fs, f.progress = .queued) : Stand g turns fs e (run g turns fs e).1 := by
  induction turns using List.reverseRecOn with
  | nil =>
    refine ⟨rfl, fun place f hf => .inl ?_⟩
    rw [queued f (List.mem_of_getElem? hf)]
    exact .queued
  | append_singleton turns t ih => exact ih.turn t

end Stand
end Flight

/-! ## Refusals -/

/-- What a gateway answers about a transaction that the node has taken over is never that it was
refused, and the gateway knows of no gaps. -/
structure Gateway.TellsApart (g : Gateway E) : Prop where
  submit : ∀ {raw : Bytes} {e e' : E} {x : GatewayError},
    (g.submit raw).perform e = (.error x, e') → ∀ k, x ≠ .nonceGap k
  confirm : ∀ {hash : Hash} {e e' : E} {x : GatewayError},
    (g.confirm hash).perform e = (.error x, e') →
      x.rejectedAtSubmit = false ∧ ∀ k, x ≠ .nonceGap k

theorem SimulatedChain.gateway_tellsApart (start : SimulatedChain) : start.gateway.TellsApart where
  submit {raw e e' x} h := by
    have hs := SimulatedChain.submitted e raw
    rw [show e.submit raw = _ from h] at hs
    cases hs <;> exact fun k => GatewayError.noConfusion
  confirm h := by
    rw [gateway, Call.perform_ask] at h
    simp at h

theorem Call.exists_of_orElse_error {ε δ α : Type} {c : Call E ε α} {f : ε → δ} {e e' : E} {y : δ}
    (h : (c.orElse f).perform e = (.error y, e')) : ∃ x, y = f x := by
  rw [Call.perform_orElse] at h
  split at h
  · simp at h
  next x e₁ hx =>
    obtain ⟨hy, -⟩ := Prod.mk.inj h
    exact ⟨x, (Except.error.inj hy).symm⟩

/-- If two calls in a row fail, the first one does, or else the second one. -/
theorem Call.perform_bind_eq_error {ε α β : Type} {c : Call E ε α} {k : α → Call E ε β} {e e' : E}
    {x : ε} (h : (c >>= k).perform e = (.error x, e')) :
    c.perform e = (.error x, e') ∨
      ∃ a e₁, c.perform e = (.ok a, e₁) ∧ (k a).perform e₁ = (.error x, e') := by
  rcases hc : c.perform e with ⟨y | a, e₁⟩
  · rw [perform_bind_error hc] at h
    obtain ⟨hx, rfl⟩ := Prod.mk.inj h
    exact .inl (by rw [Except.error.inj hx])
  · rw [perform_bind_ok hc] at h
    exact .inr ⟨a, e₁, rfl, h⟩

theorem NodeLink.confirm_error {n : NodeLink E} {hash : Hash} {e e' : E} {x : GatewayError}
    (h : (n.confirm hash).perform e = (.error x, e')) :
    (∃ p, x = .pending p) ∨ ∃ hash, x = .reverted hash := by
  have receipt {e e' : E} (h : (n.receipt hash).perform e = (.error x, e')) :
      ∃ p, x = .pending p := by
    obtain ⟨r, hr⟩ := Call.exists_of_orElse_error h
    exact ⟨_, hr⟩
  rcases Call.perform_bind_eq_error h with h | ⟨first, e₁, -, h⟩
  · exact .inl (receipt h)
  cases first with
  | none => exact .inl ⟨.timeout, by simpa using congrArg Prod.fst h.symm⟩
  | some =>
    rcases Call.perform_bind_eq_error h with h | ⟨second, e₂, -, h⟩
    · exact .inl (receipt h)
    cases second with
    | none => exact .inl ⟨.rpc .absent, by simpa using congrArg Prod.fst h.symm⟩
    | some r =>
      dsimp only at h
      split at h
      · simp at h
      · exact .inr ⟨r.hash, by simpa using congrArg Prod.fst h.symm⟩

theorem NodeLink.gateway_tellsApart (n : NodeLink E) (k : GatewayKeys) :
    (n.gateway k).TellsApart where
  submit h k := by
    rcases Call.perform_bind_eq_error h with h | ⟨-, e₁, -, h⟩
    · obtain ⟨c, rfl⟩ := Call.exists_of_orElse_error h
      exact GatewayError.noConfusion
    · obtain ⟨c, rfl⟩ := Call.exists_of_orElse_error h
      exact GatewayError.noConfusion
  confirm h := by
    rcases NodeLink.confirm_error h with ⟨p, rfl⟩ | ⟨hash, rfl⟩
    · exact ⟨rfl, fun k => GatewayError.noConfusion⟩
    · exact ⟨rfl, fun k => GatewayError.noConfusion⟩

namespace Flight

/-- The node refused to take the transaction of a broadcast over. -/
def RefusedBySubmit (g : Gateway E) (turns : List Turn) (fs : List Flight) (e : E) (place : Nat)
    (f : Flight) : Prop :=
  ∃ x n now after, f.progress = .settled (.error x) ∧ x.rejectedAtSubmit = true ∧
    HasTurn g turns fs e place n now ∧ (g.submit f.transaction.raw).perform now = (.error x, after)

/-- What the broadcasts of permits came to. -/
structure Verdicts (g : Gateway E) (turns : List Turn) (fs : List Flight) (e : E)
    (now : List Flight) : Prop where
  same : now.map identity = fs.map identity
  /-- every broadcast that was not given up is judged by what the gateway answers to it -/
  judged : ∀ (place : Nat) (f : Flight) (r : Except GatewayError Hash), now[place]? = some f →
    f.progress = .settled r → Judged g turns fs e place f.transaction.raw r ∨ f.GivenUp now
  /-- so is every one that has no refused one ahead of it -/
  ahead : ∀ (place : Nat) (f : Flight) (r : Except GatewayError Hash), now[place]? = some f →
    f.progress = .settled r → (∀ x ∈ now, x.refused = true → f.number ≤ x.number) →
      Judged g turns fs e place f.transaction.raw r
  /-- and every one that was refused -/
  refusals : ∀ (place : Nat) (f : Flight), now[place]? = some f → f.refused = true →
    ∃ x, f.progress = .settled (.error x) ∧
      Judged g turns fs e place f.transaction.raw (.error x)
  /-- a gap is behind a permit of lower number that the node did not take over -/
  gaps : g.TellsApart → ∀ f ∈ now, ∀ k, f.progress = .settled (.error (.nonceGap k)) →
    k < f.number ∧ ∃ place x, now[place]? = some x ∧ x.number = k ∧
      RefusedBySubmit g turns fs e place x

section Verdicts

variable {turns : List Turn} {fs now : List Flight} {e : E} {place : Nat} {f : Flight}

theorem settled_of_result? (h : f.result?.isSome = true) : f.Settled := by
  unfold result? at h
  split at h
  next r hr => exact ⟨r, hr⟩
  next => simp at h

theorem Stand.judged (h : Stand g turns fs e now) {r : Except GatewayError Hash}
    (hf : now[place]? = some f) (hr : f.progress = .settled r) :
    Judged g turns fs e place f.transaction.raw r ∨ f.GivenUp now := by
  rcases h.told place f hf with ht | hg
  · rw [hr] at ht
    cases ht with
    | settled judged => exact .inl judged
  · exact .inr hg

/-- A broadcast that was refused was not given up. -/
theorem Stand.refusals (h : Stand g turns fs e now) (hf : now[place]? = some f)
    (hr : f.refused = true) : ∃ x, f.progress = .settled (.error x) ∧
      x.rejectedAtSubmit = true ∧ Judged g turns fs e place f.transaction.raw (.error x) := by
  obtain ⟨x, hp, hx⟩ := refused_iff.mp hr
  refine ⟨x, hp, hx, (h.judged hf hp).resolve_right ?_⟩
  rintro ⟨k, hk, -⟩
  rw [hk] at hp
  obtain rfl : GatewayError.nonceGap k = x := by simpa using hp
  exact absurd hx (by simp [GatewayError.rejectedAtSubmit])

theorem Stand.refusedBySubmit (h : Stand g turns fs e now) (apart : g.TellsApart)
    (hf : now[place]? = some f) (hr : f.refused = true) :
    RefusedBySubmit g turns fs e place f := by
  obtain ⟨x, hp, hx, judged⟩ := h.refusals hf hr
  cases judged with
  | rejected turn answer => exact ⟨x, _, _, _, hp, hx, turn, answer⟩
  | failed look answer =>
    rw [(apart.confirm answer).1] at hx
    exact absurd hx (by decide)

/-- No broadcast is told of a gap by the gateway. -/
theorem Judged.not_gap {raw : Bytes} {k : Nat} (apart : g.TellsApart) :
    ¬Judged g turns fs e place raw (.error (.nonceGap k)) := by
  intro h
  cases h with
  | rejected turn answer => exact apart.submit answer k rfl
  | failed look answer => exact (apart.confirm answer).2 k rfl

/-- **The verdicts** come from how the broadcasts stand. -/
theorem Stand.verdicts (h : Stand g turns fs e now) : Verdicts g turns fs e now where
  same := h.same
  judged _ _ _ hf hr := h.judged hf hr
  ahead place f r hf hr lowest := by
    refine (h.judged hf hr).resolve_right ?_
    rintro ⟨k, -, hk, x, hx, rfl, href⟩
    exact absurd (lowest x hx href) (Nat.not_le_of_lt hk)
  refusals place f hf hr := by
    obtain ⟨x, hp, -, judged⟩ := h.refusals hf hr
    exact ⟨x, hp, judged⟩
  gaps apart f hm k hk := by
    obtain ⟨place, hf⟩ := List.mem_iff_getElem?.mp hm
    obtain ⟨k', hk', hlt, x, hx, hn, href⟩ := (h.judged hf hk).resolve_left (Judged.not_gap apart)
    obtain rfl : k = k' := by
      rw [hk] at hk'
      simpa using hk'
    obtain ⟨place', hx'⟩ := List.mem_iff_getElem?.mp hx
    exact ⟨hlt, place', x, hx', hn, h.refusedBySubmit apart hx' href⟩

end Verdicts
end Flight

end PointExchange
