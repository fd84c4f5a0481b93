import PointExchange.Proofs.Sending

/-!
# Turns of broadcasts

What a turn does to a flight that waits for its first one. While no other flight was refused, it is
included if it has the relayer's next nonce (`Flight.turnAt_waits`), unless the node refuses it.
Behind a refused flight it fails (`Flight.turn_behind`), because its nonce is ahead of the relayer's
count.
-/

namespace PointExchange

/-- The node refuses no transaction. -/
structure SimulatedChain.Open (c : SimulatedChain) : Prop where
  targets : c.failingTargets = []
  transactions : c.rejected = []

namespace SimulatedChain

variable {c c' : SimulatedChain}

theorem Open.of_bare (h : c.Open) (hb : c'.bare = c.bare) : c'.Open where
  targets := (congrArg SimulatedChain.failingTargets hb :).trans h.targets
  transactions := (congrArg SimulatedChain.rejected hb :).trans h.transactions

theorem Open.not_refuses (h : c.Open) (t : SignedRecord) : c.refuses t = false := by
  simp [refuses, h.targets, h.transactions]

/-- Transactions of the same raw form are refused alike. -/
theorem refuses_of_raw {t u : SignedRecord} (h : u.raw = t.raw) : c.refuses u = c.refuses t := by
  obtain ⟨-, hn, hg, -⟩ := rawOf_inj h
  rw [refuses, refuses, hn, hg]

theorem refuses_of_bare (h : c'.bare = c.bare) : c'.refuses = c.refuses := by
  funext t
  have ht : c'.failingTargets = c.failingTargets := (congrArg SimulatedChain.failingTargets h :)
  have hr : c'.rejected = c.rejected := (congrArg SimulatedChain.rejected h :)
  rw [refuses, refuses, ht, hr]

/-- A transaction with the relayer's next nonce does not wait. -/
theorem not_stalls {t : SignedRecord} (h : t.request.nonce = c.txCount t.relayer) :
    c.stalls t = false := by
  have hl : ¬c.txCount t.relayer < c.txCount t.relayer := UInt64.lt_irrefl _
  simp [stalls, h, hl]

end SimulatedChain

/-- A transaction with the relayer's next nonce is included at once, unless the node refuses it. -/
theorem Progress.advance_queued (start : SimulatedChain) {w : Bench SimulatedChain}
    {t : SignedRecord} (ht : t ∈ w.chain.signed) (hh : t.hash = keccak t.raw)
    (tell : w.chain.HashesTell) (taken : w.chain.refuses t = false)
    (nonce : t.request.nonce = w.chain.txCount t.relayer) :
    ∃ u, u.relayer = t.relayer ∧
      Progress.queued.advance start.tools.gateway t.raw w =
        (.settled (.ok t.hash), w.withChain (w.chain.settle u)) := by
  have hs := SimulatedChain.submitted w.chain t.raw
  rw [← hh] at hs
  rw [advance, perform_submit]
  generalize w.chain.submit t.raw = res at hs
  cases hs with
  | unknown h =>
    obtain ⟨u, hu⟩ := SimulatedChain.exists_record? ht
    rw [hu] at h
    simp at h
  | refused u h hr =>
    rw [SimulatedChain.refuses_of_raw (tell.record?_raw ht h), taken] at hr
    exact absurd hr (by decide)
  | stalled u h hr hs =>
    obtain ⟨hrel, hn, -, -⟩ := SimulatedChain.rawOf_inj (tell.record?_raw ht h)
    have hn' : u.request.nonce = w.chain.txCount u.relayer := by rw [hn, nonce, hrel]
    exact absurd (hs.symm.trans (SimulatedChain.not_stalls hn')) (by decide)
  | settled u h hr hs =>
    obtain ⟨hrel, -⟩ := SimulatedChain.rawOf_inj (tell.record?_raw ht h)
    refine ⟨u, hrel, ?_⟩
    have hc : (w.withChain (w.chain.settle u)).chain.confirm t.hash = some t.hash :=
      SimulatedChain.confirm_settle (SimulatedChain.record?_eq_some h).2
    simp only [look, perform_confirm, hc]

/-- A transaction ahead of the relayer's count is not included, and moves no count. -/
theorem Progress.advance_ahead (start : SimulatedChain) {w : Bench SimulatedChain}
    {t : SignedRecord} (ht : t ∈ w.chain.signed) (hh : t.hash = keccak t.raw)
    (tell : w.chain.HashesTell) (stalls : w.chain.stallsNonceGaps = true)
    (ahead : w.chain.txCount t.relayer < t.request.nonce) :
    (∀ hash, (Progress.queued.advance start.tools.gateway t.raw w).1 ≠ .settled (.ok hash)) ∧
      (Progress.queued.advance start.tools.gateway t.raw w).2.chain.txCount = w.chain.txCount := by
  have hs := SimulatedChain.submitted w.chain t.raw
  rw [← hh] at hs
  rw [advance, perform_submit]
  generalize w.chain.submit t.raw = res at hs
  cases hs with
  | unknown | refused => exact ⟨by simp, rfl⟩
  | stalled u h hr hs =>
    have hc : (w.withChain { w.chain with stalled := t.hash :: w.chain.stalled }).chain.confirm
        t.hash = none := by
      simp [SimulatedChain.confirm, Bench.withChain]
    simp only [look, perform_confirm, hc]
    exact ⟨by simp, rfl⟩
  | settled u h hr hs =>
    -- what the hash stands for is just as far ahead, so it is not included
    obtain ⟨hrel, hn, -, -⟩ := SimulatedChain.rawOf_inj (tell.record?_raw ht h)
    rw [SimulatedChain.stalls, stalls, hrel, hn] at hs
    simp [ahead] at hs

/-- A transaction that the node refuses changes nothing. -/
theorem Progress.advance_refused (start : SimulatedChain) {w : Bench SimulatedChain}
    {t : SignedRecord} (ht : t ∈ w.chain.signed) (hh : t.hash = keccak t.raw)
    (tell : w.chain.HashesTell) (refused : w.chain.refuses t = true) :
    Progress.queued.advance start.tools.gateway t.raw w =
      (.settled (.error (.rpc (.transport "broadcast rejected"))), w) := by
  have hs := SimulatedChain.submitted w.chain t.raw
  rw [← hh] at hs
  rw [advance, perform_submit]
  generalize w.chain.submit t.raw = res at hs
  cases hs with
  | unknown h =>
    obtain ⟨u, hu⟩ := SimulatedChain.exists_record? ht
    rw [hu] at h
    simp at h
  | refused u h hr => rfl
  | stalled u h hr | settled u h hr =>
    rw [SimulatedChain.refuses_of_raw (tell.record?_raw ht h), refused] at hr
    exact absurd hr (by decide)

namespace Flight

/-- The flight has come to its end with an inclusion. -/
def Landed (f : Flight) : Prop := ∃ hash, f.progress = .settled (.ok hash)

/-- The flight has come to its end without an inclusion. -/
def Failed (f : Flight) : Prop := ∃ e, f.progress = .settled (.error e)

/-- The flight has come to its end. -/
def Settled (f : Flight) : Prop := ∃ r, f.progress = .settled r

theorem Landed.settled {f : Flight} (h : f.Landed) : f.Settled := by
  obtain ⟨hash, hp⟩ := h
  exact ⟨_, hp⟩

theorem Failed.settled {f : Flight} (h : f.Failed) : f.Settled := by
  obtain ⟨e, hp⟩ := h
  exact ⟨_, hp⟩

/-- A run waits for no flight once all of them are settled. -/
theorem all_settled {fs : List Flight} (h : ∀ f ∈ fs, f.Settled) :
    (fs.all fun f => f.result?.isSome) = true := by
  rw [List.all_eq_true]
  intro f hm
  obtain ⟨r, hp⟩ := h f hm
  rw [result?, hp]
  rfl

/-- Flights that are settled are not affected by further turns. -/
theorem run_of_settled (g : Gateway (Bench SimulatedChain)) (turns : List Turn) (fs : List Flight)
    (w : Bench SimulatedChain) (h : ∀ f ∈ fs, f.Settled) : run g turns fs w = (fs, w) := by
  induction turns with
  | nil => rfl
  | cons t rest ih =>
    have ht : turnAt g t fs w = (fs, w) := by
      unfold turnAt
      split
      next f hf =>
        obtain ⟨r, hp⟩ := h f (List.mem_of_getElem? hf)
        obtain ⟨hl, rfl⟩ := List.getElem?_eq_some_iff.mp hf
        simp only [turn, hp]
        rw [List.set_getElem_self]
      next => rfl
    show run g rest (turnAt g t fs w).1 (turnAt g t fs w).2 = _
    rw [ht]
    exact ih

/-- No flight is refused as long as all of them wait or have landed. -/
theorem firstRefused?_eq_none {fs : List Flight}
    (h : ∀ f ∈ fs, f.progress = .queued ∨ f.Landed) : firstRefused? fs = none := by
  have hn : fs.filter refused = [] := by
    rw [List.filter_eq_nil_iff]
    intro f hf
    rcases h f hf with hq | ⟨hash, hs⟩
    · simp [refused, hq]
    · simp [refused, hs]
  rw [firstRefused?, hn]
  rfl

/-- A flight of the list with a number below `number` is refused. -/
def RefusedBelow (number : Nat) (fs : List Flight) : Prop :=
  ∃ f ∈ fs, f.refused = true ∧ f.number < number

theorem RefusedBelow.append {number : Nat} {fs : List Flight} (h : RefusedBelow number fs)
    (more : List Flight) : RefusedBelow number (fs ++ more) := by
  obtain ⟨f, hf, hr, hn⟩ := h
  exact ⟨f, List.mem_append_left _ hf, hr, hn⟩

theorem RefusedBelow.mono {m n : Nat} {fs : List Flight} (h : RefusedBelow m fs) (hmn : m ≤ n) :
    RefusedBelow n fs := by
  obtain ⟨f, hf, hr, hn⟩ := h
  exact ⟨f, hf, hr, Nat.lt_of_lt_of_le hn hmn⟩

theorem RefusedBelow.exists_gap {number : Nat} {fs : List Flight} (h : RefusedBelow number fs) :
    ∃ k, ((firstRefused? fs).filter fun k => k < number) = some k := by
  obtain ⟨f, hf, hr, hn⟩ := h
  have hm : f.number ∈ (fs.filter refused).map Flight.number :=
    List.mem_map_of_mem (List.mem_filter.mpr ⟨hf, hr⟩)
  cases hmin : firstRefused? fs with
  | none =>
    rw [firstRefused?, List.min?_eq_none_iff] at hmin
    rw [hmin] at hm
    exact absurd hm List.not_mem_nil
  | some k =>
    have hk : k ≤ f.number := (List.min?_eq_some_iff.mp hmin).2 _ hm
    refine ⟨k, ?_⟩
    rw [Option.filter_some, if_pos (by simpa using Nat.lt_of_le_of_lt hk hn)]

/-- A turn changes the flight in its place only. -/
theorem turnAt_middle (g : Gateway (Bench SimulatedChain)) (gapFirst : Bool)
    (done rest : List Flight) (f : Flight) (w : Bench SimulatedChain) :
    turnAt g ⟨done.length, gapFirst⟩ (done ++ f :: rest) w =
      (done ++ (f.turn g gapFirst
          ((firstRefused? (done ++ f :: rest)).filter fun k => k < f.number) w).1 :: rest,
        (f.turn g gapFirst
          ((firstRefused? (done ++ f :: rest)).filter fun k => k < f.number) w).2) := by
  rw [turnAt, List.getElem?_append_right (Nat.le_refl _), Nat.sub_self, List.getElem?_cons_zero]
  simp only
  rw [List.set_append_right _ _ (Nat.le_refl _), Nat.sub_self, List.set_cons_zero]

/-- The turn of the first flight that waits, while no other one was refused. -/
theorem turnAt_of_landed (g : Gateway (Bench SimulatedChain)) (gapFirst : Bool)
    (w : Bench SimulatedChain) {done rest : List Flight} {f : Flight} (hd : ∀ f ∈ done, f.Landed)
    (hf : f.progress = .queued) (hw : ∀ x ∈ rest, x.progress = .queued) :
    turnAt g ⟨done.length, gapFirst⟩ (done ++ f :: rest) w =
      (done ++ { f with progress := (Progress.queued.advance g f.transaction.raw w).1 } :: rest,
        (Progress.queued.advance g f.transaction.raw w).2) := by
  have hg : firstRefused? (done ++ f :: rest) = none := by
    apply firstRefused?_eq_none
    intro x hm
    rcases List.mem_append.mp hm with hm | hm
    · exact .inr (hd x hm)
    · rcases List.mem_cons.mp hm with rfl | hm
      · exact .inl hf
      · exact .inl (hw x hm)
  rw [turnAt_middle, hg]
  simp only [Option.filter_none, turn, hf]

/-- The turn of the first flight that waits includes it, unless the node refuses it. -/
theorem turnAt_waits (start : SimulatedChain) (gapFirst : Bool) {w : Bench SimulatedChain}
    {t : SignedRecord} {done rest : List Flight} {f : Flight} (hd : ∀ f ∈ done, f.Landed)
    (hf : f.progress = .queued) (hw : ∀ x ∈ rest, x.progress = .queued)
    (ht : t ∈ w.chain.signed) (hx : f.transaction = ⟨t.raw, t.hash⟩) (hh : t.hash = keccak t.raw)
    (hn : t.request.nonce = w.chain.txCount t.relayer)
    (tell : w.chain.HashesTell) (taken : w.chain.refuses t = false) :
    ∃ f' c, turnAt start.tools.gateway ⟨done.length, gapFirst⟩ (done ++ f :: rest) w =
        (done ++ f' :: rest, w.withChain c) ∧ f'.Landed ∧ c.bare = w.chain.bare ∧
      c.signed = w.chain.signed ∧ c.txCount t.relayer = w.chain.txCount t.relayer + 1 := by
  obtain ⟨u, hu, ha⟩ := Progress.advance_queued start ht hh tell taken hn
  have hraw : f.transaction.raw = t.raw := by rw [hx]
  refine ⟨{ f with progress := .settled (.ok t.hash) }, w.chain.settle u, ?_, ⟨t.hash, rfl⟩, rfl,
    rfl, ?_⟩
  · rw [turnAt_of_landed start.tools.gateway gapFirst w hd hf hw, hraw, ha]
  · show (if t.relayer = u.relayer then _ else _) = _
    rw [if_pos hu.symm]

/-- A flight that is behind a refused one and ahead of the relayer's count fails in its turn,
whatever it looks at first. -/
theorem turn_behind (start : SimulatedChain) (gapFirst : Bool) (gap : Nat)
    {w : Bench SimulatedChain} {t : SignedRecord} {f : Flight} (hf : f.progress = .queued)
    (hx : f.transaction = ⟨t.raw, t.hash⟩) (ht : t ∈ w.chain.signed) (hh : t.hash = keccak t.raw)
    (tell : w.chain.HashesTell) (stalls : w.chain.stallsNonceGaps = true)
    (ahead : w.chain.txCount t.relayer < t.request.nonce) :
    (f.turn start.tools.gateway gapFirst (some gap) w).1.Failed ∧
      (f.turn start.tools.gateway gapFirst (some gap) w).2.chain.txCount = w.chain.txCount := by
  obtain ⟨hp, hc⟩ := Progress.advance_ahead start ht hh tell stalls ahead
  have hraw : f.transaction.raw = t.raw := by rw [hx]
  simp only [turn, hf, hraw]
  by_cases hg : gapFirst = true
  · rw [if_pos hg]
    exact ⟨⟨_, rfl⟩, rfl⟩
  · rw [if_neg hg]
    rcases ha : Progress.queued.advance start.tools.gateway t.raw w with ⟨p, w'⟩
    rw [ha] at hp hc
    -- what is still unsettled gives way to the gap
    rcases p with _ | hash | e | hash
    · exact ⟨⟨_, rfl⟩, hc⟩
    · exact ⟨⟨_, rfl⟩, hc⟩
    · exact ⟨⟨e, rfl⟩, hc⟩
    · exact absurd rfl (hp hash)

theorem run_cons (g : Gateway (Bench SimulatedChain)) (t : Turn) (turns : List Turn)
    (fs : List Flight) (w : Bench SimulatedChain) :
    run g (t :: turns) fs w = run g turns (turnAt g t fs w).1 (turnAt g t fs w).2 :=
  rfl

theorem run_append {E : Type} (g : Gateway E) (turns more : List Turn) (fs : List Flight) (e : E) :
    run g (turns ++ more) fs e = run g more (run g turns fs e).1 (run g turns fs e).2 :=
  List.foldl_append

end Flight
end PointExchange
