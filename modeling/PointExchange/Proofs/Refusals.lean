import PointExchange.Proofs.Flights

/-!
# Refused permits

The permits of a run are signed with consecutive nonces, the first of them being the relayer's next
one, and are first polled in that order. As long as the node refuses none of them, each is included
in its turn. Once it has refused one, the nonces of all later ones stay ahead of the relayer's
count; but each of them then has a refused permit ahead of it, and fails in its turn whatever it
looks at first. So no broadcast is left waiting, and the count has moved by the permits before the
first refused one (`sendPermits_answers`).
-/

namespace PointExchange

/-- The broadcasts are first polled in the order of their permits. What each of them looks at first
and which turns follow is left open. -/
def Turn.InOrder (turns : Nat → List Turn) : Prop :=
  ∀ n, ∃ (picks : Nat → Bool) (rest : List Turn),
    turns n = (List.range n).map (fun i => ⟨i, picks i⟩) ++ rest

theorem Turn.inOrder_rounds : Turn.InOrder Turn.rounds := by
  intro n
  refine ⟨fun _ => false, (List.range n).map fun i => ⟨i, false⟩, ?_⟩
  rw [rounds, List.map_append]

/-! ## Signing the permits -/

/-- The relayer has signed the permits with consecutive nonces from `nonce` on. -/
inductive PermitsSigned (relayer : Address) : UInt64 → List Bytes → List SignedRecord → Prop
  | nil (nonce : UInt64) : PermitsSigned relayer nonce [] []
  | cons {nonce : UInt64} {permit : Bytes} {t : SignedRecord} {permits : List Bytes}
    {ts : List SignedRecord} (head : t.Of relayer SimulatedChain.pointToken permit nonce)
    (rest : PermitsSigned relayer (nonce + 1) permits ts) :
    PermitsSigned relayer nonce (permit :: permits) (t :: ts)

theorem PermitsSigned.length_eq {relayer : Address} {nonce : UInt64} {permits : List Bytes}
    {ts : List SignedRecord} (h : PermitsSigned relayer nonce permits ts) :
    ts.length = permits.length := by
  induction h with
  | nil => rfl
  | cons head rest ih => rw [List.length_cons, List.length_cons, ih]

namespace Flight

/-- The flights of signed permits that nobody has polled, with numbers from `number` on. -/
def queue : Nat → List SignedRecord → List Flight
  | _, [] => []
  | number, t :: ts => ⟨number, ⟨t.raw, t.hash⟩, .queued⟩ :: queue (number + 1) ts

theorem queued_of_mem_queue (number : Nat) (ts : List SignedRecord) :
    ∀ f ∈ queue number ts, f.progress = .queued := by
  induction ts generalizing number with
  | nil => exact fun f hf => absurd hf List.not_mem_nil
  | cons t ts ih =>
    intro f hf
    rcases List.mem_cons.mp hf with rfl | hf
    · rfl
    · exact ih (number + 1) f hf

theorem length_queue (number : Nat) (ts : List SignedRecord) :
    (queue number ts).length = ts.length := by
  induction ts generalizing number with
  | nil => rfl
  | cons t ts ih => rw [queue, List.length_cons, ih, List.length_cons]

/-- **Every permit is signed,** as long as there are estimates. -/
theorem prepare_all (start : SimulatedChain) {i : UInt64} {k : Signer} :
    ∀ (permits : List Bytes) (number : Nat) (nonce : UInt64) (w : Bench SimulatedChain),
      keyAt .relayer w.chain.relayers i = .ok k → w.chain.estimateUnavailable = false →
      ∃ ts w', prepare start.tools.gateway i permits number nonce w = (queue number ts, w') ∧
        PermitsSigned k.address nonce permits ts ∧ w.Follows w' [] ∧
        w'.chain.signed = w.chain.signed ++ ts
  | [], _, nonce, w, _, _ => ⟨[], w, rfl, .nil nonce, .refl w, (List.append_nil _).symm⟩
  | permit :: rest, number, nonce, w, hk, he => by
    have hprep := prepares start i SimulatedChain.pointToken permit nonce w
    rw [prepare, show start.tools.gateway.pointToken = SimulatedChain.pointToken from rfl]
    generalize (start.tools.gateway.prepare i SimulatedChain.pointToken permit nonce).perform w =
      res at hprep ⊢
    cases hprep with
    | failed e w₁ env why =>
      rcases why with ⟨x, hx⟩ | hkey
      · simp [SimulatedChain.estimate, he] at hx
      · exact absurd hk (hkey k)
    | signed k' t w₁ key record env =>
      obtain rfl : k' = k := Except.ok.inj (key.symm.trans hk)
      have hf : w.Follows w₁ [] := .of_signing env
      have he' : w₁.chain.estimateUnavailable = w.chain.estimateUnavailable :=
        (congrArg SimulatedChain.estimateUnavailable hf.chain.bare :)
      obtain ⟨ts, w', hr, hts, hf', hs⟩ := prepare_all start rest (number + 1) (nonce + 1) w₁
        (by rw [hf.relayers, hk]) (he'.trans he)
      refine ⟨t :: ts, w', by simp only [hr, queue], .cons record hts, hf.trans hf', ?_⟩
      rw [hs, Bench.signed_of_signing env, List.append_assoc]
      rfl

end Flight

/-! ## First turns -/

/-- The chain lets transactions wait that are ahead of their relayer's count, and there are `count`
nonces left from `nonce` on. -/
structure SimulatedChain.KeepsOrder (c : SimulatedChain) (nonce : UInt64) (count : Nat) :
    Prop where
  stalls : c.stallsNonceGaps = true
  room : nonce.toNat + count < 2 ^ 64

namespace SimulatedChain.KeepsOrder

variable {c c' : SimulatedChain} {nonce : UInt64} {count : Nat}

theorem of_bare (h : c.KeepsOrder nonce count) (hb : c'.bare = c.bare) :
    c'.KeepsOrder nonce count where
  stalls := (congrArg SimulatedChain.stallsNonceGaps hb :).trans h.stalls
  room := h.room

theorem toNat_succ (h : c.KeepsOrder nonce (count + 1)) : (nonce + 1).toNat = nonce.toNat + 1 := by
  have hr := h.room
  rw [UInt64.toNat_add, UInt64.toNat_one]
  omega

theorem tail (h : c.KeepsOrder nonce (count + 1)) : c.KeepsOrder (nonce + 1) count where
  stalls := h.stalls
  room := by
    have hr := h.room
    rw [h.toNat_succ]
    omega

/-- What is not ahead of a nonce is behind the next one. -/
theorem lt_succ (h : c.KeepsOrder nonce (count + 1)) {n : UInt64} (hn : n ≤ nonce) :
    n < nonce + 1 := by
  rw [UInt64.lt_iff_toNat_lt, h.toNat_succ]
  exact Nat.lt_succ_of_le (UInt64.le_iff_toNat_le.mp hn)

end SimulatedChain.KeepsOrder

/-- The permits of `ts` wait for their first turns: the relayer has signed them with consecutive
nonces. -/
structure Underway (relayer : Address) (nonce : UInt64) (ts : List SignedRecord)
    (c : SimulatedChain) : Prop where
  signed : ∃ permits, PermitsSigned relayer nonce permits ts
  known : ∀ t ∈ ts, t ∈ c.signed
  tell : c.HashesTell

namespace Underway

variable {relayer : Address} {nonce : UInt64} {t : SignedRecord} {ts : List SignedRecord}
  {c c' : SimulatedChain}

theorem of_signed (h : Underway relayer nonce ts c) (hs : c'.signed = c.signed) :
    Underway relayer nonce ts c' where
  signed := h.signed
  known := by
    rw [hs]
    exact h.known
  tell := h.tell.of_prefix ⟨[], by rw [List.append_nil, hs]⟩

/-- The first of the permits. -/
theorem head (h : Underway relayer nonce (t :: ts) c) :
    t.relayer = relayer ∧ t.request.nonce = nonce ∧ t.hash = keccak t.raw := by
  obtain ⟨permits, hp⟩ := h.signed
  cases hp with
  | cons head rest => exact ⟨head.relayer, head.nonce, head.hash⟩

theorem tail (h : Underway relayer nonce (t :: ts) c) : Underway relayer (nonce + 1) ts c where
  signed := by
    obtain ⟨permits, hp⟩ := h.signed
    cases hp with
    | cons head rest => exact ⟨_, rest⟩
  known u hu := h.known u (List.mem_cons_of_mem _ hu)
  tell := h.tell

end Underway

namespace Flight

/-- The first turn of a permit, behind a refused one. -/
theorem turnAt_behind (start : SimulatedChain) (gapFirst : Bool) {relayer : Address}
    {nonce : UInt64} {t : SignedRecord} {ts : List SignedRecord} {done : List Flight}
    {w : Bench SimulatedChain} (underway : Underway relayer nonce (t :: ts) w.chain)
    (stalls : w.chain.stallsNonceGaps = true) (ahead : w.chain.txCount relayer < nonce)
    (below : RefusedBelow (done.length + 1) done) :
    ∃ f w', turnAt start.tools.gateway ⟨done.length, gapFirst⟩
        (done ++ queue (done.length + 1) (t :: ts)) w =
          (done ++ f :: queue (done.length + 2) ts, w') ∧
      f.Failed ∧ w'.chain.bare = w.chain.bare ∧ w'.chain.txCount = w.chain.txCount ∧
      Underway relayer (nonce + 1) ts w'.chain := by
  obtain ⟨hr, hn, hh⟩ := underway.head
  obtain ⟨-, us, hfollows, -⟩ := turnAt_follows start ⟨done.length, gapFirst⟩
    (done ++ queue (done.length + 1) (t :: ts)) w
  have hsigned := signed_turnAt start ⟨done.length, gapFirst⟩
    (done ++ queue (done.length + 1) (t :: ts)) w
  rw [queue, turnAt_middle] at hfollows hsigned ⊢
  obtain ⟨gap, hgap⟩ := (below.append (⟨done.length + 1, ⟨t.raw, t.hash⟩, .queued⟩ ::
    queue (done.length + 2) ts)).exists_gap
  obtain ⟨hfailed, hcount⟩ := turn_behind start gapFirst gap
    (f := ⟨done.length + 1, ⟨t.raw, t.hash⟩, .queued⟩) rfl rfl
    (underway.known t List.mem_cons_self) hh underway.tell stalls (by rw [hr, hn]; exact ahead)
  simp only [hgap] at hfollows hsigned ⊢
  exact ⟨_, _, rfl, hfailed, hfollows.chain.bare, hcount, underway.tail.of_signed hsigned⟩

/-- The first turn of a permit that the node takes, while no other one was refused. -/
theorem turnAt_taken (start : SimulatedChain) (gapFirst : Bool) {relayer : Address} {nonce : UInt64}
    {t : SignedRecord} {ts : List SignedRecord} {done : List Flight} {w : Bench SimulatedChain}
    (underway : Underway relayer nonce (t :: ts) w.chain) (next : w.chain.txCount relayer = nonce)
    (landed : ∀ f ∈ done, f.Landed) (taken : w.chain.refuses t = false) :
    ∃ f w', turnAt start.tools.gateway ⟨done.length, gapFirst⟩
        (done ++ queue (done.length + 1) (t :: ts)) w =
          (done ++ f :: queue (done.length + 2) ts, w') ∧
      f.Landed ∧ w'.chain.bare = w.chain.bare ∧ w'.chain.txCount relayer = nonce + 1 ∧
      Underway relayer (nonce + 1) ts w'.chain := by
  obtain ⟨hr, hn, hh⟩ := underway.head
  obtain ⟨f, c, hturn, hf, hb, hs, hc⟩ := turnAt_waits start gapFirst
    (f := ⟨done.length + 1, ⟨t.raw, t.hash⟩, .queued⟩) landed rfl
    (queued_of_mem_queue (done.length + 2) ts) (underway.known t List.mem_cons_self) rfl hh
    (by rw [hr, hn, next]) underway.tell taken
  rw [hr, next] at hc
  exact ⟨f, w.withChain c, hturn, hf, hb, hc, underway.tail.of_signed hs⟩

/-- The first turn of a permit that the node refuses, while no other one was refused. -/
theorem turnAt_refused (start : SimulatedChain) (gapFirst : Bool) {relayer : Address}
    {nonce : UInt64} {t : SignedRecord} {ts : List SignedRecord} {done : List Flight}
    {w : Bench SimulatedChain} (underway : Underway relayer nonce (t :: ts) w.chain)
    (landed : ∀ f ∈ done, f.Landed) (refused : w.chain.refuses t = true) :
    ∃ f, turnAt start.tools.gateway ⟨done.length, gapFirst⟩
        (done ++ queue (done.length + 1) (t :: ts)) w =
          (done ++ f :: queue (done.length + 2) ts, w) ∧
      f.Failed ∧ f.refused = true ∧ f.number = done.length + 1 := by
  obtain ⟨-, -, hh⟩ := underway.head
  have ha := Progress.advance_refused start (underway.known t List.mem_cons_self) hh underway.tell
    refused
  rw [queue, turnAt_of_landed start.tools.gateway gapFirst w landed rfl
    (queued_of_mem_queue (done.length + 2) ts), ha]
  exact ⟨_, rfl, ⟨_, rfl⟩, rfl, rfl⟩

/-! ## A round of first turns -/

/-- First turns, of the flights in the places from `place` on. -/
def firstTurns (picks : Nat → Bool) (place count : Nat) : List Turn :=
  (List.range' place count).map fun i => ⟨i, picks i⟩

theorem firstTurns_succ (picks : Nat → Bool) (place count : Nat) :
    firstTurns picks place (count + 1) =
      ⟨place, picks place⟩ :: firstTurns picks (place + 1) count := by
  rw [firstTurns, List.range'_succ, List.map_cons, firstTurns]

/-- **Behind a refused permit all others fail in their first turns,** and no count moves. -/
theorem run_behind (start : SimulatedChain) {relayer : Address} (picks : Nat → Bool)
    (ts : List SignedRecord) : ∀ {nonce : UInt64} (done : List Flight) (w : Bench SimulatedChain),
      Underway relayer nonce ts w.chain → w.chain.KeepsOrder nonce ts.length →
      w.chain.txCount relayer < nonce → RefusedBelow (done.length + 1) done →
      ∃ failed w', run start.tools.gateway (firstTurns picks done.length ts.length)
          (done ++ queue (done.length + 1) ts) w = (done ++ failed, w') ∧
        (∀ f ∈ failed, f.Failed) ∧ w'.chain.txCount = w.chain.txCount := by
  induction ts with
  | nil => exact fun done w _ _ _ _ => ⟨[], w, rfl, by simp, rfl⟩
  | cons t ts ih =>
    intro nonce done w underway order ahead below
    obtain ⟨f, w₁, hturn, hf, hbare, hcount, hafter⟩ :=
      turnAt_behind start (picks done.length) underway order.stalls ahead below
    have hahead : w₁.chain.txCount relayer < nonce + 1 := by
      rw [hcount]
      exact order.lt_succ (UInt64.le_of_lt ahead)
    obtain ⟨failed, w', hrun, hfailed, hcount'⟩ := ih (done ++ [f]) w₁ hafter
      (order.tail.of_bare hbare) hahead
      ((below.append [f]).mono (by rw [List.length_append]; exact Nat.le_add_right _ _))
    refine ⟨f :: failed, w', ?_, List.forall_mem_cons.mpr ⟨hf, hfailed⟩, hcount'.trans hcount⟩
    rw [List.length_append, List.length_singleton, List.append_assoc, List.append_assoc] at hrun
    rw [List.length_cons, firstTurns_succ, run_cons, hturn]
    exact hrun

/-- The flights have come to their ends: the first ones, `count` of them, with an inclusion, and
all others without. -/
def Answered (fs : List Flight) (count : Nat) : Prop :=
  ∃ landed failed, fs = landed ++ failed ∧ landed.length = count ∧ (∀ f ∈ landed, f.Landed) ∧
    ∀ f ∈ failed, f.Failed

/-- **In a round of first turns the permits before the first refused one are included, and all
others fail.** -/
theorem run_round (start : SimulatedChain) {relayer : Address} (picks : Nat → Bool)
    (ts : List SignedRecord) : ∀ {nonce : UInt64} (done : List Flight) (w : Bench SimulatedChain),
      Underway relayer nonce ts w.chain → w.chain.Open ∨ w.chain.KeepsOrder nonce ts.length →
      w.chain.txCount relayer = nonce → (∀ f ∈ done, f.Landed) →
      ∃ fs w', run start.tools.gateway (firstTurns picks done.length ts.length)
          (done ++ queue (done.length + 1) ts) w = (fs, w') ∧
        Answered fs (done.length + ts.findIdx w.chain.refuses) ∧
        w'.chain.txCount relayer = nonce + UInt64.ofNat (ts.findIdx w.chain.refuses) := by
  induction ts with
  | nil =>
    intro nonce done w underway _ next landed
    refine ⟨done, w, by rw [queue, List.append_nil]; rfl, ?_, by simpa using next⟩
    exact ⟨done, [], (List.append_nil _).symm, rfl, landed, by simp⟩
  | cons t ts ih =>
    intro nonce done w underway calm next landed
    rw [List.length_cons, firstTurns_succ, run_cons]
    cases hrefuses : w.chain.refuses t with
    | false =>
      obtain ⟨f, w₁, hturn, hf, hbare, hcount, hafter⟩ :=
        turnAt_taken start (picks done.length) underway next landed hrefuses
      have hlanded : ∀ x ∈ done ++ [f], x.Landed := by
        intro x hx
        rcases List.mem_append.mp hx with hx | hx
        · exact landed x hx
        · rw [List.mem_singleton.mp hx]
          exact hf
      obtain ⟨fs, w', hrun, hanswered, hcount'⟩ := ih (done ++ [f]) w₁ hafter
        (calm.imp (fun opened => opened.of_bare hbare) fun order => order.tail.of_bare hbare)
        hcount hlanded
      rw [SimulatedChain.refuses_of_bare hbare] at hanswered hcount'
      rw [List.length_append, List.length_singleton, List.append_assoc] at hrun
      rw [List.length_append, List.length_singleton, Nat.add_assoc, Nat.add_comm 1] at hanswered
      rw [hturn, List.findIdx_cons, hrefuses, cond_false]
      refine ⟨fs, w', hrun, hanswered, ?_⟩
      rw [hcount', UInt64.ofNat_add, UInt64.add_assoc, UInt64.add_comm 1]
      rfl
    | true =>
      obtain ⟨f, hturn, hf, hrefused, hnumber⟩ :=
        turnAt_refused start (picks done.length) underway landed hrefuses
      have order : w.chain.KeepsOrder nonce (ts.length + 1) :=
        calm.resolve_left fun opened =>
          absurd (hrefuses.symm.trans (opened.not_refuses t)) (by decide)
      -- from here on all nonces are ahead of the relayer's count
      have hahead : w.chain.txCount relayer < nonce + 1 := order.lt_succ (UInt64.le_of_eq next)
      have hbelow : RefusedBelow ((done ++ [f]).length + 1) (done ++ [f]) := by
        refine ⟨f, List.mem_append_right _ (List.mem_singleton_self f), hrefused, ?_⟩
        rw [hnumber, List.length_append, List.length_singleton]
        exact Nat.lt_succ_self _
      obtain ⟨failed, w', hrun, hfailed, hcount⟩ :=
        run_behind start picks ts (done ++ [f]) w underway.tail order.tail hahead hbelow
      rw [List.length_append, List.length_singleton, List.append_assoc, List.append_assoc] at hrun
      rw [hturn, List.findIdx_cons, hrefuses, cond_true]
      refine ⟨done ++ f :: failed, w', hrun, ?_, ?_⟩
      · exact ⟨done, f :: failed, rfl, rfl, landed, List.forall_mem_cons.mpr ⟨hf, hfailed⟩⟩
      · rw [hcount, next]
        exact (UInt64.add_zero _).symm

theorem Answered.settled {fs : List Flight} {count : Nat} (h : Answered fs count) :
    ∀ f ∈ fs, f.Settled := by
  obtain ⟨landed, failed, rfl, -, hl, hf⟩ := h
  intro f hm
  rcases List.mem_append.mp hm with hm | hm
  · exact (hl f hm).settled
  · exact (hf f hm).settled

theorem Answered.count_sent {fs : List Flight} {count : Nat} (h : Answered fs count) :
    (fs.filter isSent).length = count := by
  obtain ⟨landed, failed, rfl, rfl, hl, hf⟩ := h
  have hsent : landed.filter isSent = landed := by
    rw [List.filter_eq_self]
    intro f hm
    obtain ⟨hash, hp⟩ := hl f hm
    simp only [isSent, hp]
  have hnone : failed.filter isSent = [] := by
    rw [List.filter_eq_nil_iff]
    intro f hm
    obtain ⟨e, hp⟩ := hf f hm
    simp [isSent, hp]
  rw [List.filter_append, hsent, hnone, List.append_nil]

/-- **Turns that are in order end all broadcasts.** -/
theorem run_inOrder (start : SimulatedChain) {turns : Nat → List Turn}
    (inOrder : Turn.InOrder turns) {relayer : Address} {ts : List SignedRecord}
    {w : Bench SimulatedChain} (underway : Underway relayer (w.chain.txCount relayer) ts w.chain)
    (calm : w.chain.Open ∨ w.chain.KeepsOrder (w.chain.txCount relayer) ts.length) :
    ∃ fs w', run start.tools.gateway (turns ts.length) (queue 1 ts) w = (fs, w') ∧
      Answered fs (ts.findIdx w.chain.refuses) ∧
      w'.chain.txCount relayer =
        w.chain.txCount relayer + UInt64.ofNat (ts.findIdx w.chain.refuses) := by
  obtain ⟨picks, rest, hturns⟩ := inOrder ts.length
  obtain ⟨fs, w', hrun, hanswered, hcount⟩ := run_round start picks ts [] w underway calm rfl
    (by simp)
  rw [List.length_nil, Nat.zero_add] at hanswered
  refine ⟨fs, w', ?_, hanswered, hcount⟩
  rw [hturns, List.range_eq_range', run_append]
  rw [firstTurns, List.length_nil, List.nil_append] at hrun
  rw [hrun]
  exact run_of_settled _ rest fs w' hanswered.settled

end Flight

/-! ## Sending the permits -/

section Sending

variable (start : SimulatedChain) (turns : Nat → List Turn) {i : UInt64} {k : Signer} {b : Batch}
  {w : Bench SimulatedChain}

/-- The permits of a batch are sent by signing all of them and taking turns with them. -/
theorem perform_sendPermits (key : keyAt .relayer w.chain.relayers i = .ok k)
    (estimates : w.chain.estimateUnavailable = false) :
    ∃ ts w₁, PermitsSigned k.address (w.chain.txCount k.address) b.permits ts ∧ w.Follows w₁ [] ∧
      w₁.chain.signed = w.chain.signed ++ ts ∧
      (Runner.sendPermits start.tools turns i k.address b).perform w =
        let r := Flight.run start.tools.gateway (turns ts.length) (Flight.queue 1 ts) w₁
        (if r.1.all fun f => f.result?.isSome then
          .ok ⟨(r.1.filter Flight.isSent).length,
            b.permits.length - (r.1.filter Flight.isSent).length⟩
        else .error .waiting, r.2) := by
  obtain ⟨ts, w₁, hprep, hts, hf, hs⟩ :=
    Flight.prepare_all start b.permits 1 (w.chain.txCount k.address) w key estimates
  refine ⟨ts, w₁, hts, hf, hs, ?_⟩
  rw [Runner.sendPermits]
  by_cases he : b.permits.isEmpty = true
  · have hb : b.permits = [] := List.isEmpty_iff.mp he
    rw [hb] at hts hprep
    cases hts
    obtain rfl : w = w₁ := (Prod.mk.inj hprep).2
    rw [if_pos he, hb, Flight.queue, Flight.run_of_settled _ _ [] w (by simp)]
    rfl
  · rw [if_neg he, broadcastPermits, Call.perform_bind, Call.perform_attempt,
      perform_transactionCount]
    simp only [Call.perform_bind, Call.perform_of, hprep, Flight.length_queue]
    split <;> rfl

/-- What becomes of the permits of a batch: all of them are signed, those before the first one that
the node refuses are included, and all others count as failed. -/
structure PermitsAnswered (w : Bench SimulatedChain) (k : Signer) (b : Batch)
    (ts : List SignedRecord) (count : PermitCount) (w' : Bench SimulatedChain) : Prop where
  permits : PermitsSigned k.address (w.chain.txCount k.address) b.permits ts
  signed : w'.chain.signed = w.chain.signed ++ ts
  sent : count.sent = ts.findIdx w.chain.refuses
  counted : count.sent + count.failed = b.permits.length
  txCount : w'.chain.txCount k.address = w.chain.txCount k.address + UInt64.ofNat count.sent

/-- **Permits do not keep a run waiting,** whichever of them are refused. The relayer's count moves
by the permits before the first refused one. -/
theorem sendPermits_answers {turns : Nat → List Turn} (inOrder : Turn.InOrder turns)
    (key : keyAt .relayer w.chain.relayers i = .ok k)
    (estimates : w.chain.estimateUnavailable = false)
    (calm : w.chain.Open ∨ w.chain.KeepsOrder (w.chain.txCount k.address) b.permits.length)
    (tell : ((Runner.sendPermits start.tools turns i k.address b).perform w).2.chain.HashesTell) :
    ∃ ts count w',
      (Runner.sendPermits start.tools turns i k.address b).perform w = (.ok count, w') ∧
      PermitsAnswered w k b ts count w' ∧ w.Keeps w' := by
  obtain ⟨ts, w₁, permits, hf, hs, hperform⟩ :=
    perform_sendPermits start turns (b := b) key estimates
  rw [hperform] at tell ⊢
  have hsigned := Flight.signed_run start (turns ts.length) (Flight.queue 1 ts) w₁
  obtain ⟨-, us, hfollows, -⟩ :=
    Flight.run_follows start (turns ts.length) (Flight.queue 1 ts) w₁
  have hcount : w₁.chain.txCount k.address = w.chain.txCount k.address := by
    rw [hf.chain.txCount]
    simp
  have underway : Underway k.address (w₁.chain.txCount k.address) ts w₁.chain :=
    { signed := ⟨b.permits, by rw [hcount]; exact permits⟩
      known := fun t ht => by rw [hs]; exact List.mem_append_right _ ht
      tell := tell.of_prefix ⟨[], by rw [List.append_nil]; exact hsigned.symm⟩ }
  have hcalm : w₁.chain.Open ∨ w₁.chain.KeepsOrder (w₁.chain.txCount k.address) ts.length := by
    rw [hcount, permits.length_eq]
    exact calm.imp (fun h => h.of_bare hf.chain.bare) fun h => h.of_bare hf.chain.bare
  obtain ⟨fs, w', hrun, answered, hmoved⟩ := Flight.run_inOrder start inOrder underway hcalm
  rw [hrun] at hsigned hfollows
  rw [SimulatedChain.refuses_of_bare hf.chain.bare] at answered hmoved
  have hle : ts.findIdx w.chain.refuses ≤ b.permits.length := by
    rw [← permits.length_eq]
    exact List.findIdx_le_length
  simp only [hrun, Flight.all_settled answered.settled, if_true, answered.count_sent]
  refine ⟨ts, _, w', rfl, ⟨permits, hsigned.trans hs, rfl, Nat.add_sub_cancel' hle, ?_⟩,
    hf.keeps.trans hfollows.keeps⟩
  rw [hmoved, hcount]

end Sending
end PointExchange
