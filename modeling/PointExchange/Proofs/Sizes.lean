import PointExchange.Proofs.Nonces

/-!
# Sizes of queues and of batches

What a queue holds is in memory, and far from being more than a word can count (`PayloadsFit`). A
batch that comes from such a queue can be carried by a multicall and is read back from it.
-/

namespace PointExchange

/-- The payloads fit into memory: the number of them, and the signature of each message among
them. -/
structure PayloadsFit (payloads : List Bytes) : Prop where
  count : payloads.length < 2 ^ 64
  signatures : ∀ m ∈ messagesOf payloads, ∀ b ∈ m.signature, b.length < 2 ^ 64

theorem PayloadsFit.sublist {payloads some : List Bytes} (h : PayloadsFit payloads)
    (hs : some.Sublist payloads) : PayloadsFit some where
  count := Nat.lt_of_le_of_lt hs.length_le h.count
  signatures m hm := h.signatures m ((hs.filterMap _).subset hm)

theorem PayloadsFit.tail {p : Bytes} {rest : List Bytes} (h : PayloadsFit (p :: rest)) :
    PayloadsFit rest :=
  h.sublist (List.sublist_cons_self p rest)

/-- The message at the head of a queue has a signature that fits. -/
theorem PayloadsFit.head {p : Bytes} {rest : List Bytes} {m : Message}
    (h : PayloadsFit (p :: rest)) (decoded : Message.decode p = .ok m) :
    ∀ b ∈ m.signature, b.length < 2 ^ 64 := by
  apply h.signatures m
  rw [messagesOf_cons_ok decoded]
  exact List.mem_cons_self

theorem length_messagesOf_le (payloads : List Bytes) :
    (messagesOf payloads).length ≤ payloads.length :=
  List.length_filterMap_le _ _

/-- What a request takes over from its message. -/
inductive Message.Asks (m : Message) : ExchangeRequest → Prop
  | deposit (amount : Word) (parsed : parseAmount m.amount = .ok amount)
    (direction : m.direction = .ok .pointToToken) : Asks m (.deposit ⟨m.account, amount⟩)
  | withdraw (amount : Word) (signature : Bytes) (validUntil : UInt64)
    (permit : Option PermitRequest) (parsed : parseAmount m.amount = .ok amount)
    (direction : m.direction = .ok .tokenToPoint) (signed : m.signature = some signature)
    (expires : m.validUntil = some validUntil) (permitted : m.permitRequest = .ok permit) :
    Asks m (.withdraw
      ⟨m.account, amount, BitVec.ofNat 256 validUntil.toNat, signature, permit⟩)

/-- **A request takes its fields from its message.** -/
theorem Message.asks {m : Message} {r : ExchangeRequest} (h : m.request = .ok r) : m.Asks r := by
  unfold request at h
  cases ha : parseAmount m.amount with
  | error e => simp [ha, bind, Except.bind] at h
  | ok amount =>
    cases hd : m.direction with
    | error e => simp [ha, hd, bind, Except.bind] at h
    | ok d =>
      simp only [ha, hd, bind, Except.bind, pure, Except.pure] at h
      cases d with
      | pointToToken =>
        rw [← Except.ok.inj h]
        exact .deposit amount ha hd
      | tokenToPoint =>
        cases hs : m.signature with
        | none => simp [hs] at h
        | some b =>
          cases hv : m.validUntil with
          | none => simp [hs, hv] at h
          | some v =>
            cases hp : m.permitRequest with
            | error e => simp [hs, hv, hp] at h
            | ok p =>
              simp only [hs, hv, hp, Option.elim] at h
              rw [← Except.ok.inj h]
              exact .withdraw amount b v p ha hd hs hv hp

/-- A deposit is for the account of its message. -/
theorem Message.account_of_deposit {m : Message} {r : DepositRequest}
    (h : m.request = .ok (.deposit r)) : r.account = m.account := by
  cases asks h with
  | deposit => rfl

/-- A withdrawal is for the account of its message and carries its signature. -/
theorem Message.fields_of_withdraw {m : Message} {r : WithdrawRequest}
    (h : m.request = .ok (.withdraw r)) :
    r.account = m.account ∧ m.signature = some r.signature := by
  cases asks h with
  | withdraw amount signature validUntil permit parsed direction signed => exact ⟨rfl, signed⟩

section Offers

variable {start : SimulatedChain} {settings : BatchConfig} {m : Message} {b b' : Batch}
  {w : Bench SimulatedChain} {o : Offer}

/-- The call of an offer is a deposit iff its direction says so. -/
theorem Offered.isSome_decode? (h : Offered start settings m b w o b') :
    (DepositCall.decode? o.call).isSome = decide (o.direction = .pointToToken) := by
  cases h with
  | withdraw r permit task =>
    rw [show DepositCall.decode? (b.offerWithdraw r permit).call = none from
      DepositCall.decode?_of_selector_ne rfl (by decide) _]
    rfl
  | deposit r i manager k =>
    rw [show DepositCall.decode? (b.offerDeposit _ _).call = some _ from
      DepositCall.decode?_encode _ ?_]
    · rfl
    · rw [DepositAuthorization.length_signature_call]
      decide

theorem Offered.length_call_lt (h : Offered start settings m b w o b')
    (hm : ∀ b ∈ m.signature, b.length < 2 ^ 64) : o.call.length < 2 ^ 66 := by
  cases h with
  | withdraw r permit task =>
    have hs := hm _ (Message.fields_of_withdraw (Drafting.Task.ofMessage_withdraw_iff.mp task).1).2
    have hl := WithdrawCall.length_encode_le (.ofRequest r)
    show (WithdrawCall.ofRequest r).encode.length < 2 ^ 66
    have : (WithdrawCall.ofRequest r).signature.length = r.signature.length := rfl
    omega
  | deposit r i manager k =>
    have hl := DepositCall.length_encode_le
      ((r.authorization settings manager (b.nonceOf w.chain manager)).call k b.domainOf)
    have hs := (r.authorization settings manager (b.nonceOf w.chain manager)).length_signature_call
      k b.domainOf
    show (DepositAuthorization.call _ _ _).encode.length < 2 ^ 66
    omega

/-- A trial holds the offered call after calls and permits of the batch. It holds those of the
message only when the batch is empty. -/
theorem Offered.trial_eq (h : Offered start settings m b w o b') :
    ∃ front, o.trial = front ++ [o.call] ∧
      (∀ c ∈ front, c ∈ b.calls ++ b.permits ∨ c ∈ o.permits) ∧
      front.length ≤ b.calls.length + b.permits.length + o.permits.length ∧
      o.permits.length ≤ front.length ∧ (b.isEmpty = true → front = o.permits) := by
  cases h with
  | deposit =>
    refine ⟨b.calls, rfl, fun c hc => .inl (List.mem_append_left _ hc), ?_, Nat.zero_le _, ?_⟩
    · show b.calls.length ≤ b.calls.length + b.permits.length + 0
      omega
    · intro he
      rw [Batch.isEmpty, Bool.and_eq_true] at he
      exact List.isEmpty_iff.mp he.1
  | withdraw r permit task =>
    refine ⟨b.calls ++ (b.permits ++ permit.toList), rfl, ?_, ?_, ?_, ?_⟩
    · intro c hc
      rw [← List.append_assoc] at hc
      exact List.mem_append.mp hc
    · show (b.calls ++ (b.permits ++ permit.toList)).length ≤
        b.calls.length + b.permits.length + permit.toList.length
      rw [List.length_append, List.length_append]
      omega
    · show permit.toList.length ≤ (b.calls ++ (b.permits ++ permit.toList)).length
      rw [List.length_append, List.length_append]
      omega
    · intro he
      rw [Batch.isEmpty, Bool.and_eq_true] at he
      rw [List.isEmpty_iff.mp he.1, List.isEmpty_iff.mp he.2]
      rfl

theorem Offered.permits_le (h : Offered start settings m b w o b') : o.permits.length ≤ 1 := by
  cases h with
  | deposit => exact Nat.zero_le 1
  | withdraw r permit => exact Option.length_toList_le

theorem Offered.length_permit_lt (h : Offered start settings m b w o b') :
    ∀ p ∈ o.permits, p.length < 2 ^ 66 := by
  intro p hp
  obtain ⟨c, rfl⟩ := h.permits p hp
  rw [PermitCall.length_encode]
  decide

/-- The calls and permits of a batch are of lengths that a multicall can carry, and there is room
among `bound` of them for the messages left. -/
structure Batch.Sized (bound left : Nat) (b : Batch) : Prop where
  lengths : ∀ call ∈ b.calls ++ b.permits, call.length < 2 ^ 66
  size : b.calls.length + b.permits.length + 2 * left ≤ bound

theorem Batch.Sized.empty {bound left : Nat} (h : 2 * left ≤ bound) :
    Batch.Sized bound left {} := by
  refine ⟨by simp, ?_⟩
  show 0 + 0 + 2 * left ≤ bound
  omega

/-- A payload that is no request takes no room. -/
theorem Batch.Sized.pass {bound left : Nat} {b : Batch} (h : b.Sized bound (left + 1)) :
    b.Sized bound left :=
  { h with size := Nat.le_trans (Nat.add_le_add_left (by omega) _) h.size }

/-- Accepting an offer adds its call to what keeping its permits adds. -/
theorem Batch.mem_accept {b : Batch} {id : Uuid} {o : Offer} {c : Bytes} :
    c ∈ (b.accept id o).calls ++ (b.accept id o).permits ↔
      c ∈ (b.keepPermits o).calls ++ (b.keepPermits o).permits ∨ c = o.call := by
  simp only [accept, keepPermits, List.mem_append, List.mem_singleton]
  constructor
  · rintro ((hc | hc) | hc)
    · exact .inl (.inl hc)
    · exact .inr hc
    · exact .inl (.inr hc)
  · rintro ((hc | hc) | hc)
    · exact .inl (.inl hc)
    · exact .inr hc
    · exact .inl (.inr hc)

section Sized

variable {bound left : Nat} (h : Offered start settings m b w o b')
  (sized : b.Sized bound (left + 1))

include h sized

theorem Offered.carriable_trial (hb : bound < 2 ^ 66) (hm : ∀ b ∈ m.signature, b.length < 2 ^ 64) :
    Carriable o.trial := by
  obtain ⟨front, ht, hfront, hle, -, -⟩ := h.trial_eq
  have hsize := sized.size
  have hpermits := h.permits_le
  rw [ht]
  refine ⟨?_, fun c hc => ?_⟩
  · rw [List.length_append, List.length_singleton]
    omega
  · rcases List.mem_append.mp hc with hc | hc
    · exact (hfront c hc).elim (sized.lengths c) (h.length_permit_lt c)
    · rw [List.mem_singleton.mp hc]
      exact h.length_call_lt hm

theorem Offered.sized_keepPermits : (b'.keepPermits o).Sized bound left := by
  have hsize := sized.size
  have hpermits := h.permits_le
  refine ⟨fun c hc => ?_, ?_⟩
  · rw [Batch.keepPermits, h.prepared.calls, h.prepared.permits, ← List.append_assoc] at hc
    rcases List.mem_append.mp hc with hc | hc
    · exact sized.lengths c hc
    · exact h.length_permit_lt c hc
  · show b'.calls.length + (b'.permits ++ o.permits).length + 2 * left ≤ bound
    rw [h.prepared.calls, h.prepared.permits, List.length_append]
    omega

theorem Offered.sized_accept (hm : ∀ b ∈ m.signature, b.length < 2 ^ 64) :
    (b'.accept m.id o).Sized bound left := by
  have hsize := sized.size
  have hpermits := h.permits_le
  refine ⟨fun c hc => ?_, ?_⟩
  · rcases Batch.mem_accept.mp hc with hc | rfl
    · exact (h.sized_keepPermits sized).lengths c hc
    · exact h.length_call_lt hm
  · show (b'.calls ++ [o.call]).length + (b'.permits ++ o.permits).length + 2 * left ≤ bound
    rw [h.prepared.calls, h.prepared.permits, List.length_append, List.length_append,
      List.length_singleton]
    omega

end Sized

end Offers

namespace Drains

variable {start : SimulatedChain} {settings : BatchConfig} {n : Nat} {q : MessageQueue}
  {d : Drafting (Bench SimulatedChain)} {log : List Fate} {r : Drained (Bench SimulatedChain)}

/-- Every accepted call was offered. -/
theorem offered (h : Drains start settings n q d log r) :
    ∀ e ∈ entriesOf log, ∃ b w b', Offered start settings e.1 b w e.2 b' := by
  induction h with
  | halted | deferred | broken => exact fun e he => absurd he List.not_mem_nil
  | undecodable p rest e queue decoded next ih => exact ih
  | dropped p rest m d' queue decoded handled next ih => exact ih
  | accepted p rest m o b w queue decoded offered judged env next ih =>
    intro e he
    rcases List.mem_cons.mp he with rfl | he
    · exact ⟨_, _, _, offered⟩
    · exact ih e he
  | full p rest m o b w stop queue decoded offered judged env why =>
    intro e he
    rw [List.mem_singleton.mp he]
    exact ⟨_, _, _, offered⟩

/-- The messages of the log are messages of the queue, in their order. -/
theorem messages (h : Drains start settings n q d log r) :
    messagesOf q.payloads = log.map Fate.message ++ messagesOf r.site.queue.payloads := by
  obtain ⟨front, hf, hm⟩ := h.taken
  rw [hf, messagesOf_append, hm]

theorem entry_mem {log : List Fate} {e : Message × Offer} (he : e ∈ entriesOf log) :
    e.1 ∈ log.map Fate.message :=
  List.mem_map_of_mem (mem_entriesOf.mp he)

/-- **The batch of a drain can be carried by a multicall.** -/
theorem carriable {w : Bench SimulatedChain} (h : Drains start settings n q ⟨{}, w⟩ log r)
    (hq : PayloadsFit q.payloads) : Carriable r.batch.calls := by
  rw [h.batch_calls]
  refine ⟨?_, fun c hc => ?_⟩
  · have hm := congrArg List.length h.messages
    have hl := length_messagesOf_le q.payloads
    have he : (entriesOf log).length ≤ log.length := List.length_filterMap_le _ _
    have hc := hq.count
    rw [List.length_append, List.length_map] at hm
    rw [callsIn, List.length_map]
    omega
  · obtain ⟨e, he, rfl⟩ := List.mem_map.mp hc
    obtain ⟨b, w, b', ho⟩ := h.offered e he
    apply ho.length_call_lt
    apply hq.signatures e.1
    rw [h.messages]
    exact List.mem_append_left _ (entry_mem he)

/-- The deposits among the calls are as many as the records of that direction. -/
theorem length_deposits (h : Drains start settings n q d log r) :
    (depositsOf (callsIn log)).length =
      ((entriesOf log).map fun e => e.2.direction).count .pointToToken := by
  have ho := h.offered
  rw [callsIn]
  generalize entriesOf log = entries at ho
  induction entries with
  | nil => rfl
  | cons e rest ih =>
    obtain ⟨b, w, b', hb⟩ := ho e List.mem_cons_self
    have hi := ih fun x hx => ho x (List.mem_cons_of_mem _ hx)
    have hs := hb.isSome_decode?
    rw [List.map_cons, List.map_cons, List.count_cons, ← hi, depositsOf, List.filterMap_cons]
    cases hd : DepositCall.decode? e.2.call with
    | none =>
      rw [hd] at hs
      have hn : ¬e.2.direction = .pointToToken := by simpa using hs.symm
      simp [hn, depositsOf]
    | some call =>
      rw [hd] at hs
      have hn : e.2.direction = .pointToToken := by simpa using hs.symm
      simp [hn, depositsOf]

end Drains
end PointExchange
