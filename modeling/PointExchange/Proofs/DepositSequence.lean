import PointExchange.Proofs.AllOrNothing
import PointExchange.Proofs.Batch
import PointExchange.Proofs.Decisions
import PointExchange.Proofs.Healthy
import PointExchange.Proofs.Rounds

/-!
# The deposits of a drain

The deposits that a drain accepts are signed by one manager under one domain, with consecutive
nonces from what the chain said for the first of them (`deposits_signed_in_sequence`). The
collaborators do as they like; whatever else the drain takes in between uses no nonce.

A stretch of rounds is told by what it adds to the batch (`Batch.Extends`).
-/

namespace PointExchange

variable {E : Type} {c : Collaborators E} {settings : BatchConfig}

/-! ## Nonces -/

/-- The nonces go on from the last one before them, each one more than the one before; the last one
in the end is given too. -/
def Counts : Option Word → List Word → Option Word → Prop
  | last, [], last' => last' = last
  | last, n :: ns, last' => (∀ l, last = some l → n = l + 1) ∧ Counts (some n) ns last'

theorem Counts.append {last last' last'' : Option Word} {ns ns' : List Word}
    (h : Counts last ns last') (h' : Counts last' ns' last'') : Counts last (ns ++ ns') last'' := by
  induction ns generalizing last with
  | nil =>
    obtain rfl : last' = last := h
    exact h'
  | cons n ns ih => exact ⟨h.1, ih h.2⟩

/-- Nonces that go on from one are this one plus their places. -/
theorem Counts.of_some {l : Word} {ns : List Word} {last' : Option Word}
    (h : Counts (some l) ns last') :
    (∀ k n, ns[k]? = some n → n = l + BitVec.ofNat 256 (k + 1)) ∧
      last' = some (l + BitVec.ofNat 256 ns.length) := by
  induction ns generalizing l with
  | nil =>
    obtain rfl : last' = some l := h
    simp
  | cons n ns ih =>
    obtain ⟨hn, h⟩ := h
    obtain rfl := hn l rfl
    -- the places are counted from the nonce before, which goes up by one with each of them
    obtain ⟨hplaces, rfl⟩ := ih h
    have hadd : ∀ k, l + 1 + BitVec.ofNat 256 k = l + BitVec.ofNat 256 (k + 1) := by
      intro k
      rw [BitVec.ofNat_add, BitVec.add_assoc, BitVec.add_comm (1 : Word)]
      rfl
    refine ⟨fun k n' hk => ?_, by rw [hadd, List.length_cons]⟩
    cases k with
    | zero =>
      obtain rfl : l + 1 = n' := by simpa using hk
      rfl
    | succ k => rw [hplaces k n' (by simpa using hk), hadd]

/-- Nonces from nothing are the first one plus their places. -/
theorem Counts.of_none {base : Word} {ns : List Word} {last' : Option Word}
    (h : Counts none (base :: ns) last') :
    (∀ k n, (base :: ns)[k]? = some n → n = base + BitVec.ofNat 256 k) ∧
      last' = some (base + BitVec.ofNat 256 ns.length) := by
  obtain ⟨hk, hlast⟩ := h.2.of_some
  refine ⟨fun k n hn => ?_, hlast⟩
  cases k with
  | zero =>
    obtain rfl : base = n := by simpa using hn
    simp
  | succ k => exact hk k n (by simpa using hn)

/-! ## Accepted deposits -/

/-- The message, if it is a deposit and was accepted. -/
def Message.acceptedDeposit? (m : Message) (res : Except Fault Verdict) : Option Message :=
  match res, m.direction with
  | .ok .accepted, .ok .pointToToken => some m
  | _, _ => none

/-- The message of the round, if it is a deposit and is accepted. -/
def Draining.acceptedDeposit? (c : Collaborators E) (settings : BatchConfig) (x : Draining E) :
    Option Message :=
  if x.takes settings then
    match x.queue.payloads with
    | [] => none
    | p :: _ =>
      match Message.decode p with
      | .error _ => none
      | .ok m => m.acceptedDeposit? (x.drafting.handle c settings m).1
  else none

/-- A deposit that was accepted: its round and its message, the amount, and what was signed. -/
structure AcceptedDeposit (E : Type) where
  round : Draining E
  message : Message
  amount : Word
  signed : SignedDeposit

namespace AcceptedDeposit

def request (a : AcceptedDeposit E) : DepositRequest := ⟨a.message.account, a.amount⟩

def nonce (a : AcceptedDeposit E) : Word := a.signed.authorization.nonce

/-- The call of the deposit, with the record that it is for. -/
def entry (a : AcceptedDeposit E) : Uuid × Bytes := (a.message.id, a.signed.call.encode)

/-- The message of the round asks for the deposit, is accepted in it, and is signed in it. -/
structure Signed (c : Collaborators E) (settings : BatchConfig) (a : AcceptedDeposit E) : Prop where
  accepted : a.round.acceptedDeposit? c settings = some a.message
  asked : a.message.request = .ok (.deposit a.request)
  signs : ∃ d, a.round.drafting.Signs c settings a.request a.signed d

end AcceptedDeposit

namespace Batch

/-- Each call has the record that it is for. -/
def Paired (b : Batch) : Prop := b.accepted.length = b.calls.length

/-- The calls of the deposits of a batch, with the records that they are for. -/
def depositCalls (b : Batch) : List (Uuid × Bytes) :=
  (b.accepted.zip b.calls).filterMap fun ((id, direction), call) =>
    match direction with
    | .pointToToken => some (id, call)
    | .tokenToPoint => none

theorem depositCalls_accept {b : Batch} (h : b.Paired) (id : Uuid) (o : Offer) :
    (b.accept id o).depositCalls = b.depositCalls ++
      match o.direction with
      | .pointToToken => [(id, o.call)]
      | .tokenToPoint => [] := by
  unfold depositCalls
  rw [accept, List.zip_append h, List.filterMap_append]
  cases o.direction <;> rfl

theorem Noted.depositCalls {b b' : Batch} (h : b.Noted b') : b'.depositCalls = b.depositCalls := by
  rw [Batch.depositCalls, Batch.depositCalls, h.accepted, h.calls]

theorem Noted.paired {b b' : Batch} (h : b.Noted b') (hp : b.Paired) : b'.Paired := by
  rwa [Paired, h.accepted, h.calls]

/-- What rounds add to a batch in which some deposits are accepted. -/
structure Extends (b : Batch) (deposits : List (AcceptedDeposit E)) (b' : Batch) : Prop where
  paired : b.Paired → b'.Paired
  calls : b.Paired → b'.depositCalls = b.depositCalls ++ deposits.map AcceptedDeposit.entry
  counts : Counts b.lastNonce (deposits.map AcceptedDeposit.nonce) b'.lastNonce
  /-- the first deposit is signed when no nonce was used before -/
  first : b.lastNonce = none →
    ∀ a, deposits.head? = some a → a.round.drafting.batch.lastNonce = none
  managerIndex : ∀ i, b.managerIndex = some i → b'.managerIndex = some i
  domain : ∀ s, b.domain = some s → b'.domain = some s
  settled : ∀ a ∈ deposits,
    b'.managerIndex = some a.signed.index ∧ b'.domain = some a.signed.domain

namespace Extends

variable {b b' b'' : Batch} {xs ys : List (AcceptedDeposit E)}

theorem of_noted (h : b.Noted b') : b.Extends ([] : List (AcceptedDeposit E)) b' where
  paired := h.paired
  calls _ := h.depositCalls.trans (List.append_nil _).symm
  counts := h.lastNonce
  first _ a ha := by simp at ha
  managerIndex := h.managerIndex
  domain := h.domain
  settled a ha := absurd ha List.not_mem_nil

/-- Permits are no matter of the deposits. -/
theorem of_permits {permits : List Bytes} (h : b.Extends xs { b' with permits := permits }) :
    b.Extends xs b' :=
  ⟨h.paired, h.calls, h.counts, h.first, h.managerIndex, h.domain, h.settled⟩

theorem trans (h : b.Extends xs b') (h' : b'.Extends ys b'') : b.Extends (xs ++ ys) b'' where
  paired hp := h'.paired (h.paired hp)
  calls hp := by
    rw [h'.calls (h.paired hp), h.calls hp, List.append_assoc, List.map_append]
  counts := by
    rw [List.map_append]
    exact h.counts.append h'.counts
  first hn a ha := by
    cases xs with
    | nil =>
      have hl : b'.lastNonce = b.lastNonce := h.counts
      exact h'.first (hl.trans hn) a ha
    | cons x xs => exact h.first hn a ha
  managerIndex i hi := h'.managerIndex i (h.managerIndex i hi)
  domain s hs := h'.domain s (h.domain s hs)
  settled a ha := by
    rcases List.mem_append.mp ha with ha | ha
    · obtain ⟨hi, hs⟩ := h.settled a ha
      exact ⟨h'.managerIndex _ hi, h'.domain _ hs⟩
    · exact h'.settled a ha

end Extends
end Batch

/-! ## What a round adds -/

namespace Drafting

variable {m : Message} {d d' : Drafting E}

theorem Signs.settled {r : DepositRequest} {x : SignedDeposit} (h : d.Signs c settings r x d') :
    d'.batch.managerIndex = some x.index ∧ d'.batch.domain = some x.domain := by
  cases h with
  | intro index manager nonce domain signature d₁ d₂ d₃ w picked address counted named =>
    have hd : d₃.batch.domain = some domain := by
      cases named with
      | noted h => exact h
      | asked => rfl
    have hi : d₁.batch.managerIndex = some index := by
      cases picked with
      | noted _ h => exact h
      | asked => rfl
    rw [← counted.batch_eq] at hi
    exact ⟨named.noted_batch.managerIndex _ hi, hd⟩

/-- The nonce of a deposit is the one after the last. -/
theorem Signs.nonce_eq {r : DepositRequest} {x : SignedDeposit} (h : d.Signs c settings r x d')
    {last : Word} (hl : d.batch.lastNonce = some last) : x.authorization.nonce = last + 1 := by
  cases h with
  | intro index manager nonce domain signature d₁ d₂ d₃ w picked address counted =>
    rw [← picked.noted_batch.lastNonce] at hl
    show nonce = last + 1
    cases counted with
    | next last' h =>
      obtain rfl : last = last' := Option.some.inj (hl.symm.trans h)
      rfl
    | asked nonce w h => simpa using hl.symm.trans h

/-- Accepting a withdrawal adds no deposit. -/
theorem extends_withdraw (b : Batch) (id : Uuid) (r : WithdrawRequest) (permit : Option Bytes) :
    b.Extends ([] : List (AcceptedDeposit E)) (b.accept id (b.offerWithdraw r permit)) where
  paired hp := by
    show (b.accepted ++ _).length = (b.calls ++ _).length
    rw [List.length_append, List.length_append, hp]
    rfl
  calls hp := by
    rw [Batch.depositCalls_accept hp]
    rfl
  counts := rfl
  first _ a ha := by simp at ha
  managerIndex _ h := h
  domain _ h := h
  settled a ha := absurd ha List.not_mem_nil

/-- Accepting a deposit adds this one. -/
theorem extends_deposit (a : AcceptedDeposit E)
    (signs : a.round.drafting.Signs c settings a.request a.signed d) :
    a.round.drafting.batch.Extends [a]
      (d.batch.accept a.message.id
        (d.batch.offerDeposit a.signed.call a.signed.authorization.nonce)) where
  paired hp := by
    show (d.batch.accepted ++ _).length = (d.batch.calls ++ _).length
    rw [List.length_append, List.length_append, signs.noted.paired hp]
    rfl
  calls hp := by
    rw [Batch.depositCalls_accept (signs.noted.paired hp), signs.noted.depositCalls]
    rfl
  counts := ⟨fun l hl => signs.nonce_eq hl, rfl⟩
  first hn a' ha' := by
    obtain rfl : a = a' := by simpa using ha'
    exact hn
  managerIndex i hi := signs.noted.managerIndex i hi
  domain s hs := signs.noted.domain s hs
  settled a' ha' := by
    rw [List.mem_singleton.mp ha']
    exact signs.settled

end Drafting

/-- The deposits are the accepted ones of the rounds, in their order, and all are signed. -/
structure AcceptedIn (c : Collaborators E) (settings : BatchConfig) (xs : List (Draining E))
    (deposits : List (AcceptedDeposit E)) : Prop where
  those : (deposits.map fun a => (a.round, a.message)) =
    xs.filterMap fun x => (x.acceptedDeposit? c settings).map (x, ·)
  signed : ∀ a ∈ deposits, a.Signed c settings

namespace AcceptedIn

variable {x : Draining E} {xs ys : List (Draining E)} {as bs : List (AcceptedDeposit E)}

theorem none (h : x.acceptedDeposit? c settings = none) : AcceptedIn c settings [x] [] where
  those := by simp [h]
  signed a ha := absurd ha List.not_mem_nil

theorem one {a : AcceptedDeposit E} (h : a.Signed c settings) :
    AcceptedIn c settings [a.round] [a] where
  those := by simp [h.accepted]
  signed a' ha' := by rwa [List.mem_singleton.mp ha']

theorem append (h : AcceptedIn c settings xs as) (h' : AcceptedIn c settings ys bs) :
    AcceptedIn c settings (xs ++ ys) (as ++ bs) where
  those := by rw [List.map_append, List.filterMap_append, h.those, h'.those]
  signed a ha := by
    rcases List.mem_append.mp ha with ha | ha
    · exact h.signed a ha
    · exact h'.signed a ha

theorem round_mem (h : AcceptedIn c settings xs as) {a : AcceptedDeposit E} (ha : a ∈ as) :
    a.round ∈ xs := by
  have hm : (a.round, a.message) ∈ as.map fun a => (a.round, a.message) :=
    List.mem_map_of_mem ha
  rw [h.those] at hm
  obtain ⟨y, hy, hf⟩ := List.mem_filterMap.mp hm
  obtain ⟨m, -, hm⟩ := Option.map_eq_some_iff.mp hf
  rwa [← (Prod.mk.inj hm).1]

end AcceptedIn

namespace Draining

variable {x y : Draining E} {p : Bytes} {rest : List Bytes} {m : Message}

/-- The batch that a round leads to. -/
def batchAfter (out : Drained E ⊕ Draining E) : Batch :=
  out.elim Drained.batch fun y => y.drafting.batch

theorem batchAfter_proceed (res : Except Fault Verdict) (d : Drafting E) :
    batchAfter (x.proceed c settings rest (res, d)) = d.batch := by
  unfold proceed
  rcases res with fault | (_ | _ | _)
  · rfl
  · have hb := Drafting.batch_checkBudget c settings.gasBudget d
    rcases hc : d.checkBudget c settings.gasBudget with ⟨_ | stop, d'⟩
    all_goals
      rw [hc] at hb
      simp only [hc]
      exact hb
  · rfl
  · rfl

theorem acceptedDeposit?_of_handles (h : x.Handles settings p rest m) {res : Except Fault Verdict}
    {d : Drafting E} (handled : x.drafting.handle c settings m = (res, d)) :
    x.acceptedDeposit? c settings = m.acceptedDeposit? res := by
  unfold acceptedDeposit?
  rw [if_pos h.takes, h.queue]
  simp only [h.decoded]
  rw [handled]

/-- An accepted message adds a deposit to the batch, if it asks for one. -/
theorem accepted_extends (h : x.Handles settings p rest m) {o : Offer} {d d₁ : Drafting E}
    (offers : x.drafting.Offers c settings m o d₁)
    (handled : x.drafting.handle c settings m = (.ok .accepted, d)) :
    ∃ deposits, AcceptedIn c settings [x] deposits ∧
      x.drafting.batch.Extends deposits (d₁.batch.accept m.id o) := by
  have htook := acceptedDeposit?_of_handles h handled
  simp only [Message.acceptedDeposit?, offers.direction] at htook
  cases offers with
  | deposit r signed d₁ task signs =>
    obtain ⟨account, amount⟩ := r
    have hasks := Drafting.Task.ofMessage_deposit_iff.mp task
    obtain rfl : account = m.account := Message.account_of_deposit hasks
    have ha : AcceptedDeposit.Signed c settings ⟨x, m, amount, signed⟩ := ⟨htook, hasks, d₁, signs⟩
    exact ⟨[_], .one ha, Drafting.extends_deposit ⟨x, m, amount, signed⟩ signs⟩
  | withdraw r permit task =>
    exact ⟨[], .none htook, Drafting.extends_withdraw x.drafting.batch m.id r permit⟩

/-- What a message adds to the batch is a deposit or none. -/
theorem handle_extends (h : x.Handles settings p rest m) {res : Except Fault Verdict}
    {d : Drafting E} (handled : x.drafting.handle c settings m = (res, d)) :
    ∃ deposits, AcceptedIn c settings [x] deposits ∧
      x.drafting.batch.Extends deposits d.batch := by
  have hall := Drafting.allOrNothing handled
  have hnone := acceptedDeposit?_of_handles h handled
  rcases res with fault | (_ | _ | ⟨gas, budget⟩)
  · exact ⟨[], .none hnone, .of_noted (hall.unsettled (.inl ⟨fault, rfl⟩))⟩
  · cases Drafting.decided handled with
    | tried o d₁ d₂ v offers tried =>
      rw [tried.batch_of_accepted]
      exact accepted_extends h offers handled
  · exact ⟨[], .none hnone, .of_permits (.of_noted (hall.dropped rfl).1)⟩
  · exact ⟨[], .none hnone, .of_noted (hall.unsettled (.inr ⟨gas, budget, rfl⟩))⟩

/-- What a round adds to the batch is a deposit or none. -/
theorem round_extends (c : Collaborators E) (settings : BatchConfig) (x : Draining E) :
    ∃ deposits, AcceptedIn c settings [x] deposits ∧
      x.drafting.batch.Extends deposits (batchAfter (x.round c settings)) := by
  rcases takes_cases settings x with h | ⟨p, rest, e, h, queue, decoded⟩ | ⟨p, rest, m, h⟩
  · obtain ⟨stop, hr⟩ := round_of_not_takes (c := c) h
    refine ⟨[], .none (by simp [acceptedDeposit?, h]), ?_⟩
    rw [hr]
    exact .of_noted (.refl _)
  · refine ⟨[], .none (by simp [acceptedDeposit?, h, queue, decoded]), ?_⟩
    rw [round_of_undecodable h queue decoded]
    exact .of_noted (.refl _)
  · rcases handled : x.drafting.handle c settings m with ⟨res, d⟩
    obtain ⟨deposits, accepted, hb⟩ := handle_extends h handled
    refine ⟨deposits, accepted, ?_⟩
    rwa [round_of_handles h, handled, batchAfter_proceed]

/-- **A drain adds its accepted deposits to the batch.** -/
theorem Rounds.extends_batch {xs : List (Draining E)} {r : Drained E}
    (h : Rounds c settings x xs r) :
    ∃ deposits, AcceptedIn c settings xs deposits ∧ x.drafting.batch.Extends deposits r.batch := by
  induction h with
  | @last x r hr =>
    obtain ⟨deposits, accepted, hb⟩ := round_extends c settings x
    rw [hr] at hb
    exact ⟨deposits, accepted, hb⟩
  | @next x y xs r hr rounds ih =>
    obtain ⟨deposits, accepted, hb⟩ := round_extends c settings x
    obtain ⟨deposits', accepted', hb'⟩ := ih
    rw [hr] at hb
    exact ⟨deposits ++ deposits', accepted.append accepted', hb.trans hb'⟩

end Draining

/-! ## Who signs, and for whom -/

namespace Drafting

variable {d d' : Drafting E} {b b' : Batch}

/-- The manager is asked for now, and it is this one's turn. -/
def AsksManager (c : Collaborators E) (d : Drafting E) (index : UInt64) : Prop :=
  ∃ stored w, d.batch.managerIndex = none ∧
    (c.indices.get .manager).perform d.env = (.ok stored, w) ∧
    index = stored % poolModulus (c.gateway.poolSize .manager)

/-- The domain is asked for now, after the manager and the nonce, and it is this one. -/
def AsksDomain (c : Collaborators E) (d : Drafting E) (domain : SigningDomain) : Prop :=
  ∃ index manager nonce d₁ d₂ w, d.batch.domain = none ∧ d.PicksManager c index d₁ ∧
    c.gateway.addressFor .manager index = .ok manager ∧ d₁.PicksNonce c manager nonce d₂ ∧
    c.gateway.chainDomain.perform d₂.env = (.ok domain, w)

/-- What the batch after a round says of who signs was noted down before, or is asked for now. -/
structure Learns (c : Collaborators E) (d : Drafting E) (b : Batch) : Prop where
  manager : ∀ i, b.managerIndex = some i → d.batch.managerIndex = some i ∨ d.AsksManager c i
  domain : ∀ s, b.domain = some s → d.batch.domain = some s ∨ d.AsksDomain c s

theorem Learns.refl (c : Collaborators E) (d : Drafting E) : d.Learns c d.batch :=
  ⟨fun _ h => .inl h, fun _ h => .inl h⟩

/-- Only the manager and the domain of a batch are learnt. -/
theorem Learns.congr (h : d.Learns c b) (hi : b'.managerIndex = b.managerIndex)
    (hs : b'.domain = b.domain) : d.Learns c b' :=
  ⟨fun i h' => h.manager i (hi ▸ h'), fun s h' => h.domain s (hs ▸ h')⟩

theorem PicksManager.domain_eq {index : UInt64} (h : d.PicksManager c index d') :
    d'.batch.domain = d.batch.domain := by
  cases h with
  | noted => rfl
  | asked => rfl

theorem PicksDomain.managerIndex_eq {domain : SigningDomain} (h : d.PicksDomain c domain d') :
    d'.batch.managerIndex = d.batch.managerIndex := by
  cases h with
  | noted => rfl
  | asked => rfl

theorem Signs.learns {r : DepositRequest} {x : SignedDeposit} (h : d.Signs c settings r x d') :
    d.Learns c d'.batch := by
  cases h with
  | intro index manager nonce domain signature d₁ d₂ d₃ w picked address counted named =>
    have hs : d₂.batch.domain = d.batch.domain := by rw [counted.batch_eq, picked.domain_eq]
    constructor
    · intro i hi
      rw [named.managerIndex_eq, counted.batch_eq] at hi
      cases picked with
      | noted => exact .inl hi
      | asked stored w' h answer => exact .inr ⟨stored, w', h, answer, (Option.some.inj hi).symm⟩
    · intro s h
      cases named with
      | noted => exact .inl (hs ▸ h)
      | asked w' hn answer =>
        obtain rfl := Option.some.inj h
        exact .inr ⟨index, manager, nonce, d₁, d₂, w', hs ▸ hn, picked, address, counted, answer⟩

theorem Offers.learns {m : Message} {o : Offer} (h : d.Offers c settings m o d') :
    d.Learns c d'.batch := by
  cases h with
  | deposit r x d' task signed => exact signed.learns
  | withdraw => exact .refl c d

theorem learns_of_handle {m : Message} {v : Verdict}
    (handled : d.handle c settings m = (.ok v, d')) : d.Learns c d'.batch := by
  cases decided handled with
  | rejected => exact .refl c d
  | tried o d₁ d₂ v offers tried =>
    cases v with
    | accepted =>
      rw [tried.batch_of_accepted]
      exact offers.learns.congr rfl rfl
    | dropped =>
      rw [tried.batch_of_dropped]
      exact offers.learns.congr rfl rfl
    | deferred gas budget =>
      rw [tried.batch_of_unsettled (.inr ⟨gas, budget, rfl⟩)]
      exact offers.learns

/-- The nonce of a deposit is asked for when there is no last one. -/
theorem Signs.counted {r : DepositRequest} {x : SignedDeposit} (h : d.Signs c settings r x d')
    (hn : d.batch.lastNonce = none) {manager : Address}
    (address : c.gateway.addressFor .manager x.index = .ok manager) :
    ∃ d₁ w, d.PicksManager c x.index d₁ ∧
      (c.gateway.signatureNonce manager).perform d₁.env = (.ok x.authorization.nonce, w) := by
  cases h with
  | intro index manager' nonce domain signature d₁ d₂ d₃ w picked address' counted =>
    obtain rfl := Except.ok.inj (address'.symm.trans address)
    rw [← picked.noted_batch.lastNonce] at hn
    cases counted with
    | next last h => exact absurd (h.symm.trans hn) (by simp)
    | asked nonce w h answer => exact ⟨d₁, w, picked, answer⟩

theorem Signs.address {r : DepositRequest} {x : SignedDeposit} (h : d.Signs c settings r x d') :
    ∃ manager, c.gateway.addressFor .manager x.index = .ok manager := by
  cases h with
  | intro index manager nonce domain signature d₁ d₂ d₃ w picked address => exact ⟨manager, address⟩

/-- What is signed is what was asked for, by the manager and with the nonce. -/
theorem Signs.authorization_eq {r : DepositRequest} {x : SignedDeposit}
    (h : d.Signs c settings r x d') {manager : Address}
    (address : c.gateway.addressFor .manager x.index = .ok manager) :
    x.authorization = r.authorization settings manager x.authorization.nonce := by
  cases h with
  | intro index manager' nonce domain signature d₁ d₂ d₃ w picked address' =>
    obtain rfl := Except.ok.inj (address'.symm.trans address)
    rfl

end Drafting

namespace Draining

variable {x y : Draining E} {xs : List (Draining E)} {r : Drained E}

theorem learns_of_round (next : x.round c settings = .inr y) :
    x.drafting.Learns c y.drafting.batch := by
  have hg := x.goes c settings
  rw [next] at hg
  cases hg with
  | undecodable => exact .refl c x.drafting
  | dropped p rest m d deep queue decoded handled => exact Drafting.learns_of_handle handled
  | accepted p rest m d d' deep queue decoded handled checked =>
    -- the estimate of the whole batch tells nothing new about who signs
    have hb := Drafting.batch_checkBudget c settings.gasBudget d
    rw [checked] at hb
    rw [hb]
    exact Drafting.learns_of_handle handled

/-- Who signs in a round was asked for in one of the rounds. -/
theorem Rounds.asksManager (h : Rounds c settings x xs r)
    (fresh : x.drafting.batch.managerIndex = none) (hy : y ∈ xs) {i : UInt64}
    (known : y.drafting.batch.managerIndex = some i ∨ y.drafting.AsksManager c i) :
    ∃ z ∈ xs, z.drafting.AsksManager c i := by
  rcases known with known | asks
  · have traced := h.traced (P := fun z => z.drafting.batch.managerIndex = some i)
      (A := fun z => z.drafting.AsksManager c i) (fun next => (learns_of_round next).manager i)
    exact (traced y hy known).resolve_left (by simp [fresh])
  · exact ⟨y, hy, asks⟩

/-- The domain that a round signs under was asked for in one of the rounds. -/
theorem Rounds.asksDomain (h : Rounds c settings x xs r)
    (fresh : x.drafting.batch.domain = none) (hy : y ∈ xs) {s : SigningDomain}
    (known : y.drafting.batch.domain = some s ∨ y.drafting.AsksDomain c s) :
    ∃ z ∈ xs, z.drafting.AsksDomain c s := by
  rcases known with known | asks
  · have traced := h.traced (P := fun z => z.drafting.batch.domain = some s)
      (A := fun z => z.drafting.AsksDomain c s) (fun next => (learns_of_round next).domain s)
    exact (traced y hy known).resolve_left (by simp [fresh])
  · exact ⟨y, hy, asks⟩

end Draining

/-! ## The whole drain -/

/-- The deposits are signed by one manager under one domain, and their nonces count on from one that
the chain has told. -/
structure Batch.SignedInSequence (c : Collaborators E) (settings : BatchConfig)
    (rounds : List (Draining E)) (deposits : List (AcceptedDeposit E)) (b : Batch) (index : UInt64)
    (manager : Address) (domain : SigningDomain) (base : Word) : Prop where
  turn : ∃ x ∈ rounds, x.drafting.AsksManager c index
  address : c.gateway.addressFor .manager index = .ok manager
  named : ∃ x ∈ rounds, x.drafting.AsksDomain c domain
  counted : ∀ a, deposits.head? = some a → ∃ d w, a.round.drafting.PicksManager c index d ∧
    (c.gateway.signatureNonce manager).perform d.env = (.ok base, w)
  signed : ∀ (k : Nat) a, deposits[k]? = some a → a.signed.index = index ∧
    a.signed.domain = domain ∧ a.signed.authorization =
      a.request.authorization settings manager (base + BitVec.ofNat 256 k)
  lastNonce : b.lastNonce = some (base + BitVec.ofNat 256 (deposits.length - 1))

theorem Draining.Rounds.signedInSequence {x : Draining E} {xs : List (Draining E)} {r : Drained E}
    {a : AcceptedDeposit E} {deposits : List (AcceptedDeposit E)} (h : Rounds c settings x xs r)
    (fresh : x.drafting.batch = {}) (accepted : AcceptedIn c settings xs (a :: deposits))
    (added : x.drafting.batch.Extends (a :: deposits) r.batch) :
    ∃ index manager domain base, r.batch.SignedInSequence c settings xs (a :: deposits) index
      manager domain base := by
  have hmem : a ∈ a :: deposits := List.mem_cons_self
  have hround := accepted.round_mem hmem
  obtain ⟨d, signs⟩ := (accepted.signed a hmem).signs
  obtain ⟨manager, address⟩ := signs.address
  have hunused := added.first (by rw [fresh]) a rfl
  -- what a deposit is signed with stays noted down, so the last batch has it of all of them
  obtain ⟨index_eq, domain_eq⟩ := added.settled a hmem
  obtain ⟨hcounts, hlast⟩ := Counts.of_none (by simpa [fresh] using added.counts)
  refine ⟨a.signed.index, manager, a.signed.domain, a.nonce, ?_⟩
  refine
    { turn := h.asksManager (by rw [fresh]) hround (signs.learns.manager _ signs.settled.1)
      address := address
      named := h.asksDomain (by rw [fresh]) hround (signs.learns.domain _ signs.settled.2)
      counted := fun a' ha' => ?_
      signed := fun k a' hk => ?_
      lastNonce := by simpa using hlast }
  · obtain rfl : a = a' := by simpa using ha'
    exact signs.counted hunused address
  · have hmem' : a' ∈ a :: deposits := List.mem_of_getElem? hk
    obtain ⟨index_eq', domain_eq'⟩ := added.settled a' hmem'
    obtain ⟨d', signs'⟩ := (accepted.signed a' hmem').signs
    have hindex : a'.signed.index = a.signed.index :=
      Option.some.inj (index_eq'.symm.trans index_eq)
    have hnonce : a'.nonce = a.nonce + BitVec.ofNat 256 k := by
      refine hcounts k a'.nonce ?_
      rw [← List.map_cons, List.getElem?_map, hk]
      rfl
    refine ⟨hindex, Option.some.inj (domain_eq'.symm.trans domain_eq), ?_⟩
    rw [← hnonce]
    exact signs'.authorization_eq (hindex ▸ address)

/-- **The deposits of a drain are signed in sequence.** -/
theorem deposits_signed_in_sequence (c : Collaborators E) (s : Site E) :
    ∃ settings rounds deposits, s.Rounds c settings rounds (s.drain c) ∧
      AcceptedIn c settings rounds deposits ∧ (s.drain c).batch.Paired ∧
      (s.drain c).batch.depositCalls = deposits.map AcceptedDeposit.entry ∧
      ((s.drain c).batch.lastNonce = none ↔ deposits = []) ∧
      (deposits ≠ [] → ∃ index manager domain base, (s.drain c).batch.SignedInSequence c settings
        rounds deposits index manager domain base) := by
  obtain ⟨settings, rounds, hrounds⟩ := s.exists_rounds c
  revert hrounds
  generalize s.drain c = r
  intro hrounds
  cases hrounds with
  | unreadable e settings h =>
    exact ⟨settings, [], [], .unreadable e settings h, ⟨rfl, by simp⟩, rfl, rfl, by simp, by simp⟩
  | readable config rounds r h hrounds =>
    obtain ⟨deposits, accepted, hb⟩ := hrounds.extends_batch
    refine ⟨config.batch, rounds, deposits, .readable config rounds r h hrounds, accepted,
      hb.paired rfl, hb.calls rfl, ?_, ?_⟩
    · cases deposits with
      | nil => exact iff_of_true hb.counts rfl
      | cons a deposits =>
        have hlast := (Counts.of_none (by simpa [Site.opening] using hb.counts)).2
        exact iff_of_false (by simp [hlast]) (by simp)
    · intro hne
      obtain ⟨a, deposits, rfl⟩ := List.exists_cons_of_ne_nil hne
      exact hrounds.signedInSequence rfl accepted hb

/-- A site with the same deposit queued twice. -/
def Site.twoDeposits : Site (Bench SimulatedChain) :=
  { oneDeposit with queue := { payloads := [depositPayload, depositPayload] } }

set_option maxRecDepth 100000 in
theorem deposits_signed_in_sequence_twoDeposits :
    ∃ settings rounds deposits index manager domain,
      let drained := Site.twoDeposits.drain Site.twoDeposits.env.chain.tools
      Site.twoDeposits.Rounds Site.twoDeposits.env.chain.tools settings rounds drained ∧
        drained.batch.depositCalls = deposits.map AcceptedDeposit.entry ∧ deposits.length = 2 ∧
        drained.batch.SignedInSequence Site.twoDeposits.env.chain.tools settings rounds deposits
          index manager domain 0 := by
  obtain ⟨settings, rounds, deposits, hrounds, -, -, hcalls, -, hsigned⟩ :=
    deposits_signed_in_sequence Site.twoDeposits.env.chain.tools Site.twoDeposits
  have hlength : deposits.length = 2 := by
    rw [← List.length_map AcceptedDeposit.entry, ← hcalls]
    decide +kernel
  obtain ⟨index, manager, domain, base, h⟩ := hsigned (by rintro rfl; simp at hlength)
  have hlast : (Site.twoDeposits.drain Site.twoDeposits.env.chain.tools).batch.lastNonce =
      some 1 := by decide +kernel
  obtain rfl : base = 0 := by
    have hadd : base + BitVec.ofNat 256 (deposits.length - 1) = 1 :=
      Option.some.inj (h.lastNonce.symm.trans hlast)
    rw [hlength] at hadd
    simpa using hadd
  exact ⟨settings, rounds, deposits, index, manager, domain, hrounds, hcalls, hlength, h⟩

end PointExchange
