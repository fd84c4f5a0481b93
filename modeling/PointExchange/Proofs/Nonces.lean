import PointExchange.Proofs.Batch
import PointExchange.Proofs.TypedData

/-!
# The nonces of the deposits of a drain

All deposits that a drain accepts are signed by one manager, and the nonces in the signatures are
consecutive (`Drains.signed`). The first of them is what the chain says is next; a deposit that is
not accepted uses none.
-/

namespace PointExchange

/-! ## Signatures with consecutive nonces -/

/-- One of the keys has signed the deposit with the nonce, as the manager of the deposit: what it
has signed is the typed structure of the deposit, for the contract on the chain, with this nonce. -/
def SignedWith (keys : List Signer) (nonce : Word) (d : DepositCall) : Prop :=
  ∃ k ∈ keys, ∃ g : Secp256k1.Signature, d.manager = k.address ∧
    g = k.sign (TypedStruct.digest
      (TypedStruct.eip712Domain "PointManager" "1" 84532 SimulatedChain.pointManager)
      (TypedStruct.depositPoint d.account d.amount d.validUntil d.manager nonce)) ∧
    d.signature = wordBytes g.r ++ wordBytes g.s ++ [if g.odd then 28 else 27]

/-- The deposits are signed with consecutive nonces, the first of them being `nonce`. -/
def SignedInOrder (keys : List Signer) : Word → List DepositCall → Prop
  | _, [] => True
  | nonce, d :: r => SignedWith keys nonce d ∧ SignedInOrder keys (nonce + 1) r

theorem SignedInOrder.append {keys : List Signer} : ∀ {nonce : Word} {xs ys : List DepositCall},
    SignedInOrder keys nonce xs → SignedInOrder keys (nonce + BitVec.ofNat 256 xs.length) ys →
      SignedInOrder keys nonce (xs ++ ys)
  | nonce, [], ys, _, hy => by simpa using hy
  | nonce, x :: xs, ys, hx, hy => by
    refine ⟨hx.1, SignedInOrder.append hx.2 ?_⟩
    rw [List.length_cons, Nat.add_comm, BitVec.ofNat_add, ← BitVec.add_assoc] at hy
    exact hy

/-- The nonce of each deposit is the first one plus its place. -/
theorem SignedInOrder.getElem {keys : List Signer} : ∀ {nonce : Word} {xs : List DepositCall},
    SignedInOrder keys nonce xs → ∀ (i : Nat) (h : i < xs.length),
      SignedWith keys (nonce + BitVec.ofNat 256 i) xs[i]
  | nonce, x :: xs, hx, 0, _ => by simpa using hx.1
  | nonce, x :: xs, hx, i + 1, h => by
    have ih := hx.2.getElem i (Nat.lt_of_succ_lt_succ h)
    have hn : nonce + BitVec.ofNat 256 (i + 1) = nonce + 1 + BitVec.ofNat 256 i := by
      rw [Nat.add_comm i 1, BitVec.ofNat_add, ← BitVec.add_assoc]
      rfl
    rw [hn]
    exact ih

/-! ## The manager of a batch -/

/-- The manager who signs the deposits of a batch, once there is one. -/
def Batch.manager? (b : Batch) (start : SimulatedChain) : Option Address :=
  b.managerIndex.bind fun i => (start.gateway.addressFor .manager i).toOption

/-- The deposits among calls. -/
def depositsOf (calls : List Bytes) : List DepositCall := calls.filterMap DepositCall.decode?

theorem depositsOf_append (a b : List Bytes) : depositsOf (a ++ b) = depositsOf a ++ depositsOf b :=
  List.filterMap_append

/-- The deposits of a manager among calls. -/
def depositsBy (a : Address) (calls : List Bytes) : List DepositCall :=
  (depositsOf calls).filter fun d => d.manager = a

theorem depositsBy_append (a : Address) (xs ys : List Bytes) :
    depositsBy a (xs ++ ys) = depositsBy a xs ++ depositsBy a ys := by
  rw [depositsBy, depositsOf_append, List.filter_append]
  rfl

theorem count_managers (a : Address) (calls : List Bytes) :
    ((depositsOf calls).map DepositCall.manager).count a = (depositsBy a calls).length := by
  rw [List.count_eq_countP, List.countP_map, List.countP_eq_length_filter]
  rfl

/-- Deposits of one manager are all of this manager and of no other one. -/
theorem depositsBy_eq {m? : Option Address} {calls : List Bytes}
    (h : ∀ d ∈ depositsOf calls, m? = some d.manager) (a : Address) :
    depositsBy a calls = if m? = some a then depositsOf calls else [] := by
  by_cases ha : m? = some a
  · rw [if_pos ha, depositsBy, List.filter_eq_self]
    intro d hd
    have hm : some d.manager = some a := (h d hd).symm.trans ha
    simpa using hm
  · rw [if_neg ha, depositsBy, List.filter_eq_nil_iff]
    intro d hd hm
    apply ha
    rw [h d hd]
    simpa using hm

/-- The calls that a drain has accepted. -/
def callsIn (log : List Fate) : List Bytes := (entriesOf log).map fun e => e.2.call

namespace Drains

variable {start : SimulatedChain} {settings : BatchConfig} {n : Nat} {q : MessageQueue}
  {w : Bench SimulatedChain} {log : List Fate} {r : Drained (Bench SimulatedChain)}

/-- A batch that begins with nothing has the calls that the drain has accepted. -/
theorem batch_calls (h : Drains start settings n q ⟨{}, w⟩ log r) : r.batch.calls = callsIn log :=
  h.grows.calls

theorem batch_accepted (h : Drains start settings n q ⟨{}, w⟩ log r) :
    r.batch.accepted = (entriesOf log).map fun e => (e.1.id, e.2.direction) :=
  h.grows.accepted

/-- A batch has as many calls as records. -/
theorem length_calls (h : Drains start settings n q ⟨{}, w⟩ log r) :
    r.batch.calls.length = r.batch.accepted.length := by
  rw [h.batch_calls, h.batch_accepted, callsIn, List.length_map, List.length_map]

theorem accepted_eq_nil_iff (h : Drains start settings n q ⟨{}, w⟩ log r) :
    r.batch.accepted = [] ↔ r.batch.calls = [] := by
  rw [← List.length_eq_zero_iff, ← List.length_eq_zero_iff, h.length_calls]

end Drains

section Offers

variable {start : SimulatedChain} {settings : BatchConfig} {m : Message} {b b' : Batch}
  {w : Bench SimulatedChain} {o : Offer}

/-- The manager in a place is one of the keys. -/
theorem address_of_key {i : UInt64} {manager : Address} {k : Signer}
    (address : start.gateway.addressFor .manager i = .ok manager)
    (key : keyAt .manager start.managers i = .ok k) :
    manager = k.address ∧ k ∈ start.managers := by
  have ha : (keyAt .manager start.managers i).map Signer.address = .ok manager := address
  rw [key] at ha
  exact ⟨(Except.ok.inj ha).symm, List.mem_of_getElem? (keyAt_eq_ok_iff.mp key)⟩

/-- An offer is a withdrawal that leaves the nonce alone, or it is a deposit that is signed with the
next nonce by the manager whose turn it is. -/
theorem Offered.deposit_cases (h : Offered start settings m b w o b')
    (hk : w.chain.managers = start.managers) (hd : b.domainOf = SimulatedChain.domain) :
    (DepositCall.decode? o.call = none ∧ o.direction = .tokenToPoint ∧
      o.lastNonce = b.lastNonce) ∨
    ∃ call, DepositCall.decode? o.call = some call ∧ o.direction = .pointToToken ∧
      b'.manager? start = some call.manager ∧
      SignedWith start.managers (b.nonceOf w.chain call.manager) call ∧
      o.lastNonce = some (b.nonceOf w.chain call.manager) := by
  cases h with
  | withdraw r permit task =>
    exact .inl ⟨DepositCall.decode?_of_selector_ne rfl (by decide) _, rfl, rfl⟩
  | deposit r i manager k task picks address key =>
    rw [hk] at key
    obtain ⟨hm, hmem⟩ := address_of_key address key
    refine .inr ⟨(r.authorization settings manager (b.nonceOf w.chain manager)).call k b.domainOf,
      ?_, rfl, ?_, ⟨k, hmem, _, hm, rfl, ?_⟩, rfl⟩
    · apply DepositCall.decode?_encode
      rw [DepositAuthorization.length_signature_call]
      decide
    · show (start.gateway.addressFor .manager i).toOption = some manager
      rw [address]
      rfl
    · show (r.authorization settings manager _).sign k b.domainOf = _
      rw [hd, DepositAuthorization.sign, DepositAuthorization.signingHash_eq]
      rfl

theorem Batch.Prepared.domainOf (h : b.Prepared b') (hd : b.domainOf = SimulatedChain.domain) :
    b'.domainOf = SimulatedChain.domain := by
  rw [Batch.domainOf] at hd ⊢
  rcases h.domain with he | he
  · rw [he, hd]
  · rw [he, Option.getD_some]

theorem Batch.manager?_mono {b' : Batch}
    (h : ∀ i, b.managerIndex = some i → b'.managerIndex = some i) {a : Address}
    (ha : b.manager? start = some a) : b'.manager? start = some a := by
  rw [manager?] at ha ⊢
  obtain ⟨i, hi, hx⟩ := Option.bind_eq_some_iff.mp ha
  rw [h i hi]
  exact hx

theorem Batch.nonceOf_congr {b' : Batch} {c c' : SimulatedChain} (h : b'.lastNonce = b.lastNonce)
    (hc : c'.quiet = c.quiet) (a : Address) : b'.nonceOf c' a = b.nonceOf c a := by
  have hm : c'.managerNonce = c.managerNonce := (congrArg SimulatedChain.managerNonce hc :)
  rw [nonceOf, nonceOf, h, hm]

/-- A message that is dropped uses no nonce. -/
theorem Handled.dropped_frame {d d' : Drafting (Bench SimulatedChain)}
    (h : Handled start settings m d (.ok .dropped) d') :
    d'.batch.lastNonce = d.batch.lastNonce ∧
      (d.batch.domainOf = SimulatedChain.domain → d'.batch.domainOf = SimulatedChain.domain) := by
  cases h with
  | rejected => exact ⟨rfl, id⟩
  | dropped o b w offered =>
    exact ⟨offered.prepared.lastNonce, offered.prepared.domainOf⟩

/-- The deposits of a batch that ends as `last`, when those after an accepted offer are in
order. -/
theorem Offered.signed {w' : Bench SimulatedChain} {last : Batch} (calls : List Bytes)
    (h : Offered start settings m b w o b') (hk : w.chain.managers = start.managers)
    (hd : b.domainOf = SimulatedChain.domain) (hw : w'.still = w.still)
    (hm : ∀ i, b'.managerIndex = some i → last.managerIndex = some i)
    (hc : ∀ call ∈ depositsOf calls, last.manager? start = some call.manager)
    (hs : ∀ a, last.manager? start = some a →
      SignedInOrder start.managers ((b'.accept m.id o).nonceOf w'.chain a) (depositsOf calls)) :
    (∀ call ∈ depositsOf (o.call :: calls), last.manager? start = some call.manager) ∧
    ∀ a, last.manager? start = some a →
      SignedInOrder start.managers (b.nonceOf w.chain a) (depositsOf (o.call :: calls)) := by
  rcases h.deposit_cases hk hd with ⟨hn, -, hl⟩ | ⟨call, hn, -, ha, hsign, hl⟩
  · have he : depositsOf (o.call :: calls) = depositsOf calls := by
      rw [depositsOf, List.filterMap_cons, hn]
      rfl
    rw [he]
    refine ⟨hc, fun a ha => ?_⟩
    have hnonce : (b'.accept m.id o).nonceOf w'.chain a = b.nonceOf w.chain a :=
      Batch.nonceOf_congr hl (Bench.still_chain hw) a
    rw [← hnonce]
    exact hs a ha
  · have he : depositsOf (o.call :: calls) = call :: depositsOf calls := by
      rw [depositsOf, List.filterMap_cons, hn]
      rfl
    have hlast := Batch.manager?_mono hm ha
    rw [he]
    refine ⟨fun x hx => ?_, fun a ha => ?_⟩
    · rcases List.mem_cons.mp hx with rfl | hx
      · exact hlast
      · exact hc x hx
    · obtain rfl : call.manager = a := Option.some.inj (hlast.symm.trans ha)
      -- the chain does not come into it any more once the batch has a nonce of its own
      have hnext : (b'.accept m.id o).nonceOf w'.chain call.manager =
          b.nonceOf w.chain call.manager + 1 := by
        rw [Batch.nonceOf, show (b'.accept m.id o).lastNonce = o.lastNonce from rfl, hl]
      refine ⟨hsign, ?_⟩
      rw [← hnext]
      exact hs call.manager ha

end Offers

namespace Drains

variable {start : SimulatedChain} {settings : BatchConfig} {n : Nat} {q : MessageQueue}
  {d : Drafting (Bench SimulatedChain)} {log : List Fate} {r : Drained (Bench SimulatedChain)}

/-- **The accepted deposits are all of the manager of the batch, and their nonces are consecutive,
beginning with the one that is next when the drain begins.** -/
theorem signed (h : Drains start settings n q d log r)
    (hk : d.env.chain.managers = start.managers)
    (hd : d.batch.domainOf = SimulatedChain.domain) :
    (∀ call ∈ depositsOf (callsIn log), r.batch.manager? start = some call.manager) ∧
    ∀ a, r.batch.manager? start = some a →
      SignedInOrder start.managers (d.batch.nonceOf d.env.chain a) (depositsOf (callsIn log)) := by
  induction h with
  | halted | deferred | broken =>
    exact ⟨fun call h => absurd h List.not_mem_nil, fun _ _ => trivial⟩
  | undecodable p rest e queue decoded next ih => exact ih hk hd
  | @dropped n q d log r p rest m d' queue decoded handled next ih =>
    -- a message that is dropped leaves the nonce to the next one
    obtain ⟨hl, hd'⟩ := handled.dropped_frame
    have hq : d'.env.chain.quiet = d.env.chain.quiet :=
      (congrArg (fun w => w.chain) handled.failing :)
    have hm : d'.env.chain.managers = d.env.chain.managers :=
      (congrArg SimulatedChain.managers hq :)
    obtain ⟨hc, hs⟩ := ih (hm.trans hk) (hd' hd)
    refine ⟨hc, fun a ha => ?_⟩
    rw [← Batch.nonceOf_congr hl hq]
    exact hs a ha
  | @accepted n q d log r p rest m o b w queue decoded offered judged env next ih =>
    have hm : w.chain.managers = d.env.chain.managers :=
      (congrArg (fun w => w.chain.managers) env :)
    obtain ⟨hc, hs⟩ := ih (hm.trans hk) (offered.prepared.domainOf hd)
    exact offered.signed (callsIn _) hk hd env next.grows.managerIndex hc hs
  | full p rest m o b w stop queue decoded offered judged env why =>
    exact offered.signed [] hk hd env (fun _ h => h)
      (fun call h => absurd h List.not_mem_nil) fun _ _ => trivial

end Drains
end PointExchange
