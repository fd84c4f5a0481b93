import Mathlib.Data.List.Basic
import PointExchange.Proofs.Verdicts

/-!
# Broadcasting permits side by side

Every permit is counted once (`permits_counted_once`). The permits that are signed have consecutive
nonces, in their order; one that cannot be prepared takes none. What is not sent was not signed, or
its broadcast was judged by the gateway or given up (`Flight.Verdicts`).
-/

namespace PointExchange

variable {E : Type} {g : Gateway E}

/-! ## Preparing -/

/-- An attempt to prepare a permit: its number, the nonce that it is to have, the environment in
which it is made, and what came of it. -/
structure PermitAttempt (E : Type) where
  number : Nat
  permit : Bytes
  nonce : UInt64
  env : E
  answer : Except RunError SignedTransaction

namespace PermitAttempt

/-- The permit was signed. -/
def isSigned (a : PermitAttempt E) : Bool := a.answer.toOption.isSome

/-- The broadcast of a permit that was signed. -/
def flight? (a : PermitAttempt E) : Option Flight :=
  a.answer.toOption.map fun t => ⟨a.number, t, .queued⟩

end PermitAttempt

/-- Permits are prepared one after another, from a number and a nonce on. -/
inductive Gateway.Prepares (g : Gateway E) (relayer : UInt64) :
    List Bytes → Nat → UInt64 → E → List (PermitAttempt E) → E → Prop
  | nothing (number : Nat) (nonce : UInt64) (e : E) : Prepares g relayer [] number nonce e [] e
  | signed {permit rest number nonce e e' tried last} (t : SignedTransaction)
    (answer : (g.prepare relayer g.pointToken permit nonce).perform e = (.ok t, e'))
    (next : Prepares g relayer rest (number + 1) (nonce + 1) e' tried last) :
    Prepares g relayer (permit :: rest) number nonce e
      (⟨number, permit, nonce, e, .ok t⟩ :: tried) last
  | unsigned {permit rest number nonce e e' tried last} (x : RunError)
    (answer : (g.prepare relayer g.pointToken permit nonce).perform e = (.error x, e'))
    (next : Prepares g relayer rest (number + 1) nonce e' tried last) :
    Prepares g relayer (permit :: rest) number nonce e
      (⟨number, permit, nonce, e, .error x⟩ :: tried) last

/-- **The flights are those of the permits that were signed.** -/
theorem Flight.prepare_attempts (g : Gateway E) (relayer : UInt64) (permits : List Bytes)
    (number : Nat) (nonce : UInt64) (e : E) :
    ∃ tried, g.Prepares relayer permits number nonce e tried
        (prepare g relayer permits number nonce e).2 ∧
      (prepare g relayer permits number nonce e).1 = tried.filterMap PermitAttempt.flight? := by
  induction permits generalizing number nonce e with
  | nil => exact ⟨[], .nothing number nonce e, rfl⟩
  | cons permit rest ih =>
    rw [prepare]
    rcases h : (g.prepare relayer g.pointToken permit nonce).perform e with ⟨x | t, e'⟩
    · obtain ⟨tried, hp, hf⟩ := ih (number + 1) nonce e'
      exact ⟨_, .unsigned x h hp, hf⟩
    · obtain ⟨tried, hp, hf⟩ := ih (number + 1) (nonce + 1) e'
      exact ⟨_, .signed t h hp, congrArg (_ :: ·) hf⟩

/-- A transaction that was prepared was signed, with the nonce that was asked for. -/
theorem Gateway.exists_signTransaction {relayer : UInt64} {target : Address} {input : Bytes}
    {nonce : UInt64} {e e' : E} {t : SignedTransaction}
    (h : (g.prepare relayer target input nonce).perform e = (.ok t, e')) :
    ∃ request before, request.target = target ∧ request.input = input ∧ request.nonce = nonce ∧
      (g.signTransaction relayer request).perform before = (.ok t, e') := by
  rw [prepare, Call.perform_bind, Call.perform_orElse] at h
  rcases hl : (g.estimateGas target input).perform e with ⟨x | gasLimit, e₁⟩
  · simp [hl] at h
  simp only [hl, Call.perform_bind, Call.perform_orElse] at h
  rcases hp : g.gasPrice.perform e₁ with ⟨x | gasPrice, e₂⟩
  · simp [hp] at h
  simp only [hp] at h
  rcases hc : g.chainId.perform e₂ with ⟨x | chainId, e₃⟩
  · simp [hc] at h
  simp only [hc] at h
  refine ⟨⟨target, input, gasLimit, gasPrice, nonce, chainId⟩, e₃, rfl, rfl, rfl, ?_⟩
  rcases hs : (g.signTransaction relayer
      ⟨target, input, gasLimit, gasPrice, nonce, chainId⟩).perform e₃ with ⟨x | t', e₄⟩
  · simp [hs] at h
  · simpa [hs] using h

/-- What came of preparing permits, when the relayer's count was read. -/
structure Gateway.Attempts (g : Gateway E) (relayer count : UInt64) (permits : List Bytes)
    (tried : List (PermitAttempt E)) : Prop where
  /-- every permit was tried once, in their order -/
  each : tried.map PermitAttempt.permit = permits
  numbers : tried.map PermitAttempt.number = List.range' 1 permits.length
  answers : ∀ a ∈ tried,
    ((g.prepare relayer g.pointToken a.permit a.nonce).perform a.env).1 = a.answer
  /-- what was signed is the permit with its nonce -/
  signs : ∀ a ∈ tried, ∀ t, a.answer = .ok t → ∃ request before after,
    request.target = g.pointToken ∧ request.input = a.permit ∧ request.nonce = a.nonce ∧
      (g.signTransaction relayer request).perform before = (.ok t, after)
  /-- the nonces of the permits that were signed are consecutive -/
  nonces : ∀ (j : Nat) (a : PermitAttempt E),
    (tried.filter PermitAttempt.isSigned)[j]? = some a → a.nonce.toNat = count.toNat + j

namespace Gateway.Prepares

variable {relayer nonce : UInt64} {permits : List Bytes} {number : Nat} {e last : E}
  {tried : List (PermitAttempt E)}

theorem permits_eq (h : g.Prepares relayer permits number nonce e tried last) :
    tried.map PermitAttempt.permit = permits := by
  induction h with
  | nothing => rfl
  | signed t answer next ih => exact congrArg (_ :: ·) ih
  | unsigned x answer next ih => exact congrArg (_ :: ·) ih

theorem numbers_eq (h : g.Prepares relayer permits number nonce e tried last) :
    tried.map PermitAttempt.number = List.range' number permits.length := by
  induction h with
  | nothing => rfl
  | signed t answer next ih => exact congrArg (_ :: ·) ih
  | unsigned x answer next ih => exact congrArg (_ :: ·) ih

theorem answers (h : g.Prepares relayer permits number nonce e tried last) :
    ∀ a ∈ tried, ∃ after,
      (g.prepare relayer g.pointToken a.permit a.nonce).perform a.env = (a.answer, after) := by
  induction h with
  | nothing => exact fun a ha => absurd ha List.not_mem_nil
  | signed t answer next ih => exact List.forall_mem_cons.mpr ⟨⟨_, answer⟩, ih⟩
  | unsigned x answer next ih => exact List.forall_mem_cons.mpr ⟨⟨_, answer⟩, ih⟩

/-- The nonces of the permits that are signed go on from the first one. -/
theorem nonces (h : g.Prepares relayer permits number nonce e tried last)
    (room : nonce.toNat + permits.length < 2 ^ 64) (j : Nat) (a : PermitAttempt E)
    (ha : (tried.filter PermitAttempt.isSigned)[j]? = some a) :
    a.nonce.toNat = nonce.toNat + j := by
  induction h generalizing j with
  | nothing => simp at ha
  | @signed permit rest number nonce e e' tried last t answer next ih =>
    rw [List.length_cons] at room
    have hsucc : (nonce + 1).toNat = nonce.toNat + 1 := by
      rw [UInt64.toNat_add, UInt64.toNat_one]
      omega
    rw [List.filter_cons_of_pos rfl] at ha
    cases j with
    | zero =>
      obtain rfl := Option.some.inj ha
      rfl
    | succ j =>
      have := ih (by omega) j ha
      omega
  | unsigned x answer next ih =>
    rw [List.length_cons] at room
    rw [List.filter_cons_of_neg (by simp [PermitAttempt.isSigned, Except.toOption])] at ha
    exact ih (by omega) j ha

/-- **The permits that are signed have consecutive nonces from the relayer's count on.** -/
theorem attempts (h : g.Prepares relayer permits 1 nonce e tried last)
    (room : nonce.toNat + permits.length < 2 ^ 64) : g.Attempts relayer nonce permits tried where
  each := h.permits_eq
  numbers := h.numbers_eq
  answers a ha := by
    obtain ⟨after, hp⟩ := h.answers a ha
    rw [hp]
  signs a ha t ht := by
    obtain ⟨after, hp⟩ := h.answers a ha
    rw [ht] at hp
    obtain ⟨request, before, h₁, h₂, h₃, hs⟩ := Gateway.exists_signTransaction hp
    exact ⟨request, before, after, h₁, h₂, h₃, hs⟩
  nonces := h.nonces room

end Gateway.Prepares

/-! ## Counting -/

/-- The broadcasts of the permits that were signed. -/
def PermitAttempt.flights (tried : List (PermitAttempt E)) : List Flight :=
  tried.filterMap PermitAttempt.flight?

namespace PermitAttempt

theorem queued_of_mem_flights {tried : List (PermitAttempt E)} :
    ∀ f ∈ flights tried, f.progress = .queued := by
  intro f hf
  obtain ⟨a, -, ha⟩ := List.mem_filterMap.mp hf
  obtain ⟨t, -, rfl⟩ := Option.map_eq_some_iff.mp ha
  rfl

theorem length_flights (tried : List (PermitAttempt E)) :
    (flights tried).length = (tried.filter isSigned).length := by
  induction tried with
  | nil => rfl
  | cons a tried ih =>
    rw [flights, List.filterMap_cons, List.filter_cons, flight?, isSigned]
    cases a.answer.toOption with
    | none => exact ih
    | some t => exact congrArg (· + 1) ih

end PermitAttempt

/-- What broadcasting permits comes to once the relayer's count is read. Each of them is tried; the
signed ones are broadcast in some turns, and every permit is counted once. -/
structure Gateway.BroadcastsPermits (g : Gateway E) (turns : Nat → List Turn)
    (relayer count : UInt64) (permits : List Bytes) (e : E) (tried : List (PermitAttempt E))
    (ready : E) (now : List Flight) (result : Except Interruption PermitCount) (last : E) :
    Prop where
  prepares : g.Prepares relayer permits 1 count e tried ready
  attempts : g.Attempts relayer count permits tried
  prepared : Flight.prepare g relayer permits 1 count e = (PermitAttempt.flights tried, ready)
  ran : Flight.run g (turns (PermitAttempt.flights tried).length) (PermitAttempt.flights tried)
    ready = (now, last)
  verdicts : Flight.Verdicts g (turns (PermitAttempt.flights tried).length)
    (PermitAttempt.flights tried) ready now
  /-- those that were not sent are those that were not signed and those that were not included -/
  counted : (∀ f ∈ now, f.Settled) → ∃ sent failed, result = .ok ⟨sent, failed⟩ ∧
    sent = (now.filter Flight.isSent).length ∧
    failed = (tried.filter fun a => !a.isSigned).length +
      (now.filter fun f => !f.isSent).length ∧
    sent + failed = permits.length
  waits : (∃ f ∈ now, ¬f.Settled) → result = .error .waiting

/-- What is not sent was not signed or was not included. -/
theorem Gateway.Attempts.unsent {relayer count : UInt64} {permits : List Bytes}
    {tried : List (PermitAttempt E)} {now : List Flight}
    (h : g.Attempts relayer count permits tried)
    (same : now.map Flight.identity = (PermitAttempt.flights tried).map Flight.identity) :
    (now.filter Flight.isSent).length ≤ permits.length ∧
      permits.length - (now.filter Flight.isSent).length =
        (tried.filter fun a => !a.isSigned).length + (now.filter fun f => !f.isSent).length := by
  have htried : tried.length = permits.length := by rw [← h.each, List.length_map]
  have hnow : now.length = (tried.filter PermitAttempt.isSigned).length := by
    have hlen := congrArg List.length same
    rwa [List.length_map, List.length_map, PermitAttempt.length_flights] at hlen
  have := List.length_eq_length_filter_add (l := tried) PermitAttempt.isSigned
  have := List.length_eq_length_filter_add (l := now) Flight.isSent
  omega

/-- The permits are prepared and their broadcasts take turns, once the count is read. -/
theorem perform_broadcastPermits {turns : Nat → List Turn} {relayer count : UInt64}
    {account : Address} {permits : List Bytes} {e e' ready last : E} {flights now : List Flight}
    (read : (g.transactionCount account).perform e = (.ok count, e'))
    (prepared : Flight.prepare g relayer permits 1 count e' = (flights, ready))
    (ran : Flight.run g (turns flights.length) flights ready = (now, last)) :
    (broadcastPermits g turns relayer account permits).perform e =
      (if now.all fun f => f.result?.isSome then
          .ok ⟨(now.filter Flight.isSent).length,
            permits.length - (now.filter Flight.isSent).length⟩
        else .error .waiting, last) := by
  rw [broadcastPermits, Call.perform_bind, Call.perform_attempt, read]
  simp only [Call.perform_bind, Call.perform_of, prepared, ran]
  split <;> rfl

/-- **Permits are counted once.** When the relayer's count cannot be read, all of them have failed,
and nothing else is done. Otherwise those that are signed have consecutive nonces from the count on;
whatever turns their broadcasts take, each is judged by what the gateway answers to it, unless it is
behind a refused one. -/
theorem permits_counted_once (g : Gateway E) (turns : Nat → List Turn) (relayer : UInt64)
    (account : Address) (permits : List Bytes) (e e' : E) :
    (∀ x, (g.transactionCount account).perform e = (.error x, e') →
      (broadcastPermits g turns relayer account permits).perform e =
        (.ok ⟨0, permits.length⟩, e')) ∧
    (∀ count, (g.transactionCount account).perform e = (.ok count, e') →
      count.toNat + permits.length < 2 ^ 64 →
      ∃ tried ready now result last,
        (broadcastPermits g turns relayer account permits).perform e = (result, last) ∧
        g.BroadcastsPermits turns relayer count permits e' tried ready now result last) := by
  refine ⟨fun x read => ?_, fun count read room => ?_⟩
  · rw [broadcastPermits, Call.perform_bind, Call.perform_attempt, read]
    rfl
  rcases hp : Flight.prepare g relayer permits 1 count e' with ⟨flights, ready⟩
  obtain ⟨tried, prepares, rfl⟩ : ∃ tried, g.Prepares relayer permits 1 count e' tried ready ∧
      flights = PermitAttempt.flights tried := by
    have h := Flight.prepare_attempts g relayer permits 1 count e'
    rwa [hp] at h
  rcases hr : Flight.run g (turns (PermitAttempt.flights tried).length)
    (PermitAttempt.flights tried) ready with ⟨now, last⟩
  have stand := Flight.stand_run g (turns (PermitAttempt.flights tried).length)
    (PermitAttempt.flights tried) ready PermitAttempt.queued_of_mem_flights
  rw [hr] at stand
  have attempts := prepares.attempts room
  obtain ⟨hle, hfailed⟩ := attempts.unsent stand.same
  refine ⟨tried, ready, now, _, last, perform_broadcastPermits read hp hr, prepares, attempts, hp,
    hr, stand.verdicts, fun settled => ?_, ?_⟩
  · rw [if_pos (Flight.all_settled settled)]
    exact ⟨_, _, rfl, rfl, hfailed, Nat.add_sub_cancel' hle⟩
  · rintro ⟨f, hf, unsettled⟩
    rw [if_neg]
    intro hall
    exact unsettled (Flight.settled_of_result? (List.all_eq_true.mp hall f hf))

/-- A gateway that signs a permit as it is, with its nonce as the hash. The permit `[2]` cannot be
estimated, the node refuses `[3]`, and of the others only the one with nonce 5 is ever included. -/
def pickyGateway (count : Except GatewayError UInt64) : Gateway Unit where
  pointManager := default
  pointToken := default
  poolSize _ := 1
  addressFor _ _ := .ok default
  chainDomain := throw (.build "no domain")
  signatureNonce _ := pure 0
  signDeposit _ _ _ := pure []
  estimateGas _ permit := if permit = [2] then throw (.reverted "expired") else pure 50000
  gasPrice := pure 1
  transactionCount _ := .ask fun _ => count
  chainId := pure 1
  signTransaction _ t := pure ⟨t.input, BitVec.ofNat 256 t.nonce.toNat⟩
  submit raw :=
    if raw = [3] then throw (.rpc (.transport "nonce too low"))
    else pure (if raw = [1] then 5 else 7)
  confirm hash := pure (if hash = 5 then some hash else none)

theorem pickyGateway_tellsApart (count : Except GatewayError UInt64) :
    (pickyGateway count).TellsApart where
  submit {raw _ _ _} h := by
    by_cases hr : raw = [3]
    · simp only [pickyGateway, if_pos hr, Call.perform_throw] at h
      obtain ⟨hx, -⟩ := Prod.mk.inj h
      obtain rfl := Except.error.inj hx
      exact fun k => GatewayError.noConfusion
    · simp [pickyGateway, if_neg hr] at h
  confirm h := by simp [pickyGateway] at h

/-- The turns of three broadcasts: the last one goes first, and is given up at its second turn. -/
def lastGoesFirst (_ : Nat) : List Turn := [⟨2, false⟩, ⟨1, false⟩, ⟨0, false⟩, ⟨2, true⟩]

/-- Of four permits one is sent: the second one is not signed, the third one is refused, and the
fourth one, which has its nonce right after that of the third one, is given up. -/
theorem permits_counted_once_behindGap :
    ((pickyGateway (.ok 5)).TellsApart ∧
      ∃ tried ready now result last,
        (broadcastPermits (pickyGateway (.ok 5)) lastGoesFirst 0 default
          [[1], [2], [3], [4]]).perform () = (result, last) ∧
        (pickyGateway (.ok 5)).BroadcastsPermits lastGoesFirst 0 5 [[1], [2], [3], [4]] () tried
          ready now result last ∧
        result = .ok ⟨1, 3⟩ ∧
        ∃ f ∈ now, f.number = 4 ∧ f.progress = .settled (.error (.nonceGap 3))) ∧
    (broadcastPermits (pickyGateway (.error (.build "no node"))) lastGoesFirst 0 default
      [[1], [2], [3], [4]]).perform () = (.ok ⟨0, 4⟩, ()) := by
  refine ⟨⟨pickyGateway_tellsApart _, ?_⟩, ?_⟩
  · obtain ⟨tried, ready, now, result, last, hperform, hb⟩ :=
      (permits_counted_once (pickyGateway (.ok 5)) lastGoesFirst 0 default [[1], [2], [3], [4]]
        () ()).2 5 rfl (by decide)
    refine ⟨tried, ready, now, result, last, hperform, hb, ?_, ?_⟩
    · exact (congrArg Prod.fst hperform).symm
    · have hflights : [⟨1, ⟨[1], 5⟩, .queued⟩, ⟨3, ⟨[3], 6⟩, .queued⟩, ⟨4, ⟨[4], 7⟩, .queued⟩] =
          PermitAttempt.flights tried := congrArg Prod.fst hb.prepared
      have hnow := congrArg Prod.fst hb.ran
      rw [← hflights] at hnow
      refine ⟨⟨4, ⟨[4], 7⟩, .settled (.error (.nonceGap 3))⟩, ?_, rfl, rfl⟩
      show _ ∈ (now, last).1
      rw [← hnow]
      exact List.mem_of_getElem? (i := 2) rfl
  · exact (permits_counted_once (pickyGateway (.error (.build "no node"))) lastGoesFirst 0 default
      [[1], [2], [3], [4]] () ()).1 (.build "no node") rfl

end PointExchange
