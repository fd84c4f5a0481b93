import PointExchange.Proofs.Gas

/-!
# Call data tells calls apart

The reader of each function understands the call data of its own builder and none of the two
others, and a multicall gives its calls back in their order. A simulated chain therefore sees in a
batch the calls that were built (`BuiltCall`), which decides what it estimates: a batch is refused
for an account that a deposit or a withdrawal of it names, and for nothing else
(`calldata_readable`).
-/

namespace PointExchange

/-! ## The three builders -/

theorem PermitCall.decode?_of_selector_ne {selector : Bytes} (h : selector.length = 4)
    (hne : selector ≠ permitSelector) (b : Bytes) : PermitCall.decode? (selector ++ b) = none := by
  rw [PermitCall.decode?, Abi.argumentsOf?_ne h hne]
  rfl

/-- A deposit call is no call of the two other functions. -/
theorem DepositCall.encode_foreign (c : DepositCall) :
    WithdrawCall.decode? c.encode = none ∧ PermitCall.decode? c.encode = none :=
  ⟨WithdrawCall.decode?_of_selector_ne rfl (by decide) _,
    PermitCall.decode?_of_selector_ne rfl (by decide) _⟩

/-- A withdrawal call is no call of the two other functions. -/
theorem WithdrawCall.encode_foreign (c : WithdrawCall) :
    DepositCall.decode? c.encode = none ∧ PermitCall.decode? c.encode = none :=
  ⟨DepositCall.decode?_of_selector_ne rfl (by decide) _,
    PermitCall.decode?_of_selector_ne rfl (by decide) _⟩

/-- A permit call is no call of the two other functions. -/
theorem PermitCall.encode_foreign (c : PermitCall) :
    DepositCall.decode? c.encode = none ∧ WithdrawCall.decode? c.encode = none :=
  ⟨DepositCall.decode?_of_selector_ne rfl (by decide) _,
    WithdrawCall.decode?_of_selector_ne rfl (by decide) _⟩

/-- Call data of a permit is that of a permit call. -/
theorem permitCalldata_eq_ok {p : PermitRequest} {spender : Address} {b : Bytes}
    (h : permitCalldata p spender = .ok b) : ∃ c : PermitCall, b = c.encode := by
  rw [permitCalldata] at h
  cases hc : PermitCall.ofRequest p spender with
  | error e => simp [hc, Except.map] at h
  | ok c =>
    rw [hc] at h
    exact ⟨c, (Except.ok.inj h).symm⟩

/-- Call data that a builder makes, with a signature of a length that fits in memory. -/
inductive BuiltCall
  | deposit (a : DepositAuthorization) (signature : Bytes) (short : signature.length < 2 ^ 63)
  | withdraw (r : WithdrawRequest) (short : r.signature.length < 2 ^ 63)
  | permit (p : PermitRequest) (spender : Address) (b : Bytes)
      (built : permitCalldata p spender = .ok b)

namespace BuiltCall

/-- The call data. -/
def encode : BuiltCall → Bytes
  | deposit a signature _ => (DepositCall.ofAuthorization a signature).encode
  | withdraw r _ => (WithdrawCall.ofRequest r).encode
  | permit _ _ b _ => b

/-- The account that a deposit or a withdrawal names. -/
def account? : BuiltCall → Option Address
  | deposit a _ _ => some a.account
  | withdraw r _ => some r.account
  | permit _ _ _ _ => none

theorem length_encode_lt (call : BuiltCall) : call.encode.length < 2 ^ 66 := by
  cases call with
  | deposit a signature short =>
    have h := (DepositCall.ofAuthorization a signature).length_encode_le
    rw [show (DepositCall.ofAuthorization a signature).signature = signature from rfl] at h
    rw [encode]
    omega
  | withdraw r short =>
    have h := (WithdrawCall.ofRequest r).length_encode_le
    rw [show (WithdrawCall.ofRequest r).signature = r.signature from rfl] at h
    rw [encode]
    omega
  | permit p spender b built =>
    obtain ⟨c, rfl⟩ := permitCalldata_eq_ok built
    rw [encode, c.length_encode]
    decide

theorem carriable {calls : List BuiltCall} (h : calls.length < 2 ^ 64) :
    Carriable (calls.map encode) where
  count := by
    rw [List.length_map]
    omega
  lengths b hb := by
    obtain ⟨call, -, rfl⟩ := List.mem_map.mp hb
    exact call.length_encode_lt

/-- A simulated chain sees the account in the call data. -/
theorem accountOf?_encode (call : BuiltCall) :
    SimulatedChain.accountOf? call.encode = call.account? := by
  cases call with
  | deposit a signature short =>
    exact SimulatedChain.accountOf?_deposit (.ofAuthorization a signature)
      (Nat.lt_trans short (by decide))
  | withdraw r short =>
    exact SimulatedChain.accountOf?_withdraw (.ofRequest r) (Nat.lt_trans short (by decide))
  | permit p spender b built =>
    obtain ⟨c, rfl⟩ := permitCalldata_eq_ok built
    exact SimulatedChain.accountOf?_permit c

/-- A chain rejects a call if the call names an account that is on its list. -/
theorem rejects_encode_iff (chain : SimulatedChain) (call : BuiltCall) :
    chain.rejects call.encode = true ↔ ∃ a ∈ chain.reverting, call.account? = some a := by
  rw [SimulatedChain.rejects, accountOf?_encode, Option.any_eq_true]
  constructor
  · rintro ⟨a, ha, hm⟩
    exact ⟨a, by simpa using hm, ha⟩
  · rintro ⟨a, hm, ha⟩
    exact ⟨a, ha, by simpa using hm⟩

end BuiltCall

/-! ## Multicalls -/

/-- Batches that have the same call data are the same. -/
theorem encodeMulticall_inj {calls calls' : List Bytes} (h : Carriable calls)
    (h' : Carriable calls') (he : encodeMulticall calls = encodeMulticall calls') :
    calls = calls' := by
  have hd := decodeMulticall?_encodeMulticall h
  rw [he, decodeMulticall?_encodeMulticall h'] at hd
  exact (Option.some.inj hd).symm

namespace SimulatedChain

variable (c : SimulatedChain) {calls : List Bytes}

/-- One call that is rejected is enough for the batch to be refused. -/
theorem gasOfAll_of_rejects {call : Bytes} (hm : call ∈ calls) (hr : c.rejects call = true)
    (total : UInt64) : ∃ reason, c.gasOfAll calls total = .error (.reverted reason) := by
  induction calls generalizing total with
  | nil => exact absurd hm List.not_mem_nil
  | cons x rest ih =>
    rw [gasOfAll]
    cases hx : c.rejects x with
    | true =>
      obtain ⟨reason, hg⟩ := c.gasOf_of_rejects hx
      exact ⟨reason, by rw [hg]⟩
    | false =>
      have hrest : call ∈ rest := by
        rcases List.mem_cons.mp hm with rfl | hrest
        · rw [hr] at hx
          exact absurd hx (by decide)
        · exact hrest
      rw [c.gasOf_of_not_rejects hx]
      exact ih hrest _

/-- The gas of a batch, as the chain counts it in 64 bits. -/
theorem gasOfAll_of_not_rejects (h : ∀ x ∈ calls, c.rejects x = false) :
    c.gasOfAll calls baseGas = .ok (UInt64.ofNat (batchGas calls.length)) := by
  have hg := c.gasOfAll_append h [] baseGas
  rw [List.append_nil] at hg
  rw [hg, gasOfAll, batchGas, UInt64.ofNat_add, UInt64.ofNat_mul]
  rfl

/-- The estimate of a multicall is that of its calls one by one. -/
theorem estimate_encodeMulticall (available : c.estimateUnavailable = false) {target : Address}
    (hne : target ≠ pointToken) (h : Carriable calls) :
    (c.estimate target (encodeMulticall calls)).1 = c.gasOfAll calls baseGas := by
  rw [estimate, available, if_neg Bool.false_ne_true, if_neg hne, callsOf_encodeMulticall h]

end SimulatedChain

/-- What a simulated chain estimates for a batch of built calls: it refuses the batch if a deposit
or a withdrawal of it names a reverting account, and counts its calls otherwise. -/
structure BuiltCall.Estimated (chain : SimulatedChain) (calls : List BuiltCall)
    (estimate : Except EstimateError UInt64) : Prop where
  refused : (∃ reason, estimate = .error (.reverted reason)) ↔
    ∃ call ∈ calls, ∃ a ∈ chain.reverting, call.account? = some a
  counted : (∀ call ∈ calls, ∀ a ∈ chain.reverting, call.account? ≠ some a) →
    estimate = .ok (UInt64.ofNat (21000 + 100000 * calls.length))

theorem BuiltCall.estimated (chain : SimulatedChain) (available : chain.estimateUnavailable = false)
    {target : Address} (hne : target ≠ SimulatedChain.pointToken) {calls : List BuiltCall}
    (few : calls.length < 2 ^ 64) :
    BuiltCall.Estimated chain calls
      (chain.estimate target (encodeMulticall (calls.map BuiltCall.encode))).1 := by
  have counted (h : ∀ call ∈ calls, ∀ a ∈ chain.reverting, call.account? ≠ some a) :
      chain.gasOfAll (calls.map BuiltCall.encode) SimulatedChain.baseGas =
        .ok (UInt64.ofNat (21000 + 100000 * calls.length)) := by
    have hr : ∀ x ∈ calls.map BuiltCall.encode, chain.rejects x = false := by
      intro x hx
      obtain ⟨call, hc, rfl⟩ := List.mem_map.mp hx
      rw [← Bool.not_eq_true, call.rejects_encode_iff]
      rintro ⟨a, ha, he⟩
      exact h call hc a ha he
    have hg := chain.gasOfAll_of_not_rejects hr
    rw [List.length_map] at hg
    exact hg
  rw [chain.estimate_encodeMulticall available hne (carriable few)]
  refine ⟨⟨?_, ?_⟩, counted⟩
  · rintro ⟨reason, he⟩
    by_cases hn : ∃ call ∈ calls, ∃ a ∈ chain.reverting, call.account? = some a
    · exact hn
    · rw [counted fun call hc a ha hca => hn ⟨call, hc, a, ha, hca⟩] at he
      exact absurd he (by simp)
  · rintro ⟨call, hc, hr⟩
    exact chain.gasOfAll_of_rejects (List.mem_map_of_mem hc)
      ((call.rejects_encode_iff chain).mpr hr) _

/-- **Call data is read back by its own reader and by no other, and so is a whole batch, so that a
chain estimates the calls that were built.** -/
theorem calldata_readable :
    (∀ (a : DepositAuthorization) (signature : Bytes),
      let b := (DepositCall.ofAuthorization a signature).encode
      (signature.length < 2 ^ 63 → DepositCall.decode? b =
        some ⟨a.account, a.amount, a.validUntil, a.manager, signature⟩) ∧
      WithdrawCall.decode? b = none ∧ PermitCall.decode? b = none) ∧
    (∀ r : WithdrawRequest,
      let b := (WithdrawCall.ofRequest r).encode
      (r.signature.length < 2 ^ 63 → WithdrawCall.decode? b =
        some ⟨r.account, r.amount, r.validUntil, r.signature⟩) ∧
      DepositCall.decode? b = none ∧ PermitCall.decode? b = none) ∧
    (∀ (p : PermitRequest) (spender : Address) (b : Bytes), permitCalldata p spender = .ok b →
      DepositCall.decode? b = none ∧ WithdrawCall.decode? b = none) ∧
    (∀ calls, Carriable calls → decodeMulticall? (encodeMulticall calls) = some calls) ∧
    (∀ calls calls', Carriable calls → Carriable calls' → calls ≠ calls' →
      encodeMulticall calls ≠ encodeMulticall calls') ∧
    (∀ (chain : SimulatedChain) (target : Address) (calls : List BuiltCall),
      chain.estimateUnavailable = false → target ≠ SimulatedChain.pointToken →
      calls.length < 2 ^ 64 →
      BuiltCall.Estimated chain calls
        (chain.estimate target (encodeMulticall (calls.map BuiltCall.encode))).1) := by
  refine ⟨fun a signature => ⟨fun h => ?_, DepositCall.encode_foreign _⟩,
    fun r => ⟨fun h => ?_, WithdrawCall.encode_foreign _⟩, fun p spender b h => ?_,
    fun calls h => decodeMulticall?_encodeMulticall h,
    fun calls calls' h h' hne he => hne (encodeMulticall_inj h h' he),
    fun chain target calls available hne few => BuiltCall.estimated chain available hne few⟩
  · exact DepositCall.decode?_encode _ (Nat.lt_trans h (by decide))
  · exact WithdrawCall.decode?_encode _ (Nat.lt_trans h (by decide))
  · obtain ⟨c, rfl⟩ := permitCalldata_eq_ok h
    exact c.encode_foreign

/-- A deposit, a withdrawal and a permit. -/
def BuiltCall.oneOfEach : List BuiltCall :=
  [.deposit ⟨.repeated 1, 7, 9, .repeated 2, 0⟩ [0xff] (by decide),
    .withdraw ⟨.repeated 3, 8, 9, [], none⟩ (by decide),
    .permit ⟨.repeated 4, 5, 9, List.replicate 65 0⟩ SimulatedChain.pointManager _ rfl]

/-- A chain refuses the three calls for the account of the withdrawal, but not for that of the
permit. -/
theorem calldata_readable_oneOfEach :
    (∃ reason, (SimulatedChain.estimate { reverting := [.repeated 3] } SimulatedChain.pointManager
      (encodeMulticall (BuiltCall.oneOfEach.map BuiltCall.encode))).1 =
        .error (.reverted reason)) ∧
    (SimulatedChain.estimate { reverting := [.repeated 4] } SimulatedChain.pointManager
      (encodeMulticall (BuiltCall.oneOfEach.map BuiltCall.encode))).1 = .ok 321000 := by
  have h := calldata_readable.2.2.2.2.2
  constructor
  · exact (h { reverting := [.repeated 3] } SimulatedChain.pointManager BuiltCall.oneOfEach rfl
      (by decide) (by decide)).refused.mpr ⟨_, .tail _ (.head _), .repeated 3, by decide, rfl⟩
  · exact (h { reverting := [.repeated 4] } SimulatedChain.pointManager BuiltCall.oneOfEach rfl
      (by decide) (by decide)).counted (by decide)

end PointExchange
