import PointExchange.Authorization

/-!
# Typed structures

The standard for typed structures (EIP-712) says how a structure with named and typed fields is
hashed: the text of its type is computed from its name and its fields, and the hash of this text
stands in front of the fields, which are words of 32 octets. What is signed is the hash of the marks
`0x19 0x01`, of the hash of a domain and of the hash of a message.

The hash that a manager signs is the one that the standard gives for the structure `DepositPoint`
(`DepositAuthorization.signingHash_eq`). The octets of this structure determine the account, the
amount, the validity, the manager and the nonce (`TypedStruct.depositPoint_inj`).
-/

namespace PointExchange

/-- A field of a typed structure: its type, its name, and the word that stands for its value. -/
structure TypedField where
  type : String
  name : String
  word : Word

/-- A structure with a name and typed fields. -/
structure TypedStruct where
  name : String
  fields : List TypedField

namespace TypedStruct

/-- The text of the type: `Name(type name,type name)`. -/
def typeText (s : TypedStruct) : String :=
  s.name ++ "(" ++ ",".intercalate (s.fields.map fun f => f.type ++ " " ++ f.name) ++ ")"

/-- The octets that are hashed: the hash of the type, then the fields. -/
def octets (s : TypedStruct) : Bytes :=
  wordBytes (keccak (Bytes.ofText s.typeText)) ++ s.fields.flatMap fun f => wordBytes f.word

def hash (s : TypedStruct) : Hash := keccak s.octets

/-- What is signed of a message under a domain. -/
def digest (domain message : TypedStruct) : Hash :=
  keccak ([0x19, 0x01] ++ wordBytes domain.hash ++ wordBytes message.hash)

/-- The domain of a contract on a chain. A text is hashed, an address is a number. -/
def eip712Domain (name version : String) (chainId : Word) (contract : Address) : TypedStruct :=
  ⟨"EIP712Domain",
    [⟨"string", "name", keccak (Bytes.ofText name)⟩,
      ⟨"string", "version", keccak (Bytes.ofText version)⟩,
      ⟨"uint256", "chainId", chainId⟩,
      ⟨"address", "verifyingContract", contract.bits.setWidth 256⟩]⟩

/-- What a manager signs for a deposit: whose points become how many tokens, until when, by the
leave of which manager, and with which nonce. -/
def depositPoint (account : Address) (amount validUntil : Word) (manager : Address)
    (nonce : Word) : TypedStruct :=
  ⟨"DepositPoint",
    [⟨"address", "account", account.bits.setWidth 256⟩,
      ⟨"uint256", "amount", amount⟩,
      ⟨"uint256", "validUntil", validUntil⟩,
      ⟨"address", "manager", manager.bits.setWidth 256⟩,
      ⟨"uint256", "nonce", nonce⟩]⟩

end TypedStruct

/-! ## What managers sign -/

/-- The hash of a domain is the one of the standard. -/
theorem SigningDomain.separator_eq (d : SigningDomain) :
    d.separator = (TypedStruct.eip712Domain d.name d.version d.chainId d.contract).hash := by
  have htype : (TypedStruct.eip712Domain d.name d.version d.chainId d.contract).typeText =
      "EIP712Domain(string name,string version,uint256 chainId,address verifyingContract)" := rfl
  rw [TypedStruct.hash, TypedStruct.octets, htype]
  rfl

namespace DepositAuthorization

/-- The hash of an authorisation is the one of the standard. -/
theorem structHash_eq (a : DepositAuthorization) : a.structHash =
    (TypedStruct.depositPoint a.account a.amount a.validUntil a.manager a.nonce).hash := by
  have htype : (TypedStruct.depositPoint a.account a.amount a.validUntil a.manager
      a.nonce).typeText = "DepositPoint(address account,uint256 amount,uint256 validUntil," ++
        "address manager,uint256 nonce)" := rfl
  rw [TypedStruct.hash, TypedStruct.octets, htype]
  rfl

/-- **What a manager signs is the digest of the standard.** -/
theorem signingHash_eq (a : DepositAuthorization) (d : SigningDomain) :
    a.signingHash d = TypedStruct.digest
      (TypedStruct.eip712Domain d.name d.version d.chainId d.contract)
      (TypedStruct.depositPoint a.account a.amount a.validUntil a.manager a.nonce) := by
  rw [signingHash, d.separator_eq, a.structHash_eq]
  rfl

end DepositAuthorization

/-! ## What the octets tell -/

theorem wordBytes_inj {v w : Word} (h : wordBytes v = wordBytes w) : v = w := by
  have hn := congrArg Bytes.toNat h
  rw [toNat_wordBytes, toNat_wordBytes] at hn
  exact BitVec.eq_of_toNat_eq hn

/-- Words one after another are told apart, since all of them have 32 octets. -/
theorem flatMap_wordBytes_inj : ∀ {vs ws : List Word},
    vs.flatMap wordBytes = ws.flatMap wordBytes → vs = ws
  | [], [], _ => rfl
  | [], w :: ws, h => by
    have hl := congrArg List.length h
    rw [List.flatMap_cons, List.length_append, length_wordBytes, List.flatMap_nil,
      List.length_nil] at hl
    omega
  | v :: vs, [], h => by
    have hl := congrArg List.length h
    rw [List.flatMap_cons, List.length_append, length_wordBytes, List.flatMap_nil,
      List.length_nil] at hl
    omega
  | v :: vs, w :: ws, h => by
    rw [List.flatMap_cons, List.flatMap_cons] at h
    obtain ⟨hv, hr⟩ := List.append_inj h (by rw [length_wordBytes, length_wordBytes])
    rw [wordBytes_inj hv, flatMap_wordBytes_inj hr]

theorem Address.setWidth_inj {a b : Address} (h : a.bits.setWidth 256 = b.bits.setWidth 256) :
    a = b := by
  have hb := congrArg (BitVec.setWidth 160) h
  rw [BitVec.setWidth_setWidth_of_le _ (by decide), BitVec.setWidth_setWidth_of_le _ (by decide),
    BitVec.setWidth_eq, BitVec.setWidth_eq] at hb
  cases a
  cases b
  exact congrArg Address.mk hb

namespace TypedStruct

/-- The octets of structures of one type determine their fields. -/
theorem words_of_octets {s s' : TypedStruct} (type : s.typeText = s'.typeText)
    (h : s.octets = s'.octets) : s.fields.map TypedField.word = s'.fields.map TypedField.word := by
  -- the hash of the common type stands in front of both
  rw [octets, octets, type] at h
  apply flatMap_wordBytes_inj
  rw [List.flatMap_map, List.flatMap_map]
  exact List.append_cancel_left h

/-- **What is hashed for a deposit covers all that the manager authorises, its nonce included.** -/
theorem depositPoint_inj {account account' : Address} {amount amount' validUntil validUntil' : Word}
    {manager manager' : Address} {nonce nonce' : Word}
    (h : (depositPoint account amount validUntil manager nonce).octets =
      (depositPoint account' amount' validUntil' manager' nonce').octets) :
    account = account' ∧ amount = amount' ∧ validUntil = validUntil' ∧ manager = manager' ∧
      nonce = nonce' := by
  have type : (depositPoint account amount validUntil manager nonce).typeText =
    (depositPoint account' amount' validUntil' manager' nonce').typeText := rfl
  have hw := words_of_octets type h
  simp only [depositPoint, List.map_cons, List.map_nil, List.cons.injEq, and_true] at hw
  obtain ⟨ha, hamount, hvalid, hm, hn⟩ := hw
  exact ⟨Address.setWidth_inj ha, hamount, hvalid, Address.setWidth_inj hm, hn⟩

end TypedStruct
end PointExchange
