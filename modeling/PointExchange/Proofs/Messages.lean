import PointExchange.Message.Decoder
import PointExchange.Message.Encoder
import PointExchange.Proofs.JsonGrammar

/-!
# Messages read back from their payloads

`Message.decode_encode` tells what the payload of a message is decoded to: the message, with the
canonical form of what the code of its direction expands to. Every field has a text of its own that
is read back whatever it holds, an absent field is left out, and no member of a message has the name
of an envelope.

So a message is read back if its code is canonical and plain. A code that decoding has made is
canonical (`canonical_kind_of_decode`). It need not be plain: sorting can bring the reserved name to
the front of an object, and `message_not_read_back` has a payload for that. Its depth leaves room
for the object around it, unless a document that the payload spells is as deep as a document may be.
-/

namespace PointExchange

/-! ## Identifiers -/

namespace Hex

theorem length_encode (b : Bytes) : (encode b).length = 2 * b.length := by
  induction b with
  | nil => rfl
  | cons d r ih =>
    simp only [encode, List.length_cons, ih]
    omega

/-- The digits of a byte string spell its number. -/
theorem number?_encode (b : Bytes) : number? (encode b) = some b.toNat := by
  suffices ∀ n, (encode b).foldl (fun acc c => do
      let n ← acc
      let d ← value? c
      return n * 16 + d) (some n) = some (b.foldl (fun n d => n * 256 + d.toNat) n) from this 0
  induction b with
  | nil => exact fun n => rfl
  | cons d r ih =>
    intro n
    have hlt : d.toNat < 256 := d.toNat_lt
    have high : value? (digit (d.toNat / 16)) = some (d.toNat / 16) := value?_digit (by omega)
    have low : value? (digit (d.toNat % 16)) = some (d.toNat % 16) := value?_digit (by omega)
    have next : (n * 16 + d.toNat / 16) * 16 + d.toNat % 16 = n * 256 + d.toNat := by omega
    rw [encode, List.foldl_cons, List.foldl_cons, high, low, List.foldl_cons, ← ih, ← next]
    rfl

theorem value?_isSome_of_mem_encode {b : Bytes} {c : Char} (h : c ∈ encode b) :
    (value? c).isSome = true := by
  induction b with
  | nil => exact absurd h List.not_mem_nil
  | cons d r ih =>
    have hlt : d.toNat < 256 := d.toNat_lt
    simp only [encode, List.mem_cons] at h
    rcases h with rfl | rfl | h
    · simp [value?_digit (show d.toNat / 16 < 16 by omega)]
    · simp [value?_digit (show d.toNat % 16 < 16 by omega)]
    · exact ih h

end Hex

namespace Uuid

theorem length_digits (u : Uuid) : u.digits.length = 32 := by
  simp [digits, Hex.length_encode]

theorem ofDigits?_digits (u : Uuid) : ofDigits? u.digits = some u := by
  rw [ofDigits?, if_pos u.length_digits, digits, Hex.number?_encode]
  have value : Bytes.toNat (Bytes.ofNat 16 u.bits.toNat) = u.bits.toNat := by
    rw [Bytes.toNat_ofNat]
    exact Nat.mod_eq_of_lt u.bits.isLt
  simp [value]

/-- Groups are read back from between their hyphens. -/
theorem joinGroups_splitGroups {lengths : List Nat} (nonempty : lengths ≠ []) {s : List Char}
    (h : s.length = lengths.foldr (· + ·) 0) :
    joinGroups lengths (splitGroups lengths s) = some s := by
  fun_induction splitGroups lengths s with
  | case1 => exact absurd rfl nonempty
  | case2 n s => simpa [joinGroups] using h
  | case3 n m ns s ih =>
    rw [List.foldr_cons] at h
    have front : (s.take n).length = n := by
      rw [List.length_take]
      omega
    have back : (s.drop n).length = (m :: ns).foldr (· + ·) 0 := by
      rw [List.length_drop]
      omega
    have taken : (s.take n ++ '-' :: splitGroups (m :: ns) (s.drop n)).take n = s.take n :=
      List.take_left' front
    have dropped : (s.take n ++ '-' :: splitGroups (m :: ns) (s.drop n)).drop n =
        '-' :: splitGroups (m :: ns) (s.drop n) := List.drop_left' front
    rw [joinGroups, taken, if_pos front, dropped]
    show (joinGroups (m :: ns) (splitGroups (m :: ns) (s.drop n))).map (s.take n ++ ·) = some s
    rw [ih (by simp) back, Option.map_some, List.take_append_drop]

theorem length_splitGroups (lengths : List Nat) {s : List Char}
    (h : s.length = lengths.foldr (· + ·) 0) :
    (splitGroups lengths s).length = s.length + (lengths.length - 1) := by
  fun_induction splitGroups lengths s with
  | case1 => simp_all
  | case2 => rfl
  | case3 n m ns s ih =>
    rw [List.foldr_cons] at h
    have back : (s.drop n).length = (m :: ns).foldr (· + ·) 0 := by
      rw [List.length_drop]
      omega
    have length := ih back
    simp only [List.length_append, List.length_take, List.length_cons] at length ⊢
    omega

/-- The hyphenated form of 32 digits is taken for nothing else. -/
theorem ofText?_splitGroups {s : List Char} (length : s.length = 32)
    (digits : ∀ c ∈ s, (Hex.value? c).isSome = true) :
    ofText? (splitGroups groups s) = ofDigits? s := by
  have long : (splitGroups groups s).length ≠ 32 := by
    rw [length_splitGroups groups length, length]
    decide
  have first : ∀ c ∈ (splitGroups groups s).head?, (Hex.value? c).isSome = true := by
    cases s with
    | nil => exact absurd length (by decide)
    | cons c r =>
      intro d hd
      obtain rfl : c = d := Option.some.inj hd
      exact digits c List.mem_cons_self
  unfold ofText?
  split
  · next r brace =>
    rw [brace] at first
    exact absurd (first _ rfl) (by decide)
  · next r urn =>
    rw [urn] at first
    exact absurd (first _ rfl) (by decide)
  · rw [if_neg long, ofHyphenated?, joinGroups_splitGroups (by decide) length]
    rfl

/-- **An identifier is read back from its text.** -/
theorem ofText?_text (u : Uuid) : ofText? u.text.toList = some u := by
  have digits : ∀ c ∈ u.digits, (Hex.value? c).isSome = true :=
    fun c => Hex.value?_isSome_of_mem_encode
  rw [text, String.toList_ofList, ofText?_splitGroups u.length_digits digits, ofDigits?_digits]

end Uuid

/-! ## Fields -/

namespace Json

theorem uuid?_text (u : Uuid) : uuid? (.string u.text) = some u := Uuid.ofText?_text u

theorem bytes?_text (b : Bytes) : bytes? (.string (Hex.text b)) = some b := Hex.read?_text b

theorem address?_text (a : Address) : address? (.string a.text) = some a := by
  simp [address?, fixedBytes?, Address.text, bytes?_text, Option.filter, Address.ofBytes?_bytes]

theorem valuesOf_nil (name : String) : valuesOf name [] = [] := rfl

theorem valuesOf_cons (name k : String) (v : Json) (r : List (String × Json)) :
    valuesOf name ((k, v) :: r) = if k = name then v :: valuesOf name r else valuesOf name r := by
  by_cases h : k = name <;> simp [valuesOf, h]

theorem member?_of_valuesOf {name : String} {members : List (String × Json)} {v : Option Json}
    (h : valuesOf name members = v.toList) : member? name members = some (v.getD .null) := by
  cases v <;> simp_all [member?]

end Json

namespace PermitData

/-- **A permit is read back from its JSON value.** -/
theorem ofJson?_toJson (p : PermitData) : ofJson? p.toJson = some p := by
  simp [ofJson?, toJson, fieldsOfMembers?, Json.member?, Json.valuesOf, ofFields?,
    Json.address?_text, Json.string?, Json.natural?, Json.bytes?_text]

end PermitData

namespace Message

theorem valuesOf_optionalMember (name other : String) (v : Option Json) :
    Json.valuesOf name (optionalMember other v) = if other = name then v.toList else [] := by
  cases v with
  | none => simp [optionalMember, Json.valuesOf_nil]
  | some v => exact Json.valuesOf_cons name other v []

/-- The members of a message as they are written. -/
def members (m : Message) : List (String × Json) :=
  [("userSwapHistoryId", .string m.id.text), ("walletAddress", .string m.account.text),
    ("amount", .string m.amount), ("type", m.kind)] ++
  optionalMember "signature" (m.signature.map fun b => .string (Hex.text b)) ++
  optionalMember "validUntil" (m.validUntil.map fun n => .number (.natural n)) ++
  optionalMember "permitData" (m.permit.map PermitData.toJson)

theorem toJson_eq (m : Message) : m.toJson = .object m.members := rfl

/-- The fields of a message as they are written; `null` stands for what is left out. -/
def fields (m : Message) : MessageFields where
  id := .string m.id.text
  account := .string m.account.text
  amount := .string m.amount
  kind := m.kind
  signature := (m.signature.map fun b => Json.string (Hex.text b)).getD .null
  validUntil := (m.validUntil.map fun n => Json.number (.natural n)).getD .null
  permit := (m.permit.map PermitData.toJson).getD .null

section Members

variable (m : Message)

/-- What is written under a name. -/
def written (name : String) : Option Json :=
  if name = "userSwapHistoryId" then some (.string m.id.text)
  else if name = "walletAddress" then some (.string m.account.text)
  else if name = "amount" then some (.string m.amount)
  else if name = "type" then some m.kind
  else if name = "signature" then m.signature.map fun b => .string (Hex.text b)
  else if name = "validUntil" then m.validUntil.map fun n => .number (.natural n)
  else if name = "permitData" then m.permit.map PermitData.toJson
  else none

/-- A name has one value at most, and no value if it is none of the seven. -/
theorem valuesOf_members (name : String) :
    Json.valuesOf name m.members = (m.written name).toList := by
  simp only [members, Json.valuesOf_append, valuesOf_optionalMember, Json.valuesOf_cons,
    Json.valuesOf_nil]
  grind [written]

theorem member?_members (name : String) :
    Json.member? name m.members = some ((m.written name).getD .null) :=
  Json.member?_of_valuesOf (m.valuesOf_members name)

theorem fieldsOfMembers?_members : fieldsOfMembers? m.members = some m.fields := by
  simp [fieldsOfMembers?, member?_members, written, fields]

/-- A message is no envelope. -/
theorem ofEnvelope?_toJson : ofEnvelope? m.toJson = none := by
  have noData : Json.valuesOf "data" m.members = [] := valuesOf_members m "data"
  rw [toJson_eq, ofEnvelope?, noData]

/-- The fields of a message spell the message, with the code of its direction as it is read. -/
theorem ofFields?_fields :
    ofFields? m.fields = m.kind.expand?.map fun kind => { m with kind := kind.canonical } := by
  have id : m.fields.id.uuid? = some m.id := Json.uuid?_text m.id
  have account : m.fields.account.address? = some m.account := Json.address?_text m.account
  have amount : m.fields.amount.string? = some m.amount := rfl
  have signature : Json.optional? Json.bytes? m.fields.signature = some m.signature := by
    cases h : m.signature <;> simp [fields, h, Json.optional?, Json.bytes?_text]
  have validUntil : Json.optional? Json.natural? m.fields.validUntil = some m.validUntil := by
    cases h : m.validUntil <;> simp [fields, h, Json.optional?, Json.natural?]
  have permit : Json.optional? PermitData.ofJson? m.fields.permit = some m.permit := by
    cases h : m.permit with
    | none => simp [fields, h, Json.optional?]
    | some p => simpa [fields, h, Json.optional?, PermitData.toJson] using p.ofJson?_toJson
  have kind : m.fields.kind.expand? = m.kind.expand? := rfl
  cases h : m.kind.expand? <;>
    simp [ofFields?, id, account, amount, kind, h, signature, validUntil, permit]

end Members

/-! ## Payloads -/

/-- What holds of texts, natural numbers, permits and the direction's code holds of all that is
written. -/
theorem forall_members {q : Json → Prop} {m : Message} (kind : q m.kind)
    (string : ∀ s, q (.string s)) (natural : ∀ n, q (.number (.natural n)))
    (permit : ∀ p : PermitData, q p.toJson) : ∀ x ∈ m.members, q x.2 := by
  have optional {α : Type} (name : String) (v : Option α) {f : α → Json} (h : ∀ y, q (f y)) :
      ∀ x ∈ optionalMember name (v.map f), q x.2 := by
    cases v with
    | none => simp [optionalMember]
    | some y => simpa [optionalMember] using h y
  simp only [members, List.forall_mem_append, List.forall_mem_cons]
  refine ⟨⟨⟨⟨string _, string _, string _, kind, by simp⟩, ?_⟩, ?_⟩, ?_⟩
  · exact optional "signature" m.signature fun b => string _
  · exact optional "validUntil" m.validUntil natural
  · exact optional "permitData" m.permit permit

theorem isExact_toJson {m : Message} (kind : m.kind.IsExact) : m.toJson.IsExact := by
  refine Json.isExact_object.mpr
    (forall_members kind Json.isExact_string Json.isExact_natural fun p => ?_)
  refine Json.isExact_object.mpr ?_
  simp

theorem depth_toJson_le {m : Message} (kind : m.kind.depth ≤ 126) :
    m.toJson.depth ≤ Json.maxDepth := by
  have permit (p : PermitData) : p.toJson.depth ≤ 126 := by
    have flat : p.toJson.depth ≤ 1 := Json.depth_object_le.mpr (by simp [Json.depth])
    omega
  exact Json.depth_object_le.mpr
    (forall_members (q := fun v => v.depth ≤ 126) kind (fun _ => Nat.zero_le _)
      (fun _ => Nat.zero_le _) permit)

theorem ofBytes?_encode (m : Message) :
    Json.ofBytes? m.encode = Json.parse (Json.print m.toJson) := by
  rw [Json.ofBytes?, encode, Bytes.toChars?_ofText, Option.bind_some, encodedText, Json.text,
    String.toList_ofList]

/-- **What a message's payload is decoded to:** the message, with the canonical form of what the
code of its direction expands to. -/
theorem decode_encode {m : Message} (exact : m.kind.IsExact) (depth : m.kind.depth ≤ 126) :
    decode m.encode =
      match m.kind.expand? with
      | some kind => .ok { m with kind := kind.canonical }
      | none => .error .wrongShape := by
  have document : Json.ofBytes? m.encode = some m.toJson := by
    rw [ofBytes?_encode]
    exact Json.parse_print (isExact_toJson exact) (depth_toJson_le depth)
  have message : ofJson? m.toJson =
      m.kind.expand?.map fun kind => { m with kind := kind.canonical } := by
    rw [ofJson?, ofEnvelope?_toJson, ← ofFields?_fields]
    show ofBare? m.toJson = ofFields? m.fields
    rw [toJson_eq, ofBare?, ofMembers?, fieldsOfMembers?_members, Option.bind_some]
  rw [decode, document]
  dsimp only
  rw [message]
  cases m.kind.expand? <;> rfl

/-- A message is read back if decoding would leave the code of its direction as it is. -/
theorem decode_encode_self {m : Message} (exact : m.kind.IsExact) (plain : m.kind.IsPlain)
    (sorted : m.kind.canonical = m.kind) (depth : m.kind.depth ≤ 126) :
    decode m.encode = .ok m := by
  rw [decode_encode exact depth, Json.expand?_of_isPlain plain]
  dsimp only
  rw [sorted]

/-! ## Decoded messages -/

/-- The code of the direction comes from the value: it is the canonical form of what a child of the
value expands to, or `null` where there is no such child. -/
def KindFrom (v : Json) (m : Message) : Prop :=
  ∃ kind w, (kind = .null ∨ kind ∈ v.children) ∧ Json.expand? kind = some w ∧ m.kind = w.canonical

theorem kind_of_ofFields? {f : MessageFields} {m : Message} (h : ofFields? f = some m) :
    ∃ w, f.kind.expand? = some w ∧ m.kind = w.canonical := by
  simp only [ofFields?, Option.bind_eq_bind, Option.bind_eq_some_iff, Option.pure_def,
    Option.some.injEq] at h
  obtain ⟨_, -, _, -, _, -, w, hw, _, -, _, -, _, -, rfl⟩ := h
  exact ⟨w, hw, rfl⟩

theorem mem_of_member? {name : String} {members : List (String × Json)} {v : Json}
    (h : Json.member? name members = some v) :
    v = .null ∨ v ∈ (Json.object members).children := by
  unfold Json.member? at h
  split at h
  · exact .inl (Option.some.inj h).symm
  · next w hw =>
    obtain rfl := Option.some.inj h
    exact .inr (Json.mem_children_of_valuesOf (hw ▸ List.mem_singleton_self _))
  · exact absurd h (by simp)

theorem kindFrom_of_ofBare? {v : Json} {m : Message} (h : ofBare? v = some m) : KindFrom v m := by
  unfold ofBare? at h
  split at h
  · next members =>
    obtain ⟨f, hf, hm⟩ := Option.bind_eq_some_iff.mp h
    obtain ⟨w, hw, kind⟩ := kind_of_ofFields? hm
    simp only [fieldsOfMembers?, Option.bind_eq_bind, Option.bind_eq_some_iff, Option.pure_def,
      Option.some.injEq] at hf
    obtain ⟨_, -, _, -, _, -, k, hk, _, -, _, -, _, -, rfl⟩ := hf
    exact ⟨k, w, mem_of_member? hk, hw, kind⟩
  · next items =>
    obtain ⟨f, hf, hm⟩ := Option.bind_eq_some_iff.mp h
    obtain ⟨w, hw, kind⟩ := kind_of_ofFields? hm
    refine ⟨f.kind, w, ?_, hw, kind⟩
    unfold fieldsOfItems? at hf
    split at hf
    · next id account amount optional =>
      split at hf
      · obtain rfl := Option.some.inj hf
        cases optional with
        | nil => exact .inl rfl
        | cons k r => exact .inr (by simp [Json.children])
      · exact absurd hf (by simp)
    · exact absurd hf (by simp)
  · exact absurd h (by simp)

/-- A message comes from the payload's document or, in an envelope, from one of its children. -/
theorem kindFrom_of_ofJson? {v : Json} {m : Message} (h : ofJson? v = some m) :
    KindFrom v m ∨ ∃ w ∈ v.children, KindFrom w m := by
  cases enveloped : ofEnvelope? v with
  | none =>
    rw [ofJson?, enveloped] at h
    exact .inl (kindFrom_of_ofBare? h)
  | some n =>
    rw [ofJson?, enveloped] at h
    obtain rfl : n = m := Option.some.inj h
    unfold ofEnvelope? at enveloped
    split at enveloped
    · next members =>
      split at enveloped
      · next w hw =>
        have child := Json.mem_children_of_valuesOf (hw ▸ List.mem_singleton_self w)
        exact .inr ⟨w, child, kindFrom_of_ofBare? enveloped⟩
      · exact absurd enveloped (by simp)
    · exact absurd enveloped (by simp)

theorem KindFrom.canonical {v : Json} {m : Message} (h : KindFrom v m) :
    m.kind.canonical = m.kind := by
  obtain ⟨-, w, -, -, kind⟩ := h
  rw [kind, Json.canonical_canonical]

/-- If no document is written inside the value, the code of the direction is less deep than it. -/
theorem KindFrom.depth_le {v : Json} {m : Message} {n : Nat} (h : KindFrom v m)
    (plain : v.IsPlain) (depth : v.depth ≤ n + 1) : m.kind.depth ≤ n := by
  obtain ⟨kind, w, from_v, expands, hkind⟩ := h
  have below : kind.IsPlain ∧ kind.depth ≤ n := by
    rcases from_v with rfl | child
    · exact ⟨by decide, Nat.zero_le n⟩
    · have := Json.depth_lt_of_mem_children child
      exact ⟨plain.of_mem_children child, by omega⟩
  obtain rfl : kind = w := Option.some.inj ((Json.expand?_of_isPlain below.1).symm.trans expands)
  rw [hkind]
  exact Nat.le_trans kind.depth_canonical_le below.2

section Decoded

variable {p : Bytes} {m : Message}

theorem document_of_decode (h : decode p = .ok m) :
    ∃ v, Json.ofBytes? p = some v ∧ ofJson? v = some m := by
  unfold decode at h
  split at h
  · exact absurd h (by simp)
  · next v hv =>
    split at h
    · next n hn =>
      obtain rfl := Except.ok.inj h
      exact ⟨v, hv, hn⟩
    · exact absurd h (by simp)

theorem canonical_kind_of_decode (h : decode p = .ok m) : m.kind.canonical = m.kind := by
  obtain ⟨v, -, hv⟩ := document_of_decode h
  rcases kindFrom_of_ofJson? hv with bare | ⟨w, -, enveloped⟩
  · exact bare.canonical
  · exact enveloped.canonical

/-- A payload without documents inside its document has a code that fits into a message again. -/
theorem depth_kind_of_decode (h : decode p = .ok m) {v : Json} (document : Json.ofBytes? p = some v)
    (plain : v.IsPlain) : m.kind.depth ≤ 126 := by
  obtain ⟨w, hw, message⟩ := document_of_decode h
  obtain rfl : w = v := Option.some.inj (hw.symm.trans document)
  obtain ⟨text, -, parsed⟩ := Option.bind_eq_some_iff.mp document
  have depth : w.depth ≤ 127 := Json.depth_le_of_parse parsed
  rcases kindFrom_of_ofJson? message with bare | ⟨u, child, enveloped⟩
  · exact bare.depth_le plain depth
  · have := Json.depth_lt_of_mem_children child
    exact enveloped.depth_le (plain.of_mem_children child) (by omega)

end Decoded

/-! ## Round trip -/

/-- **Messages are read back from their payloads.** A message that a payload was decoded to is
decoded from its own payload again, and so is every message whose direction's code is sorted. In
either case the code holds no double and nothing that stands for a document, and it nests at most
126 deep; the depth is sure when the first payload spelled no document inside its own. -/
theorem message_round_trip :
    (∀ (p : Bytes) (m : Message), decode p = .ok m → m.kind.IsExact → m.kind.IsPlain →
      (m.kind.depth ≤ 126 ∨ ∃ v, Json.ofBytes? p = some v ∧ v.IsPlain) →
      decode m.encode = .ok m ∧ (decode m.encode).map encode = .ok m.encode) ∧
    ∀ m : Message, m.kind.canonical = m.kind → m.kind.IsExact → m.kind.IsPlain →
      m.kind.depth ≤ 126 → decode m.encode = .ok m := by
  constructor
  · intro p m decoded exact plain fits
    have depth : m.kind.depth ≤ 126 := by
      rcases fits with depth | ⟨v, document, plain⟩
      · exact depth
      · exact depth_kind_of_decode decoded document plain
    have again := decode_encode_self exact plain (canonical_kind_of_decode decoded) depth
    refine ⟨again, ?_⟩
    rw [again]
    rfl
  · intro m sorted exact plain depth
    exact decode_encode_self exact plain sorted depth

/-- A payload whose code of the direction has its members in no order. -/
def unsortedPayload : Bytes :=
  Bytes.ofText ("[\"0000000000000000000000000000000A\"," ++
    "\"0101010101010101010101010101010101010101\",\"1\",\x7b\"b\":[-1],\"a\":null\x7d]")

/-- A message with all optional fields. -/
def fullMessage : Message where
  id := ⟨10⟩
  account := .repeated 1
  amount := "\"1\\0\"\n"
  kind := .object [("a", .array [.null, .number (.negative 0)]), ("b", .string "")]
  signature := some []
  validUntil := some 0xFFFFFFFFFFFFFFFF
  permit := some ⟨.repeated 2, "", 0, [1]⟩

set_option maxRecDepth 100000 in
theorem decode_unsortedPayload : ∃ m, decode unsortedPayload = .ok m ∧ m.kind.IsExact ∧
    m.kind.IsPlain ∧ m.kind.depth = 2 := by
  have h : (decode unsortedPayload).toOption.map (fun m =>
      (decide m.kind.IsExact, decide m.kind.IsPlain, m.kind.depth)) = some (true, true, 2) := by
    decide +kernel
  cases hd : decode unsortedPayload with
  | error e => simp [hd, Except.toOption] at h
  | ok m => simpa [hd, Except.toOption] using h

theorem message_round_trip_unsorted :
    (∃ m, decode unsortedPayload = .ok m ∧ decode m.encode = .ok m) ∧
    decode fullMessage.encode = .ok fullMessage := by
  obtain ⟨m, decoded, exact, plain, depth⟩ := decode_unsortedPayload
  have fits : m.kind.depth ≤ 126 := by omega
  refine ⟨⟨m, decoded, ?_⟩, ?_⟩
  · exact (message_round_trip.1 unsortedPayload m decoded exact plain (.inl fits)).1
  · exact message_round_trip.2 fullMessage rfl (by decide) (by decide) (by decide)

/-- A payload whose code of the direction has a member with the reserved name, behind another. -/
def reservedPayload : Bytes :=
  Bytes.ofText ("\x7b\"userSwapHistoryId\":\"00000000-0000-0000-0000-000000000001\"," ++
    "\"walletAddress\":\"0x1111111111111111111111111111111111111111\",\"amount\":\"5\"," ++
    "\"type\":\x7b\"a\":2,\"$serde_json::private::RawValue\":\"1\"\x7d\x7d")

/-- A deposit of 5 points with this code of the direction. -/
def depositWith (kind : Json) : Message where
  id := ⟨1⟩
  account := .repeated 0x11
  amount := "5"
  kind := kind
  signature := none
  validUntil := none
  permit := none

set_option maxRecDepth 100000 in
theorem encode_depositWith_reserved :
    (depositWith (.object [("a", .number (.natural 2)), (Json.embeddedName, .string "1")])).encode =
      reservedPayload := by
  decide +kernel

/-- Arrays inside each other. -/
def nested : Nat → Json
  | 0 => .null
  | n + 1 => .array [nested n]

section Nested

variable (n : Nat)

theorem isExact_nested : (nested n).IsExact := by
  induction n with
  | zero => decide
  | succ n ih => exact Json.isExact_array.mpr (List.forall_mem_singleton.mpr ih)

theorem isPlain_nested : (nested n).IsPlain := by
  induction n with
  | zero => decide
  | succ n ih => exact Json.isPlain_array.mpr (List.forall_mem_singleton.mpr ih)

theorem depth_nested : (nested n).depth = n := by
  induction n with
  | zero => rfl
  | succ n ih => simp [nested, Json.depth, Json.depthOfItems, ih]

theorem canonical_nested : (nested n).canonical = nested n := by
  induction n with
  | zero => rfl
  | succ n ih => simp [nested, Json.canonical, Json.canonicalItems, ih]

end Nested

/-- The payload of a message whose code of the direction is spelled as a document. -/
theorem decode_encode_embedded {v : Json} (exact : v.IsExact) (plain : v.IsPlain)
    (sorted : v.canonical = v) (depth : v.depth ≤ Json.maxDepth) :
    decode (depositWith (.object [(Json.embeddedName, .string v.text)])).encode =
      .ok (depositWith v) := by
  let m := depositWith (.object [(Json.embeddedName, .string v.text)])
  have document : m.kind.expand? = some v := Json.expand?_embedded exact plain depth
  have spelled : m.kind.IsExact :=
    Json.isExact_object.mpr (List.forall_mem_singleton.mpr (Json.isExact_string _))
  have shallow : m.kind.depth ≤ 126 := Json.depth_object_le.mpr (by simp [Json.depth])
  rw [decode_encode spelled shallow, document]
  dsimp only
  rw [sorted]
  rfl

/-- A payload that spells a document of arrays, as deep as a document may be. -/
def deepPayload : Bytes :=
  (depositWith (.object [(Json.embeddedName, .string (nested 127).text)])).encode

theorem decode_deepPayload : decode deepPayload = .ok (depositWith (nested 127)) :=
  decode_encode_embedded (isExact_nested 127) (isPlain_nested 127) (canonical_nested 127)
    (Nat.le_of_eq (depth_nested 127))

/-- A document with 127 arrays inside its object is none. -/
theorem decode_encode_nested (m : Message) :
    decode (depositWith (nested 127)).encode ≠ .ok m := by
  have run : ((Json.State.value []).run (depositWith (nested 127)).toJson.tokens).isNone := by
    decide +kernel
  have tooDeep : Json.ofBytes? (depositWith (nested 127)).encode = none := by
    rw [ofBytes?_encode, Json.parse, Json.lex_print (isExact_toJson (isExact_nested 127)),
      Option.bind_some, Option.isNone_iff_eq_none.mp run]
    rfl
  rw [decode, tooDeep]
  simp

/-- **Not every message of a payload is read back.** A reserved name that sorting puts first stands
for a document, and a document that a payload spells can be too deep for a place in another. -/
theorem message_not_read_back :
    (∃ m, decode reservedPayload = .ok m ∧ m.kind.IsExact ∧ m.kind.depth = 1 ∧
      m.kind.canonical = m.kind ∧ decode m.encode = .error .wrongShape) ∧
    ∃ m, decode deepPayload = .ok m ∧ m.kind.IsExact ∧ m.kind.IsPlain ∧
      decode m.encode ≠ .ok m := by
  constructor
  · let sorted : Json := .object [(Json.embeddedName, .string "1"), ("a", .number (.natural 2))]
    have no_document : (depositWith sorted).kind.expand? = none := by
      rw [Json.expand?]
      cases (Json.print sorted).length <;> rfl
    refine ⟨depositWith sorted, ?_, by decide, rfl, rfl, ?_⟩
    · rw [← encode_depositWith_reserved, decode_encode (by decide) (by decide)]
      rw [Json.expand?_of_isPlain (by decide)]
      rfl
    · rw [decode_encode (by decide) (by decide), no_document]
  · exact ⟨depositWith (nested 127), decode_deepPayload, isExact_nested 127, isPlain_nested 127,
      decode_encode_nested _⟩

end Message

end PointExchange
