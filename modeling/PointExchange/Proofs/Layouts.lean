import PointExchange.Proofs.JsonGrammar
import PointExchange.Proofs.Messages

/-!
# Messages do not depend on their layout

A sender may write a message in many ways. `Message.Relaid` says which members come down to the same
ones: the same members in any order, with others among them whose names are not read, and with
`null` for an optional one that is absent. No step of this changes what a name that is read stands
for (`Relaid.member?_eq`), and none brings the name of an envelope (`Relaid.lacks_data`).

So the message is the same, whether the object is the document or is inside of an envelope
(`decode_relaid`). That goes for every text of the document: for all blanks, escapes and forms of
numbers that `Json.WrittenAs` allows, up to the depth that the parser takes.
-/

namespace PointExchange

/-! ## Members in another layout -/

/-- No member has this name. -/
def Json.Lacks (name : String) (members : List (String × Json)) : Prop :=
  ∀ x ∈ members, x.1 ≠ name

instance (name : String) (members : List (String × Json)) : Decidable (Json.Lacks name members) :=
  inferInstanceAs (Decidable (∀ x ∈ members, x.1 ≠ name))

namespace Message

/-- The names of the members that are read. -/
def fieldNames : List String :=
  ["userSwapHistoryId", "walletAddress", "amount", "type", "signature", "validUntil", "permitData"]

/-- The names of the members that may be absent. -/
def optionalNames : List String := ["type", "signature", "validUntil", "permitData"]

/-- Members that a message is laid out in instead of these. -/
inductive Relaid (members : List (String × Json)) : List (String × Json) → Prop
  | same : Relaid members members
  | reordered {a b : List (String × Json)} (h : Relaid members a) (perm : a.Perm b) :
    Relaid members b
  /-- one more member of a name that is not read -/
  | ignored {a b : List (String × Json)} {name : String} (v : Json) (h : Relaid members (a ++ b))
    (envelope : name ≠ "data") (unread : name ∉ fieldNames) : Relaid members (a ++ (name, v) :: b)
  /-- `null` for an optional member that is absent -/
  | null {a b : List (String × Json)} {name : String} (h : Relaid members (a ++ b))
    (optional : name ∈ optionalNames) (absent : Json.Lacks name (a ++ b)) :
    Relaid members (a ++ (name, .null) :: b)

end Message

/-! ## What a name stands for -/

namespace Json

variable {name other : String} {a b : List (String × Json)}

theorem valuesOf_perm (h : a.Perm b) (name : String) :
    (valuesOf name a).Perm (valuesOf name b) := (h.filter _).map _

/-- In another order, a name that is given once has its value, and one that is given twice is still
given twice. -/
theorem member?_perm (h : a.Perm b) (name : String) : member? name b = member? name a := by
  have values := valuesOf_perm h name
  unfold member?
  generalize valuesOf name a = vs, valuesOf name b = ws at values
  rcases vs with _ | ⟨v, _ | ⟨v', vs⟩⟩
  · rw [List.nil_perm.mp values]
  · rw [List.singleton_perm.mp values]
  · have twice : 2 ≤ ws.length := by simp [← values.length_eq]
    rcases ws with _ | ⟨w, _ | ⟨w', ws⟩⟩
    · exact absurd twice (by simp)
    · exact absurd twice (by simp)
    · rfl

theorem valuesOf_insert_other (h : other ≠ name) (v : Json) :
    valuesOf name (a ++ (other, v) :: b) = valuesOf name (a ++ b) := by
  rw [valuesOf_append, valuesOf_append, valuesOf_cons, if_neg h]

theorem member?_insert_other (h : other ≠ name) (v : Json) :
    member? name (a ++ (other, v) :: b) = member? name (a ++ b) :=
  member?_congr (valuesOf_insert_other h v)

/-- A member that is absent is as good as `null`. -/
theorem member?_insert_null (h : Lacks other (a ++ b)) :
    member? name (a ++ (other, .null) :: b) = member? name (a ++ b) := by
  by_cases same : other = name
  · subst same
    have absent : valuesOf other a = [] ∧ valuesOf other b = [] := by
      simpa [valuesOf_append] using valuesOf_eq_nil h
    simp [member?, valuesOf_append, valuesOf_cons, absent]
  · exact member?_insert_other same .null

theorem Lacks.perm (h : Lacks name a) (perm : a.Perm b) : Lacks name b :=
  fun x hx => h x (perm.mem_iff.mpr hx)

theorem Lacks.insert (h : Lacks name (a ++ b)) (ne : other ≠ name) (v : Json) :
    Lacks name (a ++ (other, v) :: b) := by
  intro x hx
  rcases List.mem_append.mp hx with hx | hx
  · exact h x (List.mem_append_left b hx)
  · rcases List.mem_cons.mp hx with rfl | hx
    · exact ne
    · exact h x (List.mem_append_right a hx)

end Json

namespace Message

variable {members members' : List (String × Json)} {m : Message}

/-- **Names that are read stand for the same in every layout.** -/
theorem Relaid.member?_eq (h : Relaid members members') {name : String} (read : name ∈ fieldNames) :
    Json.member? name members' = Json.member? name members := by
  induction h with
  | same => rfl
  | reordered _ perm ih => rw [Json.member?_perm perm, ih]
  | ignored v _ _ unread ih =>
    rw [Json.member?_insert_other (ne_of_mem_of_not_mem read unread).symm v, ih]
  | null _ _ absent ih => rw [Json.member?_insert_null absent, ih]

/-- **No layout of a bare message is an envelope.** -/
theorem Relaid.lacks_data (h : Relaid members members') (bare : Json.Lacks "data" members) :
    Json.Lacks "data" members' := by
  induction h with
  | same => exact bare
  | reordered _ perm ih => exact ih.perm perm
  | ignored v _ envelope _ ih => exact ih.insert envelope v
  | null _ optional _ ih =>
    refine ih.insert ?_ .null
    rintro rfl
    exact absurd optional (by decide)

theorem fieldsOfMembers?_congr
    (h : ∀ name ∈ fieldNames, Json.member? name members' = Json.member? name members) :
    fieldsOfMembers? members' = fieldsOfMembers? members := by
  simp only [fieldNames, List.forall_mem_cons] at h
  obtain ⟨id, account, amount, kind, signature, validUntil, permit, -⟩ := h
  simp only [fieldsOfMembers?, id, account, amount, kind, signature, validUntil, permit]

theorem Relaid.ofMembers?_eq (h : Relaid members members') :
    ofMembers? members' = ofMembers? members := by
  rw [ofMembers?, fieldsOfMembers?_congr fun name => h.member?_eq]
  rfl

/-! ## Documents -/

theorem ofJson?_bare (h : Json.Lacks "data" members) :
    ofJson? (.object members) = ofMembers? members := by
  rw [ofJson?, ofEnvelope?, Json.valuesOf_eq_nil h]
  rfl

/-- An envelope is read as what it holds if that is a message. -/
theorem ofJson?_envelope {before after : List (String × Json)} {v : Json}
    (single : Json.Lacks "data" (before ++ after)) (h : ofBare? v = some m) :
    ofJson? (.object (before ++ ("data", v) :: after)) = some m := by
  have others : Json.valuesOf "data" before = [] ∧ Json.valuesOf "data" after = [] := by
    simpa [Json.valuesOf_append] using Json.valuesOf_eq_nil single
  have value : Json.valuesOf "data" (before ++ ("data", v) :: after) = [v] := by
    rw [Json.valuesOf_append, Json.valuesOf_cons, if_pos rfl, others.1, others.2]
    rfl
  rw [ofJson?, ofEnvelope?, value]
  dsimp only
  rw [h]
  rfl

/-- A document of a message is decoded to it. -/
theorem decode_of_writtenAs {v : Json} {p : Bytes} (document : v.WrittenAs p)
    (depth : v.depth ≤ Json.maxDepth) (h : ofJson? v = some m) : decode p = .ok m := by
  rw [decode, Json.ofBytes?_of_writtenAs document depth]
  dsimp only
  rw [h]

/-- **A message does not depend on how its sender lays it out.** An object that is decoded to a
message without being an envelope is decoded to the same message in every other layout, as the
document itself and as the content of an envelope, whatever else the envelope holds. -/
theorem decode_relaid {p : Bytes} (document : Json.ofBytes? p = some (.object members))
    (bare : Json.Lacks "data" members) (decoded : decode p = .ok m)
    (relaid : Relaid members members') :
    (∀ q, (Json.object members').WrittenAs q → (Json.object members').depth ≤ Json.maxDepth →
      decode q = .ok m) ∧
    ∀ before after q, Json.Lacks "data" (before ++ after) →
      let outer := Json.object (before ++ ("data", .object members') :: after)
      outer.WrittenAs q → outer.depth ≤ Json.maxDepth → decode q = .ok m := by
  have message : ofMembers? members' = some m := by
    obtain ⟨v, hv, read⟩ := document_of_decode decoded
    obtain rfl : v = .object members := Option.some.inj (hv.symm.trans document)
    rw [relaid.ofMembers?_eq, ← read, ofJson?_bare bare]
  constructor
  · intro q written depth
    refine decode_of_writtenAs written depth ?_
    rw [ofJson?_bare (relaid.lacks_data bare), message]
  · intro before after q single outer written depth
    exact decode_of_writtenAs written depth (ofJson?_envelope single message)

/-- The members of a message from the last to the first, with two among them that are not read and
`null` for the signature. -/
def turnedMembers (m : Message) : List (String × Json) :=
  ("note", .bool true) :: ("signature", .null) :: (m.members.reverse ++ [("note", .array [])])

/-- A deposit with its members turned, in an envelope with an identifier of its own. -/
def turnedEnvelope : Json :=
  .object [("userSwapHistoryId", .null),
    ("data", .object (turnedMembers (depositWith (.string "1")))), ("id", .number (.natural 7))]

theorem decode_relaid_turned :
    let m := depositWith (.string "1")
    decode (.ofText (Json.object (turnedMembers m)).text) = .ok m ∧
    decode (.ofText turnedEnvelope.text) = .ok m := by
  intro m
  have exact : m.toJson.IsExact := by decide
  have document : Json.ofBytes? m.encode = some (.object m.members) :=
    Json.ofBytes?_of_writtenAs (Json.writtenAs_text exact) (by decide)
  have decoded : decode m.encode = .ok m :=
    decode_encode_self (by decide) (by decide) rfl (by decide)
  have turned : Relaid m.members (m.members.reverse ++ [("note", .array [])]) := by
    refine .ignored (b := []) _ ?_ (by decide) (by decide)
    simpa using Relaid.same.reordered (List.reverse_perm m.members).symm
  have relaid : Relaid m.members (turnedMembers m) :=
    .ignored (a := []) _ (.null (a := []) turned (by decide) (by decide)) (by decide) (by decide)
  obtain ⟨bare, enveloped⟩ := decode_relaid document (by decide) decoded relaid
  refine ⟨bare _ (Json.writtenAs_text (by decide)) (by decide), ?_⟩
  exact enveloped [("userSwapHistoryId", .null)] [("id", .number (.natural 7))] _ (by decide)
    (Json.writtenAs_text (by decide)) (by decide)

end Message

end PointExchange
