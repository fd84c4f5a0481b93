import PointExchange.Proofs.JsonValues

/-!
# Tokens of JSON texts

`Json.tokens` is what a value's text consists of. The parser's machine reads them wherever there is
room for the value: from `.value stack` it comes to `.after v stack` (`isRead`).

No document that is read nests deeper than `Json.maxDepth` (`depth_le_of_parse`). The machine keeps
a budget for that: what an open container holds leaves room for all containers around it
(`State.Fits`).
-/

namespace PointExchange.Json

/-! ## The tokens of a value -/

mutual

def tokens : Json → List Token
  | .array items => .openArray :: itemTokens items ++ [.closeArray]
  | .object members => .openObject :: memberTokens members ++ [.closeObject]
  | v => [.scalar v]

def itemTokens : List Json → List Token
  | [] => []
  | [v] => tokens v
  | v :: w :: r => tokens v ++ .comma :: itemTokens (w :: r)

def memberTokens : List (String × Json) → List Token
  | [] => []
  | [(k, v)] => .scalar (.string k) :: .colon :: tokens v
  | (k, v) :: m :: r => .scalar (.string k) :: .colon :: tokens v ++ .comma :: memberTokens (m :: r)

end

/-! ## One token of a text -/

theorem lex_punctuation {c : Char} {t : Token} {r : List Char} (blank : isBlank c = false)
    (h : punctuation? c = some t) : lex (c :: r) = (lex r).map (t :: ·) := by
  rw [lex, if_neg (by simp [blank]), h]

theorem lex_scalar {c : Char} {r t : List Char} {v : Json} (blank : isBlank c = false)
    (mark : punctuation? c = none) (h : scalar? c r = some (v, t)) :
    lex (c :: r) = (lex t).map (.scalar v :: ·) := by
  rw [lex, if_neg (by simp [blank]), mark]
  dsimp only
  split
  · next w u hw =>
    obtain ⟨rfl, rfl⟩ : v = w ∧ t = u := by simpa [h] using hw
    rfl
  · next hn => exact absurd (h.symm.trans hn) (by simp)

/-! ## Strings -/

theorem scanString_escape {c : Char} {r t : List Char} (h : escape? r = some (c, t)) :
    scanString ('\\' :: r) = (scanString t).map fun p => (c :: p.1, p.2) := by
  rw [scanString, if_neg (by decide), if_pos rfl]
  split
  · next d u hd =>
    obtain ⟨rfl, rfl⟩ : c = d ∧ t = u := by simpa [h] using hd
    rfl
  · next hn => exact absurd (h.symm.trans hn) (by simp)

theorem scanString_plain {c : Char} {r : List Char} (quote : c ≠ '"') (escape : c ≠ '\\')
    (control : ¬c.toNat < 0x20) :
    scanString (c :: r) = (scanString r).map fun p => (c :: p.1, p.2) := by
  rw [scanString, if_neg quote, if_neg escape, if_neg control]

theorem unit?_control {c : Char} (control : c.toNat < 0x20) :
    unit? '0' '0' (Hex.digit (c.toNat / 16)) (Hex.digit (c.toNat % 16)) = some c.toNat := by
  have zero : Hex.value? '0' = some 0 := rfl
  have high : Hex.value? (Hex.digit (c.toNat / 16)) = some (c.toNat / 16) :=
    Hex.value?_digit (by omega)
  have low : Hex.value? (Hex.digit (c.toNat % 16)) = some (c.toNat % 16) :=
    Hex.value?_digit (by omega)
  have value : c.toNat / 16 * 16 + c.toNat % 16 = c.toNat := by omega
  simp [unit?, zero, high, low, value]

/-! ## Numbers -/

section Digits

variable {n : Nat}

theorem value_toDigits (n : Nat) : Decimal.value (Nat.toDigits 10 n) = n := by
  have same : Decimal.value (Nat.toDigits 10 n) = Nat.ofDigitChars 10 (Nat.toDigits 10 n) 0 := by
    unfold Decimal.value Nat.ofDigitChars
    congr 1
    funext m c
    rw [Nat.mul_comm m 10]
    rfl
  rw [same, Nat.ofDigitChars_ten_toDigits]

theorem isDigit_of_mem_toDigits {c : Char} (h : c ∈ Nat.toDigits 10 n) :
    Decimal.isDigit c = true := by
  have hc := Nat.isDigit_of_mem_toDigits (by decide) (Nat.le_refl 10) h
  simpa [Char.isDigit, Decimal.isDigit, UInt32.le_iff_toNat_le] using hc

/-- No zero stands in front of other digits. -/
theorem head?_toDigits (h : 0 < n) : (Nat.toDigits 10 n).head? ≠ some '0' := by
  induction n using Nat.strongRecOn with
  | ind n ih =>
    rw [Nat.toDigits_eq_if (by decide)]
    by_cases small : n < 10
    · have all : ∀ m < 10, 0 < m → [Nat.digitChar m].head? ≠ some '0' := by decide
      rw [if_pos small]
      exact all n small h
    · have front : (Nat.toDigits 10 (n / 10)).head?.isSome = true :=
        List.isSome_head?.mpr Nat.toDigits_ne_nil
      rw [if_neg small, List.head?_append, Option.or_of_isSome front]
      exact ih (n / 10) (by omega) (by omega)

end Digits

section Start

variable {c : Char}

/-- A sign or a digit starts no other token. -/
theorem starts_number (h : c = '-' ∨ Decimal.isDigit c = true) :
    isBlank c = false ∧ punctuation? c = none ∧ c ≠ '"' := by
  rcases h with rfl | digit
  · exact ⟨rfl, rfl, by decide⟩
  · have other : ∀ d, Decimal.isDigit d = false → c ≠ d := by
      intro d hd
      rintro rfl
      exact Bool.false_ne_true (hd.symm.trans digit)
    refine ⟨?_, ?_, other _ rfl⟩
    · simp [isBlank, other ' ' rfl, other '\t' rfl, other '\n' rfl, other '\r' rfl]
    · unfold punctuation?
      split
      case h_7 => rfl
      all_goals exact absurd digit (by decide)

theorem scanNumber_of_isDigit {r : List Char} (h : Decimal.isDigit c = true) :
    scanNumber (c :: r) = scanMagnitude false (c :: r) := by
  unfold scanNumber
  split
  · next hc => exact absurd h (by rw [(List.cons.inj hc).1]; decide)
  · rfl

theorem lex_number {r : List Char} {t : NumberText} {n : JsonNumber}
    (start : c = '-' ∨ Decimal.isDigit c = true) (scan : scanNumber (c :: r) = some t)
    (value : t.value? = some n) : lex (c :: r) = (lex t.rest).map (.scalar (.number n) :: ·) := by
  obtain ⟨blank, mark, quote⟩ := starts_number start
  refine lex_scalar blank mark ?_
  rw [scalar?, if_neg quote, if_pos start, scan]
  dsimp only
  rw [value]
  rfl

end Start

/-! ## The machine reads the tokens of a value -/

namespace State

variable {stack : List Open}

theorem run_cons {s t : State} {token : Token} (h : s.step token = some t) (ts : List Token) :
    s.run (token :: ts) = t.run ts := by
  simp [run, h]

/-- Where a value or the end of an array may come, a value is read as the first item. -/
theorem run_firstItem {token : Token} (h : token ≠ .closeArray) (ts : List Token) :
    (firstItem stack).run (token :: ts) = (value (.array [] :: stack)).run (token :: ts) := by
  cases token with
  | closeArray => exact absurd rfl h
  | openArray | openObject | closeObject | colon | comma | scalar => rfl

end State

/-- The machine reads the value, wherever there is room for it, and comes behind it. -/
def IsRead (v : Json) : Prop :=
  ∀ stack : List Open, stack.length + v.depth ≤ maxDepth →
    (State.value stack).run v.tokens = some (.after v stack)

section Containers

variable {stack : List Open}

theorem IsRead.run_append {v : Json} (h : v.IsRead) (room : stack.length + v.depth ≤ maxDepth)
    (ts : List Token) :
    (State.value stack).run (v.tokens ++ ts) = (State.after v stack).run ts := by
  rw [State.run_append, h stack room]
  rfl

/-- The items that are left of an array, up to its end. -/
theorem run_itemTokens {v : Json} {items : List Json} (read : ∀ w ∈ v :: items, w.IsRead)
    (room : ∀ w ∈ v :: items, stack.length + 1 + w.depth ≤ maxDepth) (done : List Json) :
    (State.value (.array done :: stack)).run (itemTokens (v :: items) ++ [.closeArray]) =
      some (.after (.array (done.reverse ++ v :: items)) stack) := by
  -- every item that is read moves from `items` to `done`
  induction items generalizing v done with
  | nil =>
    have here : (Open.array done :: stack).length + v.depth ≤ maxDepth := by simpa using room
    rw [itemTokens, (read v List.mem_cons_self).run_append here, State.run_cons rfl]
    simp [State.run]
  | cons w items ih =>
    obtain ⟨readv, read⟩ := List.forall_mem_cons.mp read
    obtain ⟨here, room⟩ := List.forall_mem_cons.mp room
    have here : (Open.array done :: stack).length + v.depth ≤ maxDepth := here
    rw [itemTokens, List.append_assoc, List.cons_append, readv.run_append here,
      State.run_cons rfl, ih read room (v :: done)]
    simp

/-- One member of an object, behind `done`. -/
theorem run_member {v : Json} (h : v.IsRead) (room : stack.length + 1 + v.depth ≤ maxDepth)
    (orEnd : Bool) (k : String) (done : List (String × Json)) (ts : List Token) :
    (State.name orEnd done stack).run (.scalar (.string k) :: .colon :: (v.tokens ++ ts)) =
      (State.after v (.object done k :: stack)).run ts := by
  have here : (Open.object done k :: stack).length + v.depth ≤ maxDepth := room
  have name : (State.name orEnd done stack).step (.scalar (.string k)) =
      some (.colon done k stack) := by
    cases orEnd <;> rfl
  rw [State.run_cons name, State.run_cons rfl, h.run_append here]

/-- The members that are left of an object, up to its end. -/
theorem run_memberTokens {m : String × Json} {members : List (String × Json)}
    (read : ∀ n ∈ m :: members, n.2.IsRead)
    (room : ∀ n ∈ m :: members, stack.length + 1 + n.2.depth ≤ maxDepth) (orEnd : Bool)
    (done : List (String × Json)) :
    (State.name orEnd done stack).run (memberTokens (m :: members) ++ [.closeObject]) =
      some (.after (.object (done.reverse ++ m :: members)) stack) := by
  induction members generalizing m orEnd done with
  | nil =>
    have here := room m List.mem_cons_self
    simp only [memberTokens, List.cons_append]
    rw [run_member (read m List.mem_cons_self) here, State.run_cons rfl]
    simp [State.run]
  | cons n members ih =>
    obtain ⟨readm, read⟩ := List.forall_mem_cons.mp read
    obtain ⟨here, room⟩ := List.forall_mem_cons.mp room
    simp only [memberTokens, List.append_assoc, List.cons_append]
    rw [run_member readm here, State.run_cons rfl, ih read room]
    simp

/-- An item does not start with the end of an array. -/
theorem itemTokens_eq_cons (v : Json) (items : List Json) :
    ∃ t ts, itemTokens (v :: items) = t :: ts ∧ t ≠ .closeArray := by
  cases items <;> cases v <;> exact ⟨_, _, rfl, by simp⟩

/-- **Every value is read as far as there is room for it.** -/
theorem isRead (v : Json) : v.IsRead := by
  induction v using induct with
  | null | bool | number | string =>
    intro stack _
    rfl
  | array items ih =>
    intro stack room
    rw [depth] at room
    have opens : (State.value stack).step .openArray = some (.firstItem stack) :=
      if_pos (by omega)
    rw [tokens, List.cons_append, State.run_cons opens]
    cases items with
    | nil => rfl
    | cons v items =>
      have inside : ∀ w ∈ v :: items, stack.length + 1 + w.depth ≤ maxDepth := by
        intro w hw
        have := depth_array_le.mp (Nat.le_refl _) w hw
        omega
      -- the first item is read where the end of the array could stand as well
      obtain ⟨t, ts, first, notEnd⟩ := itemTokens_eq_cons v items
      have rest := run_itemTokens ih inside []
      rw [first, List.cons_append] at rest ⊢
      rw [State.run_firstItem notEnd, rest]
      rfl
  | object members ih =>
    intro stack room
    rw [depth] at room
    have opens : (State.value stack).step .openObject = some (.name true [] stack) :=
      if_pos (by omega)
    rw [tokens, List.cons_append, State.run_cons opens]
    cases members with
    | nil => rfl
    | cons m members =>
      have inside : ∀ n ∈ m :: members, stack.length + 1 + n.2.depth ≤ maxDepth := by
        intro n hn
        have := depth_object_le.mp (Nat.le_refl _) n hn
        omega
      exact run_memberTokens ih inside true []

end Containers

/-! ## The depth of what is read -/

/-- The token is no container by itself. A token could carry any value, but one of a text carries a
scalar. -/
def Token.IsFlat : Token → Prop
  | .scalar v => v.depth = 0
  | _ => True

theorem depth_of_scalar? {c : Char} {r t : List Char} {v : Json}
    (h : scalar? c r = some (v, t)) : v.depth = 0 := by
  have word : ∀ {w : List Char} {x : Json}, x.depth = 0 → scanWord w x r = some (v, t) →
      v.depth = 0 := by
    intro w x hx h
    obtain ⟨u, -, hu⟩ := Option.map_eq_some_iff.mp h
    exact (Prod.mk.inj hu).1 ▸ hx
  unfold scalar? at h
  split at h
  · obtain ⟨p, -, hp⟩ := Option.map_eq_some_iff.mp h
    exact (Prod.mk.inj hp).1 ▸ rfl
  · split at h
    · split at h
      · obtain ⟨n, -, hn⟩ := Option.map_eq_some_iff.mp h
        exact (Prod.mk.inj hn).1 ▸ rfl
      · exact absurd h (by simp)
    · split at h
      · exact word rfl h
      · split at h
        · exact word rfl h
        · split at h
          · exact word rfl h
          · exact absurd h (by simp)

theorem isFlat_of_punctuation? {c : Char} {t : Token} (h : punctuation? c = some t) :
    t.IsFlat := by
  unfold punctuation? at h
  split at h
  case h_7 => exact absurd h (by simp)
  all_goals exact Option.some.inj h ▸ trivial

theorem isFlat_of_lex {s : List Char} {ts : List Token} (h : lex s = some ts) :
    ∀ t ∈ ts, t.IsFlat := by
  fun_induction lex s generalizing ts with
  | case1 =>
    obtain rfl := Option.some.inj h
    exact fun _ h => absurd h List.not_mem_nil
  | case2 c r _ ih => exact ih h
  | case3 c r _ t mark ih =>
    obtain ⟨us, hus, rfl⟩ := Option.map_eq_some_iff.mp h
    exact List.forall_mem_cons.mpr ⟨isFlat_of_punctuation? mark, ih hus⟩
  | case4 c r _ _ v t hv ih =>
    obtain ⟨us, hus, rfl⟩ := Option.map_eq_some_iff.mp h
    exact List.forall_mem_cons.mpr ⟨depth_of_scalar? hv, ih hus⟩
  | case5 => exact absurd h (by simp)

/-- What an open container holds leaves room for the `around` containers around it. -/
def Open.Fits (around : Nat) : Open → Prop
  | .array items => ∀ v ∈ items, v.depth + around < maxDepth
  | .object members _ => ∀ m ∈ members, m.2.depth + around < maxDepth

/-- No more containers are open than may be, and each leaves room for those around it. -/
def StackFits : List Open → Prop
  | [] => True
  | o :: stack => stack.length < maxDepth ∧ o.Fits stack.length ∧ StackFits stack

/-- What the machine has read nests no deeper than it may. -/
def State.Fits : State → Prop
  | .value stack => StackFits stack
  | .firstItem stack => StackFits (.array [] :: stack)
  | .name _ members stack => StackFits (.object members "" :: stack)
  | .colon members k stack => StackFits (.object members k :: stack)
  | .after v stack => v.depth + stack.length ≤ maxDepth ∧ StackFits stack

section Fits

variable {stack : List Open} {v : Json} {items : List Json} {members : List (String × Json)}
  {k : String}

theorem length_le_of_stackFits (h : StackFits stack) : stack.length ≤ maxDepth := by
  cases stack with
  | nil => exact Nat.zero_le _
  | cons o stack => exact h.1

/-- A value that fits behind an item is an item itself. -/
theorem State.Fits.item (h : (State.after v (.array items :: stack)).Fits) :
    StackFits (.array (v :: items) :: stack) := by
  obtain ⟨own, room, inside, around⟩ := h
  exact ⟨room, List.forall_mem_cons.mpr ⟨own, inside⟩, around⟩

theorem State.Fits.member (h : (State.after v (.object members k :: stack)).Fits) (l : String) :
    StackFits (.object ((k, v) :: members) l :: stack) := by
  obtain ⟨own, room, inside, around⟩ := h
  exact ⟨room, List.forall_mem_cons.mpr ⟨own, inside⟩, around⟩

/-- An array fits when it is closed. -/
theorem fits_closedArray (h : StackFits (.array items :: stack)) :
    (State.after (.array items.reverse) stack).Fits := by
  obtain ⟨room, inside, around⟩ := h
  have depth : (array items.reverse).depth ≤ maxDepth - 1 - stack.length + 1 := by
    refine depth_array_le.mpr fun v hv => ?_
    have := inside v (List.mem_reverse.mp hv)
    omega
  exact ⟨by omega, around⟩

/-- An object fits when it is closed. -/
theorem fits_closedObject (h : StackFits (.object members k :: stack)) :
    (State.after (.object members.reverse) stack).Fits := by
  obtain ⟨room, inside, around⟩ := h
  have depth : (object members.reverse).depth ≤ maxDepth - 1 - stack.length + 1 := by
    refine depth_object_le.mpr fun m hm => ?_
    have := inside m (List.mem_reverse.mp hm)
    omega
  exact ⟨by omega, around⟩

end Fits

namespace State

theorem fits_begin {stack : List Open} {t : Token} {s : State} (flat : t.IsFlat)
    (fits : StackFits stack) (room : stack.length ≤ maxDepth) (h : State.begin stack t = some s) :
    s.Fits := by
  cases t with
  | scalar v =>
    obtain rfl := Option.some.inj h
    have flat : v.depth = 0 := flat
    exact ⟨by omega, fits⟩
  | openArray =>
    obtain ⟨more, rfl⟩ : stack.length < maxDepth ∧ State.firstItem stack = s := by
      simpa [State.begin] using h
    exact ⟨more, fun _ h => absurd h List.not_mem_nil, fits⟩
  | openObject =>
    obtain ⟨more, rfl⟩ : stack.length < maxDepth ∧ State.name true [] stack = s := by
      simpa [State.begin] using h
    exact ⟨more, fun _ h => absurd h List.not_mem_nil, fits⟩
  | closeArray | closeObject | colon | comma => exact absurd h (by simp [State.begin])

/-- **One token leads from what fits to what fits.** -/
theorem fits_step {s s' : State} {t : Token} (flat : t.IsFlat) (fits : s.Fits)
    (h : s.step t = some s') : s'.Fits := by
  unfold step at h
  split at h
  case h_1 stack t => exact fits_begin flat fits (length_le_of_stackFits fits) h
  case h_2 stack =>
    obtain rfl := Option.some.inj h
    exact fits_closedArray fits
  case h_3 stack t _ => exact fits_begin flat fits fits.1 h
  case h_4 members stack =>
    obtain rfl := Option.some.inj h
    exact fits_closedObject fits
  case h_5 members stack k =>
    obtain rfl := Option.some.inj h
    exact fits
  case h_6 members k stack =>
    obtain rfl := Option.some.inj h
    exact fits
  case h_7 v items stack =>
    obtain rfl := Option.some.inj h
    exact fits.item
  case h_8 v items stack =>
    obtain rfl := Option.some.inj h
    exact fits_closedArray fits.item
  case h_9 v members k stack =>
    obtain rfl := Option.some.inj h
    exact fits.member ""
  case h_10 v members k stack =>
    obtain rfl := Option.some.inj h
    exact fits_closedObject (fits.member k)
  case h_11 => exact absurd h (by simp)

theorem fits_run {s s' : State} {ts : List Token} (flat : ∀ t ∈ ts, t.IsFlat) (fits : s.Fits)
    (h : s.run ts = some s') : s'.Fits := by
  induction ts generalizing s with
  | nil =>
    obtain rfl : s = s' := by simpa [run] using h
    exact fits
  | cons t ts ih =>
    obtain ⟨first, others⟩ := List.forall_mem_cons.mp flat
    obtain ⟨s₁, step, rest⟩ : ∃ s₁, s.step t = some s₁ ∧ s₁.run ts = some s' := by
      simpa [run, Option.bind_eq_some_iff] using h
    exact ih others (fits_step first fits step) rest

end State

/-- **No document that is read nests deeper than containers may.** -/
theorem depth_le_of_parse {s : List Char} {v : Json} (h : parse s = some v) :
    v.depth ≤ maxDepth := by
  obtain ⟨ts, tokens, h⟩ := Option.bind_eq_some_iff.mp h
  obtain ⟨s', run, result⟩ := Option.bind_eq_some_iff.mp h
  have start : (State.value []).Fits := trivial
  have fits := State.fits_run (isFlat_of_lex tokens) start run
  unfold State.result? at result
  split at result
  · next w =>
    obtain rfl := Option.some.inj result
    exact fits.1
  · exact absurd result (by simp)

end PointExchange.Json
