import PointExchange.Json.Embedded

/-!
# Inside JSON values

`Json.parts` lists a value and all values inside it, and `Json.depth` says how deep its containers
nest. What is said of a value as a whole is said with these two: `IsExact`, that no double is
inside; `IsPlain`, that nothing inside stands for a document (`Json.isEmbedded`).

A plain value is its own expansion. `Json.canonical` leaves its own results as they are, since
sorting does nothing to members that are sorted and single, and it nests no deeper than the value
that it is given. All of this goes by `Json.induct`, from the values in a container to the
container.
-/

namespace PointExchange.Json

/-- Induction over a value: a container from the values that it holds. -/
@[elab_as_elim]
theorem induct {motive : Json → Prop} (null : motive .null) (bool : ∀ b, motive (.bool b))
    (number : ∀ n, motive (.number n)) (string : ∀ s, motive (.string s))
    (array : ∀ items, (∀ v ∈ items, motive v) → motive (.array items))
    (object : ∀ members, (∀ m ∈ members, motive m.2) → motive (.object members))
    (v : Json) : motive v := by
  refine @Json.rec motive (fun items => ∀ v ∈ items, motive v)
    (fun members => ∀ m ∈ members, motive m.2) (fun m => motive m.2)
    null bool number string array object ?_ ?_ ?_ ?_ ?_ v
  · exact fun _ h => absurd h List.not_mem_nil
  · exact fun _ _ hv hr => List.forall_mem_cons.mpr ⟨hv, hr⟩
  · exact fun _ h => absurd h List.not_mem_nil
  · exact fun _ _ hm hr => List.forall_mem_cons.mpr ⟨hm, hr⟩
  · exact fun _ _ hv => hv

/-! ## Parts -/

mutual

/-- The value and all values inside it. -/
def parts : Json → List Json
  | .array items => .array items :: partsOfItems items
  | .object members => .object members :: partsOfMembers members
  | v => [v]

def partsOfItems : List Json → List Json
  | [] => []
  | v :: r => parts v ++ partsOfItems r

def partsOfMembers : List (String × Json) → List Json
  | [] => []
  | (_, v) :: r => parts v ++ partsOfMembers r

end

theorem mem_partsOfItems {w : Json} {items : List Json} :
    w ∈ partsOfItems items ↔ ∃ v ∈ items, w ∈ v.parts := by
  induction items with
  | nil => simp [partsOfItems]
  | cons v r ih => simp [partsOfItems, ih]

theorem mem_partsOfMembers {w : Json} {members : List (String × Json)} :
    w ∈ partsOfMembers members ↔ ∃ m ∈ members, w ∈ m.2.parts := by
  induction members with
  | nil => simp [partsOfMembers]
  | cons m r ih =>
    simp [partsOfMembers, ih]

section Forall

variable {p : Json → Prop}

/-- What holds of all parts of an array. -/
theorem forall_parts_array {items : List Json} :
    (∀ w ∈ (array items).parts, p w) ↔ p (.array items) ∧ ∀ v ∈ items, ∀ w ∈ v.parts, p w := by
  simp only [parts, List.forall_mem_cons, mem_partsOfItems]
  exact and_congr_right fun _ =>
    ⟨fun h v hv w hw => h w ⟨v, hv, hw⟩, fun h w ⟨v, hv, hw⟩ => h v hv w hw⟩

/-- What holds of all parts of an object. -/
theorem forall_parts_object {members : List (String × Json)} :
    (∀ w ∈ (object members).parts, p w) ↔
      p (.object members) ∧ ∀ m ∈ members, ∀ w ∈ m.2.parts, p w := by
  simp only [parts, List.forall_mem_cons, mem_partsOfMembers]
  exact and_congr_right fun _ =>
    ⟨fun h m hm w hw => h w ⟨m, hm, hw⟩, fun h w ⟨m, hm, hw⟩ => h m hm w hw⟩

end Forall

def isDouble : Json → Bool
  | .number (.double _) => true
  | _ => false

/-- The value is an object that stands for a document. -/
def standsForDocument : Json → Bool
  | .object members => isEmbedded members
  | _ => false

/-- No number inside is a double. -/
def IsExact (v : Json) : Prop := ∀ w ∈ v.parts, w.isDouble = false

/-- Nothing inside stands for a document. -/
def IsPlain (v : Json) : Prop := ∀ w ∈ v.parts, w.standsForDocument = false

instance (v : Json) : Decidable v.IsExact := inferInstanceAs (Decidable (∀ w ∈ v.parts, _))

instance (v : Json) : Decidable v.IsPlain := inferInstanceAs (Decidable (∀ w ∈ v.parts, _))

@[simp] theorem isExact_string (s : String) : (string s).IsExact := by
  simp [IsExact, parts, isDouble]

@[simp] theorem isExact_natural (n : UInt64) : (number (.natural n)).IsExact := by
  simp [IsExact, parts, isDouble]

theorem isExact_array {items : List Json} : (array items).IsExact ↔ ∀ v ∈ items, v.IsExact := by
  simp [IsExact, forall_parts_array, isDouble]

theorem isExact_object {members : List (String × Json)} :
    (object members).IsExact ↔ ∀ m ∈ members, m.2.IsExact := by
  simp only [IsExact, forall_parts_object, isDouble, true_and]

theorem isPlain_array {items : List Json} : (array items).IsPlain ↔ ∀ v ∈ items, v.IsPlain := by
  simp [IsPlain, forall_parts_array, standsForDocument]

theorem isPlain_object {members : List (String × Json)} :
    (object members).IsPlain ↔ isEmbedded members = false ∧ ∀ m ∈ members, m.2.IsPlain := by
  simp only [IsPlain, forall_parts_object, standsForDocument]

/-! ## Depth -/

mutual

/-- How deep the containers of a value nest; a scalar has depth 0. -/
def depth : Json → Nat
  | .array items => depthOfItems items + 1
  | .object members => depthOfMembers members + 1
  | _ => 0

def depthOfItems : List Json → Nat
  | [] => 0
  | v :: r => max (depth v) (depthOfItems r)

def depthOfMembers : List (String × Json) → Nat
  | [] => 0
  | (_, v) :: r => max (depth v) (depthOfMembers r)

end

theorem depth_array_le {n : Nat} {items : List Json} :
    (array items).depth ≤ n + 1 ↔ ∀ v ∈ items, v.depth ≤ n := by
  rw [depth, Nat.add_le_add_iff_right]
  induction items with
  | nil => simp [depthOfItems]
  | cons v r ih => rw [depthOfItems, Nat.max_le, ih, List.forall_mem_cons]

theorem depth_object_le {n : Nat} {members : List (String × Json)} :
    (object members).depth ≤ n + 1 ↔ ∀ m ∈ members, m.2.depth ≤ n := by
  rw [depth, Nat.add_le_add_iff_right]
  induction members with
  | nil => simp [depthOfMembers]
  | cons m r ih => rw [depthOfMembers, Nat.max_le, ih, List.forall_mem_cons]

/-! ## Children -/

/-- The values that a container holds. -/
def children : Json → List Json
  | .array items => items
  | .object members => members.map Prod.snd
  | _ => []

theorem mem_children_of_valuesOf {name : String} {members : List (String × Json)} {v : Json}
    (h : v ∈ valuesOf name members) : v ∈ (object members).children := by
  obtain ⟨m, hm, rfl⟩ := List.mem_map.mp h
  exact List.mem_map_of_mem (List.mem_filter.mp hm).1

section Children

variable {v w : Json} (h : w ∈ v.children)

include h

theorem depth_lt_of_mem_children : w.depth < v.depth := by
  cases v with
  | array items =>
    have := depth_array_le.mp (Nat.le_refl _) w h
    exact Nat.lt_succ_of_le this
  | object members =>
    obtain ⟨m, hm, rfl⟩ := List.mem_map.mp h
    have := depth_object_le.mp (Nat.le_refl _) m hm
    exact Nat.lt_succ_of_le this
  | null | bool | number | string => exact absurd h List.not_mem_nil

theorem IsPlain.of_mem_children (plain : v.IsPlain) : w.IsPlain := by
  cases v with
  | array items => exact isPlain_array.mp plain w h
  | object members =>
    obtain ⟨m, hm, rfl⟩ := List.mem_map.mp h
    exact (isPlain_object.mp plain).2 m hm
  | null | bool | number | string => exact absurd h List.not_mem_nil

end Children

/-! ## Expansion -/

section Expansion

variable {read : String → Option Json}

theorem expandItemsWith_of_forall {items : List Json}
    (h : ∀ v ∈ items, expandWith read v = some v) : expandItemsWith read items = some items := by
  induction items with
  | nil => rfl
  | cons v r ih =>
    obtain ⟨hv, hr⟩ := List.forall_mem_cons.mp h
    simp [expandItemsWith, hv, ih hr]

theorem expandMembersWith_of_forall {members : List (String × Json)}
    (h : ∀ m ∈ members, expandWith read m.2 = some m.2) :
    expandMembersWith read members = some members := by
  induction members with
  | nil => rfl
  | cons m r ih =>
    obtain ⟨hm, hr⟩ := List.forall_mem_cons.mp h
    simp [expandMembersWith, hm, ih hr]

/-- **A plain value has no documents to put into their places.** -/
theorem expandWith_of_isPlain (v : Json) (plain : v.IsPlain) : expandWith read v = some v := by
  induction v using induct with
  | null | bool | number | string => simp [expandWith]
  | array items ih =>
    have plain := isPlain_array.mp plain
    simp [expandWith, expandItemsWith_of_forall fun v hv => ih v hv (plain v hv)]
  | object members ih =>
    obtain ⟨own, plain⟩ := isPlain_object.mp plain
    simp [expandWith, own, expandMembersWith_of_forall fun m hm => ih m hm (plain m hm)]

end Expansion

theorem expand?_of_isPlain {v : Json} (plain : v.IsPlain) : v.expand? = some v := by
  rw [expand?]
  cases (print v).length <;> exact expandWith_of_isPlain v plain

/-! ## Sorted members -/

/-- The members are sorted by name and no name is there twice. -/
def IsSorted (members : List (String × Json)) : Prop :=
  members.Pairwise fun m n => m.1 < n.1

theorem mem_insertMember {k : String} {v : Json} {members : List (String × Json)}
    {m : String × Json} (h : m ∈ insertMember k v members) : m = (k, v) ∨ m ∈ members := by
  fun_induction insertMember k v members with
  | case1 => simpa using h
  | case2 l w r _ => simpa using h
  | case3 w r _ =>
    obtain rfl | h := List.mem_cons.mp h
    · exact .inl rfl
    · exact .inr (List.mem_cons_of_mem _ h)
  | case4 l w r _ _ ih =>
    obtain rfl | h := List.mem_cons.mp h
    · exact .inr List.mem_cons_self
    · exact (ih h).imp_right (List.mem_cons_of_mem _)

/-- Sorting makes no members up. -/
theorem mem_sortMembers {members : List (String × Json)} {m : String × Json}
    (h : m ∈ sortMembers members) : m ∈ members := by
  suffices ∀ sorted, m ∈ members.foldl (fun sorted m => insertMember m.1 m.2 sorted) sorted →
      m ∈ sorted ∨ m ∈ members from (this [] h).resolve_left List.not_mem_nil
  clear h
  induction members with
  | nil => exact fun sorted h => .inl h
  | cons n r ih =>
    intro sorted h
    rcases ih _ h with h | h
    · rcases mem_insertMember h with rfl | h
      · exact .inr List.mem_cons_self
      · exact .inl h
    · exact .inr (List.mem_cons_of_mem _ h)

theorem isSorted_insertMember {k : String} {v : Json} {members : List (String × Json)}
    (h : IsSorted members) : IsSorted (insertMember k v members) := by
  fun_induction insertMember k v members with
  | case1 => exact List.pairwise_singleton _ _
  | case2 l w r hkl =>
    refine List.pairwise_cons.mpr ⟨?_, h⟩
    intro m hm
    obtain rfl | hm := List.mem_cons.mp hm
    · exact hkl
    · exact String.lt_trans hkl ((List.pairwise_cons.mp h).1 m hm)
  | case3 w r _ => exact List.pairwise_cons.mpr (List.pairwise_cons.mp h)
  | case4 l w r hlt hne ih =>
    obtain ⟨hl, hr⟩ := List.pairwise_cons.mp h
    refine List.pairwise_cons.mpr ⟨?_, ih hr⟩
    intro m hm
    obtain rfl | hm := mem_insertMember hm
    · show l < k
      refine Decidable.byContradiction fun hge => hne ?_
      exact String.le_antisymm (String.not_lt.mp hge) (String.not_lt.mp hlt)
    · exact hl m hm

theorem isSorted_sortMembers (members : List (String × Json)) :
    IsSorted (sortMembers members) := by
  suffices ∀ sorted, IsSorted sorted →
      IsSorted (members.foldl (fun sorted m => insertMember m.1 m.2 sorted) sorted) from
    this [] List.Pairwise.nil
  induction members with
  | nil => exact fun _ h => h
  | cons m r ih => exact fun _ h => ih _ (isSorted_insertMember h)

/-- A name behind all others goes to the end. -/
theorem insertMember_of_gt {k : String} {v : Json} {members : List (String × Json)}
    (h : ∀ m ∈ members, m.1 < k) : insertMember k v members = members ++ [(k, v)] := by
  induction members with
  | nil => rfl
  | cons m r ih =>
    obtain ⟨hm, hr⟩ := List.forall_mem_cons.mp h
    have hne : k ≠ m.1 := by
      intro h
      subst h
      exact String.lt_irrefl _ hm
    rw [insertMember, if_neg (String.lt_asymm hm), if_neg hne, ih hr, List.cons_append]

/-- **Sorting leaves sorted members as they are.** -/
theorem sortMembers_of_isSorted {members : List (String × Json)} (h : IsSorted members) :
    sortMembers members = members := by
  suffices ∀ sorted, IsSorted (sorted ++ members) →
      members.foldl (fun sorted m => insertMember m.1 m.2 sorted) sorted = sorted ++ members from
    this [] h
  clear h
  induction members with
  | nil => simp
  | cons m r ih =>
    intro sorted h
    have last : ∀ n ∈ sorted, n.1 < m.1 := fun n hn =>
      (List.pairwise_append.mp h).2.2 n hn m List.mem_cons_self
    rw [List.foldl_cons, insertMember_of_gt last, ih _ (by simpa using h)]
    simp

/-! ## The canonical form -/

theorem canonicalItems_eq_map (items : List Json) : canonicalItems items = items.map canonical := by
  induction items with
  | nil => rfl
  | cons v r ih => rw [canonicalItems, ih, List.map_cons]

theorem canonicalMembers_eq_map (members : List (String × Json)) :
    canonicalMembers members = members.map fun m => (m.1, m.2.canonical) := by
  induction members with
  | nil => rfl
  | cons m r ih => rw [canonicalMembers, ih, List.map_cons]

/-- A member of a canonical object is the canonical form of a member that was given. -/
theorem mem_canonical {members : List (String × Json)} {m : String × Json}
    (h : m ∈ sortMembers (canonicalMembers members)) :
    ∃ n ∈ members, m = (n.1, n.2.canonical) := by
  have h := mem_sortMembers h
  rw [canonicalMembers_eq_map] at h
  obtain ⟨n, hn, rfl⟩ := List.mem_map.mp h
  exact ⟨n, hn, rfl⟩

/-- **The canonical form is canonical.** -/
theorem canonical_canonical (v : Json) : v.canonical.canonical = v.canonical := by
  induction v using induct with
  | null | bool | number | string => simp [canonical]
  | array items ih =>
    simp only [canonical, canonicalItems_eq_map, List.map_map, array.injEq]
    exact List.map_congr_left ih
  | object members ih =>
    have same : canonicalMembers (sortMembers (canonicalMembers members)) =
        sortMembers (canonicalMembers members) := by
      rw [canonicalMembers_eq_map (sortMembers _)]
      refine (List.map_congr_left fun m hm => ?_).trans (List.map_id _)
      obtain ⟨n, hn, rfl⟩ := mem_canonical hm
      rw [ih n hn, id]
    rw [canonical, canonical, same, sortMembers_of_isSorted (isSorted_sortMembers _)]

/-- The canonical form nests no deeper. -/
theorem depth_canonical_le (v : Json) : v.canonical.depth ≤ v.depth := by
  induction v using induct with
  | null | bool | number | string => simp [canonical]
  | array items ih =>
    rw [canonical, canonicalItems_eq_map]
    refine depth_array_le.mpr fun w hw => ?_
    obtain ⟨v, hv, rfl⟩ := List.mem_map.mp hw
    exact Nat.le_trans (ih v hv) (depth_array_le.mp (Nat.le_refl _) v hv)
  | object members ih =>
    rw [canonical]
    refine depth_object_le.mpr fun m hm => ?_
    obtain ⟨n, hn, rfl⟩ := mem_canonical hm
    exact Nat.le_trans (ih n hn) (depth_object_le.mp (Nat.le_refl _) n hn)

end PointExchange.Json
