import Mathlib.Data.List.Induction
import PointExchange.Proofs.Integrity

/-!
# What a commit comes to

A commit goes through its batch entry by entry and reads statuses that it has just changed itself.
What it comes to can still be told from the ledger before it: an entry is due if its record is
pending and no earlier entry has its identifier (`MemoryLedger.isDue`). The entries that are due are
linked in the order of the batch, each by a row of its own at the end of the links, and all others
are skipped (`MemoryLedger.commit_settles`).
-/

namespace PointExchange
namespace MemoryLedger

variable {l l' : MemoryLedger} {hash : Hash} {id : Uuid} {dir : Direction}
  {accepted : List (Uuid × Direction)} {done : BatchCommit}

/-! ## The entries that are due -/

/-- The entry at a place of a batch is due: its record is pending, and no earlier entry has its
identifier. -/
def isDue (l : MemoryLedger) (accepted : List (Uuid × Direction))
    (place : (Uuid × Direction) × Nat) : Bool :=
  (l.pending? place.1.1).isSome && decide (place.1.1 ∉ (accepted.take place.2).map Prod.fst)

/-- The entries of a batch that are due, in their order. -/
def due (l : MemoryLedger) (accepted : List (Uuid × Direction)) : List (Uuid × Direction) :=
  (accepted.zipIdx.filter (l.isDue accepted)).map Prod.fst

/-- The entries of a batch that are not due, in their order. -/
def notDue (l : MemoryLedger) (accepted : List (Uuid × Direction)) : List (Uuid × Direction) :=
  (accepted.zipIdx.filter fun place => !l.isDue accepted place).map Prod.fst

/-- Whether an entry is due does not depend on the entries after it. -/
theorem isDue_append {place : (Uuid × Direction) × Nat} (h : place ∈ accepted.zipIdx)
    (more : List (Uuid × Direction)) :
    l.isDue (accepted ++ more) place = l.isDue accepted place := by
  have hlt : place.2 < accepted.length := List.snd_lt_of_mem_zipIdx h
  rw [isDue, isDue, List.take_append_of_le_length (Nat.le_of_lt hlt)]

theorem isDue_last (entry : Uuid × Direction) :
    l.isDue (accepted ++ [entry]) (entry, accepted.length) =
      ((l.pending? entry.1).isSome && decide (entry.1 ∉ accepted.map Prod.fst)) := by
  rw [isDue, List.take_left]

/-- One more entry is due or not, and those before it stay what they are. -/
theorem due_append (l : MemoryLedger) (accepted : List (Uuid × Direction))
    (entry : Uuid × Direction) :
    l.due (accepted ++ [entry]) = l.due accepted ++
        (if l.isDue (accepted ++ [entry]) (entry, accepted.length) then [entry] else []) ∧
      l.notDue (accepted ++ [entry]) = l.notDue accepted ++
        (if l.isDue (accepted ++ [entry]) (entry, accepted.length) then [] else [entry]) := by
  have hz : (accepted ++ [entry]).zipIdx = accepted.zipIdx ++ [(entry, accepted.length)] := by
    rw [List.zipIdx_append, Nat.zero_add]
    rfl
  have hd : accepted.zipIdx.filter (l.isDue (accepted ++ [entry])) =
      accepted.zipIdx.filter (l.isDue accepted) :=
    List.filter_congr fun place hp => isDue_append hp _
  have hn : accepted.zipIdx.filter (fun place => !l.isDue (accepted ++ [entry]) place) =
      accepted.zipIdx.filter fun place => !l.isDue accepted place :=
    List.filter_congr fun place hp => by rw [isDue_append hp]
  rw [due, notDue, hz, List.filter_append, List.filter_append, hd, hn, List.map_append,
    List.map_append]
  by_cases h : l.isDue (accepted ++ [entry]) (entry, accepted.length)
  · simp [h, due, notDue]
  · simp [h, due, notDue]

/-- Every entry is due or not. -/
theorem length_due_add_length_notDue (l : MemoryLedger) (accepted : List (Uuid × Direction)) :
    (l.due accepted).length + (l.notDue accepted).length = accepted.length := by
  rw [due, notDue, List.length_map, List.length_map, ← List.countP_eq_length_filter,
    ← List.countP_eq_length_filter]
  have h := List.length_eq_countP_add_countP (l.isDue accepted) (l := accepted.zipIdx)
  rw [List.length_zipIdx] at h
  simpa using h.symm

theorem mem_accepted_of_mem_due (h : id ∈ (l.due accepted).map Prod.fst) :
    id ∈ accepted.map Prod.fst := by
  obtain ⟨entry, he, rfl⟩ := List.mem_map.mp h
  obtain ⟨place, hp, rfl⟩ := List.mem_map.mp he
  exact List.mem_map_of_mem (List.fst_mem_of_mem_zipIdx (List.mem_filter.mp hp).1)

/-! ## One entry -/

/-- Giving a link to a record changes its status and the field of the direction. -/
theorem linkRecord_eq (r : ExchangeRecord) (dir : Direction) (i : Int32) :
    linkRecord r dir i =
      { r with
        status := .completed
        mint := if dir = .pointToToken then some i else r.mint
        burn := if dir = .tokenToPoint then some i else r.burn } := by
  cases dir <;> rfl

theorem commitEntry_of_pending {r : ExchangeRecord} (h : l.pending? id = some r) :
    commitEntry hash (l, done) (id, dir) =
      (l.linking hash dir r, { done with linked := done.linked ++ [(id, l.nextLink)] }) := by
  simp [commitEntry, h, linking]

theorem commitEntry_of_not_pending (h : l.pending? id = none) :
    commitEntry hash (l, done) (id, dir) = (l, { done with skipped := done.skipped ++ [id] }) := by
  simp [commitEntry, h]

theorem commitAll_append (l : MemoryLedger) (hash : Hash) (accepted : List (Uuid × Direction))
    (entry : Uuid × Direction) (done : BatchCommit) :
    l.commitAll hash (accepted ++ [entry]) done =
      commitEntry hash (l.commitAll hash accepted done) entry := by
  rw [commitAll, List.foldl_append]
  rfl

/-- After the entries of a batch, no record of the batch is pending, and all others are what they
were. -/
theorem pending?_commitAll (l : MemoryLedger) (hash : Hash) (accepted : List (Uuid × Direction))
    (done : BatchCommit) (id : Uuid) :
    (l.commitAll hash accepted done).1.pending? id =
      if id ∈ accepted.map Prod.fst then none else l.pending? id := by
  by_cases hm : id ∈ accepted.map Prod.fst
  · rw [if_pos hm]
    cases hp : l.pending? id with
    | none => rw [pending?, find?_commitAll hash accepted l done (.inr hp), ← pending?, hp]
    | some r =>
      have hl := linkedTo_commitAll hash accepted l done hp hm
      exact hl.completed.pending?_eq_none (by decide)
  · rw [if_neg hm, pending?, find?_commitAll hash accepted l done (.inl hm), ← pending?]

/-! ## The whole batch -/

/-- An entry is linked, as the `n`-th one of a batch from zero. -/
structure EntryLinked (l l' : MemoryLedger) (hash : Hash) (done : BatchCommit) (n : Nat)
    (id : Uuid) (dir : Direction) (r : ExchangeRecord) (i : Int32) : Prop where
  pending : l.pending? id = some r
  /-- link numbers go on from those in the ledger -/
  number : i.toInt = l.links.length + n + 1
  /-- the new row has the amount of tokens if points become tokens, else the amount of points -/
  row : l'.links[l.links.length + n]? =
    some ⟨i, dir, hash, if dir = .pointToToken then r.amountToken else r.amountPoint⟩
  report : done.linked[n]? = some (id, i)
  /-- the record is completed, and the field of the direction alone has the link -/
  record : l'.find? id = some
    { r with
      status := .completed
      mint := if dir = .pointToToken then some i else r.mint
      burn := if dir = .tokenToPoint then some i else r.burn }

/-- The second ledger is the first one after a commit, which has given a report. -/
structure Settles (l l' : MemoryLedger) (hash : Hash) (accepted : List (Uuid × Direction))
    (done : BatchCommit) : Prop where
  linked : done.linked.map Prod.fst = (l.due accepted).map Prod.fst
  skipped : done.skipped = (l.notDue accepted).map Prod.fst
  sizes : done.linked.length + done.skipped.length = accepted.length
  /-- there is one new row for each entry that is due, after the old ones -/
  rows : l.links <+: l'.links ∧ l'.links.length = l.links.length + (l.due accepted).length
  each : ∀ (n : Nat) (id : Uuid) (dir : Direction), (l.due accepted)[n]? = some (id, dir) →
    ∃ r i, l.EntryLinked l' hash done n id dir r i
  /-- the records of no entry that is due are left alone -/
  others : ∀ id, id ∉ (l.due accepted).map Prod.fst → l'.find? id = l.find? id
  ids : l'.records.map ExchangeRecord.id = l.records.map ExchangeRecord.id

theorem Settles.nil (l : MemoryLedger) (hash : Hash) : l.Settles l hash [] ⟨[], []⟩ where
  linked := rfl
  skipped := rfl
  sizes := rfl
  rows := ⟨List.prefix_refl _, rfl⟩
  each n id dir h := by simp [due] at h
  others _ _ := rfl
  ids := rfl

/-- An entry that is not due is skipped. -/
theorem Settles.skip (h : l.Settles l' hash accepted done)
    (hn : l.isDue (accepted ++ [(id, dir)]) ((id, dir), accepted.length) = false) :
    l.Settles l' hash (accepted ++ [(id, dir)])
      { done with skipped := done.skipped ++ [id] } := by
  obtain ⟨hd, hnd⟩ := l.due_append accepted (id, dir)
  rw [hn, if_neg Bool.false_ne_true, List.append_nil] at hd
  rw [hn, if_neg Bool.false_ne_true] at hnd
  constructor
  · rw [hd]
    exact h.linked
  · rw [hnd, List.map_append, ← h.skipped]
    rfl
  · rw [List.length_append, List.length_append, ← h.sizes]
    exact (Nat.add_assoc _ _ _).symm
  · rw [hd]
    exact h.rows
  · rw [hd]
    intro n i d he
    obtain ⟨r, k, hr⟩ := h.each n i d he
    exact ⟨r, k, hr.pending, hr.number, hr.row, hr.report, hr.record⟩
  · rw [hd]
    exact h.others
  · exact h.ids

/-- What is linked stays linked when another record is linked after it. -/
theorem EntryLinked.linking {n : Nat} {id' : Uuid} {dir' : Direction} {r r' : ExchangeRecord}
    {i i' : Int32} (h : l.EntryLinked l' hash done n id dir r i) (hf : l'.find? id' = some r')
    (hne : id ≠ id') :
    l.EntryLinked (l'.linking hash dir' r') hash
      { done with linked := done.linked ++ [(id', i')] } n id dir r i where
  pending := h.pending
  number := h.number
  row := by
    have hlt := (List.getElem?_eq_some_iff.mp h.row).1
    exact (List.getElem?_append_left hlt).trans h.row
  report := by
    have hlt := (List.getElem?_eq_some_iff.mp h.report).1
    exact (List.getElem?_append_left hlt).trans h.report
  record := (find?_linking_ne hf hne).trans h.record

/-- The entry that is linked after all the others has the next link. -/
theorem Settles.entryLinked_last (h : l.Settles l' hash accepted done)
    (room : l.links.length + (accepted ++ [(id, dir)]).length < 2 ^ 31) {r : ExchangeRecord}
    (hp : l.pending? id = some r) (hp' : l'.pending? id = some r) :
    l.EntryLinked (l'.linking hash dir r) hash
      { done with linked := done.linked ++ [(id, l'.nextLink)] } (l.due accepted).length id dir r
      l'.nextLink where
  pending := hp
  number := by
    have hle := l.length_due_add_length_notDue accepted
    rw [List.length_append, List.length_singleton] at room
    rw [toInt_nextLink (by rw [h.rows.2]; omega), h.rows.2, Int.natCast_add]
  row := by
    rw [← h.rows.2, ← r.linkAmount_eq]
    exact List.getElem?_concat_length
  report := by
    have hlen : (l.due accepted).length = done.linked.length := by
      simpa using (congrArg List.length h.linked).symm
    rw [hlen]
    exact List.getElem?_concat_length
  record := by rw [find?_linking_self (pending?_eq_some.mp hp').1, linkRecord_eq]

/-- An entry that is due is linked, at the end of all that is linked before. -/
theorem Settles.link (h : l.Settles l' hash accepted done)
    (room : l.links.length + (accepted ++ [(id, dir)]).length < 2 ^ 31) {r : ExchangeRecord}
    (hp : l.pending? id = some r) (hp' : l'.pending? id = some r)
    (hm : id ∉ accepted.map Prod.fst) :
    l.Settles (l'.linking hash dir r) hash (accepted ++ [(id, dir)])
      { done with linked := done.linked ++ [(id, l'.nextLink)] } := by
  have hdue : l.isDue (accepted ++ [(id, dir)]) ((id, dir), accepted.length) = true := by
    rw [isDue_last, hp, decide_eq_true hm]
    rfl
  obtain ⟨hd, hnd⟩ := l.due_append accepted (id, dir)
  rw [hdue, if_pos rfl] at hd
  rw [hdue, if_pos rfl, List.append_nil] at hnd
  have hf := (pending?_eq_some.mp hp').1
  constructor
  · rw [hd, List.map_append, List.map_append, h.linked]
    rfl
  · rw [hnd]
    exact h.skipped
  · show (done.linked ++ [(id, l'.nextLink)]).length + done.skipped.length = _
    rw [List.length_append, List.length_append, ← h.sizes]
    exact Nat.add_right_comm _ _ _
  · refine ⟨h.rows.1.trans (List.prefix_append _ _), ?_⟩
    show (l'.links ++ [_]).length = _
    rw [hd, List.length_append, List.length_append, h.rows.2]
    rfl
  · rw [hd]
    intro n i d he
    by_cases hn : n < (l.due accepted).length
    · rw [List.getElem?_append_left hn] at he
      obtain ⟨q, k, hq⟩ := h.each n i d he
      refine ⟨q, k, hq.linking hf ?_⟩
      rintro rfl
      exact hm (mem_accepted_of_mem_due (List.mem_map_of_mem (List.mem_of_getElem? he)))
    · have hlast : n = (l.due accepted).length := by
        have hlt := (List.getElem?_eq_some_iff.mp he).1
        rw [List.length_append, List.length_singleton] at hlt
        omega
      rw [hlast, List.getElem?_concat_length] at he
      obtain ⟨rfl, rfl⟩ := Prod.mk.inj (Option.some.inj he)
      exact ⟨r, l'.nextLink, hlast ▸ h.entryLinked_last room hp hp'⟩
  · rw [hd, List.map_append, List.map_singleton]
    intro i hi
    rw [List.mem_append, not_or, List.mem_singleton] at hi
    rw [find?_linking_ne hf hi.2]
    exact h.others i hi.1
  · rw [MemoryLedger.linking, ids_replace]
    exact h.ids

/-- **The entries of a batch are settled one after another.** The induction takes the last entry
apart, since what is due among the first entries does not depend on it. -/
theorem settles_commitAll (l : MemoryLedger) (hash : Hash) (accepted : List (Uuid × Direction))
    (room : l.links.length + accepted.length < 2 ^ 31) :
    l.Settles (l.commitAll hash accepted ⟨[], []⟩).1 hash accepted
      (l.commitAll hash accepted ⟨[], []⟩).2 := by
  induction accepted using List.reverseRecOn with
  | nil => exact .nil l hash
  | append_singleton accepted entry ih =>
    obtain ⟨id, dir⟩ := entry
    have hroom : l.links.length + accepted.length < 2 ^ 31 := by
      rw [List.length_append, List.length_singleton] at room
      omega
    have h := ih hroom
    have hp := l.pending?_commitAll hash accepted ⟨[], []⟩ id
    rw [commitAll_append]
    cases hp' : (l.commitAll hash accepted ⟨[], []⟩).1.pending? id with
    | none =>
      rw [commitEntry_of_not_pending hp']
      refine h.skip ?_
      rw [isDue_last]
      by_cases hm : id ∈ accepted.map Prod.fst
      · simp [hm]
      · rw [hp', if_neg hm] at hp
        simp [← hp]
    | some r =>
      rw [commitEntry_of_pending hp']
      rw [hp'] at hp
      by_cases hm : id ∈ accepted.map Prod.fst
      · rw [if_pos hm] at hp
        simp at hp
      · rw [if_neg hm] at hp
        exact h.link room hp.symm hp' hm

/-- **A commit fails and leaves the ledger alone, or it settles every entry that is due, once, and
touches nothing else.** -/
theorem commit_settles (l : MemoryLedger) (hash : Hash) (accepted : List (Uuid × Direction))
    (room : l.links.length + accepted.length < 2 ^ 31) :
    (l.failsCommit = true ∧ ∃ e, l.commit hash accepted = (.error e, l)) ∨
    (l.failsCommit = false ∧ ∃ done l', l.commit hash accepted = (.ok done, l') ∧
      l'.failsCommit = false ∧ l.Settles l' hash accepted done) := by
  by_cases h : l.failsCommit = true
  · exact .inl ⟨h, _, if_pos h⟩
  · have hok : l.failsCommit = false := by simpa using h
    refine .inr ⟨hok, _, _, if_neg h, ?_, l.settles_commitAll hash accepted room⟩
    exact (frame_commitAll hash accepted l _).trans hok

/-- A ledger with a link, two pending records and a failed one. -/
def threeRecords : MemoryLedger where
  records := [⟨⟨1⟩, .pointToToken, 100, 90, .pending, none, none⟩,
    ⟨⟨2⟩, .tokenToPoint, 40, 50, .pending, none, none⟩,
    ⟨⟨3⟩, .tokenToPoint, 5, 5, .failed, none, none⟩]
  links := [⟨1, .tokenToPoint, 6, 70⟩]

/-- A batch in which one record is twice, in both directions, one has failed and one is unknown. -/
def mixedBatch : List (Uuid × Direction) :=
  [(⟨2⟩, .tokenToPoint), (⟨3⟩, .tokenToPoint), (⟨1⟩, .tokenToPoint), (⟨9⟩, .pointToToken),
    (⟨1⟩, .pointToToken)]

theorem commit_settles_mixedBatch :
    threeRecords.due mixedBatch = [(⟨2⟩, .tokenToPoint), (⟨1⟩, .tokenToPoint)] ∧
    threeRecords.notDue mixedBatch =
      [(⟨3⟩, .tokenToPoint), (⟨9⟩, .pointToToken), (⟨1⟩, .pointToToken)] ∧
    ((threeRecords.failsCommit = true ∧ ∃ e, threeRecords.commit 7 mixedBatch =
        (.error e, threeRecords)) ∨
      (threeRecords.failsCommit = false ∧ ∃ done l',
        threeRecords.commit 7 mixedBatch = (.ok done, l') ∧ l'.failsCommit = false ∧
          threeRecords.Settles l' 7 mixedBatch done)) :=
  ⟨by decide, by decide, commit_settles threeRecords 7 mixedBatch (by decide)⟩

end MemoryLedger
end PointExchange
