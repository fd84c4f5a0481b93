import Mathlib.Algebra.Group.Nat.Defs
import Mathlib.Data.List.Nodup
import Mathlib.Logic.Relation
import PointExchange.Proofs.Ledger

/-!
# The two tables of the ledger agree

Records refer to links. Whatever is done to a ledger, every link is referred to by one record, in
the direction of the link and with its amount, and a record refers to one link at most, once it is
completed (`MemoryLedger.Integral`). A second link to a record would pay for it twice.

All operations come down to four changes (`MemoryLedger.Change`). Each of them keeps the tables in
agreement, as long as records have identifiers of their own and the numbers of links do not run
out, and so does a whole history (`ledger_agrees`).
-/

namespace PointExchange

/-! ## Operations -/

/-- An operation on a ledger in memory. -/
inductive LedgerOp
  /-- inserts a pending record -/
  | insert (id : Uuid) (direction : Direction) (amount : Word)
  /-- moves a pending record to a status -/
  | update (id : Uuid) (status : Status)
  | markFailed (id : Uuid)
  | commit (hash : Hash) (accepted : List (Uuid × Direction))
  /-- makes commits fail, or not any longer -/
  | failCommits (on : Bool)

namespace LedgerOp

/-- The ledger after an operation. -/
def apply (l : MemoryLedger) : LedgerOp → MemoryLedger
  | insert id direction amount => l.insertPending id direction amount
  | update id status => (l.updateStatus id status).2
  | markFailed id => (l.updateStatus id .failed).2
  | commit hash accepted => (l.commit hash accepted).2
  | failCommits on => { l with failsCommit := on }

/-- The identifier that an operation inserts. -/
def inserted? : LedgerOp → Option Uuid
  | insert id _ _ => some id
  | _ => none

/-- The ledger after a history that starts out empty. -/
def replay (ops : List LedgerOp) : MemoryLedger := ops.foldl apply {}

theorem replay_append (ops more : List LedgerOp) :
    replay (ops ++ more) = more.foldl apply (replay ops) := by
  rw [replay, List.foldl_append, replay]

end LedgerOp

/-! ## Agreement -/

/-- The record refers to a link, in one of its two fields. -/
def ExchangeRecord.RefersTo (r : ExchangeRecord) (i : Int32) : Prop :=
  r.mint = some i ∨ r.burn = some i

/-- The second record is the first one at a later time. -/
structure ExchangeRecord.Becomes (r r' : ExchangeRecord) : Prop where
  id : r'.id = r.id
  direction : r'.direction = r.direction
  amountPoint : r'.amountPoint = r.amountPoint
  amountToken : r'.amountToken = r.amountToken
  /-- a record that is no longer pending is final -/
  final : r.status ≠ .pending → r' = r

/-- The records and the links of a ledger agree. -/
structure MemoryLedger.Integral (l : MemoryLedger) : Prop where
  distinct : (l.records.map ExchangeRecord.id).Nodup
  /-- the links are numbered from one on -/
  numbered : ∀ (n : Nat) (h : n < l.links.length), l.links[n].id.toInt = n + 1
  /-- one record alone refers to a link, in the direction of the link; points that become tokens are
  linked with the record's amount of tokens, tokens that become points with its amount of points -/
  owned : ∀ row ∈ l.links, ∃ r ∈ l.records, r.link? row.direction = some row.id ∧
    row.amount = (if row.direction = .pointToToken then r.amountToken else r.amountPoint) ∧
    ∀ r' ∈ l.records, r'.RefersTo row.id → r' = r
  /-- what a record refers to is there -/
  known : ∀ r ∈ l.records, ∀ i, r.RefersTo i → ∃ row ∈ l.links, row.id = i
  single : ∀ r ∈ l.records, r.mint = none ∨ r.burn = none
  completed : ∀ r ∈ l.records, ∀ i, r.RefersTo i → r.status = .completed

/-- The second ledger is the first one at a later time: its records are there still, and so are its
links. -/
structure MemoryLedger.Becomes (l l' : MemoryLedger) : Prop where
  records : ∀ r ∈ l.records, ∃ r' ∈ l'.records, r.Becomes r'
  links : l.links <+: l'.links

namespace ExchangeRecord

theorem refersTo_of_link? {r : ExchangeRecord} {dir : Direction} {i : Int32}
    (h : r.link? dir = some i) : r.RefersTo i := by
  cases dir with
  | pointToToken => exact .inl h
  | tokenToPoint => exact .inr h

theorem fields_of_not_refersTo {r : ExchangeRecord} (h : ∀ i, ¬r.RefersTo i) :
    r.mint = none ∧ r.burn = none :=
  ⟨Option.eq_none_iff_forall_ne_some.mpr fun i hi => h i (.inl hi),
    Option.eq_none_iff_forall_ne_some.mpr fun i hi => h i (.inr hi)⟩

theorem Becomes.refl (r : ExchangeRecord) : r.Becomes r :=
  ⟨rfl, rfl, rfl, rfl, fun _ => rfl⟩

theorem Becomes.trans {r r' r'' : ExchangeRecord} (h : r.Becomes r') (h' : r'.Becomes r'') :
    r.Becomes r'' where
  id := h'.id.trans h.id
  direction := h'.direction.trans h.direction
  amountPoint := h'.amountPoint.trans h.amountPoint
  amountToken := h'.amountToken.trans h.amountToken
  final hs := by
    have hr := h.final hs
    rw [h'.final (hr ▸ hs), hr]

theorem Becomes.of_status {r : ExchangeRecord} (h : r.status = .pending) (status : Status) :
    r.Becomes { r with status := status } :=
  ⟨rfl, rfl, rfl, rfl, fun hs => absurd h hs⟩

theorem Becomes.of_link {r : ExchangeRecord} (h : r.status = .pending) (dir : Direction)
    (i : Int32) : r.Becomes (MemoryLedger.linkRecord r dir i) := by
  cases dir with
  | pointToToken => exact ⟨rfl, rfl, rfl, rfl, fun hs => absurd h hs⟩
  | tokenToPoint => exact ⟨rfl, rfl, rfl, rfl, fun hs => absurd h hs⟩

/-- A record that had no link refers to the one it is given, and to no other. -/
theorem refersTo_linkRecord_iff {r : ExchangeRecord} (h : ∀ i, ¬r.RefersTo i) (dir : Direction)
    (n i : Int32) : (MemoryLedger.linkRecord r dir n).RefersTo i ↔ i = n := by
  obtain ⟨hm, hb⟩ := fields_of_not_refersTo h
  cases dir with
  | pointToToken => simp [MemoryLedger.linkRecord, RefersTo, hb, eq_comm]
  | tokenToPoint => simp [MemoryLedger.linkRecord, RefersTo, hm, eq_comm]

theorem single_linkRecord {r : ExchangeRecord} (h : ∀ i, ¬r.RefersTo i) (dir : Direction)
    (n : Int32) :
    (MemoryLedger.linkRecord r dir n).mint = none ∨
      (MemoryLedger.linkRecord r dir n).burn = none := by
  cases dir with
  | pointToToken => exact .inr (fields_of_not_refersTo h).2
  | tokenToPoint => exact .inl (fields_of_not_refersTo h).1

theorem linkAmount_eq (r : ExchangeRecord) (dir : Direction) :
    r.linkAmount dir = if dir = .pointToToken then r.amountToken else r.amountPoint := by
  cases dir <;> rfl

/-- A link leaves both amounts of its record alone. -/
theorem amounts_linkRecord (r : ExchangeRecord) (dir : Direction) (n : Int32) :
    (MemoryLedger.linkRecord r dir n).amountToken = r.amountToken ∧
      (MemoryLedger.linkRecord r dir n).amountPoint = r.amountPoint := by
  cases dir <;> exact ⟨rfl, rfl⟩

end ExchangeRecord

namespace MemoryLedger

/-! ## The changes that operations come down to -/

/-- What an operation does to a ledger at a time. -/
inductive Change : MemoryLedger → MemoryLedger → Prop
  | inserted (l : MemoryLedger) (id : Uuid) (direction : Direction) (amount : Word) :
      Change l (l.insertPending id direction amount)
  | moved {l : MemoryLedger} {id : Uuid} {r : ExchangeRecord} (pending : l.pending? id = some r)
      (status : Status) : Change l (l.replace { r with status := status })
  | linked {l : MemoryLedger} {id : Uuid} {r : ExchangeRecord} (pending : l.pending? id = some r)
      (hash : Hash) (dir : Direction) : Change l (l.linking hash dir r)
  | switched (l : MemoryLedger) (on : Bool) : Change l { l with failsCommit := on }

/-- The changes of a history. -/
abbrev Changes : MemoryLedger → MemoryLedger → Prop := Relation.ReflTransGen Change

theorem changes_updateStatus (l : MemoryLedger) (id : Uuid) (status : Status) :
    l.Changes (l.updateStatus id status).2 := by
  unfold updateStatus
  cases h : l.pending? id with
  | none => exact .refl
  | some r => exact .single (.moved h status)

theorem changes_commitAll (hash : Hash) (accepted : List (Uuid × Direction)) (l : MemoryLedger)
    (done : BatchCommit) : l.Changes (l.commitAll hash accepted done).1 := by
  induction accepted generalizing l done with
  | nil => exact .refl
  | cons entry rest ih =>
    have hstep : l.Changes (commitEntry hash (l, done) entry).1 := by
      rcases commitEntry_cases hash l done entry.1 entry.2 with ⟨-, he⟩ | ⟨r, hp, he⟩
      · rw [he]
      · rw [he]
        exact .single (.linked hp hash entry.2)
    exact hstep.trans (ih _ _)

/-- **Every operation comes down to changes.** -/
theorem changes_apply (l : MemoryLedger) (op : LedgerOp) : l.Changes (op.apply l) := by
  cases op with
  | insert id direction amount => exact .single (.inserted l id direction amount)
  | update id status => exact l.changes_updateStatus id status
  | markFailed id => exact l.changes_updateStatus id .failed
  | commit hash accepted =>
    show l.Changes (l.commit hash accepted).2
    rcases l.commit_cases hash accepted with ⟨-, e, he⟩ | ⟨-, done, he⟩
    · rw [he]
    · rw [he]
      exact l.changes_commitAll hash accepted _
  | failCommits on => exact .single (.switched l on)

theorem changes_foldl (ops : List LedgerOp) (l : MemoryLedger) :
    l.Changes (ops.foldl LedgerOp.apply l) := by
  induction ops generalizing l with
  | nil => exact .refl
  | cons op rest ih => exact (l.changes_apply op).trans (ih _)

/-! ## The records of a ledger -/

theorem ids_replace (l : MemoryLedger) (r : ExchangeRecord) :
    (l.replace r).records.map ExchangeRecord.id = l.records.map ExchangeRecord.id := by
  rw [replace, List.map_map]
  apply List.map_congr_left
  intro q _
  by_cases h : q.id = r.id
  · simp [h]
  · simp [h]

theorem ids_updateStatus (l : MemoryLedger) (id : Uuid) (status : Status) :
    (l.updateStatus id status).2.records.map ExchangeRecord.id =
      l.records.map ExchangeRecord.id := by
  unfold updateStatus
  cases l.pending? id with
  | none => rfl
  | some r => exact l.ids_replace _

theorem ids_commitAll (hash : Hash) (accepted : List (Uuid × Direction)) (l : MemoryLedger)
    (done : BatchCommit) : (l.commitAll hash accepted done).1.records.map ExchangeRecord.id =
      l.records.map ExchangeRecord.id := by
  induction accepted generalizing l done with
  | nil => rfl
  | cons entry rest ih =>
    have hstep : (commitEntry hash (l, done) entry).1.records.map ExchangeRecord.id =
        l.records.map ExchangeRecord.id := by
      rcases commitEntry_cases hash l done entry.1 entry.2 with ⟨-, he⟩ | ⟨r, -, he⟩
      · rw [he]
      · rw [he, linking, ids_replace]
    exact (ih _ _).trans hstep

/-- The record that is put into the place of another one is there, and all others stay. -/
theorem mem_replace {l : MemoryLedger} {r r' : ExchangeRecord} (hr : r ∈ l.records)
    (hid : r'.id = r.id) {q : ExchangeRecord} :
    q ∈ (l.replace r').records ↔ q = r' ∨ q ∈ l.records ∧ q.id ≠ r.id := by
  rw [replace, List.mem_map]
  constructor
  · rintro ⟨p, hp, rfl⟩
    by_cases h : p.id = r'.id
    · exact .inl (if_pos h)
    · rw [if_neg h]
      exact .inr ⟨hp, fun he => h (he.trans hid.symm)⟩
  · rintro (rfl | ⟨hq, hne⟩)
    · exact ⟨r, hr, if_pos hid.symm⟩
    · exact ⟨q, hq, if_neg fun he => hne (he.trans hid)⟩

theorem mem_of_pending? {l : MemoryLedger} {id : Uuid} {r : ExchangeRecord}
    (h : l.pending? id = some r) : r ∈ l.records ∧ r.status = .pending :=
  ⟨(find?_eq_some (pending?_eq_some.mp h).1).2, (pending?_eq_some.mp h).2⟩

/-- A change keeps the identifiers, and may add one at the end. -/
theorem Change.ids {l l' : MemoryLedger} (h : Change l l') :
    l.records.map ExchangeRecord.id <+: l'.records.map ExchangeRecord.id := by
  cases h with
  | inserted id direction amount =>
    rw [insertPending, List.map_append]
    exact List.prefix_append _ _
  | moved pending status =>
    exact ⟨[], by rw [List.append_nil, ids_replace]⟩
  | linked pending hash dir =>
    exact ⟨[], by rw [List.append_nil, linking, ids_replace]⟩
  | switched on => exact List.prefix_refl _

/-! ## What later ledgers keep -/

theorem Becomes.refl (l : MemoryLedger) : l.Becomes l :=
  ⟨fun r hr => ⟨r, hr, .refl r⟩, List.prefix_refl _⟩

theorem Becomes.trans {l m l' : MemoryLedger} (h : l.Becomes m) (h' : m.Becomes l') :
    l.Becomes l' := by
  refine ⟨fun r hr => ?_, h.links.trans h'.links⟩
  obtain ⟨q, hq, hrq⟩ := h.records r hr
  obtain ⟨r', hr', hqr⟩ := h'.records q hq
  exact ⟨r', hr', hrq.trans hqr⟩

/-- Putting a later record in the place of a record is a step to a later ledger, if no other record
has its identifier. -/
theorem becomes_replace {l : MemoryLedger} (hd : (l.records.map ExchangeRecord.id).Nodup)
    {r r' : ExchangeRecord} (hr : r ∈ l.records) (h : r.Becomes r') :
    l.Becomes (l.replace r') := by
  refine ⟨fun q hq => ?_, List.prefix_refl _⟩
  by_cases hid : q.id = r.id
  · obtain rfl := List.inj_on_of_nodup_map hd hq hr hid
    exact ⟨r', (mem_replace hr h.id).mpr (.inl rfl), h⟩
  · exact ⟨q, (mem_replace hr h.id).mpr (.inr ⟨hq, hid⟩), .refl q⟩

theorem Change.becomes {l l' : MemoryLedger} (h : Change l l')
    (hd : (l.records.map ExchangeRecord.id).Nodup) : l.Becomes l' := by
  cases h with
  | inserted id direction amount =>
    exact ⟨fun r hr => ⟨r, List.mem_append_left _ hr, .refl r⟩, List.prefix_refl _⟩
  | moved pending status =>
    obtain ⟨hr, hs⟩ := mem_of_pending? pending
    exact becomes_replace hd hr (.of_status hs status)
  | linked pending hash dir =>
    obtain ⟨hr, hs⟩ := mem_of_pending? pending
    exact ⟨(becomes_replace hd hr (.of_link hs dir _)).records, List.prefix_append _ _⟩
  | switched on => exact ⟨fun r hr => ⟨r, hr, .refl r⟩, List.prefix_refl _⟩

/-- **What a record is for never changes, and a record that is no longer pending is final.** -/
theorem Changes.becomes {l l' : MemoryLedger} (h : l.Changes l')
    (hd : (l'.records.map ExchangeRecord.id).Nodup) : l.Becomes l' := by
  induction h with
  | refl => exact .refl l
  | tail _ hstep ih =>
    have hd' := hd.sublist hstep.ids.sublist
    exact (ih hd').trans (hstep.becomes hd')

/-! ## Changes keep the agreement -/

/-- A pending record refers to no link. -/
theorem Integral.not_refersTo {l : MemoryLedger} (h : l.Integral) {r : ExchangeRecord}
    (hr : r ∈ l.records) (hs : r.status = .pending) (i : Int32) : ¬r.RefersTo i := by
  intro hi
  have hc := h.completed r hr i hi
  rw [hs] at hc
  simp at hc

/-- A record that refers to a link is another one than a record without links. -/
theorem Integral.ne_of_refersTo {l : MemoryLedger} (h : l.Integral) {q r : ExchangeRecord}
    (hq : q ∈ l.records) (hr : r ∈ l.records) {i : Int32} (hi : q.RefersTo i)
    (hn : ∀ i, ¬r.RefersTo i) : q.id ≠ r.id := by
  intro he
  obtain rfl := List.inj_on_of_nodup_map h.distinct hq hr he
  exact hn i hi

/-- The tables agree still when a record without links has come into the place of another one. -/
theorem Integral.of_replace {l : MemoryLedger} (h : l.Integral) {r r' : ExchangeRecord}
    (hr : r ∈ l.records) (hid : r'.id = r.id) (hn : ∀ i, ¬r.RefersTo i)
    (hn' : ∀ i, ¬r'.RefersTo i) : (l.replace r').Integral where
  distinct := by
    rw [ids_replace]
    exact h.distinct
  numbered := h.numbered
  owned row hrow := by
    obtain ⟨q, hq, hl, ha, hu⟩ := h.owned row hrow
    have hqr := h.ne_of_refersTo hq hr (ExchangeRecord.refersTo_of_link? hl) hn
    refine ⟨q, (mem_replace hr hid).mpr (.inr ⟨hq, hqr⟩), hl, ha, fun p hp hi => ?_⟩
    rcases (mem_replace hr hid).mp hp with rfl | ⟨hp, -⟩
    · exact absurd hi (hn' _)
    · exact hu p hp hi
  known q hq i hi := by
    rcases (mem_replace hr hid).mp hq with rfl | ⟨hq, -⟩
    · exact absurd hi (hn' i)
    · exact h.known q hq i hi
  single q hq := by
    rcases (mem_replace hr hid).mp hq with rfl | ⟨hq, -⟩
    · exact .inl (ExchangeRecord.fields_of_not_refersTo hn').1
    · exact h.single q hq
  completed q hq i hi := by
    rcases (mem_replace hr hid).mp hq with rfl | ⟨hq, -⟩
    · exact absurd hi (hn' i)
    · exact h.completed q hq i hi

/-- The tables agree still when a pending record has been inserted under a new identifier. -/
theorem Integral.of_insert {l : MemoryLedger} (h : l.Integral) {id : Uuid} {direction : Direction}
    {amount : Word}
    (hd : ((l.insertPending id direction amount).records.map ExchangeRecord.id).Nodup) :
    (l.insertPending id direction amount).Integral := by
  have hmem : ∀ q ∈ (l.insertPending id direction amount).records,
      q ∈ l.records ∨ ∀ i, ¬q.RefersTo i := by
    intro q hq
    rcases List.mem_append.mp hq with hq | hq
    · exact .inl hq
    · rw [List.mem_singleton.mp hq]
      exact .inr fun i => by simp [ExchangeRecord.RefersTo]
  refine ⟨hd, h.numbered, fun row hrow => ?_, fun q hq i hi => ?_, fun q hq => ?_,
    fun q hq i hi => ?_⟩
  · obtain ⟨r, hr, hl, ha, hu⟩ := h.owned row hrow
    refine ⟨r, List.mem_append_left _ hr, hl, ha, fun q hq hi => ?_⟩
    exact (hmem q hq).elim (fun hq => hu q hq hi) fun hn => absurd hi (hn _)
  · exact (hmem q hq).elim (fun hq => h.known q hq i hi) fun hn => absurd hi (hn i)
  · exact (hmem q hq).elim (h.single q) fun hn =>
      .inl (ExchangeRecord.fields_of_not_refersTo hn).1
  · exact (hmem q hq).elim (fun hq => h.completed q hq i hi) fun hn => absurd hi (hn i)

/-- The number of the next link is its place, as long as numbers do not run out. -/
theorem toInt_nextLink {l : MemoryLedger} (h : l.links.length + 1 < 2 ^ 31) :
    l.nextLink.toInt = l.links.length + 1 := by
  have hnext : l.nextLink = Int32.ofNat (l.links.length + 1) := (Int32.ofNat_add _ 1).symm
  rw [hnext, Int32.toInt_ofNat_of_lt h, Int.natCast_add, Int.natCast_one]

/-- The tables agree still when a pending record has been linked. -/
theorem Integral.of_linking {l : MemoryLedger} (h : l.Integral) {id : Uuid} {r : ExchangeRecord}
    (hp : l.pending? id = some r) (hash : Hash) (dir : Direction)
    (hlen : l.links.length + 1 < 2 ^ 31) : (l.linking hash dir r).Integral := by
  obtain ⟨hr, hs⟩ := mem_of_pending? hp
  have hn := h.not_refersTo hr hs
  have hnext := toInt_nextLink hlen
  have hid : (linkRecord r dir l.nextLink).id = r.id := id_linkRecord r dir _
  -- the number of the new link is new
  have hnew : ∀ row ∈ l.links, row.id ≠ l.nextLink := by
    intro row hrow he
    obtain ⟨n, hlt, rfl⟩ := List.getElem_of_mem hrow
    have hnum := h.numbered n hlt
    rw [he, hnext] at hnum
    omega
  have hfree : ∀ q ∈ l.records, ¬q.RefersTo l.nextLink := by
    intro q hq hi
    obtain ⟨row, hrow, he⟩ := h.known q hq _ hi
    exact hnew row hrow he
  have hrefers := ExchangeRecord.refersTo_linkRecord_iff hn dir l.nextLink
  have hmem {q : ExchangeRecord} : q ∈ (l.linking hash dir r).records ↔
      q = linkRecord r dir l.nextLink ∨ q ∈ l.records ∧ q.id ≠ r.id :=
    mem_replace (l := { l with links := _ }) hr hid
  have hlinks : (l.linking hash dir r).links =
    l.links ++ [⟨l.nextLink, dir, hash, r.linkAmount dir⟩] := rfl
  refine ⟨?distinct, ?numbered, ?owned, ?known, ?single, ?completed⟩
  case distinct =>
    rw [linking, ids_replace]
    exact h.distinct
  case numbered =>
    intro n hlt
    simp only [hlinks, List.getElem_append]
    split
    · exact h.numbered n _
    · rw [hlinks, List.length_append, List.length_singleton] at hlt
      have hlast : n = l.links.length := by omega
      simp [hlast, hnext]
  case owned =>
    intro row hrow
    rw [hlinks, List.mem_append, List.mem_singleton] at hrow
    rcases hrow with hrow | rfl
    · obtain ⟨q, hq, hl, ha, hu⟩ := h.owned row hrow
      have hqr := h.ne_of_refersTo hq hr (ExchangeRecord.refersTo_of_link? hl) hn
      refine ⟨q, hmem.mpr (.inr ⟨hq, hqr⟩), hl, ha, fun p hp hi => ?_⟩
      rcases hmem.mp hp with rfl | ⟨hp, -⟩
      · exact absurd ((hrefers _).mp hi) (hnew row hrow)
      · exact hu p hp hi
    · obtain ⟨htoken, hpoint⟩ := r.amounts_linkRecord dir l.nextLink
      refine ⟨_, hmem.mpr (.inl rfl), link?_linkRecord r dir _, ?_, fun p hp hi => ?_⟩
      · rw [htoken, hpoint]
        exact r.linkAmount_eq dir
      rcases hmem.mp hp with rfl | ⟨hp, -⟩
      · rfl
      · exact absurd hi (hfree p hp)
  case known =>
    intro q hq i hi
    rw [hlinks]
    rcases hmem.mp hq with rfl | ⟨hq, -⟩
    · exact ⟨_, List.mem_append_right _ (List.mem_singleton_self _), ((hrefers i).mp hi).symm⟩
    · obtain ⟨row, hrow, he⟩ := h.known q hq i hi
      exact ⟨row, List.mem_append_left _ hrow, he⟩
  case single =>
    intro q hq
    rcases hmem.mp hq with rfl | ⟨hq, -⟩
    · exact ExchangeRecord.single_linkRecord hn dir _
    · exact h.single q hq
  case completed =>
    intro q hq i hi
    rcases hmem.mp hq with rfl | ⟨hq, -⟩
    · exact status_linkRecord r dir _
    · exact h.completed q hq i hi

/-- A change keeps the agreement. -/
theorem Change.integral {l l' : MemoryLedger} (h : Change l l') (hl : l.Integral)
    (hd : (l'.records.map ExchangeRecord.id).Nodup) (hlen : l'.links.length < 2 ^ 31 - 1) :
    l'.Integral := by
  cases h with
  | inserted id direction amount => exact hl.of_insert hd
  | moved pending status =>
    obtain ⟨hr, hs⟩ := mem_of_pending? pending
    have hn := hl.not_refersTo hr hs
    exact hl.of_replace hr rfl hn hn
  | linked pending hash dir =>
    have hlen' : l.links.length + 1 < 2 ^ 31 - 1 := by simpa [linking, replace] using hlen
    exact hl.of_linking pending hash dir (by omega)
  | switched on => exact ⟨hl.distinct, hl.numbered, hl.owned, hl.known, hl.single, hl.completed⟩

theorem integral_empty : ({} : MemoryLedger).Integral := by
  constructor <;> simp

/-- **Changes keep the agreement.** -/
theorem Changes.integral {l l' : MemoryLedger} (h : l.Changes l') (hl : l.Integral)
    (hd : (l'.records.map ExchangeRecord.id).Nodup) (hlen : l'.links.length < 2 ^ 31 - 1) :
    l'.Integral := by
  induction h with
  | refl => exact hl
  | tail _ hstep ih =>
    -- at every earlier time identifiers are distinct and links are few, because both only grow
    have hd' := hd.sublist hstep.ids.sublist
    have hlen' := Nat.lt_of_le_of_lt (hstep.becomes hd').links.length_le hlen
    exact hstep.integral (ih hd' hlen') hd hlen

end MemoryLedger

/-! ## Histories -/

namespace LedgerOp

/-- An operation leaves the identifiers alone, but for the one that it inserts. -/
theorem ids_apply (l : MemoryLedger) (op : LedgerOp) :
    (op.apply l).records.map ExchangeRecord.id =
      l.records.map ExchangeRecord.id ++ op.inserted?.toList := by
  cases op with
  | insert id direction amount => exact List.map_append
  | update id status => exact (l.ids_updateStatus id status).trans (List.append_nil _).symm
  | markFailed id => exact (l.ids_updateStatus id .failed).trans (List.append_nil _).symm
  | commit hash accepted =>
    refine Eq.trans ?_ (List.append_nil _).symm
    show (l.commit hash accepted).2.records.map ExchangeRecord.id = _
    rcases l.commit_cases hash accepted with ⟨-, e, he⟩ | ⟨-, done, he⟩
    · rw [he]
    · rw [he]
      exact MemoryLedger.ids_commitAll hash accepted l _
  | failCommits on => exact (List.append_nil _).symm

theorem ids_foldl (ops : List LedgerOp) (l : MemoryLedger) :
    (ops.foldl apply l).records.map ExchangeRecord.id =
      l.records.map ExchangeRecord.id ++ ops.filterMap inserted? := by
  induction ops generalizing l with
  | nil => exact (List.append_nil _).symm
  | cons op rest ih =>
    rw [List.foldl_cons, ih, ids_apply, List.append_assoc, List.filterMap_cons]
    cases op.inserted? <;> rfl

/-- The records of a ledger are the inserted ones, in their order. -/
theorem ids_replay (ops : List LedgerOp) :
    (replay ops).records.map ExchangeRecord.id = ops.filterMap inserted? :=
  ids_foldl ops {}

end LedgerOp

/-- **After any history the tables agree, and what was settled at an earlier time still stands.** -/
theorem ledger_agrees (before after : List LedgerOp)
    (distinct : ((before ++ after).filterMap LedgerOp.inserted?).Nodup)
    (few : (LedgerOp.replay (before ++ after)).links.length < 2 ^ 31 - 1) :
    (LedgerOp.replay (before ++ after)).Integral ∧
      (LedgerOp.replay before).Becomes (LedgerOp.replay (before ++ after)) := by
  have hd : ((LedgerOp.replay (before ++ after)).records.map ExchangeRecord.id).Nodup := by
    rw [LedgerOp.ids_replay]
    exact distinct
  have hall := MemoryLedger.changes_foldl (before ++ after) {}
  have hafter := MemoryLedger.changes_foldl after (LedgerOp.replay before)
  rw [← LedgerOp.replay_append] at hafter
  exact ⟨hall.integral MemoryLedger.integral_empty hd few, hafter.becomes hd⟩

/-- A record that is twice in a batch, one that is unknown, a commit that fails, and a record that
is linked against its direction. -/
def LedgerOp.mixed : List LedgerOp × List LedgerOp :=
  ([.insert ⟨1⟩ .pointToToken 100, .insert ⟨2⟩ .tokenToPoint 40,
      .commit 7 [(⟨1⟩, .pointToToken), (⟨1⟩, .pointToToken), (⟨9⟩, .tokenToPoint)],
      .markFailed ⟨1⟩, .failCommits true],
    [.commit 8 [(⟨2⟩, .tokenToPoint)], .failCommits false, .insert ⟨3⟩ .tokenToPoint 5,
      .update ⟨3⟩ .failed, .commit 9 [(⟨3⟩, .tokenToPoint), (⟨2⟩, .pointToToken)]])

theorem ledger_agrees_mixed :
    (LedgerOp.replay (LedgerOp.mixed.1 ++ LedgerOp.mixed.2)).links.length = 2 ∧
    (LedgerOp.replay (LedgerOp.mixed.1 ++ LedgerOp.mixed.2)).Integral ∧
      (LedgerOp.replay LedgerOp.mixed.1).Becomes
        (LedgerOp.replay (LedgerOp.mixed.1 ++ LedgerOp.mixed.2)) :=
  ⟨by decide, ledger_agrees LedgerOp.mixed.1 LedgerOp.mixed.2 (by decide) (by decide)⟩

end PointExchange
