import PointExchange.Ledger.Basic

/-!
# A ledger in memory

Records in the order in which they were inserted, links in the order in which they were made. A
link's number is its place among the links, counted from one.
-/

namespace PointExchange

/-- A ledger in memory. -/
structure MemoryLedger where
  records : List ExchangeRecord := []
  links : List Link := []
  /-- every commit fails -/
  failsCommit : Bool := false

namespace MemoryLedger

/-- The record of an identifier. -/
def find? (l : MemoryLedger) (id : Uuid) : Option ExchangeRecord :=
  l.records.find? fun r => r.id = id

/-- Puts a changed record in the place of the one with its identifier. -/
def replace (l : MemoryLedger) (r : ExchangeRecord) : MemoryLedger :=
  { l with records := l.records.map fun q => if q.id = r.id then r else q }

/-- Inserts a pending record whose two amounts are the same. -/
def insertPending (l : MemoryLedger) (id : Uuid) (direction : Direction) (amount : Word) :
    MemoryLedger :=
  { l with records := l.records ++ [⟨id, direction, amount, amount, .pending, none, none⟩] }

/-- The record of an identifier, if it is pending. -/
def pending? (l : MemoryLedger) (id : Uuid) : Option ExchangeRecord :=
  (l.find? id).filter fun r => r.status = .pending

/-- Moves a pending record to a status. -/
def updateStatus (l : MemoryLedger) (id : Uuid) (status : Status) : Bool × MemoryLedger :=
  match l.pending? id with
  | some r => (true, l.replace { r with status := status })
  | none => (false, l)

/-- The number of the next link. -/
def nextLink (l : MemoryLedger) : Int32 := Int32.ofNat l.links.length + 1

/-- A record linked in a direction. -/
def linkRecord (r : ExchangeRecord) (direction : Direction) (id : Int32) : ExchangeRecord :=
  match direction with
  | .pointToToken => { r with mint := some id, status := .completed }
  | .tokenToPoint => { r with burn := some id, status := .completed }

/-- Links one record of a batch, if it is pending. -/
def commitEntry (hash : Hash) (s : MemoryLedger × BatchCommit) (entry : Uuid × Direction) :
    MemoryLedger × BatchCommit :=
  let (l, commit) := s
  let (id, direction) := entry
  match l.pending? id with
  | some r =>
    let link := l.nextLink
    let row : Link := ⟨link, direction, hash, r.linkAmount direction⟩
    let l : MemoryLedger := { l with links := l.links ++ [row] }
    (l.replace (linkRecord r direction link),
      { commit with linked := commit.linked ++ [(id, link)] })
  | none => (l, { commit with skipped := commit.skipped ++ [id] })

/-- Links the records of a batch that are still pending. -/
def commit (l : MemoryLedger) (hash : Hash) (accepted : List (Uuid × Direction)) :
    Except LedgerError BatchCommit × MemoryLedger :=
  if l.failsCommit then
    (.error (.store "pool timed out while waiting for an open connection"), l)
  else
    let (l, done) := accepted.foldl (commitEntry hash) (l, ⟨[], []⟩)
    (.ok done, l)

theorem find?_eq_some {l : MemoryLedger} {id : Uuid} {r : ExchangeRecord}
    (h : l.find? id = some r) : r.id = id ∧ r ∈ l.records := by
  refine ⟨?_, List.mem_of_find?_eq_some h⟩
  simpa using List.find?_some h

theorem pending?_eq_some {l : MemoryLedger} {id : Uuid} {r : ExchangeRecord} :
    l.pending? id = some r ↔ l.find? id = some r ∧ r.status = .pending := by
  simp [pending?, Option.filter_eq_some_iff]

/-- A commit that fails leaves the ledger as it was. -/
theorem commit_error {l m : MemoryLedger} {hash : Hash} {accepted : List (Uuid × Direction)}
    {e : LedgerError} (h : l.commit hash accepted = (.error e, m)) : m = l := by
  unfold commit at h
  split at h
  · exact (Prod.mk.inj h).2.symm
  · exact absurd (Prod.mk.inj h).1 (by simp)

end MemoryLedger
end PointExchange
