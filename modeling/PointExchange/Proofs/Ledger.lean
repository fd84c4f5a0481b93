import PointExchange.Ledger.Memory

/-!
# What happens to records

Looked at through `MemoryLedger.find?`, a ledger changes in two ways only: the pending ones among
some records are failed (`find?_failAll`), or the pending ones among the records of a batch are
completed and linked (`linkedTo_commit`). A record that is not pending stays as it is.
-/

namespace PointExchange

namespace ExchangeRecord

/-- The link of a record in a direction. -/
def link? (r : ExchangeRecord) : Direction → Option Int32
  | .pointToToken => r.mint
  | .tokenToPoint => r.burn

/-- The record, failed if it is pending and among some identifiers. -/
def failedIn (ids : List Uuid) (r : ExchangeRecord) : ExchangeRecord :=
  if r.status = .pending ∧ r.id ∈ ids then { r with status := .failed } else r

theorem failedIn_nil (r : ExchangeRecord) : r.failedIn [] = r := by
  simp [failedIn]

/-- A record that is not pending stays as it is. -/
theorem failedIn_of_ne {r : ExchangeRecord} (h : r.status ≠ .pending) (ids : List Uuid) :
    r.failedIn ids = r :=
  if_neg fun hr => h hr.1

theorem failedIn_cons (r : ExchangeRecord) (id : Uuid) (ids : List Uuid) :
    (r.failedIn [id]).failedIn ids = r.failedIn (id :: ids) := by
  by_cases hs : r.status = .pending
  · by_cases hi : r.id = id
    · simp [failedIn, hs, hi]
    · simp [failedIn, hs, hi]
  · simp [failedIn, hs]

end ExchangeRecord

namespace MemoryLedger

theorem find?_replace (l : MemoryLedger) (r : ExchangeRecord) (id : Uuid) :
    (l.replace r).find? id = if r.id = id then (l.find? id).map fun _ => r else l.find? id := by
  show (l.records.map fun q => if q.id = r.id then r else q).find? (fun q => q.id = id) =
    if r.id = id then (l.records.find? fun q => q.id = id).map fun _ => r
    else l.records.find? fun q => q.id = id
  induction l.records with
  | nil => simp
  | cons q rest ih =>
    rw [List.map_cons, List.find?_cons, List.find?_cons, ih]
    by_cases hq : q.id = r.id
    · by_cases hr : r.id = id
      · simp [hq, hr]
      · simp [hq, hr]
    · by_cases hi : q.id = id
      · have hr : r.id ≠ id := fun h => hq (hi.trans h.symm)
        have hr' : id ≠ r.id := Ne.symm hr
        simp [hi, hr, hr']
      · simp [hq, hi]

/-- The record of an identifier is there and has the status. -/
def HasStatus (l : MemoryLedger) (id : Uuid) (status : Status) : Prop :=
  ∃ r, l.find? id = some r ∧ r.status = status

theorem HasStatus.of_eq {l l' : MemoryLedger} {id : Uuid} {status : Status}
    (h : l.HasStatus id status) (he : l'.find? id = l.find? id) : l'.HasStatus id status := by
  obtain ⟨r, hf, hs⟩ := h
  exact ⟨r, he.trans hf, hs⟩

theorem HasStatus.unique {l : MemoryLedger} {id : Uuid} {status status' : Status}
    (h : l.HasStatus id status) (h' : l.HasStatus id status') : status = status' := by
  obtain ⟨r, hf, rfl⟩ := h
  obtain ⟨r', hf', rfl⟩ := h'
  rw [Option.some.inj (hf.symm.trans hf')]

theorem hasStatus_pending_iff {l : MemoryLedger} {id : Uuid} :
    l.HasStatus id .pending ↔ l.pending? id ≠ none := by
  rw [Option.ne_none_iff_exists']
  simp only [pending?_eq_some, HasStatus]

/-- A record that has another status is not pending. -/
theorem HasStatus.pending?_eq_none {l : MemoryLedger} {id : Uuid} {status : Status}
    (h : l.HasStatus id status) (hne : status ≠ .pending) : l.pending? id = none := by
  obtain ⟨r, hf, rfl⟩ := h
  rw [pending?, hf]
  simp [hne]

/-! ## Failing records -/

/-- Fails the record of an identifier, if it is pending. -/
def fail (l : MemoryLedger) (id : Uuid) : MemoryLedger := (l.updateStatus id .failed).2

/-- Fails the pending ones among the records of some identifiers. -/
def failAll (l : MemoryLedger) (ids : List Uuid) : MemoryLedger := ids.foldl fail l

theorem find?_fail (l : MemoryLedger) (id i : Uuid) :
    (l.fail id).find? i = (l.find? i).map (·.failedIn [id]) := by
  unfold fail updateStatus
  cases hp : l.pending? id with
  | none =>
    cases hi : l.find? i with
    | none => rfl
    | some r =>
      have hr : ¬(r.status = .pending ∧ r.id ∈ [id]) := by
        rintro ⟨hs, hm⟩
        have hid : i = id := by
          rw [← (find?_eq_some hi).1]
          simpa using hm
        rw [pending?, ← hid, hi] at hp
        simp [hs] at hp
      rw [Option.map_some, ExchangeRecord.failedIn, if_neg hr]
  | some r =>
    obtain ⟨hf, hs⟩ := pending?_eq_some.mp hp
    have hid := (find?_eq_some hf).1
    show (l.replace { r with status := .failed }).find? i = _
    rw [find?_replace]
    by_cases hi : id = i
    · subst hi
      simp [hf, hid, ExchangeRecord.failedIn, hs]
    · have hr : ({ r with status := .failed } : ExchangeRecord).id ≠ i := by
        rw [show ({ r with status := .failed } : ExchangeRecord).id = r.id from rfl, hid]
        exact hi
      rw [if_neg hr]
      cases hf' : l.find? i with
      | none => rfl
      | some r' =>
        have hne : ¬(r'.status = .pending ∧ r'.id ∈ [id]) := by
          rintro ⟨-, hm⟩
          rw [(find?_eq_some hf').1, List.mem_singleton] at hm
          exact hi hm.symm
        rw [Option.map_some, ExchangeRecord.failedIn, if_neg hne]

/-- **Failing records fails the pending ones among them and leaves all others alone.** -/
theorem find?_failAll (ids : List Uuid) (l : MemoryLedger) (i : Uuid) :
    (l.failAll ids).find? i = (l.find? i).map (·.failedIn ids) := by
  induction ids generalizing l with
  | nil => simp [failAll, ExchangeRecord.failedIn_nil]
  | cons id rest ih =>
    show ((l.fail id).failAll rest).find? i = _
    rw [ih, find?_fail, Option.map_map]
    congr 1
    funext r
    exact r.failedIn_cons id rest

theorem find?_failAll_of_not_mem {ids : List Uuid} {i : Uuid} (h : i ∉ ids) (l : MemoryLedger) :
    (l.failAll ids).find? i = l.find? i := by
  rw [find?_failAll]
  cases hf : l.find? i with
  | none => rfl
  | some r =>
    have hr : ¬(r.status = .pending ∧ r.id ∈ ids) := fun hr => h ((find?_eq_some hf).1 ▸ hr.2)
    rw [Option.map_some, ExchangeRecord.failedIn, if_neg hr]

/-- A pending record among the identifiers is failed. -/
theorem hasStatus_failAll_of_mem {l : MemoryLedger} {ids : List Uuid} {i : Uuid}
    (h : l.HasStatus i .pending) (hi : i ∈ ids) : (l.failAll ids).HasStatus i .failed := by
  obtain ⟨r, hf, hs⟩ := h
  have hr : r.status = .pending ∧ r.id ∈ ids := ⟨hs, (find?_eq_some hf).1 ▸ hi⟩
  refine ⟨{ r with status := .failed }, ?_, rfl⟩
  rw [find?_failAll, hf, Option.map_some, ExchangeRecord.failedIn, if_pos hr]

/-- A record that is not pending keeps its status. -/
theorem HasStatus.failAll {l : MemoryLedger} {i : Uuid} {status : Status}
    (h : l.HasStatus i status) (hne : status ≠ .pending) (ids : List Uuid) :
    (l.failAll ids).HasStatus i status := by
  obtain ⟨r, hf, rfl⟩ := h
  exact ⟨r, by rw [find?_failAll, hf, Option.map_some, r.failedIn_of_ne hne], rfl⟩

theorem links_fail (l : MemoryLedger) (id : Uuid) : (l.fail id).links = l.links := by
  unfold fail updateStatus
  split <;> rfl

theorem failsCommit_fail (l : MemoryLedger) (id : Uuid) :
    (l.fail id).failsCommit = l.failsCommit := by
  unfold fail updateStatus
  split <;> rfl

/-- Failing records leaves the links and the store alone. -/
theorem frame_failAll (ids : List Uuid) (l : MemoryLedger) :
    (l.failAll ids).links = l.links ∧ (l.failAll ids).failsCommit = l.failsCommit := by
  induction ids generalizing l with
  | nil => exact ⟨rfl, rfl⟩
  | cons id rest ih =>
    obtain ⟨hl, hc⟩ := ih (l.fail id)
    exact ⟨hl.trans (l.links_fail id), hc.trans (l.failsCommit_fail id)⟩

/-! ## Committing a batch -/

/-- The record of an identifier is completed, with a link that carries the hash. -/
def LinkedTo (l : MemoryLedger) (hash : Hash) (id : Uuid) : Prop :=
  ∃ r row, l.find? id = some r ∧ r.status = .completed ∧ row ∈ l.links ∧ row.hash = hash ∧
    r.link? row.direction = some row.id

theorem LinkedTo.completed {l : MemoryLedger} {hash : Hash} {id : Uuid} (h : l.LinkedTo hash id) :
    l.HasStatus id .completed := by
  obtain ⟨r, row, hf, hs, -⟩ := h
  exact ⟨r, hf, hs⟩

/-- The ledger with a record linked and completed. -/
def linking (l : MemoryLedger) (hash : Hash) (dir : Direction) (r : ExchangeRecord) :
    MemoryLedger :=
  let row : Link := ⟨l.nextLink, dir, hash, r.linkAmount dir⟩
  ({ l with links := l.links ++ [row] } : MemoryLedger).replace (linkRecord r dir l.nextLink)

/-- The step of a commit for one record: a pending one is completed and linked, any other one is
left alone. -/
theorem commitEntry_cases (hash : Hash) (l : MemoryLedger) (done : BatchCommit) (id : Uuid)
    (dir : Direction) :
    (l.pending? id = none ∧ (commitEntry hash (l, done) (id, dir)).1 = l) ∨
    ∃ r, l.pending? id = some r ∧
      (commitEntry hash (l, done) (id, dir)).1 = l.linking hash dir r := by
  cases h : l.pending? id with
  | none => exact .inl ⟨rfl, by simp [commitEntry, h]⟩
  | some r => exact .inr ⟨r, rfl, by simp [commitEntry, h, linking]⟩

theorem id_linkRecord (r : ExchangeRecord) (dir : Direction) (i : Int32) :
    (linkRecord r dir i).id = r.id := by
  cases dir <;> rfl

theorem status_linkRecord (r : ExchangeRecord) (dir : Direction) (i : Int32) :
    (linkRecord r dir i).status = .completed := by
  cases dir <;> rfl

theorem link?_linkRecord (r : ExchangeRecord) (dir : Direction) (i : Int32) :
    (linkRecord r dir i).link? dir = some i := by
  cases dir <;> rfl

section Linking

variable {l : MemoryLedger} {hash : Hash} {dir : Direction} {id : Uuid} {r : ExchangeRecord}

theorem find?_linking_self (h : l.find? id = some r) :
    (l.linking hash dir r).find? id = some (linkRecord r dir l.nextLink) := by
  rw [linking, find?_replace, id_linkRecord, if_pos (find?_eq_some h).1]
  show (l.find? id).map _ = _
  rw [h, Option.map_some]

theorem find?_linking_ne (h : l.find? id = some r) {i : Uuid} (hi : i ≠ id) :
    (l.linking hash dir r).find? i = l.find? i := by
  rw [linking, find?_replace, id_linkRecord, (find?_eq_some h).1, if_neg (Ne.symm hi)]
  rfl

theorem linkedTo_linking (h : l.find? id = some r) : (l.linking hash dir r).LinkedTo hash id :=
  ⟨_, ⟨l.nextLink, dir, hash, r.linkAmount dir⟩, find?_linking_self h, status_linkRecord r dir _,
    List.mem_append_right _ (List.mem_singleton_self _), rfl, link?_linkRecord r dir _⟩

end Linking

/-- A record that is not pending goes through a step of a commit unchanged. -/
theorem find?_commitEntry {hash : Hash} {l : MemoryLedger} {done : BatchCommit} {id : Uuid}
    {dir : Direction} {i : Uuid} (h : i ≠ id ∨ l.pending? id = none) :
    (commitEntry hash (l, done) (id, dir)).1.find? i = l.find? i := by
  rcases commitEntry_cases hash l done id dir with ⟨-, he⟩ | ⟨r, hp, he⟩
  · rw [he]
  · rw [he]
    rcases h with hi | hn
    · exact find?_linking_ne (pending?_eq_some.mp hp).1 hi
    · rw [hp] at hn
      simp at hn

theorem failsCommit_commitEntry (hash : Hash) (l : MemoryLedger) (done : BatchCommit)
    (entry : Uuid × Direction) :
    (commitEntry hash (l, done) entry).1.failsCommit = l.failsCommit := by
  rcases commitEntry_cases hash l done entry.1 entry.2 with ⟨-, he⟩ | ⟨r, -, he⟩
  · rw [he]
  · rw [he]
    rfl

theorem links_commitEntry (hash : Hash) (l : MemoryLedger) (done : BatchCommit)
    (entry : Uuid × Direction) : l.links <+: (commitEntry hash (l, done) entry).1.links := by
  rcases commitEntry_cases hash l done entry.1 entry.2 with ⟨-, he⟩ | ⟨r, -, he⟩
  · exact ⟨[], by rw [he, List.append_nil]⟩
  · rw [he]
    exact List.prefix_append _ _

/-- A link that is there stays, and so does the record it is for. -/
theorem LinkedTo.commitEntry {l : MemoryLedger} {hash : Hash} {i : Uuid} (h : l.LinkedTo hash i)
    (hash' : Hash) (done : BatchCommit) (entry : Uuid × Direction) :
    (commitEntry hash' (l, done) entry).1.LinkedTo hash i := by
  obtain ⟨r, row, hf, hs, hm, hh, hl⟩ := h
  refine ⟨r, row, ?_, hs, (links_commitEntry hash' l done entry).subset hm, hh, hl⟩
  rw [← hf]
  apply find?_commitEntry
  by_cases hi : i = entry.1
  · right
    rw [pending?, ← hi, hf]
    simp [hs]
  · exact .inl hi

/-- The ledger after the entries of a batch. -/
def commitAll (l : MemoryLedger) (hash : Hash) (accepted : List (Uuid × Direction))
    (done : BatchCommit) : MemoryLedger × BatchCommit :=
  accepted.foldl (commitEntry hash) (l, done)

theorem LinkedTo.commitAll {hash : Hash} {i : Uuid} (accepted : List (Uuid × Direction))
    {l : MemoryLedger} (h : l.LinkedTo hash i) (done : BatchCommit) :
    (l.commitAll hash accepted done).1.LinkedTo hash i := by
  induction accepted generalizing l done with
  | nil => exact h
  | cons entry rest ih => exact ih (h.commitEntry hash done entry) _

/-- **A commit links every record of the batch that is pending.** -/
theorem linkedTo_commitAll (hash : Hash) {i : Uuid} :
    ∀ (accepted : List (Uuid × Direction)) (l : MemoryLedger) (done : BatchCommit)
      {r : ExchangeRecord}, l.pending? i = some r → i ∈ accepted.map Prod.fst →
      (l.commitAll hash accepted done).1.LinkedTo hash i
  | [], _, _, _, _, hm => by simp at hm
  | (id, dir) :: rest, l, done, r, hp, hm => by
    by_cases hi : i = id
    · subst hi
      have hl : (commitEntry hash (l, done) (i, dir)).1.LinkedTo hash i := by
        rcases commitEntry_cases hash l done i dir with ⟨hn, -⟩ | ⟨r', hp', he⟩
        · rw [hp] at hn
          simp at hn
        · rw [he]
          exact linkedTo_linking (pending?_eq_some.mp hp').1
      exact hl.commitAll rest _
    -- the record of another entry is still pending after this one
    · have hr : i ∈ rest.map Prod.fst := by simpa [hi] using hm
      have hp' : (commitEntry hash (l, done) (id, dir)).1.pending? i = some r := by
        rw [pending?, find?_commitEntry (.inl hi)]
        exact hp
      exact linkedTo_commitAll hash rest _ _ hp' hr

/-- A commit leaves a record alone that is not pending or not in the batch. -/
theorem find?_commitAll (hash : Hash) {i : Uuid} (accepted : List (Uuid × Direction))
    (l : MemoryLedger) (done : BatchCommit)
    (h : i ∉ accepted.map Prod.fst ∨ l.pending? i = none) :
    (l.commitAll hash accepted done).1.find? i = l.find? i := by
  induction accepted generalizing l done with
  | nil => rfl
  | cons entry rest ih =>
    have he : (commitEntry hash (l, done) entry).1.find? i = l.find? i := by
      apply find?_commitEntry
      rcases h with hm | hp
      · exact .inl fun hi => hm (by simp [hi])
      · by_cases hi : i = entry.1
        · rw [hi] at hp
          exact .inr hp
        · exact .inl hi
    have hp : (commitEntry hash (l, done) entry).1.pending? i = l.pending? i := by
      rw [pending?, pending?, he]
    have hr := ih (commitEntry hash (l, done) entry).1 (commitEntry hash (l, done) entry).2
      (h.imp (fun hm hi => hm (by simp [hi])) fun hn => hp.trans hn)
    exact hr.trans he

/-- The second ledger is the first one with a batch linked to a hash: the pending records of the
batch are completed, all others are as they were. -/
structure Links (l l' : MemoryLedger) (hash : Hash) (accepted : List (Uuid × Direction)) :
    Prop where
  linked : ∀ id ∈ accepted.map Prod.fst, l.pending? id ≠ none → l'.LinkedTo hash id
  others : ∀ id, id ∉ accepted.map Prod.fst ∨ l.pending? id = none → l'.find? id = l.find? id

/-- **A commit links its batch.** -/
theorem links_commitAll (l : MemoryLedger) (hash : Hash) (accepted : List (Uuid × Direction)) :
    l.Links (l.commitAll hash accepted ⟨[], []⟩).1 hash accepted where
  linked id hid hp := by
    obtain ⟨r, hr⟩ := Option.ne_none_iff_exists'.mp hp
    exact linkedTo_commitAll hash accepted l _ hr hid
  others id hid := find?_commitAll hash accepted l _ hid

theorem Links.nil (l : MemoryLedger) (hash : Hash) : l.Links l hash [] :=
  ⟨by simp, fun _ _ => rfl⟩

theorem frame_commitAll (hash : Hash) (accepted : List (Uuid × Direction)) (l : MemoryLedger)
    (done : BatchCommit) :
    (l.commitAll hash accepted done).1.failsCommit = l.failsCommit := by
  induction accepted generalizing l done with
  | nil => rfl
  | cons entry rest ih =>
    exact (ih _ _).trans (failsCommit_commitEntry hash l done entry)

/-- A commit fails and changes nothing, or it links the whole batch. -/
theorem commit_cases (l : MemoryLedger) (hash : Hash) (accepted : List (Uuid × Direction)) :
    (l.failsCommit = true ∧ ∃ e, l.commit hash accepted = (.error e, l)) ∨
    (l.failsCommit = false ∧ ∃ done, l.commit hash accepted =
      (.ok done, (l.commitAll hash accepted ⟨[], []⟩).1)) := by
  rw [commit]
  by_cases h : l.failsCommit = true
  · exact .inl ⟨h, _, if_pos h⟩
  · exact .inr ⟨by simpa using h, _, if_neg h⟩

end MemoryLedger
end PointExchange
