import PointExchange.Run.Transaction

/-!
# Sending permits

The permits of a batch are signed with consecutive nonces and then broadcast side by side. When
the node refuses one of them, no later one can be included any more, because the nonce of the
refused one stays unused: a permit that waits behind it is given up.

Side by side means that the broadcasts take turns. A list of turns says which broadcast goes on
next and whether it looks first for a refused permit ahead of it; statements hold for any list,
the service uses `Turn.rounds`.
-/

namespace PointExchange

variable {E : Type}

/-- How far a broadcast has come. -/
inductive Progress
  /-- not handed over yet -/
  | queued
  | waiting (hash : Hash)
  | settled (result : Except GatewayError Hash)

/-- The broadcast of a permit. -/
structure Flight where
  /-- the place of the permit among all permits of the batch, counted from one -/
  number : Nat
  transaction : SignedTransaction
  progress : Progress

/-- A turn of a broadcast. -/
structure Turn where
  /-- which broadcast, counted from zero -/
  place : Nat
  /-- whether it looks first for a refused permit -/
  gapFirst : Bool
deriving DecidableEq

/-- Every broadcast in its order, twice. -/
def Turn.rounds (n : Nat) : List Turn := (List.range n ++ List.range n).map fun i => ⟨i, false⟩

/-- Looks whether a transaction is settled. -/
def Progress.look (g : Gateway E) (hash : Hash) (e : E) : Progress × E :=
  match (g.confirm hash).perform e with
  | (.ok none, e) => (.waiting hash, e)
  | (.ok (some included), e) => (.settled (.ok included), e)
  | (.error x, e) => (.settled (.error x), e)

/-- Goes on with a broadcast as far as it comes. -/
def Progress.advance (g : Gateway E) (raw : Bytes) (p : Progress) (e : E) : Progress × E :=
  match p with
  | .queued =>
    match (g.submit raw).perform e with
    | (.ok hash, e) => look g hash e
    | (.error x, e) => (.settled (.error x), e)
  | .waiting hash => look g hash e
  | .settled r => (.settled r, e)

namespace Flight

def result? (f : Flight) : Option (Except GatewayError Hash) :=
  match f.progress with
  | .settled r => some r
  | _ => none

/-- The node refused the transaction. -/
def refused (f : Flight) : Bool :=
  match f.progress with
  | .settled (.error e) => e.rejectedAtSubmit
  | _ => false

/-- The lowest number of a refused permit. -/
def firstRefused? (fs : List Flight) : Option Nat := ((fs.filter refused).map number).min?

/-- One turn, when `gap` is the number of a refused permit ahead. -/
def turn (g : Gateway E) (gapFirst : Bool) (gap : Option Nat) (f : Flight) (e : E) : Flight × E :=
  match f.progress, gap with
  | .settled _, _ => (f, e)
  | p, none =>
    let (p, e) := p.advance g f.transaction.raw e
    ({ f with progress := p }, e)
  | p, some k =>
    if gapFirst then ({ f with progress := .settled (.error (.nonceGap k)) }, e)
    else
      match p.advance g f.transaction.raw e with
      | (.settled r, e) => ({ f with progress := .settled r }, e)
      | (_, e) => ({ f with progress := .settled (.error (.nonceGap k)) }, e)

/-- One turn of the broadcast in a place. -/
def turnAt (g : Gateway E) (t : Turn) (fs : List Flight) (e : E) : List Flight × E :=
  match fs[t.place]? with
  | some f =>
    let gap := (firstRefused? fs).filter fun k => k < f.number
    let (f, e) := f.turn g t.gapFirst gap e
    (fs.set t.place f, e)
  | none => (fs, e)

/-- Takes turns. -/
def run (g : Gateway E) (turns : List Turn) (fs : List Flight) (e : E) : List Flight × E :=
  turns.foldl (fun (fs, e) t => turnAt g t fs e) (fs, e)

/-- Prepares the permits from a number and a nonce on. A permit that cannot be prepared takes no
nonce. -/
def prepare (g : Gateway E) (relayer : UInt64) :
    List Bytes → Nat → UInt64 → E → List Flight × E
  | [], _, _, e => ([], e)
  | permit :: rest, number, nonce, e =>
    match (g.prepare relayer g.pointToken permit nonce).perform e with
    | (.ok transaction, e) =>
      let (fs, e) := prepare g relayer rest (number + 1) (nonce + 1) e
      (⟨number, transaction, .queued⟩ :: fs, e)
    | (.error _, e) => prepare g relayer rest (number + 1) nonce e

/-- The permit was included. -/
def isSent (f : Flight) : Bool :=
  match f.progress with
  | .settled (.ok _) => true
  | _ => false

end Flight

/-- How many permits were included and how many were not. -/
structure PermitCount where
  sent : Nat
  failed : Nat
deriving DecidableEq

/-- Signs and broadcasts the permits of a batch. -/
def broadcastPermits (g : Gateway E) (turns : Nat → List Turn) (relayer : UInt64)
    (account : Address) (permits : List Bytes) : RunStep E PermitCount := do
  match ← (g.transactionCount account).attempt with
  | .error _ => return ⟨0, permits.length⟩
  | .ok nonce =>
    let flights ← Call.of fun e =>
      let (fs, e) := Flight.prepare g relayer permits 1 nonce e
      let (fs, e) := Flight.run g (turns fs.length) fs e
      (.ok fs, e)
    if flights.all fun f => f.result?.isSome then
      let sent := (flights.filter Flight.isSent).length
      return ⟨sent, permits.length - sent⟩
    else throw .waiting

end PointExchange
