import PointExchange.Chain.Simulated
import PointExchange.Ledger.Memory
import PointExchange.Node.Scripted
import PointExchange.Run.Once

/-!
# Collaborators in memory

A complete environment for runs: a chain of some kind beside a ledger, indices, a lock and the
shared settings, all in memory. With the message queue it is a `Site` on which runs take place.
-/

namespace PointExchange

/-- The collaborators of a run, with a chain of type `C`. -/
structure Bench (C : Type) where
  chain : C
  ledger : MemoryLedger := {}
  indices : MemoryIndices := {}
  lock : MemoryLock := {}
  settings : SharedConfig := {}

namespace Bench

variable {C : Type}

/-- The ledger as one of the bench. -/
def ledgerAccess : LedgerAccess (Bench C) where
  updateStatus id status := .of fun w =>
    let (r, l) := w.ledger.updateStatus id status
    (.ok r, { w with ledger := l })
  commit hash accepted := .of fun w =>
    let (r, l) := w.ledger.commit hash accepted
    (r, { w with ledger := l })

/-- The runner of a bench, given the gateway to its chain. -/
def runner (g : Gateway (Bench C)) : Runner (Bench C) where
  gateway := g
  indices := MemoryIndices.access indices fun i w => { w with indices := i }
  ledger := ledgerAccess
  config w := w.settings.read
  lock := MemoryLock.access lock fun l w => { w with lock := l }

end Bench

/-- The runner over a simulated chain with the keys of `start`. -/
def SimulatedChain.runner (start : SimulatedChain) : Runner (Bench SimulatedChain) :=
  Bench.runner (start.gateway.inside Bench.chain fun c w => { w with chain := c })

/-- The way to the scripted node of a bench. -/
def ScriptedChain.link : NodeLink (Bench ScriptedChain) where
  request method params := .of fun w =>
    let (r, n) := w.chain.node.request method params
    (r, { w with chain := { w.chain with node := n } })
  domain w := w.chain.domain
  keepDomain d w := { w with chain := { w.chain with domain := some d } }
  config w := w.settings.read

/-- The runner over a scripted node. -/
def ScriptedChain.runner (k : GatewayKeys) : Runner (Bench ScriptedChain) :=
  Bench.runner (ScriptedChain.link.gateway k)

end PointExchange
