/-!
# Roles of the service's keys
-/

namespace PointExchange

/-- What a key of the service is for. -/
inductive KeyRole
  /-- signs the authorisations of deposits -/
  | manager
  /-- pays for transactions and submits them -/
  | relayer
deriving DecidableEq

def KeyRole.text : KeyRole → String
  | .manager => "manager"
  | .relayer => "relayer"

end PointExchange
