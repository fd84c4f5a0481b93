/-!
# The two directions of an exchange

Points become tokens by a deposit on the chain, tokens become points by a withdrawal from it.
-/

namespace PointExchange

/-- The direction of an exchange. -/
inductive Direction
  /-- a deposit -/
  | pointToToken
  /-- a withdrawal -/
  | tokenToPoint
deriving DecidableEq, Inhabited

namespace Direction

/-- The code in messages and in the ledger. -/
def code : Direction → Int16
  | .pointToToken => 1
  | .tokenToPoint => 2

def text : Direction → String
  | .pointToToken => "POINT_TO_TOKEN"
  | .tokenToPoint => "TOKEN_TO_POINT"

def ofCode? (c : Int) : Option Direction :=
  if c = 1 then some .pointToToken else if c = 2 then some .tokenToPoint else none

theorem ofCode?_code (d : Direction) : ofCode? d.code.toInt = some d := by
  cases d <;> rfl

end Direction
end PointExchange
