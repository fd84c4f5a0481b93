/-!
# Errors with a code

Every error of the service has a code such as `[S-GW-001]` that can be searched for in logs, and a
text for people. Where an error is cited inside another one, the code goes first.
-/

namespace PointExchange

/-- An error type with codes and texts. -/
class Coded (ε : Type) where
  code : ε → String
  text : ε → String

/-- The code and the text of an error. -/
def cited {ε : Type} [Coded ε] (e : ε) : String := Coded.code e ++ " " ++ Coded.text e

end PointExchange
