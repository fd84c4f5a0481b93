import PointExchange.Text.Lossy
import PointExchange.Text.Split
import PointExchange.Url.Percent

/-!
# Parameters of a query

A query is a list of parameters with `&` between them, each a name and a value with `=` between
them. In both a plus sign stands for a blank and percent signs for octets; what these do not spell
in UTF-8 is shown by the replacement character.
-/

namespace PointExchange.Url

/-- What the text of a name or a value stands for. The plus signs go first, so that a
percent-encoded one stays. -/
def parameterText (s : List Char) : String :=
  let spaced := s.map fun c => if c == '+' then ' ' else c
  String.ofList (Text.lossy (percentDecode (Bytes.ofText (String.ofList spaced))))

/-- The parameters of a query, in their order; without an equals sign a value is empty. -/
def parameters (query : String) : List (String × String) :=
  ((Text.split (· == '&') query.toList).filter (!·.isEmpty)).map fun p =>
    let (name, value) := Text.splitFirst '=' p
    (parameterText name, parameterText (value.getD []))

/-- The last value of a parameter in a query. -/
def parameter? (query : Option String) (name : String) : Option String :=
  (((query.map parameters).getD []).reverse.find? fun p => p.1 = name).map (·.2)

/-- No query gives no parameter. -/
theorem parameter?_none (name : String) : parameter? none name = none := rfl

end PointExchange.Url
