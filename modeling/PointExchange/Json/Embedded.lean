import PointExchange.Json.Parser
import PointExchange.Json.Printer

/-!
# Documents written inside documents

A value can carry a document as a text: an object whose first member has the name `embeddedName`
stands for the document that this member spells. It has no other member, and its text is one whole
document, in which further documents may be written the same way. Under that name anywhere else, a
member is a member like any other.

The text of a document inside a text is shorter than that text, which bounds the nesting.
-/

namespace PointExchange.Json

/-- The name of the member that spells a document. -/
def embeddedName : String := "$serde_json::private::RawValue"

/-- The members are those of an object that stands for a document. -/
def isEmbedded : List (String × Json) → Bool
  | (k, _) :: _ => k == embeddedName
  | [] => false

mutual

/-- Puts the documents that a value spells into their places, when `read` gives the document of a
text; `none` if one of them cannot be read. -/
def expandWith (read : String → Option Json) : Json → Option Json
  | .array items => (expandItemsWith read items).map .array
  | .object members =>
    if isEmbedded members then
      match members with
      | [(_, .string s)] => read s
      | _ => none
    else (expandMembersWith read members).map .object
  | v => some v

def expandItemsWith (read : String → Option Json) : List Json → Option (List Json)
  | [] => some []
  | v :: r => do return (← expandWith read v) :: (← expandItemsWith read r)

def expandMembersWith (read : String → Option Json) :
    List (String × Json) → Option (List (String × Json))
  | [] => some []
  | (k, v) :: r => do return (k, ← expandWith read v) :: (← expandMembersWith read r)

end

/-- Puts the documents that a value spells into their places, if their texts are shorter than a
bound. -/
def expandBelow? : Nat → Json → Option Json
  | 0, v => expandWith (fun _ => none) v
  | bound + 1, v =>
    let read (s : String) : Option Json :=
      if s.length ≤ bound then (parse s.toList).bind fun w => expandBelow? bound w else none
    expandWith read v

/-- The value with the documents that it spells in their places. No string of a value is as long as
the value's own text. -/
def expand? (v : Json) : Option Json := expandBelow? (print v).length v

/-- A string spells no document, whatever it holds. -/
theorem expand?_string (s : String) : expand? (.string s) = some (.string s) := by
  rw [expand?]
  cases (print (.string s)).length <;> simp [expandBelow?, expandWith]

end PointExchange.Json
