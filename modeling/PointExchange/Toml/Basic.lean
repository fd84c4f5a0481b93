/-!
# TOML values

The values of a settings file. Of numbers with a fraction and of dates only their presence is kept,
because no setting is one.

A table remembers how it came about, which decides what may still be added to it:

* one with a header of its own is never opened again by a header;
* one that is only implied by the header of a table below it may get its own header once;
* one that dotted keys have made may be extended by dotted keys, but gets no header;
* one that is written inline is complete.
-/

namespace PointExchange.Toml

/-- How a table came about. -/
inductive Origin
  | header
  | implied
  | dotted
  | inlined
deriving DecidableEq

/-- A value. -/
inductive Value
  | string (s : String)
  | integer (i : Int)
  | boolean (b : Bool)
  | fraction
  | moment
  | array (items : List Value)
  | table (origin : Origin) (members : List (String × Value))
  /-- an array of tables with headers -/
  | tables (items : List (List (String × Value)))
deriving Inhabited

/-- The members of a table, in their order. -/
abbrev Members := List (String × Value)

/-- Reads a piece of a text and gives the rest. -/
abbrev Scanner (α : Type) := List Char → Option (α × List Char)

namespace Members

def get? (ms : Members) (key : String) : Option Value := ms.lookup key

/-- Puts a value in the place of the one with the same key, which is there. -/
def replace (ms : Members) (key : String) (v : Value) : Members :=
  ms.map fun m => if m.1 = key then (key, v) else m

/-- Adds a member with a new key. -/
def add? (ms : Members) (key : String) (v : Value) : Option Members :=
  if (ms.get? key).isSome then none else some (ms ++ [(key, v)])

/-- Changes the last one of some tables. -/
def amendLast (f : Members → Option Members) : List Members → Option (List Members)
  | [] => none
  | [ms] => (f ms).map fun ms => [ms]
  | ms :: rest => (amendLast f rest).map (ms :: ·)

end Members
end PointExchange.Toml
