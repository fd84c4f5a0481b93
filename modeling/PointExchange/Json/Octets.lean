import PointExchange.Address
import PointExchange.Json.Basic

/-!
# Byte strings in JSON

A byte string is given as a text of hexadecimal digits or as an array of numbers below 256.
-/

namespace PointExchange.Json

/-- A byte given as a number. -/
def byte? (v : Json) : Option UInt8 :=
  match v.natural? with
  | some n => if n < 256 then some n.toUInt8 else none
  | none => none

theorem length_of_mapM_byte? {items : List Json} {b : Bytes} (h : items.mapM byte? = some b) :
    b.length = items.length := by
  induction items generalizing b with
  | nil => simp_all
  | cons v r ih =>
    simp only [List.mapM_cons, Option.bind_eq_bind, Option.bind_eq_some_iff, Option.pure_def,
      Option.some.injEq] at h
    obtain ⟨_, _, c, hc, rfl⟩ := h
    simp [ih hc]

/-- An array of bytes only spells them all. -/
theorem mapM_byte?_eq (items : List Json) :
    items.mapM byte? =
      if items.all fun v => (byte? v).isSome then some (items.filterMap byte?) else none := by
  induction items with
  | nil => rfl
  | cons v r ih =>
    cases hv : byte? v with
    | none => simp [List.mapM_cons, hv]
    | some b =>
      by_cases hr : r.all fun v => (byte? v).isSome
      · simp_all [List.mapM_cons]
      · simp_all [List.mapM_cons]

/-- The bytes of a text of hexadecimal digits or of an array of numbers. -/
def bytes? : Json → Option Bytes
  | .string s => Hex.read? s.toList
  | .array items => items.mapM byte?
  | _ => none

/-- A byte string of a fixed length. Behind the bytes of an array one more item is let pass, if it
is no byte itself. -/
def fixedBytes? (length : Nat) : Json → Option Bytes
  | .array items =>
    match (items.take length).mapM byte?, items.drop length with
    | some b, [] => if b.length = length then some b else none
    | some b, [v] => if (byte? v).isNone then some b else none
    | _, _ => none
  | v => v.bytes?.filter fun b => b.length = length

def address? (v : Json) : Option Address := (v.fixedBytes? 20).bind Address.ofBytes?

/-- A byte string of a fixed length has this length. -/
theorem length_of_fixedBytes? {length : Nat} {v : Json} {b : Bytes}
    (h : v.fixedBytes? length = some b) : b.length = length := by
  unfold fixedBytes? at h
  split at h
  · next items =>
    split at h
    · next c hc hr =>
      split at h <;> simp_all
    · next c w hc hr =>
      split at h
      · obtain rfl := Option.some.inj h
        have hl : items.length = length + 1 := by
          have := congrArg List.length hr
          simp only [List.length_drop, List.length_cons, List.length_nil] at this
          omega
        rw [length_of_mapM_byte? hc, List.length_take]
        omega
      · simp at h
    · simp at h
  · simpa using (Option.filter_eq_some_iff.mp h).2

end PointExchange.Json
