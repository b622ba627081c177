import QueryLoom.Json
import QueryLoom.Decimal.Scaled

/-!
# Decoding JSON

The decoders of plain values, lists, pairs, optional values and members of objects, from which the
decoders of the domain types are put together. A decoder answers `none` for JSON of another shape.

## Implementation notes

A member is looked up by name, so members of other names are passed over. A choice between tagged
alternatives is a text, for an alternative without content, or an object with one member.
-/

namespace QueryLoom.Json

/-- A truth value. -/
def bool? : Json → Option Bool
  | .bool b => some b
  | _ => none

/-- A text. -/
def string? : Json → Option String
  | .string s => some s
  | _ => none

/-- A whole number. -/
def int? : Json → Option Int
  | .number (.whole n) => some n
  | _ => none

/-- A whole number between zero and an excluded bound. -/
def below? (bound : Nat) (json : Json) : Option Nat := do
  let n ← json.int?
  if 0 ≤ n && n < bound then return n.toNat else none

/-- A whole number of 64 bits without sign. -/
def uint64? (json : Json) : Option UInt64 := do
  return UInt64.ofNat (← json.below? UInt64.size)

/-- A whole number of 64 bits with sign. -/
def int64? (json : Json) : Option Int64 := do
  let n ← json.int?
  if Int64.minValue.toInt ≤ n && n ≤ Int64.maxValue.toInt then return Int64.ofInt n else none

/-- An octet. -/
def octet? (json : Json) : Option UInt8 := do
  return UInt8.ofNat (← json.below? 256)

/-- A double-precision number; a whole number is rounded to the nearest. -/
def float? : Json → Option Float
  | .number (.real x) => some x
  | .number (.whole n) => some (Decimal.ofInt n)
  | _ => none

/-- A list of values. -/
def list? {α : Type} (decode : Json → Option α) : Json → Option (List α)
  | .array items => items.mapM decode
  | _ => none

/-- A pair, written as a list of two. -/
def pair? {α β : Type} (first : Json → Option α) (second : Json → Option β) :
    Json → Option (α × β)
  | .array [a, b] => do return (← first a, ← second b)
  | _ => none

/-- A value or `null`. -/
def nullable? {α : Type} (decode : Json → Option α) : Json → Option (Option α)
  | .null => some none
  | json => (decode json).map some

/-- The members of an object. -/
def members? : Json → Option (List (String × Json))
  | .object members => some members
  | _ => none

/-- The value of a member. -/
def get? (members : List (String × Json)) (name : String) : Option Json :=
  (members.find? (·.1 == name)).map (·.2)

/-- A member that has to be there. -/
def required {α : Type} (members : List (String × Json)) (name : String)
    (decode : Json → Option α) : Option α := do
  decode (← get? members name)

/-- A member that may be left out. -/
def optional {α : Type} (members : List (String × Json)) (name : String)
    (decode : Json → Option α) (default : α) : Option α :=
  match get? members name with
  | some json => decode json
  | none => some default

/-- The tag of an alternative and its content, if it has one. -/
def variant? : Json → Option (String × Option Json)
  | .string tag => some (tag, none)
  | .object [(tag, content)] => some (tag, some content)
  | _ => none

/-- Whether the content of an alternative is none; `null` counts as none. -/
def isUnit : Option Json → Bool
  | none | some .null => true
  | some _ => false

/-- An alternative without content, looked up by its tag. -/
def unit? {α : Type} (table : List (String × α)) (json : Json) : Option α := do
  let (tag, content) ← json.variant?
  if isUnit content then table.lookup tag else none

/-- The tag that a table gives an alternative. -/
def tagOf {α : Type} [BEq α] (table : List (String × α)) (a : α) : Json :=
  .string (((table.find? (·.2 == a)).map (·.1)).getD "")

end QueryLoom.Json
