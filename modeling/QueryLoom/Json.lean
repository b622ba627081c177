/-!
# JSON trees

JSON values as data. A number is whole and of at most 64 bits, or a double-precision number; the
members of an object keep their order.

## Implementation notes

`Json.depth` bounds the recursion of the decoders: a decoder that spends one unit of fuel on each
step into a child never runs out of `depth` units.
-/

namespace QueryLoom

/-- A JSON number. -/
inductive JsonNumber where
  | whole (n : Int)
  | real (x : Float)

/-- A JSON value. -/
inductive Json where
  | null
  | bool (b : Bool)
  | number (n : JsonNumber)
  | string (s : String)
  | array (items : List Json)
  | object (members : List (String × Json))

namespace Json

/-- A whole number as JSON. -/
def ofInt (n : Int) : Json := .number (.whole n)

/-- A natural number as JSON. -/
def ofNat (n : Nat) : Json := .number (.whole n)

/-- A double-precision number as JSON; one that is not finite is `null`. -/
def ofFloat (x : Float) : Json := if x.isFinite then .number (.real x) else .null

/-- A value that may be absent; absence is `null`. -/
def ofOption {α : Type} (encode : α → Json) : Option α → Json
  | none => .null
  | some a => encode a

/-- A list of values as an array. -/
def ofList {α : Type} (encode : α → Json) (items : List α) : Json :=
  .array (items.map encode)

/-- A list of texts as an array. -/
def ofStrings (items : List String) : Json := ofList .string items

/-- A tagged value: an object whose only member is the tag. -/
def tagged (tag : String) (content : Json) : Json := .object [(tag, content)]

mutual
/-- The number of levels of a JSON value. -/
def depth : Json → Nat
  | .array items => depthItems items + 1
  | .object members => depthMembers members + 1
  | _ => 1
termination_by structural json => json

/-- The levels of the deepest of some values. -/
def depthItems : List Json → Nat
  | [] => 0
  | item :: rest => max item.depth (depthItems rest)
termination_by structural items => items

/-- The levels of the deepest of some members. -/
def depthMembers : List (String × Json) → Nat
  | [] => 0
  | (_, value) :: rest => max value.depth (depthMembers rest)
termination_by structural members => members
end

end Json

end QueryLoom
