import QueryLoom.Query.Tree
import QueryLoom.Decimal.Written

/-!
# Values

The written form of values, and what depends on their kind.
-/

namespace QueryLoom

namespace Value

/-- Whether a value may be an element of a collection that is bound whole. An interval is bound
on its own. -/
def bindsInCollection : Value → Bool
  | .interval _ => false
  | _ => true

/-- Whether a value is NULL. -/
def isNull : Value → Bool
  | .null => true
  | _ => false

mutual
/-- The written form of a value. A text stands between single quotes as it is. -/
def display : Value → String
  | .null => "NULL"
  | .bool b => if b then "true" else "false"
  | .int n => toString n.toInt
  | .float x => Decimal.plain.render x
  | .text s => "'" ++ s ++ "'"
  | .date day => day.render
  | .dateTime moment => moment.render " "
  | .interval milliseconds => toString milliseconds.toInt ++ "ms"
  | .uuid id => id.render
  | .bytes octets => String.ofList (octets.flatMap (Text.hexByte true))
  | .collection items => "[" ++ ", ".intercalate (displays items) ++ "]"
  | .subquery nested => "(SUBQUERY " ++ nested.entity ++ ")"
termination_by structural value => value

/-- The written forms of some values. -/
def displays : List Value → List String
  | [] => []
  | item :: rest => item.display :: displays rest
termination_by structural items => items
end

/-- The bare text of a value: a text without quotes, and nothing for NULL. -/
def bareText : Value → String
  | .text s => s
  | .null => ""
  | value => value.display

/-- The milliseconds of a span of time, fractions of one dropped; none beyond 64 bits. -/
def ofSpan? (seconds : Int) (nanoseconds : Nat) : Option Value :=
  let total := seconds * 1000000000 + nanoseconds
  let limit := Int64.maxValue.toInt * 1000000
  if nanoseconds < 1000000000 && -limit ≤ total && total ≤ limit then
    some (.interval (Int64.ofInt (total.tdiv 1000000)))
  else none

mutual
/-- The value with every UUID in it, nested collections included, replaced by its octets. Nested
queries are left alone. -/
def withUuidOctets : Value → Value
  | .uuid id => .bytes id.octets
  | .collection items => .collection (withUuidOctetsList items)
  | value => value
termination_by structural value => value

/-- Some values with every UUID in them replaced by its octets. -/
def withUuidOctetsList : List Value → List Value
  | [] => []
  | item :: rest => item.withUuidOctets :: withUuidOctetsList rest
termination_by structural items => items
end

end Value

end QueryLoom
