import QueryLoom.Calendar.DateTime
import QueryLoom.Uuid
import QueryLoom.Query.Operator

/-!
# Query trees

Queries that know no SQL dialect: conditions, sorts, joins, set operations and a hierarchical
traversal over named entities, with the values that conditions compare to.

## Implementation notes

A value may be a nested query and a query holds values, so the types form one mutual block, and
functions over them recurse structurally through the lists between them.
-/

namespace QueryLoom

/-- A hierarchical traversal: `key` names the key of a node, `relation` the field that points to
its parent. -/
structure Recursion where
  key : String
  relation : String
  direction : TraversalDirection
deriving DecidableEq

/-- A window of rows. -/
structure Paging where
  offset : UInt64
  size : UInt64
deriving DecidableEq

/-- What a query answers. -/
inductive Output where
  | rows
  | count
  | existence
  | aggregate (function : AggregateFunction)
deriving DecidableEq

mutual
/-- A value to compare with, to store or to bind. -/
inductive Value where
  | null
  | bool (b : Bool)
  | int (n : Int64)
  | float (x : Float)
  | text (s : String)
  | date (date : Date)
  | dateTime (moment : DateTime)
  | interval (milliseconds : Int64)
  | uuid (uuid : Uuid)
  | bytes (octets : List UInt8)
  | collection (items : List Value)
  | subquery (query : Query)

/-- A named binding. -/
structure Parameter where
  name : String
  value : Value
  direction : Direction := .input

/-- An ordered collection of named bindings. -/
structure Parameters where
  items : List Parameter := []

/-- A function applied to a column before it is compared or sorted by. -/
inductive Conversion where
  | column (function : ColumnFunction)
  | path (function : PathFunction) (path : String)
  | operand (function : OperandFunction) (value : Value)

/-- A comparison of a field with a value. -/
structure Criterion where
  field : String
  operator : Operator
  value : Value
  conversion : Option Conversion := none

/-- A condition on rows. -/
inductive Condition where
  | criterion (criterion : Criterion)
  | group (entries : List ConditionEntry)
  | constant (holds : Bool)

/-- A condition and the connective to the one before it. -/
structure ConditionEntry where
  connector : LogicalOp
  condition : Condition

/-- A field to sort by. -/
structure SortKey where
  field : String
  order : SortOrder
  conversion : Option Conversion := none

/-- A join onto another query; without explicit pairs of fields they are inferred. -/
structure Join where
  kind : JoinKind
  fields : List (String × String) := []
  operator : JoinOperator := .equal
  query : Query

/-- A set operation with another query. -/
structure Combine where
  kind : CombineKind
  query : Query

/-- A script with bindings of its own. -/
structure TextScript where
  script : String
  parameters : Parameters

/-- A query. Without fields it projects every field of its entity; a size of zero caps nothing; a
text replaces all the rest. -/
structure Query where
  entity : String := ""
  conditions : List ConditionEntry := []
  sorts : List SortKey := []
  joins : List Join := []
  combines : List Combine := []
  recursion : Option Recursion := none
  fields : List String := []
  distinct : Bool := false
  groupBy : List String := []
  having : List ConditionEntry := []
  size : UInt64 := 0
  paging : Option Paging := none
  output : Output := .rows
  text : Option TextScript := none
end

end QueryLoom
