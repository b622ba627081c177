/-!
# Operators and keywords

The closed vocabularies of queries and commands, and how each of their words is written in SQL.

## Implementation notes

Comparison operators carry their SQL text, whether they take an operand, and how a LIKE pattern is
made from the text of the operand. Set difference is written `MINUS`.
-/

namespace QueryLoom

/-- The connective between a condition and the one before it. -/
inductive LogicalOp where
  | and
  | or
deriving Repr, DecidableEq

/-- The SQL keyword of a connective. -/
def LogicalOp.keyword : LogicalOp → String
  | .and => "AND"
  | .or => "OR"

/-- The comparison of a criterion. -/
inductive Operator where
  | equal
  | notEqual
  | greaterThan
  | greaterThanOrEqual
  | lessThan
  | lessThanOrEqual
  | isIn
  | notIn
  | like
  | beginLike
  | endLike
  | notLike
  | notBeginLike
  | notEndLike
  | isNull
  | notNull
deriving Repr, DecidableEq

/-- How the text of an operand becomes a LIKE pattern. -/
inductive Pattern where
  | contains
  | startsWith
  | endsWith
deriving Repr, DecidableEq

/-- The pattern made from a text. -/
def Pattern.apply : Pattern → String → String
  | .contains, text => "%" ++ text ++ "%"
  | .startsWith, text => text ++ "%"
  | .endsWith, text => "%" ++ text

namespace Operator

/-- The SQL text of a comparison. -/
def sql : Operator → String
  | .equal => "="
  | .notEqual => "<>"
  | .greaterThan => ">"
  | .greaterThanOrEqual => ">="
  | .lessThan => "<"
  | .lessThanOrEqual => "<="
  | .isIn => "IN"
  | .notIn => "NOT IN"
  | .like | .beginLike | .endLike => "LIKE"
  | .notLike | .notBeginLike | .notEndLike => "NOT LIKE"
  | .isNull => "IS NULL"
  | .notNull => "IS NOT NULL"

/-- Whether a comparison has an operand. -/
def takesOperand : Operator → Bool
  | .isNull | .notNull => false
  | _ => true

/-- The pattern of a LIKE comparison. -/
def pattern? : Operator → Option Pattern
  | .like | .notLike => some .contains
  | .beginLike | .notBeginLike => some .startsWith
  | .endLike | .notEndLike => some .endsWith
  | _ => none

/-- Whether a comparison takes a collection and honours the size of a nested query. -/
def isMembership : Operator → Bool
  | .isIn | .notIn => true
  | _ => false

/-- The names under which comparisons are exchanged. -/
def names : List (String × Operator) :=
  [("Equal", .equal), ("NotEqual", .notEqual), ("GreaterThan", .greaterThan),
    ("GreaterThanOrEqual", .greaterThanOrEqual), ("LessThan", .lessThan),
    ("LessThanOrEqual", .lessThanOrEqual), ("In", .isIn), ("NotIn", .notIn), ("Like", .like),
    ("BeginLike", .beginLike), ("EndLike", .endLike), ("NotLike", .notLike),
    ("NotBeginLike", .notBeginLike), ("NotEndLike", .notEndLike), ("IsNull", .isNull),
    ("NotNull", .notNull)]

/-- The name under which a comparison is exchanged. -/
def name (operator : Operator) : String :=
  ((names.find? (·.2 == operator)).map (·.1)).getD ""

/-- A comparison takes an operand exactly when it is no test for NULL. -/
theorem takesOperand_iff (operator : Operator) :
    operator.takesOperand = true ↔ operator ≠ .isNull ∧ operator ≠ .notNull := by
  cases operator <;> decide

end Operator

/-- The direction of a sort. -/
inductive SortOrder where
  | ascending
  | descending
deriving Repr, DecidableEq

/-- The SQL keyword of a direction. -/
def SortOrder.keyword : SortOrder → String
  | .ascending => "ASC"
  | .descending => "DESC"

/-- The kind of a join. -/
inductive JoinKind where
  | inner
  | left
  | right
  | full
  | cross
deriving Repr, DecidableEq

/-- The SQL keyword of a join. -/
def JoinKind.keyword : JoinKind → String
  | .inner => "INNER JOIN"
  | .left => "LEFT JOIN"
  | .right => "RIGHT JOIN"
  | .full => "FULL JOIN"
  | .cross => "CROSS JOIN"

/-- The comparison between joined fields. -/
inductive JoinOperator where
  | equal
  | notEqual
  | greaterThan
  | greaterThanOrEqual
  | lessThan
  | lessThanOrEqual
deriving Repr, DecidableEq

/-- The SQL text of a comparison between joined fields. -/
def JoinOperator.sql : JoinOperator → String
  | .equal => "="
  | .notEqual => "<>"
  | .greaterThan => ">"
  | .greaterThanOrEqual => ">="
  | .lessThan => "<"
  | .lessThanOrEqual => "<="

/-- A set operation. -/
inductive CombineKind where
  | unionAll
  | union
  | difference
  | intersection
deriving Repr, DecidableEq

/-- The SQL keyword of a set operation. -/
def CombineKind.keyword : CombineKind → String
  | .unionAll => "UNION ALL"
  | .union => "UNION"
  | .difference => "MINUS"
  | .intersection => "INTERSECT"

/-- The direction of a hierarchical traversal: towards ancestors or towards descendants. -/
inductive TraversalDirection where
  | up
  | down
deriving Repr, DecidableEq

/-- An aggregate over a whole result. -/
inductive AggregateFunction where
  | count
  | sum
  | max
  | min
  | avg
deriving Repr, DecidableEq

/-- The SQL keyword of an aggregate. -/
def AggregateFunction.keyword : AggregateFunction → String
  | .count => "COUNT"
  | .sum => "SUM"
  | .max => "MAX"
  | .min => "MIN"
  | .avg => "AVG"

/-- The arithmetic of a calculated assignment. -/
inductive CalculateOp where
  | add
  | subtract
  | multiply
  | divide
deriving Repr, DecidableEq

/-- The SQL symbol of an arithmetic operation. -/
def CalculateOp.symbol : CalculateOp → String
  | .add => "+"
  | .subtract => "-"
  | .multiply => "*"
  | .divide => "/"

/-- A function of a column alone. -/
inductive ColumnFunction where
  | stringLength
  | trim
  | upper
  | lower
  | count
  | sum
  | max
  | min
  | avg
deriving Repr, DecidableEq

/-- The SQL keyword of a function of a column. -/
def ColumnFunction.keyword : ColumnFunction → String
  | .stringLength => "LENGTH"
  | .trim => "TRIM"
  | .upper => "UPPER"
  | .lower => "LOWER"
  | .count => "COUNT"
  | .sum => "SUM"
  | .max => "MAX"
  | .min => "MIN"
  | .avg => "AVG"

/-- A function of a JSON column and a path. -/
inductive PathFunction where
  | jsonValue
  | jsonQuery
deriving Repr, DecidableEq

/-- The SQL keyword of a function of a path. -/
def PathFunction.keyword : PathFunction → String
  | .jsonValue => "JSON_VALUE"
  | .jsonQuery => "JSON_QUERY"

/-- A function of a column and an operand. -/
inductive OperandFunction where
  | add
  | subtract
  | multiply
  | divide
  | modulo
  | bitAnd
  | bitOr
  | bitXor
  | leftShift
  | rightShift
  | concat
deriving Repr, DecidableEq

/-- How a function of a column and an operand is written. -/
inductive OperandForm where
  | infixed (symbol : String)
  | called (keyword : String)
  | unsupported (feature : String)
deriving Repr, DecidableEq

/-- The form of a function of a column and an operand. SQL has no bitwise function but AND. -/
def OperandFunction.form : OperandFunction → OperandForm
  | .add => .infixed "+"
  | .subtract => .infixed "-"
  | .multiply => .infixed "*"
  | .divide => .infixed "/"
  | .modulo => .called "MOD"
  | .bitAnd => .called "BITAND"
  | .concat => .infixed "||"
  | .bitOr => .unsupported "bitwise OR conversion"
  | .bitXor => .unsupported "bitwise XOR conversion"
  | .leftShift => .unsupported "left shift conversion"
  | .rightShift => .unsupported "right shift conversion"

/-- The isolation of a transaction. -/
inductive IsolationLevel where
  | readCommitted
  | serializable
deriving Repr, DecidableEq

/-- The statement that sets an isolation level. -/
def IsolationLevel.sql : IsolationLevel → String
  | .readCommitted => "SET TRANSACTION ISOLATION LEVEL READ COMMITTED"
  | .serializable => "SET TRANSACTION ISOLATION LEVEL SERIALIZABLE"

/-- The kind of a script. -/
inductive ScriptKind where
  | text
  | procedure
deriving Repr, DecidableEq

/-- The direction of a parameter; an output is filled by the database. -/
inductive Direction where
  | input
  | output
deriving Repr, DecidableEq

end QueryLoom
