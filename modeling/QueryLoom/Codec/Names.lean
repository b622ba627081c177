import QueryLoom.Json.Decode
import QueryLoom.Query.Tree

/-!
# Names in JSON

The names under which the words of closed vocabularies stand in JSON.
-/

namespace QueryLoom

/-- The names of connectives. -/
def LogicalOp.names : List (String × LogicalOp) := [("And", .and), ("Or", .or)]

/-- The names of directions of a sort. -/
def SortOrder.names : List (String × SortOrder) := [("Asc", .ascending), ("Desc", .descending)]

/-- The names of kinds of joins. -/
def JoinKind.names : List (String × JoinKind) :=
  [("Inner", .inner), ("Left", .left), ("Right", .right), ("Full", .full), ("Cross", .cross)]

/-- The names of comparisons between joined fields. -/
def JoinOperator.names : List (String × JoinOperator) :=
  [("Equal", .equal), ("NotEqual", .notEqual), ("GreaterThan", .greaterThan),
    ("GreaterThanOrEqual", .greaterThanOrEqual), ("LessThan", .lessThan),
    ("LessThanOrEqual", .lessThanOrEqual)]

/-- The names of set operations. -/
def CombineKind.names : List (String × CombineKind) :=
  [("UnionAll", .unionAll), ("Union", .union), ("Except", .difference),
    ("Intersect", .intersection)]

/-- The names of directions of a traversal. -/
def TraversalDirection.names : List (String × TraversalDirection) := [("Up", .up), ("Down", .down)]

/-- The names of aggregates. -/
def AggregateFunction.names : List (String × AggregateFunction) :=
  [("Count", .count), ("Sum", .sum), ("Max", .max), ("Min", .min), ("Avg", .avg)]

/-- The names of arithmetic operations. -/
def CalculateOp.names : List (String × CalculateOp) :=
  [("Add", .add), ("Subtract", .subtract), ("Multiply", .multiply), ("Divide", .divide)]

/-- The names of functions of a column. -/
def ColumnFunction.names : List (String × ColumnFunction) :=
  [("StringLength", .stringLength), ("Trim", .trim), ("Upper", .upper), ("Lower", .lower),
    ("Count", .count), ("Sum", .sum), ("Max", .max), ("Min", .min), ("Avg", .avg)]

/-- The names of functions of a path. -/
def PathFunction.names : List (String × PathFunction) :=
  [("JsonValue", .jsonValue), ("JsonQuery", .jsonQuery)]

/-- The names of functions of an operand. -/
def OperandFunction.names : List (String × OperandFunction) :=
  [("Add", .add), ("Subtract", .subtract), ("Multiply", .multiply), ("Divide", .divide),
    ("Modulo", .modulo), ("BitAnd", .bitAnd), ("BitOr", .bitOr), ("BitXor", .bitXor),
    ("LeftShift", .leftShift), ("RightShift", .rightShift), ("Concat", .concat)]

/-- The names of isolation levels. -/
def IsolationLevel.names : List (String × IsolationLevel) :=
  [("ReadCommitted", .readCommitted), ("Serializable", .serializable)]

/-- The names of kinds of scripts. -/
def ScriptKind.names : List (String × ScriptKind) := [("Text", .text), ("Procedure", .procedure)]

/-- The names of directions of a parameter. -/
def Direction.names : List (String × Direction) := [("Input", .input), ("Output", .output)]

/-- The names of outputs without an aggregate. -/
def Output.names : List (String × Output) :=
  [("Rows", .rows), ("Count", .count), ("Exists", .existence)]

end QueryLoom
