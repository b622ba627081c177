import QueryLoom.Command

/-!
# Building queries and commands

Queries and commands put together step by step.
-/

namespace QueryLoom

/-- The page of a number, counted from one, and a size. -/
def Paging.page (number size : UInt64) : Paging :=
  ⟨(number - if number == 0 then 0 else 1) * size, size⟩

namespace Condition

/-- Conditions with the same connective in front of each. -/
def groupOf (connector : LogicalOp) (conditions : List Condition) : Condition :=
  .group (conditions.map fun condition => ⟨connector, condition⟩)

/-- All of some conditions. -/
def all (conditions : List Condition) : Condition := groupOf .and conditions

/-- Any of some conditions. -/
def any (conditions : List Condition) : Condition := groupOf .or conditions

end Condition

namespace Query

/-- A query of a script with bindings of its own. -/
def raw (script : String) (parameters : Parameters) : Query :=
  { text := some ⟨script, parameters⟩ }

/-- Projects more fields. -/
def columns (query : Query) (fields : List String) : Query :=
  { query with fields := query.fields ++ fields }

/-- Adds a condition behind a connective. -/
def push (query : Query) (connector : LogicalOp) (condition : Condition) : Query :=
  { query with conditions := query.conditions ++ [⟨connector, condition⟩] }

/-- Adds a comparison behind AND. -/
def filter (query : Query) (field : String) (operator : Operator) (value : Value) : Query :=
  query.push .and (.criterion { field, operator, value })

/-- Adds a comparison behind OR. -/
def orFilter (query : Query) (field : String) (operator : Operator) (value : Value) : Query :=
  query.push .or (.criterion { field, operator, value })

/-- Adds an equality behind AND. -/
def whereEqual (query : Query) (field : String) (value : Value) : Query :=
  query.filter field .equal value

/-- Sorts by one more field. -/
def orderBy (query : Query) (field : String) (order : SortOrder) : Query :=
  { query with sorts := query.sorts ++ [{ field, order }] }

/-- Joins another query; without pairs of fields they are inferred. -/
def join (query : Query) (kind : JoinKind) (fields : List (String × String)) (other : Query) :
    Query :=
  { query with joins := query.joins ++ [{ kind, fields, query := other }] }

/-- Combines with another query. -/
def combine (query : Query) (kind : CombineKind) (other : Query) : Query :=
  { query with combines := query.combines ++ [⟨kind, other⟩] }

/-- Traverses a hierarchy. -/
def recurse (query : Query) (key relation : String) (direction : TraversalDirection) : Query :=
  { query with recursion := some ⟨key, relation, direction⟩ }

/-- Groups by more fields. -/
def groupedBy (query : Query) (fields : List String) : Query :=
  { query with groupBy := query.groupBy ++ fields }

/-- Adds a comparison of groups behind AND. -/
def havingCriterion (query : Query) (criterion : Criterion) : Query :=
  { query with having := query.having ++ [⟨.and, .criterion criterion⟩] }

/-- Whether there are conditions. -/
def hasConditions (query : Query) : Bool := !query.conditions.isEmpty

end Query

namespace InsertCommand

/-- Gives a property a value. -/
def withValue (command : InsertCommand) (property : String) (value : Value) : InsertCommand :=
  { command with values := command.values ++ [(property, value)] }

end InsertCommand

namespace UpdateCommand

/-- Assigns a value to a property. -/
def setValue (command : UpdateCommand) (property : String) (value : Value) : UpdateCommand :=
  { command with assignments := command.assignments ++ [(property, .value value)] }

/-- Assigns a calculated value to a property. -/
def calculate (command : UpdateCommand) (property : String) (op : CalculateOp) (value : Value) :
    UpdateCommand :=
  { command with assignments := command.assignments ++ [(property, .calculate op value)] }

/-- Adds a split value. -/
def withSplitValue (command : UpdateCommand) (value : Value) : UpdateCommand :=
  { command with splitValues := command.splitValues ++ [value] }

end UpdateCommand

namespace DeleteCommand

/-- Adds a split value. -/
def withSplitValue (command : DeleteCommand) (value : Value) : DeleteCommand :=
  { command with splitValues := command.splitValues ++ [value] }

end DeleteCommand

end QueryLoom
