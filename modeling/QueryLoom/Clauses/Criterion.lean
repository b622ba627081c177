import QueryLoom.Clauses.Conversion
import QueryLoom.Clauses
import QueryLoom.Sql.Selection

/-!
# Comparisons

The predicates of comparisons with bound values, and the SELECT of a comparison with a nested
query.

## Implementation notes

A collection is bound as one parameter if all its elements may be, and element by element
otherwise. Nothing is in an empty collection. A nested query compared to a single value answers at
most one row; compared as a set it answers as many as its own size allows.
-/

namespace QueryLoom

/-- The text of a comparison. -/
def comparison (column : Sql) (operator : Operator) (right : Sql) : Sql :=
  column ++ Sql.text (" " ++ operator.sql ++ " ") ++ right

namespace Compiler

/-- A comparison with a collection. -/
def compareCollection (c : Compiler) (entity : Entity) (property : String) (column : Sql)
    (operator : Operator) (items : List Value) : Compile Predicate := do
  if !operator.isMembership then
    throw (.invalidValue ("collection value for operator " ++ operator.name ++ " on " ++
      entity.name ++ "." ++ property))
  else if items.isEmpty then
    return Predicate.constant (operator == .notIn)
  else if items.all Value.bindsInCollection then
    let operand ← c.bind property (.collection items)
    return Predicate.leaf (comparison column operator operand)
  else
    let operands ← items.mapM (c.bind property)
    return Predicate.leaf (comparison column operator (Sql.separated ", " operands).parens)

/-- A comparison with a single value. -/
def compareScalar (c : Compiler) (property : String) (column : Sql) (operator : Operator)
    (value : Value) : Compile Predicate := do
  if operator.isMembership then
    let operand ← c.bind property value
    return Predicate.leaf (comparison column operator operand.parens)
  else
    let value := match operator.pattern? with
      | none => value
      | some pattern => .text (pattern.apply value.bareText)
    let operand ← c.bind property value
    return Predicate.leaf (comparison column operator operand)

end Compiler

/-- What a nested query projects and how many rows it answers. -/
structure NestedTarget where
  entity : Entity
  property : String
  field : Field
  limit : Option Nat

/-- The cap that a size stands for; a size of zero is none. -/
def rowCap (size : UInt64) : Option Nat :=
  if size == 0 then none else some size.toNat

namespace Compiler

/-- The target of a nested query: its first field. -/
def nestedTarget (c : Compiler) (operator : Operator) (query : Query) :
    Except Error NestedTarget := do
  let entity ← c.schema.entity query.entity
  match query.fields with
  | [] => throw (.missingQueryField entity.name)
  | property :: _ =>
    let field ← entity.field property
    return ⟨entity, property, field, if operator.isMembership then rowCap query.size else some 1⟩

/-- The selection of a nested query, given its clauses. -/
def nestedSelection (c : Compiler) (target : NestedTarget) (tableAlias : String) (distinct : Bool)
    (clauses : Clauses) : Selection :=
  let item : SelectItem := ⟨c.conventions.column tableAlias target.field, none⟩
  { inner := [item], outer := [item], table := c.table target.entity, tableAlias
    join := JoinedTable.list clauses.usableJoin
    condition := clauses.condition
    compound := clauses.hasOr
    combine := CombinedSelect.list clauses.combine
    sort := clauses.sort
    distinct }

/-- A comparison with a nested query, given its clauses. -/
def compareNested (c : Compiler) (column : Sql) (operator : Operator) (target : NestedTarget)
    (tableAlias : String) (distinct : Bool) (clauses : Clauses) : Predicate :=
  let selection := c.nestedSelection target tableAlias distinct clauses
  { Predicate.leaf (comparison column operator (selection.limited target.limit).sql.parens) with
    trace := clauses.trace }

end Compiler

end QueryLoom
