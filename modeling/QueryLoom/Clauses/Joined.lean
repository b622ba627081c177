import QueryLoom.Clauses
import QueryLoom.Scope

/-!
# Joined tables of a join

The tables that a join adds, given the clauses of the joined query.

## Implementation notes

The condition of the joined query goes into the ON clause, except that a cross join has none and
that a traversal replaces the condition; then the condition is ANDed to that of the joining query.
A query with set operations is joined as a derived table.
-/

namespace QueryLoom.Compiler

/-- The pairs of fields that a join compares: the given pairs, the primary keys of an entity joined
with itself, or the relations between two entities in either direction. -/
def joinPairs (source target : Entity) (fields : List (String × String)) :
    List (String × String) :=
  if !fields.isEmpty then fields
  else if source.name == target.name then
    source.primaryKeys.map fun key => (key.property, key.property)
  else
    match source.relationFields target.name with
    | [] => (target.relationFields source.name).map Prod.swap
    | forward => forward

/-- The comparisons of joined fields; a cross join has none. -/
def joinPredicates (c : Compiler) (source target : Entity) (kind : JoinKind)
    (fields : List (String × String)) (operator : JoinOperator)
    (sourceAlias targetAlias : String) : Except Error (List SearchText) :=
  if kind == .cross then .ok []
  else
    match joinPairs source target fields with
    | [] => .error (.missingJoinPredicate source.name target.name)
    | pairs => pairs.mapM fun (left, right) => do
      let left ← source.field left
      let right ← target.field right
      return SearchText.leaf (c.conventions.column sourceAlias left ++
        Sql.text (" " ++ operator.sql ++ " ") ++ c.conventions.column targetAlias right)

/-- The tables that a join adds, and the condition of the joining query after it. -/
def joinedTables (c : Compiler) (source : Entity) (sourceAlias : String) (target : Entity)
    (tableAlias : String) (kind : JoinKind) (fields : List (String × String))
    (operator : JoinOperator) (projection : List String) (sub : Clauses)
    (condition : Predicate) : Compile (List JoinedTable × Predicate) := do
  let table := c.table target
  if sub.combine.isEmpty then
    let on ← c.joinPredicates source target kind fields operator sourceAlias tableAlias
    let own := sub.predicate
    let inOn := sub.allowJoin && kind != .cross
    let on := if !own.isEmpty && inOn then on ++ [own.operand] else on
    let condition := if inOn then condition else condition.and own
    return (⟨kind, .table table, tableAlias, on⟩ :: sub.usableJoin, condition)
  else
    let derivedAlias ← freshAlias
    let projected ← target.queryFields projection
    let items := projected.map (c.conventions.item tableAlias false)
    let select := plainSelect items table tableAlias sub.usableJoin sub.condition ++
      Sql.clause " " (CombinedSelect.list sub.combine)
    let on ← c.joinPredicates source target kind fields operator sourceAlias derivedAlias
    return ([⟨kind, .derived items select, derivedAlias, on⟩], condition)

end QueryLoom.Compiler
