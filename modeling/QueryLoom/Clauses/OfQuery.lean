import QueryLoom.Clauses.Criterion
import QueryLoom.Clauses.Joined

/-!
# Clauses of a query

The clauses of a query, by recursion on the tree of nested queries.

## Implementation notes

Conditions, sorts, set operations, joins and the traversal are worked through in this order, and
hand out parameters and aliases in this order. The projection is an argument of its own, as a
nested query projects its first field only. A traversal runs under an alias of its own, and the
conditions and joins with it; sorts stay with the alias of the query.
-/

namespace QueryLoom

namespace Compiler

/-- The fields that a combined SELECT projects: those of the first SELECT, found in the combined
entity. -/
def combinedItems (c : Compiler) (parent target : Entity) (fields : List String)
    (tableAlias : String) : Except Error (List SelectItem) := do
  let properties := if fields.isEmpty then parent.fields.map (·.property) else fields
  let projected ← properties.mapM target.field
  return projected.map (c.conventions.item tableAlias false)

/-- The link of a traversal to the parent row, towards ancestors or descendants. -/
def traversalLink (direction : TraversalDirection) (key relation : Sql) : Sql :=
  match direction with
  | .up => relation ++ Sql.text " = " ++ key
  | .down => key ++ Sql.text " = " ++ relation

/-- Puts the condition and the joins of a query into its traversal. -/
def traversed (c : Compiler) (entity : Entity) (tableAlias innerAlias : String) (clauses : Clauses)
    (recursion : Recursion) : Except Error Clauses := do
  let key ← entity.field recursion.key
  let relation ← entity.field recursion.relation
  let table := c.table entity
  let keyColumn := c.conventions.column innerAlias key
  let relationColumn := c.conventions.column innerAlias relation
  let anchor := if clauses.condition.isEmpty then Sql.text "1 = 1" else clauses.condition.sql
  let script := Sql.text "SELECT " ++ keyColumn ++ Sql.text (" FROM " ++ table ++ " " ++ innerAlias)
    ++ Sql.clause " " (JoinedTable.list clauses.join) ++ Sql.text " START WITH " ++ anchor ++
    Sql.text " CONNECT BY PRIOR " ++ traversalLink recursion.direction keyColumn relationColumn
  return { clauses with
    condition :=
      SearchText.leaf (comparison (c.conventions.column tableAlias key) .isIn script.parens)
    hasOr := false
    allowJoin := false
    trace := clauses.trace ++ ⟨[script], ⟨some table, some innerAlias⟩⟩ }

end Compiler

mutual
/-- The clauses of a query under an alias, for a projection. -/
def Query.clauses (c : Compiler) (query : Query) (fields : List String) (tableAlias : String)
    (sorted : Bool) : Compile Clauses :=
  match query with
  | { entity := name, conditions, sorts, joins, combines, recursion, .. } => do
    let entity ← c.schema.entity name
    let innerAlias ← if recursion.isSome then freshAlias else pure tableAlias
    let condition ← foldEntries c entity innerAlias {} conditions
    let sort ← if sorted then c.sortItems entity tableAlias sorts else pure []
    let (combine, trace) ← combinedSelects c entity fields combines
    let condition := { condition with trace := condition.trace ++ trace }
    let (join, condition) ← joinTables c entity innerAlias condition joins
    let clauses : Clauses :=
      { condition := condition.text, hasOr := condition.hasOr, sort, join, combine,
        allowJoin := true, trace := condition.trace }
    match recursion with
    | none => return clauses
    | some recursion => c.traversed entity tableAlias innerAlias clauses recursion
termination_by structural query

/-- The predicate of a list of conditions, behind the predicate of those before it. -/
def foldEntries (c : Compiler) (entity : Entity) (tableAlias : String) (before : Predicate)
    (entries : List ConditionEntry) : Compile Predicate :=
  match entries with
  | [] => return before
  | ⟨connector, condition⟩ :: rest => do
    let p ← condition.predicate c entity tableAlias
    foldEntries c entity tableAlias (before.extend connector p) rest
termination_by structural entries

/-- The predicate of a condition. -/
def Condition.predicate (c : Compiler) (entity : Entity) (tableAlias : String)
    (condition : Condition) : Compile Predicate :=
  match condition with
  | .constant holds => return Predicate.constant holds
  | .criterion criterion => criterion.predicate c entity tableAlias
  | .group [⟨_, condition⟩] => condition.predicate c entity tableAlias
  | .group entries => return (← foldEntries c entity tableAlias {} entries).grouped
termination_by structural condition

/-- The predicate of a comparison. -/
def Criterion.predicate (c : Compiler) (entity : Entity) (tableAlias : String)
    (criterion : Criterion) : Compile Predicate :=
  match criterion with
  | ⟨property, operator, value, conversion⟩ => do
    let field ← entity.field property
    let column ← c.convert (c.conventions.column tableAlias field) property conversion
    if !operator.takesOperand then
      return Predicate.leaf (column ++ Sql.text (" " ++ operator.sql))
    else
      match value with
      | .subquery query => do
        let target ← c.nestedTarget operator query
        let tableAlias ← freshAlias
        let clauses ← query.clauses c [target.property] tableAlias target.limit.isSome
        return c.compareNested column operator target tableAlias query.distinct clauses
      | .collection items => c.compareCollection entity property column operator items
      | value => c.compareScalar property column operator value
termination_by structural criterion

/-- The combined SELECTs of set operations, and their traversals. -/
def combinedSelects (c : Compiler) (parent : Entity) (fields : List String)
    (combines : List Combine) : Compile (List CombinedSelect × Trace) :=
  match combines with
  | [] => return ([], {})
  | ⟨kind, query⟩ :: rest => do
    let tableAlias ← freshAlias
    let target ← c.schema.entity query.entity
    let sub ← query.clauses c query.fields tableAlias false
    let items ← c.combinedItems parent target fields tableAlias
    let (others, trace) ← combinedSelects c parent fields rest
    let select : CombinedSelect :=
      ⟨kind, items, c.table target, tableAlias, sub.usableJoin, sub.condition⟩
    return (select :: sub.combine ++ others, sub.trace ++ trace)
termination_by structural combines

/-- The joined tables of joins, and the condition of the joining query behind them. -/
def joinTables (c : Compiler) (source : Entity) (sourceAlias : String) (condition : Predicate)
    (joins : List Join) : Compile (List JoinedTable × Predicate) :=
  match joins with
  | [] => return ([], condition)
  | ⟨kind, fields, operator, query⟩ :: rest => do
    let tableAlias ← freshAlias
    let target ← c.schema.entity query.entity
    let sub ← query.clauses c query.fields tableAlias false
    let condition := { condition with trace := condition.trace ++ sub.trace }
    let (tables, condition) ← c.joinedTables source sourceAlias target tableAlias kind fields
      operator query.fields sub condition
    let (others, condition) ← joinTables c source sourceAlias condition rest
    return (tables ++ others, condition)
termination_by structural joins
end

/-- The predicate of a list of conditions. -/
def conditionPredicate (c : Compiler) (entity : Entity) (tableAlias : String)
    (entries : List ConditionEntry) : Compile Predicate :=
  foldEntries c entity tableAlias {} entries

end QueryLoom
