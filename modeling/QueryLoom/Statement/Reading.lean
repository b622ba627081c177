import QueryLoom.Clauses.OfQuery
import QueryLoom.Statement

/-!
# Statements that read

The SELECT statement of a query, in the shape that its output asks for: rows, a page of rows, a
count, a test for existence, or an aggregate.

## Implementation notes

A page numbers the rows in an inner SELECT and takes a window of them in an outer one. Where rows
are combined, grouped or freed of duplicates, they are numbered in a SELECT around that, which
knows the projected columns only. The bounds of a window are summed as natural numbers; in machine
words they are the same as long as the sums fit.
-/

namespace QueryLoom.Compiler

/-- The GROUP BY and HAVING clauses, with a blank in front. -/
def groupClause (c : Compiler) (entity : Entity) (query : Query) : Compile Sql := do
  if query.groupBy.isEmpty then return []
  else
    let columns ← (query.groupBy.mapM entity.field : Except Error (List Field))
    let having ← conditionPredicate c entity rootAlias query.having
    return Sql.text " GROUP BY " ++
      Sql.separated ", " (columns.map (c.conventions.column rootAlias)) ++
      Sql.clause " HAVING " having.text.sql

/-- The clauses of a query and the selection made from them, for some fields; combined SELECTs
project the given properties. -/
def selection (c : Compiler) (entity : Entity) (query : Query) (properties : List String)
    (fields : List Field) (sorted : Bool) : Compile (Clauses × Selection) := do
  let clauses ← query.clauses c properties rootAlias sorted
  let group ← c.groupClause entity query
  return (clauses, {
    inner := fields.map (c.conventions.item rootAlias false)
    outer := fields.map (c.conventions.item rootAlias true)
    table := c.table entity
    tableAlias := rootAlias
    join := JoinedTable.list clauses.usableJoin
    condition := clauses.condition
    compound := clauses.hasOr
    group
    combine := CombinedSelect.list clauses.combine
    sort := clauses.sort
    distinct := query.distinct })

/-- An item that is an expression without label. -/
def expression (sql : Sql) : SelectItem := ⟨sql, none⟩

/-- The SELECT of rows, and whether it holds traversals. -/
def rows (c : Compiler) (entity : Entity) (query : Query) : Compile (Sql × Bool) := do
  let fields ← entity.queryFields query.fields
  let (clauses, s) ← c.selection entity query query.fields fields true
  return ((s.limited (rowCap query.size)).sql, clauses.hasTraversal)

/-- The rows of a page, numbered from one. -/
def Paging.window (paging : Paging) : RowRange :=
  .between (paging.offset.toNat + 1) (paging.offset.toNat + max paging.size.toNat 1)

/-- What a page counts and what it orders by without a sort: the default field, or the first
projected column where rows are numbered in a SELECT around a derived table. -/
def pageColumns (c : Compiler) (derived : Bool) (fields : List Field) (default : Field) :
    Sql × Sql :=
  let column := c.conventions.column rootAlias default
  match derived, fields with
  | true, first :: _ => (Sql.text "1", c.conventions.column rootAlias first)
  | _, _ => (column, column)

/-- The layers of a page: rows are numbered and counted, and a window of them is taken. -/
def pageLayers (s : Selection) (derived : Bool) (counted ordering : Sql) (paging : Paging) :
    Layers :=
  let order := if s.sort.isEmpty then ordering ++ Sql.text " DESC" else Sql.separated ", " s.sort
  let total := expression (Sql.text "COUNT(" ++ counted ++
    Sql.text (") OVER() AS " ++ totalCountColumn))
  let number := expression (Sql.text "ROW_NUMBER() OVER(ORDER BY " ++ order ++
    Sql.text (") AS " ++ rowNumberColumn))
  let window := total :: number :: s.inner
  let numbered :=
    if derived then .derived window (s.unordered s.inner) rootAlias none
    else s.unordered window
  let items := s.outer ++ [expression (Sql.text totalCountColumn)]
  (Layers.derived items numbered rootAlias (some (Paging.window paging))).orderedBy
    [Sql.text rowNumberColumn]

/-- The SELECT of a page of rows with the total number of rows. -/
def page (c : Compiler) (entity : Entity) (query : Query) (paging : Paging) :
    Compile (Sql × Bool) := do
  let fields ← entity.queryFields query.fields
  match entity.defaultField? with
  | none => throw (.missingQueryField entity.name)
  | some default =>
    let (clauses, s) ← c.selection entity query query.fields fields true
    let derived := s.isCombined || s.distinct || !s.group.isEmpty
    let (counted, ordering) := c.pageColumns derived fields default
    return ((pageLayers s derived counted ordering paging).sql, clauses.hasTraversal)

/-- The SELECT of the number of rows. -/
def count (c : Compiler) (entity : Entity) (query : Query) : Compile (Sql × Bool) := do
  let fields ← entity.queryFields query.fields
  let (clauses, s) ← c.selection entity query query.fields fields false
  let counted := Layers.derived [expression (Sql.text "COUNT(1)")]
    (s.limited (rowCap query.size)) rootAlias none
  return (counted.sql, clauses.hasTraversal)

/-- The SELECT of a test that there are rows, answered by primary keys. -/
def existence (c : Compiler) (entity : Entity) (query : Query) : Compile (Sql × Bool) := do
  let fields := match entity.primaryKeys with
    | [] => entity.defaultField?.toList
    | keys => keys
  if fields.isEmpty then throw (.missingPrimaryKey entity.name)
  else
    let properties :=
      if query.combines.isEmpty then query.fields else fields.map (·.property)
    let (clauses, s) ← c.selection entity query properties fields false
    return (Sql.text "SELECT CASE WHEN EXISTS" ++ (s.unordered s.inner).sql.parens ++
      Sql.text " THEN 1 ELSE 0 END FROM DUAL", clauses.hasTraversal)

/-- The field of an aggregate: the first projected one, or the default field for a count. -/
def aggregateField (entity : Entity) (fields : List String) (function : AggregateFunction) :
    Except Error Field :=
  match fields, function with
  | property :: _, _ => entity.field property
  | [], .count =>
    match entity.defaultField? with
    | some field => .ok field
    | none => .error (.missingQueryField entity.name)
  | [], function => .error (.missingAggregateField entity.name function.keyword)

/-- The SELECT of an aggregate. -/
def aggregate (c : Compiler) (entity : Entity) (query : Query) (function : AggregateFunction) :
    Compile (Sql × Bool) := do
  let field ← aggregateField entity query.fields function
  let fields ← entity.queryFields query.fields
  let (clauses, s) ← c.selection entity query query.fields fields false
  let item := expression (Sql.text (function.keyword ++ "(") ++
    Sql.text (if s.distinct then "DISTINCT " else "") ++ c.conventions.column rootAlias field ++
    Sql.text ")")
  let s := { s with distinct := false }
  let layers :=
    if s.isCombined then .derived [item] (s.unordered s.inner) rootAlias none
    else s.unordered [item]
  return (layers.sql, clauses.hasTraversal)

/-- The SELECT of a query in the shape that its output asks for. -/
def select (c : Compiler) (entity : Entity) (query : Query) : Compile (Sql × Bool) :=
  match query.output, query.paging with
  | .rows, some paging => c.page entity query paging
  | .rows, none => c.rows entity query
  | .count, _ => c.count entity query
  | .existence, _ => c.existence entity query
  | .aggregate function, _ => c.aggregate entity query function

/-- The statement of a query. A text is taken as it is. -/
def query (c : Compiler) (query : Query) : Except Error Statement :=
  match query.text with
  | some text => .ok (Statement.compiled (Sql.text text.script) text.parameters false false)
  | none => do
    let entity ← c.schema.entity query.entity
    let ((script, hasTraversal), scope) ← (c.select entity query).runFrom 0
    return Statement.compiled script scope.parameters false hasTraversal

end QueryLoom.Compiler
