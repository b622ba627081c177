import QueryLoom.Sql.Predicate

/-!
# Clauses

The clauses of one query before a statement is put together from them: condition, sort, joined
tables, combined SELECTs and hierarchical traversals.

## Implementation notes

Joined tables and combined SELECTs of nested queries stand in the lists of the outer one, behind
the entry they belong to, as they do in the text. A query with a traversal keeps its joins inside
the traversal, and `Clauses.usableJoin` is empty then.
-/

namespace QueryLoom

/-- What is joined: a table, or a derived table with its projection. -/
inductive JoinSource where
  | table (name : String)
  | derived (items : List SelectItem) (select : Sql)
deriving Repr, DecidableEq

/-- A joined table, its alias and the conditions of its ON clause. -/
structure JoinedTable where
  kind : JoinKind
  source : JoinSource
  tableAlias : String
  on : List SearchText
deriving Repr, DecidableEq

namespace JoinedTable

/-- The text of what is joined. -/
def sourceSql : JoinSource → Sql
  | .table name => Sql.text name
  | .derived _ select => select.parens

/-- The text of a join. -/
def sql (joined : JoinedTable) : Sql :=
  Sql.text (joined.kind.keyword ++ " ") ++ sourceSql joined.source ++
    Sql.text (" " ++ joined.tableAlias) ++
    Sql.clause " ON " (Sql.separated " AND " (joined.on.map SearchText.sql))

/-- The text of joins. -/
def list (joined : List JoinedTable) : Sql := Sql.separated " " (joined.map sql)

end JoinedTable

/-- A SELECT behind a set operator. -/
structure CombinedSelect where
  kind : CombineKind
  items : List SelectItem
  table : String
  tableAlias : String
  join : List JoinedTable
  condition : SearchText
deriving Repr, DecidableEq

/-- The text of a SELECT of some items from a table with joins and a condition. -/
def plainSelect (items : List SelectItem) (table tableAlias : String) (join : List JoinedTable)
    (condition : SearchText) : Sql :=
  Sql.text "SELECT " ++ SelectItem.list items ++
    Sql.text (" FROM " ++ table ++ " " ++ tableAlias) ++
    Sql.clause " " (JoinedTable.list join) ++ Sql.clause " WHERE " condition.sql

namespace CombinedSelect

/-- The text of a set operator and its SELECT. -/
def sql (s : CombinedSelect) : Sql :=
  Sql.text (s.kind.keyword ++ " ") ++ plainSelect s.items s.table s.tableAlias s.join s.condition

/-- The text of set operations. -/
def list (combined : List CombinedSelect) : Sql := Sql.separated " " (combined.map sql)

end CombinedSelect

/-- The clauses of a query. -/
structure Clauses where
  condition : SearchText
  /-- Whether an OR connects outermost parts of the condition. -/
  hasOr : Bool
  sort : List Sql
  join : List JoinedTable
  combine : List CombinedSelect
  /-- Whether the query carries its joins itself. -/
  allowJoin : Bool
  trace : Trace
deriving Repr, DecidableEq

namespace Clauses

/-- The joins that the query itself carries. -/
def usableJoin (clauses : Clauses) : List JoinedTable :=
  if clauses.allowJoin then clauses.join else []

/-- Whether the query itself carries joins. -/
def hasJoin (clauses : Clauses) : Bool := !clauses.usableJoin.isEmpty

/-- Whether traversals occur anywhere in the clauses. -/
def hasTraversal (clauses : Clauses) : Bool := !clauses.trace.scripts.isEmpty

/-- The condition as a predicate without its traversals. -/
def predicate (clauses : Clauses) : Predicate := ⟨clauses.condition, clauses.hasOr, {}⟩

end Clauses

end QueryLoom
