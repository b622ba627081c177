import QueryLoom.Sql.Predicate

/-!
# Layers of a SELECT

A SELECT over one table, and the layers that may be put around it: an order, or an outer SELECT
that takes rows from the inner one as a derived table.

## Implementation notes

A row cap counts rows before the same SELECT groups, removes duplicates, combines or orders them.
The innermost SELECT and a derived one may carry a cap; which of them does is the choice of
`Selection.limited`.
-/

namespace QueryLoom

/-- A range of row numbers. -/
inductive RowRange where
  | first (count : Nat)
  | between (low high : Nat)
deriving Repr, DecidableEq

/-- The column of row numbers of a page. -/
def rowNumberColumn : String := "PAGING_ROW_NUMBER"

/-- The column of the total number of rows of a page. -/
def totalCountColumn : String := "QUERY_TOTAL_COUNT"

/-- The test that a row lies in a range. -/
def RowRange.sql : RowRange → Sql
  | .first count => Sql.text ("ROWNUM <= " ++ toString count)
  | .between low high =>
    Sql.text (rowNumberColumn ++ " BETWEEN " ++ toString low ++ " AND " ++ toString high)

/-- The innermost SELECT. -/
structure SelectCore where
  distinct : Bool
  items : List SelectItem
  table : String
  tableAlias : String
  join : Sql
  condition : SearchText
  /-- The condition needs parentheses next to an AND. -/
  compound : Bool
  /-- The rows that are let through. -/
  cap : Option Nat
  /-- The clauses from GROUP BY on, with a blank in front. -/
  group : Sql
  combine : Sql
deriving Repr, DecidableEq

namespace SelectCore

/-- The search condition: the condition and the row cap. -/
def search (core : SelectCore) : SearchText :=
  match core.cap with
  | none => core.condition
  | some count =>
    let cap := SearchText.leaf (RowRange.first count).sql
    if core.condition.isEmpty then cap
    else if core.compound then core.condition.parens.connect .and cap
    else core.condition.connect .and cap

/-- The text of the innermost SELECT. -/
def sql (core : SelectCore) : Sql :=
  Sql.text (if core.distinct then "SELECT DISTINCT " else "SELECT ") ++
    SelectItem.list core.items ++ Sql.text (" FROM " ++ core.table ++ " " ++ core.tableAlias) ++
    Sql.clause " " core.join ++ Sql.clause " WHERE " core.search.sql ++ core.group ++
    Sql.clause " " core.combine

end SelectCore

/-- A SELECT in layers. -/
inductive Layers where
  | core (select : SelectCore)
  | ordered (inner : Layers) (sort : List Sql)
  | derived (items : List SelectItem) (inner : Layers) (tableAlias : String)
      (rows : Option RowRange)
deriving Repr, DecidableEq

namespace Layers

/-- Puts an order around a SELECT, if there is one. -/
def orderedBy (inner : Layers) (sort : List Sql) : Layers :=
  if sort.isEmpty then inner else .ordered inner sort

/-- The text of a SELECT. -/
def sql : Layers → Sql
  | .core select => select.sql
  | .ordered inner sort => inner.sql ++ Sql.text " ORDER BY " ++ Sql.separated ", " sort
  | .derived items inner tableAlias rows =>
    Sql.text "SELECT " ++ SelectItem.list items ++ Sql.text " FROM " ++ inner.sql.parens ++
      Sql.text (" " ++ tableAlias) ++
      match rows with
      | some range => Sql.text " WHERE " ++ range.sql
      | none => []

end Layers

end QueryLoom
