import QueryLoom.Sql.Layers

/-!
# Selections

The parts of a SELECT before its layers are chosen, and the choice of layers.

## Implementation notes

Duplicates, groups and an order are settled after rows are counted, so a cap on such a selection
goes on a layer around it. A set operation has no order of its own, so an order goes around it
first. The innermost layer projects `inner`; only the outermost may label its columns.
-/

namespace QueryLoom

/-- The parts of a SELECT. -/
structure Selection where
  inner : List SelectItem
  outer : List SelectItem
  table : String
  tableAlias : String
  join : Sql := []
  condition : SearchText := []
  compound : Bool := false
  group : Sql := []
  combine : Sql := []
  sort : List Sql := []
  distinct : Bool := false
deriving Repr, DecidableEq

namespace Selection

/-- The innermost layer with a projection and a cap. -/
def core (s : Selection) (items : List SelectItem) (cap : Option Nat) : Layers :=
  .core {
    distinct := s.distinct, items, table := s.table, tableAlias := s.tableAlias, join := s.join,
    condition := s.condition, compound := s.compound, cap, group := s.group,
    combine := s.combine }

/-- The selection without order and cap. -/
def unordered (s : Selection) (items : List SelectItem) : Layers := s.core items none

/-- Whether the selection carries a set operation. -/
def isCombined (s : Selection) : Bool := !s.combine.isEmpty

/-- Whether rows are ordered, grouped or freed of duplicates. -/
def isShaped (s : Selection) : Bool := !s.sort.isEmpty || s.distinct || !s.group.isEmpty

/-- The selection in its order, and of that at most a number of rows. -/
def limited (s : Selection) : Option Nat → Layers
  | none =>
    if s.isCombined && !s.sort.isEmpty then
      .ordered (.derived s.outer (s.unordered s.inner) s.tableAlias none) s.sort
    else (s.unordered s.outer).orderedBy s.sort
  | some limit =>
    let rows := some (RowRange.first limit)
    match s.isCombined, s.isShaped with
    | false, false => s.core s.outer (some limit)
    | false, true => .derived s.outer ((s.unordered s.inner).orderedBy s.sort) s.tableAlias rows
    | true, _ =>
      if s.sort.isEmpty then .derived s.outer (s.unordered s.inner) s.tableAlias rows
      else
        .derived s.outer
          (.ordered (.derived s.inner (s.unordered s.inner) s.tableAlias none) s.sort)
          s.tableAlias rows

end Selection

end QueryLoom
