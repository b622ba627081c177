import QueryLoom.Proofs.ExposedSources
import QueryLoom.Proofs.Placeholders

/-!
# Columns under an alias

The names of the columns that SQL text writes under an alias, in order. Text that is put together
writes what its pieces write, and a SELECT in whatever layers writes none if its pieces write none.
-/

namespace QueryLoom

namespace Sql

/-- The names of the columns that SQL text writes under an alias. -/
def under (own : String) (sql : Sql) : List String :=
  (sql.columns.filter (·.1 == own)).map (·.2)

variable {own : String}

theorem mem_under {sql : Sql} {name : String} :
    name ∈ sql.under own ↔ (own, name) ∈ sql.columns := by
  simp [under]

@[simp] theorem under_nil : under own [] = [] := rfl

@[simp] theorem under_append (a b : Sql) : under own (a ++ b) = under own a ++ under own b := by
  simp [under]

@[simp] theorem under_text (s : String) : under own (text s) = [] := by
  simp [under]

@[simp] theorem under_placeholder (name : String) (number : Nat) :
    under own (placeholder name number) = [] := rfl

@[simp] theorem under_parens (sql : Sql) : under own sql.parens = under own sql := by
  simp [parens]

@[simp] theorem under_clause (lead : String) (sql : Sql) :
    under own (clause lead sql) = under own sql := by
  unfold clause
  split
  · rename_i hempty
    rw [List.isEmpty_iff.mp hempty]
  · simp

theorem under_separated (separator : String) (parts : List Sql) :
    under own (separated separator parts) = parts.flatMap (under own) := by
  rw [under, columns_separated, List.filter_flatMap, List.map_flatMap]
  rfl

theorem under_congr {a b : Sql} (h : a.columns = b.columns) : under own a = under own b := by
  rw [under, under, h]

end Sql

variable {own : String}

theorem Conventions.under_column (conventions : Conventions) (tableAlias : String)
    (field : Field) : (conventions.column tableAlias field).under own =
      if tableAlias = own then [conventions.identifier field.column] else [] := by
  by_cases h : tableAlias = own <;> simp [Sql.under, h]

/-! ## Search conditions -/

namespace SearchText

@[simp] theorem under_leaf (sql : Sql) : (leaf sql).sql.under own = sql.under own := by
  unfold leaf
  split
  · rename_i hempty
    rw [List.isEmpty_iff.mp hempty]
    rfl
  · simp [SearchPart.sql]

@[simp] theorem under_parens (text : SearchText) :
    text.parens.sql.under own = text.sql.under own := by
  simp [parens, SearchPart.sql]

@[simp] theorem under_connect (op : LogicalOp) (left right : SearchText) :
    (connect op left right).sql.under own = left.sql.under own ++ right.sql.under own := by
  simp [connect, SearchPart.sql]

end SearchText

namespace Predicate

theorem under_of_isEmpty {p : Predicate} (h : p.isEmpty = true) : p.text.sql.under own = [] := by
  rw [List.isEmpty_iff.mp h]
  rfl

@[simp] theorem under_operand (p : Predicate) : p.operand.sql.under own = p.text.sql.under own := by
  unfold operand
  split
  · simp
  · rfl

/-- Two predicates put together write the columns of both, also where one of them is empty and the
other one stands alone. -/
theorem under_unless_empty {p q alone joined : Predicate} (halone : alone.text = q.text)
    (hjoined : joined.text.sql.under own = p.text.sql.under own ++ q.text.sql.under own) :
    (if q.isEmpty then p else if p.isEmpty then alone else joined).text.sql.under own =
      p.text.sql.under own ++ q.text.sql.under own := by
  by_cases hq : q.isEmpty = true
  · rw [if_pos hq, under_of_isEmpty hq, List.append_nil]
  · rw [if_neg hq]
    by_cases hp : p.isEmpty = true
    · rw [if_pos hp, under_of_isEmpty hp, List.nil_append, halone]
    · rw [if_neg hp, hjoined]

@[simp] theorem under_and (p q : Predicate) :
    (p.and q).text.sql.under own = p.text.sql.under own ++ q.text.sql.under own :=
  under_unless_empty rfl (by simp)

@[simp] theorem under_extend (p : Predicate) (op : LogicalOp) (q : Predicate) :
    (p.extend op q).text.sql.under own = p.text.sql.under own ++ q.text.sql.under own :=
  under_unless_empty rfl (by simp)

@[simp] theorem under_grouped (p : Predicate) :
    p.grouped.text.sql.under own = p.text.sql.under own := by
  unfold grouped
  split
  · rfl
  · simp

@[simp] theorem under_predicate_leaf (sql : Sql) : (leaf sql).text.sql.under own = sql.under own :=
  SearchText.under_leaf sql

@[simp] theorem under_constant (holds : Bool) : (constant holds).text.sql.under own = [] := by
  simp [constant]

end Predicate

/-! ## SELECTs -/

theorem SelectItem.under_list (items : List SelectItem) :
    (SelectItem.list items).under own = items.flatMap fun item => item.sql.under own := by
  rw [SelectItem.list, Sql.under_separated, List.flatMap_map]

namespace JoinedTable

theorem under_sql (joined : JoinedTable) :
    joined.sql.under own =
      (JoinedTable.sourceSql joined.source).under own ++
        joined.on.flatMap fun text => text.sql.under own := by
  simp [JoinedTable.sql, Sql.under_separated, List.flatMap_map]

@[simp] theorem under_list_nil : (JoinedTable.list []).under own = [] := rfl

@[simp] theorem under_list_cons (first : JoinedTable) (rest : List JoinedTable) :
    (JoinedTable.list (first :: rest)).under own =
      first.sql.under own ++ (JoinedTable.list rest).under own := by
  simp [JoinedTable.list, Sql.under_separated]

@[simp] theorem under_list_append (a b : List JoinedTable) :
    (JoinedTable.list (a ++ b)).under own =
      (JoinedTable.list a).under own ++ (JoinedTable.list b).under own := by
  simp [JoinedTable.list, Sql.under_separated]

end JoinedTable

@[simp] theorem under_plainSelect (items : List SelectItem) (table tableAlias : String)
    (join : List JoinedTable) (condition : SearchText) :
    (plainSelect items table tableAlias join condition).under own =
      (SelectItem.list items).under own ++ (JoinedTable.list join).under own ++
        condition.sql.under own := by
  simp [plainSelect]

namespace CombinedSelect

@[simp] theorem under_list_nil : (CombinedSelect.list []).under own = [] := rfl

@[simp] theorem under_list_cons (first : CombinedSelect) (rest : List CombinedSelect) :
    (CombinedSelect.list (first :: rest)).under own =
      first.sql.under own ++ (CombinedSelect.list rest).under own := by
  simp [CombinedSelect.list, Sql.under_separated]

@[simp] theorem under_list_append (a b : List CombinedSelect) :
    (CombinedSelect.list (a ++ b)).under own =
      (CombinedSelect.list a).under own ++ (CombinedSelect.list b).under own := by
  simp [CombinedSelect.list, Sql.under_separated]

end CombinedSelect

@[simp] theorem RowRange.under_sql (range : RowRange) : range.sql.under own = [] := by
  rw [Sql.under, range.columns_sql]
  rfl

/-- The pieces of a selection write no column under an alias. -/
structure Selection.Avoids (own : String) (s : Selection) : Prop where
  inner : (SelectItem.list s.inner).under own = []
  outer : (SelectItem.list s.outer).under own = []
  join : s.join.under own = []
  condition : s.condition.sql.under own = []
  group : s.group.under own = []
  combine : s.combine.under own = []
  sort : ∀ item ∈ s.sort, item.under own = []

namespace Layers

theorem under_derived {items : List SelectItem} {inner : Layers} (tableAlias : String)
    (rows : Option RowRange) (hitems : (SelectItem.list items).under own = [])
    (hinner : inner.sql.under own = []) :
    (Layers.derived items inner tableAlias rows).sql.under own = [] := by
  cases rows <;> simp [Layers.sql, hitems, hinner]

end Layers

/-- A row cap adds a test without columns to the condition. -/
@[simp] theorem SelectCore.under_search (core : SelectCore) :
    core.search.sql.under own = core.condition.sql.under own := by
  unfold search
  cases core.cap with
  | none => rfl
  | some count =>
    by_cases hempty : core.condition.isEmpty = true
    · simp [List.isEmpty_iff.mp hempty]
    · by_cases hcompound : core.compound = true <;> simp [hempty, hcompound]

namespace Selection.Avoids

variable {s : Selection}

theorem core (h : s.Avoids own) {items : List SelectItem} (cap : Option Nat)
    (hitems : (SelectItem.list items).under own = []) : (s.core items cap).sql.under own = [] := by
  simp [Selection.core, Layers.sql, SelectCore.sql, hitems, h.join, h.condition, h.group,
    h.combine]

theorem ordered (h : s.Avoids own) {inner : Layers} (hinner : inner.sql.under own = []) :
    (Layers.ordered inner s.sort).sql.under own = [] := by
  rw [Layers.sql, Sql.under_append, Sql.under_append, Sql.under_text, Sql.under_separated,
    hinner, List.flatMap_eq_nil_iff.mpr h.sort]
  rfl

theorem orderedBy (h : s.Avoids own) {inner : Layers} (hinner : inner.sql.under own = []) :
    (inner.orderedBy s.sort).sql.under own = [] := by
  unfold Layers.orderedBy
  split
  · exact hinner
  · exact h.ordered hinner

/-- Whatever layers a selection is written in, it writes nothing that its pieces do not write. -/
theorem limited (h : s.Avoids own) (cap : Option Nat) : (s.limited cap).sql.under own = [] := by
  have hinner : (s.unordered s.inner).sql.under own = [] := h.core none h.inner
  have houter : (s.unordered s.outer).sql.under own = [] := h.core none h.outer
  unfold Selection.limited
  split
  · split
    · exact h.ordered (Layers.under_derived _ _ h.outer hinner)
    · exact h.orderedBy houter
  · extract_lets rows
    split
    · exact h.core _ h.outer
    · exact Layers.under_derived _ _ h.outer (h.orderedBy hinner)
    · split
      · exact Layers.under_derived _ _ h.outer hinner
      · exact Layers.under_derived _ _ h.outer
          (h.ordered (Layers.under_derived _ _ h.inner hinner))

end Selection.Avoids

end QueryLoom
