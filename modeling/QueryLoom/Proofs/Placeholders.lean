import Mathlib.Algebra.BigOperators.Group.Multiset.Basic
import Mathlib.Tactic.Abel
import QueryLoom.Clauses
import QueryLoom.Conventions
import QueryLoom.Sql.Selection

/-!
# Placeholders of assembled SQL

How often each placeholder occurs in SQL that is put together from pieces: exactly as often as in
the pieces together. Identifiers, aliases, labels and keywords hold none.
-/

namespace QueryLoom

/-- The placeholders of SQL text, counted with repetition. -/
def Sql.bag (sql : Sql) : Multiset (String × Nat) :=
  (Sql.placeholders sql : Multiset (String × Nat))

namespace Sql

theorem mem_bag {sql : Sql} {p : String × Nat} : p ∈ sql.bag ↔ p ∈ sql.placeholders :=
  Multiset.mem_coe

@[simp] theorem bag_nil : bag [] = 0 := rfl

@[simp] theorem bag_append (a b : Sql) : bag (a ++ b) = bag a + bag b := by
  simp [bag, ← Multiset.coe_add]

@[simp] theorem bag_text (s : String) : bag (text s) = 0 := by
  simp [bag]

@[simp] theorem bag_column (tableAlias name : String) : bag (column tableAlias name) = 0 := rfl

@[simp] theorem bag_placeholder (name : String) (number : Nat) :
    bag (placeholder name number) = {(name, number)} := rfl

@[simp] theorem bag_parens (sql : Sql) : bag sql.parens = bag sql := by
  simp [parens]

@[simp] theorem bag_clause (lead : String) (sql : Sql) : bag (clause lead sql) = bag sql := by
  unfold clause
  split
  · rename_i hempty
    rw [List.isEmpty_iff.mp hempty]
  · simp

theorem bag_separated (separator : String) (pieces : List Sql) :
    bag (separated separator pieces) = (pieces.map bag).sum := by
  induction pieces with
  | nil => rfl
  | cons first rest ih =>
    cases rest with
    | nil => simp [separated]
    | cons second rest =>
      rw [separated, bag_append, bag_append, bag_text, ih]
      · simp
      · simp

/-- Pieces that hold no placeholders hold none together. -/
theorem sum_bag_eq_zero {α : Type} {xs : List α} {f : α → Sql} (h : ∀ x ∈ xs, (f x).bag = 0) :
    (xs.map fun x => (f x).bag).sum = 0 := by
  apply List.sum_eq_zero
  intro bag hbag
  obtain ⟨x, hx, rfl⟩ := List.mem_map.mp hbag
  exact h x hx

theorem mem_bag_separated {separator : String} {pieces : List Sql} {p : String × Nat} :
    p ∈ bag (separated separator pieces) ↔ ∃ piece ∈ pieces, p ∈ bag piece := by
  rw [bag_separated]
  induction pieces with
  | nil => simp
  | cons first rest ih => simp [ih]

end Sql

namespace SearchText

@[simp] theorem sql_cons (part : SearchPart) (text : SearchText) :
    sql (part :: text) = part.sql ++ sql text := rfl

@[simp] theorem bag_leaf (sql : Sql) : (leaf sql).sql.bag = sql.bag := by
  unfold leaf
  split
  · rename_i hempty
    rw [List.isEmpty_iff.mp hempty]
    rfl
  · simp [SearchPart.sql]

@[simp] theorem bag_parens (text : SearchText) : text.parens.sql.bag = text.sql.bag := by
  simp [parens, SearchPart.sql]

@[simp] theorem bag_connect (op : LogicalOp) (left right : SearchText) :
    (connect op left right).sql.bag = left.sql.bag + right.sql.bag := by
  simp [connect, SearchPart.sql]

end SearchText

namespace Predicate

theorem bag_of_isEmpty {p : Predicate} (h : p.isEmpty = true) : p.text.sql.bag = 0 := by
  rw [List.isEmpty_iff.mp h]
  rfl

@[simp] theorem bag_operand (p : Predicate) : p.operand.sql.bag = p.text.sql.bag := by
  unfold operand
  split
  · simp
  · rfl

/-- Two predicates put together hold the placeholders of both, also where one of them is empty and
the other one stands alone. -/
theorem bag_unless_empty {p q alone joined : Predicate} (halone : alone.text = q.text)
    (hjoined : joined.text.sql.bag = p.text.sql.bag + q.text.sql.bag) :
    (if q.isEmpty then p else if p.isEmpty then alone else joined).text.sql.bag =
      p.text.sql.bag + q.text.sql.bag := by
  by_cases hq : q.isEmpty = true
  · rw [if_pos hq, bag_of_isEmpty hq, add_zero]
  · rw [if_neg hq]
    by_cases hp : p.isEmpty = true
    · rw [if_pos hp, bag_of_isEmpty hp, zero_add, halone]
    · rw [if_neg hp, hjoined]

@[simp] theorem bag_and (p q : Predicate) :
    (p.and q).text.sql.bag = p.text.sql.bag + q.text.sql.bag :=
  bag_unless_empty rfl (by simp)

@[simp] theorem bag_extend (p : Predicate) (op : LogicalOp) (q : Predicate) :
    (p.extend op q).text.sql.bag = p.text.sql.bag + q.text.sql.bag :=
  bag_unless_empty rfl (by simp)

@[simp] theorem bag_grouped (p : Predicate) : p.grouped.text.sql.bag = p.text.sql.bag := by
  unfold grouped
  split
  · rfl
  · simp

@[simp] theorem bag_predicate_leaf (sql : Sql) : (leaf sql).text.sql.bag = sql.bag :=
  SearchText.bag_leaf sql

end Predicate

@[simp] theorem Conventions.bag_column (conventions : Conventions) (tableAlias : String)
    (field : Field) : (conventions.column tableAlias field).bag = 0 := rfl

/-- An output form holds no placeholder but those of the columns put into it. -/
theorem Conventions.bag_filled (form : String) {column : Sql} (h : column.bag = 0) :
    (Conventions.filled form column).bag = 0 := by
  have hgo (chars read : List Char) : (Conventions.filled.go column chars read).bag = 0 := by
    fun_induction Conventions.filled.go column chars read with
    | case1 rest read ih => simp [h, ih]
    | case2 c rest read _ ih => exact ih
    | case3 read => simp
  exact hgo form.toList []

@[simp] theorem Conventions.bag_item (conventions : Conventions) (tableAlias : String)
    (labelled : Bool) (field : Field) :
    (conventions.item tableAlias labelled field).sql.bag = 0 := by
  unfold Conventions.item SelectItem.sql
  cases hform : field.outputForm with
  | some form =>
    have hcolumn := Conventions.bag_column conventions tableAlias field
    simp [Conventions.bag_filled form hcolumn]
  | none =>
    cases hlabel : labelled && field.column != field.property <;> simp

/-- The items of a projection that bind nothing. -/
def Unbound (items : List SelectItem) : Prop := ∀ item ∈ items, item.sql.bag = 0

theorem unbound_items (conventions : Conventions) (tableAlias : String) (labelled : Bool)
    (fields : List Field) : Unbound (fields.map (conventions.item tableAlias labelled)) := by
  intro item hitem
  obtain ⟨field, -, rfl⟩ := List.mem_map.mp hitem
  exact Conventions.bag_item conventions tableAlias labelled field

theorem SelectItem.bag_list (items : List SelectItem) :
    (SelectItem.list items).bag = (items.map fun item => item.sql.bag).sum := by
  rw [SelectItem.list, Sql.bag_separated, List.map_map]
  rfl

theorem SelectItem.bag_list_of_unbound {items : List SelectItem} (h : Unbound items) :
    (SelectItem.list items).bag = 0 := by
  rw [SelectItem.bag_list]
  exact Sql.sum_bag_eq_zero h

namespace JoinedTable

/-- The placeholders of joins are those of the joined tables. -/
theorem bag_list (joined : List JoinedTable) :
    (JoinedTable.list joined).bag = (joined.map fun table => table.sql.bag).sum := by
  rw [JoinedTable.list, Sql.bag_separated, List.map_map]
  rfl

@[simp] theorem bag_list_nil : (JoinedTable.list []).bag = 0 := rfl

@[simp] theorem bag_list_cons (first : JoinedTable) (rest : List JoinedTable) :
    (JoinedTable.list (first :: rest)).bag = first.sql.bag + (JoinedTable.list rest).bag := by
  simp [bag_list]

@[simp] theorem bag_list_append (a b : List JoinedTable) :
    (JoinedTable.list (a ++ b)).bag = (JoinedTable.list a).bag + (JoinedTable.list b).bag := by
  simp [bag_list]

theorem bag_sql (joined : JoinedTable) :
    joined.sql.bag =
      (JoinedTable.sourceSql joined.source).bag + (joined.on.map fun text => text.sql.bag).sum := by
  simp [JoinedTable.sql, Sql.bag_separated, Function.comp_def]

end JoinedTable

@[simp] theorem bag_plainSelect {items : List SelectItem} (h : Unbound items)
    (table tableAlias : String) (join : List JoinedTable) (condition : SearchText) :
    (plainSelect items table tableAlias join condition).bag =
      (JoinedTable.list join).bag + condition.sql.bag := by
  simp [plainSelect, SelectItem.bag_list_of_unbound h]

namespace CombinedSelect

theorem bag_list (combined : List CombinedSelect) :
    (CombinedSelect.list combined).bag = (combined.map fun select => select.sql.bag).sum := by
  rw [CombinedSelect.list, Sql.bag_separated, List.map_map]
  rfl

@[simp] theorem bag_list_nil : (CombinedSelect.list []).bag = 0 := rfl

@[simp] theorem bag_list_cons (first : CombinedSelect) (rest : List CombinedSelect) :
    (CombinedSelect.list (first :: rest)).bag = first.sql.bag + (CombinedSelect.list rest).bag := by
  simp [bag_list]

@[simp] theorem bag_list_append (a b : List CombinedSelect) :
    (CombinedSelect.list (a ++ b)).bag =
      (CombinedSelect.list a).bag + (CombinedSelect.list b).bag := by
  simp [bag_list]

end CombinedSelect

@[simp] theorem RowRange.bag_sql (range : RowRange) : range.sql.bag = 0 := by
  cases range <;> simp [RowRange.sql]

namespace SelectCore

/-- A row cap adds a test without placeholders to the condition. -/
@[simp] theorem bag_search (core : SelectCore) :
    core.search.sql.bag = core.condition.sql.bag := by
  unfold search
  cases core.cap with
  | none => rfl
  | some count =>
    by_cases hempty : core.condition.isEmpty = true
    · simp [List.isEmpty_iff.mp hempty]
    · by_cases hcompound : core.compound = true <;> simp [hempty, hcompound]

theorem bag_sql (core : SelectCore) :
    core.sql.bag = (SelectItem.list core.items).bag +
      (core.join.bag + core.condition.sql.bag + core.group.bag + core.combine.bag) := by
  simp [SelectCore.sql, add_assoc]

end SelectCore

namespace Layers

@[simp] theorem bag_orderedBy (inner : Layers) (sort : List Sql) :
    (inner.orderedBy sort).sql.bag = inner.sql.bag + (sort.map Sql.bag).sum := by
  unfold orderedBy
  split
  · rename_i hempty
    simp [List.isEmpty_iff.mp hempty]
  · simp [Layers.sql, Sql.bag_separated]

@[simp] theorem bag_derived (items : List SelectItem) (inner : Layers) (tableAlias : String)
    (rows : Option RowRange) :
    (Layers.derived items inner tableAlias rows).sql.bag =
      (SelectItem.list items).bag + inner.sql.bag := by
  cases rows <;> simp [Layers.sql]

end Layers

namespace Selection

/-- The placeholders of a selection without its sort items. -/
def body (s : Selection) : Multiset (String × Nat) :=
  s.join.bag + s.condition.sql.bag + s.group.bag + s.combine.bag

theorem bag_core (s : Selection) (items : List SelectItem) (cap : Option Nat) :
    (s.core items cap).sql.bag = (SelectItem.list items).bag + s.body :=
  SelectCore.bag_sql _

theorem bag_unordered (s : Selection) (items : List SelectItem) :
    (s.unordered items).sql.bag = (SelectItem.list items).bag + s.body :=
  s.bag_core items none

/-- Whatever layers a selection is written in, each of its parts occurs in them once. -/
theorem bag_limited {s : Selection} (hinner : Unbound s.inner) (houter : Unbound s.outer)
    (cap : Option Nat) : (s.limited cap).sql.bag = s.body + (s.sort.map Sql.bag).sum := by
  have hordered (inner : Layers) :
      (Layers.ordered inner s.sort).sql.bag = inner.sql.bag + (s.sort.map Sql.bag).sum := by
    simp [Layers.sql, Sql.bag_separated]
  have hinnerBag := SelectItem.bag_list_of_unbound hinner
  have houterBag := SelectItem.bag_list_of_unbound houter
  cases cap with
  | none =>
    rw [limited]
    split
    · rw [hordered, Layers.bag_derived, houterBag, bag_unordered, hinnerBag, zero_add, zero_add]
    · rw [Layers.bag_orderedBy, bag_unordered, houterBag, zero_add]
  | some limit =>
    cases hcombined : s.isCombined with
    | false =>
      cases hshaped : s.isShaped with
      | false =>
        have hsort : s.sort = [] := by
          simp only [isShaped, Bool.or_eq_false_iff] at hshaped
          simpa using hshaped.1.1
        simp only [limited, hcombined, hshaped, bag_core, houterBag, zero_add]
        rw [hsort, List.map_nil, List.sum_nil, add_zero]
      | true =>
        simp only [limited, hcombined, hshaped, Layers.bag_derived, houterBag,
          Layers.bag_orderedBy, bag_unordered, hinnerBag, zero_add]
    | true =>
      cases hsort : s.sort.isEmpty with
      | true =>
        simp only [limited, hcombined, hsort, if_true, Layers.bag_derived, houterBag,
          bag_unordered, hinnerBag, zero_add]
        rw [List.isEmpty_iff.mp hsort, List.map_nil, List.sum_nil, add_zero]
      | false =>
        simp only [limited, hcombined, hsort, Bool.false_eq_true, if_false, Layers.bag_derived,
          houterBag, hordered, hinnerBag, bag_unordered, zero_add]

end Selection

end QueryLoom
