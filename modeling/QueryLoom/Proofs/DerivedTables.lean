import QueryLoom.Proofs.Occurrences

/-!
# Derived tables

A SELECT in parentheses is known to the layer around it by an alias. That layer may refer to the
columns that the projection of the SELECT outputs, and to no others.

## Implementation notes

References and outputs are compared by the names that identifiers stand for: a name between double
quotes is taken as it is, any other one in upper case. A field in an output form is output under its
label only, so a layer around it that fills the form again refers to a column that is not there.
-/

namespace QueryLoom

/-! ## Names -/

@[simp] theorem Sql.columns_placeholder (name : String) (number : Nat) :
    columns (placeholder name number) = [] := rfl

@[simp] theorem Conventions.columns_column (conventions : Conventions) (tableAlias : String)
    (field : Field) : (conventions.column tableAlias field).columns =
      [(tableAlias, conventions.identifier field.column)] := rfl

/-- The name that an identifier stands for. -/
def resolvedName (name : String) : String :=
  if isQuoted name then String.ofList (name.toList.drop 1).dropLast else Text.upperCase name

/-- What stands behind the last AS of a text. -/
def behindAs : List Char → Option (List Char)
  | [] => none
  | ' ' :: 'A' :: 'S' :: ' ' :: rest => (behindAs rest).or (some rest)
  | _ :: rest => behindAs rest

/-- The name under which an item is output: its label, the name of its column, or the name that its
expression ends with. -/
def SelectItem.outputName (item : SelectItem) : Option String :=
  match item.label with
  | some label => some label
  | none =>
    match item.expression.getLast? with
    | some (.column _ name) => some (resolvedName name)
    | some (.verbatim text) => (behindAs text.toList).map fun name => resolvedName (String.ofList name)
    | _ => none

/-- The names that a projection outputs. -/
def SelectItem.outputs (items : List SelectItem) : List String := items.filterMap outputName

/-- The names that texts refer to under an alias. -/
def referred (tableAlias : String) (texts : List Sql) : List String :=
  texts.flatMap fun sql => (sql.columns.filter (·.1 == tableAlias)).map fun column =>
    resolvedName column.2

theorem referred_append (tableAlias : String) (a b : List Sql) :
    referred tableAlias (a ++ b) = referred tableAlias a ++ referred tableAlias b :=
  List.flatMap_append

theorem referred_cons (tableAlias : String) (sql : Sql) (rest : List Sql) :
    referred tableAlias (sql :: rest) = referred tableAlias [sql] ++ referred tableAlias rest :=
  referred_append tableAlias [sql] rest

theorem mem_referred {tableAlias name : String} {texts : List Sql} :
    name ∈ referred tableAlias texts ↔
      ∃ sql ∈ texts, ∃ written, (tableAlias, written) ∈ sql.columns ∧
        resolvedName written = name := by
  simp [referred, and_assoc, and_left_comm]

/-- What is written without columns refers to nothing. -/
theorem referred_of_columns_nil {tableAlias : String} {texts : List Sql}
    (h : ∀ sql ∈ texts, sql.columns = []) : referred tableAlias texts = [] := by
  rw [referred, List.flatMap_eq_nil_iff]
  intro sql hsql
  rw [h sql hsql]
  rfl

/-! ## Derived tables -/

/-- A SELECT in parentheses: its projection, its alias, and what the layer around it writes. -/
structure DerivedTable where
  items : List SelectItem
  tableAlias : String
  around : List Sql

/-- Every column that the layer around a derived table refers to under its alias is one that it
outputs. -/
def DerivedTable.Exposes (derived : DerivedTable) : Prop :=
  referred derived.tableAlias derived.around ⊆ SelectItem.outputs derived.items

namespace Layers

/-- The projection of a SELECT. -/
def items : Layers → List SelectItem
  | core select => select.items
  | ordered inner _ => inner.items
  | derived items _ _ _ => items

/-- The derived tables of a SELECT, from the outside in. An order belongs to the layer that it
stands behind. -/
def derivedTables (order : List Sql) : Layers → List DerivedTable
  | core _ => []
  | ordered inner sort => inner.derivedTables (sort ++ order)
  | derived items inner tableAlias rows =>
    ⟨inner.items, tableAlias, items.map SelectItem.sql ++ rows.toList.map RowRange.sql ++ order⟩ ::
      inner.derivedTables []

/-- Every derived table of a SELECT exposes what is referred to. -/
def Exposes (layers : Layers) : Prop := ∀ derived ∈ layers.derivedTables [], derived.Exposes

theorem exposes_core (select : SelectCore) : (core select).Exposes := List.forall_mem_nil _

end Layers

namespace Layers

variable (order : List Sql)

theorem derivedTables_orderedBy (inner : Layers) (sort : List Sql) :
    (inner.orderedBy sort).derivedTables order = inner.derivedTables (sort ++ order) := by
  unfold orderedBy
  split
  · rename_i hempty
    rw [List.isEmpty_iff.mp hempty, List.nil_append]
  · rfl

theorem items_orderedBy (inner : Layers) (sort : List Sql) :
    (inner.orderedBy sort).items = inner.items := by
  unfold orderedBy
  split <;> rfl

end Layers

theorem RowRange.columns_sql (range : RowRange) : range.sql.columns = [] := by
  cases range <;> exact Sql.columns_text _

/-- A derived table is asked for what the projection and the order around it refer to; a range of
rows asks for nothing. -/
theorem exposes_around {inner items : List SelectItem} {tableAlias : String}
    {rows : Option RowRange} {order : List Sql} :
    DerivedTable.Exposes ⟨inner, tableAlias,
        items.map SelectItem.sql ++ rows.toList.map RowRange.sql ++ order⟩ ↔
      referred tableAlias (items.map SelectItem.sql) ⊆ SelectItem.outputs inner ∧
        referred tableAlias order ⊆ SelectItem.outputs inner := by
  have hrows : referred tableAlias (rows.toList.map RowRange.sql) = [] := by
    apply referred_of_columns_nil
    intro sql hsql
    obtain ⟨range, -, rfl⟩ := List.mem_map.mp hsql
    exact range.columns_sql
  rw [DerivedTable.Exposes, referred_append, referred_append, hrows, List.append_nil,
    List.append_subset]

theorem exposes_projection {inner items : List SelectItem} {tableAlias : String}
    {rows : Option RowRange} :
    DerivedTable.Exposes ⟨inner, tableAlias,
        items.map SelectItem.sql ++ rows.toList.map RowRange.sql⟩ ↔
      referred tableAlias (items.map SelectItem.sql) ⊆ SelectItem.outputs inner := by
  have haround : DerivedTable.Exposes ⟨inner, tableAlias,
      items.map SelectItem.sql ++ rows.toList.map RowRange.sql ++ []⟩ ↔ _ := exposes_around
  rw [List.append_nil] at haround
  rw [haround]
  exact and_iff_left (List.nil_subset _)

/-! ## Selections -/

namespace Selection

variable (s : Selection)

/-- Whether a selection is put into a layer of its own: to be ordered behind a set operation, or to
be capped behind anything that counts rows. -/
def Wrapped (cap : Option Nat) : Prop :=
  match cap with
  | none => s.isCombined = true ∧ s.sort ≠ []
  | some _ => s.isCombined = true ∨ s.isShaped = true

theorem derivedTables_unordered (items : List SelectItem) (order : List Sql) :
    (s.unordered items).derivedTables order = [] := rfl

theorem items_unordered (items : List SelectItem) : (s.unordered items).items = items := rfl

/-- A selection has derived tables exactly if it is wrapped. -/
theorem derivedTables_limited_ne_nil (cap : Option Nat) :
    (s.limited cap).derivedTables [] ≠ [] ↔ s.Wrapped cap := by
  cases cap with
  | none =>
    rw [limited, Wrapped]
    split
    · rename_i hwrapped
      simp only [Bool.and_eq_true, Bool.not_eq_true', List.isEmpty_eq_false_iff] at hwrapped
      exact iff_of_true (List.cons_ne_nil _ _) hwrapped
    · rename_i hwrapped
      simp only [Bool.and_eq_true, Bool.not_eq_true', List.isEmpty_eq_false_iff] at hwrapped
      rw [Layers.derivedTables_orderedBy, derivedTables_unordered]
      exact iff_of_false (not_not_intro rfl) hwrapped
  | some limit =>
    simp only [limited, Wrapped]
    split
    · rename_i hcombined hshaped
      rw [hcombined, hshaped]
      exact iff_of_false (not_not_intro rfl) (by simp)
    · rename_i hcombined hshaped
      exact iff_of_true (List.cons_ne_nil _ _) (.inr hshaped)
    · rename_i hcombined
      refine iff_of_true ?_ (.inl hcombined)
      split <;> exact List.cons_ne_nil _ _

/-- A selection exposes what is referred to exactly if its inner projection outputs the columns of
the outer one where it is wrapped, and those of its order where it is a set operation too. -/
theorem exposes_limited (cap : Option Nat)
    (hprojections : referred s.tableAlias (s.outer.map SelectItem.sql) ⊆
        SelectItem.outputs s.inner ↔
      referred s.tableAlias (s.inner.map SelectItem.sql) ⊆ SelectItem.outputs s.inner) :
    (s.limited cap).Exposes ↔
      (s.Wrapped cap → referred s.tableAlias (s.outer.map SelectItem.sql) ⊆
        SelectItem.outputs s.inner) ∧
      (s.isCombined = true → referred s.tableAlias s.sort ⊆ SelectItem.outputs s.inner) := by
  have hsort : s.sort = [] → referred s.tableAlias s.sort ⊆ SelectItem.outputs s.inner := by
    intro hnil
    rw [hnil]
    exact List.nil_subset _
  cases cap with
  | none =>
    rw [limited]
    split
    · rename_i hwrapped
      simp only [Bool.and_eq_true, Bool.not_eq_true', List.isEmpty_eq_false_iff] at hwrapped
      simp only [Layers.Exposes, Layers.derivedTables, derivedTables_unordered, items_unordered,
        List.append_nil, List.forall_mem_singleton, exposes_around, Wrapped, hwrapped.1, hwrapped.2,
        true_and, ne_eq, not_false_eq_true, forall_const]
    · rename_i hwrapped
      simp only [Bool.and_eq_true, Bool.not_eq_true', List.isEmpty_eq_false_iff] at hwrapped
      rw [Layers.Exposes, Layers.derivedTables_orderedBy, derivedTables_unordered]
      refine iff_of_true (List.forall_mem_nil _) ⟨fun h => absurd h hwrapped, ?_⟩
      intro hcombined
      exact hsort (Classical.not_not.mp fun hne => hwrapped ⟨hcombined, hne⟩)
  | some limit =>
    simp only [limited, Wrapped]
    split
    · rename_i hcombined hshaped
      rw [hcombined, hshaped]
      exact iff_of_true (List.forall_mem_nil _)
        ⟨fun h => by simp at h, fun h => absurd h Bool.false_ne_true⟩
    · rename_i hcombined hshaped
      simp only [hcombined, hshaped, Layers.Exposes, Layers.derivedTables,
        Layers.derivedTables_orderedBy, derivedTables_unordered, Layers.items_orderedBy,
        items_unordered, List.append_nil, List.forall_mem_singleton, exposes_projection, or_true,
        forall_const, Bool.false_eq_true, false_implies, and_true]
    · rename_i hcombined
      -- a set operation is capped around its order, which stands around the set operation itself
      split
      · rename_i hempty
        have hnil := hsort (List.isEmpty_iff.mp hempty)
        simp only [hcombined, Layers.Exposes, Layers.derivedTables, derivedTables_unordered,
          items_unordered, List.append_nil, List.forall_mem_singleton, exposes_projection, true_or,
          forall_const, and_iff_left hnil]
      · simp only [hcombined, Layers.Exposes, Layers.derivedTables, Layers.items,
          derivedTables_unordered, items_unordered, List.append_nil, List.forall_mem_cons,
          List.not_mem_nil, false_implies, implies_true, exposes_projection, exposes_around,
          hprojections, true_or, forall_const, and_true]
        exact ⟨fun h => h.2, fun h => ⟨h.1, h⟩⟩

end Selection

/-! ## Fields -/

/-- Whether a projected field refers to its column. An output form may have no place for it. -/
def Field.RefersToColumn (field : Field) : Prop :=
  match field.outputForm with
  | none => True
  | some form => "\x7b0\x7d".toList <:+: form.toList

instance (field : Field) : Decidable field.RefersToColumn :=
  match h : field.outputForm with
  | none => .isTrue (by rw [Field.RefersToColumn, h]; trivial)
  | some form =>
    have : Decidable ("\x7b0\x7d".toList <:+: form.toList) :=
      List.instDecidableIsInfixOfDecidableEq _ _
    decidable_of_iff ("\x7b0\x7d".toList <:+: form.toList) (by rw [Field.RefersToColumn, h])

namespace Conventions

variable (conventions : Conventions)

/-- The name of the column of a field. -/
def columnName (field : Field) : String := resolvedName (conventions.identifier field.column)

/-- The name under which an inner SELECT outputs a field: an output form has its label only. -/
def outputName (field : Field) : String :=
  match field.outputForm with
  | some _ => field.property
  | none => conventions.columnName field

theorem outputs_items (tableAlias : String) (fields : List Field) :
    SelectItem.outputs (fields.map (conventions.item tableAlias false)) =
      fields.map conventions.outputName := by
  rw [SelectItem.outputs, List.filterMap_map, ← List.filterMap_eq_map]
  congr 1
  funext field
  unfold Function.comp item SelectItem.outputName outputName
  cases hform : field.outputForm <;> rfl

/-- A form refers to the column that fills it wherever it has a place for it. -/
theorem mem_columns_filled {form tableAlias name : String} {column : String × String} :
    column ∈ (filled form (Sql.column tableAlias name)).columns ↔
      column = (tableAlias, name) ∧ "\x7b0\x7d".toList <:+: form.toList := by
  have hgo (chars read : List Char) :
      column ∈ (filled.go (Sql.column tableAlias name) chars read).columns ↔
        column = (tableAlias, name) ∧ "\x7b0\x7d".toList <:+: chars := by
    induction chars, read using filled.go.induct with
    | case1 rest read ih =>
      have hplace : "\x7b0\x7d".toList <:+: '\x7b' :: '0' :: '\x7d' :: rest :=
        ⟨[], rest, rfl⟩
      simp only [filled.go, Sql.columns_append, Sql.columns_text, List.nil_append, List.mem_append,
        ih, hplace, and_true]
      exact ⟨fun h => h.elim List.mem_singleton.mp And.left, fun h => .inl (h ▸ List.mem_cons_self)⟩
    | case2 first rest read hfirst ih =>
      have hplace : ¬ "\x7b0\x7d".toList <+: first :: rest := by
        rintro ⟨behind, hbehind⟩
        obtain ⟨rfl, rfl⟩ := List.cons.inj hbehind
        exact hfirst behind rfl rfl
      rw [filled.go, ih, List.infix_cons_iff]
      · exact and_congr_right fun _ => (or_iff_right hplace).symm
      · exact hfirst
    | case3 read =>
      rw [filled.go, Sql.columns_text]
      refine iff_of_false List.not_mem_nil fun h => ?_
      exact absurd (List.infix_nil.mp h.2) (by decide)
  exact hgo form.toList []

theorem mem_columns_item {tableAlias : String} {labelled : Bool} {field : Field}
    {column : String × String} :
    column ∈ (conventions.item tableAlias labelled field).sql.columns ↔
      column = (tableAlias, conventions.identifier field.column) ∧ field.RefersToColumn := by
  unfold item SelectItem.sql Field.RefersToColumn
  cases field.outputForm with
  | some form =>
    rw [Sql.columns_append, Sql.columns_text, List.append_nil]
    exact mem_columns_filled
  | none =>
    cases labelled && field.column != field.property <;> simp

/-- Projected fields refer to their columns. -/
theorem mem_referred_items {tableAlias name : String} {labelled : Bool} {fields : List Field} :
    name ∈ referred tableAlias ((fields.map (conventions.item tableAlias labelled)).map
        SelectItem.sql) ↔
      ∃ field ∈ fields, field.RefersToColumn ∧ conventions.columnName field = name := by
  rw [mem_referred]
  constructor
  · rintro ⟨sql, hsql, written, hcolumn, rfl⟩
    obtain ⟨item, hitem, rfl⟩ := List.mem_map.mp hsql
    obtain ⟨field, hfield, rfl⟩ := List.mem_map.mp hitem
    obtain ⟨heq, hrefers⟩ := conventions.mem_columns_item.mp hcolumn
    cases heq
    exact ⟨field, hfield, hrefers, rfl⟩
  · rintro ⟨field, hfield, hrefers, rfl⟩
    exact ⟨_, List.mem_map_of_mem (List.mem_map_of_mem hfield), _,
      conventions.mem_columns_item.mpr ⟨rfl, hrefers⟩, rfl⟩

theorem referred_items_subset {tableAlias : String} {labelled : Bool} {fields : List Field}
    {names : List String} :
    referred tableAlias ((fields.map (conventions.item tableAlias labelled)).map SelectItem.sql) ⊆
        names ↔
      ∀ field ∈ fields, field.RefersToColumn → conventions.columnName field ∈ names := by
  constructor
  · intro h field hfield hrefers
    exact h ((conventions.mem_referred_items).mpr ⟨field, hfield, hrefers, rfl⟩)
  · intro h name hname
    obtain ⟨field, hfield, hrefers, rfl⟩ := conventions.mem_referred_items.mp hname
    exact h field hfield hrefers

end Conventions

end QueryLoom
