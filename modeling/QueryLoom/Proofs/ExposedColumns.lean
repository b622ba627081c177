import QueryLoom.Proofs.ChosenForms
import QueryLoom.Proofs.CombinedProjections
import QueryLoom.Proofs.DerivedTables
import QueryLoom.Proofs.JoinScopes

/-!
# Columns that derived tables expose

Derived tables stand in five places: in the layers of a statement that reads, in those of a nested
query, behind a join of a query with set operations, and as the source of a MERGE. Each place asks
its derived table for the columns of certain fields, and each is characterised here by the fields
that the derived table outputs.

## Implementation notes

Two things make a column disappear. A field in an output form is output under its label, so that a
layer that writes the form again finds no column for it. And a sort, a join or an aggregate may ask
for a field that the derived table does not project.
-/

namespace QueryLoom

variable {c : Compiler} {s t : Scope} {entity : Entity} {query : Query}

/-! ## What is asked for -/

/-- A property of what a computation returns is one of everything that it could return. -/
theorem forall_eq_ok_iff {α : Type} {x : Except Error α} {a : α} {P : α → Prop} (h : x = .ok a) :
    (∀ b, x = .ok b → P b) ↔ P a := by
  subst h
  exact ⟨fun hall => hall a rfl, fun ha b hb => Except.ok.inj hb ▸ ha⟩

instance decidableForallOk {α : Type} (x : Except Error α) (P : α → Prop) [DecidablePred P] :
    Decidable (∀ a, x = .ok a → P a) :=
  match x with
  | .ok a => decidable_of_iff (P a) (forall_eq_ok_iff rfl).symm
  | .error _ => .isTrue fun _ h => nomatch h

/-- The columns that projected fields refer to are among some names. -/
def ProjectionAmong (c : Compiler) (fields : List Field) (names : List String) : Prop :=
  ∀ field ∈ fields, field.RefersToColumn → c.conventions.columnName field ∈ names

instance (c : Compiler) (fields : List Field) (names : List String) :
    Decidable (ProjectionAmong c fields names) :=
  inferInstanceAs (Decidable (∀ field ∈ fields, field.RefersToColumn →
    c.conventions.columnName field ∈ names))

/-- The columns of a sort are among some names. -/
def SortsAmong (c : Compiler) (entity : Entity) (keys : List SortKey) (names : List String) :
    Prop :=
  ∀ key ∈ keys, ∀ field, entity.field key.field = .ok field →
    c.conventions.columnName field ∈ names

instance (c : Compiler) (entity : Entity) (keys : List SortKey) (names : List String) :
    Decidable (SortsAmong c entity keys names) :=
  inferInstanceAs (Decidable (∀ key ∈ keys, ∀ field, entity.field key.field = .ok field →
    c.conventions.columnName field ∈ names))

/-- A conversion writes its column once. -/
theorem convert_columns {column sql : Sql} {property : String} {conversion : Option Conversion}
    (h : Yields (c.convert column property conversion) s sql t) : sql.columns = column.columns := by
  unfold Compiler.convert at h
  split at h
  · obtain ⟨rfl, -⟩ := yields_pure.mp h
    rfl
  · obtain ⟨rfl, -⟩ := yields_pure.mp h
    simp
  · obtain ⟨rfl, -⟩ := yields_pure.mp h
    simp
  · rename_i function value
    cases hform : function.form with
    | infixed symbol =>
      simp only [hform, yields_bind, yields_pure] at h
      obtain ⟨operand, _, hbind, rfl, -⟩ := h
      obtain ⟨rfl, -⟩ := Compiler.bind_yields.mp hbind
      simp
    | called keyword =>
      simp only [hform, yields_bind, yields_pure] at h
      obtain ⟨operand, _, hbind, rfl, -⟩ := h
      obtain ⟨rfl, -⟩ := Compiler.bind_yields.mp hbind
      simp
    | unsupported feature =>
      simp only [hform] at h
      exact absurd h not_yields_throw

/-- A sort refers to the columns of its keys. -/
theorem sortItems_referred {tableAlias : String} {keys : List SortKey} {sort : List Sql}
    (h : Yields (c.sortItems entity tableAlias keys) s sort t) (names : List String) :
    sort.isEmpty = keys.isEmpty ∧
      (referred tableAlias sort ⊆ names ↔ SortsAmong c entity keys names) := by
  unfold Compiler.sortItems at h
  induction keys generalizing s sort with
  | nil =>
    obtain ⟨rfl, rfl⟩ := yields_mapM_nil.mp h
    exact ⟨rfl, iff_of_true (List.nil_subset _) (List.forall_mem_nil _)⟩
  | cons key rest ih =>
    obtain ⟨item, r, items, hitem, hrest, rfl⟩ := yields_mapM_cons.mp h
    simp only [yields_bind, yields_liftM, yields_pure] at hitem
    obtain ⟨field, _, ⟨hfield, rfl⟩, column, _, hcolumn, rfl, rfl⟩ := hitem
    refine ⟨rfl, ?_⟩
    have hitem : referred tableAlias [column ++ Sql.text (" " ++ key.order.keyword)] =
        [c.conventions.columnName field] := by
      have hcolumns : (column ++ Sql.text (" " ++ key.order.keyword)).columns =
          [(tableAlias, c.conventions.identifier field.column)] := by
        rw [Sql.columns_append, Sql.columns_text, List.append_nil, convert_columns hcolumn,
          Conventions.columns_column]
      simp [referred, hcolumns, Conventions.columnName]
    have hfirst : c.conventions.columnName field ∈ names ↔
        ∀ found, entity.field key.field = .ok found → c.conventions.columnName found ∈ names := by
      rw [hfield]
      simp
    rw [referred_cons, hitem, List.append_subset, (ih hrest).2, List.cons_subset, SortsAmong,
      SortsAmong, List.forall_mem_cons, hfirst, and_iff_left (List.nil_subset _)]

/-- The sort of a query is compiled where its rows are asked for in order. -/
theorem sortClause_referred {tableAlias : String} {sorted : Bool} {keys : List SortKey}
    {sort : List Sql} (h : Yields (sortClause c entity tableAlias sorted keys) s sort t) :
    sort.isEmpty = (!sorted || keys.isEmpty) ∧ ∀ names,
      (referred tableAlias sort ⊆ names ↔ (sorted = true → SortsAmong c entity keys names)) := by
  cases sorted with
  | false =>
    obtain ⟨rfl, -⟩ := yields_pure.mp h
    exact ⟨rfl, fun names => iff_of_true (List.nil_subset _) fun h => absurd h Bool.false_ne_true⟩
  | true =>
    refine ⟨(sortItems_referred h []).1, fun names => ?_⟩
    rw [(sortItems_referred h names).2]
    exact ⟨fun hsorts _ => hsorts, fun hsorts => hsorts rfl⟩

/-- The sort and the set operations of a query stay in its clauses. -/
theorem Query.clauses_sort {fields : List String} {tableAlias : String} {sorted : Bool}
    {clauses : Clauses} (h : Yields (query.clauses c fields tableAlias sorted) s clauses t)
    (hentity : c.schema.entity query.entity = .ok entity) :
    (∃ r r', Yields (sortClause c entity tableAlias sorted query.sorts) r clauses.sort r') ∧
      clauses.combine.isEmpty = query.combines.isEmpty := by
  obtain ⟨found, innerAlias, r₁, condition, r₂, sort, r₃, combine, trace, r₄, join, joining,
    hfound, -, -, hsort, hcombine, -, hclauses⟩ := Query.clauses_yields h
  obtain rfl : found = entity := Except.ok.inj (hfound.symm.trans hentity)
  have hisEmpty := combinedSelects_isEmpty hcombine
  rcases traversal_eq_ok hclauses with ⟨-, rfl⟩ | ⟨spec, key, relation, -, -, -, rfl⟩
  · exact ⟨⟨r₂, r₃, hsort⟩, hisEmpty⟩
  · exact ⟨⟨r₂, r₃, hsort⟩, hisEmpty⟩

/-! ## Selections -/

/-- A selection is that of a query: it projects some fields, and is shaped as the query says. -/
structure Selection.Presents (c : Compiler) (entity : Entity) (query : Query) (fields : List Field)
    (sorted : Bool) (s : Selection) : Prop where
  inner : s.inner = fields.map (c.conventions.item rootAlias false)
  outer : s.outer = fields.map (c.conventions.item rootAlias true)
  tableAlias : s.tableAlias = rootAlias
  isCombined : s.isCombined = !query.combines.isEmpty
  distinct : s.distinct = query.distinct
  group : s.group.isEmpty = query.groupBy.isEmpty
  isSorted : s.sort.isEmpty = (!sorted || query.sorts.isEmpty)
  sort : ∀ names, referred rootAlias s.sort ⊆ names ↔
    (sorted = true → SortsAmong c entity query.sorts names)

theorem Selection.isCombined_list {selection : Selection} {combine : List CombinedSelect}
    (h : selection.combine = CombinedSelect.list combine) :
    selection.isCombined = !combine.isEmpty := by
  cases combine with
  | nil =>
    rw [isCombined, h]
    rfl
  | cons first rest => exact isCombined_of_combine h (List.cons_ne_nil first rest)

theorem groupClause_isEmpty {group : Sql} (h : Yields (c.groupClause entity query) s group t) :
    group.isEmpty = query.groupBy.isEmpty := by
  unfold Compiler.groupClause at h
  split at h
  · rename_i hempty
    obtain ⟨rfl, -⟩ := yields_pure.mp h
    exact hempty.symm
  · rename_i hne
    simp only [yields_bind, yields_liftM, yields_pure] at h
    obtain ⟨columns, _, -, having, _, -, rfl, -⟩ := h
    rw [Bool.eq_false_iff.mpr hne]
    rfl

theorem selection_presents {properties : List String} {fields : List Field} {sorted : Bool}
    {clauses : Clauses} {selection : Selection}
    (h : Yields (c.selection entity query properties fields sorted) s (clauses, selection) t)
    (hentity : c.schema.entity query.entity = .ok entity) :
    selection.Presents c entity query fields sorted := by
  unfold Compiler.selection at h
  simp only [yields_bind, yields_pure, Prod.mk.injEq] at h
  obtain ⟨compiled, r, hclauses, group, _, hgroup, ⟨rfl, rfl⟩, rfl⟩ := h
  obtain ⟨⟨r₁, r₂, hsort⟩, hcombine⟩ := Query.clauses_sort hclauses hentity
  have hsorts := sortClause_referred hsort
  refine ⟨rfl, rfl, rfl, ?_, rfl, groupClause_isEmpty hgroup, hsorts.1, hsorts.2⟩
  rw [Selection.isCombined_list rfl, hcombine]

/-- Whether a query is put into a layer of its own: to be ordered behind set operations, or to be
capped behind anything that counts rows. -/
def Query.Wrapped (query : Query) (sorted : Bool) : Prop :=
  if query.size = 0 then query.combines ≠ [] ∧ sorted = true ∧ query.sorts ≠ []
  else query.combines ≠ [] ∨ (sorted = true ∧ query.sorts ≠ []) ∨ query.distinct = true ∨
    query.groupBy ≠ []

namespace Selection.Presents

variable {fields : List Field} {sorted : Bool} {selection : Selection}

theorem outputs (h : selection.Presents c entity query fields sorted) :
    SelectItem.outputs selection.inner = fields.map c.conventions.outputName := by
  rw [h.inner, Conventions.outputs_items]

theorem projection (h : selection.Presents c entity query fields sorted) (names : List String) :
    (referred rootAlias (selection.inner.map SelectItem.sql) ⊆ names ↔
        ProjectionAmong c fields names) ∧
      (referred rootAlias (selection.outer.map SelectItem.sql) ⊆ names ↔
        ProjectionAmong c fields names) := by
  rw [h.inner, h.outer]
  exact ⟨Conventions.referred_items_subset _, Conventions.referred_items_subset _⟩

theorem wrapped_iff (h : selection.Presents c entity query fields sorted) :
    selection.Wrapped (rowCap query.size) ↔ query.Wrapped sorted := by
  have hsorted : selection.sort ≠ [] ↔ sorted = true ∧ query.sorts ≠ [] := by
    rw [ne_eq, ← List.isEmpty_iff, h.isSorted]
    simp
  have hcombined : selection.isCombined = true ↔ query.combines ≠ [] := by
    rw [h.isCombined]
    simp
  unfold Selection.Wrapped Query.Wrapped rowCap
  by_cases hsize : query.size = 0
  · simp only [hsize, beq_self_eq_true, if_true, hcombined, hsorted]
  · simp only [beq_iff_eq, hsize, if_false, hcombined, Selection.isShaped, h.distinct, h.group,
      h.isSorted]
    simp [or_assoc]

/-- The layers of a selection expose what they refer to exactly if the projected fields output the
columns that are projected again, and those of the sort behind set operations. -/
theorem exposes_limited_iff (h : selection.Presents c entity query fields sorted) :
    (selection.limited (rowCap query.size)).Exposes ↔
      (query.Wrapped sorted →
        ProjectionAmong c fields (fields.map c.conventions.outputName)) ∧
      (query.combines ≠ [] → sorted = true →
        SortsAmong c entity query.sorts (fields.map c.conventions.outputName)) := by
  have hcombined : selection.isCombined = true ↔ query.combines ≠ [] := by
    rw [h.isCombined]
    simp
  obtain ⟨hinner, houter⟩ := h.projection (SelectItem.outputs selection.inner)
  rw [← h.tableAlias] at hinner houter
  rw [selection.exposes_limited _ (houter.trans hinner.symm), h.wrapped_iff, houter, hcombined,
    h.tableAlias, h.sort, h.outputs]

end Selection.Presents

/-! ## Statements that read -/

theorem Sql.columns_separated (separator : String) (parts : List Sql) :
    columns (separated separator parts) = parts.flatMap columns := by
  induction parts with
  | nil => rfl
  | cons first rest ih =>
    cases rest with
    | nil => simp [separated]
    | cons second rest =>
      rw [separated]
      · simp [ih]
      · exact List.cons_ne_nil _ _

theorem referred_separated (tableAlias separator : String) (parts : List Sql) :
    referred tableAlias [Sql.separated separator parts] = referred tableAlias parts := by
  simp [referred, Sql.columns_separated, List.filter_flatMap, List.map_flatMap]

theorem referred_congr {tableAlias : String} {a b : Sql} (h : a.columns = b.columns) :
    referred tableAlias [a] = referred tableAlias [b] := by
  simp [referred, h]

theorem referred_column (conventions : Conventions) (tableAlias : String) (field : Field) :
    referred tableAlias [conventions.column tableAlias field] =
      [conventions.columnName field] := by
  simp [referred, Conventions.columnName]

/-- Whether rows are numbered around a derived table: behind set operations, groups and the removal
of duplicates. -/
def Query.Gathered (query : Query) : Prop :=
  query.combines ≠ [] ∨ query.distinct = true ∨ query.groupBy ≠ []

/-- What the layers of a query refer to is output by the derived tables between them. The names are
those of the projected fields; a page numbers its rows under two more. -/
def Query.Exposes (c : Compiler) (entity : Entity) (query : Query) (fields : List Field) : Prop :=
  let names := fields.map c.conventions.outputName
  match query.output, query.paging with
  | .rows, none =>
    (query.Wrapped true → ProjectionAmong c fields names) ∧
      (query.combines ≠ [] → SortsAmong c entity query.sorts names)
  | .rows, some _ =>
    ProjectionAmong c fields (totalCountColumn :: rowNumberColumn :: names) ∧
      (query.Gathered → ProjectionAmong c fields names ∧
        SortsAmong c entity query.sorts names ∧
        (query.sorts = [] → ∀ first ∈ fields.head?, c.conventions.columnName first ∈ names))
  | .count, _ => query.Wrapped false → ProjectionAmong c fields names
  | .existence, _ => True
  | .aggregate function, _ => query.combines ≠ [] → ∀ field,
    Compiler.aggregateField entity query.fields function = .ok field →
      c.conventions.columnName field ∈ names

theorem outputName_expression (front : Sql) {text : String} (h : text ≠ "") :
    (Compiler.expression (front ++ Sql.text text)).outputName =
      (behindAs text.toList).map fun name => resolvedName (String.ofList name) := by
  have hempty : text.isEmpty = false := Bool.eq_false_iff.mpr fun h' => h (String.isEmpty_iff.mp h')
  have htext : Sql.text text = [.verbatim text] := by
    rw [Sql.text, hempty, if_neg Bool.false_ne_true]
  rw [htext]
  unfold SelectItem.outputName Compiler.expression
  rw [List.getLast?_concat]

/-- The item that counts the rows of a page. -/
def totalItem (counted : Sql) : SelectItem :=
  Compiler.expression (Sql.text "COUNT(" ++ counted ++
    Sql.text (") OVER() AS " ++ totalCountColumn))

/-- The item that numbers the rows of a page. -/
def numberItem (order : Sql) : SelectItem :=
  Compiler.expression (Sql.text "ROW_NUMBER() OVER(ORDER BY " ++ order ++
    Sql.text (") AS " ++ rowNumberColumn))

/-- The text of the order that the rows of a page are numbered in. -/
def pageOrder (s : Selection) (ordering : Sql) : Sql :=
  if s.sort.isEmpty then ordering ++ Sql.text " DESC" else Sql.separated ", " s.sort

/-- The rows that a page numbers: its own items, with their total and their numbers. -/
def windowItems (s : Selection) (counted ordering : Sql) : List SelectItem :=
  totalItem counted :: numberItem (pageOrder s ordering) :: s.inner

theorem pageOrder_referred (selection : Selection) (ordering : Sql) :
    referred rootAlias [pageOrder selection ordering] =
      referred rootAlias (if selection.sort.isEmpty then [ordering] else selection.sort) := by
  unfold pageOrder
  split
  · exact referred_congr (by simp)
  · exact referred_separated _ _ _

theorem windowItems_outputs (selection : Selection) (counted ordering : Sql) :
    SelectItem.outputs (windowItems selection counted ordering) =
      totalCountColumn :: rowNumberColumn :: SelectItem.outputs selection.inner := by
  have htotal : (totalItem counted).outputName = some totalCountColumn :=
    (outputName_expression _ (by decide)).trans (by decide +kernel)
  have hnumber : (numberItem (pageOrder selection ordering)).outputName = some rowNumberColumn :=
    (outputName_expression _ (by decide)).trans (by decide +kernel)
  rw [windowItems, SelectItem.outputs, List.filterMap_cons_some htotal,
    List.filterMap_cons_some hnumber, SelectItem.outputs]

theorem windowItems_referred (selection : Selection) (counted ordering : Sql) :
    referred rootAlias ((windowItems selection counted ordering).map SelectItem.sql) =
      referred rootAlias [counted] ++ (referred rootAlias [pageOrder selection ordering] ++
        referred rootAlias (selection.inner.map SelectItem.sql)) := by
  have htotal : referred rootAlias [(totalItem counted).sql] = referred rootAlias [counted] :=
    referred_congr (by simp [totalItem, Compiler.expression, SelectItem.sql])
  have hnumber (order : Sql) :
      referred rootAlias [(numberItem order).sql] = referred rootAlias [order] :=
    referred_congr (by simp [numberItem, Compiler.expression, SelectItem.sql])
  rw [windowItems, List.map_cons, List.map_cons, referred_cons rootAlias (totalItem counted).sql,
    referred_cons rootAlias (numberItem _).sql, htotal, hnumber]

/-- The items of a page refer to what the projected fields do. -/
theorem pageItems_referred (items : List SelectItem) :
    referred rootAlias
        ((items ++ [Compiler.expression (Sql.text totalCountColumn)]).map SelectItem.sql) =
      referred rootAlias (items.map SelectItem.sql) := by
  have hcount : referred rootAlias [Sql.text totalCountColumn] = [] :=
    referred_of_columns_nil (by simp)
  rw [List.map_append, referred_append]
  exact (congrArg (_ ++ ·) hcount).trans (List.append_nil _)

/-- The layers of a page expose what they refer to exactly if the numbered rows output the projected
columns, and the derived table below them what is counted, ordered by and projected. -/
theorem pageLayers_exposes {fields : List Field} {selection : Selection} {derived : Bool}
    {counted ordering : Sql} {paging : Paging}
    (h : selection.Presents c entity query fields true) :
    (Compiler.pageLayers selection derived counted ordering paging).Exposes ↔
      ProjectionAmong c fields
          (totalCountColumn :: rowNumberColumn :: fields.map c.conventions.outputName) ∧
        (derived = true →
          referred rootAlias [counted] ⊆ fields.map c.conventions.outputName ∧
          referred rootAlias (if selection.sort.isEmpty then [ordering] else selection.sort) ⊆
            fields.map c.conventions.outputName ∧
          ProjectionAmong c fields (fields.map c.conventions.outputName)) := by
  let items := selection.outer ++ [Compiler.expression (Sql.text totalCountColumn)]
  have hnumbered (names : List String) :
      referred rootAlias ([Sql.text rowNumberColumn] ++ []) ⊆ names := by
    rw [referred_of_columns_nil (by simp)]
    exact List.nil_subset _
  cases derived with
  | false =>
    change (Layers.orderedBy (.derived items
      (selection.unordered (windowItems selection counted ordering)) rootAlias _)
        [Sql.text rowNumberColumn]).Exposes ↔ _
    rw [Layers.Exposes, Layers.derivedTables_orderedBy, Layers.derivedTables,
      Selection.derivedTables_unordered, List.forall_mem_singleton, exposes_around,
      Selection.items_unordered, pageItems_referred, windowItems_outputs, h.outputs,
      (h.projection _).2, and_iff_left (hnumbered _)]
    exact (and_iff_left fun h => absurd h Bool.false_ne_true).symm
  | true =>
    change (Layers.orderedBy (.derived items
      (.derived (windowItems selection counted ordering) (selection.unordered selection.inner)
        rootAlias none) rootAlias _) [Sql.text rowNumberColumn]).Exposes ↔ _
    rw [Layers.Exposes, Layers.derivedTables_orderedBy, Layers.derivedTables, Layers.derivedTables,
      Selection.derivedTables_unordered, List.forall_mem_cons, List.forall_mem_singleton,
      exposes_around, exposes_around, Selection.items_unordered, Layers.items, pageItems_referred,
      windowItems_outputs, h.outputs, (h.projection _).2, and_iff_left (hnumbered _),
      windowItems_referred, pageOrder_referred, List.append_subset, List.append_subset,
      (h.projection _).1]
    exact and_congr_right fun _ => ⟨fun h _ => h.1, fun h => ⟨h rfl, List.nil_subset _⟩⟩

/-- The text of a statement around its SELECT: a test for existence asks for any row of it. -/
def Query.around (query : Query) (layers : Layers) : Sql :=
  match query.output with
  | .existence => Sql.text "SELECT CASE WHEN EXISTS" ++ layers.sql.parens ++
      Sql.text " THEN 1 ELSE 0 END FROM DUAL"
  | _ => layers.sql

/-- Whether the layers of a query have derived tables between them. -/
def Query.Layered (query : Query) : Prop :=
  match query.output, query.paging with
  | .rows, none => query.Wrapped true
  | .rows, some _ => True
  | .count, _ => True
  | .existence, _ => False
  | .aggregate _, _ => query.combines ≠ []

/-- A text is that of a query in layers, which expose what they refer to exactly if the projected
fields of the query do. -/
def WritesLayers (c : Compiler) (entity : Entity) (query : Query) (sql : Sql) : Prop :=
  ∃ layers : Layers, sql = query.around layers ∧
    (layers.derivedTables [] ≠ [] ↔ query.Layered) ∧
    (layers.Exposes ↔ ∀ fields, entity.queryFields query.fields = .ok fields →
      query.Exposes c entity fields)

/-- There is a projected field wherever there is a default one. -/
theorem queryFields_ne_nil {properties : List String} {fields : List Field} {default : Field}
    (h : entity.queryFields properties = .ok fields)
    (hdefault : entity.defaultField? = some default) : fields ≠ [] := by
  rintro rfl
  obtain ⟨hproperties, -⟩ := Entity.queryFields_eq_ok h
  unfold projectedProperties at hproperties
  split at hproperties
  · have hnone : entity.fields = [] := List.map_eq_nil_iff.mp hproperties.symm
    have hmissing : entity.defaultField? = none := by
      rw [Entity.defaultField?, Entity.primaryKeys, hnone]
      rfl
    exact Option.some_ne_none default (hdefault.symm.trans hmissing)
  · rename_i hne
    exact hne (List.isEmpty_iff.mpr hproperties.symm)

theorem Selection.Presents.gathered_iff {fields : List Field} {sorted : Bool}
    {selection : Selection} (h : selection.Presents c entity query fields sorted) :
    (selection.isCombined || selection.distinct || !selection.group.isEmpty) = true ↔
      query.Gathered := by
  rw [h.isCombined, h.distinct, h.group, Query.Gathered]
  simp [or_assoc]

/-- Around a derived table a page counts no column, and orders by its sort or its first column. -/
theorem pageColumns_among {fields : List Field} {selection : Selection}
    (h : selection.Presents c entity query fields true) (first : Field) (rest : List Field)
    (default : Field) (names : List String) :
    referred rootAlias [(c.pageColumns true (first :: rest) default).1] ⊆ names ∧
        referred rootAlias (if selection.sort.isEmpty then
          [(c.pageColumns true (first :: rest) default).2] else selection.sort) ⊆ names ↔
      SortsAmong c entity query.sorts names ∧
        (query.sorts = [] → c.conventions.columnName first ∈ names) := by
  have hcounted : referred rootAlias [(c.pageColumns true (first :: rest) default).1] = [] :=
    referred_of_columns_nil (by simp [Compiler.pageColumns])
  have hordering : referred rootAlias [(c.pageColumns true (first :: rest) default).2] =
      [c.conventions.columnName first] := referred_column c.conventions rootAlias first
  have hsort := h.sort names
  rw [hcounted, and_iff_right (List.nil_subset _), h.isSorted]
  cases hsorts : query.sorts with
  | nil => simp [hordering, SortsAmong]
  | cons key keys =>
    rw [hsorts] at hsort
    simpa using hsort

section Statements

variable {sql : Sql} {flag : Bool} (hentity : c.schema.entity query.entity = .ok entity)
include hentity

theorem rows_writesLayers (houtput : query.output = .rows) (hpaging : query.paging = none)
    (h : Yields (c.rows entity query) s (sql, flag) t) : WritesLayers c entity query sql := by
  unfold Compiler.rows at h
  simp only [yields_bind, yields_liftM, yields_pure, Prod.mk.injEq] at h
  obtain ⟨fields, _, ⟨hfields, rfl⟩, ⟨clauses, selection⟩, _, hselection, ⟨rfl, rfl⟩, rfl⟩ := h
  have hpresents := selection_presents hselection hentity
  refine ⟨selection.limited (rowCap query.size), by rw [Query.around, houtput], ?_, ?_⟩
  · rw [selection.derivedTables_limited_ne_nil, hpresents.wrapped_iff, Query.Layered, houtput,
      hpaging]
  · rw [forall_eq_ok_iff hfields, hpresents.exposes_limited_iff, Query.Exposes, houtput, hpaging]
    simp only [true_implies]

theorem count_writesLayers (houtput : query.output = .count)
    (h : Yields (c.count entity query) s (sql, flag) t) : WritesLayers c entity query sql := by
  unfold Compiler.count at h
  simp only [yields_bind, yields_liftM, yields_pure, Prod.mk.injEq] at h
  obtain ⟨fields, _, ⟨hfields, rfl⟩, ⟨clauses, selection⟩, _, hselection, ⟨rfl, rfl⟩, rfl⟩ := h
  have hpresents := selection_presents hselection hentity
  let items := [Compiler.expression (Sql.text "COUNT(1)")]
  refine ⟨.derived items (selection.limited (rowCap query.size)) rootAlias none,
    by rw [Query.around, houtput], ?_, ?_⟩
  · rw [Query.Layered, houtput]
    exact iff_of_true (List.cons_ne_nil _ _) trivial
  · have hcounted : referred rootAlias (items.map SelectItem.sql) = [] :=
      referred_of_columns_nil (by simp [items, Compiler.expression, SelectItem.sql])
    have hlimited := hpresents.exposes_limited_iff
    unfold Layers.Exposes at hlimited ⊢
    rw [forall_eq_ok_iff hfields, Layers.derivedTables, List.forall_mem_cons, exposes_around,
      hcounted, hlimited, Query.Exposes, houtput]
    simp [referred]

theorem aggregate_writesLayers {function : AggregateFunction}
    (houtput : query.output = .aggregate function)
    (h : Yields (c.aggregate entity query function) s (sql, flag) t) :
    WritesLayers c entity query sql := by
  unfold Compiler.aggregate at h
  simp only [yields_bind, yields_liftM, yields_pure, Prod.mk.injEq] at h
  obtain ⟨field, _, ⟨hfield, rfl⟩, fields, _, ⟨hfields, rfl⟩, ⟨clauses, selection⟩, _, hselection,
    ⟨rfl, rfl⟩, rfl⟩ := h
  have hpresents := selection_presents hselection hentity
  have hcombined : Selection.isCombined { selection with distinct := false } =
      !query.combines.isEmpty := hpresents.isCombined
  refine ⟨_, by rw [Query.around, houtput], ?_, ?_⟩
  · rw [hcombined, Query.Layered, houtput]
    cases query.combines with
    | nil => exact iff_of_false (not_not_intro rfl) (not_not_intro rfl)
    | cons first rest => exact iff_of_true (List.cons_ne_nil _ _) (List.cons_ne_nil _ _)
  · rw [forall_eq_ok_iff hfields, Query.Exposes, houtput, hcombined]
    simp only [forall_eq_ok_iff hfield]
    cases hcombines : query.combines with
    | nil => exact iff_of_true (Layers.exposes_core _) fun h => absurd rfl h
    | cons first rest =>
      have hitem : referred rootAlias ([Compiler.expression (Sql.text (function.keyword ++ "(") ++
          Sql.text (if selection.distinct then "DISTINCT " else "") ++
          c.conventions.column rootAlias field ++ Sql.text ")")].map SelectItem.sql) =
          [c.conventions.columnName field] := by
        rw [← referred_column]
        exact referred_congr (by simp [Compiler.expression, SelectItem.sql])
      have hshape : (!(first :: rest).isEmpty) = true := rfl
      simp only [hshape, if_true, Layers.Exposes, Layers.derivedTables,
        Selection.derivedTables_unordered, Selection.items_unordered, List.forall_mem_singleton,
        exposes_around]
      rw [hitem, List.cons_subset, hpresents.outputs]
      simp [referred]

omit hentity in
theorem existence_writesLayers (houtput : query.output = .existence)
    (h : Yields (c.existence entity query) s (sql, flag) t) :
    WritesLayers c entity query sql := by
  unfold Compiler.existence at h
  extract_lets fields at h
  split at h
  · exact absurd h not_yields_throw
  · simp only [yields_bind, yields_pure, Prod.mk.injEq] at h
    obtain ⟨⟨clauses, selection⟩, _, -, ⟨rfl, rfl⟩, rfl⟩ := h
    refine ⟨selection.unordered selection.inner, by rw [Query.around, houtput], ?_, ?_⟩
    · rw [Query.Layered, houtput]
      exact iff_of_false (not_not_intro rfl) not_false
    · refine iff_of_true (Layers.exposes_core _) fun fields hfields => ?_
      rw [Query.Exposes, houtput]
      trivial

theorem page_writesLayers {paging : Paging} (houtput : query.output = .rows)
    (hpaging : query.paging = some paging)
    (h : Yields (c.page entity query paging) s (sql, flag) t) :
    WritesLayers c entity query sql := by
  unfold Compiler.page at h
  simp only [yields_bind, yields_liftM] at h
  obtain ⟨fields, _, ⟨hfields, rfl⟩, h⟩ := h
  split at h
  · exact absurd h not_yields_throw
  · rename_i default hdefault
    simp only [yields_bind, yields_pure, Prod.mk.injEq] at h
    obtain ⟨⟨clauses, selection⟩, _, hselection, ⟨rfl, rfl⟩, rfl⟩ := h
    have hpresents := selection_presents hselection hentity
    obtain ⟨first, rest, rfl⟩ := List.exists_cons_of_ne_nil (queryFields_ne_nil hfields hdefault)
    refine ⟨_, by rw [Query.around, houtput], ?_, ?_⟩
    · rw [Query.Layered, houtput, hpaging, Compiler.pageLayers, Layers.derivedTables_orderedBy]
      exact iff_of_true (List.cons_ne_nil _ _) trivial
    · rw [forall_eq_ok_iff hfields, pageLayers_exposes hpresents, hpresents.gathered_iff,
        Query.Exposes, houtput, hpaging]
      refine and_congr_right fun _ => forall_congr' fun hgathered => ?_
      have hasked := pageColumns_among hpresents first rest default
        ((first :: rest).map c.conventions.outputName)
      rw [hpresents.gathered_iff.mpr hgathered, ← and_assoc, hasked,
        and_comm (a := ProjectionAmong _ _ _)]
      simp [and_assoc]

/-- The SELECT of a query is written in layers, in whatever shape its output is asked for. -/
theorem select_writesLayers (h : Yields (c.select entity query) s (sql, flag) t) :
    WritesLayers c entity query sql := by
  unfold Compiler.select at h
  split at h
  · rename_i houtput hpaging
    exact page_writesLayers hentity houtput hpaging h
  · rename_i houtput hpaging
    exact rows_writesLayers hentity houtput hpaging h
  · rename_i houtput
    exact count_writesLayers hentity houtput h
  · rename_i houtput
    exact existence_writesLayers houtput h
  · rename_i houtput
    exact aggregate_writesLayers hentity houtput h

end Statements

theorem query_writesLayers {statement : Statement} (h : c.query query = .ok statement)
    (htext : query.text = none) :
    ∃ entity, c.schema.entity query.entity = .ok entity ∧
      WritesLayers c entity query statement.script := by
  unfold Compiler.query at h
  simp only [htext, except_bind_eq_ok] at h
  obtain ⟨entity, hentity, ⟨⟨script, flag⟩, scope⟩, hrun, h⟩ := h
  cases h
  exact ⟨entity, hentity, select_writesLayers hentity (runFrom_eq_ok.mp hrun)⟩

/-! ## Queries without output forms -/

theorem Entity.mem_of_defaultField {default : Field} (h : entity.defaultField? = some default) :
    default ∈ entity.fields := by
  rcases Option.or_eq_some_iff.mp h with hkey | ⟨-, hfirst⟩
  · exact List.mem_of_mem_filter (List.mem_of_head? hkey)
  · exact List.mem_of_head? hfirst

/-- An aggregate is one of a projected field. -/
theorem aggregateField_mem {fields : List Field} {function : AggregateFunction} {field : Field}
    (hfields : entity.queryFields query.fields = .ok fields)
    (h : Compiler.aggregateField entity query.fields function = .ok field) : field ∈ fields := by
  unfold Entity.queryFields at hfields
  cases hproperties : query.fields with
  | nil =>
    rw [hproperties] at hfields h
    cases hfields
    cases function with
    | count =>
      unfold Compiler.aggregateField at h
      cases hdefault : entity.defaultField? with
      | none => simp [hdefault] at h
      | some default =>
        simp only [hdefault, Except.ok.injEq] at h
        exact h ▸ Entity.mem_of_defaultField hdefault
    | _ => cases h
  | cons property rest =>
    rw [hproperties] at hfields h
    simp only [List.isEmpty_cons, Bool.false_eq_true, if_false, List.mapM_cons,
      except_bind_eq_ok] at hfields
    obtain ⟨first, hfirst, others, -, hfields⟩ := hfields
    cases hfields
    obtain rfl : first = field := Except.ok.inj (hfirst.symm.trans h)
    exact List.mem_cons_self

/-- A query without output forms that sorts by projected fields exposes what it refers to. -/
theorem Query.exposes_of_plain {fields : List Field}
    (hfields : entity.queryFields query.fields = .ok fields)
    (hplain : ∀ field ∈ fields, field.outputForm = none)
    (hsorts : ∀ key ∈ query.sorts, ∀ field, entity.field key.field = .ok field → field ∈ fields) :
    query.Exposes c entity fields := by
  have hname : ∀ field ∈ fields, c.conventions.columnName field ∈
      fields.map c.conventions.outputName := by
    intro field hfield
    have hsame : c.conventions.outputName field = c.conventions.columnName field := by
      rw [Conventions.outputName, hplain field hfield]
    exact hsame ▸ List.mem_map_of_mem hfield
  have hprojection : ProjectionAmong c fields (fields.map c.conventions.outputName) :=
    fun field hfield _ => hname field hfield
  have hsorted : SortsAmong c entity query.sorts (fields.map c.conventions.outputName) :=
    fun key hkey field hfield => hname field (hsorts key hkey field hfield)
  unfold Query.Exposes
  split
  · exact ⟨fun _ => hprojection, fun _ => hsorted⟩
  · refine ⟨?_, fun _ => ⟨hprojection, hsorted, ?_⟩⟩
    · intro field hfield hrefers
      exact List.mem_cons_of_mem _ (List.mem_cons_of_mem _ (hprojection field hfield hrefers))
    · intro _ first hfirst
      exact hname first (List.mem_of_head? hfirst)
  · exact fun _ => hprojection
  · trivial
  · exact fun _ field hfield => hname field (aggregateField_mem hfields hfield)

end QueryLoom
