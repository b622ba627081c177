import QueryLoom.Proofs.LegibleClauses
import QueryLoom.Proofs.StatementRuns

/-!
# Legible statements

Over a legible schema the SELECT of a query is legible in every shape that its output asks for, if
the paths of its conversions have no colon. So a reader of the script finds the placeholders that
were written and no others.
-/

namespace QueryLoom

variable {c : Compiler} {s t : Scope} {entity : Entity} {query : Query} {sql : Sql} {flag : Bool}

theorem rootAlias_colonless : Colonless rootAlias := by decide

theorem groupClause_legible (hschema : c.schema.Legible) (hentity : entity.Legible)
    (hpaths : AllColonless query.paths) (h : Yields (c.groupClause entity query) s sql t) :
    sql.Legible ∧ sql.Breaks := by
  unfold Compiler.groupClause at h
  split at h
  · obtain ⟨rfl, -⟩ := yields_pure.mp h
    exact ⟨Sql.legible_nil, fun _ hfirst => by cases hfirst⟩
  · simp only [yields_bind, yields_liftM, yields_pure] at h
    obtain ⟨columns, _, ⟨hcolumns, rfl⟩, having, _, hhaving, rfl, -⟩ := h
    have hcolumnsLegible : ∀ sql ∈ columns.map (c.conventions.column rootAlias), sql.Legible := by
      refine List.forall_mem_map.mpr fun field hfield => ?_
      have hfield := hentity.fields field ((Entity.mapM_field_eq_ok hcolumns).2 field hfield)
      exact (c.conventions.column_plain rootAlias_colonless hfield).legible
    have hempty : ({} : Predicate).text.sql.Legible := Sql.legible_nil
    have hhavingLegible := foldEntries_legible hschema query.having
      (Query.allColonless_paths hpaths).2.2.2.2 hentity rootAlias_colonless hempty hhaving
    have hgroup : (Sql.text " GROUP BY ").Plain := Sql.plain_text (by decide)
    constructor
    · exact (hgroup.append_legible (.separated (by decide) hcolumnsLegible)).append_clause
        (by decide) hhavingLegible
    · rw [List.append_assoc]
      exact Sql.breaks_text (by decide) _

/-- The selection of a query is legible. -/
theorem selection_legible {properties : List String} {fields : List Field} {sorted : Bool}
    {clauses : Clauses} {selection : Selection} (hschema : c.schema.Legible)
    (hentity : entity.Legible) (hpaths : AllColonless query.paths)
    (hfields : ∀ field ∈ fields, field.Legible)
    (h : Yields (c.selection entity query properties fields sorted) s (clauses, selection) t) :
    selection.Legible := by
  unfold Compiler.selection at h
  simp only [yields_bind, yields_pure, Prod.mk.injEq] at h
  obtain ⟨_, r, hclauses, group, _, hgroup, ⟨rfl, rfl⟩, -⟩ := h
  have hlegible := Query.clauses_legible hschema query hpaths rootAlias_colonless hclauses
  obtain ⟨hgroup, hbreaks⟩ := groupClause_legible hschema hentity hpaths hgroup
  exact {
    inner := legibleItems_map c.conventions rootAlias_colonless hfields false
    outer := legibleItems_map c.conventions rootAlias_colonless hfields true
    table := Compiler.colonless_table hentity
    tableAlias := rootAlias_colonless
    join := JoinedTable.legible_list hlegible.usableJoin
    condition := hlegible.condition
    group := hgroup
    group_breaks := hbreaks
    combine := CombinedSelect.legible_list hlegible.combine
    sort := hlegible.sort }

theorem Entity.Legible.queryFields (hentity : entity.Legible) {properties : List String}
    {fields : List Field} (h : entity.queryFields properties = .ok fields) :
    ∀ field ∈ fields, field.Legible :=
  fun field hfield => hentity.fields field ((Entity.queryFields_eq_ok h).2 field hfield)

/-- The default field is a field. -/
theorem Entity.Legible.defaultField? (hentity : entity.Legible) {field : Field}
    (h : entity.defaultField? = some field) : field.Legible := by
  refine hentity.fields field ?_
  rcases Option.or_eq_some_iff.mp h with hkey | ⟨-, hfirst⟩
  · exact List.mem_of_mem_filter (List.mem_of_mem_head? hkey)
  · exact List.mem_of_mem_head? hfirst

theorem legible_expression (h : sql.Legible) : (Compiler.expression sql).sql.Legible := h

/-- A page is legible if its selection is. -/
theorem pageLayers_legible {selection : Selection} {derived : Bool} {counted ordering : Sql}
    {paging : Paging} (h : selection.Legible) (hcounted : counted.Plain)
    (hordering : ordering.Legible) :
    (Compiler.pageLayers selection derived counted ordering paging).sql.Legible := by
  unfold Compiler.pageLayers
  extract_lets order total number window numbered items
  have hcount : (Sql.text "COUNT(").Plain := Sql.plain_text (by decide)
  have hover : (Sql.text "ROW_NUMBER() OVER(ORDER BY ").Plain := Sql.plain_text (by decide)
  have horder : order.Legible := by
    unfold order
    split
    · exact hordering.append_text (by decide)
    · exact .separated (by decide) h.sort
  have htotal : total.sql.Legible :=
    legible_expression ((hcount.append hcounted).legible.append_text (by decide))
  have hnumber : number.sql.Legible :=
    legible_expression ((hover.append_legible horder).append_text (by decide))
  have hwindow : LegibleItems window :=
    List.forall_mem_cons.mpr ⟨htotal, List.forall_mem_cons.mpr ⟨hnumber, h.inner⟩⟩
  have hnumbered : numbered.sql.Legible := by
    unfold numbered
    split
    · exact Layers.legible_derived hwindow (h.unordered h.inner) rootAlias_colonless none
    · exact h.unordered hwindow
  have hcolumn : LegibleItems [Compiler.expression (Sql.text totalCountColumn)] :=
    List.forall_mem_singleton.mpr (legible_expression (Sql.legible_text (by decide)))
  have hitems : LegibleItems items := List.forall_mem_append.mpr ⟨h.outer, hcolumn⟩
  have hsort : ∀ item ∈ [Sql.text rowNumberColumn], item.Legible :=
    List.forall_mem_singleton.mpr (Sql.legible_text (by decide))
  exact Layers.legible_orderedBy (Layers.legible_derived hitems hnumbered rootAlias_colonless _)
    hsort

theorem pageColumns_plain (derived : Bool) {fields : List Field} {default : Field}
    (hfields : ∀ field ∈ fields, field.Legible) (hdefault : default.Legible) :
    (c.pageColumns derived fields default).1.Plain ∧
      (c.pageColumns derived fields default).2.Plain := by
  have hcolumn {field : Field} (h : field.Legible) :=
    c.conventions.column_plain rootAlias_colonless h
  have hone : (Sql.text "1").Plain := Sql.plain_text (by decide)
  unfold Compiler.pageColumns
  split
  · exact ⟨hone, hcolumn (hfields _ List.mem_cons_self)⟩
  · exact ⟨hcolumn hdefault, hcolumn hdefault⟩

section Shapes

variable (hschema : c.schema.Legible) (hentity : entity.Legible) (hpaths : AllColonless query.paths)
include hschema hentity hpaths

theorem rows_legible (h : Yields (c.rows entity query) s (sql, flag) t) : sql.Legible := by
  unfold Compiler.rows at h
  simp only [yields_bind, yields_liftM, yields_pure, Prod.mk.injEq] at h
  obtain ⟨fields, _, ⟨hfields, rfl⟩, ⟨clauses, selection⟩, _, hselection, ⟨rfl, -⟩, -⟩ := h
  have hlegible := selection_legible hschema hentity hpaths (hentity.queryFields hfields) hselection
  exact hlegible.limited _

theorem count_legible (h : Yields (c.count entity query) s (sql, flag) t) : sql.Legible := by
  unfold Compiler.count at h
  simp only [yields_bind, yields_liftM, yields_pure, Prod.mk.injEq] at h
  obtain ⟨fields, _, ⟨hfields, rfl⟩, ⟨clauses, selection⟩, _, hselection, ⟨rfl, -⟩, -⟩ := h
  have hlegible := selection_legible hschema hentity hpaths (hentity.queryFields hfields) hselection
  have hitem : LegibleItems [Compiler.expression (Sql.text "COUNT(1)")] :=
    List.forall_mem_singleton.mpr (legible_expression (Sql.legible_text (by decide)))
  exact Layers.legible_derived hitem (hlegible.limited _) rootAlias_colonless none

theorem existence_legible (h : Yields (c.existence entity query) s (sql, flag) t) :
    sql.Legible := by
  unfold Compiler.existence at h
  extract_lets fields at h
  have hfields : ∀ field ∈ fields, field.Legible := by
    exact fun field hfield => hentity.fields field (mem_of_existenceFields field hfield)
  split at h
  · exact absurd h not_yields_throw
  · simp only [yields_bind, yields_pure, Prod.mk.injEq] at h
    obtain ⟨⟨clauses, selection⟩, _, hselection, ⟨rfl, -⟩, -⟩ := h
    have hlegible := selection_legible hschema hentity hpaths hfields hselection
    have hexists : (Sql.text "SELECT CASE WHEN EXISTS").Plain := Sql.plain_text (by decide)
    have hrows := (hlegible.unordered hlegible.inner).parens
    exact (hexists.append_legible hrows).append_text (by decide)

theorem aggregate_legible {function : AggregateFunction}
    (h : Yields (c.aggregate entity query function) s (sql, flag) t) : sql.Legible := by
  unfold Compiler.aggregate at h
  simp only [yields_bind, yields_liftM, yields_pure, Prod.mk.injEq] at h
  obtain ⟨field, _, ⟨hfield, rfl⟩, fields, _, ⟨hfields, rfl⟩, ⟨clauses, selection⟩, _, hselection,
    ⟨rfl, -⟩, -⟩ := h
  have hlegible := selection_legible hschema hentity hpaths (hentity.queryFields hfields) hselection
  have hundistinct : ({ selection with distinct := false } : Selection).Legible :=
    { hlegible with }
  have haggregated : field.Legible := by
    unfold Compiler.aggregateField at hfield
    split at hfield
    · exact hentity.field hfield
    · split at hfield
      · rename_i found hdefault
        cases hfield
        exact hentity.defaultField? hdefault
      · cases hfield
    · cases hfield
  have hcolumn := c.conventions.column_plain rootAlias_colonless haggregated
  have hfunction : (Sql.text (function.keyword ++ "(") ++
      Sql.text (if selection.distinct then "DISTINCT " else "")).Plain := by
    refine (Sql.plain_text ?_).append (Sql.plain_text ?_)
    · cases function <;> decide
    · split <;> decide
  have hitem : LegibleItems [Compiler.expression (_ ++ Sql.text ")")] :=
    List.forall_mem_singleton.mpr
      (legible_expression ((hfunction.append hcolumn).legible.append_text (by decide)))
  split
  · exact Layers.legible_derived hitem (hundistinct.unordered hlegible.inner) rootAlias_colonless
      none
  · exact hundistinct.unordered hitem

theorem page_legible {paging : Paging} (h : Yields (c.page entity query paging) s (sql, flag) t) :
    sql.Legible := by
  unfold Compiler.page at h
  simp only [yields_bind, yields_liftM] at h
  obtain ⟨fields, _, ⟨hfields, rfl⟩, h⟩ := h
  split at h
  · exact absurd h not_yields_throw
  · rename_i default hdefault
    simp only [yields_bind, yields_pure, Prod.mk.injEq] at h
    obtain ⟨⟨clauses, selection⟩, _, hselection, ⟨rfl, -⟩, -⟩ := h
    have hfields := hentity.queryFields hfields
    have hlegible := selection_legible hschema hentity hpaths hfields hselection
    obtain ⟨hcounted, hordering⟩ := pageColumns_plain (c := c)
      (selection.isCombined || selection.distinct || !selection.group.isEmpty) hfields
      (hentity.defaultField? hdefault)
    exact pageLayers_legible hlegible hcounted hordering.legible

/-- The SELECT of a query is legible in every shape. -/
theorem select_legible (h : Yields (c.select entity query) s (sql, flag) t) : sql.Legible := by
  unfold Compiler.select at h
  split at h
  · exact page_legible hschema hentity hpaths h
  · exact rows_legible hschema hentity hpaths h
  · exact count_legible hschema hentity hpaths h
  · exact existence_legible hschema hentity hpaths h
  · exact aggregate_legible hschema hentity hpaths h

end Shapes

theorem query_legible {statement : Statement} (hschema : c.schema.Legible)
    (htext : query.text = none) (hpaths : AllColonless query.paths)
    (h : c.query query = .ok statement) : statement.script.Legible := by
  unfold Compiler.query at h
  simp only [htext, except_bind_eq_ok] at h
  obtain ⟨entity, hentity, ⟨⟨script, flag⟩, scope⟩, hrun, h⟩ := h
  cases h
  exact select_legible hschema (hschema.entity hentity) hpaths (runFrom_eq_ok.mp hrun)

end QueryLoom
