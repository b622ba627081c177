import QueryLoom.Proofs.AliasColumns

/-!
# Columns of a level

A query names fields on its own level, in its comparisons and joins or as the key of its traversal,
and nested queries, joined queries and set operations name fields on theirs. The clauses of a query
write the columns of its level under the alias that it is compiled under, in order, and the columns
of all other levels under other aliases.

## Implementation notes

Under an alias that was handed out before, the clauses of a query write the columns of its level if
they are compiled under this alias, and none otherwise. One induction says both, and what it says
of the nested levels is that they write none.
-/

namespace QueryLoom

/-! ## Fields of a level -/

/-- The property that a comparison writes the column of: none where it compares with an empty
collection. -/
def Criterion.properties (criterion : Criterion) : List String :=
  if writesColumn criterion.operator criterion.value then [criterion.field] else []

mutual
/-- The properties that a condition writes the columns of, nested queries apart. -/
def Condition.properties (condition : Condition) : List String :=
  match condition with
  | .constant _ => []
  | .criterion criterion => criterion.properties
  | .group entries => entryProperties entries
termination_by structural condition

/-- The properties that a list of conditions writes the columns of, nested queries apart. -/
def entryProperties (entries : List ConditionEntry) : List String :=
  match entries with
  | [] => []
  | ⟨_, condition⟩ :: rest => condition.properties ++ entryProperties rest
termination_by structural entries
end

namespace Compiler

/-- The properties of an entity that a join with another one compares. -/
def pairedProperties (source target : Entity) (kind : JoinKind) (fields : List (String × String)) :
    List String :=
  if kind == .cross then [] else (joinPairs source target fields).map Prod.fst

/-- The properties of an entity that a join with a query compares. -/
def joinedProperties (c : Compiler) (source : Entity) (join : Join) : List String :=
  match c.schema.entity join.query.entity with
  | .ok target => pairedProperties source target join.kind join.fields
  | .error _ => []

/-- The properties of an entity that a query over it writes the columns of on its own level: the key
of its traversal, or those of its conditions and its joins. -/
def levelProperties (c : Compiler) (source : Entity) (query : Query) : List String :=
  query.recursion.elim
    (entryProperties query.conditions ++ query.joins.flatMap (c.joinedProperties source))
    fun recursion => [recursion.key]

/-- The columns of some properties of an entity, as they are written. -/
def columnNames (c : Compiler) (entity : Entity) (properties : List String) : List String :=
  properties.filterMap fun property =>
    (entity.field property).toOption.map (c.conventions.identifier ·.column)

/-- The columns of some properties of an entity that are written under one alias where they are
compiled under another. -/
def namesUnder (c : Compiler) (own tableAlias : String) (entity : Entity)
    (properties : List String) : List String :=
  if tableAlias = own then c.columnNames entity properties else []

end Compiler

section Names

variable {c : Compiler} {own tableAlias : String} {entity : Entity}

theorem columnNames_append (a b : List String) :
    c.columnNames entity (a ++ b) = c.columnNames entity a ++ c.columnNames entity b :=
  List.filterMap_append

@[simp] theorem namesUnder_nil : c.namesUnder own tableAlias entity [] = [] := by
  unfold Compiler.namesUnder
  split <;> rfl

@[simp] theorem namesUnder_append (a b : List String) :
    c.namesUnder own tableAlias entity (a ++ b) =
      c.namesUnder own tableAlias entity a ++ c.namesUnder own tableAlias entity b := by
  unfold Compiler.namesUnder
  split
  · exact columnNames_append a b
  · rfl

theorem namesUnder_of_ne (h : tableAlias ≠ own) (properties : List String) :
    c.namesUnder own tableAlias entity properties = [] := if_neg h

theorem namesUnder_self (properties : List String) :
    c.namesUnder own own entity properties = c.columnNames entity properties := if_pos rfl

/-- The column of a field is written under the alias that it is compiled under. -/
theorem under_field {property : String} {field : Field} (h : entity.field property = .ok field) :
    (c.conventions.column tableAlias field).under own =
      c.namesUnder own tableAlias entity [property] := by
  rw [Conventions.under_column, Compiler.namesUnder, Compiler.columnNames, List.filterMap_cons, h]
  rfl

end Names

/-! ## Comparisons -/

section Comparisons

variable {c : Compiler} {s t : Scope} {own tableAlias property : String} {entity : Entity}

@[simp] theorem under_comparison (column : Sql) (operator : Operator) (right : Sql) :
    (comparison column operator right).under own = column.under own ++ right.under own := by
  simp [comparison]

theorem bind_under {value : Value} {sql : Sql} (h : Yields (c.bind property value) s sql t) :
    sql.under own = [] := by
  obtain ⟨rfl, -⟩ := Compiler.bind_yields.mp h
  rfl

theorem bind_mapM_under {items : List Value} {operands : List Sql}
    (h : Yields (items.mapM (c.bind property)) s operands t) :
    ∀ operand ∈ operands, operand.under own = [] := by
  induction items generalizing s operands with
  | nil =>
    obtain ⟨rfl, -⟩ := yields_mapM_nil.mp h
    exact List.forall_mem_nil _
  | cons first rest ih =>
    obtain ⟨operand, r, others, hfirst, hrest, rfl⟩ := yields_mapM_cons.mp h
    exact List.forall_mem_cons.mpr ⟨bind_under hfirst, ih hrest⟩

/-- A comparison with a collection writes its column, unless the collection is empty. -/
theorem compareCollection_under {column : Sql} {operator : Operator} {items : List Value}
    {p : Predicate} (h : Yields (c.compareCollection entity property column operator items) s p t) :
    p.text.sql.under own = if items.isEmpty then [] else column.under own := by
  unfold Compiler.compareCollection at h
  split at h
  · exact absurd h not_yields_throw
  · split at h
    · rename_i hempty
      obtain ⟨rfl, -⟩ := yields_pure.mp h
      rw [if_pos hempty, Predicate.under_constant]
    · rename_i hempty
      rw [if_neg hempty]
      split at h
      · simp only [yields_bind, yields_pure] at h
        obtain ⟨operand, _, hbind, rfl, -⟩ := h
        simp [bind_under hbind]
      · simp only [yields_bind, yields_pure] at h
        obtain ⟨operands, _, hbind, rfl, -⟩ := h
        simp [Sql.under_separated, List.flatMap_eq_nil_iff.mpr (bind_mapM_under hbind)]

theorem compareScalar_under {column : Sql} {operator : Operator} {value : Value} {p : Predicate}
    (h : Yields (c.compareScalar property column operator value) s p t) :
    p.text.sql.under own = column.under own := by
  unfold Compiler.compareScalar at h
  split at h
  · simp only [yields_bind, yields_pure] at h
    obtain ⟨operand, _, hbind, rfl, -⟩ := h
    simp [bind_under hbind]
  · simp only [yields_bind, yields_pure] at h
    obtain ⟨operand, _, hbind, rfl, -⟩ := h
    simp [bind_under hbind]

/-- Sorts under another alias write nothing. -/
theorem sortClause_under {sorted : Bool} {keys : List SortKey} {sort : List Sql}
    (hne : tableAlias ≠ own) (h : Yields (sortClause c entity tableAlias sorted keys) s sort t) :
    ∀ item ∈ sort, item.under own = [] := by
  unfold sortClause at h
  split at h
  · unfold Compiler.sortItems at h
    induction keys generalizing s sort with
    | nil =>
      obtain ⟨rfl, -⟩ := yields_mapM_nil.mp h
      exact List.forall_mem_nil _
    | cons key rest ih =>
      obtain ⟨item, r, others, hitem, hrest, rfl⟩ := yields_mapM_cons.mp h
      simp only [yields_bind, yields_liftM, yields_pure] at hitem
      obtain ⟨field, _, ⟨hfield, rfl⟩, column, _, hconvert, rfl, -⟩ := hitem
      rw [List.forall_mem_cons]
      refine ⟨?_, ih hrest⟩
      rw [Sql.under_append, Sql.under_text, Sql.under_congr (convert_columns hconvert),
        under_field hfield, namesUnder_of_ne hne]
      rfl
  · obtain ⟨rfl, -⟩ := yields_pure.mp h
    exact List.forall_mem_nil _

/-- Projected fields under another alias write nothing. -/
theorem items_under (hne : tableAlias ≠ own) (labelled : Bool) (fields : List Field) :
    (SelectItem.list (fields.map (c.conventions.item tableAlias labelled))).under own = [] := by
  rw [SelectItem.under_list, List.flatMap_eq_nil_iff]
  intro item hitem
  obtain ⟨field, -, rfl⟩ := List.mem_map.mp hitem
  rw [List.eq_nil_iff_forall_not_mem]
  intro name hname
  rw [Sql.mem_under, Conventions.mem_columns_item] at hname
  exact hne (congrArg Prod.fst hname.1).symm

end Comparisons

/-! ## Joins -/

/-- The clauses of a query write nothing under an alias. -/
structure Clauses.Avoids (own : String) (clauses : Clauses) : Prop where
  condition : clauses.condition.sql.under own = []
  join : (JoinedTable.list clauses.usableJoin).under own = []
  combine : (CombinedSelect.list clauses.combine).under own = []
  sort : ∀ item ∈ clauses.sort, item.under own = []

section Joins

variable {c : Compiler} {s t : Scope} {own sourceAlias targetAlias : String}
  {source target : Entity}

/-- An ON clause writes the joined fields of the source. -/
theorem joinPredicates_under {kind : JoinKind} {fields : List (String × String)}
    {operator : JoinOperator} {on : List SearchText} (hne : targetAlias ≠ own)
    (h : c.joinPredicates source target kind fields operator sourceAlias targetAlias = .ok on) :
    (on.flatMap fun text => text.sql.under own) =
      c.namesUnder own sourceAlias source
        (Compiler.pairedProperties source target kind fields) := by
  unfold Compiler.joinPredicates at h
  unfold Compiler.pairedProperties
  split at h
  · rename_i hcross
    cases h
    rw [if_pos hcross, namesUnder_nil]
    rfl
  · rename_i hcross
    rw [if_neg hcross]
    split at h
    · cases h
    · generalize Compiler.joinPairs source target fields = pairs at h ⊢
      induction pairs generalizing on with
      | nil =>
        cases h
        exact namesUnder_nil.symm
      | cons pair rest ih =>
        simp only [List.mapM_cons, except_bind_eq_ok] at h
        obtain ⟨text, ⟨left, hleft, right, hright, htext⟩, texts, htexts, hon⟩ := h
        cases htext
        cases hon
        rw [List.flatMap_cons, ih htexts, SearchText.under_leaf, Sql.under_append, Sql.under_append,
          under_field hleft, under_field hright, namesUnder_of_ne hne, Sql.under_text,
          List.append_nil, List.append_nil, ← namesUnder_append]
        rfl

/-- A join adds tables that write the joined fields of the source, and hands on a condition that
writes nothing more. -/
theorem joinedTables_under {tableAlias : String} {kind : JoinKind}
    {fields : List (String × String)} {operator : JoinOperator} {projection : List String}
    {sub : Clauses} {condition joining : Predicate} {tables : List JoinedTable}
    (hsettled : Settled s.nextAlias own) (hne : tableAlias ≠ own) (hsub : sub.Avoids own)
    (h : Yields (c.joinedTables source sourceAlias target tableAlias kind fields operator projection
      sub condition) s (tables, joining) t) :
    (JoinedTable.list tables).under own =
        c.namesUnder own sourceAlias source
          (Compiler.pairedProperties source target kind fields) ∧
      joining.text.sql.under own = condition.text.sql.under own := by
  rcases joinedTables_yields h with ⟨-, rfl, on, hon, rfl, rfl⟩ |
    ⟨-, rfl, derivedAlias, projected, on, halias, -, hon, rfl⟩
  · have hcondition : sub.predicate.text.sql.under own = [] := hsub.condition
    constructor
    · rw [JoinedTable.under_list_cons, JoinedTable.under_sql, hsub.join, List.append_nil,
        JoinedTable.sourceSql, Sql.under_text, List.nil_append, ← joinPredicates_under hne hon]
      split
      · simp [hcondition]
      · rfl
    · split
      · rfl
      · rw [Predicate.under_and, hcondition, List.append_nil]
  · obtain ⟨rfl, -⟩ := freshAlias_yields_nestedAlias halias
    have hderived : nestedAlias s.nextAlias ≠ own := (hsettled s.nextAlias (Nat.le_refl _)).symm
    refine ⟨?_, rfl⟩
    rw [JoinedTable.under_list_cons, JoinedTable.under_list_nil, List.append_nil,
      JoinedTable.under_sql, joinPredicates_under hderived hon]
    simp [JoinedTable.sourceSql, items_under hne, hsub.join, hsub.condition, hsub.combine]

end Joins

/-! ## Clauses -/

/-- What the clauses of a query over an entity write under an alias: the columns of the level of the
query where it is compiled under this alias. -/
structure Clauses.Under (c : Compiler) (own tableAlias : String) (entity : Entity) (query : Query)
    (clauses : Clauses) : Prop where
  rows : clauses.condition.sql.under own ++ (JoinedTable.list clauses.usableJoin).under own =
    c.namesUnder own tableAlias entity (c.levelProperties entity query)
  combine : (CombinedSelect.list clauses.combine).under own = []
  sort : tableAlias ≠ own → ∀ item ∈ clauses.sort, item.under own = []

/-- The clauses of a query that is compiled under another alias write nothing. -/
theorem Clauses.Under.avoids {c : Compiler} {own tableAlias : String} {entity : Entity}
    {query : Query} {clauses : Clauses} (h : clauses.Under c own tableAlias entity query)
    (hne : tableAlias ≠ own) : clauses.Avoids own := by
  have hrows := h.rows
  rw [namesUnder_of_ne hne, List.append_eq_nil_iff] at hrows
  exact ⟨hrows.1, hrows.2, h.combine, h.sort hne⟩

/-- A nested query that is compared with writes nothing. -/
theorem compareNested_under {c : Compiler} {own nestedAlias : String} {column : Sql}
    {operator : Operator} {target : NestedTarget} {distinct : Bool} {clauses : Clauses}
    (hne : nestedAlias ≠ own) (h : clauses.Avoids own) :
    (c.compareNested column operator target nestedAlias distinct clauses).text.sql.under own =
      column.under own := by
  have hitem : (c.conventions.column nestedAlias target.field).under own = [] := by
    rw [Conventions.under_column, if_neg hne]
  have havoids : (c.nestedSelection target nestedAlias distinct clauses).Avoids own :=
    ⟨hitem, hitem, h.join, h.condition, rfl, h.combine, h.sort⟩
  change (SearchText.leaf _).sql.under own = _
  rw [SearchText.under_leaf, under_comparison, Sql.under_parens, havoids.limited, List.append_nil]

/-- A fresh alias is another one than those handed out before. -/
theorem Settled.fresh {own tableAlias : String} {s t : Scope} (h : Settled s.nextAlias own)
    (halias : Yields freshAlias s tableAlias t) : tableAlias ≠ own ∧ Settled t.nextAlias own := by
  obtain ⟨rfl, hnext⟩ := freshAlias_yields_nestedAlias halias
  exact ⟨(h s.nextAlias (Nat.le_refl _)).symm, h.mono (hnext ▸ Nat.le_succ _)⟩

/-- A traversal runs under an alias of its own, and a query without one under its alias. -/
theorem traversalAlias_under {recursion : Option Recursion} {own tableAlias innerAlias : String}
    {s t : Scope} (hsettled : Settled s.nextAlias own)
    (h : Yields (traversalAlias recursion tableAlias) s innerAlias t) :
    (recursion = none → innerAlias = tableAlias) ∧ (recursion ≠ none → innerAlias ≠ own) := by
  unfold traversalAlias at h
  split at h
  · rename_i hsome
    refine ⟨?_, fun _ => (hsettled.fresh h).1⟩
    rintro rfl
    cases hsome
  · rename_i hnone
    obtain ⟨rfl, -⟩ := yields_pure.mp h
    exact ⟨fun _ => rfl, fun hsome => absurd (Option.isSome_iff_ne_none.mpr hsome) hnone⟩

/-- A query keeps the columns of its conditions and joins, or writes the key of its traversal in
their place. -/
theorem traversal_under {c : Compiler} {own tableAlias innerAlias : String} {entity : Entity}
    {recursion : Option Recursion} {before clauses : Clauses} {conditions joins : List String}
    (hallow : before.allowJoin = true) (hinner : recursion = none → innerAlias = tableAlias)
    (hfresh : recursion ≠ none → innerAlias ≠ own)
    (hcondition : before.condition.sql.under own = c.namesUnder own innerAlias entity conditions)
    (hjoin : (JoinedTable.list before.join).under own = c.namesUnder own innerAlias entity joins)
    (h : traversal c entity tableAlias innerAlias before recursion = .ok clauses) :
    clauses.condition.sql.under own ++ (JoinedTable.list clauses.usableJoin).under own =
        c.namesUnder own tableAlias entity
          (recursion.elim (conditions ++ joins) fun spec => [spec.key]) ∧
      clauses.combine = before.combine ∧ clauses.sort = before.sort := by
  rcases traversal_eq_ok h with ⟨rfl, rfl⟩ | ⟨spec, key, relation, rfl, hkey, -, rfl⟩
  · refine ⟨?_, rfl, rfl⟩
    rw [Clauses.usableJoin, if_pos hallow, hcondition, hjoin, hinner rfl, ← namesUnder_append]
    rfl
  · -- the conditions and joins have moved into the traversal, under an alias of its own
    refine ⟨?_, rfl, rfl⟩
    have hne : innerAlias ≠ own := hfresh (Option.some_ne_none spec)
    rw [namesUnder_of_ne hne] at hcondition hjoin
    have hcolumn (field : Field) : (c.conventions.column innerAlias field).under own = [] := by
      rw [Conventions.under_column, if_neg hne]
    have hanchor : (if before.condition.isEmpty then Sql.text "1 = 1"
        else before.condition.sql).under own = [] := by
      split
      · exact Sql.under_text _
      · exact hcondition
    have hlink : (Compiler.traversalLink spec.direction (c.conventions.column innerAlias key)
        (c.conventions.column innerAlias relation)).under own = [] := by
      cases spec.direction <;> simp [Compiler.traversalLink, hcolumn]
    have hscript : (traversalScript (c.table entity) innerAlias before
        (c.conventions.column innerAlias key) (c.conventions.column innerAlias relation)
        spec.direction).under own = [] := by
      simp only [traversalScript, Sql.under_append, Sql.under_text, Sql.under_clause, hcolumn,
        hjoin, hanchor, hlink, List.append_nil]
    simp only [Clauses.usableJoin, Bool.false_eq_true, if_false, JoinedTable.under_list_nil,
      List.append_nil, SearchText.under_leaf, under_comparison, Sql.under_parens, hscript,
      under_field hkey, Option.elim_some]

mutual
/-- Under an alias that was handed out before, the clauses of a query write the columns of its level
if they are compiled under this alias, and none otherwise. -/
theorem Query.clauses_under {c : Compiler} {own : String} (query : Query) {fields : List String}
    {tableAlias : String} {sorted : Bool} {s t : Scope} {clauses : Clauses}
    (hsettled : Settled s.nextAlias own)
    (h : Yields (query.clauses c fields tableAlias sorted) s clauses t) :
    ∃ entity, c.schema.entity query.entity = .ok entity ∧
      clauses.Under c own tableAlias entity query := by
  obtain ⟨entity, innerAlias, r₁, condition, r₂, sort, r₃, combine, trace, r₄, join, joining,
    hentity, halias, hcondition, hsort, hcombine, hjoin, htraversal⟩ := Query.clauses_yields h
  refine ⟨entity, hentity, ?_⟩
  -- numbers of aliases only grow, so no part is handed this alias again
  have hr₁ := hsettled.mono (traversalAlias_advances _ _ _ _ _ halias)
  have hr₂ := hr₁.mono (foldEntries_advances _ _ _ _ _ _ _ hcondition)
  have hr₃ := hr₂.mono (sortClause_advances _ _ _ _ _ _ _ hsort)
  have hr₄ := hr₃.mono (combinedSelects_advances _ _ _ _ _ _ hcombine)
  obtain ⟨name, conditions, sorts, joins, combines, recursion, rest⟩ := query
  have hconditionUnder := foldEntries_under conditions hr₁ hcondition
  have hcombineUnder := combinedSelects_under combines hr₃ hcombine
  obtain ⟨hjoinUnder, hjoiningUnder⟩ := joinTables_under joins hr₄ hjoin
  obtain ⟨hinner, hfresh⟩ := traversalAlias_under hsettled halias
  rw [← hjoiningUnder] at hconditionUnder
  obtain ⟨hrows, hkeptCombine, hkeptSort⟩ :=
    traversal_under rfl hinner hfresh hconditionUnder hjoinUnder htraversal
  refine ⟨hrows, ?_, ?_⟩
  · rw [hkeptCombine, hcombineUnder]
  · intro hne
    rw [hkeptSort]
    exact sortClause_under hne hsort
termination_by structural query

theorem foldEntries_under {c : Compiler} {own : String} (entries : List ConditionEntry)
    {entity : Entity} {tableAlias : String} {before p : Predicate} {s t : Scope}
    (hsettled : Settled s.nextAlias own)
    (h : Yields (foldEntries c entity tableAlias before entries) s p t) :
    p.text.sql.under own = before.text.sql.under own ++
      c.namesUnder own tableAlias entity (entryProperties entries) := by
  cases entries with
  | nil =>
    obtain ⟨rfl, -⟩ := foldEntries_nil_yields.mp h
    rw [entryProperties, namesUnder_nil, List.append_nil]
  | cons entry rest =>
    obtain ⟨q, r, hq, hrest⟩ := foldEntries_cons_yields.mp h
    obtain ⟨connector, condition⟩ := entry
    have hr := hsettled.mono (Condition.predicate_advances _ _ _ _ _ _ hq)
    rw [foldEntries_under rest hr hrest, Predicate.under_extend,
      Condition.predicate_under condition hsettled hq, entryProperties, namesUnder_append,
      List.append_assoc]
termination_by structural entries

theorem Condition.predicate_under {c : Compiler} {own : String} (condition : Condition)
    {entity : Entity} {tableAlias : String} {p : Predicate} {s t : Scope}
    (hsettled : Settled s.nextAlias own)
    (h : Yields (condition.predicate c entity tableAlias) s p t) :
    p.text.sql.under own = c.namesUnder own tableAlias entity condition.properties := by
  cases condition with
  | constant holds =>
    obtain ⟨rfl, -⟩ := predicate_constant_yields.mp h
    rw [Predicate.under_constant, Condition.properties, namesUnder_nil]
  | criterion criterion =>
    exact Criterion.predicate_under criterion hsettled (predicate_criterion_yields.mp h)
  | group entries =>
    match entries with
    | [⟨connector, only⟩] =>
      rw [Condition.predicate_under only hsettled (predicate_group_one_yields.mp h),
        Condition.properties, entryProperties, entryProperties, List.append_nil]
    | [] =>
      obtain ⟨q, hq, rfl⟩ := (predicate_group_yields (by simp)).mp h
      obtain ⟨rfl, -⟩ := foldEntries_nil_yields.mp hq
      exact namesUnder_nil.symm
    | ⟨connector, condition⟩ :: second :: rest =>
      obtain ⟨q, hq, rfl⟩ := (predicate_group_yields (by simp)).mp h
      obtain ⟨p, r, hp, hrest⟩ := foldEntries_cons_yields.mp hq
      have hr := hsettled.mono (Condition.predicate_advances _ _ _ _ _ _ hp)
      rw [Predicate.under_grouped, foldEntries_under (second :: rest) hr hrest,
        Predicate.under_extend, Condition.predicate_under condition hsettled hp,
        Condition.properties, entryProperties, namesUnder_append]
      rfl
termination_by structural condition

theorem Criterion.predicate_under {c : Compiler} {own : String} (criterion : Criterion)
    {entity : Entity} {tableAlias : String} {p : Predicate} {s t : Scope}
    (hsettled : Settled s.nextAlias own)
    (h : Yields (criterion.predicate c entity tableAlias) s p t) :
    p.text.sql.under own = c.namesUnder own tableAlias entity criterion.properties := by
  obtain ⟨field, column, r, hfield, hconvert, hcases⟩ := Criterion.predicate_yields h
  have hr := hsettled.mono (convert_advances _ _ _ _ _ _ hconvert)
  have hcolumn : column.under own = c.namesUnder own tableAlias entity [criterion.field] := by
    rw [Sql.under_congr (convert_columns hconvert), under_field hfield]
  obtain ⟨property, operator, value, conversion⟩ := criterion
  dsimp only at hcolumn hcases
  unfold Criterion.properties
  rcases hcases with ⟨htakes, rfl, -⟩ | ⟨htakes, hcases⟩
  · have hwrites : writesColumn operator value = true := by
      cases value <;> simp [writesColumn, htakes]
    simp [hcolumn, hwrites]
  · cases value with
    | subquery query =>
      rcases hcases with ⟨query', target, nestedAlias, r', clauses, hvalue, -, halias, hclauses,
        rfl⟩ | ⟨items, hvalue, -⟩ | ⟨hscalar, -⟩
      · have hquery : query' = query := (Value.subquery.inj hvalue).symm
        rw [hquery] at hclauses
        obtain ⟨hne, hr'⟩ := hr.fresh halias
        obtain ⟨nested, -, hunder⟩ := Query.clauses_under query hr' hclauses
        exact (compareNested_under hne (hunder.avoids hne)).trans hcolumn
      · cases hvalue
      · exact hscalar.elim
    | collection items =>
      rcases hcases with ⟨query', target, nestedAlias, r', clauses, hvalue, -⟩ |
        ⟨items', hvalue, hcompare⟩ | ⟨hscalar, -⟩
      · cases hvalue
      · cases hvalue
        rw [compareCollection_under hcompare, hcolumn, writesColumn, htakes]
        cases items.isEmpty <;> simp
      · exact hscalar.elim
    | _ =>
      rcases hcases with ⟨query', target, nestedAlias, r', clauses, hvalue, -⟩ |
        ⟨items', hvalue, -⟩ | ⟨hscalar, hcompare⟩
      · cases hvalue
      · cases hvalue
      · exact (compareScalar_under hcompare).trans hcolumn
termination_by structural criterion

theorem combinedSelects_under {c : Compiler} {own : String} (combines : List Combine)
    {parent : Entity} {fields : List String} {combine : List CombinedSelect} {trace : Trace}
    {s t : Scope} (hsettled : Settled s.nextAlias own)
    (h : Yields (combinedSelects c parent fields combines) s (combine, trace) t) :
    (CombinedSelect.list combine).under own = [] := by
  cases combines with
  | nil =>
    obtain ⟨rfl, -, -⟩ := combinedSelects_nil_yields.mp h
    rfl
  | cons first rest =>
    obtain ⟨tableAlias, r₁, target, sub, r₂, items, others, restTrace, halias, -, hsub, hitems,
      hothers, rfl, -⟩ := combinedSelects_cons_yields h
    obtain ⟨kind, query⟩ := first
    obtain ⟨hne, hr₁⟩ := hsettled.fresh halias
    have hr₂ := hr₁.mono (Query.clauses_advances _ _ _ _ _ _ _ hsub)
    obtain ⟨nested, -, hunder⟩ := Query.clauses_under query hr₁ hsub
    have havoids := hunder.avoids hne
    have hitemsUnder : (SelectItem.list items).under own = [] := by
      simp only [Compiler.combinedItems, except_bind_eq_ok] at hitems
      obtain ⟨projected, -, hitems⟩ := hitems
      cases hitems
      exact items_under hne false projected
    rw [List.cons_append, CombinedSelect.under_list_cons, CombinedSelect.under_list_append,
      havoids.combine, combinedSelects_under rest hr₂ hothers]
    simp [CombinedSelect.sql, hitemsUnder, havoids.join, havoids.condition]
termination_by structural combines

theorem joinTables_under {c : Compiler} {own : String} (joins : List Join) {source : Entity}
    {sourceAlias : String} {condition joining : Predicate} {join : List JoinedTable} {s t : Scope}
    (hsettled : Settled s.nextAlias own)
    (h : Yields (joinTables c source sourceAlias condition joins) s (join, joining) t) :
    (JoinedTable.list join).under own =
        c.namesUnder own sourceAlias source (joins.flatMap (c.joinedProperties source)) ∧
      joining.text.sql.under own = condition.text.sql.under own := by
  cases joins with
  | nil =>
    obtain ⟨rfl, rfl, -⟩ := joinTables_nil_yields.mp h
    exact ⟨namesUnder_nil.symm, rfl⟩
  | cons first rest =>
    obtain ⟨tableAlias, r₁, target, sub, r₂, tables, between, r₃, others, halias, htarget, hsub,
      htables, hothers, rfl⟩ := joinTables_cons_yields h
    obtain ⟨kind, fields, operator, query⟩ := first
    obtain ⟨hne, hr₁⟩ := hsettled.fresh halias
    have hr₂ := hr₁.mono (Query.clauses_advances _ _ _ _ _ _ _ hsub)
    have hr₃ := hr₂.mono (joinedTables_advances _ _ _ _ _ _ _ _ _ _ _ _ _ htables)
    obtain ⟨nested, -, hunder⟩ := Query.clauses_under query hr₁ hsub
    obtain ⟨htablesUnder, hbetween⟩ := joinedTables_under hr₂ hne (hunder.avoids hne) htables
    obtain ⟨hothersUnder, hjoining⟩ := joinTables_under rest hr₃ hothers
    have hfirst : c.joinedProperties source ⟨kind, fields, operator, query⟩ =
        Compiler.pairedProperties source target kind fields := by
      rw [Compiler.joinedProperties, htarget]
    refine ⟨?_, hjoining.trans hbetween⟩
    rw [JoinedTable.under_list_append, htablesUnder, hothersUnder, List.flatMap_cons, hfirst,
      namesUnder_append]
termination_by structural joins
end

end QueryLoom
