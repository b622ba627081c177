import QueryLoom.Proofs.LegibleSelections

/-!
# Legible clauses

Over a legible schema the clauses of every query are legible, if the paths of its conversions have
no colon: whatever is bound goes behind a separator, and a separator follows it.

## Implementation notes

The induction is on the tree of nested queries. Table aliases are made of letters and digits; the
properties that placeholders are named by have been looked up in the schema before.
-/

namespace QueryLoom

/-! ## Paths -/

/-- The path of a conversion. -/
def conversionPaths : Option Conversion → List String
  | some (.path _ path) => [path]
  | _ => []

mutual
/-- The paths that the conversions of a query apply to columns. -/
def Query.paths (query : Query) : List String :=
  match query with
  | { conditions, sorts, joins, combines, having, .. } =>
    entryPaths conditions ++ sorts.flatMap (conversionPaths ·.conversion) ++ joinPaths joins ++
      combinePaths combines ++ entryPaths having
termination_by structural query

/-- The paths in a list of conditions. -/
def entryPaths (entries : List ConditionEntry) : List String :=
  match entries with
  | [] => []
  | ⟨_, condition⟩ :: rest => condition.paths ++ entryPaths rest
termination_by structural entries

/-- The paths in a condition. -/
def Condition.paths (condition : Condition) : List String :=
  match condition with
  | .constant _ => []
  | .criterion criterion => criterion.paths
  | .group entries => entryPaths entries
termination_by structural condition

/-- The paths in a comparison: its own, and those of a nested query. -/
def Criterion.paths (criterion : Criterion) : List String :=
  match criterion with
  | ⟨_, _, value, conversion⟩ =>
    conversionPaths conversion ++
      match value with
      | .subquery query => query.paths
      | _ => []
termination_by structural criterion

/-- The paths in the queries of joins. -/
def joinPaths (joins : List Join) : List String :=
  match joins with
  | [] => []
  | ⟨_, _, _, query⟩ :: rest => query.paths ++ joinPaths rest
termination_by structural joins

/-- The paths in the queries of set operations. -/
def combinePaths (combines : List Combine) : List String :=
  match combines with
  | [] => []
  | ⟨_, query⟩ :: rest => query.paths ++ combinePaths rest
termination_by structural combines
end

/-- Texts without colons. -/
def AllColonless (texts : List String) : Prop := ∀ text ∈ texts, Colonless text

@[simp] theorem allColonless_append {a b : List String} :
    AllColonless (a ++ b) ↔ AllColonless a ∧ AllColonless b :=
  List.forall_mem_append

/-- A query without colons has none in its parts. -/
theorem Query.allColonless_paths {query : Query} (h : AllColonless query.paths) :
    AllColonless (entryPaths query.conditions) ∧
      (∀ key ∈ query.sorts, AllColonless (conversionPaths key.conversion)) ∧
      AllColonless (joinPaths query.joins) ∧ AllColonless (combinePaths query.combines) ∧
      AllColonless (entryPaths query.having) := by
  obtain ⟨name, conditions, sorts, joins, combines, recursion, fields, distinct, groupBy, having,
    rest⟩ := query
  rw [Query.paths] at h
  simp only [allColonless_append, and_assoc] at h
  obtain ⟨hconditions, hsorts, hjoins, hcombines, hhaving⟩ := h
  refine ⟨hconditions, ?_, hjoins, hcombines, hhaving⟩
  intro key hkey path hpath
  exact hsorts path (List.mem_flatMap_of_mem hkey hpath)

/-- The paths in a comparison, field by field. -/
theorem Criterion.paths_eq (criterion : Criterion) :
    criterion.paths = conversionPaths criterion.conversion ++
      match criterion.value with
      | .subquery query => query.paths
      | _ => [] := by
  obtain ⟨property, operator, value, conversion⟩ := criterion
  cases value <;> rfl

/-! ## Converted columns and comparisons -/

section Comparisons

variable {c : Compiler} {s t : Scope} {entity : Entity} {tableAlias property : String}
  {column sql : Sql}

theorem Compiler.bind_legible {value : Value} (hproperty : IsName property)
    (h : Yields (c.bind property value) s sql t) : sql.Legible := by
  obtain ⟨rfl, -⟩ := Compiler.bind_yields.mp h
  exact Sql.legible_placeholder hproperty _

theorem Literal.colonless_write {path : String} (h : Colonless path) :
    Colonless (Literal.write path) := by
  have hbody (chars : List Char) (hchars : ':' ∉ chars) : ':' ∉ Literal.body chars := by
    induction chars with
    | nil => exact hchars
    | cons c rest ih =>
      simp only [List.mem_cons, not_or] at hchars
      unfold Literal.body
      split <;> simp [hchars.1, ih hchars.2]
  simp [Colonless, Literal.write, hbody _ h]

theorem convert_legible {conversion : Option Conversion} (hcolumn : column.Plain)
    (hproperty : IsName property)
    (hpaths : AllColonless (conversionPaths conversion))
    (h : Yields (c.convert column property conversion) s sql t) : sql.Legible := by
  unfold Compiler.convert at h
  split at h
  · obtain ⟨rfl, -⟩ := yields_pure.mp h
    exact hcolumn.legible
  · rename_i function
    obtain ⟨rfl, -⟩ := yields_pure.mp h
    have hfunction : (Sql.text (function.keyword ++ "(")).Plain :=
      Sql.plain_text (by cases function <;> decide)
    exact (hfunction.append hcolumn).legible.append_text (by decide)
  · rename_i function path
    obtain ⟨rfl, -⟩ := yields_pure.mp h
    have hfunction : (Sql.text (function.keyword ++ "(")).Plain :=
      Sql.plain_text (by cases function <;> decide)
    have hpath := Sql.legible_text (Literal.colonless_write (hpaths path List.mem_cons_self))
    exact ((hfunction.append hcolumn).legible.join (by decide) hpath).append_text (by decide)
  · rename_i function value
    split at h
    · rename_i symbol hform
      simp only [yields_bind, yields_pure] at h
      obtain ⟨operand, _, hbind, rfl, -⟩ := h
      have hopen : (Sql.text "(").Plain := Sql.plain_text (by decide)
      have hsymbol : Separator (" " ++ symbol ++ " ") := by
        cases function <;> cases hform <;> decide
      exact ((hopen.append hcolumn).legible.join hsymbol
        (Compiler.bind_legible hproperty hbind)).append_text (by decide)
    · rename_i keyword hform
      simp only [yields_bind, yields_pure] at h
      obtain ⟨operand, _, hbind, rfl, -⟩ := h
      have hkeyword : (Sql.text (keyword ++ "(")).Plain := by
        apply Sql.plain_text
        cases function <;> cases hform <;> decide
      exact ((hkeyword.append hcolumn).legible.join (by decide)
        (Compiler.bind_legible hproperty hbind)).append_text (by decide)
    · exact absurd h not_yields_throw

theorem sortItems_legible {keys : List SortKey} {items : List Sql} (hentity : entity.Legible)
    (halias : Colonless tableAlias)
    (hpaths : ∀ key ∈ keys, AllColonless (conversionPaths key.conversion))
    (h : Yields (c.sortItems entity tableAlias keys) s items t) :
    ∀ item ∈ items, item.Legible := by
  unfold Compiler.sortItems at h
  induction keys generalizing s items with
  | nil =>
    obtain ⟨rfl, -⟩ := yields_mapM_nil.mp h
    exact List.forall_mem_nil _
  | cons key rest ih =>
    obtain ⟨item, r, others, hitem, hrest, rfl⟩ := yields_mapM_cons.mp h
    simp only [yields_bind, yields_liftM, yields_pure] at hitem
    obtain ⟨field, _, ⟨hfield, rfl⟩, column, _, hconvert, rfl, rfl⟩ := hitem
    refine List.forall_mem_cons.mpr
      ⟨?_, ih (fun key hkey => hpaths key (List.mem_cons_of_mem _ hkey)) hrest⟩
    have hcolumn := c.conventions.column_plain halias (hentity.field hfield)
    exact (convert_legible hcolumn (hentity.property hfield) (hpaths key List.mem_cons_self)
      hconvert).append_text (by cases key.order <;> decide)

theorem operator_separator (operator : Operator) : Separator (" " ++ operator.sql) := by
  cases operator <;> decide

theorem comparison_legible (operator : Operator) {right : Sql} (hcolumn : column.Legible)
    (hright : right.Legible) : (comparison column operator right).Legible :=
  hcolumn.join (by cases operator <;> decide) hright

theorem bind_mapM_legible {items : List Value} {operands : List Sql}
    (hproperty : IsName property)
    (h : Yields (items.mapM (c.bind property)) s operands t) :
    ∀ operand ∈ operands, operand.Legible := by
  induction items generalizing s operands with
  | nil =>
    obtain ⟨rfl, -⟩ := yields_mapM_nil.mp h
    exact List.forall_mem_nil _
  | cons first rest ih =>
    obtain ⟨operand, r, others, hfirst, hrest, rfl⟩ := yields_mapM_cons.mp h
    exact List.forall_mem_cons.mpr ⟨Compiler.bind_legible hproperty hfirst, ih hrest⟩

theorem compareCollection_legible {operator : Operator} {items : List Value} {p : Predicate}
    (hcolumn : column.Legible) (hproperty : IsName property)
    (h : Yields (c.compareCollection entity property column operator items) s p t) :
    p.text.sql.Legible := by
  unfold Compiler.compareCollection at h
  split at h
  · exact absurd h not_yields_throw
  · split at h
    · obtain ⟨rfl, -⟩ := yields_pure.mp h
      exact Predicate.legible_constant _
    · split at h
      · simp only [yields_bind, yields_pure] at h
        obtain ⟨operand, _, hbind, rfl, -⟩ := h
        exact SearchText.legible_leaf
          (comparison_legible operator hcolumn (Compiler.bind_legible hproperty hbind))
      · simp only [yields_bind, yields_pure] at h
        obtain ⟨operands, _, hbind, rfl, -⟩ := h
        have hoperands : (Sql.separated ", " operands).Legible :=
          .separated (by decide) (bind_mapM_legible hproperty hbind)
        exact SearchText.legible_leaf (comparison_legible operator hcolumn hoperands.parens)

theorem compareScalar_legible {operator : Operator} {value : Value} {p : Predicate}
    (hcolumn : column.Legible) (hproperty : IsName property)
    (h : Yields (c.compareScalar property column operator value) s p t) : p.text.sql.Legible := by
  unfold Compiler.compareScalar at h
  split at h
  · simp only [yields_bind, yields_pure] at h
    obtain ⟨operand, _, hbind, rfl, -⟩ := h
    exact SearchText.legible_leaf
      (comparison_legible operator hcolumn (Compiler.bind_legible hproperty hbind).parens)
  · simp only [yields_bind, yields_pure] at h
    obtain ⟨operand, _, hbind, rfl, -⟩ := h
    exact SearchText.legible_leaf
      (comparison_legible operator hcolumn (Compiler.bind_legible hproperty hbind))

theorem freshAlias_colonless (h : Yields freshAlias s tableAlias t) : Colonless tableAlias := by
  obtain ⟨rfl, -⟩ := freshAlias_yields.mp h
  exact colonless_append.mpr ⟨by decide, colonless_toString _⟩

theorem Compiler.colonless_table (hentity : entity.Legible) : Colonless (c.table entity) :=
  c.conventions.colonless_identifier hentity.table

end Comparisons

/-! ## Clauses -/

/-- Clauses whose parts are legible. -/
structure Clauses.Legible (clauses : Clauses) : Prop where
  condition : clauses.condition.sql.Legible
  sort : ∀ item ∈ clauses.sort, item.Legible
  join : ∀ joined ∈ clauses.join, joined.sql.Legible
  combine : ∀ select ∈ clauses.combine, select.sql.Legible

theorem Clauses.Legible.usableJoin {clauses : Clauses} (h : clauses.Legible) :
    ∀ joined ∈ clauses.usableJoin, joined.sql.Legible := by
  unfold Clauses.usableJoin
  split
  · exact h.join
  · exact List.forall_mem_nil _

section Steps

variable {c : Compiler} {s t : Scope} {entity target : Entity} {tableAlias : String}

/-- The selection of a nested query is legible if its clauses are. -/
theorem nestedSelection_legible {target : NestedTarget} {clauses : Clauses} (distinct : Bool)
    (htarget : target.entity.Legible) (hfield : target.field.Legible)
    (halias : Colonless tableAlias) (hclauses : clauses.Legible) :
    (c.nestedSelection target tableAlias distinct clauses).Legible := by
  have hitem : LegibleItems [⟨c.conventions.column tableAlias target.field, none⟩] :=
    List.forall_mem_singleton.mpr (c.conventions.column_plain halias hfield).legible
  exact {
    inner := hitem
    outer := hitem
    table := Compiler.colonless_table htarget
    tableAlias := halias
    join := JoinedTable.legible_list hclauses.usableJoin
    condition := hclauses.condition
    group := Sql.legible_nil
    group_breaks := fun _ hfirst => by cases hfirst
    combine := CombinedSelect.legible_list hclauses.combine
    sort := hclauses.sort }

theorem combinedItems_legible {parent : Entity} {fields : List String} {items : List SelectItem}
    (htarget : target.Legible) (halias : Colonless tableAlias)
    (h : c.combinedItems parent target fields tableAlias = .ok items) : LegibleItems items := by
  simp only [Compiler.combinedItems, except_bind_eq_ok] at h
  obtain ⟨projected, hprojected, h⟩ := h
  cases h
  exact legibleItems_map c.conventions halias
    (fun field hfield => htarget.fields field ((Entity.mapM_field_eq_ok hprojected).2 field hfield))
    false

theorem joinPredicates_legible {source : Entity} {sourceAlias : String} {kind : JoinKind}
    {fields : List (String × String)} {operator : JoinOperator} {on : List SearchText}
    (hsource : source.Legible) (hsourceAlias : Colonless sourceAlias)
    (htarget : target.Legible) (halias : Colonless tableAlias)
    (h : c.joinPredicates source target kind fields operator sourceAlias tableAlias = .ok on) :
    ∀ text ∈ on, text.sql.Legible := by
  obtain ⟨compared, -, hfields, rfl⟩ := joinPredicates_eq_ok h
  intro text htext
  obtain ⟨pair, hpair, rfl⟩ := List.mem_map.mp htext
  obtain ⟨left, right, hleft, hright⟩ := hfields pair hpair
  have hleftColumn := c.conventions.column_plain hsourceAlias (hsource.field hleft)
  have hrightColumn := c.conventions.column_plain halias (htarget.field hright)
  exact SearchText.legible_leaf
    (hleftColumn.legible.join (by cases operator <;> decide) hrightColumn.legible)

/-- The tables that a join adds are legible if the clauses of its query are. -/
theorem joinedTables_legible {source : Entity} {sourceAlias : String} {kind : JoinKind}
    {fields : List (String × String)} {operator : JoinOperator} {projection : List String}
    {sub : Clauses} {condition joining : Predicate} {tables : List JoinedTable}
    (hsource : source.Legible) (hsourceAlias : Colonless sourceAlias)
    (htarget : target.Legible) (halias : Colonless tableAlias) (hsub : sub.Legible)
    (hcondition : condition.text.sql.Legible)
    (h : Yields (c.joinedTables source sourceAlias target tableAlias kind fields operator projection
      sub condition) s (tables, joining) t) :
    (∀ joined ∈ tables, joined.sql.Legible) ∧ joining.text.sql.Legible := by
  have hown : sub.predicate.text.sql.Legible := hsub.condition
  rcases joinedTables_yields h with ⟨-, -, on, hon, rfl, rfl⟩ |
    ⟨-, rfl, derivedAlias, projected, on, hderived, hprojected, hon, rfl⟩
  · have hon := joinPredicates_legible hsource hsourceAlias htarget halias hon
    refine ⟨List.forall_mem_cons.mpr ⟨?_, hsub.usableJoin⟩, ?_⟩
    · refine JoinedTable.legible_sql (Sql.legible_text (Compiler.colonless_table htarget)) halias ?_
      split
      · exact List.forall_mem_append.mpr
          ⟨hon, List.forall_mem_singleton.mpr (Predicate.legible_operand hown)⟩
      · exact hon
    · split
      · exact hcondition
      · exact Predicate.legible_and hcondition hown
  · have hderivedAlias := freshAlias_colonless hderived
    have hitems := legibleItems_map c.conventions halias
      (fun field hfield => htarget.fields field
        ((Entity.queryFields_eq_ok hprojected).2 field hfield)) false
    have hselect := legible_plainSelect hitems (Compiler.colonless_table (c := c) htarget) halias
      hsub.usableJoin hsub.condition
    refine ⟨List.forall_mem_singleton.mpr ?_, hcondition⟩
    exact JoinedTable.legible_sql (hselect.append_clause (by decide)
      (CombinedSelect.legible_list hsub.combine)).parens hderivedAlias
      (joinPredicates_legible hsource hsourceAlias htarget hderivedAlias hon)

/-- A traversal is legible if the clauses are that it starts from. -/
theorem traversal_legible {innerAlias : String} {recursion : Option Recursion}
    {before clauses : Clauses} (hentity : entity.Legible) (halias : Colonless tableAlias)
    (hinner : Colonless innerAlias) (hbefore : before.Legible)
    (h : traversal c entity tableAlias innerAlias before recursion = .ok clauses) :
    clauses.Legible := by
  rcases traversal_eq_ok h with ⟨-, rfl⟩ | ⟨spec, key, relation, -, hkey, hrelation, rfl⟩
  · exact hbefore
  · have hkeyColumn := c.conventions.column_plain hinner (hentity.field hkey)
    have hrelationColumn := c.conventions.column_plain hinner (hentity.field hrelation)
    have hselect : (Sql.text "SELECT ").Plain := Sql.plain_text (by decide)
    have hanchor : (if before.condition.isEmpty then Sql.text "1 = 1"
        else before.condition.sql).Legible := by
      split
      · exact Sql.legible_text (by decide)
      · exact hbefore.condition
    have hlink : (Compiler.traversalLink spec.direction (c.conventions.column innerAlias key)
        (c.conventions.column innerAlias relation)).Legible := by
      cases spec.direction with
      | up => exact hrelationColumn.legible.join (by decide) hkeyColumn.legible
      | down => exact hkeyColumn.legible.join (by decide) hrelationColumn.legible
    have hscript : (traversalScript (c.table entity) innerAlias before
        (c.conventions.column innerAlias key) (c.conventions.column innerAlias relation)
        spec.direction).Legible :=
      ((((hselect.append hkeyColumn).legible.append_text
        (separator_from (Compiler.colonless_table hentity) hinner)).append_clause (by decide)
          (JoinedTable.legible_list hbefore.join)).join (by decide) hanchor).join (by decide) hlink
    have hcolumn := c.conventions.column_plain halias (hentity.field hkey)
    have hcompared := comparison_legible .isIn hcolumn.legible hscript.parens
    exact { hbefore with condition := SearchText.legible_leaf hcompared }

end Steps

mutual
theorem Query.clauses_legible {c : Compiler} (hschema : c.schema.Legible) (query : Query)
    {fields : List String} {tableAlias : String} {sorted : Bool} {s t : Scope} {clauses : Clauses}
    (hpaths : AllColonless query.paths) (halias : Colonless tableAlias)
    (h : Yields (query.clauses c fields tableAlias sorted) s clauses t) : clauses.Legible := by
  obtain ⟨entity, innerAlias, r₁, condition, r₂, sort, r₃, combine, trace, r₄, join, joining,
    hentity, hinner, hcondition, hsort, hcombine, hjoin, htraversal⟩ := Query.clauses_yields h
  have hlegible := hschema.entity hentity
  obtain ⟨hconditions, hsorts, hjoins, hcombines, -⟩ := Query.allColonless_paths hpaths
  have hinnerAlias : Colonless innerAlias := by
    unfold traversalAlias at hinner
    split at hinner
    · exact freshAlias_colonless hinner
    · obtain ⟨rfl, -⟩ := yields_pure.mp hinner
      exact halias
  have hsortLegible : ∀ item ∈ sort, item.Legible := by
    unfold sortClause at hsort
    split at hsort
    · exact sortItems_legible hlegible halias hsorts hsort
    · obtain ⟨rfl, -⟩ := yields_pure.mp hsort
      exact List.forall_mem_nil _
  obtain ⟨name, conditions, sorts, joins, combines, recursion, rest⟩ := query
  have hempty : ({} : Predicate).text.sql.Legible := Sql.legible_nil
  have hconditionLegible := foldEntries_legible hschema conditions hconditions hlegible hinnerAlias
    hempty hcondition
  have htraced : ({ condition with trace := condition.trace ++ trace } :
      Predicate).text.sql.Legible := hconditionLegible
  have hcombineLegible := combinedSelects_legible hschema combines hcombines hcombine
  obtain ⟨hjoinLegible, hjoining⟩ := joinTables_legible hschema joins hjoins hlegible hinnerAlias
    htraced hjoin
  exact traversal_legible hlegible halias hinnerAlias
    ⟨hjoining, hsortLegible, hjoinLegible, hcombineLegible⟩ htraversal
termination_by structural query

theorem foldEntries_legible {c : Compiler} (hschema : c.schema.Legible)
    (entries : List ConditionEntry) {entity : Entity} {tableAlias : String}
    {before p : Predicate} {s t : Scope} (hpaths : AllColonless (entryPaths entries))
    (hentity : entity.Legible) (halias : Colonless tableAlias) (hbefore : before.text.sql.Legible)
    (h : Yields (foldEntries c entity tableAlias before entries) s p t) : p.text.sql.Legible := by
  cases entries with
  | nil =>
    obtain ⟨rfl, -⟩ := foldEntries_nil_yields.mp h
    exact hbefore
  | cons entry rest =>
    obtain ⟨q, r, hq, hrest⟩ := foldEntries_cons_yields.mp h
    obtain ⟨connector, condition⟩ := entry
    rw [entryPaths, allColonless_append] at hpaths
    have hfirst := Condition.predicate_legible hschema condition hpaths.1 hentity halias hq
    exact foldEntries_legible hschema rest hpaths.2 hentity halias
      (Predicate.legible_extend connector hbefore hfirst) hrest
termination_by structural entries

theorem Condition.predicate_legible {c : Compiler} (hschema : c.schema.Legible)
    (condition : Condition) {entity : Entity} {tableAlias : String} {p : Predicate} {s t : Scope}
    (hpaths : AllColonless condition.paths) (hentity : entity.Legible)
    (halias : Colonless tableAlias)
    (h : Yields (condition.predicate c entity tableAlias) s p t) : p.text.sql.Legible := by
  cases condition with
  | constant holds =>
    obtain ⟨rfl, -⟩ := predicate_constant_yields.mp h
    exact Predicate.legible_constant holds
  | criterion criterion =>
    exact Criterion.predicate_legible hschema criterion hpaths hentity halias
      (predicate_criterion_yields.mp h)
  | group entries =>
    match entries with
    | [⟨connector, only⟩] =>
      rw [Condition.paths, entryPaths, allColonless_append] at hpaths
      exact Condition.predicate_legible hschema only hpaths.1 hentity halias
        (predicate_group_one_yields.mp h)
    | [] =>
      obtain ⟨q, hq, rfl⟩ := (predicate_group_yields (by simp)).mp h
      obtain ⟨rfl, -⟩ := foldEntries_nil_yields.mp hq
      exact Sql.legible_nil
    | ⟨connector, condition⟩ :: second :: rest =>
      obtain ⟨q, hq, rfl⟩ := (predicate_group_yields (by simp)).mp h
      obtain ⟨p, r, hp, hrest⟩ := foldEntries_cons_yields.mp hq
      rw [Condition.paths, entryPaths, allColonless_append] at hpaths
      have hfirst := Condition.predicate_legible hschema condition hpaths.1 hentity halias hp
      have hbefore : (({} : Predicate).extend connector p).text.sql.Legible :=
        Predicate.legible_extend connector Sql.legible_nil hfirst
      exact Predicate.legible_grouped
        (foldEntries_legible hschema (second :: rest) hpaths.2 hentity halias hbefore hrest)
termination_by structural condition

theorem Criterion.predicate_legible {c : Compiler} (hschema : c.schema.Legible)
    (criterion : Criterion) {entity : Entity} {tableAlias : String} {p : Predicate} {s t : Scope}
    (hpaths : AllColonless criterion.paths) (hentity : entity.Legible)
    (halias : Colonless tableAlias)
    (h : Yields (criterion.predicate c entity tableAlias) s p t) : p.text.sql.Legible := by
  obtain ⟨field, column, r, hfield, hconvert, hcases⟩ := Criterion.predicate_yields h
  rw [Criterion.paths_eq, allColonless_append] at hpaths
  obtain ⟨property, operator, value, conversion⟩ := criterion
  have hproperty := hentity.property hfield
  have hcolumn : column.Legible := convert_legible
    (c.conventions.column_plain halias (hentity.field hfield)) hproperty hpaths.1 hconvert
  rcases hcases with ⟨-, rfl, -⟩ | ⟨-, hcases⟩
  · exact SearchText.legible_leaf (hcolumn.append_text (operator_separator operator))
  · rcases hcases with ⟨query, target, nestedAlias, r', clauses, hvalue, htarget, hnested,
      hclauses, rfl⟩ | ⟨items, -, hcompare⟩ | ⟨-, hcompare⟩
    · cases value with
      | subquery nested =>
        obtain rfl : nested = query := Value.subquery.inj hvalue
        obtain ⟨htargetEntity, -, htargetField, -⟩ := nestedTarget_eq_ok htarget
        have htargetLegible := hschema.entity htargetEntity
        have hnestedAlias := freshAlias_colonless hnested
        have hsub := Query.clauses_legible hschema nested hpaths.2 hnestedAlias hclauses
        have hselection := nestedSelection_legible (c := c) nested.distinct htargetLegible
          (htargetLegible.field htargetField) hnestedAlias hsub
        exact SearchText.legible_leaf
          (comparison_legible operator hcolumn (hselection.limited target.limit).parens)
      | _ => cases hvalue
    · exact compareCollection_legible hcolumn hproperty hcompare
    · exact compareScalar_legible hcolumn hproperty hcompare
termination_by structural criterion

theorem combinedSelects_legible {c : Compiler} (hschema : c.schema.Legible)
    (combines : List Combine) {parent : Entity} {fields : List String}
    {combine : List CombinedSelect} {trace : Trace} {s t : Scope}
    (hpaths : AllColonless (combinePaths combines))
    (h : Yields (combinedSelects c parent fields combines) s (combine, trace) t) :
    ∀ select ∈ combine, select.sql.Legible := by
  cases combines with
  | nil =>
    obtain ⟨rfl, -, -⟩ := combinedSelects_nil_yields.mp h
    exact List.forall_mem_nil _
  | cons first rest =>
    obtain ⟨nestedAlias, r₁, target, sub, r₂, items, others, restTrace, hnested, htarget, hsub,
      hitems, hothers, rfl, -⟩ := combinedSelects_cons_yields h
    obtain ⟨kind, query⟩ := first
    rw [combinePaths, allColonless_append] at hpaths
    have htargetLegible := hschema.entity htarget
    have halias := freshAlias_colonless hnested
    have hclauses := Query.clauses_legible hschema query hpaths.1 halias hsub
    have hselect := legible_plainSelect (combinedItems_legible htargetLegible halias hitems)
      (Compiler.colonless_table (c := c) htargetLegible) halias hclauses.usableJoin
      hclauses.condition
    have hkeyword : (Sql.text (kind.keyword ++ " ")).Plain :=
      Sql.plain_text (by cases kind <;> decide)
    refine List.forall_mem_append.mpr ⟨List.forall_mem_cons.mpr ⟨?_, hclauses.combine⟩, ?_⟩
    · exact hkeyword.append_legible hselect
    · exact combinedSelects_legible hschema rest hpaths.2 hothers
termination_by structural combines

theorem joinTables_legible {c : Compiler} (hschema : c.schema.Legible) (joins : List Join)
    {source : Entity} {sourceAlias : String} {condition joining : Predicate}
    {join : List JoinedTable} {s t : Scope} (hpaths : AllColonless (joinPaths joins))
    (hsource : source.Legible) (hsourceAlias : Colonless sourceAlias)
    (hcondition : condition.text.sql.Legible)
    (h : Yields (joinTables c source sourceAlias condition joins) s (join, joining) t) :
    (∀ joined ∈ join, joined.sql.Legible) ∧ joining.text.sql.Legible := by
  cases joins with
  | nil =>
    obtain ⟨rfl, rfl, -⟩ := joinTables_nil_yields.mp h
    exact ⟨List.forall_mem_nil _, hcondition⟩
  | cons first rest =>
    obtain ⟨nestedAlias, r₁, target, sub, r₂, tables, between, r₃, others, hnested, htarget, hsub,
      htables, hothers, rfl⟩ := joinTables_cons_yields h
    obtain ⟨kind, fields, operator, query⟩ := first
    rw [joinPaths, allColonless_append] at hpaths
    have halias := freshAlias_colonless hnested
    have hclauses := Query.clauses_legible hschema query hpaths.1 halias hsub
    have htraced : ({ condition with trace := condition.trace ++ sub.trace } :
        Predicate).text.sql.Legible := hcondition
    obtain ⟨htablesLegible, hbetween⟩ := joinedTables_legible hsource hsourceAlias
      (hschema.entity htarget) halias hclauses htraced htables
    obtain ⟨hothersLegible, hjoining⟩ := joinTables_legible hschema rest hpaths.2 hsource
      hsourceAlias hbetween hothers
    exact ⟨List.forall_mem_append.mpr ⟨htablesLegible, hothersLegible⟩, hjoining⟩
termination_by structural joins
end

end QueryLoom
