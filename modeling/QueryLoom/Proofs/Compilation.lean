import QueryLoom.Clauses.OfQuery
import QueryLoom.Proofs.Runs

/-!
# Runs of a compilation

What each function of the compilation answers, and in which scope it leaves off: one lemma for each
function, from which every law about compiled queries is derived.

## Implementation notes

The clauses of a query are put together in one sequence of seven steps. Its conditional steps are
named here (`traversalAlias`, `sortClause`, `traversal`), so that the sequence can be taken apart
step by step.
-/

namespace QueryLoom

variable {c : Compiler} {s t : Scope}

theorem freshAlias_yields {tableAlias : String} :
    Yields freshAlias s tableAlias t ↔
      tableAlias = "TSB" ++ toString s.nextAlias ∧
        t = { s with nextAlias := s.nextAlias + 1 } := by
  unfold freshAlias
  simp only [yields_bind, yields_get, yields_set, yields_pure]
  constructor
  · rintro ⟨_, _, ⟨rfl, rfl⟩, _, _, rfl, rfl, rfl⟩
    exact ⟨rfl, rfl⟩
  · rintro ⟨rfl, rfl⟩
    exact ⟨_, _, ⟨rfl, rfl⟩, ⟨⟩, _, rfl, rfl, rfl⟩

theorem Compiler.bind_yields {property : String} {value : Value} {sql : Sql} :
    Yields (c.bind property value) s sql t ↔
      sql = Sql.placeholder property s.nextNumber ∧
        t = { s with
          parameters := s.parameters.add (parameterName property s.nextNumber)
            (c.conventions.bound value)
          nextNumber := s.nextNumber + 1 } := by
  unfold Compiler.bind
  simp only [yields_bind, yields_get, yields_set, yields_pure]
  constructor
  · rintro ⟨_, _, ⟨rfl, rfl⟩, _, _, rfl, rfl, rfl⟩
    exact ⟨rfl, rfl⟩
  · rintro ⟨rfl, rfl⟩
    exact ⟨_, _, ⟨rfl, rfl⟩, ⟨⟩, _, rfl, rfl, rfl⟩

theorem Compiler.bindOutput_yields {property : String} {sql : Sql} :
    Yields (Compiler.bindOutput property) s sql t ↔
      sql = Sql.placeholder property s.nextNumber ∧
        t = { s with
          parameters := s.parameters.addOutput (parameterName property s.nextNumber)
          nextNumber := s.nextNumber + 1 } := by
  unfold Compiler.bindOutput
  simp only [yields_bind, yields_get, yields_set, yields_pure]
  constructor
  · rintro ⟨_, _, ⟨rfl, rfl⟩, _, _, rfl, rfl, rfl⟩
    exact ⟨rfl, rfl⟩
  · rintro ⟨rfl, rfl⟩
    exact ⟨_, _, ⟨rfl, rfl⟩, ⟨⟩, _, rfl, rfl, rfl⟩

/-- The alias that the conditions and joins of a query run under. -/
def traversalAlias (recursion : Option Recursion) (tableAlias : String) : Compile String :=
  if recursion.isSome then freshAlias else pure tableAlias

/-- The sort items of a query, where they are wanted. -/
def sortClause (c : Compiler) (entity : Entity) (tableAlias : String) (sorted : Bool)
    (keys : List SortKey) : Compile (List Sql) :=
  if sorted then c.sortItems entity tableAlias keys else pure []

/-- The clauses of a query behind its traversal, if it has one. -/
def traversal (c : Compiler) (entity : Entity) (tableAlias innerAlias : String)
    (clauses : Clauses) : Option Recursion → Except Error Clauses
  | none => .ok clauses
  | some recursion => c.traversed entity tableAlias innerAlias clauses recursion

/-- The clauses of a query in seven steps. -/
theorem Query.clauses_eq (query : Query) (fields : List String) (tableAlias : String)
    (sorted : Bool) :
    query.clauses c fields tableAlias sorted = (do
      let entity ← c.schema.entity query.entity
      let innerAlias ← traversalAlias query.recursion tableAlias
      let condition ← foldEntries c entity innerAlias {} query.conditions
      let sort ← sortClause c entity tableAlias sorted query.sorts
      let combined ← combinedSelects c entity fields query.combines
      let joined ← joinTables c entity innerAlias
        { condition with trace := condition.trace ++ combined.2 } query.joins
      traversal c entity tableAlias innerAlias
        { condition := joined.2.text, hasOr := joined.2.hasOr, sort, join := joined.1,
          combine := combined.1, allowJoin := true, trace := joined.2.trace }
        query.recursion) := by
  rcases query with ⟨_, _, _, _, _, recursion⟩
  cases recursion <;> cases sorted <;> rfl

theorem Query.clauses_yields {query : Query} {fields : List String} {tableAlias : String}
    {sorted : Bool} {clauses : Clauses}
    (h : Yields (query.clauses c fields tableAlias sorted) s clauses t) :
    ∃ entity innerAlias r₁ condition r₂ sort r₃ combine trace r₄ join joining,
      c.schema.entity query.entity = .ok entity ∧
      Yields (traversalAlias query.recursion tableAlias) s innerAlias r₁ ∧
      Yields (foldEntries c entity innerAlias {} query.conditions) r₁ condition r₂ ∧
      Yields (sortClause c entity tableAlias sorted query.sorts) r₂ sort r₃ ∧
      Yields (combinedSelects c entity fields query.combines) r₃ (combine, trace) r₄ ∧
      Yields (joinTables c entity innerAlias
        { condition with trace := condition.trace ++ trace } query.joins) r₄ (join, joining) t ∧
      traversal c entity tableAlias innerAlias
        { condition := joining.text, hasOr := joining.hasOr, sort, join, combine,
          allowJoin := true, trace := joining.trace } query.recursion = .ok clauses := by
  rw [Query.clauses_eq] at h
  simp only [yields_bind, yields_liftM] at h
  obtain ⟨entity, _, ⟨hentity, rfl⟩, innerAlias, r₁, halias, condition, r₂, hcondition, sort, r₃,
    hsort, ⟨combine, trace⟩, r₄, hcombine, ⟨join, joining⟩, _, hjoin, hclauses, rfl⟩ := h
  exact ⟨entity, innerAlias, r₁, condition, r₂, sort, r₃, combine, trace, r₄, join, joining,
    hentity, halias, hcondition, hsort, hcombine, hjoin, hclauses⟩

/-- A traversal hands out an alias and nothing else. -/
theorem traversalAlias_yields {recursion : Option Recursion} {tableAlias innerAlias : String}
    (h : Yields (traversalAlias recursion tableAlias) s innerAlias t) :
    t.parameters = s.parameters ∧ t.nextNumber = s.nextNumber := by
  unfold traversalAlias at h
  split at h
  · obtain ⟨-, rfl⟩ := freshAlias_yields.mp h
    exact ⟨rfl, rfl⟩
  · obtain ⟨-, rfl⟩ := yields_pure.mp h
    exact ⟨rfl, rfl⟩

variable {entity : Entity} {tableAlias : String}

theorem foldEntries_nil_yields {before p : Predicate} :
    Yields (foldEntries c entity tableAlias before []) s p t ↔ before = p ∧ s = t := by
  rw [foldEntries, yields_pure]

theorem foldEntries_cons_yields {before p : Predicate} {entry : ConditionEntry}
    {rest : List ConditionEntry} :
    Yields (foldEntries c entity tableAlias before (entry :: rest)) s p t ↔
      ∃ q r, Yields (entry.condition.predicate c entity tableAlias) s q r ∧
        Yields (foldEntries c entity tableAlias (before.extend entry.connector q) rest) r p t := by
  obtain ⟨connector, condition⟩ := entry
  rw [foldEntries, yields_bind]

theorem predicate_constant_yields {holds : Bool} {p : Predicate} :
    Yields ((Condition.constant holds).predicate c entity tableAlias) s p t ↔
      Predicate.constant holds = p ∧ s = t := by
  rw [Condition.predicate, yields_pure]

theorem predicate_criterion_yields {criterion : Criterion} {p : Predicate} :
    Yields ((Condition.criterion criterion).predicate c entity tableAlias) s p t ↔
      Yields (criterion.predicate c entity tableAlias) s p t := by
  rw [Condition.predicate]

/-- A group of one is its condition. -/
theorem predicate_group_one_yields {entry : ConditionEntry} {p : Predicate} :
    Yields ((Condition.group [entry]).predicate c entity tableAlias) s p t ↔
      Yields (entry.condition.predicate c entity tableAlias) s p t := by
  obtain ⟨connector, condition⟩ := entry
  rw [Condition.predicate]

theorem predicate_group_yields {entries : List ConditionEntry} {p : Predicate}
    (hentries : entries.length ≠ 1) :
    Yields ((Condition.group entries).predicate c entity tableAlias) s p t ↔
      ∃ q, Yields (foldEntries c entity tableAlias {} entries) s q t ∧ q.grouped = p := by
  rw [Condition.predicate, yields_bind]
  · simp only [yields_pure]
    constructor
    · rintro ⟨q, r, hq, hp, rfl⟩
      exact ⟨q, hq, hp⟩
    · rintro ⟨q, hq, hp⟩
      exact ⟨q, t, hq, hp, rfl⟩
  · rintro connector condition rfl
    exact hentries rfl

/-- The predicate of a comparison, field by field. -/
theorem Criterion.predicate_eq (criterion : Criterion) :
    criterion.predicate c entity tableAlias = (do
      let field ← entity.field criterion.field
      let column ← c.convert (c.conventions.column tableAlias field) criterion.field
        criterion.conversion
      if !criterion.operator.takesOperand then
        return Predicate.leaf (column ++ Sql.text (" " ++ criterion.operator.sql))
      else
        match criterion.value with
        | .subquery query => do
          let target ← c.nestedTarget criterion.operator query
          let nestedAlias ← freshAlias
          let clauses ← query.clauses c [target.property] nestedAlias target.limit.isSome
          return c.compareNested column criterion.operator target nestedAlias query.distinct
            clauses
        | .collection items =>
          c.compareCollection entity criterion.field column criterion.operator items
        | value => c.compareScalar criterion.field column criterion.operator value) := by
  obtain ⟨property, operator, value, conversion⟩ := criterion
  cases value <;> rfl

/-- A value that is compared on its own. -/
def Value.IsScalar : Value → Prop
  | .collection _ | .subquery _ => False
  | _ => True

/-- A comparison converts its column first; then it stands alone, or compares with a nested query,
a collection or a single value. -/
theorem Criterion.predicate_yields {criterion : Criterion} {p : Predicate}
    (h : Yields (criterion.predicate c entity tableAlias) s p t) :
    ∃ field column r, entity.field criterion.field = .ok field ∧
      Yields (c.convert (c.conventions.column tableAlias field) criterion.field
        criterion.conversion) s column r ∧
      ((criterion.operator.takesOperand = false ∧
          p = Predicate.leaf (column ++ Sql.text (" " ++ criterion.operator.sql)) ∧ r = t) ∨
        (criterion.operator.takesOperand = true ∧
          ((∃ query target nestedAlias r' clauses, criterion.value = .subquery query ∧
              c.nestedTarget criterion.operator query = .ok target ∧
              Yields freshAlias r nestedAlias r' ∧
              Yields (query.clauses c [target.property] nestedAlias target.limit.isSome)
                r' clauses t ∧
              p = c.compareNested column criterion.operator target nestedAlias query.distinct
                clauses) ∨
            (∃ items, criterion.value = .collection items ∧
              Yields (c.compareCollection entity criterion.field column criterion.operator items)
                r p t) ∨
            (criterion.value.IsScalar ∧
              Yields (c.compareScalar criterion.field column criterion.operator criterion.value)
                r p t)))) := by
  rw [Criterion.predicate_eq] at h
  simp only [yields_bind, yields_liftM] at h
  obtain ⟨field, _, ⟨hfield, rfl⟩, column, r, hcolumn, h⟩ := h
  refine ⟨field, column, r, hfield, hcolumn, ?_⟩
  cases htakes : criterion.operator.takesOperand with
  | false =>
    simp only [htakes, Bool.not_false, if_true, yields_pure] at h
    exact .inl ⟨rfl, h.1.symm, h.2⟩
  | true =>
    refine .inr ⟨rfl, ?_⟩
    simp only [htakes, Bool.not_true, Bool.false_eq_true, if_false] at h
    generalize criterion.value = value at h
    cases value with
    | subquery query =>
      simp only [yields_bind, yields_liftM, yields_pure] at h
      obtain ⟨target, _, ⟨htarget, rfl⟩, nestedAlias, r', halias, clauses, _, hclauses, rfl,
        rfl⟩ := h
      exact .inl ⟨query, target, nestedAlias, r', clauses, rfl, htarget, halias, hclauses, rfl⟩
    | collection items => exact .inr (.inl ⟨items, rfl, h⟩)
    | _ => exact .inr (.inr ⟨trivial, h⟩)

/-- A comparison with a collection is a constant, or a leaf with the collection on its right. -/
theorem compareCollection_yields {property : String} {column : Sql} {operator : Operator}
    {items : List Value} {p : Predicate}
    (h : Yields (c.compareCollection entity property column operator items) s p t) :
    (∃ holds, p = Predicate.constant holds) ∨
      ∃ right, p = Predicate.leaf (comparison column operator right) := by
  unfold Compiler.compareCollection at h
  split at h
  · exact absurd h not_yields_throw
  · split at h
    · obtain ⟨rfl, -⟩ := yields_pure.mp h
      exact .inl ⟨_, rfl⟩
    · split at h
      · simp only [yields_bind, yields_pure] at h
        obtain ⟨operand, _, -, rfl, -⟩ := h
        exact .inr ⟨_, rfl⟩
      · simp only [yields_bind, yields_pure] at h
        obtain ⟨operands, _, -, rfl, -⟩ := h
        exact .inr ⟨_, rfl⟩

/-- A comparison with a single value is a leaf with the value on its right. -/
theorem compareScalar_yields {property : String} {column : Sql} {operator : Operator}
    {value : Value} {p : Predicate}
    (h : Yields (c.compareScalar property column operator value) s p t) :
    ∃ right, p = Predicate.leaf (comparison column operator right) := by
  unfold Compiler.compareScalar at h
  split at h
  · simp only [yields_bind, yields_pure] at h
    obtain ⟨operand, _, -, rfl, -⟩ := h
    exact ⟨_, rfl⟩
  · simp only [yields_bind, yields_pure] at h
    obtain ⟨operand, _, -, rfl, -⟩ := h
    exact ⟨_, rfl⟩

theorem combinedSelects_nil_yields {fields : List String} {combine : List CombinedSelect}
    {trace : Trace} :
    Yields (combinedSelects c entity fields []) s (combine, trace) t ↔
      combine = [] ∧ trace = {} ∧ s = t := by
  rw [combinedSelects, yields_pure, Prod.mk.injEq]
  constructor
  · rintro ⟨⟨rfl, rfl⟩, rfl⟩
    exact ⟨rfl, rfl, rfl⟩
  · rintro ⟨rfl, rfl, rfl⟩
    exact ⟨⟨rfl, rfl⟩, rfl⟩

theorem combinedSelects_cons_yields {fields : List String} {first : Combine}
    {rest : List Combine} {combine : List CombinedSelect} {trace : Trace}
    (h : Yields (combinedSelects c entity fields (first :: rest)) s (combine, trace) t) :
    ∃ nestedAlias r₁ target sub r₂ items others restTrace,
      Yields freshAlias s nestedAlias r₁ ∧
      c.schema.entity first.query.entity = .ok target ∧
      Yields (first.query.clauses c first.query.fields nestedAlias false) r₁ sub r₂ ∧
      c.combinedItems entity target fields nestedAlias = .ok items ∧
      Yields (combinedSelects c entity fields rest) r₂ (others, restTrace) t ∧
      combine = ⟨first.kind, items, c.table target, nestedAlias, sub.usableJoin, sub.condition⟩ ::
        sub.combine ++ others ∧
      trace = sub.trace ++ restTrace := by
  obtain ⟨kind, query⟩ := first
  rw [combinedSelects] at h
  simp only [yields_bind, yields_liftM, yields_pure, Prod.mk.injEq] at h
  obtain ⟨nestedAlias, r₁, halias, target, _, ⟨htarget, rfl⟩, sub, r₂, hsub, items, _,
    ⟨hitems, rfl⟩, ⟨others, restTrace⟩, _, hothers, ⟨rfl, rfl⟩, rfl⟩ := h
  exact ⟨nestedAlias, r₁, target, sub, _, items, others, restTrace, halias, htarget, hsub, hitems,
    hothers, rfl, rfl⟩

theorem joinTables_nil_yields {condition joining : Predicate} {join : List JoinedTable} :
    Yields (joinTables c entity tableAlias condition []) s (join, joining) t ↔
      join = [] ∧ joining = condition ∧ s = t := by
  rw [joinTables, yields_pure, Prod.mk.injEq]
  constructor
  · rintro ⟨⟨rfl, rfl⟩, rfl⟩
    exact ⟨rfl, rfl, rfl⟩
  · rintro ⟨rfl, rfl, rfl⟩
    exact ⟨⟨rfl, rfl⟩, rfl⟩

theorem joinTables_cons_yields {condition joining : Predicate} {first : Join}
    {rest : List Join} {join : List JoinedTable}
    (h : Yields (joinTables c entity tableAlias condition (first :: rest)) s (join, joining) t) :
    ∃ nestedAlias r₁ target sub r₂ tables between r₃ others,
      Yields freshAlias s nestedAlias r₁ ∧
      c.schema.entity first.query.entity = .ok target ∧
      Yields (first.query.clauses c first.query.fields nestedAlias false) r₁ sub r₂ ∧
      Yields (c.joinedTables entity tableAlias target nestedAlias first.kind first.fields
        first.operator first.query.fields sub
        { condition with trace := condition.trace ++ sub.trace }) r₂ (tables, between) r₃ ∧
      Yields (joinTables c entity tableAlias between rest) r₃ (others, joining) t ∧
      join = tables ++ others := by
  obtain ⟨kind, fields, operator, query⟩ := first
  rw [joinTables] at h
  simp only [yields_bind, yields_liftM, yields_pure, Prod.mk.injEq] at h
  obtain ⟨nestedAlias, r₁, halias, target, _, ⟨htarget, rfl⟩, sub, r₂, hsub, ⟨tables, between⟩,
    r₃, htables, ⟨others, _⟩, _, hothers, ⟨rfl, rfl⟩, rfl⟩ := h
  exact ⟨nestedAlias, r₁, target, sub, r₂, tables, between, r₃, others, halias, htarget, hsub,
    htables, hothers, rfl⟩

/-- The target of a nested query is its first field. -/
theorem nestedTarget_eq_ok {operator : Operator} {query : Query} {target : NestedTarget}
    (h : c.nestedTarget operator query = .ok target) :
    c.schema.entity query.entity = .ok target.entity ∧
      query.fields.head? = some target.property ∧
      target.entity.field target.property = .ok target.field ∧
      target.limit = if operator.isMembership then rowCap query.size else some 1 := by
  simp only [Compiler.nestedTarget, except_bind_eq_ok] at h
  obtain ⟨entity, hentity, h⟩ := h
  split at h
  · cases h
  · rename_i property rest hproperties
    simp only [except_bind_eq_ok] at h
    obtain ⟨field, hfield, h⟩ := h
    cases h
    exact ⟨hentity, by rw [hproperties, List.head?_cons], hfield, rfl⟩

/-- The comparison of two joined fields. -/
def joinComparison (c : Compiler) (operator : JoinOperator) (sourceAlias targetAlias : String)
    (fields : Field × Field) : Sql :=
  c.conventions.column sourceAlias fields.1 ++ Sql.text (" " ++ operator.sql ++ " ") ++
    c.conventions.column targetAlias fields.2

theorem joinComparisons_eq_ok {source target : Entity} {operator : JoinOperator}
    {sourceAlias targetAlias : String} {pairs : List (String × String)} {on : List SearchText}
    (h : pairs.mapM (fun (left, right) => do
      let left ← source.field left
      let right ← target.field right
      return SearchText.leaf (c.conventions.column sourceAlias left ++
        Sql.text (" " ++ operator.sql ++ " ") ++ c.conventions.column targetAlias right)) =
      Except.ok on) :
    ∃ fields : List (Field × Field), fields.length = pairs.length ∧
      (∀ pair ∈ fields, ∃ left right, source.field left = .ok pair.1 ∧
        target.field right = .ok pair.2) ∧
      on = fields.map fun pair =>
        SearchText.leaf (joinComparison c operator sourceAlias targetAlias pair) := by
  induction pairs generalizing on with
  | nil =>
    cases h
    exact ⟨[], rfl, List.forall_mem_nil _, rfl⟩
  | cons pair rest ih =>
    simp only [List.mapM_cons, except_bind_eq_ok] at h
    obtain ⟨text, ⟨left, hleft, right, hright, htext⟩, texts, htexts, hon⟩ := h
    obtain ⟨fields, hlength, hfields, rfl⟩ := ih htexts
    cases htext
    cases hon
    exact ⟨(left, right) :: fields, congrArg (· + 1) hlength,
      List.forall_mem_cons.mpr ⟨⟨pair.1, pair.2, hleft, hright⟩, hfields⟩, rfl⟩

/-- An ON clause compares pairs of fields, and only a cross join has none. -/
theorem joinPredicates_eq_ok {source target : Entity} {kind : JoinKind}
    {fields : List (String × String)} {operator : JoinOperator} {sourceAlias targetAlias : String}
    {on : List SearchText}
    (h : c.joinPredicates source target kind fields operator sourceAlias targetAlias = .ok on) :
    ∃ compared : List (Field × Field), (kind ≠ .cross → compared ≠ []) ∧
      (∀ pair ∈ compared, ∃ left right, source.field left = .ok pair.1 ∧
        target.field right = .ok pair.2) ∧
      on = compared.map fun pair =>
        SearchText.leaf (joinComparison c operator sourceAlias targetAlias pair) := by
  unfold Compiler.joinPredicates at h
  split at h
  · rename_i hcross
    cases h
    exact ⟨[], fun hkind => absurd (by simpa using hcross) hkind, List.forall_mem_nil _, rfl⟩
  · split at h
    · cases h
    · rename_i hne
      obtain ⟨compared, hlength, hfields, hon⟩ := joinComparisons_eq_ok h
      refine ⟨compared, ?_, hfields, hon⟩
      rintro - rfl
      exact hne (List.length_eq_zero_iff.mp hlength.symm)

/-- A joined query without set operations is joined as its table, and its condition goes into the
ON clause or to the joining query; one with set operations is joined as a derived table. -/
theorem joinedTables_yields {sourceAlias : String} {target : Entity} {kind : JoinKind}
    {fields : List (String × String)} {operator : JoinOperator} {projection : List String}
    {sub : Clauses} {condition joining : Predicate} {tables : List JoinedTable}
    (h : Yields (c.joinedTables entity sourceAlias target tableAlias kind fields operator projection
      sub condition) s (tables, joining) t) :
    (sub.combine = [] ∧ s = t ∧
      ∃ on, c.joinPredicates entity target kind fields operator sourceAlias tableAlias = .ok on ∧
        tables = ⟨kind, .table (c.table target), tableAlias,
          if !sub.predicate.isEmpty && (sub.allowJoin && kind != .cross)
            then on ++ [sub.predicate.operand] else on⟩ :: sub.usableJoin ∧
        joining = if sub.allowJoin && kind != .cross then condition
          else condition.and sub.predicate) ∨
    (sub.combine ≠ [] ∧ joining = condition ∧
      ∃ derivedAlias projected on, Yields freshAlias s derivedAlias t ∧
        target.queryFields projection = .ok projected ∧
        c.joinPredicates entity target kind fields operator sourceAlias derivedAlias = .ok on ∧
        tables = [⟨kind, .derived (projected.map (c.conventions.item tableAlias false))
          (plainSelect (projected.map (c.conventions.item tableAlias false)) (c.table target)
            tableAlias sub.usableJoin sub.condition ++
              Sql.clause " " (CombinedSelect.list sub.combine)), derivedAlias, on⟩]) := by
  unfold Compiler.joinedTables at h
  split at h
  · rename_i hcombine
    simp only [yields_bind, yields_liftM, yields_pure, Prod.mk.injEq] at h
    obtain ⟨on, _, ⟨hon, rfl⟩, ⟨rfl, rfl⟩, rfl⟩ := h
    exact .inl ⟨List.isEmpty_iff.mp hcombine, rfl, on, hon, rfl, rfl⟩
  · rename_i hcombine
    simp only [yields_bind, yields_liftM, yields_pure, Prod.mk.injEq] at h
    obtain ⟨derivedAlias, r, halias, projected, _, ⟨hprojected, rfl⟩, on, _, ⟨hon, rfl⟩,
      ⟨rfl, rfl⟩, rfl⟩ := h
    exact .inr ⟨fun hnil => hcombine (by rw [hnil]; rfl), rfl, derivedAlias, projected, on, halias,
      hprojected, hon, rfl⟩

/-- The script of a traversal: it starts with the rows of the condition, over the joins. -/
def traversalScript (table innerAlias : String) (clauses : Clauses) (keyColumn relationColumn : Sql)
    (direction : TraversalDirection) : Sql :=
  Sql.text "SELECT " ++ keyColumn ++ Sql.text (" FROM " ++ table ++ " " ++ innerAlias) ++
    Sql.clause " " (JoinedTable.list clauses.join) ++ Sql.text " START WITH " ++
    (if clauses.condition.isEmpty then Sql.text "1 = 1" else clauses.condition.sql) ++
    Sql.text " CONNECT BY PRIOR " ++ Compiler.traversalLink direction keyColumn relationColumn

/-- A query keeps its clauses, or replaces condition and joins by its traversal. -/
theorem traversal_eq_ok {innerAlias : String} {before clauses : Clauses}
    {recursion : Option Recursion}
    (h : traversal c entity tableAlias innerAlias before recursion = .ok clauses) :
    (recursion = none ∧ clauses = before) ∨
      ∃ spec key relation, recursion = some spec ∧ entity.field spec.key = .ok key ∧
        entity.field spec.relation = .ok relation ∧
        let script := traversalScript (c.table entity) innerAlias before
          (c.conventions.column innerAlias key) (c.conventions.column innerAlias relation)
          spec.direction
        clauses = { before with
          condition := SearchText.leaf
            (comparison (c.conventions.column tableAlias key) .isIn script.parens)
          hasOr := false
          allowJoin := false
          trace := before.trace ++ ⟨[script], ⟨some (c.table entity), some innerAlias⟩⟩ } := by
  cases recursion with
  | none =>
    cases h
    exact .inl ⟨rfl, rfl⟩
  | some spec =>
    simp only [traversal, Compiler.traversed, except_bind_eq_ok] at h
    obtain ⟨key, hkey, relation, hrelation, hclauses⟩ := h
    cases hclauses
    exact .inr ⟨spec, key, relation, rfl, hkey, hrelation, rfl⟩

end QueryLoom
