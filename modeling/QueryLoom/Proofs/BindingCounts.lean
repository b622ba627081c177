import QueryLoom.Proofs.SelectBindings

/-!
# How many parameters a query takes

The number at which the compilation of a query leaves off, counted from the tree of the query alone,
and the part of that count that the text of its conditions shows.

## Implementation notes

The count of a conversion is one for every operand, also for one that no conversion supports: a
compilation that gets to its end has met none of these, so the induction is on what the compilation
answers and not on the tree alone. A nested query counts its sorts where its rows are capped; set
operations and joins never count theirs.
-/

namespace QueryLoom

/-- What a conversion takes: one number for its operand, if it has one. -/
def conversionCount : Option Conversion → Nat
  | some (.operand _ _) => 1
  | _ => 0

/-- What a collection takes: nothing if it is empty, one number if it is bound whole, and otherwise
one for each element. -/
def collectionCount (items : List Value) : Nat :=
  if items.isEmpty then 0 else if items.all Value.bindsInCollection then 1 else items.length

/-- What sorts take. -/
def sortCount (keys : List SortKey) : Nat :=
  (keys.map fun key => conversionCount key.conversion).sum

mutual
/-- What a query takes: its conditions, its sorts where they count, its set operations and its
joins. -/
def Query.bindingCount (sorted : Bool) (query : Query) : Nat :=
  match query with
  | { conditions, sorts, joins, combines, .. } =>
    entryCount conditions + (if sorted then sortCount sorts else 0) + combineCount combines +
      joinCount joins
termination_by structural query

/-- What a list of conditions takes. -/
def entryCount (entries : List ConditionEntry) : Nat :=
  match entries with
  | [] => 0
  | ⟨_, condition⟩ :: rest => condition.bindingCount + entryCount rest
termination_by structural entries

/-- What a condition takes; a constant takes nothing. -/
def Condition.bindingCount (condition : Condition) : Nat :=
  match condition with
  | .constant _ => 0
  | .criterion criterion => criterion.bindingCount
  | .group entries => entryCount entries
termination_by structural condition

/-- What a comparison takes: its conversion, and then what it compares with. -/
def Criterion.bindingCount (criterion : Criterion) : Nat :=
  match criterion with
  | ⟨_, operator, value, conversion⟩ =>
    conversionCount conversion +
      if operator.takesOperand then
        match value with
        | .subquery query => query.bindingCount (nestedSorted operator query)
        | .collection items => collectionCount items
        | _ => 1
      else 0
termination_by structural criterion

/-- What set operations take. -/
def combineCount (combines : List Combine) : Nat :=
  match combines with
  | [] => 0
  | ⟨_, query⟩ :: rest => query.bindingCount false + combineCount rest
termination_by structural combines

/-- What joins take. -/
def joinCount (joins : List Join) : Nat :=
  match joins with
  | [] => 0
  | ⟨_, _, _, query⟩ :: rest => query.bindingCount false + joinCount rest
termination_by structural joins
end

theorem Query.bindingCount_eq (sorted : Bool) (query : Query) :
    query.bindingCount sorted =
      entryCount query.conditions + (if sorted then sortCount query.sorts else 0) +
        combineCount query.combines + joinCount query.joins := by
  obtain ⟨⟩ := query
  rfl

theorem Criterion.bindingCount_eq (criterion : Criterion) :
    criterion.bindingCount = conversionCount criterion.conversion +
      if criterion.operator.takesOperand then
        match criterion.value with
        | .subquery query => query.bindingCount (nestedSorted criterion.operator query)
        | .collection items => collectionCount items
        | _ => 1
      else 0 := by
  obtain ⟨property, operator, value, conversion⟩ := criterion
  cases value <;> rfl

/-- What a comparison takes that is neither with a nested query nor with a collection. -/
theorem Criterion.bindingCount_of_isScalar {property : String} {operator : Operator} {value : Value}
    {conversion : Option Conversion} (hscalar : value.IsScalar)
    (htakes : operator.takesOperand = true) :
    Criterion.bindingCount ⟨property, operator, value, conversion⟩ =
      conversionCount conversion + 1 := by
  cases value <;> first
    | exact hscalar.elim
    | simp [Criterion.bindingCount_eq, htakes]

theorem length_collectionBindings (property : String) (items : List Value) :
    (collectionBindings property items).length = collectionCount items := by
  unfold collectionBindings collectionCount
  split
  · rfl
  · split
    · rfl
    · exact List.length_map _

section Steps

variable {c : Compiler} {s t : Scope} {entity : Entity} {tableAlias : String}

/-- A conversion that is supported binds its operand. -/
theorem convert_nextNumber {column sql : Sql} {property : String} {conversion : Option Conversion}
    (hcolumn : column.bag = 0) (h : Yields (c.convert column property conversion) s sql t) :
    t.nextNumber = s.nextNumber + conversionCount conversion := by
  have hlength : (conversionBindings property true conversion).length =
      conversionCount conversion := by
    cases conversion with
    | none => rfl
    | some conversion =>
      cases conversion with
      | operand function value =>
        cases hform : function.form with
        | unsupported feature =>
          -- nothing is bound for such an operand, but nothing is compiled either
          simp only [Compiler.convert, hform] at h
          exact absurd h not_yields_throw
        | _ => simp [conversionBindings, conversionCount, hform]
      | _ => rfl
  rw [(convert_placed true hcolumn h).nextNumber, hlength]

theorem sortItems_nextNumber {keys : List SortKey} {items : List Sql}
    (h : Yields (c.sortItems entity tableAlias keys) s items t) :
    t.nextNumber = s.nextNumber + sortCount keys := by
  unfold Compiler.sortItems at h
  induction keys generalizing s items with
  | nil =>
    obtain ⟨-, rfl⟩ := yields_mapM_nil.mp h
    rfl
  | cons key rest ih =>
    obtain ⟨item, r, items, hitem, hrest, rfl⟩ := yields_mapM_cons.mp h
    simp only [yields_bind, yields_liftM, yields_pure] at hitem
    obtain ⟨field, _, ⟨-, rfl⟩, column, _, hcolumn, rfl, rfl⟩ := hitem
    have hfirst := convert_nextNumber (Conventions.bag_column c.conventions tableAlias field)
      hcolumn
    rw [ih hrest, hfirst, Nat.add_assoc]
    simp [sortCount]

theorem sortClause_nextNumber {sorted : Bool} {keys : List SortKey} {items : List Sql}
    (h : Yields (sortClause c entity tableAlias sorted keys) s items t) :
    t.nextNumber = s.nextNumber + if sorted then sortCount keys else 0 := by
  unfold sortClause at h
  cases sorted with
  | true => exact sortItems_nextNumber h
  | false =>
    obtain ⟨-, rfl⟩ := yields_pure.mp h
    rfl

theorem freshAlias_nextNumber {fresh : String} (h : Yields freshAlias s fresh t) :
    t.nextNumber = s.nextNumber := by
  obtain ⟨-, rfl⟩ := freshAlias_yields.mp h
  rfl

end Steps

mutual
/-- A query leaves off as many numbers later as it takes. -/
theorem Query.clauses_nextNumber {c : Compiler} (query : Query) {fields : List String}
    {tableAlias : String} {sorted : Bool} {s t : Scope} {clauses : Clauses}
    (h : Yields (query.clauses c fields tableAlias sorted) s clauses t) :
    t.nextNumber = s.nextNumber + query.bindingCount sorted := by
  obtain ⟨entity, innerAlias, r₁, condition, r₂, sort, r₃, combine, trace, r₄, join, joining, -,
    halias, hcondition, hsort, hcombine, hjoin, -⟩ := Query.clauses_yields h
  obtain ⟨name, conditions, sorts, joins, combines, recursion, rest⟩ := query
  -- each part starts at the number where the part before it ends
  have hr₁ := (traversalAlias_yields halias).2
  have hr₂ := foldEntries_nextNumber conditions hcondition
  have hr₃ := sortClause_nextNumber hsort
  have hr₄ := combinedSelects_nextNumber combines hcombine
  have ht := joinTables_nextNumber joins hjoin
  rw [Query.bindingCount_eq]
  dsimp only at hr₃ ⊢
  omega
termination_by structural query

theorem foldEntries_nextNumber {c : Compiler} (entries : List ConditionEntry) {entity : Entity}
    {tableAlias : String} {before p : Predicate} {s t : Scope}
    (h : Yields (foldEntries c entity tableAlias before entries) s p t) :
    t.nextNumber = s.nextNumber + entryCount entries := by
  cases entries with
  | nil =>
    obtain ⟨-, rfl⟩ := foldEntries_nil_yields.mp h
    rfl
  | cons entry rest =>
    obtain ⟨q, r, hq, hrest⟩ := foldEntries_cons_yields.mp h
    obtain ⟨connector, condition⟩ := entry
    have hfirst := Condition.predicate_nextNumber condition hq
    have hothers := foldEntries_nextNumber rest hrest
    rw [entryCount]
    omega
termination_by structural entries

theorem Condition.predicate_nextNumber {c : Compiler} (condition : Condition) {entity : Entity}
    {tableAlias : String} {p : Predicate} {s t : Scope}
    (h : Yields (condition.predicate c entity tableAlias) s p t) :
    t.nextNumber = s.nextNumber + condition.bindingCount := by
  cases condition with
  | constant holds =>
    obtain ⟨-, rfl⟩ := predicate_constant_yields.mp h
    rfl
  | criterion criterion =>
    exact Criterion.predicate_nextNumber criterion (predicate_criterion_yields.mp h)
  | group entries =>
    match entries with
    | [⟨connector, only⟩] =>
      exact Condition.predicate_nextNumber only (predicate_group_one_yields.mp h)
    | [] =>
      obtain ⟨q, hq, -⟩ := (predicate_group_yields (by simp)).mp h
      obtain ⟨-, rfl⟩ := foldEntries_nil_yields.mp hq
      rfl
    | ⟨connector, condition⟩ :: second :: rest =>
      obtain ⟨q, hq, -⟩ := (predicate_group_yields (by simp)).mp h
      obtain ⟨p, r, hp, hrest⟩ := foldEntries_cons_yields.mp hq
      have hfirst := Condition.predicate_nextNumber condition hp
      have hothers := foldEntries_nextNumber (second :: rest) hrest
      rw [Condition.bindingCount, entryCount]
      omega
termination_by structural condition

theorem Criterion.predicate_nextNumber {c : Compiler} (criterion : Criterion) {entity : Entity}
    {tableAlias : String} {p : Predicate} {s t : Scope}
    (h : Yields (criterion.predicate c entity tableAlias) s p t) :
    t.nextNumber = s.nextNumber + criterion.bindingCount := by
  obtain ⟨field, column, r, -, hcolumn, hcases⟩ := Criterion.predicate_yields h
  obtain ⟨property, operator, value, conversion⟩ := criterion
  dsimp only at hcolumn hcases
  have hr := convert_nextNumber (Conventions.bag_column c.conventions tableAlias field) hcolumn
  rcases hcases with ⟨htakes, -, rfl⟩ | ⟨htakes, hcases⟩
  · simpa [Criterion.bindingCount_eq, htakes] using hr
  · cases value with
    | subquery query =>
      rcases hcases with ⟨query', target, nestedAlias, r', clauses, hvalue, htarget, halias,
        hclauses, -⟩ | ⟨items, hvalue, -⟩ | ⟨hscalar, -⟩
      · have hquery : query' = query := (Value.subquery.inj hvalue).symm
        rw [hquery] at hclauses htarget
        have hnested := Query.clauses_nextNumber query hclauses
        rw [nestedTarget_limit htarget, freshAlias_nextNumber halias, hr] at hnested
        simpa [Criterion.bindingCount_eq, htakes, Nat.add_assoc] using hnested
      · cases hvalue
      · exact hscalar.elim
    | collection items =>
      rcases hcases with ⟨query', target, nestedAlias, r', clauses, hvalue, -⟩ |
        ⟨items', hvalue, hcompare⟩ | ⟨hscalar, -⟩
      · cases hvalue
      · cases hvalue
        obtain ⟨bag, hbag, -⟩ := compareCollection_placed hcompare
        rw [hbag.nextNumber, length_collectionBindings, hr]
        simp [Criterion.bindingCount_eq, htakes, Nat.add_assoc]
      · exact hscalar.elim
    | _ =>
      rcases hcases with ⟨query', target, nestedAlias, r', clauses, hvalue, -⟩ |
        ⟨items', hvalue, -⟩ | ⟨hscalar, hcompare⟩
      · cases hvalue
      · cases hvalue
      · obtain ⟨bag, hbag, -⟩ := compareScalar_placed hcompare
        rw [Criterion.bindingCount_of_isScalar hscalar htakes, hbag.nextNumber, hr,
          List.length_singleton, Nat.add_assoc]
termination_by structural criterion

theorem combinedSelects_nextNumber {c : Compiler} (combines : List Combine) {entity : Entity}
    {fields : List String} {combine : List CombinedSelect} {trace : Trace} {s t : Scope}
    (h : Yields (combinedSelects c entity fields combines) s (combine, trace) t) :
    t.nextNumber = s.nextNumber + combineCount combines := by
  cases combines with
  | nil =>
    obtain ⟨-, -, rfl⟩ := combinedSelects_nil_yields.mp h
    rfl
  | cons first rest =>
    obtain ⟨nestedAlias, r₁, target, sub, r₂, items, others, restTrace, halias, -, hsub, -, hrest,
      -, -⟩ := combinedSelects_cons_yields h
    obtain ⟨kind, query⟩ := first
    have hr₁ := freshAlias_nextNumber halias
    have hr₂ := Query.clauses_nextNumber query hsub
    have ht := combinedSelects_nextNumber rest hrest
    rw [combineCount]
    omega
termination_by structural combines

theorem joinTables_nextNumber {c : Compiler} (joins : List Join) {entity : Entity}
    {tableAlias : String} {condition joining : Predicate} {join : List JoinedTable} {s t : Scope}
    (h : Yields (joinTables c entity tableAlias condition joins) s (join, joining) t) :
    t.nextNumber = s.nextNumber + joinCount joins := by
  cases joins with
  | nil =>
    obtain ⟨-, -, rfl⟩ := joinTables_nil_yields.mp h
    rfl
  | cons first rest =>
    obtain ⟨nestedAlias, r₁, target, sub, r₂, tables, between, r₃, others, halias, -, hsub, htables,
      hrest, -⟩ := joinTables_cons_yields h
    obtain ⟨kind, fields, operator, query⟩ := first
    have hr₁ := freshAlias_nextNumber halias
    have hr₂ := Query.clauses_nextNumber query hsub
    have hr₃ := (joinedTables_placed (Query.sort_of_unsorted hsub) htables).1.nextNumber
    have ht := joinTables_nextNumber rest hrest
    rw [List.length_nil] at hr₃
    rw [joinCount]
    omega
termination_by structural joins
end

section Conditions

variable {c : Compiler} {query : Query} {fields : List String} {tableAlias : String}
  {sorted : Bool} {s t : Scope} {clauses : Clauses}

/-- The condition of a query without joins holds what its conditions bind, with or without a
traversal around them. -/
theorem Query.condition_bag (hjoins : query.joins = [])
    (h : Yields (query.clauses c fields tableAlias sorted) s clauses t) :
    clauses.condition.sql.bag = issueBag s.nextNumber (entryBindings query.conditions) := by
  obtain ⟨entity, innerAlias, r₁, condition, r₂, sort, r₃, combine, trace, r₄, join, joining, -,
    halias, hcondition, -, -, hjoin, htraversal⟩ := Query.clauses_yields h
  rw [hjoins] at hjoin
  obtain ⟨rfl, rfl, -⟩ := joinTables_nil_yields.mp hjoin
  obtain ⟨bag, hplaced, hbag⟩ := foldEntries_placed query.conditions hcondition
  obtain ⟨hrows, -, -⟩ := traversal_bag rfl htraversal
  have husable : clauses.usableJoin = [] := by
    rcases traversal_eq_ok htraversal with ⟨-, rfl⟩ | ⟨spec, key, relation, -, -, -, rfl⟩
    · rfl
    · rfl
  rw [husable, JoinedTable.bag_list_nil, add_zero, add_zero] at hrows
  rw [hrows, hbag, hplaced.bag_eq, (traversalAlias_yields halias).2]
  exact zero_add _

/-- The conditions of a query that is compiled bind as much as they take. -/
theorem Query.length_entryBindings
    (h : Yields (query.clauses c fields tableAlias sorted) s clauses t) :
    (entryBindings query.conditions).length = entryCount query.conditions := by
  obtain ⟨entity, innerAlias, r₁, condition, r₂, sort, r₃, combine, trace, r₄, join, joining, -, -,
    hcondition, -⟩ := Query.clauses_yields h
  obtain ⟨bag, hplaced, -⟩ := foldEntries_placed query.conditions hcondition
  have hcounted := foldEntries_nextNumber query.conditions hcondition
  exact Nat.add_left_cancel (hplaced.nextNumber.symm.trans hcounted)

/-- Bindings are all written exactly if no number of theirs is passed over. -/
theorem perm_placeholders_iff {placeholders : List (String × Nat)} {number : Nat}
    {bindings : List Binding}
    (h : placeholders.Perm (((numbered number bindings).filter (·.1.written)).map
      Issue.placeholder)) :
    placeholders.Perm ((numbered number bindings).map Issue.placeholder) ↔
      ∀ binding ∈ bindings, binding.written = true := by
  have hbindings : (numbered number bindings).map Prod.fst = bindings :=
    List.zipIdx_map_fst number bindings
  have hall : (∀ binding ∈ bindings, binding.written = true) ↔
      ∀ issue ∈ numbered number bindings, issue.1.written = true := by
    conv_lhs => rw [← hbindings]
    exact List.forall_mem_map
  rw [hall]
  constructor
  · intro hperm
    have hlength := (h.symm.trans hperm).length_eq
    rw [List.length_map, List.length_map] at hlength
    exact List.length_filter_eq_length_iff.mp hlength
  · intro hwritten
    rwa [List.filter_eq_self.mpr hwritten] at h

/-- A compiled query leaves off as many numbers later as its tree takes. The condition of one
without joins writes, each once, the placeholders of what its conditions bind, except for the
operand of a conversion that is compared with an empty collection; so it writes a placeholder for
every number that its conditions take exactly if there is no such operand. Where neither the schema
nor the paths of conversions have colons, the placeholders are read off its characters. -/
theorem clauses_bindingCount
    (h : Yields (query.clauses c fields tableAlias sorted) s clauses t) :
    t.nextNumber = s.nextNumber + query.bindingCount sorted ∧
    (query.joins = [] →
      let issues := numbered s.nextNumber (entryBindings query.conditions)
      issues.map Prod.snd = List.range' s.nextNumber (entryCount query.conditions) ∧
      clauses.condition.sql.placeholders.Perm
        ((issues.filter (·.1.written)).map Issue.placeholder) ∧
      (clauses.condition.sql.placeholders.Perm (issues.map Issue.placeholder) ↔
        ∀ binding ∈ entryBindings query.conditions, binding.written = true)) ∧
    (c.schema.Legible → AllColonless query.paths → Colonless tableAlias →
      namesIn clauses.condition.sql.render = clauses.condition.sql.placeholderNames) := by
  refine ⟨Query.clauses_nextNumber query h, ?_, ?_⟩
  · intro hjoins issues
    have hperm : clauses.condition.sql.placeholders.Perm
        ((issues.filter (·.1.written)).map Issue.placeholder) :=
      Multiset.coe_eq_coe.mp (Query.condition_bag hjoins h)
    refine ⟨?_, hperm, perm_placeholders_iff hperm⟩
    rw [← Query.length_entryBindings h]
    exact List.zipIdx_map_snd _ _
  · intro hschema hpaths halias
    exact (Query.clauses_legible hschema query hpaths halias h).condition.namesIn_render

end Conditions

/-- Accounts under conditions of every kind: a collection with an interval, a converted column in
the first rows of a sorted query, a converted column that is NULL, a constant, and a collection. -/
def countedAccounts : Query where
  entity := "Account"
  conditions := [
    ⟨.and, .criterion ⟨"Owner", .isIn, .collection [.interval 5000, .int 1], none⟩⟩,
    ⟨.and, .criterion ⟨"Id", .notIn, .subquery {
      entity := "Account", fields := ["Id"], size := 3
      conditions := [⟨.and, .criterion ⟨"Owner", .greaterThan, .int 5, none⟩⟩]
      sorts := [⟨"Id", .ascending, some (.operand .modulo (.int 7))⟩] },
      some (.operand .add (.int 1))⟩⟩,
    ⟨.or, .group [
      ⟨.and, .criterion ⟨"Owner", .isNull, .int 8, some (.operand .modulo (.int 2))⟩⟩,
      ⟨.and, .constant true⟩]⟩,
    ⟨.and, .criterion ⟨"Id", .isIn, .collection [.int 1, .int 2], none⟩⟩]
  sorts := [⟨"Id", .descending, some (.operand .multiply (.int 9))⟩]
  combines := [⟨.union, {
    entity := "Account"
    sorts := [⟨"Id", .ascending, some (.operand .add (.int 1))⟩]
    conditions := [⟨.and, .criterion ⟨"Id", .equal, .int 4, none⟩⟩] }⟩]

/-- The conditions take the seven numbers from three on and show them all; the sort and the set
operation take one more each. -/
theorem countedAccounts_clauses :
    ∃ clauses t, Yields (countedAccounts.clauses ownedAccounts [] rootAlias true)
        { nextNumber := 3 } clauses t ∧
      t.nextNumber = 12 ∧
      clauses.condition.sql.placeholders.Perm
        [("Owner", 3), ("Owner", 4), ("Id", 5), ("Owner", 6), ("Id", 7), ("Owner", 8),
          ("Id", 9)] := by
  obtain ⟨clauses, t, h⟩ := exists_yields_of_isSome
    (m := countedAccounts.clauses ownedAccounts [] rootAlias true) (s := { nextNumber := 3 })
    (by decide +kernel)
  obtain ⟨hnumber, hjoinless, -⟩ := clauses_bindingCount h
  obtain ⟨-, -, hiff⟩ := hjoinless rfl
  have hwritten : ∀ binding ∈ entryBindings countedAccounts.conditions,
      binding.written = true := by
    decide +kernel
  exact ⟨clauses, t, h, hnumber, hiff.mpr hwritten⟩

/-- A sum compared with no values takes the number of its operand and shows no placeholder. -/
theorem sumInNothing_unshown :
    let conditions : List ConditionEntry := [⟨.and, .criterion
      ⟨"Id", .isIn, .collection [], some (.operand .add (.int 1))⟩⟩]
    ∃ clauses t, Yields
        (Query.clauses ownedAccounts { entity := "Account", conditions } [] rootAlias true) {}
        clauses t ∧
      t.nextNumber = 1 ∧ entryCount conditions = 1 ∧ clauses.condition.sql.render = "1 = 0" ∧
      clauses.condition.sql.placeholders = [] := by
  intro conditions
  obtain ⟨clauses, t, h⟩ := exists_yields_of_isSome
    (m := Query.clauses ownedAccounts { entity := "Account", conditions } [] rootAlias true)
    (s := {}) (by decide +kernel)
  have hread := Yields.eq_of_map h
    (f := fun clauses => (clauses.condition.sql.render, clauses.condition.sql.placeholders))
    (b := ("1 = 0", [])) (by decide +kernel)
  obtain ⟨hrender, hplaceholders⟩ := Prod.mk.inj hread
  exact ⟨clauses, t, h, Query.clauses_nextNumber _ h, rfl, hrender, hplaceholders⟩

end QueryLoom
