import QueryLoom.Proofs.Bindings
import QueryLoom.Proofs.Compilation
import QueryLoom.Proofs.ParameterCollections
import QueryLoom.Proofs.Placeholders

/-!
# What a compilation hands out

A compilation puts exactly the bindings of its tree into its scope, numbered one after the other,
and every placeholder that it writes stands in its clauses exactly once.

## Implementation notes

The clauses of a query are written in another order than their parameters are numbered, so
placeholders are compared with repetition but without order. The induction is on the tree of nested
queries; `Placed` is what it carries from step to step.
-/

namespace QueryLoom

/-- Between two scopes exactly some bindings were handed out, each under the next number. -/
structure Issued (c : Compiler) (s t : Scope) (bindings : List Binding) : Prop where
  parameters : t.parameters =
    ((numbered s.nextNumber bindings).map (Issue.parameter c.conventions)).foldl
      Parameters.insert s.parameters
  nextNumber : t.nextNumber = s.nextNumber + bindings.length

/-- The placeholders that are written for numbered bindings. -/
def writtenBag (issues : List Issue) : Multiset (String × Nat) :=
  ((issues.filter (·.1.written)).map Issue.placeholder : Multiset (String × Nat))

theorem mem_writtenBag {issues : List Issue} {p : String × Nat} :
    p ∈ writtenBag issues ↔ ∃ i ∈ issues, i.1.written = true ∧ i.placeholder = p := by
  simp only [writtenBag, Multiset.mem_coe, List.mem_map, List.mem_filter, and_assoc]

/-- The placeholders that are written for bindings that are numbered from a number on. -/
def issueBag (number : Nat) (bindings : List Binding) : Multiset (String × Nat) :=
  writtenBag (numbered number bindings)

@[simp] theorem issueBag_nil (number : Nat) : issueBag number [] = 0 := rfl

theorem issueBag_append (number : Nat) (a b : List Binding) :
    issueBag number (a ++ b) = issueBag number a + issueBag (number + a.length) b := by
  simp [issueBag, writtenBag, numbered_append, ← Multiset.coe_add]

/-- No placeholder is written twice. -/
theorem nodup_issueBag (number : Nat) (bindings : List Binding) :
    (issueBag number bindings).Nodup := by
  refine Multiset.coe_nodup.mpr (List.Nodup.map_on ?_ ((nodup_numbered number bindings).filter _))
  intro i hi j hj hplaceholder
  exact numbered_inj (List.mem_of_mem_filter hi) (List.mem_of_mem_filter hj)
    (Prod.mk.inj hplaceholder).2

/-- Between two scopes exactly some bindings were handed out, and a piece of SQL holds the
placeholders that are written for them, each once. -/
structure Placed (c : Compiler) (s t : Scope) (bindings : List Binding)
    (bag : Multiset (String × Nat)) : Prop extends Issued c s t bindings where
  bag_eq : bag = issueBag s.nextNumber bindings

section Steps

variable {c : Compiler} {r s t : Scope} {a b : List Binding} {p q : Multiset (String × Nat)}

theorem Issued.of_unchanged (hparameters : t.parameters = s.parameters)
    (hnumber : t.nextNumber = s.nextNumber) : Issued c s t [] :=
  ⟨hparameters, hnumber⟩

theorem Issued.append (ha : Issued c s r a) (hb : Issued c r t b) : Issued c s t (a ++ b) := by
  constructor
  · rw [hb.parameters, ha.parameters, ha.nextNumber, numbered_append, List.map_append,
      List.foldl_append]
  · rw [hb.nextNumber, ha.nextNumber, List.length_append, Nat.add_assoc]

theorem Placed.of_unchanged (hparameters : t.parameters = s.parameters)
    (hnumber : t.nextNumber = s.nextNumber) : Placed c s t [] 0 :=
  ⟨.of_unchanged hparameters hnumber, rfl⟩

theorem Placed.refl : Placed c s s [] 0 := .of_unchanged rfl rfl

theorem Placed.append (ha : Placed c s r a p) (hb : Placed c r t b q) :
    Placed c s t (a ++ b) (p + q) := by
  refine ⟨ha.toIssued.append hb.toIssued, ?_⟩
  rw [ha.bag_eq, hb.bag_eq, ha.nextNumber, issueBag_append]

/-- Steps that hand out nothing may come first. -/
theorem Placed.after (hs : Issued c s r []) (h : Placed c r t b q) : Placed c s t b q := by
  have := Placed.append ⟨hs, rfl⟩ h
  simpa using this

theorem freshAlias_issued {tableAlias : String} (h : Yields freshAlias s tableAlias t) :
    Issued c s t [] := by
  obtain ⟨-, rfl⟩ := freshAlias_yields.mp h
  exact .of_unchanged rfl rfl

theorem bind_placed {property : String} {value : Value} {sql : Sql}
    (h : Yields (c.bind property value) s sql t) :
    Placed c s t [.input property value] sql.bag := by
  obtain ⟨rfl, rfl⟩ := Compiler.bind_yields.mp h
  exact ⟨⟨rfl, rfl⟩, rfl⟩

theorem bindOutput_placed {property : String} {sql : Sql}
    (h : Yields (Compiler.bindOutput property) s sql t) :
    Placed c s t [.output property] sql.bag := by
  obtain ⟨rfl, rfl⟩ := Compiler.bindOutput_yields.mp h
  exact ⟨⟨rfl, rfl⟩, rfl⟩

/-- A conversion binds its operand and keeps the column; the result may be left unwritten. -/
theorem convert_placed {column sql : Sql} {property : String} {conversion : Option Conversion}
    (written : Bool) (hcolumn : column.bag = 0)
    (h : Yields (c.convert column property conversion) s sql t) :
    Placed c s t (conversionBindings property written conversion)
      (if written then sql.bag else 0) := by
  have hplain (text : Sql) (hbag : text.bag = 0) :
      Placed c s s [] (if written then text.bag else 0) := by
    rw [hbag, ite_self]
    exact .refl
  have hoperand {value : Value} {operand text : Sql} (hbag : text.bag = operand.bag)
      (hbind : Yields (c.bind property value) s operand t) :
      Placed c s t [⟨property, some value, written⟩] (if written then text.bag else 0) := by
    obtain ⟨rfl, rfl⟩ := Compiler.bind_yields.mp hbind
    refine ⟨⟨rfl, rfl⟩, ?_⟩
    rw [hbag]
    cases written <;> rfl
  unfold Compiler.convert at h
  split at h
  · obtain ⟨rfl, rfl⟩ := yields_pure.mp h
    exact hplain _ hcolumn
  · obtain ⟨rfl, rfl⟩ := yields_pure.mp h
    exact hplain _ (by simp [hcolumn])
  · obtain ⟨rfl, rfl⟩ := yields_pure.mp h
    exact hplain _ (by simp [hcolumn])
  · rename_i function value
    cases hform : function.form with
    | infixed symbol =>
      simp only [hform, yields_bind, yields_pure] at h
      obtain ⟨operand, _, hbind, rfl, rfl⟩ := h
      simp only [conversionBindings, hform]
      exact hoperand (by simp [hcolumn]) hbind
    | called keyword =>
      simp only [hform, yields_bind, yields_pure] at h
      obtain ⟨operand, _, hbind, rfl, rfl⟩ := h
      simp only [conversionBindings, hform]
      exact hoperand (by simp [hcolumn]) hbind
    | unsupported feature =>
      simp only [hform] at h
      exact absurd h not_yields_throw

theorem sortItems_placed {entity : Entity} {tableAlias : String} {keys : List SortKey}
    {items : List Sql} (h : Yields (c.sortItems entity tableAlias keys) s items t) :
    Placed c s t (sortBindings keys) (items.map Sql.bag).sum := by
  unfold Compiler.sortItems at h
  induction keys generalizing s items with
  | nil =>
    obtain ⟨rfl, rfl⟩ := yields_mapM_nil.mp h
    exact .refl
  | cons key rest ih =>
    obtain ⟨item, r, items, hitem, hrest, rfl⟩ := yields_mapM_cons.mp h
    simp only [yields_bind, yields_liftM, yields_pure] at hitem
    obtain ⟨field, _, ⟨-, rfl⟩, column, _, hcolumn, rfl, rfl⟩ := hitem
    have hfirst := convert_placed true (Conventions.bag_column c.conventions tableAlias field)
      hcolumn
    have := hfirst.append (ih hrest)
    simpa [sortBindings] using this

theorem bind_mapM_placed {property : String} {items : List Value} {operands : List Sql}
    (h : Yields (items.mapM (c.bind property)) s operands t) :
    Placed c s t (items.map (.input property)) (operands.map Sql.bag).sum := by
  induction items generalizing s operands with
  | nil =>
    obtain ⟨rfl, rfl⟩ := yields_mapM_nil.mp h
    exact .refl
  | cons item rest ih =>
    obtain ⟨operand, r, operands, hoperand, hrest, rfl⟩ := yields_mapM_cons.mp h
    simpa using (bind_placed hoperand).append (ih hrest)

/-- The bag of a comparison is that of its two sides. -/
@[simp] theorem bag_comparison (column : Sql) (operator : Operator) (right : Sql) :
    (comparison column operator right).bag = column.bag + right.bag := by
  simp [comparison]

theorem compareCollection_placed {entity : Entity} {property : String} {column : Sql}
    {operator : Operator} {items : List Value} {predicate : Predicate}
    (h : Yields (c.compareCollection entity property column operator items) s predicate t) :
    ∃ bag, Placed c s t (collectionBindings property items) bag ∧
      predicate.text.sql.bag = (if items.isEmpty then 0 else column.bag) + bag := by
  unfold Compiler.compareCollection at h
  unfold collectionBindings
  split at h
  · exact absurd h not_yields_throw
  · by_cases hempty : items.isEmpty = true
    · simp only [hempty, if_true, yields_pure] at h ⊢
      obtain ⟨rfl, rfl⟩ := h
      exact ⟨0, .refl, by simp [Predicate.constant]⟩
    · by_cases hall : items.all Value.bindsInCollection = true
      · simp only [hempty, hall, if_true, Bool.false_eq_true, if_false, yields_bind, yields_pure]
          at h ⊢
        obtain ⟨operand, _, hoperand, rfl, rfl⟩ := h
        exact ⟨operand.bag, bind_placed hoperand, by simp⟩
      · simp only [hempty, hall, Bool.false_eq_true, if_false, yields_bind, yields_pure] at h ⊢
        obtain ⟨operands, _, hoperands, rfl, rfl⟩ := h
        exact ⟨_, bind_mapM_placed hoperands, by simp [Sql.bag_separated]⟩

theorem compareScalar_placed {property : String} {column : Sql} {operator : Operator}
    {value : Value} {predicate : Predicate}
    (h : Yields (c.compareScalar property column operator value) s predicate t) :
    ∃ bag, Placed c s t [.input property (scalarOperand operator value)] bag ∧
      predicate.text.sql.bag = column.bag + bag := by
  unfold Compiler.compareScalar at h
  unfold scalarOperand
  split at h
  · rename_i hmember
    simp only [yields_bind, yields_pure] at h
    obtain ⟨operand, _, hoperand, rfl, rfl⟩ := h
    rw [if_pos hmember]
    exact ⟨operand.bag, bind_placed hoperand, by simp⟩
  · rename_i hmember
    simp only [yields_bind, yields_pure] at h
    obtain ⟨operand, _, hoperand, rfl, rfl⟩ := h
    rw [if_neg hmember]
    exact ⟨operand.bag, bind_placed hoperand, by simp⟩

end Steps

/-- The placeholders of clauses, apart from joins that are kept inside a traversal. -/
def Clauses.bag (clauses : Clauses) : Multiset (String × Nat) :=
  clauses.condition.sql.bag + (JoinedTable.list clauses.usableJoin).bag +
    (CombinedSelect.list clauses.combine).bag + (clauses.sort.map Sql.bag).sum

/-- The clauses of a query hold the placeholders of its parts, part by part: those of its
conditions and joins together, those of its sorts, and those of its set operations. -/
structure ClausesPlaced (c : Compiler) (query : Query) (sorted : Bool) (s t : Scope)
    (clauses : Clauses) : Prop where
  issued : Issued c s t (query.bindings sorted)
  rows : clauses.condition.sql.bag + (JoinedTable.list clauses.usableJoin).bag =
    issueBag s.nextNumber (entryBindings query.conditions) +
      issueBag (s.nextNumber + (entryBindings query.conditions ++
        (if sorted then sortBindings query.sorts else []) ++
          combineBindings query.combines).length) (joinBindings query.joins)
  sort : (clauses.sort.map Sql.bag).sum =
    issueBag (s.nextNumber + (entryBindings query.conditions).length)
      (if sorted then sortBindings query.sorts else [])
  combine : (CombinedSelect.list clauses.combine).bag =
    issueBag (s.nextNumber + (entryBindings query.conditions ++
      (if sorted then sortBindings query.sorts else [])).length) (combineBindings query.combines)

theorem ClausesPlaced.placed {c : Compiler} {query : Query} {sorted : Bool} {s t : Scope}
    {clauses : Clauses} (h : ClausesPlaced c query sorted s t clauses) :
    Placed c s t (query.bindings sorted) clauses.bag := by
  refine ⟨h.issued, ?_⟩
  rw [Clauses.bag, h.rows, h.sort, h.combine, Query.bindings_eq, issueBag_append, issueBag_append,
    issueBag_append]
  abel

section Parts

variable {c : Compiler} {s t : Scope} {entity : Entity} {tableAlias : String}

theorem sortClause_placed {sorted : Bool} {keys : List SortKey} {items : List Sql}
    (h : Yields (sortClause c entity tableAlias sorted keys) s items t) :
    Placed c s t (if sorted then sortBindings keys else []) (items.map Sql.bag).sum := by
  unfold sortClause at h
  cases sorted with
  | true => exact sortItems_placed h
  | false =>
    obtain ⟨rfl, rfl⟩ := yields_pure.mp h
    exact .refl

theorem traversalAlias_issued {recursion : Option Recursion} {innerAlias : String}
    (h : Yields (traversalAlias recursion tableAlias) s innerAlias t) : Issued c s t [] := by
  obtain ⟨hparameters, hnumber⟩ := traversalAlias_yields h
  exact .of_unchanged hparameters hnumber

/-- A traversal holds the condition and the joins of its query and leaves the rest. -/
theorem traversal_bag {innerAlias : String} {before clauses : Clauses}
    {recursion : Option Recursion} (hallow : before.allowJoin = true)
    (h : traversal c entity tableAlias innerAlias before recursion = .ok clauses) :
    clauses.condition.sql.bag + (JoinedTable.list clauses.usableJoin).bag =
        before.condition.sql.bag + (JoinedTable.list before.join).bag ∧
      clauses.sort = before.sort ∧ clauses.combine = before.combine := by
  rcases traversal_eq_ok h with ⟨-, rfl⟩ | ⟨spec, key, relation, -, -, -, rfl⟩
  · refine ⟨?_, rfl, rfl⟩
    rw [Clauses.usableJoin, if_pos hallow]
  · refine ⟨?_, rfl, rfl⟩
    have hlink (direction : TraversalDirection) {a b : Sql} (ha : a.bag = 0) (hb : b.bag = 0) :
        (Compiler.traversalLink direction a b).bag = 0 := by
      cases direction <;> simp [Compiler.traversalLink, ha, hb]
    have hanchor : (if before.condition.isEmpty then Sql.text "1 = 1"
        else before.condition.sql).bag = before.condition.sql.bag := by
      split
      · rename_i hempty
        simp [List.isEmpty_iff.mp hempty]
      · rfl
    simp only [Clauses.usableJoin, Bool.false_eq_true, if_false, JoinedTable.bag_list_nil,
      SearchText.bag_leaf, bag_comparison, Conventions.bag_column, Sql.bag_parens,
      traversalScript, Sql.bag_append, Sql.bag_text, Sql.bag_clause, hanchor, zero_add, add_zero]
    rw [hlink _ (Conventions.bag_column _ _ _) (Conventions.bag_column _ _ _), add_zero, add_comm]

/-- The comparisons of joined fields bind nothing. -/
theorem joinPredicates_bag {source target : Entity} {kind : JoinKind}
    {fields : List (String × String)} {operator : JoinOperator} {sourceAlias targetAlias : String}
    {on : List SearchText}
    (h : c.joinPredicates source target kind fields operator sourceAlias targetAlias = .ok on) :
    (on.map fun text => text.sql.bag).sum = 0 := by
  obtain ⟨compared, -, -, rfl⟩ := joinPredicates_eq_ok h
  rw [List.map_map]
  apply Sql.sum_bag_eq_zero
  intro pair _
  simp [joinComparison]

theorem joinedTables_placed {sourceAlias : String} {target : Entity} {kind : JoinKind}
    {fields : List (String × String)} {operator : JoinOperator} {projection : List String}
    {sub : Clauses} {condition joining : Predicate} {tables : List JoinedTable}
    (hsort : sub.sort = [])
    (h : Yields (c.joinedTables entity sourceAlias target tableAlias kind fields operator projection
      sub condition) s (tables, joining) t) :
    Issued c s t [] ∧
      joining.text.sql.bag + (JoinedTable.list tables).bag = condition.text.sql.bag + sub.bag := by
  rcases joinedTables_yields h with ⟨hcombine, rfl, on, hon, rfl, rfl⟩ |
    ⟨-, rfl, derivedAlias, projected, on, halias, -, hon, rfl⟩
  · refine ⟨.of_unchanged rfl rfl, ?_⟩
    have hown : (sub.predicate.isEmpty = true) → sub.condition.sql.bag = 0 :=
      Predicate.bag_of_isEmpty (p := sub.predicate)
    have hpredicate : sub.predicate.text = sub.condition := rfl
    rw [JoinedTable.bag_list_cons, JoinedTable.bag_sql, Clauses.bag, hsort, hcombine]
    simp only [JoinedTable.sourceSql, Sql.bag_text, CombinedSelect.bag_list_nil, List.map_nil,
      List.sum_nil, zero_add, add_zero]
    cases hin : sub.allowJoin && kind != .cross with
    | false =>
      simp only [Bool.and_false, Bool.false_eq_true, if_false, Predicate.bag_and, hpredicate,
        joinPredicates_bag hon]
      abel
    | true =>
      cases hempty : sub.predicate.isEmpty with
      | true =>
        simp only [Bool.not_true, Bool.false_and, Bool.false_eq_true, if_false, if_true,
          joinPredicates_bag hon, hown hempty]
      | false =>
        simp only [Bool.not_false, Bool.and_self, if_true, List.map_append, List.map_cons,
          List.map_nil, List.sum_append, List.sum_cons, List.sum_nil, Predicate.bag_operand,
          hpredicate, joinPredicates_bag hon]
        abel
  · refine ⟨freshAlias_issued halias, ?_⟩
    have hunbound := unbound_items c.conventions tableAlias false projected
    rw [JoinedTable.bag_list_cons, JoinedTable.bag_sql, Clauses.bag, hsort]
    simp only [JoinedTable.sourceSql, Sql.bag_parens, Sql.bag_append, Sql.bag_clause,
      bag_plainSelect hunbound, JoinedTable.bag_list_nil, joinPredicates_bag hon, List.map_nil,
      List.sum_nil]
    abel

/-- A comparison with a nested query holds all of its clauses. -/
theorem compareNested_bag (column : Sql) (operator : Operator) (target : NestedTarget)
    (distinct : Bool) (clauses : Clauses) :
    (c.compareNested column operator target tableAlias distinct clauses).text.sql.bag =
      column.bag + clauses.bag := by
  have hunbound : Unbound [⟨c.conventions.column tableAlias target.field, none⟩] := by
    intro item hitem
    rw [List.mem_singleton.mp hitem]
    exact Conventions.bag_column c.conventions tableAlias target.field
  simp only [Compiler.compareNested, Compiler.nestedSelection, Predicate.bag_predicate_leaf,
    bag_comparison, Sql.bag_parens]
  rw [Selection.bag_limited hunbound hunbound, Selection.body, Clauses.bag]
  simp only [Sql.bag_nil, add_zero]
  abel

theorem nestedTarget_limit {operator : Operator} {query : Query} {target : NestedTarget}
    (h : c.nestedTarget operator query = .ok target) :
    target.limit.isSome = nestedSorted operator query := by
  obtain ⟨-, -, -, hlimit⟩ := nestedTarget_eq_ok h
  rw [hlimit, nestedSorted]

/-- A query that is not sorted has no sort items. -/
theorem Query.sort_of_unsorted {query : Query} {fields : List String} {clauses : Clauses}
    (h : Yields (query.clauses c fields tableAlias false) s clauses t) : clauses.sort = [] := by
  obtain ⟨entity, innerAlias, r₁, condition, r₂, sort, r₃, combine, trace, r₄, join, joining, -, -,
    -, hsort, -, -, htraversal⟩ := Query.clauses_yields h
  obtain ⟨-, hsortEq, -⟩ := traversal_bag rfl htraversal
  rw [hsortEq]
  exact (yields_pure.mp hsort).1.symm

theorem combinedItems_unbound {parent target : Entity} {fields : List String}
    {items : List SelectItem} (h : c.combinedItems parent target fields tableAlias = .ok items) :
    Unbound items := by
  simp only [Compiler.combinedItems, except_bind_eq_ok] at h
  obtain ⟨projected, -, h⟩ := h
  cases h
  exact unbound_items c.conventions tableAlias false projected

/-- The bindings of a comparison that is neither with a nested query nor with a collection. -/
theorem Criterion.bindings_of_isScalar {property : String} {operator : Operator} {value : Value}
    {conversion : Option Conversion} (hscalar : value.IsScalar)
    (htakes : operator.takesOperand = true) :
    Criterion.bindings ⟨property, operator, value, conversion⟩ =
      conversionBindings property true conversion ++
        [.input property (scalarOperand operator value)] := by
  cases value <;> first
    | exact hscalar.elim
    | simp [Criterion.bindings_eq, writesColumn, htakes]

end Parts

mutual
theorem Query.clauses_placed {c : Compiler} (query : Query) {fields : List String}
    {tableAlias : String} {sorted : Bool} {s t : Scope} {clauses : Clauses}
    (h : Yields (query.clauses c fields tableAlias sorted) s clauses t) :
    ClausesPlaced c query sorted s t clauses := by
  obtain ⟨entity, innerAlias, r₁, condition, r₂, sort, r₃, combine, trace, r₄, join, joining, -,
    halias, hcondition, hsort, hcombine, hjoin, htraversal⟩ := Query.clauses_yields h
  obtain ⟨name, conditions, sorts, joins, combines, recursion, rest⟩ := query
  obtain ⟨pcondition, hpcondition, hconditionBag⟩ := foldEntries_placed conditions hcondition
  have hpsort := sortClause_placed hsort
  have hpcombine := combinedSelects_placed combines hcombine
  obtain ⟨pjoin, hpjoin, hjoinBag⟩ := joinTables_placed joins hjoin
  obtain ⟨hrows, hsortEq, hcombineEq⟩ := traversal_bag rfl htraversal
  -- each part is numbered from where the part before it ends
  have hr₁ : r₁.nextNumber = s.nextNumber := (traversalAlias_issued (c := c) halias).nextNumber
  have hr₂ := hr₁ ▸ hpcondition.nextNumber
  have hr₃ := hr₂ ▸ hpsort.nextNumber
  have hr₄ := hr₃ ▸ hpcombine.nextNumber
  constructor
  · have := (((traversalAlias_issued halias).append hpcondition.toIssued).append
      hpsort.toIssued).append (hpcombine.toIssued.append hpjoin.toIssued)
    simpa [Query.bindings_eq] using this
  · rw [hrows, hjoinBag, hconditionBag, hpcondition.bag_eq, hpjoin.bag_eq, hr₁, hr₄]
    simp only [SearchText.sql_nil, Sql.bag_nil, zero_add, List.length_append, Nat.add_assoc]
  · rw [hsortEq, hpsort.bag_eq, hr₂]
  · rw [hcombineEq, hpcombine.bag_eq, hr₃, List.length_append, Nat.add_assoc]
termination_by structural query

theorem foldEntries_placed {c : Compiler} (entries : List ConditionEntry) {entity : Entity}
    {tableAlias : String} {before p : Predicate} {s t : Scope}
    (h : Yields (foldEntries c entity tableAlias before entries) s p t) :
    ∃ bag, Placed c s t (entryBindings entries) bag ∧
      p.text.sql.bag = before.text.sql.bag + bag := by
  cases entries with
  | nil =>
    obtain ⟨rfl, rfl⟩ := foldEntries_nil_yields.mp h
    exact ⟨0, .refl, (add_zero _).symm⟩
  | cons entry rest =>
    obtain ⟨q, r, hq, hrest⟩ := foldEntries_cons_yields.mp h
    obtain ⟨connector, condition⟩ := entry
    have hfirst := Condition.predicate_placed condition hq
    obtain ⟨bag, hbag, heq⟩ := foldEntries_placed rest hrest
    refine ⟨q.text.sql.bag + bag, hfirst.append hbag, ?_⟩
    rw [heq, Predicate.bag_extend, add_assoc]
termination_by structural entries

theorem Condition.predicate_placed {c : Compiler} (condition : Condition) {entity : Entity}
    {tableAlias : String} {p : Predicate} {s t : Scope}
    (h : Yields (condition.predicate c entity tableAlias) s p t) :
    Placed c s t condition.bindings p.text.sql.bag := by
  cases condition with
  | constant holds =>
    obtain ⟨rfl, rfl⟩ := predicate_constant_yields.mp h
    simp only [Predicate.constant, Predicate.bag_predicate_leaf, Sql.bag_text]
    exact .refl
  | criterion criterion =>
    exact Criterion.predicate_placed criterion (predicate_criterion_yields.mp h)
  | group entries =>
    match entries with
    | [⟨connector, only⟩] =>
      have hbindings : (Condition.group [⟨connector, only⟩]).bindings = only.bindings := by
        simp [Condition.bindings, entryBindings]
      rw [hbindings]
      exact Condition.predicate_placed only (predicate_group_one_yields.mp h)
    | [] =>
      obtain ⟨q, hq, rfl⟩ := (predicate_group_yields (by simp)).mp h
      obtain ⟨rfl, rfl⟩ := foldEntries_nil_yields.mp hq
      exact .refl
    | ⟨connector, condition⟩ :: second :: rest =>
      obtain ⟨q, hq, rfl⟩ := (predicate_group_yields (by simp)).mp h
      obtain ⟨p, r, hp, hrest⟩ := foldEntries_cons_yields.mp hq
      have hfirst := Condition.predicate_placed condition hp
      obtain ⟨bag, hbag, heq⟩ := foldEntries_placed (second :: rest) hrest
      have hbindings : (Condition.group (⟨connector, condition⟩ :: second :: rest)).bindings =
          condition.bindings ++ entryBindings (second :: rest) := rfl
      rw [hbindings, Predicate.bag_grouped, heq, Predicate.bag_extend]
      simpa using hfirst.append hbag
termination_by structural condition

theorem Criterion.predicate_placed {c : Compiler} (criterion : Criterion) {entity : Entity}
    {tableAlias : String} {p : Predicate} {s t : Scope}
    (h : Yields (criterion.predicate c entity tableAlias) s p t) :
    Placed c s t criterion.bindings p.text.sql.bag := by
  obtain ⟨field, column, r, -, hcolumn, hcases⟩ := Criterion.predicate_yields h
  obtain ⟨property, operator, value, conversion⟩ := criterion
  dsimp only at hcolumn hcases
  have hplaced (written : Bool) := convert_placed written
    (Conventions.bag_column c.conventions tableAlias field) hcolumn
  rcases hcases with ⟨htakes, rfl, rfl⟩ | ⟨htakes, hcases⟩
  · have hwrites : writesColumn operator value = true := by
      cases value <;> simp [writesColumn, htakes]
    simpa [Criterion.bindings_eq, hwrites, htakes] using hplaced true
  · cases value with
    | subquery query =>
      rcases hcases with ⟨query', target, nestedAlias, r', clauses, hvalue, htarget, halias,
        hclauses, rfl⟩ | ⟨items, hvalue, -⟩ | ⟨hscalar, -⟩
      · have hquery : query' = query := (Value.subquery.inj hvalue).symm
        rw [hquery] at hclauses htarget
        have hnested := (Query.clauses_placed query hclauses).placed
        rw [nestedTarget_limit htarget] at hnested
        rw [compareNested_bag]
        have := (hplaced true).append (hnested.after (freshAlias_issued halias))
        simpa [Criterion.bindings_eq, htakes, writesColumn] using this
      · cases hvalue
      · exact hscalar.elim
    | collection items =>
      rcases hcases with ⟨query', target, nestedAlias, r', clauses, hvalue, -⟩ |
        ⟨items', hvalue, hcompare⟩ | ⟨hscalar, -⟩
      · cases hvalue
      · cases hvalue
        obtain ⟨bag, hbag, heq⟩ := compareCollection_placed hcompare
        -- an empty collection loses the column, and with it the operand of the conversion
        have := (hplaced (!items.isEmpty)).append hbag
        rw [heq]
        cases hempty : items.isEmpty with
        | true => simpa [Criterion.bindings_eq, htakes, writesColumn, hempty] using this
        | false => simpa [Criterion.bindings_eq, htakes, writesColumn, hempty] using this
      · exact hscalar.elim
    | _ =>
      rcases hcases with ⟨query', target, nestedAlias, r', clauses, hvalue, -⟩ |
        ⟨items', hvalue, -⟩ | ⟨hscalar, hcompare⟩
      · cases hvalue
      · cases hvalue
      · obtain ⟨bag, hbag, heq⟩ := compareScalar_placed hcompare
        rw [Criterion.bindings_of_isScalar hscalar htakes, heq]
        exact (hplaced true).append hbag
termination_by structural criterion

theorem combinedSelects_placed {c : Compiler} (combines : List Combine) {entity : Entity}
    {fields : List String} {combine : List CombinedSelect} {trace : Trace} {s t : Scope}
    (h : Yields (combinedSelects c entity fields combines) s (combine, trace) t) :
    Placed c s t (combineBindings combines) (CombinedSelect.list combine).bag := by
  cases combines with
  | nil =>
    obtain ⟨rfl, -, rfl⟩ := combinedSelects_nil_yields.mp h
    exact .refl
  | cons first rest =>
    obtain ⟨nestedAlias, r₁, target, sub, r₂, items, others, restTrace, halias, -, hsub, hitems,
      hrest, rfl, -⟩ := combinedSelects_cons_yields h
    obtain ⟨kind, query⟩ := first
    have hfirst := (Query.clauses_placed query hsub).placed.after (freshAlias_issued halias)
    have hrestPlaced := combinedSelects_placed rest hrest
    have hitemsUnbound := combinedItems_unbound hitems
    have hselect : (CombinedSelect.sql ⟨kind, items, c.table target, nestedAlias, sub.usableJoin,
        sub.condition⟩).bag = (JoinedTable.list sub.usableJoin).bag + sub.condition.sql.bag := by
      simp [CombinedSelect.sql, bag_plainSelect hitemsUnbound]
    have hbag : (CombinedSelect.list (⟨kind, items, c.table target, nestedAlias, sub.usableJoin,
        sub.condition⟩ :: sub.combine ++ others)).bag =
          sub.bag + (CombinedSelect.list others).bag := by
      rw [List.cons_append, CombinedSelect.bag_list_cons, CombinedSelect.bag_list_append, hselect,
        Clauses.bag, Query.sort_of_unsorted hsub, List.map_nil, List.sum_nil]
      abel
    rw [hbag]
    exact hfirst.append hrestPlaced
termination_by structural combines

theorem joinTables_placed {c : Compiler} (joins : List Join) {entity : Entity}
    {tableAlias : String} {condition joining : Predicate} {join : List JoinedTable} {s t : Scope}
    (h : Yields (joinTables c entity tableAlias condition joins) s (join, joining) t) :
    ∃ bag, Placed c s t (joinBindings joins) bag ∧
      joining.text.sql.bag + (JoinedTable.list join).bag = condition.text.sql.bag + bag := by
  cases joins with
  | nil =>
    obtain ⟨rfl, rfl, rfl⟩ := joinTables_nil_yields.mp h
    exact ⟨0, .refl, rfl⟩
  | cons first rest =>
    obtain ⟨nestedAlias, r₁, target, sub, r₂, tables, between, r₃, others, halias, -, hsub, htables,
      hrest, rfl⟩ := joinTables_cons_yields h
    obtain ⟨kind, fields, operator, query⟩ := first
    have hfirst := (Query.clauses_placed query hsub).placed.after (freshAlias_issued halias)
    obtain ⟨htablesIssued, htablesBag⟩ := joinedTables_placed (Query.sort_of_unsorted hsub) htables
    obtain ⟨bag, hbag, heq⟩ := joinTables_placed rest hrest
    refine ⟨sub.bag + bag, hfirst.append (hbag.after htablesIssued), ?_⟩
    rw [JoinedTable.bag_list_append, add_left_comm, heq, ← add_assoc,
      add_comm _ between.text.sql.bag, htablesBag, add_assoc]
termination_by structural joins
end

end QueryLoom
