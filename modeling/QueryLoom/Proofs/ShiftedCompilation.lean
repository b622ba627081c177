import QueryLoom.Proofs.Correspondence
import QueryLoom.Proofs.Renumbering

/-!
# Compilation from another number on

A compilation that starts some numbers further on fails alike, or answers the same with its
placeholders numbered further on.

## Implementation notes

The names of the parameters are no part of this: two properties may share a name at one number and
not at another. No compilation looks at the parameters that it has handed out.
-/

namespace QueryLoom

/-- A scope stands some numbers further on than another one, with the same next alias. -/
def Scope.Ahead (k : Nat) (s t : Scope) : Prop :=
  t.nextNumber = s.nextNumber + k ∧ t.nextAlias = s.nextAlias

/-- A computation does, some numbers further on, what another one does, with its answer
renumbered. -/
def Shifts {α : Type} (k : Nat) (renumber : α → α) (m n : Compile α) : Prop :=
  Corresponds (Scope.Ahead k) (fun a b => b = renumber a) m n

variable {c : Compiler} {k : Nat} {α β : Type}

section Rules

variable {f : α → α} {g : β → β}

theorem shifts_pure {a b : α} (h : b = f a) : Shifts k f (pure a) (pure b) :=
  corresponds_pure h

theorem shifts_throw (e : Error) : Shifts k f (throw e) (throw e) := corresponds_throw e

theorem shifts_liftM (x : Except Error α) : Shifts k id (liftM x) (liftM x) :=
  corresponds_liftM (Agree.refl (R := fun a b => b = id a) (fun _ => rfl) x)

theorem shifts_liftM_map {x y : Except Error α} (h : y = x.map f) :
    Shifts k f (liftM x) (liftM y) := by
  subst h
  exact corresponds_liftM (Agree.map_right f x)

theorem Shifts.bind {m n : Compile α} {next next' : α → Compile β} (h : Shifts k f m n)
    (hnext : ∀ a, Shifts k g (next a) (next' (f a))) :
    Shifts k g (m >>= next) (n >>= next') := by
  refine Corresponds.bind h ?_
  rintro a _ rfl
  exact hnext a

theorem Shifts.mapM {m n : α → Compile β} (h : ∀ a, Shifts k g (m a) (n a)) (xs : List α) :
    Shifts k (List.map g) (xs.mapM m) (xs.mapM n) := by
  have hsame : List.Forall₂ Eq xs xs := List.forall₂_same.mpr fun _ _ => rfl
  have hmap : Corresponds (Scope.Ahead k) (List.Forall₂ fun a b => b = g a)
      (xs.mapM m) (xs.mapM n) := by
    refine Corresponds.mapM hsame ?_
    rintro x _ rfl
    exact h x
  refine hmap.mono fun as bs hbs => ?_
  induction hbs with
  | nil => rfl
  | cons hfirst _ ih => rw [hfirst, ih, List.map_cons]

end Rules

/-! ## Parameters and aliases -/

theorem freshAlias_shifts : Shifts k id freshAlias freshAlias := by
  rintro s t ⟨hnumber, halias⟩
  refine .ok ⟨?_, hnumber, ?_⟩
  · show "TSB" ++ toString t.nextAlias = "TSB" ++ toString s.nextAlias
    rw [halias]
  · show t.nextAlias + 1 = s.nextAlias + 1
    rw [halias]

/-- The next placeholder of a property is the same one, numbered further on, whatever is bound. -/
theorem placeholder_shifts {property : String} {m : Compile Sql} {bound : Scope → Parameters}
    (hrun : ∀ s : Scope, m.run.run s = (.ok (Sql.placeholder property s.nextNumber),
      { s with parameters := bound s, nextNumber := s.nextNumber + 1 })) :
    Shifts k (Sql.shift k) m m := by
  rintro s t ⟨hnumber, halias⟩
  rw [hrun s, hrun t]
  have hplaceholder : Sql.placeholder property t.nextNumber =
      (Sql.placeholder property s.nextNumber).shift k := by
    rw [hnumber, Sql.shift_placeholder]
  have hnext : t.nextNumber + 1 = s.nextNumber + 1 + k := by omega
  exact .ok ⟨hplaceholder, hnext, halias⟩

theorem bind_shifts (property : String) (value : Value) :
    Shifts k (Sql.shift k) (c.bind property value) (c.bind property value) :=
  placeholder_shifts fun _ => rfl

theorem bindOutput_shifts (property : String) :
    Shifts k (Sql.shift k) (Compiler.bindOutput property) (Compiler.bindOutput property) :=
  placeholder_shifts fun _ => rfl

/-! ## Comparisons and sorts -/

theorem convert_shifts (column : Sql) (property : String) (conversion : Option Conversion) :
    Shifts k (Sql.shift k) (c.convert column property conversion)
      (c.convert (column.shift k) property conversion) := by
  rcases conversion with _ | ⟨function⟩ | ⟨function, path⟩ | ⟨function, value⟩
  · exact shifts_pure rfl
  · exact shifts_pure (by simp)
  · exact shifts_pure (by simp)
  · cases hform : function.form with
    | infixed symbol =>
      simp only [Compiler.convert, hform]
      refine (bind_shifts property value).bind fun operand => ?_
      exact shifts_pure (by simp)
    | called keyword =>
      simp only [Compiler.convert, hform]
      refine (bind_shifts property value).bind fun operand => ?_
      exact shifts_pure (by simp)
    | unsupported feature =>
      simp only [Compiler.convert, hform]
      exact shifts_throw _

theorem sortItems_shifts (entity : Entity) (tableAlias : String) (keys : List SortKey) :
    Shifts k (List.map (Sql.shift k)) (c.sortItems entity tableAlias keys)
      (c.sortItems entity tableAlias keys) := by
  unfold Compiler.sortItems
  refine Shifts.mapM (fun key => ?_) keys
  refine (shifts_liftM (entity.field key.field)).bind fun field => ?_
  refine (convert_shifts (c.conventions.column tableAlias field) key.field key.conversion).bind
    fun column => ?_
  exact shifts_pure (by simp)

theorem compareCollection_shifts (entity : Entity) (property : String) (column : Sql)
    (operator : Operator) (items : List Value) :
    Shifts k (Predicate.shift k) (c.compareCollection entity property column operator items)
      (c.compareCollection entity property (column.shift k) operator items) := by
  unfold Compiler.compareCollection
  split
  · exact shifts_throw _
  · split
    · exact shifts_pure (by simp)
    · split
      · refine (bind_shifts property (.collection items)).bind fun operand => ?_
        exact shifts_pure (by simp)
      · refine (Shifts.mapM (bind_shifts property) items).bind fun operands => ?_
        exact shifts_pure (by simp)

theorem compareScalar_shifts (property : String) (column : Sql) (operator : Operator)
    (value : Value) :
    Shifts k (Predicate.shift k) (c.compareScalar property column operator value)
      (c.compareScalar property (column.shift k) operator value) := by
  unfold Compiler.compareScalar
  split
  · refine (bind_shifts property value).bind fun operand => ?_
    exact shifts_pure (by simp)
  · refine (bind_shifts property _).bind fun operand => ?_
    exact shifts_pure (by simp)

/-! ## Clauses -/

/-- Joins with their placeholders numbered further on, and the condition behind them. -/
def shiftJoined (k : Nat) (joined : List JoinedTable × Predicate) : List JoinedTable × Predicate :=
  (joined.1.map (JoinedTable.shift k), joined.2.shift k)

/-- Set operations with their placeholders numbered further on, and their traversals. -/
def shiftCombined (k : Nat) (combined : List CombinedSelect × Trace) :
    List CombinedSelect × Trace :=
  (combined.1.map (CombinedSelect.shift k), combined.2.shift k)

theorem traversalAlias_shifts (recursion : Option Recursion) (tableAlias : String) :
    Shifts k id (traversalAlias recursion tableAlias) (traversalAlias recursion tableAlias) := by
  unfold traversalAlias
  split
  · exact freshAlias_shifts
  · exact shifts_pure rfl

theorem sortClause_shifts (entity : Entity) (tableAlias : String) (sorted : Bool)
    (keys : List SortKey) :
    Shifts k (List.map (Sql.shift k)) (sortClause c entity tableAlias sorted keys)
      (sortClause c entity tableAlias sorted keys) := by
  unfold sortClause
  split
  · exact sortItems_shifts entity tableAlias keys
  · exact shifts_pure rfl

/-- The comparisons of joined fields hold no placeholders. -/
theorem joinPredicates_shifts {source target : Entity} {kind : JoinKind}
    {fields : List (String × String)} {operator : JoinOperator}
    {sourceAlias targetAlias : String} :
    Shifts k (List.map (SearchText.shift k))
      (liftM (c.joinPredicates source target kind fields operator sourceAlias targetAlias))
      (liftM (c.joinPredicates source target kind fields operator sourceAlias targetAlias)) := by
  apply shifts_liftM_map
  cases h : c.joinPredicates source target kind fields operator sourceAlias targetAlias with
  | error e => rfl
  | ok on =>
    obtain ⟨compared, -, -, rfl⟩ := joinPredicates_eq_ok h
    simp [Except.map, joinComparison]

theorem joinedTables_shifts (source : Entity) (sourceAlias : String) (target : Entity)
    (tableAlias : String) (kind : JoinKind) (fields : List (String × String))
    (operator : JoinOperator) (projection : List String) (sub : Clauses) (condition : Predicate) :
    Shifts k (shiftJoined k)
      (c.joinedTables source sourceAlias target tableAlias kind fields operator projection sub
        condition)
      (c.joinedTables source sourceAlias target tableAlias kind fields operator projection
        (sub.shift k) (condition.shift k)) := by
  have hcombine : (sub.shift k).combine.isEmpty = sub.combine.isEmpty := List.isEmpty_map
  have hallow : (sub.shift k).allowJoin = sub.allowJoin := rfl
  unfold Compiler.joinedTables
  rw [hcombine]
  split
  · refine joinPredicates_shifts.bind fun on => ?_
    apply shifts_pure
    simp only [hallow, ← Clauses.shift_predicate, ← Clauses.shift_usableJoin,
      Predicate.isEmpty_shift, ← Predicate.shift_operand]
    cases sub.allowJoin && kind != .cross <;> cases sub.predicate.isEmpty <;>
      simp [shiftJoined, JoinedTable.shift, JoinedTable.shiftSource]
  · refine freshAlias_shifts.bind fun derivedAlias => ?_
    refine (shifts_liftM _).bind fun projected => ?_
    refine joinPredicates_shifts.bind fun on => ?_
    apply shifts_pure
    simp only [shiftJoined, List.map_cons, List.map_nil, JoinedTable.shift, JoinedTable.shiftSource,
      Sql.shift_append, Sql.shift_clause, shift_plainSelect, CombinedSelect.shift_list,
      Conventions.shift_items, Clauses.shift_usableJoin]
    rfl

/-- The items of a set operation hold no placeholders. -/
theorem combinedItems_shifts (parent target : Entity) (fields : List String)
    (tableAlias : String) :
    Shifts k (List.map (SelectItem.shift k))
      (liftM (c.combinedItems parent target fields tableAlias))
      (liftM (c.combinedItems parent target fields tableAlias)) := by
  apply shifts_liftM_map
  cases h : c.combinedItems parent target fields tableAlias with
  | error e => rfl
  | ok items =>
    simp only [Compiler.combinedItems, except_bind_eq_ok] at h
    obtain ⟨projected, -, h⟩ := h
    cases h
    exact congrArg Except.ok (Conventions.shift_items _ k _ _ projected).symm

/-- A predicate with more traversals behind its own. -/
theorem Predicate.shift_traced (k : Nat) (p : Predicate) (trace : Trace) :
    ({ p with trace := p.trace ++ trace } : Predicate).shift k =
      { p.shift k with trace := (p.shift k).trace ++ trace.shift k } := by
  simp [Predicate.shift]

mutual
/-- The clauses of a query, some numbers further on. -/
theorem Query.clauses_shifts {c : Compiler} {k : Nat} (query : Query) (fields : List String)
    (tableAlias : String) (sorted : Bool) :
    Shifts k (Clauses.shift k) (query.clauses c fields tableAlias sorted)
      (query.clauses c fields tableAlias sorted) := by
  rw [Query.clauses_eq]
  obtain ⟨name, conditions, sorts, joins, combines, recursion, rest⟩ := query
  refine (shifts_liftM _).bind fun entity => ?_
  refine (traversalAlias_shifts recursion tableAlias).bind fun innerAlias => ?_
  refine (foldEntries_shifts conditions entity innerAlias {}).bind fun condition => ?_
  refine (sortClause_shifts entity tableAlias sorted sorts).bind fun sort => ?_
  refine (combinedSelects_shifts combines entity fields).bind fun combined => ?_
  have hjoin : Shifts k _ _ _ := joinTables_shifts (c := c) joins entity innerAlias
    { condition with trace := condition.trace ++ combined.2 }
  rw [Predicate.shift_traced] at hjoin
  refine hjoin.bind fun joined => ?_
  exact shifts_liftM_map (shift_traversal k entity tableAlias innerAlias
    { condition := joined.2.text, hasOr := joined.2.hasOr, sort, join := joined.1,
      combine := combined.1, allowJoin := true, trace := joined.2.trace } recursion)
termination_by structural query

/-- The predicate of a list of conditions, some numbers further on. -/
theorem foldEntries_shifts {c : Compiler} {k : Nat} (entries : List ConditionEntry)
    (entity : Entity) (tableAlias : String) (before : Predicate) :
    Shifts k (Predicate.shift k) (foldEntries c entity tableAlias before entries)
      (foldEntries c entity tableAlias (before.shift k) entries) := by
  cases entries with
  | nil =>
    rw [foldEntries, foldEntries]
    exact shifts_pure rfl
  | cons entry rest =>
    obtain ⟨connector, condition⟩ := entry
    rw [foldEntries, foldEntries]
    refine (Condition.predicate_shifts condition entity tableAlias).bind fun p => ?_
    rw [← Predicate.shift_extend]
    exact foldEntries_shifts rest entity tableAlias _
termination_by structural entries

theorem Condition.predicate_shifts {c : Compiler} {k : Nat} (condition : Condition)
    (entity : Entity) (tableAlias : String) :
    Shifts k (Predicate.shift k) (condition.predicate c entity tableAlias)
      (condition.predicate c entity tableAlias) := by
  cases condition with
  | constant holds =>
    rw [Condition.predicate]
    exact shifts_pure (Predicate.shift_constant k holds).symm
  | criterion criterion =>
    rw [Condition.predicate]
    exact Criterion.predicate_shifts criterion entity tableAlias
  | group entries =>
    match entries with
    | [⟨connector, only⟩] =>
      rw [Condition.predicate]
      exact Condition.predicate_shifts only entity tableAlias
    | [] =>
      exact shifts_pure rfl
    | ⟨connector, first⟩ :: second :: rest =>
      rw [Condition.predicate, foldEntries]
      · refine Shifts.bind ?_ fun p => shifts_pure (Predicate.shift_grouped k p).symm
        refine (Condition.predicate_shifts first entity tableAlias).bind fun p => ?_
        rw [← Predicate.shift_empty k, ← Predicate.shift_extend]
        exact foldEntries_shifts (second :: rest) entity tableAlias _
      · exact fun _ _ heq => by cases heq
termination_by structural condition

theorem Criterion.predicate_shifts {c : Compiler} {k : Nat} (criterion : Criterion)
    (entity : Entity) (tableAlias : String) :
    Shifts k (Predicate.shift k) (criterion.predicate c entity tableAlias)
      (criterion.predicate c entity tableAlias) := by
  rw [Criterion.predicate_eq]
  obtain ⟨property, operator, value, conversion⟩ := criterion
  refine (shifts_liftM _).bind fun field => ?_
  refine (convert_shifts _ property conversion).bind fun column => ?_
  dsimp only
  split
  · exact shifts_pure (by simp)
  · cases value with
    | subquery query =>
      refine (shifts_liftM _).bind fun target => ?_
      refine freshAlias_shifts.bind fun nestedAlias => ?_
      refine (Query.clauses_shifts query [target.property] nestedAlias _).bind fun clauses => ?_
      exact shifts_pure (Compiler.shift_compareNested k _ _ _ _ _ _).symm
    | collection items => exact compareCollection_shifts entity property column operator items
    | _ => exact compareScalar_shifts property column operator _
termination_by structural criterion

theorem combinedSelects_shifts {c : Compiler} {k : Nat} (combines : List Combine)
    (parent : Entity) (fields : List String) :
    Shifts k (shiftCombined k) (combinedSelects c parent fields combines)
      (combinedSelects c parent fields combines) := by
  cases combines with
  | nil =>
    rw [combinedSelects]
    exact shifts_pure rfl
  | cons first rest =>
    obtain ⟨kind, query⟩ := first
    rw [combinedSelects]
    refine freshAlias_shifts.bind fun nestedAlias => ?_
    refine (shifts_liftM _).bind fun target => ?_
    refine (Query.clauses_shifts query query.fields nestedAlias false).bind fun sub => ?_
    refine (combinedItems_shifts parent target fields nestedAlias).bind fun items => ?_
    refine (combinedSelects_shifts rest parent fields).bind fun others => ?_
    apply shifts_pure
    simp only [shiftCombined, List.map_append, List.map_cons, CombinedSelect.shift,
      Clauses.shift_usableJoin, Trace.shift_append]
    rfl
termination_by structural combines

theorem joinTables_shifts {c : Compiler} {k : Nat} (joins : List Join) (source : Entity)
    (sourceAlias : String) (condition : Predicate) :
    Shifts k (shiftJoined k) (joinTables c source sourceAlias condition joins)
      (joinTables c source sourceAlias (condition.shift k) joins) := by
  cases joins with
  | nil =>
    rw [joinTables, joinTables]
    exact shifts_pure rfl
  | cons first rest =>
    obtain ⟨kind, fields, operator, query⟩ := first
    rw [joinTables, joinTables]
    refine freshAlias_shifts.bind fun nestedAlias => ?_
    refine (shifts_liftM _).bind fun target => ?_
    refine (Query.clauses_shifts query query.fields nestedAlias false).bind fun sub => ?_
    have htables : Shifts k _ _ _ := joinedTables_shifts (c := c) source sourceAlias target
      nestedAlias kind fields operator query.fields sub
      { condition with trace := condition.trace ++ sub.trace }
    rw [Predicate.shift_traced] at htables
    refine htables.bind fun tables => ?_
    refine (joinTables_shifts rest source sourceAlias tables.2).bind fun others => ?_
    apply shifts_pure
    simp [shiftJoined]
termination_by structural joins
end

end QueryLoom
