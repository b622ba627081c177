import QueryLoom.Proofs.Compilation
import QueryLoom.Proofs.ParameterNames

/-!
# Aliases of nested tables

Aliases are handed out in order and never twice: a compilation leaves the next alias where it is or
further on, and what it hands out lies between.
-/

namespace QueryLoom

/-- The alias of a nested table. -/
def nestedAlias (number : Nat) : String := "TSB" ++ toString number

theorem nestedAlias_inj {m n : Nat} (h : nestedAlias m = nestedAlias n) : m = n := by
  have hlists := congrArg String.toList h
  simp only [nestedAlias, String.toList_append, Nat.toString_eq_repr] at hlists
  exact Nat.repr_inj.mp (String.toList_inj.mp (List.append_cancel_left hlists))

/-- The alias of the outermost table is no alias of a nested one. -/
theorem nestedAlias_ne_rootAlias (number : Nat) : nestedAlias number ≠ rootAlias := by
  intro h
  have hlists := congrArg String.toList h
  simp [nestedAlias, rootAlias] at hlists

/-- An alias that was handed out, and the scope behind it. -/
theorem freshAlias_yields_nestedAlias {tableAlias : String} {s t : Scope}
    (h : Yields freshAlias s tableAlias t) :
    tableAlias = nestedAlias s.nextAlias ∧ t.nextAlias = s.nextAlias + 1 := by
  obtain ⟨rfl, rfl⟩ := freshAlias_yields.mp h
  exact ⟨rfl, rfl⟩

/-- A computation that leaves the next alias where it is or further on. -/
def Advances {α : Type} (m : Compile α) : Prop :=
  ∀ (s : Scope) (a : α) (t : Scope), Yields m s a t → s.nextAlias ≤ t.nextAlias

variable {c : Compiler} {α β : Type}

section Rules

theorem advances_pure (a : α) : Advances (pure a) := by
  intro s b t h
  obtain ⟨-, rfl⟩ := yields_pure.mp h
  exact Nat.le_refl _

theorem advances_throw (e : Error) : Advances (throw e : Compile α) :=
  fun _ _ _ h => absurd h not_yields_throw

theorem advances_liftM (x : Except Error α) : Advances (liftM x) := by
  intro s b t h
  obtain ⟨-, rfl⟩ := yields_liftM.mp h
  exact Nat.le_refl _

theorem Advances.bind {m : Compile α} {next : α → Compile β} (h : Advances m)
    (hnext : ∀ a, Advances (next a)) : Advances (m >>= next) := by
  intro s b t hrun
  obtain ⟨a, r, hfirst, hrest⟩ := yields_bind.mp hrun
  exact Nat.le_trans (h s a r hfirst) (hnext a r b t hrest)

theorem Advances.mapM {m : α → Compile β} (h : ∀ a, Advances (m a)) (xs : List α) :
    Advances (xs.mapM m) := by
  induction xs with
  | nil => exact advances_pure []
  | cons first rest ih =>
    rw [List.mapM_cons]
    exact (h first).bind fun b => ih.bind fun bs => advances_pure _

end Rules

/-! ## Comparisons and sorts -/

theorem freshAlias_advances : Advances freshAlias := by
  intro s tableAlias t h
  rw [(freshAlias_yields_nestedAlias h).2]
  exact Nat.le_succ _

theorem bind_advances (property : String) (value : Value) : Advances (c.bind property value) := by
  intro s sql t h
  obtain ⟨-, rfl⟩ := Compiler.bind_yields.mp h
  exact Nat.le_refl _

theorem convert_advances (column : Sql) (property : String) (conversion : Option Conversion) :
    Advances (c.convert column property conversion) := by
  unfold Compiler.convert
  split
  · exact advances_pure _
  · exact advances_pure _
  · exact advances_pure _
  · split
    · exact (bind_advances property _).bind fun operand => advances_pure _
    · exact (bind_advances property _).bind fun operand => advances_pure _
    · exact advances_throw _

theorem sortClause_advances (entity : Entity) (tableAlias : String) (sorted : Bool)
    (keys : List SortKey) : Advances (sortClause c entity tableAlias sorted keys) := by
  unfold sortClause
  split
  · refine Advances.mapM (fun key => ?_) keys
    refine (advances_liftM _).bind fun field => ?_
    exact (convert_advances _ _ _).bind fun column => advances_pure _
  · exact advances_pure _

theorem compareCollection_advances (entity : Entity) (property : String) (column : Sql)
    (operator : Operator) (items : List Value) :
    Advances (c.compareCollection entity property column operator items) := by
  unfold Compiler.compareCollection
  split
  · exact advances_throw _
  · split
    · exact advances_pure _
    · split
      · exact (bind_advances property _).bind fun operand => advances_pure _
      · exact (Advances.mapM (bind_advances property) items).bind fun operands => advances_pure _

theorem compareScalar_advances (property : String) (column : Sql) (operator : Operator)
    (value : Value) : Advances (c.compareScalar property column operator value) := by
  unfold Compiler.compareScalar
  split
  · exact (bind_advances property _).bind fun operand => advances_pure _
  · exact (bind_advances property _).bind fun operand => advances_pure _

/-! ## Clauses -/

theorem traversalAlias_advances (recursion : Option Recursion) (tableAlias : String) :
    Advances (traversalAlias recursion tableAlias) := by
  unfold traversalAlias
  split
  · exact freshAlias_advances
  · exact advances_pure _

theorem joinedTables_advances (source : Entity) (sourceAlias : String) (target : Entity)
    (tableAlias : String) (kind : JoinKind) (fields : List (String × String))
    (operator : JoinOperator) (projection : List String) (sub : Clauses) (condition : Predicate) :
    Advances (c.joinedTables source sourceAlias target tableAlias kind fields operator projection
      sub condition) := by
  unfold Compiler.joinedTables
  dsimp only
  split
  · exact (advances_liftM _).bind fun on => advances_pure _
  · refine freshAlias_advances.bind fun derivedAlias => ?_
    refine (advances_liftM _).bind fun projected => ?_
    exact (advances_liftM _).bind fun on => advances_pure _

mutual
/-- The clauses of a query never take an alias back. -/
theorem Query.clauses_advances {c : Compiler} (query : Query) (fields : List String)
    (tableAlias : String) (sorted : Bool) :
    Advances (query.clauses c fields tableAlias sorted) := by
  rw [Query.clauses_eq]
  obtain ⟨name, conditions, sorts, joins, combines, recursion, rest⟩ := query
  refine (advances_liftM _).bind fun entity => ?_
  refine (traversalAlias_advances recursion tableAlias).bind fun innerAlias => ?_
  refine (foldEntries_advances conditions entity innerAlias {}).bind fun condition => ?_
  refine (sortClause_advances entity tableAlias sorted sorts).bind fun sort => ?_
  refine (combinedSelects_advances combines entity fields).bind fun combined => ?_
  refine (joinTables_advances joins entity innerAlias _).bind fun joined => ?_
  exact advances_liftM _
termination_by structural query

theorem foldEntries_advances {c : Compiler} (entries : List ConditionEntry) (entity : Entity)
    (tableAlias : String) (before : Predicate) :
    Advances (foldEntries c entity tableAlias before entries) := by
  cases entries with
  | nil => exact advances_pure _
  | cons entry rest =>
    obtain ⟨connector, condition⟩ := entry
    rw [foldEntries]
    refine (Condition.predicate_advances condition entity tableAlias).bind fun p => ?_
    exact foldEntries_advances rest entity tableAlias _
termination_by structural entries

theorem Condition.predicate_advances {c : Compiler} (condition : Condition) (entity : Entity)
    (tableAlias : String) : Advances (condition.predicate c entity tableAlias) := by
  cases condition with
  | constant holds => exact advances_pure _
  | criterion criterion =>
    rw [Condition.predicate]
    exact Criterion.predicate_advances criterion entity tableAlias
  | group entries =>
    match entries with
    | [⟨connector, only⟩] =>
      rw [Condition.predicate]
      exact Condition.predicate_advances only entity tableAlias
    | [] => exact advances_pure _
    | ⟨connector, first⟩ :: second :: rest =>
      rw [Condition.predicate, foldEntries]
      · refine Advances.bind ?_ fun p => advances_pure _
        refine (Condition.predicate_advances first entity tableAlias).bind fun p => ?_
        exact foldEntries_advances (second :: rest) entity tableAlias _
      · exact fun _ _ heq => by cases heq
termination_by structural condition

theorem Criterion.predicate_advances {c : Compiler} (criterion : Criterion) (entity : Entity)
    (tableAlias : String) : Advances (criterion.predicate c entity tableAlias) := by
  rw [Criterion.predicate_eq]
  obtain ⟨property, operator, value, conversion⟩ := criterion
  refine (advances_liftM _).bind fun field => ?_
  refine (convert_advances _ property conversion).bind fun column => ?_
  dsimp only
  split
  · exact advances_pure _
  · cases value with
    | subquery query =>
      refine (advances_liftM _).bind fun target => ?_
      refine freshAlias_advances.bind fun nestedAlias => ?_
      refine (Query.clauses_advances query [target.property] nestedAlias _).bind fun clauses => ?_
      exact advances_pure _
    | collection items => exact compareCollection_advances entity property column operator items
    | _ => exact compareScalar_advances property column operator _
termination_by structural criterion

theorem combinedSelects_advances {c : Compiler} (combines : List Combine) (parent : Entity)
    (fields : List String) : Advances (combinedSelects c parent fields combines) := by
  cases combines with
  | nil => exact advances_pure _
  | cons first rest =>
    obtain ⟨kind, query⟩ := first
    rw [combinedSelects]
    refine freshAlias_advances.bind fun nestedAlias => ?_
    refine (advances_liftM _).bind fun target => ?_
    refine (Query.clauses_advances query query.fields nestedAlias false).bind fun sub => ?_
    refine (advances_liftM _).bind fun items => ?_
    exact (combinedSelects_advances rest parent fields).bind fun others => advances_pure _
termination_by structural combines

theorem joinTables_advances {c : Compiler} (joins : List Join) (source : Entity)
    (sourceAlias : String) (condition : Predicate) :
    Advances (joinTables c source sourceAlias condition joins) := by
  cases joins with
  | nil => exact advances_pure _
  | cons first rest =>
    obtain ⟨kind, fields, operator, query⟩ := first
    rw [joinTables]
    refine freshAlias_advances.bind fun nestedAlias => ?_
    refine (advances_liftM _).bind fun target => ?_
    refine (Query.clauses_advances query query.fields nestedAlias false).bind fun sub => ?_
    refine (joinedTables_advances source sourceAlias target nestedAlias kind fields operator
      query.fields sub _).bind fun tables => ?_
    exact (joinTables_advances rest source sourceAlias tables.2).bind fun others => advances_pure _
termination_by structural joins
end

end QueryLoom
