import QueryLoom.Proofs.Compilation
import QueryLoom.Proofs.StatementRuns

/-!
# Errors of compilation

Whatever a compilation fails over lies in what was to be compiled: in the names that a query or a
command uses, in what it leaves out, or in what it asks for. Nothing that a database, a file or a
caller may fail over comes out of a compilation.

## Implementation notes

The clauses of a query are gone through along the mutual recursion that compiles them. Which error
it is does not matter, only that each place where one is thrown throws one of compilation.
-/

namespace QueryLoom

/-- An answer, or a failure over what was to be compiled. -/
def Configured {α : Type} (x : Except Error α) : Prop :=
  ∀ e, x = .error e → e.isConfiguration = true

/-- A computation that fails over nothing but what was to be compiled, from any state. -/
def FailsConfigured {σ α : Type} (m : ExceptT Error (StateM σ) α) : Prop :=
  ∀ s, Configured (m.run.run s).1

variable {α β σ : Type}

namespace Configured

theorem ok (a : α) : Configured (.ok a) := fun _ h => by cases h

theorem error {e : Error} (he : e.isConfiguration = true) :
    Configured (.error e : Except Error α) := by
  rintro _ ⟨⟩
  exact he

theorem bind {x : Except Error α} {f : α → Except Error β} (hx : Configured x)
    (hf : ∀ a, Configured (f a)) : Configured (x >>= f) := by
  cases x with
  | error e => exact error (hx e rfl)
  | ok a => exact hf a

theorem mapM {f : α → Except Error β} (hf : ∀ a, Configured (f a)) (xs : List α) :
    Configured (xs.mapM f) := by
  induction xs with
  | nil => exact ok []
  | cons first rest ih =>
    rw [List.mapM_cons]
    exact (hf first).bind fun b => ih.bind fun bs => ok (b :: bs)

theorem forM {f : α → Except Error PUnit} (hf : ∀ a, Configured (f a)) (xs : List α) :
    Configured (xs.forM f) := by
  induction xs with
  | nil => exact ok PUnit.unit
  | cons first rest ih => exact (hf first).bind fun _ => ih

end Configured

namespace FailsConfigured

theorem pure (a : α) : FailsConfigured (pure a : ExceptT Error (StateM σ) α) :=
  fun _ => .ok a

theorem throw {e : Error} (he : e.isConfiguration = true) :
    FailsConfigured (throw e : ExceptT Error (StateM σ) α) :=
  fun _ => .error he

theorem liftM {x : Except Error α} (hx : Configured x) :
    FailsConfigured (liftM x : ExceptT Error (StateM σ) α) := by
  intro s
  cases x with
  | error e => exact .error (hx e rfl)
  | ok a => exact .ok a

theorem bind {m : ExceptT Error (StateM σ) α} {f : α → ExceptT Error (StateM σ) β}
    (hm : FailsConfigured m) (hf : ∀ a, FailsConfigured (f a)) : FailsConfigured (m >>= f) := by
  intro s
  have hfirst := hm s
  rw [run_bind]
  rcases h : m.run.run s with ⟨e | a, t⟩
  · rw [h] at hfirst
    exact .error (hfirst e rfl)
  · exact hf a t

theorem mapM {f : α → ExceptT Error (StateM σ) β} (hf : ∀ a, FailsConfigured (f a))
    (xs : List α) : FailsConfigured (xs.mapM f) := by
  induction xs with
  | nil => exact pure []
  | cons first rest ih =>
    rw [List.mapM_cons]
    exact (hf first).bind fun b => ih.bind fun bs => pure (b :: bs)

theorem runFrom {m : Compile α} (hm : FailsConfigured m) (number : Nat) :
    Configured (m.runFrom number) := by
  have hrun := hm { nextNumber := number }
  unfold Compile.runFrom
  rcases h : m.run.run { nextNumber := number } with ⟨e | a, t⟩
  · rw [h] at hrun
    exact .error (hrun e rfl)
  · exact .ok (a, t)

end FailsConfigured

/-! ## Names -/

theorem schema_entity_configured (schema : Schema) (name : String) :
    Configured (schema.entity name) := by
  unfold Schema.entity
  split
  · exact .ok _
  · exact .error rfl

namespace Entity

variable (entity : Entity)

theorem field_configured (property : String) : Configured (entity.field property) := by
  unfold field
  split
  · exact .ok _
  · exact .error rfl

theorem queryFields_configured (properties : List String) :
    Configured (entity.queryFields properties) := by
  unfold queryFields
  split
  · exact .ok _
  · exact .mapM entity.field_configured properties

theorem requirePrimaryKeys_configured : Configured entity.requirePrimaryKeys := by
  unfold requirePrimaryKeys
  split
  · exact .error rfl
  · exact .ok _

theorem splitTable_configured (value : Value) : Configured (entity.splitTable value) := by
  unfold splitTable
  split
  · exact .error rfl
  · exact .ok _

theorem tableNames_configured (splitValues : List Value) :
    Configured (entity.tableNames splitValues) := by
  unfold tableNames
  split
  · exact .ok _
  · split
    · exact .error rfl
    · exact (Configured.mapM entity.splitTable_configured splitValues).bind fun tables => .ok _

end Entity

/-! ## Clauses -/

section Parts

variable (c : Compiler)

theorem freshAlias_configured : FailsConfigured freshAlias := fun _ => .ok _

theorem bind_configured (property : String) (value : Value) :
    FailsConfigured (c.bind property value) := fun _ => .ok _

theorem convert_configured (column : Sql) (property : String) (conversion : Option Conversion) :
    FailsConfigured (c.convert column property conversion) := by
  rcases conversion with _ | ⟨function⟩ | ⟨function, path⟩ | ⟨function, value⟩
  · exact .pure _
  · exact .pure _
  · exact .pure _
  · cases hform : function.form with
    | infixed symbol =>
      simp only [Compiler.convert, hform]
      exact (bind_configured c property value).bind fun operand => .pure _
    | called keyword =>
      simp only [Compiler.convert, hform]
      exact (bind_configured c property value).bind fun operand => .pure _
    | unsupported feature =>
      simp only [Compiler.convert, hform]
      exact .throw rfl

theorem sortClause_configured (entity : Entity) (tableAlias : String) (sorted : Bool)
    (keys : List SortKey) : FailsConfigured (sortClause c entity tableAlias sorted keys) := by
  unfold sortClause Compiler.sortItems
  split
  · refine .mapM (fun key => ?_) keys
    refine (FailsConfigured.liftM (entity.field_configured key.field)).bind fun field => ?_
    exact (convert_configured c _ key.field key.conversion).bind fun column => .pure _
  · exact .pure _

theorem compareCollection_configured (entity : Entity) (property : String) (column : Sql)
    (operator : Operator) (items : List Value) :
    FailsConfigured (c.compareCollection entity property column operator items) := by
  unfold Compiler.compareCollection
  split
  · exact .throw rfl
  · split
    · exact .pure _
    · split
      · exact (bind_configured c property _).bind fun operand => .pure _
      · exact (FailsConfigured.mapM (bind_configured c property) items).bind fun operands => .pure _

theorem compareScalar_configured (property : String) (column : Sql) (operator : Operator)
    (value : Value) : FailsConfigured (c.compareScalar property column operator value) := by
  unfold Compiler.compareScalar
  split
  · exact (bind_configured c property _).bind fun operand => .pure _
  · exact (bind_configured c property _).bind fun operand => .pure _

theorem nestedTarget_configured (operator : Operator) (query : Query) :
    Configured (c.nestedTarget operator query) := by
  unfold Compiler.nestedTarget
  refine (schema_entity_configured _ _).bind fun entity => ?_
  split
  · exact .error rfl
  · exact (entity.field_configured _).bind fun field => .ok _

theorem combinedItems_configured (parent target : Entity) (fields : List String)
    (tableAlias : String) : Configured (c.combinedItems parent target fields tableAlias) := by
  unfold Compiler.combinedItems
  exact (Configured.mapM target.field_configured _).bind fun projected => .ok _

theorem joinPredicates_configured (source target : Entity) (kind : JoinKind)
    (fields : List (String × String)) (operator : JoinOperator)
    (sourceAlias targetAlias : String) :
    Configured (c.joinPredicates source target kind fields operator sourceAlias targetAlias) := by
  unfold Compiler.joinPredicates
  split
  · exact .ok _
  · split
    · exact .error rfl
    · refine .mapM (fun pair => ?_) _
      refine (source.field_configured pair.1).bind fun left => ?_
      exact (target.field_configured pair.2).bind fun right => .ok _

theorem joinedTables_configured (source : Entity) (sourceAlias : String) (target : Entity)
    (tableAlias : String) (kind : JoinKind) (fields : List (String × String))
    (operator : JoinOperator) (projection : List String) (sub : Clauses) (condition : Predicate) :
    FailsConfigured (c.joinedTables source sourceAlias target tableAlias kind fields operator
      projection sub condition) := by
  have hon (targetAlias : String) := joinPredicates_configured c source target kind fields operator
    sourceAlias targetAlias
  unfold Compiler.joinedTables
  split
  · exact (FailsConfigured.liftM (hon _)).bind fun on => .pure _
  · refine freshAlias_configured.bind fun derivedAlias => ?_
    refine (FailsConfigured.liftM (target.queryFields_configured projection)).bind fun fields => ?_
    exact (FailsConfigured.liftM (hon _)).bind fun on => .pure _

theorem traversal_configured (entity : Entity) (tableAlias innerAlias : String) (clauses : Clauses)
    (recursion : Option Recursion) :
    Configured (traversal c entity tableAlias innerAlias clauses recursion) := by
  cases recursion with
  | none => exact .ok clauses
  | some spec =>
    refine (entity.field_configured spec.key).bind fun key => ?_
    exact (entity.field_configured spec.relation).bind fun relation => .ok _

theorem traversalAlias_configured (recursion : Option Recursion) (tableAlias : String) :
    FailsConfigured (traversalAlias recursion tableAlias) := by
  unfold traversalAlias
  split
  · exact freshAlias_configured
  · exact .pure _

end Parts

mutual
/-- The clauses of a query. -/
theorem Query.clauses_configured {c : Compiler} (query : Query) (fields : List String)
    (tableAlias : String) (sorted : Bool) :
    FailsConfigured (query.clauses c fields tableAlias sorted) := by
  rw [Query.clauses_eq]
  obtain ⟨name, conditions, sorts, joins, combines, recursion, rest⟩ := query
  refine (FailsConfigured.liftM (schema_entity_configured _ _)).bind fun entity => ?_
  refine (traversalAlias_configured recursion tableAlias).bind fun innerAlias => ?_
  refine (foldEntries_configured conditions entity innerAlias {}).bind fun condition => ?_
  refine (sortClause_configured c entity tableAlias sorted sorts).bind fun sort => ?_
  refine (combinedSelects_configured combines entity fields).bind fun combined => ?_
  refine (joinTables_configured joins entity innerAlias _).bind fun joined => ?_
  exact .liftM (traversal_configured c entity tableAlias innerAlias _ recursion)
termination_by structural query

/-- The predicate of a list of conditions. -/
theorem foldEntries_configured {c : Compiler} (entries : List ConditionEntry) (entity : Entity)
    (tableAlias : String) (before : Predicate) :
    FailsConfigured (foldEntries c entity tableAlias before entries) := by
  cases entries with
  | nil =>
    rw [foldEntries]
    exact .pure _
  | cons entry rest =>
    obtain ⟨connector, condition⟩ := entry
    rw [foldEntries]
    refine (Condition.predicate_configured condition entity tableAlias).bind fun p => ?_
    exact foldEntries_configured rest entity tableAlias _
termination_by structural entries

theorem Condition.predicate_configured {c : Compiler} (condition : Condition) (entity : Entity)
    (tableAlias : String) : FailsConfigured (condition.predicate c entity tableAlias) := by
  cases condition with
  | constant holds =>
    rw [Condition.predicate]
    exact .pure _
  | criterion criterion =>
    rw [Condition.predicate]
    exact Criterion.predicate_configured criterion entity tableAlias
  | group entries =>
    match entries with
    | [⟨connector, only⟩] =>
      rw [Condition.predicate]
      exact Condition.predicate_configured only entity tableAlias
    | [] => exact .pure _
    | ⟨connector, first⟩ :: second :: rest =>
      rw [Condition.predicate, foldEntries]
      · refine FailsConfigured.bind ?_ fun p => .pure _
        refine (Condition.predicate_configured first entity tableAlias).bind fun p => ?_
        exact foldEntries_configured (second :: rest) entity tableAlias _
      · exact fun _ _ heq => by cases heq
termination_by structural condition

theorem Criterion.predicate_configured {c : Compiler} (criterion : Criterion) (entity : Entity)
    (tableAlias : String) : FailsConfigured (criterion.predicate c entity tableAlias) := by
  rw [Criterion.predicate_eq]
  obtain ⟨property, operator, value, conversion⟩ := criterion
  refine (FailsConfigured.liftM (entity.field_configured property)).bind fun field => ?_
  refine (convert_configured c _ property conversion).bind fun column => ?_
  dsimp only
  split
  · exact .pure _
  · cases value with
    | subquery query =>
      refine (FailsConfigured.liftM (nestedTarget_configured c _ query)).bind fun target => ?_
      refine freshAlias_configured.bind fun nestedAlias => ?_
      exact (Query.clauses_configured query _ nestedAlias _).bind fun clauses => .pure _
    | collection items => exact compareCollection_configured c entity property column operator items
    | _ => exact compareScalar_configured c property column operator _
termination_by structural criterion

theorem combinedSelects_configured {c : Compiler} (combines : List Combine) (parent : Entity)
    (fields : List String) : FailsConfigured (combinedSelects c parent fields combines) := by
  cases combines with
  | nil =>
    rw [combinedSelects]
    exact .pure _
  | cons first rest =>
    obtain ⟨kind, query⟩ := first
    rw [combinedSelects]
    refine freshAlias_configured.bind fun nestedAlias => ?_
    refine (FailsConfigured.liftM (schema_entity_configured _ _)).bind fun target => ?_
    refine (Query.clauses_configured query query.fields nestedAlias false).bind fun sub => ?_
    refine (FailsConfigured.liftM (combinedItems_configured c _ _ _ _)).bind fun items => ?_
    exact (combinedSelects_configured rest parent fields).bind fun others => .pure _
termination_by structural combines

theorem joinTables_configured {c : Compiler} (joins : List Join) (source : Entity)
    (sourceAlias : String) (condition : Predicate) :
    FailsConfigured (joinTables c source sourceAlias condition joins) := by
  cases joins with
  | nil =>
    rw [joinTables]
    exact .pure _
  | cons first rest =>
    obtain ⟨kind, fields, operator, query⟩ := first
    rw [joinTables]
    refine freshAlias_configured.bind fun nestedAlias => ?_
    refine (FailsConfigured.liftM (schema_entity_configured _ _)).bind fun target => ?_
    refine (Query.clauses_configured query query.fields nestedAlias false).bind fun sub => ?_
    refine (joinedTables_configured c _ _ _ _ _ _ _ _ sub _).bind fun tables => ?_
    exact (joinTables_configured rest source sourceAlias _).bind fun others => .pure _
termination_by structural joins
end

end QueryLoom
