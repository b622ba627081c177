import QueryLoom.Proofs.Correspondence
import QueryLoom.Proofs.Outlines

/-!
# Compilation of outlines

A query and its outline compile alike: both fail with the same error, or both yield the same
clauses and hand out the same aliases and, but for the values, the same parameters.

## Implementation notes

Only `Compiler.bind` takes a value into a parameter, and its placeholder does not depend on the
value. All other functions look at a value no further than its outline does.
-/

namespace QueryLoom

/-- Two scopes have handed out the same, the values of the parameters apart. -/
structure Scope.Alike (s t : Scope) : Prop where
  parameters : s.parameters.outline = t.parameters.outline
  nextNumber : s.nextNumber = t.nextNumber
  nextAlias : s.nextAlias = t.nextAlias

/-- Two computations that answer the same from scopes that are alike. -/
def Mirrors {α : Type} (m n : Compile α) : Prop :=
  Corresponds Scope.Alike Eq m n

variable {c : Compiler} {α β : Type}

section Rules

theorem mirrors_pure (a : α) : Mirrors (pure a) (pure a) := corresponds_pure rfl

theorem mirrors_throw (e : Error) : Mirrors (throw e : Compile α) (throw e) := corresponds_throw e

theorem mirrors_liftM (x : Except Error α) : Mirrors (liftM x) (liftM x) :=
  corresponds_liftM (Agree.refl (fun _ => rfl) x)

theorem Mirrors.bind {m n : Compile α} {next next' : α → Compile β} (h : Mirrors m n)
    (hnext : ∀ a, Mirrors (next a) (next' a)) : Mirrors (m >>= next) (n >>= next') := by
  refine Corresponds.bind h ?_
  rintro a _ rfl
  exact hnext a

/-- Lists of the same length are worked through side by side. -/
theorem Mirrors.mapM {γ δ : Type} {P : γ → δ → Prop} {m : γ → Compile β} {n : δ → Compile β}
    {xs : List γ} {ys : List δ} (hxs : List.Forall₂ P xs ys)
    (h : ∀ x y, P x y → Mirrors (m x) (n y)) : Mirrors (xs.mapM m) (ys.mapM n) := by
  refine (Corresponds.mapM hxs h).mono fun as bs hbs => ?_
  exact List.forall₂_eq_eq_eq ▸ hbs

end Rules

/-! ## Parameters and aliases -/

namespace Parameters

/-- An entry goes to the same place, whatever the values are. -/
theorem outline_insert (ps : Parameters) (parameter : Parameter) :
    (ps.insert parameter).outline = ps.outline.insert parameter.outline := by
  have hreplaced : replaceFirst (·.name == parameter.outline.name)
      (fun _ => parameter.outline) (ps.items.map Parameter.outline) =
        (replaceFirst (·.name == parameter.name) (fun _ => parameter) ps.items).map
          (List.map Parameter.outline) :=
    replaceFirst_map (fun _ _ => rfl) fun _ => rfl
  unfold insert outline
  rw [hreplaced]
  cases replaceFirst (·.name == parameter.name) (fun _ => parameter) ps.items with
  | none => simp
  | some items => rfl

end Parameters

theorem freshAlias_mirrors : Mirrors freshAlias freshAlias := by
  rintro s t ⟨hparameters, hnumber, halias⟩
  refine .ok ⟨?_, hparameters, hnumber, ?_⟩
  · show "TSB" ++ toString s.nextAlias = "TSB" ++ toString t.nextAlias
    rw [halias]
  · show s.nextAlias + 1 = t.nextAlias + 1
    rw [halias]

/-- The placeholder of a property, with a parameter behind it that may hold different values. -/
theorem placeholder_mirrors {property : String} {m n : Compile Sql} {p q : String → Parameter}
    (hm : ∀ s : Scope, m.run.run s = (.ok (Sql.placeholder property s.nextNumber),
      { s with
        parameters := s.parameters.insert (p (parameterName property s.nextNumber))
        nextNumber := s.nextNumber + 1 }))
    (hn : ∀ s : Scope, n.run.run s = (.ok (Sql.placeholder property s.nextNumber),
      { s with
        parameters := s.parameters.insert (q (parameterName property s.nextNumber))
        nextNumber := s.nextNumber + 1 }))
    (hpq : ∀ name, (p name).outline = (q name).outline) : Mirrors m n := by
  rintro s t ⟨hparameters, hnumber, halias⟩
  rw [hm s, hn t]
  refine .ok ⟨?_, ?_, ?_, halias⟩
  · rw [hnumber]
  · rw [Parameters.outline_insert, Parameters.outline_insert, hparameters, hnumber, hpq]
  · show s.nextNumber + 1 = t.nextNumber + 1
    rw [hnumber]

/-- Any two values are bound alike. -/
theorem bind_mirrors (property : String) (v w : Value) :
    Mirrors (c.bind property v) (c.bind property w) :=
  placeholder_mirrors (p := fun name => ⟨name, c.conventions.bound v, .input⟩)
    (q := fun name => ⟨name, c.conventions.bound w, .input⟩) (fun _ => rfl) (fun _ => rfl)
    fun _ => rfl

theorem bindOutput_mirrors (property : String) :
    Mirrors (Compiler.bindOutput property) (Compiler.bindOutput property) :=
  placeholder_mirrors (p := fun name => ⟨name, .null, .output⟩)
    (q := fun name => ⟨name, .null, .output⟩) (fun _ => rfl) (fun _ => rfl) fun _ => rfl

/-! ## Comparisons and sorts -/

theorem convert_mirrors (column : Sql) (property : String) (conversion : Option Conversion) :
    Mirrors (c.convert column property conversion)
      (c.convert column property (conversion.map Conversion.outline)) := by
  rcases conversion with _ | ⟨function⟩ | ⟨function, path⟩ | ⟨function, value⟩
  · exact mirrors_pure _
  · exact mirrors_pure _
  · exact mirrors_pure _
  · simp only [Option.map_some, Conversion.outline, Compiler.convert]
    cases function.form with
    | infixed symbol => exact (bind_mirrors property value .null).bind fun _ => mirrors_pure _
    | called keyword => exact (bind_mirrors property value .null).bind fun _ => mirrors_pure _
    | unsupported feature => exact mirrors_throw _

theorem sortItems_mirrors (entity : Entity) (tableAlias : String) (keys : List SortKey) :
    Mirrors (c.sortItems entity tableAlias keys)
      (c.sortItems entity tableAlias (keys.map SortKey.outline)) := by
  have hkeys : List.Forall₂ (fun key key' => key' = SortKey.outline key) keys
      (keys.map SortKey.outline) :=
    List.forall₂_map_right_iff.mpr (List.forall₂_same.mpr fun _ _ => rfl)
  unfold Compiler.sortItems
  refine Mirrors.mapM hkeys ?_
  rintro key _ rfl
  refine (mirrors_liftM _).bind fun field => ?_
  exact (convert_mirrors _ key.field key.conversion).bind fun _ => mirrors_pure _

/-- A collection is bound whole or element by element, and so is its outline. -/
theorem compareCollection_mirrors (entity : Entity) (property : String) (column : Sql)
    (operator : Operator) (items : List Value) :
    Mirrors (c.compareCollection entity property column operator items)
      (c.compareCollection entity property column operator (outlineItems items)) := by
  unfold Compiler.compareCollection
  rw [isEmpty_outlineItems, all_outlineItems]
  cases hall : items.all Value.bindsInCollection with
  | true =>
    split
    · exact mirrors_throw _
    · split
      · exact mirrors_pure _
      · exact (bind_mirrors property _ _).bind fun _ => mirrors_pure _
  | false =>
    have hitems : List.Forall₂ (fun _ _ => True) items (outlineItems items) := by
      rw [outlineItems_elements hall]
      exact List.forall₂_map_right_iff.mpr (List.forall₂_same.mpr fun _ _ => trivial)
    split
    · exact mirrors_throw _
    · split
      · exact mirrors_pure _
      · refine Mirrors.bind ?_ fun _ => mirrors_pure _
        exact Mirrors.mapM hitems fun v w _ => bind_mirrors property v w

/-- A value is bound whatever it is, and a pattern is bound as a text of any value. -/
theorem compareScalar_mirrors (property : String) (column : Sql) (operator : Operator)
    (v w : Value) :
    Mirrors (c.compareScalar property column operator v)
      (c.compareScalar property column operator w) := by
  unfold Compiler.compareScalar
  split
  · exact (bind_mirrors property v w).bind fun _ => mirrors_pure _
  · exact (bind_mirrors property _ _).bind fun _ => mirrors_pure _

/-! ## Clauses -/

theorem traversalAlias_mirrors (recursion : Option Recursion) (tableAlias : String) :
    Mirrors (traversalAlias recursion tableAlias) (traversalAlias recursion tableAlias) := by
  unfold traversalAlias
  split
  · exact freshAlias_mirrors
  · exact mirrors_pure _

theorem sortClause_mirrors (entity : Entity) (tableAlias : String) (sorted : Bool)
    (keys : List SortKey) :
    Mirrors (sortClause c entity tableAlias sorted keys)
      (sortClause c entity tableAlias sorted (keys.map SortKey.outline)) := by
  unfold sortClause
  split
  · exact sortItems_mirrors entity tableAlias keys
  · exact mirrors_pure _

theorem joinedTables_mirrors (source : Entity) (sourceAlias : String) (target : Entity)
    (tableAlias : String) (kind : JoinKind) (fields : List (String × String))
    (operator : JoinOperator) (projection : List String) (sub : Clauses) (condition : Predicate) :
    let tables := c.joinedTables source sourceAlias target tableAlias kind fields operator
      projection sub condition
    Mirrors tables tables := by
  unfold Compiler.joinedTables
  dsimp only
  split
  · exact (mirrors_liftM _).bind fun on => mirrors_pure _
  · refine freshAlias_mirrors.bind fun derivedAlias => ?_
    refine (mirrors_liftM _).bind fun projected => ?_
    exact (mirrors_liftM _).bind fun on => mirrors_pure _

/-- A nested query has the same target as its outline. -/
theorem nestedTarget_outline (operator : Operator) (query : Query) :
    c.nestedTarget operator query.outline = c.nestedTarget operator query := by
  rw [Query.outline_eq]
  rfl

mutual
/-- The clauses of a query are those of its outline. -/
theorem Query.clauses_mirrors {c : Compiler} (query : Query) (fields : List String)
    (tableAlias : String) (sorted : Bool) :
    Mirrors (query.clauses c fields tableAlias sorted)
      (query.outline.clauses c fields tableAlias sorted) := by
  rw [Query.clauses_eq, Query.clauses_eq]
  obtain ⟨name, conditions, sorts, joins, combines, recursion, rest⟩ := query
  refine (mirrors_liftM _).bind fun entity => ?_
  refine (traversalAlias_mirrors recursion tableAlias).bind fun innerAlias => ?_
  refine (foldEntries_mirrors conditions entity innerAlias {}).bind fun condition => ?_
  refine (sortClause_mirrors entity tableAlias sorted sorts).bind fun sort => ?_
  refine (combinedSelects_mirrors combines entity fields).bind fun combined => ?_
  refine (joinTables_mirrors joins entity innerAlias _).bind fun joined => ?_
  exact mirrors_liftM _
termination_by structural query

/-- The predicate of a list of conditions is that of their outlines. -/
theorem foldEntries_mirrors {c : Compiler} (entries : List ConditionEntry) (entity : Entity)
    (tableAlias : String) (before : Predicate) :
    Mirrors (foldEntries c entity tableAlias before entries)
      (foldEntries c entity tableAlias before (outlineEntries entries)) := by
  cases entries with
  | nil =>
    rw [outlineEntries, foldEntries]
    exact mirrors_pure _
  | cons entry rest =>
    obtain ⟨connector, condition⟩ := entry
    rw [outlineEntries, foldEntries, foldEntries]
    refine (Condition.predicate_mirrors condition entity tableAlias).bind fun p => ?_
    exact foldEntries_mirrors rest entity tableAlias _
termination_by structural entries

theorem Condition.predicate_mirrors {c : Compiler} (condition : Condition) (entity : Entity)
    (tableAlias : String) :
    Mirrors (condition.predicate c entity tableAlias)
      (condition.outline.predicate c entity tableAlias) := by
  cases condition with
  | constant holds => exact mirrors_pure _
  | criterion criterion =>
    rw [Condition.outline, Condition.predicate, Condition.predicate]
    exact Criterion.predicate_mirrors criterion entity tableAlias
  | group entries =>
    match entries with
    | [⟨connector, only⟩] =>
      rw [Condition.outline, outlineEntries, outlineEntries, Condition.predicate,
        Condition.predicate]
      exact Condition.predicate_mirrors only entity tableAlias
    | [] => exact mirrors_pure _
    | ⟨connector, first⟩ :: ⟨connector', second⟩ :: rest =>
      rw [Condition.outline, outlineEntries, outlineEntries, Condition.predicate,
        Condition.predicate, foldEntries, foldEntries]
      · refine Mirrors.bind ?_ fun p => mirrors_pure _
        refine (Condition.predicate_mirrors first entity tableAlias).bind fun p => ?_
        exact foldEntries_mirrors (⟨connector', second⟩ :: rest) entity tableAlias _
      · exact fun _ _ heq => by cases heq
      · exact fun _ _ heq => by cases heq
termination_by structural condition

theorem Criterion.predicate_mirrors {c : Compiler} (criterion : Criterion) (entity : Entity)
    (tableAlias : String) :
    Mirrors (criterion.predicate c entity tableAlias)
      (criterion.outline.predicate c entity tableAlias) := by
  obtain ⟨property, operator, value, conversion⟩ := criterion
  rw [Criterion.outline, Criterion.predicate_eq, Criterion.predicate_eq]
  refine (mirrors_liftM _).bind fun field => ?_
  refine (convert_mirrors _ property conversion).bind fun column => ?_
  dsimp only
  split
  · exact mirrors_pure _
  · cases value with
    | subquery query =>
      dsimp only [Value.outline]
      rw [nestedTarget_outline]
      refine (mirrors_liftM _).bind fun target => ?_
      refine freshAlias_mirrors.bind fun nestedAlias => ?_
      refine (Query.clauses_mirrors query [target.property] nestedAlias _).bind fun clauses => ?_
      rw [Query.outline_eq]
      exact mirrors_pure _
    | collection items => exact compareCollection_mirrors entity property column operator items
    | _ => exact compareScalar_mirrors property column operator _ _
termination_by structural criterion

theorem combinedSelects_mirrors {c : Compiler} (combines : List Combine) (parent : Entity)
    (fields : List String) :
    Mirrors (combinedSelects c parent fields combines)
      (combinedSelects c parent fields (outlineCombines combines)) := by
  cases combines with
  | nil =>
    rw [outlineCombines, combinedSelects]
    exact mirrors_pure _
  | cons first rest =>
    obtain ⟨kind, query⟩ := first
    rw [outlineCombines, combinedSelects, combinedSelects]
    refine freshAlias_mirrors.bind fun nestedAlias => ?_
    rw [Query.entity_outline, Query.fields_outline]
    refine (mirrors_liftM _).bind fun target => ?_
    refine (Query.clauses_mirrors query query.fields nestedAlias false).bind fun sub => ?_
    refine (mirrors_liftM _).bind fun items => ?_
    exact (combinedSelects_mirrors rest parent fields).bind fun others => mirrors_pure _
termination_by structural combines

theorem joinTables_mirrors {c : Compiler} (joins : List Join) (source : Entity)
    (sourceAlias : String) (condition : Predicate) :
    Mirrors (joinTables c source sourceAlias condition joins)
      (joinTables c source sourceAlias condition (outlineJoins joins)) := by
  cases joins with
  | nil =>
    rw [outlineJoins, joinTables]
    exact mirrors_pure _
  | cons first rest =>
    obtain ⟨kind, fields, operator, query⟩ := first
    rw [outlineJoins, joinTables, joinTables]
    refine freshAlias_mirrors.bind fun nestedAlias => ?_
    rw [Query.entity_outline, Query.fields_outline]
    refine (mirrors_liftM _).bind fun target => ?_
    refine (Query.clauses_mirrors query query.fields nestedAlias false).bind fun sub => ?_
    refine (joinedTables_mirrors source sourceAlias target nestedAlias kind fields operator
      query.fields sub _).bind fun tables => ?_
    exact (joinTables_mirrors rest source sourceAlias tables.2).bind fun others => mirrors_pure _
termination_by structural joins
end

end QueryLoom
