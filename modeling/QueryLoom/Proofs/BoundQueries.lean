import Mathlib.Data.List.Induction
import QueryLoom.Proofs.RecordedTraversals
import QueryLoom.Proofs.RenamedParameters

/-!
# Bound queries

A nested query that is compared with a column is compiled to a SELECT. Everywhere else a value is
bound as it is, and the nested queries in it are strays: in the operand of a conversion, among the
elements of a collection, in what is inserted and in what is assigned. A stray reaches the
parameters unless a later binding of the same name takes the place of its own.

## Implementation notes

The nested queries of a value are those that it or a collection in it holds as elements; what such
a query holds itself is not looked into. The strays are listed from the tree on their own and
compared with the bindings afterwards, so that they say nothing about how values are bound.
-/

namespace QueryLoom

/-! ## Nested queries in values -/

mutual
/-- The nested queries that a value holds, itself included, in collections at any depth. -/
def Value.queries : Value → List Query
  | .subquery query => [query]
  | .collection items => Value.listedQueries items
  | _ => []
termination_by structural value => value

/-- The nested queries that some values hold. -/
def Value.listedQueries : List Value → List Query
  | [] => []
  | item :: rest => item.queries ++ Value.listedQueries rest
termination_by structural items => items
end

namespace Value

theorem listedQueries_eq (items : List Value) : listedQueries items = items.flatMap queries := by
  induction items with
  | nil => rfl
  | cons first rest ih => rw [listedQueries, ih, List.flatMap_cons]

mutual
/-- Nested queries are left alone where UUIDs become octets. -/
theorem queries_withUuidOctets (value : Value) : value.withUuidOctets.queries = value.queries := by
  cases value with
  | collection items => exact listedQueries_withUuidOctets items
  | _ => rfl
termination_by structural value

theorem listedQueries_withUuidOctets (items : List Value) :
    listedQueries (withUuidOctetsList items) = listedQueries items := by
  cases items with
  | nil => rfl
  | cons first rest =>
    rw [withUuidOctetsList, listedQueries, listedQueries, queries_withUuidOctets first,
      listedQueries_withUuidOctets rest]
termination_by structural items
end

end Value

@[simp] theorem Conventions.queries_bound (conventions : Conventions) (value : Value) :
    (conventions.bound value).queries = value.queries := by
  unfold bound
  split
  · exact value.queries_withUuidOctets
  · rfl

/-! ## Strays -/

/-- The nested queries in the operand of a conversion that there is. -/
def conversionStrays : Option Conversion → List Query
  | some (.operand function value) =>
    match function.form with
    | .unsupported _ => []
    | _ => value.queries
  | _ => []

/-- The nested queries in the conversions of sorts. -/
def sortStrays (keys : List SortKey) : List Query :=
  keys.flatMap fun key => conversionStrays key.conversion

mutual
/-- The strays of a query: of its conditions, its sorts where they count, its set operations and
its joins. -/
def Query.strays (sorted : Bool) (query : Query) : List Query :=
  match query with
  | { conditions, sorts, joins, combines, .. } =>
    entryStrays conditions ++ (if sorted then sortStrays sorts else []) ++
      combineStrays combines ++ joinStrays joins
termination_by structural query

/-- The strays of a list of conditions. -/
def entryStrays (entries : List ConditionEntry) : List Query :=
  match entries with
  | [] => []
  | ⟨_, condition⟩ :: rest => condition.strays ++ entryStrays rest
termination_by structural entries

/-- The strays of a condition. -/
def Condition.strays (condition : Condition) : List Query :=
  match condition with
  | .constant _ => []
  | .criterion criterion => criterion.strays
  | .group entries => entryStrays entries
termination_by structural condition

/-- The strays of a comparison: in its conversion and in a collection. The nested query that it
compares with is none, but may have some. -/
def Criterion.strays (criterion : Criterion) : List Query :=
  match criterion with
  | ⟨_, operator, value, conversion⟩ =>
    conversionStrays conversion ++
      if operator.takesOperand then
        match value with
        | .subquery query => query.strays (nestedSorted operator query)
        | value => value.queries
      else []
termination_by structural criterion

/-- The strays of set operations. -/
def combineStrays (combines : List Combine) : List Query :=
  match combines with
  | [] => []
  | ⟨_, query⟩ :: rest => query.strays false ++ combineStrays rest
termination_by structural combines

/-- The strays of joins. -/
def joinStrays (joins : List Join) : List Query :=
  match joins with
  | [] => []
  | ⟨_, _, _, query⟩ :: rest => query.strays false ++ joinStrays rest
termination_by structural joins
end

theorem Criterion.strays_eq (criterion : Criterion) :
    criterion.strays =
      conversionStrays criterion.conversion ++
        if criterion.operator.takesOperand then
          match criterion.value with
          | .subquery query => query.strays (nestedSorted criterion.operator query)
          | value => value.queries
        else [] := by
  obtain ⟨property, operator, value, conversion⟩ := criterion
  cases value <;> rfl

/-- The strays of a statement that reads. Only rows are sorted, and HAVING needs groups. -/
def Query.statementStrays (query : Query) : List Query :=
  query.strays (query.output == .rows) ++
    if query.groupBy.isEmpty then [] else entryStrays query.having

/-- The nested queries in the values of assignments. -/
def assignmentStrays (assignments : List (String × Assignment)) : List Query :=
  assignments.flatMap fun (_, assignment) =>
    match assignment with
    | .value value | .calculate _ value => value.queries

/-- The nested queries in the values that an insertion writes. -/
def InsertCommand.strays (command : InsertCommand) (entity : Entity) : List Query :=
  (entity.fields.filter (!·.role.autoIncrement)).flatMap fun field =>
    Value.queries (((command.values.find? (·.1 == field.property)).map (·.2)).getD .null)

/-- The strays of a command under a schema; a text has none. -/
def Compiler.strays (c : Compiler) : Command → List Query
  | .insert command =>
    match c.schema.entity command.entity with
    | .ok entity => command.strays entity
    | .error _ => []
  | .update command =>
    (Compiler.scopedQuery command.query command.entity).strays false ++
      assignmentStrays command.assignments
  | .delete command => (Compiler.scopedQuery command.query command.entity).strays false
  | .text _ => []

/-! ## Nested queries in bindings -/

/-- The nested queries that a binding holds. -/
def Binding.queries (binding : Binding) : List Query := binding.value.toList.flatMap Value.queries

/-- The nested queries that some bindings hold. -/
def boundQueries (bindings : List Binding) : List Query := bindings.flatMap Binding.queries

@[simp] theorem boundQueries_nil : boundQueries [] = [] := rfl

@[simp] theorem boundQueries_cons (binding : Binding) (bindings : List Binding) :
    boundQueries (binding :: bindings) = binding.queries ++ boundQueries bindings :=
  List.flatMap_cons

@[simp] theorem boundQueries_append (a b : List Binding) :
    boundQueries (a ++ b) = boundQueries a ++ boundQueries b := List.flatMap_append

@[simp] theorem Binding.queries_input (property : String) (value : Value) :
    (Binding.input property value).queries = value.queries := List.flatMap_singleton ..

theorem Issue.queries_parameter (conventions : Conventions) (issue : Issue) :
    (issue.parameter conventions).value.queries = issue.1.queries := by
  unfold parameter Binding.parameter Binding.queries
  cases issue.1.value with
  | none => rfl
  | some value => simp

theorem boundQueries_conversion (property : String) (written : Bool)
    (conversion : Option Conversion) :
    boundQueries (conversionBindings property written conversion) =
      conversionStrays conversion := by
  rcases conversion with - | ⟨function⟩ | ⟨function, path⟩ | ⟨function, value⟩
  · rfl
  · rfl
  · rfl
  · cases hform : function.form <;>
      simp [conversionBindings, conversionStrays, hform, Binding.queries]

theorem boundQueries_sorts (keys : List SortKey) :
    boundQueries (sortBindings keys) = sortStrays keys := by
  simp only [boundQueries, sortBindings, List.flatMap_assoc]
  congr
  funext key
  exact boundQueries_conversion key.field true key.conversion

theorem boundQueries_collection (property : String) (items : List Value) :
    boundQueries (collectionBindings property items) = Value.listedQueries items := by
  unfold collectionBindings
  split
  · rename_i hempty
    rw [List.isEmpty_iff.mp hempty]
    rfl
  · split
    · rw [boundQueries_cons, Binding.queries_input, boundQueries_nil, List.append_nil]
      rfl
    · rw [boundQueries, List.flatMap_map, Value.listedQueries_eq]
      simp only [Binding.queries_input]

/-- A value that holds no nested query holds none as an operand; in a pattern it becomes a text. -/
theorem queries_scalarOperand (operator : Operator) {value : Value} (h : value.queries = []) :
    (scalarOperand operator value).queries = [] := by
  unfold scalarOperand
  split
  · exact h
  · split
    · exact h
    · rfl

mutual
/-- The nested queries that a query binds are its strays. -/
theorem Query.boundQueries_bindings (sorted : Bool) (query : Query) :
    boundQueries (query.bindings sorted) = query.strays sorted := by
  obtain ⟨name, conditions, sorts, joins, combines, rest⟩ := query
  rw [Query.bindings, Query.strays, boundQueries_append, boundQueries_append, boundQueries_append,
    boundQueries_entries conditions, boundQueries_combines combines, boundQueries_joins joins]
  cases sorted with
  | false => rfl
  | true => rw [if_pos rfl, if_pos rfl, boundQueries_sorts]
termination_by structural query

theorem boundQueries_entries (entries : List ConditionEntry) :
    boundQueries (entryBindings entries) = entryStrays entries := by
  cases entries with
  | nil => rfl
  | cons entry rest =>
    obtain ⟨connector, condition⟩ := entry
    rw [entryBindings, entryStrays, boundQueries_append, condition.boundQueries_bindings,
      boundQueries_entries rest]
termination_by structural entries

theorem Condition.boundQueries_bindings (condition : Condition) :
    boundQueries condition.bindings = condition.strays := by
  cases condition with
  | constant holds => rfl
  | criterion criterion => exact criterion.boundQueries_bindings
  | group entries => exact boundQueries_entries entries
termination_by structural condition

theorem Criterion.boundQueries_bindings (criterion : Criterion) :
    boundQueries criterion.bindings = criterion.strays := by
  obtain ⟨property, operator, value, conversion⟩ := criterion
  rw [Criterion.bindings_eq, Criterion.strays_eq, boundQueries_append, boundQueries_conversion]
  congr 1
  split
  · cases value with
    | subquery query => exact query.boundQueries_bindings _
    | collection items => exact boundQueries_collection property items
    | _ =>
      simp only [boundQueries_cons, Binding.queries_input, boundQueries_nil, List.append_nil]
      exact queries_scalarOperand operator rfl
  · rfl
termination_by structural criterion

theorem boundQueries_combines (combines : List Combine) :
    boundQueries (combineBindings combines) = combineStrays combines := by
  cases combines with
  | nil => rfl
  | cons combine rest =>
    obtain ⟨kind, query⟩ := combine
    rw [combineBindings, combineStrays, boundQueries_append, query.boundQueries_bindings,
      boundQueries_combines rest]
termination_by structural combines

theorem boundQueries_joins (joins : List Join) :
    boundQueries (joinBindings joins) = joinStrays joins := by
  cases joins with
  | nil => rfl
  | cons join rest =>
    obtain ⟨kind, fields, operator, query⟩ := join
    rw [joinBindings, joinStrays, boundQueries_append, query.boundQueries_bindings,
      boundQueries_joins rest]
termination_by structural joins
end

theorem Query.boundQueries_statementBindings (query : Query) :
    boundQueries query.statementBindings = query.statementStrays := by
  rw [statementBindings, statementStrays, boundQueries_append, query.boundQueries_bindings,
    havingBindings]
  congr 1
  split
  · rfl
  · exact boundQueries_entries query.having

theorem boundQueries_assignments (assignments : List (String × Assignment)) :
    boundQueries (assignmentBindings assignments) = assignmentStrays assignments := by
  rw [boundQueries, assignmentBindings, List.flatMap_map, assignmentStrays]
  congr
  funext assigned
  obtain ⟨property, assignment⟩ := assigned
  cases assignment <;> exact Binding.queries_input property _

theorem InsertCommand.boundQueries_bindings (command : InsertCommand) (entity : Entity) :
    boundQueries (command.bindings entity) = command.strays entity := by
  have houtput :
      boundQueries (entity.autoIncrementField?.toList.map (.output ·.property)) = [] := by
    cases entity.autoIncrementField? <;> rfl
  rw [bindings, boundQueries_append, houtput, List.append_nil, boundQueries, List.flatMap_map,
    strays]
  simp only [Binding.queries_input]

/-- The nested queries that a command binds are its strays. -/
theorem Compiler.boundQueries_bindings (c : Compiler) (command : Command) :
    boundQueries (c.bindings command) = c.strays command := by
  cases command with
  | insert command =>
    simp only [bindings, strays]
    cases c.schema.entity command.entity with
    | ok entity => exact command.boundQueries_bindings entity
    | error e => rfl
  | update command =>
    rw [bindings, strays, boundQueries_append, Query.boundQueries_bindings,
      boundQueries_assignments]
  | delete command => exact Query.boundQueries_bindings false _
  | text command => rfl

/-! ## Nested queries in parameters -/

/-- The parameter of a binding stays: no later one of some bindings has its name. -/
def Issue.Stays (issues : List Issue) (issue : Issue) : Prop :=
  ∀ other ∈ issues, other.name = issue.name → other.2 ≤ issue.2

/-- A binding stays in front of a later one exactly if that has another name. -/
theorem Issue.stays_append_singleton {issues : List Issue} {issue later : Issue}
    (h : issue.2 < later.2) :
    issue.Stays (issues ++ [later]) ↔ issue.Stays issues ∧ issue.name ≠ later.name := by
  unfold Stays
  rw [List.forall_mem_append, List.forall_mem_singleton]
  exact and_congr_right fun _ => ⟨fun hlater hname => absurd (hlater hname.symm) (by omega),
    fun hname hsame => absurd hsame.symm hname⟩

variable {c : Compiler} {number : Nat} {bindings : List Binding}

/-- The parameters are those of the bindings that stay. -/
theorem mem_parametersOf {p : Parameter} :
    p ∈ (parametersOf c number bindings).items ↔
      ∃ issue ∈ numbered number bindings, issue.Stays (numbered number bindings) ∧
        p = issue.parameter c.conventions := by
  -- the last binding stays, and takes the place of those of its name in front of it
  induction bindings using List.reverseRecOn with
  | nil => simp [parametersOf, Parameters.empty]
  | append_singleton front last ih =>
    let later : Issue := (last, number + front.length)
    have hlast : numbered number (front ++ [last]) = numbered number front ++ [later] :=
      numbered_append number front [last]
    have hinsert : parametersOf c number (front ++ [last]) =
        (parametersOf c number front).insert (later.parameter c.conventions) := by
      rw [parametersOf, hlast, List.map_append, List.foldl_append]
      rfl
    have hbefore : ∀ issue ∈ numbered number front, issue.2 < later.2 :=
      fun issue h => (number_of_mem_numbered h).2
    have hstays : later.Stays (numbered number front ++ [later]) := by
      intro other hother _
      rcases List.mem_append.mp hother with hother | hother
      · exact (hbefore other hother).le
      · exact (congrArg Prod.snd (List.mem_singleton.mp hother)).le
    rw [hinsert, Parameters.mem_items_insert nodup_names_parametersOf, ih, hlast]
    constructor
    · rintro (rfl | ⟨⟨issue, hissue, hkept, rfl⟩, hname⟩)
      · exact ⟨later, List.mem_append_right _ (List.mem_singleton_self _), hstays, rfl⟩
      · rw [Issue.name_parameter, Issue.name_parameter] at hname
        exact ⟨issue, List.mem_append_left _ hissue,
          (Issue.stays_append_singleton (hbefore issue hissue)).mpr ⟨hkept, hname⟩, rfl⟩
    · rintro ⟨issue, hissue, hkept, rfl⟩
      rcases List.mem_append.mp hissue with hissue | hissue
      · obtain ⟨hkept, hname⟩ := (Issue.stays_append_singleton (hbefore issue hissue)).mp hkept
        refine .inr ⟨⟨issue, hissue, hkept, rfl⟩, ?_⟩
        rwa [Issue.name_parameter, Issue.name_parameter]
      · exact .inl (by rw [List.mem_singleton.mp hissue])

/-- Some bindings hold a nested query that no later binding replaces. -/
def BindsQuery (number : Nat) (bindings : List Binding) : Prop :=
  ∃ issue ∈ numbered number bindings, issue.Stays (numbered number bindings) ∧
    issue.1.queries ≠ []

theorem exists_queries_parametersOf :
    (∃ p ∈ (parametersOf c number bindings).items, p.value.queries ≠ []) ↔
      BindsQuery number bindings := by
  simp only [mem_parametersOf, BindsQuery]
  constructor
  · rintro ⟨_, ⟨issue, hissue, hstays, rfl⟩, hqueries⟩
    exact ⟨issue, hissue, hstays, by rwa [Issue.queries_parameter] at hqueries⟩
  · rintro ⟨issue, hissue, hstays, hqueries⟩
    exact ⟨_, ⟨issue, hissue, hstays, rfl⟩, by rwa [Issue.queries_parameter]⟩

theorem boundQueries_ne_nil_iff (number : Nat) :
    boundQueries bindings ≠ [] ↔ ∃ issue ∈ numbered number bindings, issue.1.queries ≠ [] := by
  have hbindings : (numbered number bindings).map Prod.fst = bindings := List.zipIdx_map_fst ..
  conv_lhs => rw [← hbindings]
  simp [boundQueries, List.flatMap_eq_nil_iff]

/-- Where no names clash, every nested query in the bindings is bound. -/
theorem bindsQuery_iff_of_noClash (h : NoClash (numbered number bindings)) :
    BindsQuery number bindings ↔ boundQueries bindings ≠ [] := by
  rw [boundQueries_ne_nil_iff number]
  constructor
  · rintro ⟨issue, hissue, -, hqueries⟩
    exact ⟨issue, hissue, hqueries⟩
  · rintro ⟨issue, hissue, hqueries⟩
    refine ⟨issue, hissue, ?_, hqueries⟩
    -- bindings of one name are one binding, so every binding stays
    intro other hother hname
    have hdistinct := (distinct_iff_noClash fun _ hi _ hj => numbered_inj hi hj).mpr h
    rw [hdistinct other hother issue hissue hname]

/-- What a statement binds of the strays of its tree: those in bindings that stay, so none if there
are none, and some if there are some and no names clash. -/
structure StraysBound (number : Nat) (bindings : List Binding) (strays : List Query)
    (statement : Statement) : Prop where
  bound : (∃ p ∈ statement.parameters.items, p.value.queries ≠ []) ↔ BindsQuery number bindings
  none : strays = [] → ∀ p ∈ statement.parameters.items, p.value.queries = []
  some : NoClash (numbered number bindings) →
    ((∃ p ∈ statement.parameters.items, p.value.queries ≠ []) ↔ strays ≠ [])

theorem straysBound_of_parameters {strays : List Query} {statement : Statement}
    (hparameters : statement.parameters = parametersOf c number bindings)
    (hstrays : boundQueries bindings = strays) :
    StraysBound number bindings strays statement := by
  have hbound : (∃ p ∈ statement.parameters.items, p.value.queries ≠ []) ↔
      BindsQuery number bindings := by
    rw [hparameters]
    exact exists_queries_parametersOf
  refine ⟨hbound, ?_, ?_⟩
  · intro hnone p hp
    by_contra hqueries
    obtain ⟨issue, hissue, -, hheld⟩ := hbound.mp ⟨p, hp, hqueries⟩
    exact (boundQueries_ne_nil_iff number).mpr ⟨issue, hissue, hheld⟩ (hstrays.trans hnone)
  · intro hclash
    rw [hbound, bindsQuery_iff_of_noClash hclash, hstrays]

/-- The parameters of the statement of a query without text, and of every statement of a command at
every number, hold a nested query exactly if a binding that stays holds one. The nested queries in
the bindings are the strays of the tree: what a comparison compares with is never among them. -/
theorem strays_bound_iff (c : Compiler) :
    (∀ query statement, query.text = none → c.query query = .ok statement →
      StraysBound 0 query.statementBindings query.statementStrays statement) ∧
    ∀ command number compiled, (∀ text, command ≠ .text text) →
      c.command command number = .ok compiled → ∀ statement ∈ compiled.statements,
        StraysBound number (c.bindings command) (c.strays command) statement := by
  constructor
  · intro query statement htext h
    exact straysBound_of_parameters (query_placed htext h).1 query.boundQueries_statementBindings
  · intro command number compiled htext h statement hstatement
    exact straysBound_of_parameters ((command_placed h).2 statement hstatement htext).parameters
      (c.boundQueries_bindings command)

/-- All nodes, by their keys. -/
def allNodes : Query := { entity := "Node", fields := ["Id"] }

/-- A nested query that a deletion compares with is not bound. -/
theorem comparedNodes_not_bound :
    let command := Command.delete { entity := "Node", query := some { conditions :=
      [⟨.and, .criterion ⟨"ParentId", .isIn, .subquery allNodes, none⟩⟩] } }
    ∃ (compiled : Compiled) (statement : Statement),
      treeCompiler.command command 0 = .ok compiled ∧ statement ∈ compiled.statements ∧
      ∀ p ∈ statement.parameters.items, p.value.queries = [] := by
  intro command
  obtain ⟨compiled, statement, h, hstatement⟩ := exists_singleton_of_length
    (x := treeCompiler.command command 0) (f := Compiled.statements) (by decide +kernel)
  have htext : ∀ text, command ≠ .text text := by
    intro text heq
    simp only [command, reduceCtorEq] at heq
  have hmem : statement ∈ compiled.statements := hstatement ▸ List.mem_singleton_self _
  exact ⟨compiled, statement, h, hmem,
    ((strays_bound_iff treeCompiler).2 command 0 compiled htext h statement hmem).none rfl⟩

/-- The same nested query is bound where it stands in a collection, and where it is inserted. -/
theorem listedNodes_bound :
    let listed : Query := { entity := "Node", fields := ["Name"], conditions :=
      [⟨.and, .criterion ⟨"ParentId", .isIn, .collection [.subquery allNodes], none⟩⟩] }
    let inserted := Command.insert { entity := "Node", values := [("Id", .subquery allNodes)] }
    (treeCompiler.query listed).toOption.map (fun statement =>
        (statement.script.render, statement.parameters.items.map (·.value.queries.length))) =
      some ("SELECT TB.\"NAME\" FROM \"NODE\" TB WHERE TB.\"PARENTID\" IN :ParentId0", [1]) ∧
    (treeCompiler.command inserted 0).toOption.map (fun compiled => compiled.statements.map
        fun statement => statement.parameters.items.map (·.value.queries.length)) =
      some [[1, 0, 0]] := by
  decide +kernel

end QueryLoom
