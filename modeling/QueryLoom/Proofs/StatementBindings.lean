import QueryLoom.Batch
import QueryLoom.Proofs.IssuedBindings
import QueryLoom.Proofs.StatementRuns
import QueryLoom.Statement.Reading

/-!
# Bindings of statements

The statements of a query or a command carry exactly the bindings of its tree, numbered from where
the compilation starts. A statement that reads writes each placeholder once, in every shape; one
that writes leaves out the set operations of its query.
-/

namespace QueryLoom

variable {c : Compiler} {s t : Scope} {entity : Entity} {query : Query}

/-- The collection of numbered bindings put in one after the other. -/
def parametersOf (c : Compiler) (number : Nat) (bindings : List Binding) : Parameters :=
  ((numbered number bindings).map (Issue.parameter c.conventions)).foldl Parameters.insert
    Parameters.empty

theorem mem_names_parametersOf {number : Nat} {bindings : List Binding} {name : String} :
    name ∈ (parametersOf c number bindings).names ↔
      ∃ i ∈ numbered number bindings, i.name = name := by
  rw [parametersOf, Parameters.mem_names_foldl_insert]
  constructor
  · rintro (hempty | ⟨p, hp, hname⟩)
    · exact absurd hempty (List.not_mem_nil)
    · obtain ⟨i, hi, rfl⟩ := List.mem_map.mp hp
      exact ⟨i, hi, by rwa [Issue.name_parameter] at hname⟩
  · rintro ⟨i, hi, hname⟩
    exact .inr ⟨_, List.mem_map_of_mem hi, by rwa [Issue.name_parameter]⟩

/-- What a compilation from a number on hands out is what its statements carry. -/
theorem Issued.parameters_eq {number : Nat} {bindings : List Binding}
    (h : Issued c { nextNumber := number } t bindings) :
    t.parameters = parametersOf c number bindings :=
  h.parameters

/-! ## Statements that read -/

/-- The GROUP BY and HAVING clauses bind what the conditions of groups bind. -/
theorem groupClause_placed {sql : Sql} (h : Yields (c.groupClause entity query) s sql t) :
    Placed c s t query.havingBindings sql.bag := by
  unfold Compiler.groupClause at h
  unfold Query.havingBindings
  by_cases hgroup : query.groupBy.isEmpty = true
  · simp only [hgroup, if_true, yields_pure] at h ⊢
    obtain ⟨rfl, rfl⟩ := h
    exact .refl
  · simp only [hgroup, Bool.false_eq_true, if_false, yields_bind, yields_liftM, yields_pure] at h ⊢
    obtain ⟨columns, _, ⟨-, rfl⟩, having, _, hhaving, rfl, rfl⟩ := h
    obtain ⟨bag, hbag, heq⟩ := foldEntries_placed query.having hhaving
    have hcolumns : ((columns.map (c.conventions.column rootAlias)).map Sql.bag).sum = 0 := by
      rw [List.map_map]
      apply Sql.sum_bag_eq_zero
      intro field _
      exact Conventions.bag_column c.conventions rootAlias field
    have : (Sql.text " GROUP BY " ++ Sql.separated ", "
        (columns.map (c.conventions.column rootAlias)) ++
        Sql.clause " HAVING " having.text.sql).bag = bag := by
      simp only [Sql.bag_append, Sql.bag_text, Sql.bag_separated, Sql.bag_clause, hcolumns, heq,
        SearchText.sql_nil, Sql.bag_nil, zero_add]
    rw [this]
    exact hbag

/-- A selection holds the clauses of its query and its groups, and projects no placeholders. -/
theorem selection_placed {properties : List String} {fields : List Field} {sorted : Bool}
    {clauses : Clauses} {selection : Selection}
    (h : Yields (c.selection entity query properties fields sorted) s (clauses, selection) t) :
    Placed c s t (query.bindings sorted ++ query.havingBindings)
        (selection.body + (selection.sort.map Sql.bag).sum) ∧
      Unbound selection.inner ∧ Unbound selection.outer ∧
      (sorted = false → selection.sort = []) := by
  unfold Compiler.selection at h
  simp only [yields_bind, yields_pure, Prod.mk.injEq] at h
  obtain ⟨_, r, hclauses, group, _, hgroup, ⟨rfl, rfl⟩, rfl⟩ := h
  refine ⟨?_, unbound_items _ _ _ _, unbound_items _ _ _ _, ?_⟩
  · have := (Query.clauses_placed query hclauses).placed.append (groupClause_placed hgroup)
    rw [Clauses.bag] at this
    convert this using 1
    simp only [Selection.body]
    abel
  · rintro rfl
    exact Query.sort_of_unsorted hclauses

theorem bag_expression (sql : Sql) : (Compiler.expression sql).sql.bag = sql.bag := rfl

variable {sql : Sql} {flag : Bool}

theorem rows_placed (h : Yields (c.rows entity query) s (sql, flag) t) :
    Placed c s t (query.bindings true ++ query.havingBindings) sql.bag := by
  unfold Compiler.rows at h
  simp only [yields_bind, yields_liftM, yields_pure, Prod.mk.injEq] at h
  obtain ⟨fields, _, ⟨-, rfl⟩, ⟨clauses, selection⟩, _, hselection, ⟨rfl, rfl⟩, rfl⟩ := h
  obtain ⟨hplaced, hinner, houter, -⟩ := selection_placed hselection
  rw [Selection.bag_limited hinner houter]
  exact hplaced

theorem count_placed (h : Yields (c.count entity query) s (sql, flag) t) :
    Placed c s t (query.bindings false ++ query.havingBindings) sql.bag := by
  unfold Compiler.count at h
  simp only [yields_bind, yields_liftM, yields_pure, Prod.mk.injEq] at h
  obtain ⟨fields, _, ⟨-, rfl⟩, ⟨clauses, selection⟩, _, hselection, ⟨rfl, rfl⟩, rfl⟩ := h
  obtain ⟨hplaced, hinner, houter, -⟩ := selection_placed hselection
  rw [Layers.bag_derived, Selection.bag_limited hinner houter, SelectItem.bag_list]
  simpa [bag_expression] using hplaced

theorem existence_placed (h : Yields (c.existence entity query) s (sql, flag) t) :
    Placed c s t (query.bindings false ++ query.havingBindings) sql.bag := by
  unfold Compiler.existence at h
  extract_lets fields at h
  split at h
  · exact absurd h not_yields_throw
  · simp only [yields_bind, yields_pure, Prod.mk.injEq] at h
    obtain ⟨⟨clauses, selection⟩, _, hselection, ⟨rfl, rfl⟩, rfl⟩ := h
    obtain ⟨hplaced, hinner, -, hsort⟩ := selection_placed hselection
    rw [hsort rfl, List.map_nil, List.sum_nil, add_zero] at hplaced
    simpa [Selection.bag_unordered, SelectItem.bag_list_of_unbound hinner] using hplaced

theorem aggregate_placed {function : AggregateFunction}
    (h : Yields (c.aggregate entity query function) s (sql, flag) t) :
    Placed c s t (query.bindings false ++ query.havingBindings) sql.bag := by
  unfold Compiler.aggregate at h
  simp only [yields_bind, yields_liftM, yields_pure, Prod.mk.injEq] at h
  obtain ⟨field, _, ⟨-, rfl⟩, fields, _, ⟨-, rfl⟩, ⟨clauses, selection⟩, _, hselection,
    ⟨rfl, rfl⟩, rfl⟩ := h
  obtain ⟨hplaced, hinner, -, hsort⟩ := selection_placed hselection
  rw [hsort rfl, List.map_nil, List.sum_nil, add_zero] at hplaced
  have hbody : Selection.body { selection with distinct := false } = selection.body := rfl
  split
  · simpa [SelectItem.bag_list, bag_expression, Selection.bag_unordered,
      SelectItem.bag_list_of_unbound hinner, hbody] using hplaced
  · simpa [SelectItem.bag_list, bag_expression, Selection.bag_unordered, hbody] using hplaced

/-- A page holds a sort once, in the numbering of its rows. -/
theorem pageLayers_bag {selection : Selection} {derived : Bool} {counted ordering : Sql}
    {paging : Paging} (hinner : Unbound selection.inner) (houter : Unbound selection.outer)
    (hcounted : counted.bag = 0) (hordering : ordering.bag = 0) :
    (Compiler.pageLayers selection derived counted ordering paging).sql.bag =
      selection.body + (selection.sort.map Sql.bag).sum := by
  have horder : (if selection.sort.isEmpty then ordering ++ Sql.text " DESC"
      else Sql.separated ", " selection.sort).bag = (selection.sort.map Sql.bag).sum := by
    split
    · rename_i hempty
      simp [List.isEmpty_iff.mp hempty, hordering]
    · exact Sql.bag_separated ", " selection.sort
  have hitems : (selection.outer.map fun item => item.sql.bag).sum = 0 := by
    rw [← SelectItem.bag_list]
    exact SelectItem.bag_list_of_unbound houter
  have hwindow : (selection.inner.map fun item => item.sql.bag).sum = 0 := by
    rw [← SelectItem.bag_list]
    exact SelectItem.bag_list_of_unbound hinner
  unfold Compiler.pageLayers
  cases derived <;>
    simp only [if_true, Bool.false_eq_true, if_false, Layers.bag_orderedBy, Layers.bag_derived,
      Selection.bag_unordered, SelectItem.bag_list, List.map_append, List.map_cons, List.map_nil,
      List.sum_append, List.sum_cons, List.sum_nil, bag_expression, Sql.bag_append, Sql.bag_text,
      hcounted, horder, hitems, hwindow, zero_add, add_zero] <;>
    exact add_comm _ _

theorem page_placed {paging : Paging}
    (h : Yields (c.page entity query paging) s (sql, flag) t) :
    Placed c s t (query.bindings true ++ query.havingBindings) sql.bag := by
  unfold Compiler.page at h
  simp only [yields_bind, yields_liftM] at h
  obtain ⟨fields, _, ⟨-, rfl⟩, h⟩ := h
  split at h
  · exact absurd h not_yields_throw
  · rename_i default _
    simp only [yields_bind, yields_pure, Prod.mk.injEq] at h
    obtain ⟨⟨clauses, selection⟩, _, hselection, ⟨rfl, rfl⟩, rfl⟩ := h
    obtain ⟨hplaced, hinner, houter, -⟩ := selection_placed hselection
    have hcolumns (derived : Bool) : (c.pageColumns derived fields default).1.bag = 0 ∧
        (c.pageColumns derived fields default).2.bag = 0 := by
      unfold Compiler.pageColumns
      split
      · exact ⟨Sql.bag_text "1", rfl⟩
      · exact ⟨rfl, rfl⟩
    rw [pageLayers_bag hinner houter (hcolumns _).1 (hcolumns _).2]
    exact hplaced

/-- A statement that reads carries the bindings of its query, and writes each of them once. -/
theorem query_placed {statement : Statement} (htext : query.text = none)
    (h : c.query query = .ok statement) :
    statement.parameters = parametersOf c 0 query.statementBindings ∧
      statement.script.bag = issueBag 0 query.statementBindings := by
  unfold Compiler.query at h
  rw [htext] at h
  simp only [except_bind_eq_ok] at h
  obtain ⟨entity, -, ⟨⟨script, flag⟩, scope⟩, hrun, h⟩ := h
  cases h
  have hselect := runFrom_eq_ok.mp hrun
  have hplaced : Placed c { nextNumber := 0 } scope query.statementBindings script.bag := by
    unfold Compiler.select at hselect
    unfold Query.statementBindings
    split at hselect
    · rename_i houtput _
      rw [houtput]
      exact page_placed hselect
    · rename_i houtput _
      rw [houtput]
      exact rows_placed hselect
    · rename_i houtput
      rw [houtput]
      exact count_placed hselect
    · rename_i houtput
      rw [houtput]
      exact existence_placed hselect
    · rename_i houtput
      rw [houtput]
      exact aggregate_placed hselect
  exact ⟨hplaced.toIssued.parameters_eq, hplaced.bag_eq⟩

/-! ## Statements that write -/

section Writing

theorem insertedColumns_placed {values : List (String × Value)} {fields : List Field}
    {columns : List String} {placeholders : List Sql}
    (h : Yields (c.insertedColumns values fields) s (columns, placeholders) t) :
    Placed c s t
      (fields.map fun field =>
        .input field.property (((values.find? (·.1 == field.property)).map (·.2)).getD .null))
      (placeholders.map Sql.bag).sum := by
  induction fields generalizing s columns placeholders with
  | nil =>
    rw [Compiler.insertedColumns, yields_pure, Prod.mk.injEq] at h
    obtain ⟨⟨rfl, rfl⟩, rfl⟩ := h
    exact .refl
  | cons field rest ih =>
    rw [Compiler.insertedColumns] at h
    simp only [yields_bind, yields_pure, Prod.mk.injEq] at h
    obtain ⟨placeholder, r, hplaceholder, ⟨columns, placeholders⟩, _, hrest, ⟨rfl, rfl⟩, rfl⟩ := h
    simpa using (bind_placed hplaceholder).append (ih hrest)

theorem returning_placed {field? : Option Field} {sql : Sql}
    (h : Yields (c.returning field?) s sql t) :
    Placed c s t (field?.toList.map (.output ·.property)) sql.bag := by
  cases field? with
  | none =>
    obtain ⟨rfl, rfl⟩ := yields_pure.mp h
    exact .refl
  | some field =>
    simp only [Compiler.returning, yields_bind, yields_pure] at h
    obtain ⟨output, _, houtput, rfl, rfl⟩ := h
    simpa using bindOutput_placed houtput

theorem setItems_placed {assignments : List (String × Assignment)} {items : List Sql}
    {fields : List Field} (h : Yields (c.setItems entity assignments) s (items, fields) t) :
    Placed c s t (assignmentBindings assignments) (items.map Sql.bag).sum := by
  induction assignments generalizing s items fields with
  | nil =>
    rw [Compiler.setItems, yields_pure, Prod.mk.injEq] at h
    obtain ⟨⟨rfl, rfl⟩, rfl⟩ := h
    exact .refl
  | cons first rest ih =>
    obtain ⟨property, assignment⟩ := first
    cases assignment with
    | value value =>
      simp only [Compiler.setItems, yields_bind, yields_liftM, yields_pure, Prod.mk.injEq] at h
      obtain ⟨field, _, ⟨-, rfl⟩, operand, r, hoperand, ⟨items, fields⟩, _, hrest, ⟨rfl, rfl⟩,
        rfl⟩ := h
      simpa [assignmentBindings] using (bind_placed hoperand).append (ih hrest)
    | calculate op value =>
      simp only [Compiler.setItems, yields_bind, yields_liftM, yields_pure, Prod.mk.injEq] at h
      obtain ⟨field, _, ⟨-, rfl⟩, operand, r, hoperand, _, _, ⟨rfl, rfl⟩, ⟨items, fields⟩, _,
        hrest, ⟨rfl, rfl⟩, rfl⟩ := h
      simpa [assignmentBindings] using (bind_placed hoperand).append (ih hrest)

/-- The rows that a command chooses are the placeholders of condition and joins. -/
theorem keySelect_bag (keys : List Field) (table : String) (clauses : Clauses) :
    (c.keySelect keys table clauses).bag =
      (JoinedTable.list clauses.usableJoin).bag + clauses.condition.sql.bag :=
  bag_plainSelect (unbound_items _ _ _ _) table rootAlias clauses.usableJoin clauses.condition

/-- Clauses without joins of their own have none to write. -/
theorem usableJoin_bag_of_not_needsKeys {clauses : Clauses}
    (h : Compiler.needsKeys clauses = false) :
    (JoinedTable.list clauses.usableJoin).bag = 0 := by
  simp only [Compiler.needsKeys, Bool.or_eq_false_iff, Clauses.hasJoin, Bool.not_eq_false',
    List.isEmpty_iff] at h
  rw [h.1]
  rfl

theorem updateScript_bag (items : List Sql) (clauses : Clauses) (table : String) :
    (Compiler.updateScript items clauses table).bag =
      clauses.condition.sql.bag + (items.map Sql.bag).sum := by
  simp [Compiler.updateScript, Sql.bag_separated, add_comm]

theorem mergeScript_bag (keys : List Field) (items : List Sql) (clauses : Clauses)
    (table : String) :
    (c.mergeScript keys items clauses table).bag =
      clauses.condition.sql.bag + (JoinedTable.list clauses.usableJoin).bag +
        (items.map Sql.bag).sum := by
  have hequality : (c.keyEquality keys).bag = 0 := by
    rw [Compiler.keyEquality, Sql.bag_separated, List.map_map]
    apply Sql.sum_bag_eq_zero
    intro key _
    simp
  simp only [Compiler.mergeScript, Sql.bag_append, Sql.bag_text, Sql.bag_parens, keySelect_bag,
    hequality, Sql.bag_separated, zero_add, add_zero]
  abel

theorem keyedDeleteScript_bag (keys : List Field) (clauses : Clauses) (table : String) :
    (c.keyedDeleteScript keys clauses table).bag =
      clauses.condition.sql.bag + (JoinedTable.list clauses.usableJoin).bag := by
  simp only [Compiler.keyedDeleteScript, Sql.bag_append, Sql.bag_text, Sql.bag_parens,
    SelectItem.bag_list_of_unbound (unbound_items _ _ _ _), keySelect_bag, zero_add, add_zero]
  exact add_comm _ _

theorem deleteScript_bag (clauses : Clauses) (table : String) :
    (Compiler.deleteScript clauses table).bag = clauses.condition.sql.bag := by
  simp [Compiler.deleteScript]

end Writing

/-- The query that chooses the rows of a command. -/
def Command.selection? : Command → Option Query
  | .update command => some (Compiler.scopedQuery command.query command.entity)
  | .delete command => some (Compiler.scopedQuery command.query command.entity)
  | _ => none

/-- The bindings of the set operations in the query of a command, as they are numbered. -/
def Command.combinedIssues (number : Nat) (command : Command) : List Issue :=
  match command.selection? with
  | some query =>
    numbered (number + (entryBindings query.conditions).length) (combineBindings query.combines)
  | none => []

/-- A statement that writes carries the bindings of its command. Its script writes each of them
once, apart from those of set operations, which it does not write at all. -/
structure CommandPlaced (c : Compiler) (command : Command) (number : Nat) (statement : Statement) :
    Prop where
  parameters : statement.parameters = parametersOf c number (c.bindings command)
  script : statement.script.bag + writtenBag (command.combinedIssues number) =
    issueBag number (c.bindings command)

theorem perTable_placed {command : Command} {tables : List String} {number : Nat} {scope : Scope}
    {mustAffect hasTraversal : Bool} {script : String → Sql}
    (hissued : Issued c { nextNumber := number } scope (c.bindings command))
    (hscript : ∀ table, (script table).bag + writtenBag (command.combinedIssues number) =
      issueBag number (c.bindings command)) :
    let compiled := c.perTable tables scope mustAffect hasTraversal script
    compiled.nextParameter = number + (c.bindings command).length ∧
      ∀ statement ∈ compiled.statements, CommandPlaced c command number statement := by
  refine ⟨hissued.nextNumber, ?_⟩
  intro statement hstatement
  obtain ⟨table, -, rfl⟩ := List.mem_map.mp hstatement
  exact ⟨hissued.parameters_eq, hscript _⟩

theorem insertBody_placed {values : List (String × Value)} {body : Sql}
    (h : Yields (c.insertBody entity values) s body t) (command : InsertCommand)
    (hvalues : command.values = values) :
    Placed c s t (command.bindings entity) body.bag := by
  subst hvalues
  unfold Compiler.insertBody at h
  simp only [yields_bind, yields_pure] at h
  obtain ⟨⟨columns, placeholders⟩, r, hcolumns, returning, _, hreturning, rfl, rfl⟩ := h
  have := (insertedColumns_placed hcolumns).append (returning_placed hreturning)
  simpa [InsertCommand.bindings, Sql.bag_separated] using this

theorem insert_placed {command : InsertCommand} {number : Nat} {compiled : Compiled}
    (h : c.insert command number = .ok compiled) :
    compiled.nextParameter = number + (c.bindings (.insert command)).length ∧
      ∀ statement ∈ compiled.statements,
        CommandPlaced c (.insert command) number statement := by
  obtain ⟨entity, body, scope, tables, hentity, -, hbody, -, rfl⟩ := insert_eq_ok h
  have hplaced := insertBody_placed hbody command rfl
  have hbindings : c.bindings (.insert command) = command.bindings entity := by
    simp only [Compiler.bindings, hentity]
  rw [← hbindings] at hplaced
  refine perTable_placed hplaced.toIssued ?_
  intro table
  rw [Sql.bag_append, Sql.bag_text, zero_add, hplaced.bag_eq]
  exact add_zero _

/-- The bindings of the query of a command: its conditions, its set operations and its joins. -/
theorem issueBag_selection (query : Query) (number : Nat) :
    issueBag number (query.bindings false) =
      issueBag number (entryBindings query.conditions) +
        issueBag (number + (entryBindings query.conditions).length)
          (combineBindings query.combines) +
        issueBag (number + (entryBindings query.conditions ++
          combineBindings query.combines).length) (joinBindings query.joins) := by
  simp only [Query.bindings_eq, Bool.false_eq_true, if_false, List.append_nil, issueBag_append]

/-- The clauses that choose rows leave out exactly the set operations. -/
theorem ClausesPlaced.rows_combined {query : Query} {clauses : Clauses}
    (h : ClausesPlaced c query false s t clauses) :
    clauses.condition.sql.bag + (JoinedTable.list clauses.usableJoin).bag +
        writtenBag (numbered (s.nextNumber + (entryBindings query.conditions).length)
          (combineBindings query.combines)) =
      issueBag s.nextNumber (query.bindings false) := by
  rw [h.rows, issueBag_selection]
  simp only [Bool.false_eq_true, if_false, List.append_nil]
  change _ + issueBag _ (combineBindings query.combines) = _
  abel

theorem delete_placed {command : DeleteCommand} {number : Nat} {compiled : Compiled}
    (h : c.delete command number = .ok compiled) :
    compiled.nextParameter = number + (c.bindings (.delete command)).length ∧
      ∀ statement ∈ compiled.statements,
        CommandPlaced c (.delete command) number statement := by
  obtain ⟨entity, clauses, scope, tables, -, hyields, -, hform⟩ := delete_eq_ok h
  have hclauses := Query.clauses_placed _ hyields
  have hrows := hclauses.rows_combined
  rcases hform with ⟨-, keys, -, rfl⟩ | ⟨hplain, rfl⟩
  · refine perTable_placed hclauses.issued ?_
    intro table
    rw [keyedDeleteScript_bag]
    exact hrows
  · refine perTable_placed hclauses.issued ?_
    intro table
    rw [usableJoin_bag_of_not_needsKeys hplain, add_zero] at hrows
    rw [deleteScript_bag]
    exact hrows

theorem update_placed {command : UpdateCommand} {number : Nat} {compiled : Compiled}
    (h : c.update command number = .ok compiled) :
    compiled.nextParameter = number + (c.bindings (.update command)).length ∧
      ∀ statement ∈ compiled.statements,
        CommandPlaced c (.update command) number statement := by
  obtain ⟨entity, clauses, r, items, fields, scope, tables, -, -, hyields, hitems, -, hform⟩ :=
    update_eq_ok h
  have hclauses := Query.clauses_placed _ hyields
  have hassigned := setItems_placed hitems
  have hissued := hclauses.issued.append hassigned.toIssued
  have hbag := congrArg (· + (items.map Sql.bag).sum) hclauses.rows_combined
  simp only [hassigned.bag_eq, hclauses.issued.nextNumber, ← issueBag_append] at hbag
  have hitemsBag := hassigned.bag_eq
  rw [hclauses.issued.nextNumber] at hitemsBag
  rcases hform with ⟨-, keys, -, -, rfl⟩ | ⟨hplain, rfl⟩
  · refine perTable_placed hissued ?_
    intro table
    refine Eq.trans ?_ hbag
    rw [mergeScript_bag, hitemsBag]
    exact add_right_comm _ _ _
  · refine perTable_placed hissued ?_
    intro table
    refine Eq.trans ?_ hbag
    rw [updateScript_bag, hitemsBag, usableJoin_bag_of_not_needsKeys hplain, add_zero]
    exact add_right_comm _ _ _

/-- Every statement that a command yields carries the bindings of the command, numbered from where
the compilation starts, and the next command is numbered on from there. -/
theorem command_placed {command : Command} {number : Nat} {compiled : Compiled}
    (h : c.command command number = .ok compiled) :
    compiled.nextParameter = number + (c.bindings command).length ∧
      ∀ statement ∈ compiled.statements, (∀ text, command ≠ .text text) →
        CommandPlaced c command number statement := by
  cases command with
  | insert command =>
    obtain ⟨hnext, hall⟩ := insert_placed h
    exact ⟨hnext, fun statement hstatement _ => hall statement hstatement⟩
  | update command =>
    obtain ⟨hnext, hall⟩ := update_placed h
    exact ⟨hnext, fun statement hstatement _ => hall statement hstatement⟩
  | delete command =>
    obtain ⟨hnext, hall⟩ := delete_placed h
    exact ⟨hnext, fun statement hstatement _ => hall statement hstatement⟩
  | text command =>
    cases h
    exact ⟨rfl, fun statement _ htext => absurd rfl (htext command)⟩

end QueryLoom
