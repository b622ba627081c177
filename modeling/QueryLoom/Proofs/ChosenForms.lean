import Mathlib.Data.List.Forall2
import QueryLoom.Proofs.RecordedTraversals
import QueryLoom.Proofs.StatementRuns

/-!
# Forms of statements that change rows

An update or a deletion chooses its rows by the condition alone if its query has neither joins nor
compiled traversals, and by the primary keys of selected rows otherwise. The choice is made from
the text of the joins and from the recorded traversals, and agrees with the tree of the query.

## Implementation notes

The two forms of one table are told apart by their text, so that the choice can be read off the
script. A table of an awkward name could look like the lead of another form; a deletion of one
table still has one form only.
-/

namespace QueryLoom

/-! ## Commands that change rows -/

/-- What a command that changes rows is about: its entity, the split values of its tables, the query
that chooses the rows, and the properties that it assigns. -/
structure RowChange where
  entity : String
  splitValues : List Value
  query : Query
  assigned : List String

/-- What a command changes, if it updates or deletes rows. -/
def Command.rowChange? : Command → Option RowChange
  | .update command =>
    some ⟨command.entity, command.splitValues,
      Compiler.scopedQuery command.query command.entity, command.assignments.map (·.1)⟩
  | .delete command =>
    some ⟨command.entity, command.splitValues,
      Compiler.scopedQuery command.query command.entity, []⟩
  | _ => none

/-- A script changes the rows of one table alone. -/
def Command.SingleTable (command : Command) (table : String) (script : Sql) : Prop :=
  match command with
  | .update _ =>
    ∃ rest, script.render = "UPDATE " ++ table ++ " " ++ rootAlias ++ " SET " ++ rest
  | .delete _ => ∃ rest, script.render = "DELETE " ++ table ++ " " ++ rootAlias ++ rest
  | _ => False

/-- A script changes the rows of a table whose primary keys are selected, from the joins of the query
and with its condition. -/
def Command.Keyed (command : Command) (c : Compiler) (keys : List Field) (clauses : Clauses)
    (table : String) (script : Sql) : Prop :=
  let source := plainSelect (keys.map (c.conventions.item rootAlias false)) table rootAlias
    clauses.usableJoin clauses.condition
  match command with
  | .update _ => ∃ items : List Sql, script =
      Sql.text ("MERGE INTO " ++ table ++ " " ++ rootAlias ++ " USING ") ++ source.parens ++
        Sql.text (" " ++ Compiler.mergeAlias ++ " ON ") ++
        (Sql.separated " AND " (keys.map fun key => c.conventions.column rootAlias key ++
          Sql.text " = " ++ c.conventions.column Compiler.mergeAlias key)).parens ++
        Sql.text " WHEN MATCHED THEN UPDATE SET " ++ Sql.separated ", " items
  | .delete _ => script =
      Sql.text ("DELETE FROM " ++ table ++ " " ++ Compiler.deleteAlias ++ " WHERE ") ++
        (SelectItem.list (keys.map (c.conventions.item Compiler.deleteAlias false))).parens ++
        Sql.text " IN " ++ source.parens
  | _ => False

/-- The name of a table is not the word FROM and the name of that table again. -/
theorem deleted_ne_deletedFrom : (table x y : List Char) →
    table ++ ' ' :: 'T' :: x ≠ 'F' :: 'R' :: 'O' :: 'M' :: ' ' :: (table ++ ' ' :: 'D' :: y)
  | [], x, y => by simp
  | [a], x, y => by simp
  | [a, b], x, y => by simp
  | [a, b, d], x, y => by simp
  | [a, b, d, e], x, y => by
    rintro ⟨⟩
  | a :: b :: d :: e :: f :: rest, x, y => by
    intro h
    simp only [List.cons_append, List.cons.injEq] at h
    obtain ⟨rfl, rfl, rfl, rfl, rfl, h⟩ := h
    exact deleted_ne_deletedFrom rest x y h

/-- A script has one of the two forms at most. -/
theorem Command.not_singleTable_of_keyed {command : Command} {c : Compiler} {keys : List Field}
    {clauses : Clauses} {table : String} {script : Sql}
    (h : command.Keyed c keys clauses table script) : ¬ command.SingleTable table script := by
  cases command with
  | update command =>
    obtain ⟨items, rfl⟩ := h
    rintro ⟨rest, hrest⟩
    have hchars := congrArg (fun text => text.toList.head?) hrest
    simp [Sql.render_append, Sql.render_text, String.toList_append] at hchars
  | delete command =>
    cases h
    rintro ⟨rest, hrest⟩
    have hchars := congrArg String.toList hrest
    simp [Sql.render_append, Sql.render_text, String.toList_append, Compiler.deleteAlias,
      rootAlias] at hchars
    exact deleted_ne_deletedFrom _ _ _ hchars.symm
  | insert command => cases h
  | text command => cases h

/-! ## What the choice is made from -/

variable {c : Compiler} {s t : Scope} {entity : Entity} {tableAlias : String}

/-- Joins are compiled to some tables unless there are none. -/
theorem joinTables_eq_nil_iff {condition joining : Predicate} {joins : List Join}
    {join : List JoinedTable}
    (h : Yields (joinTables c entity tableAlias condition joins) s (join, joining) t) :
    join = [] ↔ joins = [] := by
  cases joins with
  | nil =>
    obtain ⟨rfl, -, -⟩ := joinTables_nil_yields.mp h
    exact ⟨fun _ => rfl, fun _ => rfl⟩
  | cons first rest =>
    obtain ⟨nestedAlias, r₁, target, sub, r₂, tables, between, r₃, others, -, -, -, htables, -,
      rfl⟩ := joinTables_cons_yields h
    have hne : tables ≠ [] := by
      rcases joinedTables_yields htables with ⟨-, -, on, -, rfl, -⟩ |
        ⟨-, -, derivedAlias, projected, on, -, -, -, rfl⟩ <;> exact List.cons_ne_nil _ _
    simp [hne]

/-- The clauses of a query hold its joins, whether the query carries them or its traversal does. -/
theorem Query.clauses_join_isEmpty {query : Query} {fields : List String} {sorted : Bool}
    {clauses : Clauses} (h : Yields (query.clauses c fields tableAlias sorted) s clauses t) :
    clauses.join.isEmpty = query.joins.isEmpty := by
  obtain ⟨entity, innerAlias, r₁, condition, r₂, sort, r₃, combine, trace, r₄, join, joining,
    -, -, -, -, -, hjoin, hclauses⟩ := Query.clauses_yields h
  have hkept : clauses.join = join := by
    rcases traversal_eq_ok hclauses with ⟨-, rfl⟩ | ⟨spec, key, relation, -, -, -, rfl⟩ <;> rfl
  rw [hkept, Bool.eq_iff_iff, List.isEmpty_iff, List.isEmpty_iff]
  exact joinTables_eq_nil_iff hjoin

/-- Traversals are noticed exactly if the tree of the query has some. -/
theorem Query.clauses_hasTraversal {query : Query} {fields : List String} {sorted : Bool}
    {clauses : Clauses} (h : Yields (query.clauses c fields tableAlias sorted) s clauses t) :
    clauses.hasTraversal = !query.traversing.isEmpty := by
  obtain ⟨traversals, hrecorded⟩ := Query.clauses_recorded query h
  rw [Clauses.hasTraversal, hrecorded.trace, ← hrecorded.queries, List.isEmpty_map,
    List.isEmpty_map]

/-- Keys are needed exactly if the query has joins or traversals. -/
theorem Query.clauses_needsKeys {query : Query} {fields : List String} {sorted : Bool}
    {clauses : Clauses} (h : Yields (query.clauses c fields tableAlias sorted) s clauses t) :
    Compiler.needsKeys clauses = !(query.joins.isEmpty && query.traversing.isEmpty) := by
  rw [Compiler.needsKeys, Query.clauses_hasTraversal h, Bool.not_and]
  cases hrecursion : query.recursion with
  | none =>
    -- the query carries its joins itself
    obtain ⟨traversals, hrecorded⟩ := Query.clauses_recorded query h
    have hallow : clauses.allowJoin = true := by
      rw [hrecorded.allowJoin, hrecursion]
      rfl
    rw [Clauses.hasJoin, Clauses.usableJoin, if_pos hallow, Query.clauses_join_isEmpty h]
  | some spec =>
    have hown : query.traversing.isEmpty = false := by
      rw [Query.traversing_eq, hrecursion, List.isEmpty_eq_false_iff]
      exact List.append_ne_nil_of_right_ne_nil _ (List.cons_ne_nil _ _)
    rw [hown, Bool.not_false, Bool.or_true, Bool.or_true]

/-! ## Tables, keys and assigned fields -/

theorem Entity.foldl_addName_ne_nil {names added : List String} (h : names ≠ []) :
    added.foldl Entity.addName names ≠ [] := by
  induction added generalizing names with
  | nil => exact h
  | cons first rest ih =>
    apply ih
    unfold Entity.addName
    split
    · exact h
    · exact List.append_ne_nil_of_right_ne_nil _ (List.cons_ne_nil _ _)

/-- A command has a table at least. -/
theorem Entity.tableNames_ne_nil {splitValues : List Value} {tables : List String}
    (h : entity.tableNames splitValues = .ok tables) : tables ≠ [] := by
  unfold Entity.tableNames at h
  split at h
  · cases h
    exact List.cons_ne_nil _ _
  · split at h
    · cases h
    · rename_i hvalues
      simp only [except_bind_eq_ok] at h
      obtain ⟨names, hnames, h⟩ := h
      cases h
      cases splitValues with
      | nil => exact absurd rfl hvalues
      | cons first rest =>
        simp only [List.mapM_cons, except_bind_eq_ok] at hnames
        obtain ⟨name, -, others, -, hnames⟩ := hnames
        cases hnames
        have hfirst : Entity.addName [] name ≠ [] := List.cons_ne_nil _ _
        change List.foldl Entity.addName (Entity.addName [] name) others ≠ []
        exact Entity.foldl_addName_ne_nil hfirst

theorem Entity.requirePrimaryKeys_eq_ok {keys : List Field}
    (h : entity.requirePrimaryKeys = .ok keys) :
    keys = entity.primaryKeys ∧ entity.primaryKeys ≠ [] := by
  unfold Entity.requirePrimaryKeys at h
  split at h
  · cases h
  · rename_i hne
    cases h
    exact ⟨rfl, hne⟩

/-- The fields that an update assigns are those of its properties. -/
theorem mem_of_setItems {assignments : List (String × Assignment)} {items : List Sql}
    {fields : List Field} (h : Yields (c.setItems entity assignments) s (items, fields) t) :
    ∀ property ∈ assignments.map (·.1), ∀ field, entity.field property = .ok field →
      field ∈ fields := by
  induction assignments generalizing items fields s with
  | nil => exact List.forall_mem_nil _
  | cons first rest ih =>
    obtain ⟨assigned, -, -, r, others, otherFields, hassigned, -, hrest, -, rfl⟩ :=
      setItems_cons_yields h
    rw [List.map_cons, List.forall_mem_cons]
    constructor
    · intro field hfield
      rw [hassigned] at hfield
      cases hfield
      exact List.mem_cons_self
    · intro other hother field hfield
      exact List.mem_cons_of_mem _ (ih hrest other hother field hfield)

/-! ## The form of a command -/

theorem updateScript_singleTable (command : UpdateCommand) (items : List Sql) (clauses : Clauses)
    (table : String) :
    (Command.update command).SingleTable table (Compiler.updateScript items clauses table) := by
  refine ⟨(Sql.separated ", " items ++ Sql.clause " WHERE " clauses.condition.sql).render, ?_⟩
  simp only [Compiler.updateScript, Sql.render_append, Sql.render_text, String.append_assoc]

theorem deleteScript_singleTable (command : DeleteCommand) (clauses : Clauses) (table : String) :
    (Command.delete command).SingleTable table (Compiler.deleteScript clauses table) := by
  refine ⟨(Sql.clause " WHERE " clauses.condition.sql).render, ?_⟩
  rw [Compiler.deleteScript, Sql.render_append, Sql.render_text]

/-- A statement has the form that its query asks for, and runs alone if there are traversals. -/
structure Statement.Chosen (command : Command) (c : Compiler) (query : Query) (keys : List Field)
    (clauses : Clauses) (table : String) (statement : Statement) : Prop where
  single : command.SingleTable table statement.script ↔ query.joins = [] ∧ query.traversing = []
  keyed : command.Keyed c keys clauses table statement.script ↔
    ¬ (query.joins = [] ∧ query.traversing = [])
  alone : statement.alone = true ↔ query.traversing ≠ []
  hasTraversal : statement.hasTraversal = true ↔ query.traversing ≠ []

section PerTable

variable {command : Command} {query : Query} {keys : List Field} {clauses : Clauses}
  {tables : List String} {scope : Scope} {mustAffect : Bool} {script : String → Sql}

theorem perTable_single (hneeds : (query.joins.isEmpty && query.traversing.isEmpty) = true)
    (hscript : ∀ table, command.SingleTable table (script table)) :
    List.Forall₂ (fun table => Statement.Chosen command c query keys clauses
        (c.conventions.identifier table)) tables
      (c.perTable tables scope mustAffect false script).statements := by
  simp only [Bool.and_eq_true, List.isEmpty_iff] at hneeds
  rw [Compiler.perTable, List.forall₂_map_right_iff, List.forall₂_same]
  intro table _
  have hsingle := hscript (c.conventions.identifier table)
  constructor
  · exact iff_of_true hsingle hneeds
  · exact iff_of_false (fun hkeyed => Command.not_singleTable_of_keyed hkeyed hsingle)
      (not_not_intro hneeds)
  · exact iff_of_false Bool.false_ne_true (not_not_intro hneeds.2)
  · exact iff_of_false Bool.false_ne_true (not_not_intro hneeds.2)

theorem perTable_keyed (hneeds : (query.joins.isEmpty && query.traversing.isEmpty) = false)
    (hscript : ∀ table, command.Keyed c keys clauses table (script table)) :
    List.Forall₂ (fun table => Statement.Chosen command c query keys clauses
        (c.conventions.identifier table)) tables
      (c.perTable tables scope mustAffect (!query.traversing.isEmpty) script).statements := by
  have hchosen : ¬ (query.joins = [] ∧ query.traversing = []) := by
    rintro ⟨hjoins, htraversing⟩
    rw [hjoins, htraversing] at hneeds
    cases hneeds
  have hflag : (!query.traversing.isEmpty) = true ↔ query.traversing ≠ [] := by
    rw [Bool.not_eq_true', List.isEmpty_eq_false_iff]
  rw [Compiler.perTable, List.forall₂_map_right_iff, List.forall₂_same]
  intro table _
  have hkeyed := hscript (c.conventions.identifier table)
  constructor
  · exact iff_of_false (Command.not_singleTable_of_keyed hkeyed) hchosen
  · exact iff_of_true hkeyed hchosen
  · exact hflag
  · exact hflag

end PerTable

/-- Every statement of an update or a deletion changes the rows of one table alone if the query has
neither joins nor compiled traversals, and goes by all primary keys, selected from the joins and
with the condition of the query, otherwise; then there are primary keys, and none is assigned. It
runs alone exactly if there are traversals. -/
theorem forms_chosen {command : Command} {change : RowChange} {number : Nat} {compiled : Compiled}
    (hchange : command.rowChange? = some change) (h : c.command command number = .ok compiled) :
    ∃ (entity : Entity) (clauses : Clauses) (tables : List String) (t : Scope),
      c.schema.entity change.entity = .ok entity ∧
      Yields (change.query.clauses c change.query.fields rootAlias false)
        { nextNumber := number } clauses t ∧
      entity.tableNames change.splitValues = .ok tables ∧ tables ≠ [] ∧
      List.Forall₂ (fun table => Statement.Chosen command c change.query entity.primaryKeys clauses
        (c.conventions.identifier table)) tables compiled.statements ∧
      (¬ (change.query.joins = [] ∧ change.query.traversing = []) → entity.primaryKeys ≠ [] ∧
        ∀ property ∈ change.assigned, ∀ field, entity.field property = .ok field →
          field.role.primaryKey = false) := by
  have hneither {query : Query}
      (hneeds : (!(query.joins.isEmpty && query.traversing.isEmpty)) = false) :
      (query.joins.isEmpty && query.traversing.isEmpty) = true ∧
        (query.joins = [] ∧ query.traversing = []) := by
    rw [Bool.not_eq_false'] at hneeds
    refine ⟨hneeds, ?_⟩
    rwa [Bool.and_eq_true, List.isEmpty_iff, List.isEmpty_iff] at hneeds
  cases command with
  | insert command => cases hchange
  | text command => cases hchange
  | update command =>
    cases hchange
    obtain ⟨entity, clauses, r, items, fields, scope, tables, hentity, -, hclauses, hitems, htables,
      hform⟩ := update_eq_ok h
    refine ⟨entity, clauses, tables, r, hentity, hclauses, htables,
      Entity.tableNames_ne_nil htables, ?_⟩
    rw [Query.clauses_needsKeys hclauses, Query.clauses_hasTraversal hclauses] at hform
    rcases hform with ⟨hneeds, keys, hkeys, hassigned, rfl⟩ | ⟨hneeds, rfl⟩
    · obtain ⟨rfl, hne⟩ := Entity.requirePrimaryKeys_eq_ok hkeys
      rw [Bool.not_eq_true'] at hneeds
      refine ⟨perTable_keyed hneeds fun table => ⟨items, rfl⟩, ?_⟩
      intro _
      refine ⟨hne, ?_⟩
      intro property hproperty field hfield
      have hmem := mem_of_setItems hitems property hproperty field hfield
      exact Bool.eq_false_iff.mpr (List.find?_eq_none.mp hassigned field hmem)
    · obtain ⟨hneeds, hnone⟩ := hneither hneeds
      exact ⟨perTable_single hneeds (updateScript_singleTable command items clauses),
        fun hnot => absurd hnone hnot⟩
  | delete command =>
    cases hchange
    obtain ⟨entity, clauses, scope, tables, hentity, hclauses, htables, hform⟩ := delete_eq_ok h
    refine ⟨entity, clauses, tables, scope, hentity, hclauses, htables,
      Entity.tableNames_ne_nil htables, ?_⟩
    rw [Query.clauses_needsKeys hclauses, Query.clauses_hasTraversal hclauses] at hform
    rcases hform with ⟨hneeds, keys, hkeys, rfl⟩ | ⟨hneeds, rfl⟩
    · obtain ⟨rfl, hne⟩ := Entity.requirePrimaryKeys_eq_ok hkeys
      rw [Bool.not_eq_true'] at hneeds
      exact ⟨perTable_keyed hneeds fun table => rfl, fun _ => ⟨hne, List.forall_mem_nil _⟩⟩
    · obtain ⟨hneeds, hnone⟩ := hneither hneeds
      exact ⟨perTable_single hneeds (deleteScript_singleTable command clauses),
        fun hnot => absurd hnone hnot⟩

/-- The update of the names of the nodes that a query chooses. -/
def renameNodes (query : Query) : Command :=
  .update { entity := "Node", assignments := [("Name", .value (.text "leaf"))], query := some query }

/-- Renaming the nodes below others goes by their keys, and runs alone. -/
theorem renamedBelow_keyed :
    let below := nodesBelow [] [] []
    let command := renameNodes
      { conditions := [⟨.and, .criterion ⟨"Id", .isIn, .subquery below, none⟩⟩] }
    ∃ (compiled : Compiled) (clauses : Clauses) (statement : Statement),
      treeCompiler.command command 0 = .ok compiled ∧ compiled.statements = [statement] ∧
      command.Keyed treeCompiler nodeEntity.primaryKeys clauses "\"NODE\"" statement.script ∧
      statement.alone = true := by
  intro below command
  obtain ⟨compiled, h⟩ := exists_ok_of_isSome (x := treeCompiler.command command 0)
    (by decide +kernel)
  obtain ⟨entity, clauses, tables, t, hentity, -, htables, -, hforms, -⟩ := forms_chosen rfl h
  obtain rfl : nodeEntity = entity := Except.ok.inj hentity
  obtain rfl : [nodeEntity.table] = tables := Except.ok.inj htables
  obtain ⟨statement, rest, hchosen, hrest, hstatements⟩ := List.forall₂_cons_left_iff.mp hforms
  rw [List.forall₂_nil_left_iff.mp hrest] at hstatements
  have htraversing : (Compiler.scopedQuery (some
      { conditions := [⟨.and, .criterion ⟨"Id", .isIn, .subquery below, none⟩⟩] })
      "Node").traversing ≠ [] := List.cons_ne_nil _ _
  refine ⟨compiled, clauses, statement, h, hstatements, ?_, hchosen.alone.mpr htraversing⟩
  exact hchosen.keyed.mpr fun hneither => htraversing hneither.2

/-- A query that a comparison without operand carries along is not compiled, and its traversal
changes nothing; the traversal of a joined query makes the statement run alone. -/
theorem carriedTraversal_singleTable :
    let below := nodesBelow [] [] []
    let carrying := renameNodes
      { conditions := [⟨.and, .criterion ⟨"ParentId", .isNull, .subquery below, none⟩⟩] }
    let joining := renameNodes { joins := [⟨.inner, [("Id", "Id")], .equal, below⟩] }
    below.recursion ≠ none ∧
      (treeCompiler.command carrying 0).toOption.map (fun compiled => compiled.statements.map
          fun statement => (statement.script.render, statement.hasTraversal, statement.alone)) =
        some [("UPDATE \"NODE\" TB SET \"NAME\" = :Name0 WHERE TB.\"PARENTID\" IS NULL", false,
          false)] ∧
      (treeCompiler.command joining 0).toOption.map (fun compiled => compiled.statements.map
          fun statement => (statement.script.render, statement.hasTraversal, statement.alone)) =
        some [("MERGE INTO \"NODE\" TB USING (SELECT TB.\"ID\" FROM \"NODE\" TB INNER JOIN " ++
          "\"NODE\" TSB0 ON TB.\"ID\" = TSB0.\"ID\" WHERE TSB0.\"ID\" IN (SELECT TSB1.\"ID\" " ++
          "FROM \"NODE\" TSB1 START WITH 1 = 1 CONNECT BY PRIOR TSB1.\"ID\" = TSB1.\"PARENTID\")) " ++
          "UTB ON (TB.\"ID\" = UTB.\"ID\") WHEN MATCHED THEN UPDATE SET \"NAME\" = :Name0", true,
          true)] := by
  refine ⟨?_, ?_, ?_⟩
  · exact Option.some_ne_none _
  · decide +kernel
  · decide +kernel

end QueryLoom
