import QueryLoom.Proofs.ChosenForms
import QueryLoom.Proofs.LevelColumns

/-!
# Columns of the table that a command changes

The table that an update or a deletion changes and the table that its query chooses rows from stand
under the same alias. The table, the keys and the assignments are those of the entity of the
command; the conditions, joins and traversals are looked up in the entity of the query. So what
stands under the alias are columns of the one table exactly if the fields that the query names on
its own level have columns of it, and nothing but a query over the same entity makes sure of that.
-/

namespace QueryLoom

/-! ## Columns of an entity -/

/-- A name is that of a column of an entity, as it is written. -/
def Compiler.HasColumn (c : Compiler) (entity : Entity) (name : String) : Prop :=
  ∃ field ∈ entity.fields, name = c.conventions.identifier field.column

section Commands

variable {c : Compiler} {entity : Entity}

theorem hasColumn_of_mem_columnNames {properties : List String} {name : String}
    (h : name ∈ c.columnNames entity properties) : c.HasColumn entity name := by
  obtain ⟨property, -, hfield⟩ := List.mem_filterMap.mp h
  cases hlook : entity.field property with
  | error e =>
    rw [hlook] at hfield
    cases hfield
  | ok field =>
    rw [hlook] at hfield
    cases hfield
    exact ⟨field, (Entity.field_eq_ok hlook).2, rfl⟩

theorem hasColumn_of_mem_items {own : String} {labelled : Bool} {fields : List Field}
    (hfields : ∀ field ∈ fields, field ∈ entity.fields) {name : String}
    (h : name ∈ (SelectItem.list (fields.map (c.conventions.item own labelled))).under own) :
    c.HasColumn entity name := by
  rw [SelectItem.under_list, List.mem_flatMap] at h
  obtain ⟨item, hitem, hname⟩ := h
  obtain ⟨field, hfield, rfl⟩ := List.mem_map.mp hitem
  rw [Sql.mem_under, Conventions.mem_columns_item] at hname
  exact ⟨field, hfields field hfield, congrArg Prod.snd hname.1⟩

/-- SET items write columns of the entity of the command. -/
theorem setItems_under {assignments : List (String × Assignment)} {items : List Sql}
    {fields : List Field} {s t : Scope}
    (h : Yields (c.setItems entity assignments) s (items, fields) t) :
    ∀ name ∈ (Sql.separated ", " items).under rootAlias, c.HasColumn entity name := by
  rw [Sql.under_separated]
  induction assignments generalizing s items fields with
  | nil =>
    simp only [Compiler.setItems, yields_pure, Prod.mk.injEq] at h
    obtain ⟨⟨rfl, -⟩, -⟩ := h
    exact List.forall_mem_nil _
  | cons first rest ih =>
    obtain ⟨field, value, operand, r, others, otherFields, hfield, hbind, hrest, rfl, -⟩ :=
      setItems_cons_yields h
    rw [List.flatMap_cons, List.forall_mem_append]
    refine ⟨?_, ih hrest⟩
    intro name hname
    refine ⟨field, (Entity.field_eq_ok hfield).2, ?_⟩
    cases hassignment : first.2 with
    | value value => simp [hassignment, Assignment.written, bind_under hbind] at hname
    | calculate op value =>
      simpa [hassignment, Assignment.written, bind_under hbind, Conventions.under_column]
        using hname

/-- The equality of keys writes columns of the entity of the command. -/
theorem keyEquality_under {keys : List Field} (hkeys : ∀ key ∈ keys, key ∈ entity.fields) :
    ∀ name ∈ (c.keyEquality keys).under rootAlias, c.HasColumn entity name := by
  have hmerge : Compiler.mergeAlias ≠ rootAlias := by decide
  intro name hname
  rw [Compiler.keyEquality, Sql.under_separated, List.flatMap_map, List.mem_flatMap] at hname
  obtain ⟨key, hkey, hname⟩ := hname
  refine ⟨key, hkeys key hkey, ?_⟩
  simpa [Conventions.under_column, hmerge] using hname

/-! ## Statements -/

/-- Under the root alias a script writes some columns, and beside them columns of an entity only. -/
structure WritesRows (c : Compiler) (entity : Entity) (names : List String) (script : Sql) :
    Prop where
  rows : ∀ name ∈ names, name ∈ script.under rootAlias
  others : ∀ name ∈ script.under rootAlias, name ∈ names ∨ c.HasColumn entity name

/-- The columns that the clauses of the query of a command write under the root alias. -/
def Clauses.rowNames (clauses : Clauses) : List String :=
  clauses.condition.sql.under rootAlias ++
    (JoinedTable.list clauses.usableJoin).under rootAlias

variable {clauses : Clauses} {keys : List Field} {items : List Sql}

/-- Without joins of its own a query writes its columns in its condition. -/
theorem rowNames_of_not_needsKeys (h : Compiler.needsKeys clauses = false) :
    clauses.rowNames = clauses.condition.sql.under rootAlias := by
  unfold Compiler.needsKeys Clauses.hasJoin at h
  simp only [Bool.or_eq_false_iff, Bool.not_eq_false', List.isEmpty_iff] at h
  rw [Clauses.rowNames, h.1, JoinedTable.under_list_nil, List.append_nil]

theorem updateScript_writesRows (h : Compiler.needsKeys clauses = false)
    (hitems : ∀ name ∈ (Sql.separated ", " items).under rootAlias, c.HasColumn entity name)
    (table : String) :
    WritesRows c entity clauses.rowNames (Compiler.updateScript items clauses table) := by
  rw [rowNames_of_not_needsKeys h]
  constructor
  · intro name hname
    simp [Compiler.updateScript, hname]
  · intro name hname
    simp only [Compiler.updateScript, Sql.under_append, Sql.under_text, Sql.under_clause,
      List.nil_append, List.mem_append] at hname
    exact hname.symm.imp_right (hitems name)

theorem deleteScript_writesRows (h : Compiler.needsKeys clauses = false) (table : String) :
    WritesRows c entity clauses.rowNames (Compiler.deleteScript clauses table) := by
  rw [rowNames_of_not_needsKeys h]
  constructor
  · intro name hname
    simpa [Compiler.deleteScript] using hname
  · intro name hname
    exact .inl (by simpa [Compiler.deleteScript] using hname)

/-- The SELECT of the keys writes the columns of the query and those of the keys. -/
theorem mem_under_keySelect {table name : String} :
    name ∈ (c.keySelect keys table clauses).under rootAlias ↔
      name ∈ (SelectItem.list (keys.map (c.conventions.item rootAlias false))).under rootAlias ∨
        name ∈ clauses.rowNames := by
  rw [Compiler.keySelect, under_plainSelect, Clauses.rowNames]
  simp only [List.mem_append]
  tauto

theorem mergeScript_writesRows (hkeys : ∀ key ∈ keys, key ∈ entity.fields)
    (hitems : ∀ name ∈ (Sql.separated ", " items).under rootAlias, c.HasColumn entity name)
    (table : String) :
    WritesRows c entity clauses.rowNames (c.mergeScript keys items clauses table) := by
  have hscript (name : String) :
      name ∈ (c.mergeScript keys items clauses table).under rootAlias ↔
        name ∈ (c.keySelect keys table clauses).under rootAlias ∨
          name ∈ (c.keyEquality keys).under rootAlias ∨
          name ∈ (Sql.separated ", " items).under rootAlias := by
    simp [Compiler.mergeScript]
  constructor
  · intro name hname
    exact (hscript name).mpr (.inl (mem_under_keySelect.mpr (.inr hname)))
  · intro name hname
    rcases (hscript name).mp hname with hselect | hequality | hitem
    · rcases mem_under_keySelect.mp hselect with hkey | hrow
      · exact .inr (hasColumn_of_mem_items hkeys hkey)
      · exact .inl hrow
    · exact .inr (keyEquality_under hkeys name hequality)
    · exact .inr (hitems name hitem)

theorem keyedDeleteScript_writesRows (hkeys : ∀ key ∈ keys, key ∈ entity.fields)
    (table : String) :
    WritesRows c entity clauses.rowNames (c.keyedDeleteScript keys clauses table) := by
  have hdelete : Compiler.deleteAlias ≠ rootAlias := by decide
  have hscript (name : String) :
      name ∈ (c.keyedDeleteScript keys clauses table).under rootAlias ↔
        name ∈ (c.keySelect keys table clauses).under rootAlias := by
    simp [Compiler.keyedDeleteScript, items_under hdelete]
  constructor
  · intro name hname
    exact (hscript name).mpr (mem_under_keySelect.mpr (.inr hname))
  · intro name hname
    rcases mem_under_keySelect.mp ((hscript name).mp hname) with hkey | hrow
    · exact .inr (hasColumn_of_mem_items hkeys hkey)
    · exact .inl hrow

theorem perTable_writesRows {tables : List String} {scope : Scope} {mustAffect hasTraversal : Bool}
    {names : List String} {script : String → Sql}
    (hscript : ∀ table, WritesRows c entity names (script table)) :
    ∀ statement ∈ (c.perTable tables scope mustAffect hasTraversal script).statements,
      WritesRows c entity names statement.script := by
  intro statement hstatement
  obtain ⟨table, -, rfl⟩ := List.mem_map.mp hstatement
  exact hscript _

theorem primaryKeys_fields {keys : List Field} (h : entity.requirePrimaryKeys = .ok keys) :
    ∀ key ∈ keys, key ∈ entity.fields := by
  obtain ⟨rfl, -⟩ := Entity.requirePrimaryKeys_eq_ok h
  exact fun key hkey => List.mem_of_mem_filter hkey

/-- On the root level a query writes the columns of its level. -/
theorem rowNames_eq {query : Query} {fields : List String} {number : Nat} {t : Scope}
    (h : Yields (query.clauses c fields rootAlias false) { nextNumber := number } clauses t) :
    ∃ source, c.schema.entity query.entity = .ok source ∧
      clauses.rowNames = c.columnNames source (c.levelProperties source query) := by
  obtain ⟨source, hsource, hunder⟩ := Query.clauses_under query (settled_rootAlias _) h
  exact ⟨source, hsource, hunder.rows.trans (namesUnder_self _)⟩

/-- Every statement of a command that changes rows writes, under the root alias, the columns of the
level of its query, and beside them columns of its entity only. -/
theorem command_writesRows {command : Command} {change : RowChange} {number : Nat}
    {compiled : Compiled} (hchange : command.rowChange? = some change)
    (h : c.command command number = .ok compiled) :
    ∃ entity source, c.schema.entity change.entity = .ok entity ∧
      c.schema.entity change.query.entity = .ok source ∧
      ∀ statement ∈ compiled.statements,
        WritesRows c entity (c.columnNames source (c.levelProperties source change.query))
          statement.script := by
  cases command with
  | insert command => cases hchange
  | text command => cases hchange
  | update command =>
    cases hchange
    obtain ⟨entity, clauses, r, items, fields, scope, tables, hentity, -, hclauses, hitems, -,
      hform⟩ := update_eq_ok h
    obtain ⟨source, hsource, hrows⟩ := rowNames_eq hclauses
    refine ⟨entity, source, hentity, hsource, ?_⟩
    rw [← hrows]
    rcases hform with ⟨-, keys, hkeys, -, rfl⟩ | ⟨hneeds, rfl⟩
    · exact perTable_writesRows
        (mergeScript_writesRows (primaryKeys_fields hkeys) (setItems_under hitems))
    · exact perTable_writesRows (updateScript_writesRows hneeds (setItems_under hitems))
  | delete command =>
    cases hchange
    obtain ⟨entity, clauses, scope, tables, hentity, hclauses, -, hform⟩ := delete_eq_ok h
    obtain ⟨source, hsource, hrows⟩ := rowNames_eq hclauses
    refine ⟨entity, source, hentity, hsource, ?_⟩
    rw [← hrows]
    rcases hform with ⟨-, keys, hkeys, rfl⟩ | ⟨hneeds, rfl⟩
    · exact perTable_writesRows (keyedDeleteScript_writesRows (primaryKeys_fields hkeys))
    · exact perTable_writesRows (deleteScript_writesRows hneeds)

/-- In every statement of an update or a deletion, what stands under the root alias are columns of
the entity of the command exactly if the fields that the query names on its own level have columns
of it. A query over the entity of the command, which is the one that names no entity, makes sure of
that; a query over another entity is compiled all the same. -/
theorem rootColumns_own_iff {command : Command} {change : RowChange} {number : Nat}
    {compiled : Compiled} (hchange : command.rowChange? = some change)
    (h : c.command command number = .ok compiled) :
    ∃ entity source, c.schema.entity change.entity = .ok entity ∧
      c.schema.entity change.query.entity = .ok source ∧
      ∀ statement ∈ compiled.statements,
        ((∀ name, (rootAlias, name) ∈ statement.script.columns → c.HasColumn entity name) ↔
          ∀ name ∈ c.columnNames source (c.levelProperties source change.query),
            c.HasColumn entity name) ∧
        (change.query.entity = change.entity →
          ∀ name, (rootAlias, name) ∈ statement.script.columns → c.HasColumn entity name) := by
  obtain ⟨entity, source, hentity, hsource, hwrites⟩ := command_writesRows hchange h
  refine ⟨entity, source, hentity, hsource, ?_⟩
  intro statement hstatement
  have hrows := hwrites statement hstatement
  have hown : (∀ name, (rootAlias, name) ∈ statement.script.columns → c.HasColumn entity name) ↔
      ∀ name ∈ c.columnNames source (c.levelProperties source change.query),
        c.HasColumn entity name := by
    constructor
    · intro hall name hname
      exact hall name (Sql.mem_under.mp (hrows.rows name hname))
    · intro hall name hname
      exact (hrows.others name (Sql.mem_under.mpr hname)).elim (hall name) id
  refine ⟨hown, ?_⟩
  intro hsame
  rw [hsame, hentity] at hsource
  obtain rfl := Except.ok.inj hsource
  exact hown.mpr fun name hname => hasColumn_of_mem_columnNames hname

end Commands

/-- Renaming the nodes under some parent names no column of another table. -/
theorem renamedNodes_rootColumns_own :
    let command := renameNodes { conditions :=
      [⟨.and, .criterion ⟨"ParentId", .equal, .int 7, none⟩⟩] }
    ∃ (compiled : Compiled) (statement : Statement),
      treeCompiler.command command 0 = .ok compiled ∧ statement ∈ compiled.statements ∧
      ∀ name, (rootAlias, name) ∈ statement.script.columns →
        treeCompiler.HasColumn nodeEntity name := by
  intro command
  obtain ⟨compiled, statement, h, hstatement⟩ := exists_singleton_of_length
    (x := treeCompiler.command command 0) (f := Compiled.statements) (by decide +kernel)
  have hmem : statement ∈ compiled.statements := hstatement ▸ List.mem_singleton_self _
  obtain ⟨entity, source, hentity, -, hown⟩ := rootColumns_own_iff rfl h
  obtain rfl : nodeEntity = entity := Except.ok.inj hentity
  exact ⟨compiled, statement, h, hmem, (hown statement hmem).2 rfl⟩

/-- Books with titles, and readers with names. -/
def libraryCompiler : Compiler where
  schema := ⟨[
    { name := "Book", table := "BOOK", fields := [{ property := "Title", column := "Title" }] },
    { name := "Reader", table := "READER", fields := [{ property := "Name", column := "Name" }] }]⟩

/-- A deletion of books by a query over readers asks the books for a name, which they have not. -/
theorem deletedBooks_rootColumns_foreign :
    let named : Query := { entity := "Reader", conditions :=
      [⟨.and, .criterion ⟨"Name", .equal, .text "Ann", none⟩⟩] }
    let command := Command.delete { entity := "Book", query := some named }
    (libraryCompiler.command command 0).toOption.map (fun compiled =>
        compiled.statements.map fun statement =>
          (statement.script.render, statement.script.columns)) =
      some [("DELETE \"BOOK\" TB WHERE TB.\"NAME\" = :Name0", [(rootAlias, "\"NAME\"")])] ∧
    ∃ entity, libraryCompiler.schema.entity "Book" = .ok entity ∧
      ¬ libraryCompiler.HasColumn entity "\"NAME\"" := by
  refine ⟨by decide +kernel, _, rfl, ?_⟩
  unfold Compiler.HasColumn
  decide +kernel

end QueryLoom
