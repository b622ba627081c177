import QueryLoom.Proofs.SplitTables

/-!
# Tables that traversals read

An update or a deletion of a split entity changes one physical table in each statement, and selects
the keys of the rows from that table. A traversal of its query finds these keys. It is written once,
for all statements, over the table that the schema gives the entity of the query, which is the table
without a split value.

## Implementation notes

A query may name another entity than its command. The table of that entity may be written as one of
the physical tables, and only then does the traversal read the table that is changed.
-/

namespace QueryLoom

/-! ## Identifiers -/

/-- The table of an entity is written otherwise than its physical tables. -/
theorem Conventions.identifier_stem_ne (conventions : Conventions) (stem text : String) :
    conventions.identifier (stem ++ "_" ++ text) ≠ conventions.identifier stem := by
  have hfolded : conventions.folded (stem ++ "_" ++ text) =
      conventions.folded stem ++ "_" ++ conventions.folded text := by
    rw [folded_append, folded_append, folded_underscore]
  rw [identifier_eq, identifier_eq, hfolded]
  generalize conventions.folded stem = stem
  generalize conventions.folded text = text
  have hlength : (stem ++ "_" ++ text).length = stem.length + 1 + text.length := by
    simp only [String.length_append]
    rfl
  have hlabel (name : String) : (SelectItem.quotedLabel name).length = 1 + name.length + 1 := by
    simp only [SelectItem.quotedLabel, String.length_append]
    rfl
  split <;> split <;> intro h
  · have hsame := congrArg String.length (quotedLabel_inj.mp h)
    omega
  · have hsame := congrArg String.length h
    rw [hlabel] at hsame
    omega
  · -- only the table without a split value is quoted
    refine stem_ne_quoted_stem stem.toList text.toList ['"'] ?_
    simpa [SelectItem.quotedLabel, String.toList_append] using congrArg String.toList h
  · have hsame := congrArg String.length h
    omega

/-! ## Traversals of commands -/

/-- A script changes the rows of a table whose keys a traversal of a query finds, and the traversal
reads a table. -/
def Command.Traverses (command : Command) (c : Compiler) (query : Query)
    (table traversed : String) (script : Sql) : Prop :=
  ∃ keys clauses, ∃ own : Traversal, command.Keyed c keys clauses table script ∧
    own.query = query ∧ own.CompiledFrom c ∧
    clauses.condition = SearchText.leaf
      (comparison (c.conventions.column rootAlias own.key) .isIn (own.script c).parens) ∧
    own.table c = traversed

variable {c : Compiler} {command : Command} {change : RowChange} {number : Nat}
  {compiled : Compiled}

/-- The traversal of a query reads the table of its entity. -/
theorem traverses_iff {entity source : Entity} {query : Query} {clauses : Clauses} {s t : Scope}
    (hsource : c.schema.entity query.entity = .ok source) (hrecursion : query.recursion ≠ none)
    (hclauses : Yields (query.clauses c query.fields rootAlias false) s clauses t) {table : String}
    {script : Sql} (hkeyed : command.Keyed c entity.primaryKeys clauses table script)
    (traversed : String) :
    command.Traverses c query table traversed script ↔ traversed = c.table source := by
  have htable {own : Traversal} (hquery : own.query = query) (hown : own.CompiledFrom c) :
      own.table c = c.table source := by
    have hentity := hown.entity
    rw [hquery, hsource] at hentity
    rw [Traversal.table, Except.ok.inj hentity]
  constructor
  · rintro ⟨-, -, own, -, hquery, hown, -, rfl⟩
    exact htable hquery hown
  · rintro rfl
    obtain ⟨traversals, hrecorded⟩ := Query.clauses_recorded query hclauses
    obtain ⟨own, hlast, hquery, -, hcondition⟩ := hrecorded.own hrecursion
    have hown := hrecorded.compiled own (List.mem_of_getLast? hlast)
    exact ⟨_, clauses, own, hkeyed, hquery, hown, hcondition, htable hquery hown⟩

/-- Every statement of a command reads the traversal of its query from the table of the entity of
that query. -/
theorem command_traverses (hchange : command.rowChange? = some change)
    (hrecursion : change.query.recursion ≠ none) (h : c.command command number = .ok compiled) :
    ∃ entity source tables, c.schema.entity change.entity = .ok entity ∧
      c.schema.entity change.query.entity = .ok source ∧
      entity.tableNames change.splitValues = .ok tables ∧
      List.Forall₂ (fun table statement => ∀ traversed,
          command.Traverses c change.query table traversed statement.script ↔
            traversed = c.table source)
        (tables.map c.conventions.identifier) compiled.statements := by
  have hown : change.query.traversing ≠ [] := by
    rw [Query.traversing_eq, if_pos (Option.isSome_iff_ne_none.mpr hrecursion)]
    exact List.append_ne_nil_of_right_ne_nil _ (List.cons_ne_nil _ _)
  obtain ⟨entity, tables, clauses, t, hentity, htables, hclauses, hkeyed⟩ :=
    command_keyed hchange (fun hnone => hown hnone.2) h
  obtain ⟨source, -, -, -, -, -, -, -, -, -, -, -, hsource, -⟩ := Query.clauses_yields hclauses
  refine ⟨entity, source, tables, hentity, hsource, htables, hkeyed.imp ?_⟩
  intro table statement hstatement
  exact traverses_iff hsource hrecursion hclauses hstatement

/-- The statements of a command on a split entity change its physical tables, one each, and the
traversal of its query reads the table of the entity of the query, and no other, in all of them. So
it stays on the table of a statement exactly if the two are written alike, and never does if the
query is about the split entity itself. -/
theorem traversal_stays_iff {entity : Entity} (hchange : command.rowChange? = some change)
    (hentity : c.schema.entity change.entity = .ok entity)
    (hsplit : entity.splitField?.isSome = true) (hrecursion : change.query.recursion ≠ none)
    (h : c.command command number = .ok compiled) :
    ∃ (source : Entity) (names : List String),
      c.schema.entity change.query.entity = .ok source ∧
      (∀ name, name ∈ names ↔
        ∃ value ∈ change.splitValues, name = entity.table ++ "_" ++ value.bareText) ∧
      List.Forall₂ (fun table statement => ∀ traversed,
          command.Traverses c change.query table traversed statement.script ↔
            traversed = c.table source)
        (names.map c.conventions.identifier) compiled.statements ∧
      (change.query.entity = change.entity →
        ∀ table ∈ names.map c.conventions.identifier, table ≠ c.table source) := by
  obtain ⟨entity', source, tables, hentity', hsource, htables, htraverses⟩ :=
    command_traverses hchange hrecursion h
  rw [hentity] at hentity'
  obtain rfl := Except.ok.inj hentity'
  obtain ⟨-, hmem⟩ := Entity.tableNames_eq_ok hsplit htables
  refine ⟨source, tables, hsource, hmem, htraverses, ?_⟩
  intro hsame table htable
  rw [hsame, hentity] at hsource
  obtain rfl := Except.ok.inj hsource
  obtain ⟨name, hname, rfl⟩ := List.mem_map.mp htable
  obtain ⟨value, -, rfl⟩ := (hmem name).mp hname
  exact c.conventions.identifier_stem_ne entity.table value.bareText

/-- Departments under each other, with a table for each region. -/
def departmentEntity : Entity where
  name := "Department"
  table := "DEPARTMENTS"
  fields := [{ property := "Id", column := "Id", role := { primaryKey := true } },
    { property := "ParentId", column := "ParentId" },
    { property := "Region", column := "Region", role := { split := true } }]

/-- A schema of departments, and of those of one region under a name of their own. -/
def departmentCompiler : Compiler where
  schema := ⟨[departmentEntity,
    { departmentEntity with name := "EuDepartment", table := "DEPARTMENTS_EU" }]⟩

/-- Deleting the departments of a region below some in a table. -/
def closeDepartments (entity : String) : Command :=
  .delete { entity := "Department"
            query := some { entity, recursion := some ⟨"Id", "ParentId", .down⟩ }
            splitValues := [.text "eu"] }

/-- A traversal of the departments of the region stays on their table. -/
theorem euDepartments_traversal_stays :
    ∃ (compiled : Compiled) (statement : Statement),
      departmentCompiler.command (closeDepartments "EuDepartment") 0 = .ok compiled ∧
      compiled.statements = [statement] ∧
      (closeDepartments "EuDepartment").Traverses departmentCompiler
        { entity := "EuDepartment", recursion := some ⟨"Id", "ParentId", .down⟩ }
        "\"DEPARTMENTS_EU\"" "\"DEPARTMENTS_EU\"" statement.script := by
  obtain ⟨compiled, statement, h, hone⟩ := exists_singleton_of_length
    (x := departmentCompiler.command (closeDepartments "EuDepartment") 0) (f := Compiled.statements)
    (by decide)
  obtain ⟨source, names, hsource, hnames, htraverses, -⟩ :=
    traversal_stays_iff rfl rfl rfl (by decide) h
  obtain rfl : departmentCompiler.schema.entities[1] = source := Except.ok.inj hsource
  rw [hone, List.forall₂_map_left_iff] at htraverses
  cases htraverses with
  | cons hfirst hrest =>
    rename_i name _
    obtain ⟨value, hvalue, rfl⟩ := (hnames name).mp List.mem_cons_self
    obtain rfl := List.mem_singleton.mp hvalue
    have htable : departmentCompiler.conventions.identifier
        (departmentEntity.table ++ "_" ++ (Value.text "eu").bareText) = "\"DEPARTMENTS_EU\"" := by
      decide
    rw [htable] at hfirst
    exact ⟨compiled, statement, h, hone, (hfirst _).mpr (by decide)⟩

/-- A traversal of the departments themselves reads the table without a region: the keys that it
finds are none of the rows that are deleted. -/
theorem ownDepartments_traversal_strays :
    let query : Query :=
      { entity := "Department", recursion := some ⟨"Id", "ParentId", .down⟩ }
    ∃ (compiled : Compiled) (statement : Statement),
      departmentCompiler.command (closeDepartments "Department") 0 = .ok compiled ∧
      compiled.statements = [statement] ∧
      (closeDepartments "Department").Traverses departmentCompiler query
        "\"DEPARTMENTS_EU\"" "\"DEPARTMENTS\"" statement.script ∧
      ¬ (closeDepartments "Department").Traverses departmentCompiler query
        "\"DEPARTMENTS_EU\"" "\"DEPARTMENTS_EU\"" statement.script := by
  intro query
  obtain ⟨compiled, statement, h, hone⟩ := exists_singleton_of_length
    (x := departmentCompiler.command (closeDepartments "Department") 0) (f := Compiled.statements)
    (by decide)
  obtain ⟨entity, source, tables, hentity, hsource, htables, htraverses⟩ :=
    command_traverses (show (closeDepartments "Department").rowChange? = some _ from rfl)
      (by decide) h
  obtain rfl : departmentEntity = entity := Except.ok.inj hentity
  obtain rfl : departmentEntity = source := Except.ok.inj hsource
  obtain rfl : ["DEPARTMENTS_eu"] = tables := Except.ok.inj htables
  have htable : departmentCompiler.conventions.identifier "DEPARTMENTS_eu" =
      "\"DEPARTMENTS_EU\"" := by
    decide
  have hown : "\"DEPARTMENTS\"" = departmentCompiler.table departmentEntity := by decide
  rw [hone, List.map_singleton, htable, List.forall₂_cons, ← hown] at htraverses
  exact ⟨compiled, statement, h, hone, (htraverses.1 _).mpr rfl,
    fun hstays => absurd ((htraverses.1 _).mp hstays) (by decide)⟩

end QueryLoom
