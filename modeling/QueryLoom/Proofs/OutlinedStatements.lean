import QueryLoom.Proofs.OutlinedCompilation
import QueryLoom.Statement.Reading

/-!
# Statements of outlines

Values never reach the text of a statement. Queries with the same outline fail with the same error
or compile to statements that differ in the values of their parameters only, and so do commands on
entities that are not split.
-/

namespace QueryLoom

variable {c : Compiler}

/-- Two statements with the same script, the same flags, and parameters of the same names and
directions in the same order. -/
structure Statement.SameButValues (a b : Statement) : Prop where
  script : a.script = b.script
  kind : a.kind = b.kind
  mustAffect : a.mustAffect = b.mustAffect
  hasTraversal : a.hasTraversal = b.hasTraversal
  alone : a.alone = b.alone
  bound : a.parameters.items.map (fun p => (p.name, p.direction)) =
    b.parameters.items.map (fun p => (p.name, p.direction))

/-- Two commands whose statements are the same one by one, the values of their parameters apart,
and that use up as many parameter numbers. -/
structure Compiled.SameButValues (a b : Compiled) : Prop where
  statements : List.Forall₂ Statement.SameButValues a.statements b.statements
  nextParameter : a.nextParameter = b.nextParameter

theorem Parameters.outline_bound (ps : Parameters) :
    ps.outline.items.map (fun p => (p.name, p.direction)) =
      ps.items.map (fun p => (p.name, p.direction)) := by
  simp [Parameters.outline, Function.comp_def, Parameter.outline]

theorem Statement.SameButValues.of_outline {a b : Statement} (h : a.outline = b.outline) :
    a.SameButValues b := by
  have hbound := congrArg (fun s : Statement =>
    s.parameters.items.map fun p => (p.name, p.direction)) h
  simp only [Statement.outline, Parameters.outline_bound] at hbound
  exact ⟨congrArg (·.script) h, congrArg (·.kind) h, congrArg (·.mustAffect) h,
    congrArg (·.hasTraversal) h, congrArg (·.alone) h, hbound⟩

theorem Compiled.SameButValues.of_outline {a b : Compiled} (h : a.outline = b.outline) :
    a.SameButValues b := by
  have hstatements : a.statements.map Statement.outline = b.statements.map Statement.outline :=
    congrArg (·.statements) h
  have hsame : List.Forall₂ (fun s t => s.outline = t.outline) a.statements b.statements := by
    rw [← List.forall₂_eq_eq_eq] at hstatements
    exact List.forall₂_map_left_iff.mp (List.forall₂_map_right_iff.mp hstatements)
  refine ⟨hsame.imp ?_, congrArg (·.nextParameter) h⟩
  intro s t houtline
  exact .of_outline houtline

/-- A compilation and its mirror image, run from the same number on. -/
theorem Mirrors.runFrom {α : Type} {m n : Compile α} (h : Mirrors m n) (number : Nat) :
    Agree (fun a b => a.1 = b.1 ∧ Scope.Alike a.2 b.2) (m.runFrom number) (n.runFrom number) :=
  Corresponds.runFrom h ⟨rfl, rfl, rfl⟩

/-! ## Queries -/

theorem groupClause_mirrors (entity : Entity) (query : Query) :
    Mirrors (c.groupClause entity query) (c.groupClause entity query.outline) := by
  rw [Query.outline_eq]
  unfold Compiler.groupClause
  cases query.groupBy.isEmpty with
  | true => exact mirrors_pure _
  | false =>
    refine (mirrors_liftM _).bind fun columns => ?_
    exact (foldEntries_mirrors _ entity rootAlias {}).bind fun having => mirrors_pure _

theorem selection_mirrors (entity : Entity) (query : Query) (properties : List String)
    (fields : List Field) (sorted : Bool) :
    Mirrors (c.selection entity query properties fields sorted)
      (c.selection entity query.outline properties fields sorted) := by
  refine (Query.clauses_mirrors query properties rootAlias sorted).bind fun clauses => ?_
  refine (groupClause_mirrors entity query).bind fun group => ?_
  rw [Query.outline_eq]
  exact mirrors_pure _

theorem rows_mirrors (entity : Entity) (query : Query) :
    Mirrors (c.rows entity query) (c.rows entity query.outline) := by
  unfold Compiler.rows
  rw [Query.fields_outline]
  refine (mirrors_liftM _).bind fun fields => ?_
  refine (selection_mirrors entity query query.fields fields true).bind fun selected => ?_
  rw [Query.outline_eq]
  exact mirrors_pure _

theorem page_mirrors (entity : Entity) (query : Query) (paging : Paging) :
    Mirrors (c.page entity query paging) (c.page entity query.outline paging) := by
  unfold Compiler.page
  rw [Query.fields_outline]
  refine (mirrors_liftM _).bind fun fields => ?_
  cases entity.defaultField? with
  | none => exact mirrors_throw _
  | some default =>
    refine (selection_mirrors entity query query.fields fields true).bind fun selected => ?_
    exact mirrors_pure _

theorem count_mirrors (entity : Entity) (query : Query) :
    Mirrors (c.count entity query) (c.count entity query.outline) := by
  unfold Compiler.count
  rw [Query.fields_outline]
  refine (mirrors_liftM _).bind fun fields => ?_
  refine (selection_mirrors entity query query.fields fields false).bind fun selected => ?_
  rw [Query.outline_eq]
  exact mirrors_pure _

theorem isEmpty_outlineCombines (combines : List Combine) :
    (outlineCombines combines).isEmpty = combines.isEmpty := by
  rcases combines with _ | ⟨⟨kind, query⟩, rest⟩ <;> rfl

theorem existence_mirrors (entity : Entity) (query : Query) :
    Mirrors (c.existence entity query) (c.existence entity query.outline) := by
  unfold Compiler.existence
  have hcombines : query.outline.combines.isEmpty = query.combines.isEmpty := by
    rw [Query.outline_eq, isEmpty_outlineCombines]
  rw [Query.fields_outline, hcombines]
  dsimp only
  -- the primary keys answer the test, or else the default field does
  split
  all_goals
    split
    · exact mirrors_throw _
    · exact (selection_mirrors entity query _ _ false).bind fun selected => mirrors_pure _

theorem aggregate_mirrors (entity : Entity) (query : Query) (function : AggregateFunction) :
    Mirrors (c.aggregate entity query function) (c.aggregate entity query.outline function) := by
  unfold Compiler.aggregate
  rw [Query.fields_outline]
  refine (mirrors_liftM _).bind fun field => ?_
  refine (mirrors_liftM _).bind fun fields => ?_
  refine (selection_mirrors entity query query.fields fields false).bind fun selected => ?_
  exact mirrors_pure _

/-- The SELECT of a query is that of its outline, whatever its output asks for. -/
theorem select_mirrors (entity : Entity) (query : Query) :
    Mirrors (c.select entity query) (c.select entity query.outline) := by
  have houtput : query.outline.output = query.output := by rw [Query.outline_eq]
  have hpaging : query.outline.paging = query.paging := by rw [Query.outline_eq]
  unfold Compiler.select
  rw [houtput, hpaging]
  cases query.output with
  | rows =>
    cases query.paging with
    | none => exact rows_mirrors entity query
    | some paging => exact page_mirrors entity query paging
  | count => exact count_mirrors entity query
  | existence => exact existence_mirrors entity query
  | aggregate function => exact aggregate_mirrors entity query function

theorem outline_outline (ps : Parameters) : ps.outline.outline = ps.outline := by
  simp [Parameters.outline, Parameter.outline]

/-- Statements made alike have the same outline, the values of their parameters apart. -/
theorem outline_compiled {script : Sql} {ps qs : Parameters} {mustAffect hasTraversal : Bool}
    (h : ps.outline = qs.outline) :
    (Statement.compiled script ps mustAffect hasTraversal).outline =
      (Statement.compiled script qs mustAffect hasTraversal).outline := by
  simp only [Statement.outline, Statement.compiled, h]

/-- The statement of a query is that of its outline, the values of its parameters apart. -/
theorem query_outline (query : Query) :
    (c.query query).map Statement.outline = (c.query query.outline).map Statement.outline := by
  have htext : query.outline.text = query.text.map TextScript.outline := by rw [Query.outline_eq]
  unfold Compiler.query
  rw [htext, Query.entity_outline]
  cases query.text with
  | some text => exact congrArg Except.ok (outline_compiled (outline_outline text.parameters).symm)
  | none =>
    apply Agree.map_eq
    refine Agree.bind_same fun entity => ?_
    refine ((select_mirrors entity query).runFrom 0).bind ?_
    rintro ⟨⟨script, hasTraversal⟩, s⟩ ⟨_, t⟩ ⟨rfl, halike⟩
    exact .ok (outline_compiled halike.parameters)

/-! ## Commands -/

theorem perTable_outline {tables : List String} {s t : Scope} {mustAffect hasTraversal : Bool}
    {script : String → Sql} (h : Scope.Alike s t) :
    (c.perTable tables s mustAffect hasTraversal script).outline =
      (c.perTable tables t mustAffect hasTraversal script).outline := by
  have hstatements : ∀ table : String,
      (Statement.compiled (script (c.conventions.identifier table)) s.parameters mustAffect
        hasTraversal).outline =
      (Statement.compiled (script (c.conventions.identifier table)) t.parameters mustAffect
        hasTraversal).outline := fun table => outline_compiled h.parameters
  simp [Compiled.outline, Compiler.perTable, hstatements, h.nextNumber, Function.comp_def]

/-- An entity that is not split has one physical table, whatever the split values. -/
theorem tableNames_of_unsplit {entity : Entity} (h : entity.splitField? = none)
    (splitValues : List Value) : entity.tableNames splitValues = .ok [entity.table] := by
  simp [Entity.tableNames, h]

theorem insertedColumns_mirrors (values : List (String × Value)) (fields : List Field) :
    Mirrors (c.insertedColumns values fields)
      (c.insertedColumns (values.map fun (property, _) => (property, .null)) fields) := by
  induction fields with
  | nil => exact mirrors_pure _
  | cons field rest ih =>
    refine (bind_mirrors _ _ _).bind fun placeholder => ?_
    exact ih.bind fun others => mirrors_pure _

theorem returning_mirrors (field : Option Field) :
    Mirrors (c.returning field) (c.returning field) := by
  cases field with
  | none => exact mirrors_pure _
  | some field => exact (bindOutput_mirrors _).bind fun output => mirrors_pure _

theorem insertBody_mirrors (entity : Entity) (values : List (String × Value)) :
    Mirrors (c.insertBody entity values)
      (c.insertBody entity (values.map fun (property, _) => (property, .null))) := by
  refine (insertedColumns_mirrors values _).bind fun inserted => ?_
  exact (returning_mirrors _).bind fun returning => mirrors_pure _

/-- Whether every property of an insertion is known does not depend on the values. -/
theorem checked_outline (entity : Entity) (values : List (String × Value)) :
    ((values.map fun (property, _) => (property, Value.null)).forM
        fun (property, _) => (do let _ ← entity.field property) : Except Error PUnit) =
      values.forM fun (property, _) => (do let _ ← entity.field property) := by
  simp only [List.forM_eq_forM, List.forM_map]

theorem insert_outline (command : InsertCommand) (number : Nat)
    (hsplit : ∀ entity, c.schema.entity command.entity = .ok entity → entity.splitField? = none) :
    Agree (fun a b => Compiled.outline a = Compiled.outline b) (c.insert command number)
      (c.insert command.outline number) := by
  unfold Compiler.insert InsertCommand.outline
  refine Agree.bind_answer fun entity hentity => ?_
  rw [checked_outline]
  split
  · exact .error _
  · refine Agree.bind_same fun checked => ?_
    refine ((insertBody_mirrors entity command.values).runFrom number).bind ?_
    rintro ⟨body, s⟩ ⟨_, t⟩ ⟨rfl, halike⟩
    dsimp only
    rw [tableNames_of_unsplit (hsplit entity hentity),
      tableNames_of_unsplit (hsplit entity hentity)]
    exact .ok (perTable_outline halike)

theorem setItems_mirrors (entity : Entity) (assignments : List (String × Assignment)) :
    Mirrors (c.setItems entity assignments)
      (c.setItems entity (assignments.map (Prod.map id Assignment.outline))) := by
  induction assignments with
  | nil => exact mirrors_pure _
  | cons first rest ih =>
    obtain ⟨property, assignment⟩ := first
    refine (mirrors_liftM _).bind fun field => ?_
    cases assignment with
    | value value =>
      refine (bind_mirrors property value _).bind fun operand => ?_
      exact ih.bind fun others => mirrors_pure _
    | calculate op value =>
      refine (bind_mirrors property value _).bind fun operand => ?_
      exact ih.bind fun others => mirrors_pure _

/-- The query of an update or a deletion is over the same entity as its outline. -/
theorem scopedQuery_outline (query : Option Query) (entity : String) :
    Compiler.scopedQuery (query.map Query.outline) entity =
      (Compiler.scopedQuery query entity).outline := by
  cases query with
  | none => rfl
  | some query =>
    simp only [Compiler.scopedQuery, Option.map_some, Option.getD_some]
    rw [Query.entity_outline]
    cases query.entity.isEmpty with
    | true => rw [if_pos rfl, if_pos rfl, Query.outline_eq, Query.outline_eq]
    | false => rfl

/-- The clauses of an update with its SET items and their fields. -/
theorem clausesAndItems_mirrors (query : Query) (entity : Entity)
    (assignments : List (String × Assignment)) :
    Mirrors
      (do
        let clauses ← query.clauses c query.fields rootAlias false
        let (items, fields) ← c.setItems entity assignments
        return (clauses, items, fields))
      (do
        let clauses ← query.outline.clauses c query.outline.fields rootAlias false
        let (items, fields) ←
          c.setItems entity (assignments.map (Prod.map id Assignment.outline))
        return (clauses, items, fields)) := by
  rw [Query.fields_outline]
  refine (Query.clauses_mirrors query query.fields rootAlias false).bind fun clauses => ?_
  exact (setItems_mirrors entity assignments).bind fun set => mirrors_pure _

theorem update_outline (command : UpdateCommand) (number : Nat)
    (hsplit : ∀ entity, c.schema.entity command.entity = .ok entity → entity.splitField? = none) :
    Agree (fun a b => Compiled.outline a = Compiled.outline b) (c.update command number)
      (c.update command.outline number) := by
  unfold Compiler.update UpdateCommand.outline
  dsimp only
  refine Agree.bind_answer fun entity hentity => ?_
  rw [List.isEmpty_map, scopedQuery_outline]
  split
  · exact .error _
  · refine ((clausesAndItems_mirrors _ entity command.assignments).runFrom number).bind ?_
    rintro ⟨⟨clauses, items, fields⟩, s⟩ ⟨_, t⟩ ⟨rfl, halike⟩
    dsimp only
    rw [tableNames_of_unsplit (hsplit entity hentity),
      tableNames_of_unsplit (hsplit entity hentity)]
    refine Agree.bind_same fun tables => ?_
    split
    · refine Agree.bind_same fun keys => ?_
      split
      · exact .error _
      · exact .ok (perTable_outline halike)
    · exact .ok (perTable_outline halike)

theorem delete_outline (command : DeleteCommand) (number : Nat)
    (hsplit : ∀ entity, c.schema.entity command.entity = .ok entity → entity.splitField? = none) :
    Agree (fun a b => Compiled.outline a = Compiled.outline b) (c.delete command number)
      (c.delete command.outline number) := by
  unfold Compiler.delete DeleteCommand.outline
  dsimp only
  refine Agree.bind_answer fun entity hentity => ?_
  rw [scopedQuery_outline, Query.fields_outline]
  refine ((Query.clauses_mirrors _ _ _ _).runFrom number).bind ?_
  rintro ⟨clauses, s⟩ ⟨_, t⟩ ⟨rfl, halike⟩
  dsimp only
  rw [tableNames_of_unsplit (hsplit entity hentity),
    tableNames_of_unsplit (hsplit entity hentity)]
  refine Agree.bind_same fun tables => ?_
  split
  · exact Agree.bind_same fun keys => .ok (perTable_outline halike)
  · exact .ok (perTable_outline halike)

/-! ## Values outside the text -/

/-- The entity of a command is not split into several physical tables. -/
def Command.Unsplit (schema : Schema) : Command → Prop
  | .insert { entity := name, .. } | .update { entity := name, .. }
  | .delete { entity := name, .. } =>
    ∀ entity, schema.entity name = .ok entity → entity.splitField? = none
  | .text _ => True

@[simp] theorem Command.unsplit_outline {schema : Schema} (command : Command) :
    command.outline.Unsplit schema ↔ command.Unsplit schema := by
  cases command <;> rfl

/-- The statements of a command are those of its outline, the values of the parameters apart. -/
theorem command_outline (command : Command) (number : Nat) (h : command.Unsplit c.schema) :
    (c.command command number).map Compiled.outline =
      (c.command command.outline number).map Compiled.outline := by
  cases command with
  | insert command => exact (insert_outline command number h).map_eq
  | update command => exact (update_outline command number h).map_eq
  | delete command => exact (delete_outline command number h).map_eq
  | text command =>
    simp [Command.outline, Compiler.command, Except.map, Compiled.outline, Compiler.text,
      Statement.outline, outline_outline]

/-- Values stay outside the text of statements: queries with the same outline, and commands with
the same outline on entities that are not split, fail with the same error, or compile to statements
with the same scripts and flags and with parameters of the same names and directions. -/
theorem values_outside_text (c : Compiler) :
    (∀ p q : Query, p.outline = q.outline →
      Agree Statement.SameButValues (c.query p) (c.query q)) ∧
    ∀ (number : Nat) (a b : Command), a.Unsplit c.schema → a.outline = b.outline →
      Agree Compiled.SameButValues (c.command a number) (c.command b number) := by
  constructor
  · intro p q houtline
    have hsame : (c.query p).map Statement.outline = (c.query q).map Statement.outline := by
      rw [query_outline p, query_outline q, houtline]
    exact (Agree.of_map_eq hsame).mono fun _ _ => .of_outline
  · intro number a b ha houtline
    have hb : b.Unsplit c.schema := by
      rw [← Command.unsplit_outline, ← houtline, Command.unsplit_outline]
      exact ha
    have hsame : (c.command a number).map Compiled.outline =
        (c.command b number).map Compiled.outline := by
      rw [command_outline a number ha, command_outline b number hb, houtline]
    exact (Agree.of_map_eq hsame).mono fun _ _ => .of_outline

/-- A schema of people. -/
def personCompiler : Compiler where
  schema := ⟨[{ name := "Person", table := "PERSON", fields := [
    { property := "Id", column := "Id", role := { primaryKey := true } },
    { property := "Name", column := "Name" }] }]⟩

/-- The people of a name. -/
def peopleNamed (name : String) : Query where
  entity := "Person"
  conditions := [⟨.and, .criterion ⟨"Name", .equal, .text name, none⟩⟩]

/-- Gives the people of a name another one. -/
def personsRenamed (old new : String) : Command :=
  .update {
    entity := "Person", assignments := [("Name", .value (.text new))], query := peopleNamed old }

/-- A name that would end a text literal and a statement is bound like any other. -/
theorem hostileName_outside_text :
    ∃ plain hostile, personCompiler.query (peopleNamed "Ann") = .ok plain ∧
      personCompiler.query (peopleNamed "' OR 1 = 1; DROP TABLE PERSON --") = .ok hostile ∧
      hostile.script = plain.script ∧ plain.parameters.names = ["Name0"] ∧
      hostile.parameters.names = ["Name0"] ∧
      Agree Compiled.SameButValues (personCompiler.command (personsRenamed "Ann" "Bob") 3)
        (personCompiler.command (personsRenamed "x' OR '1' = '1" "', ID = '0") 3) := by
  obtain ⟨plain, hplain⟩ := exists_ok_of_isSome
    (x := personCompiler.query (peopleNamed "Ann")) (by decide +kernel)
  have hnames : (personCompiler.query (peopleNamed "Ann")).toOption.map
      (·.parameters.names) = some ["Name0"] := by
    decide +kernel
  rw [hplain] at hnames
  have hagree := (values_outside_text personCompiler).1 (peopleNamed "Ann")
    (peopleNamed "' OR 1 = 1; DROP TABLE PERSON --") rfl
  have hunsplit : (personsRenamed "Ann" "Bob").Unsplit personCompiler.schema := by
    intro entity hentity
    cases hentity
    rfl
  rw [hplain] at hagree
  cases hhostile : personCompiler.query (peopleNamed "' OR 1 = 1; DROP TABLE PERSON --") with
  | error e =>
    rw [hhostile] at hagree
    cases hagree
  | ok hostile =>
    rw [hhostile] at hagree
    cases hagree with
    | ok hsame =>
      have hbound := congrArg (List.map Prod.fst) hsame.bound
      simp only [List.map_map] at hbound
      refine ⟨plain, hostile, hplain, rfl, hsame.script.symm, Option.some.inj hnames,
        hbound.symm.trans (Option.some.inj hnames), ?_⟩
      exact (values_outside_text personCompiler).2 3 _ _ hunsplit rfl

end QueryLoom
