import QueryLoom.Clauses.OfQuery
import QueryLoom.Command
import QueryLoom.Statement

/-!
# Statements that write

The statements of commands: INSERT, UPDATE or MERGE, DELETE, and texts.

## Implementation notes

A command on a split entity has one statement per physical table, with the same bindings. The rows
of an UPDATE or DELETE are chosen by the condition alone if the query has neither joins nor
traversals, and otherwise by primary keys selected from the joined tables.
-/

namespace QueryLoom.Compiler

/-- One statement per physical table. -/
def perTable (c : Compiler) (tables : List String) (scope : Scope)
    (mustAffect hasTraversal : Bool) (script : String → Sql) : Compiled where
  statements := tables.map fun table =>
    Statement.compiled (script (c.conventions.identifier table)) scope.parameters mustAffect
      hasTraversal
  nextParameter := scope.nextNumber

/-- The columns and the placeholders of an INSERT: every field that is not generated, with the
first value given for it. -/
def insertedColumns (c : Compiler) (values : List (String × Value)) :
    List Field → Compile (List String × List Sql)
  | [] => return ([], [])
  | field :: rest => do
    let value := (values.find? (·.1 == field.property)).map (·.2)
    let placeholder ← c.bind field.property (value.getD .null)
    let (columns, placeholders) ← c.insertedColumns values rest
    return (c.conventions.identifier field.column :: columns, placeholder :: placeholders)

/-- The clause that returns a generated field. -/
def returning (c : Compiler) : Option Field → Compile Sql
  | none => return []
  | some field => do
    let output ← bindOutput field.property
    return Sql.text (" RETURNING " ++ c.conventions.identifier field.column ++ " INTO ") ++ output

/-- The text of an INSERT without its table. -/
def insertBody (c : Compiler) (entity : Entity) (values : List (String × Value)) :
    Compile Sql := do
  let (columns, placeholders) ←
    c.insertedColumns values (entity.fields.filter (!·.role.autoIncrement))
  let returning ← c.returning entity.autoIncrementField?
  return Sql.text (" (" ++ ", ".intercalate columns ++ ") VALUES ") ++
    (Sql.separated ", " placeholders).parens ++ returning

/-- The statements of an insertion. -/
def insert (c : Compiler) (command : InsertCommand) (number : Nat) : Except Error Compiled := do
  let entity ← c.schema.entity command.entity
  if entity.autoIncrementField?.isSome && entity.splitField?.isSome then
    throw (.autoIncrementWithSplit entity.name)
  command.values.forM fun (property, _) => do let _ ← entity.field property
  let (body, scope) ← (c.insertBody entity command.values).runFrom number
  let splitValue := entity.splitField?.bind fun field =>
    (command.values.find? (·.1 == field.property)).map (·.2)
  let tables ← entity.tableNames splitValue.toList
  return c.perTable tables scope command.mustAffect false fun table =>
    Sql.text ("INSERT INTO " ++ table) ++ body

/-- The query of an update or a deletion, over the entity of the command unless it names one. -/
def scopedQuery (query : Option Query) (entity : String) : Query :=
  let query := query.getD {}
  if query.entity.isEmpty then { query with entity } else query

/-- The SELECT of the primary keys of the rows that a query chooses from a physical table. -/
def keySelect (c : Compiler) (keys : List Field) (table : String) (clauses : Clauses) : Sql :=
  plainSelect (keys.map (c.conventions.item rootAlias false)) table rootAlias clauses.usableJoin
    clauses.condition

/-- Whether the rows of a command have to be chosen by primary keys. -/
def needsKeys (clauses : Clauses) : Bool := clauses.hasJoin || clauses.hasTraversal

/-- The SET items of an UPDATE. -/
def setItems (c : Compiler) (entity : Entity) :
    List (String × Assignment) → Compile (List Sql × List Field)
  | [] => return ([], [])
  | (property, assignment) :: rest => do
    let field ← entity.field property
    let target := Sql.text (c.conventions.identifier field.column ++ " = ")
    let value ← match assignment with
      | .value value => c.bind property value
      | .calculate op value => do
        let operand ← c.bind property value
        pure (c.conventions.column rootAlias field ++ Sql.text (" " ++ op.symbol ++ " ") ++ operand)
    let (items, fields) ← c.setItems entity rest
    return ((target ++ value) :: items, field :: fields)

/-- The alias of the selected keys of a MERGE. -/
def mergeAlias : String := "UTB"

/-- The equality of the primary keys of a MERGE. -/
def keyEquality (c : Compiler) (keys : List Field) : Sql :=
  Sql.separated " AND " (keys.map fun key =>
    c.conventions.column rootAlias key ++ Sql.text " = " ++ c.conventions.column mergeAlias key)

/-- The text of an UPDATE of one physical table. -/
def updateScript (items : List Sql) (clauses : Clauses) (table : String) : Sql :=
  Sql.text ("UPDATE " ++ table ++ " " ++ rootAlias ++ " SET ") ++ Sql.separated ", " items ++
    Sql.clause " WHERE " clauses.condition.sql

/-- The text of a MERGE into one physical table. -/
def mergeScript (c : Compiler) (keys : List Field) (items : List Sql) (clauses : Clauses)
    (table : String) : Sql :=
  Sql.text ("MERGE INTO " ++ table ++ " " ++ rootAlias ++ " USING ") ++
    (c.keySelect keys table clauses).parens ++ Sql.text (" " ++ mergeAlias ++ " ON ") ++
    (c.keyEquality keys).parens ++ Sql.text " WHEN MATCHED THEN UPDATE SET " ++
    Sql.separated ", " items

/-- The statements of an update. A MERGE cannot assign the keys it matches by. -/
def update (c : Compiler) (command : UpdateCommand) (number : Nat) : Except Error Compiled := do
  let entity ← c.schema.entity command.entity
  if command.assignments.isEmpty then throw (.emptyUpdate entity.name)
  let query := scopedQuery command.query command.entity
  let ((clauses, items, fields), scope) ← Compile.runFrom (do
    let clauses ← query.clauses c query.fields rootAlias false
    let (items, fields) ← c.setItems entity command.assignments
    return (clauses, items, fields)) number
  let tables ← entity.tableNames command.splitValues
  if needsKeys clauses then
    let keys ← entity.requirePrimaryKeys
    match fields.find? (·.role.primaryKey) with
    | some key =>
      throw (.unsupported ("MERGE update of primary key " ++ entity.name ++ "." ++ key.property))
    | none =>
      return c.perTable tables scope command.mustAffect clauses.hasTraversal
        (c.mergeScript keys items clauses)
  else
    return c.perTable tables scope command.mustAffect false (updateScript items clauses)

/-- The alias of the table that rows are deleted from by their keys. -/
def deleteAlias : String := "DTB"

/-- The text of a DELETE from one physical table by its condition. -/
def deleteScript (clauses : Clauses) (table : String) : Sql :=
  Sql.text ("DELETE " ++ table ++ " " ++ rootAlias) ++
    Sql.clause " WHERE " clauses.condition.sql

/-- The text of a DELETE from one physical table by selected keys. -/
def keyedDeleteScript (c : Compiler) (keys : List Field) (clauses : Clauses) (table : String) :
    Sql :=
  Sql.text ("DELETE FROM " ++ table ++ " " ++ deleteAlias ++ " WHERE ") ++
    (SelectItem.list (keys.map (c.conventions.item deleteAlias false))).parens ++
    Sql.text " IN " ++ (c.keySelect keys table clauses).parens

/-- The statements of a deletion. -/
def delete (c : Compiler) (command : DeleteCommand) (number : Nat) : Except Error Compiled := do
  let entity ← c.schema.entity command.entity
  let query := scopedQuery command.query command.entity
  let (clauses, scope) ← (query.clauses c query.fields rootAlias false).runFrom number
  let tables ← entity.tableNames command.splitValues
  if needsKeys clauses then
    let keys ← entity.requirePrimaryKeys
    return c.perTable tables scope command.mustAffect clauses.hasTraversal
      (c.keyedDeleteScript keys clauses)
  else
    return c.perTable tables scope command.mustAffect false (deleteScript clauses)

/-- The statement of a text: it runs alone and uses up no parameter numbers. -/
def text (command : TextCommand) (number : Nat) : Compiled where
  statements := [{
    script := Sql.text command.script, parameters := command.parameters, kind := command.kind
    mustAffect := command.mustAffect, alone := true }]
  nextParameter := number

/-- The statements of a command, its parameters numbered from a number on. -/
def command (c : Compiler) (command : Command) (number : Nat) : Except Error Compiled :=
  match command with
  | .insert command => c.insert command number
  | .update command => c.update command number
  | .delete command => c.delete command number
  | .text command => .ok (text command number)

/-- The statements of commands from a number on. -/
def commandsFrom (c : Compiler) (number : Nat) : List Command → Except Error (List Statement)
  | [] => return []
  | command :: rest => do
    let compiled ← c.command command number
    return compiled.statements ++ (← c.commandsFrom compiled.nextParameter rest)

/-- The statements of commands, their parameters numbered on from command to command. -/
def commands (c : Compiler) (commands : List Command) : Except Error (List Statement) :=
  c.commandsFrom 0 commands

end QueryLoom.Compiler
