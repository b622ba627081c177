import QueryLoom.Codec.Query
import QueryLoom.Command
import QueryLoom.Statement

/-!
# Commands and statements as JSON

The JSON form of commands, written and read, and of statements, written.
-/

namespace QueryLoom

namespace Codec

/-- An assignment as JSON. -/
def assignmentJson : Assignment → Json
  | .value value => Json.tagged "Value" (valueJson value)
  | .calculate op value => Json.tagged "Calculate" (.object [
      ("op", Json.tagOf CalculateOp.names op), ("value", valueJson value)])

/-- A command as JSON. -/
def commandJson : Command → Json
  | .insert command => Json.tagged "Insert" (.object [
      ("entity", .string command.entity),
      ("values", Json.ofList (fun (property, value) =>
        .array [.string property, valueJson value]) command.values),
      ("must_affect_data", .bool command.mustAffect)])
  | .update command => Json.tagged "Update" (.object [
      ("entity", .string command.entity),
      ("assignments", Json.ofList (fun (property, assignment) =>
        .array [.string property, assignmentJson assignment]) command.assignments),
      ("query", Json.ofOption queryJson command.query),
      ("split_values", .array (valuesJson command.splitValues)),
      ("must_affect_data", .bool command.mustAffect)])
  | .delete command => Json.tagged "Delete" (.object [
      ("entity", .string command.entity),
      ("query", Json.ofOption queryJson command.query),
      ("split_values", .array (valuesJson command.splitValues)),
      ("must_affect_data", .bool command.mustAffect)])
  | .text command => Json.tagged "Text" (.object [
      ("script", .string command.script),
      ("parameters", parametersJson command.parameters),
      ("kind", Json.tagOf ScriptKind.names command.kind),
      ("must_affect_data", .bool command.mustAffect)])

/-- A statement as JSON. -/
def statementJson (statement : Statement) : Json := .object [
  ("script", .string statement.script.render),
  ("parameters", parametersJson statement.parameters),
  ("kind", Json.tagOf ScriptKind.names statement.kind),
  ("must_affect_data", .bool statement.mustAffect),
  ("has_pre_script", .bool statement.hasTraversal),
  ("perform_alone", .bool statement.alone)]

/-- An assignment from JSON. -/
def assignment? (json : Json) : Option Assignment := do
  match ← json.variant? with
  | ("Value", some content) => return .value (← Value.ofJson? content)
  | ("Calculate", some content) =>
    let members ← content.members?
    return .calculate (← Json.required members "op" (Json.unit? CalculateOp.names))
      (← Json.required members "value" Value.ofJson?)
  | _ => none

/-- An insertion from JSON. -/
def insert? (json : Json) : Option InsertCommand := do
  let members ← json.members?
  return {
    entity := ← Json.required members "entity" Json.string?
    values := ← Json.required members "values" (Json.list? (Json.pair? Json.string? Value.ofJson?))
    mustAffect := ← Json.optional members "must_affect_data" Json.bool? true }

/-- An update from JSON. -/
def update? (json : Json) : Option UpdateCommand := do
  let members ← json.members?
  return {
    entity := ← Json.required members "entity" Json.string?
    assignments :=
      ← Json.required members "assignments" (Json.list? (Json.pair? Json.string? assignment?))
    query := ← Json.optional members "query" (Json.nullable? Query.ofJson?) none
    splitValues := ← Json.optional members "split_values" (Json.list? Value.ofJson?) []
    mustAffect := ← Json.optional members "must_affect_data" Json.bool? true }

/-- A deletion from JSON. -/
def delete? (json : Json) : Option DeleteCommand := do
  let members ← json.members?
  return {
    entity := ← Json.required members "entity" Json.string?
    query := ← Json.optional members "query" (Json.nullable? Query.ofJson?) none
    splitValues := ← Json.optional members "split_values" (Json.list? Value.ofJson?) []
    mustAffect := ← Json.optional members "must_affect_data" Json.bool? true }

/-- A text command from JSON. -/
def textCommand? (json : Json) : Option TextCommand := do
  let members ← json.members?
  return {
    script := ← Json.required members "script" Json.string?
    parameters := ← Json.optional members "parameters" Parameters.ofJson? ⟨[]⟩
    kind := ← Json.optional members "kind" (Json.unit? ScriptKind.names) .text
    mustAffect := ← Json.optional members "must_affect_data" Json.bool? false }

end Codec

/-- The command that JSON stands for. -/
def Command.ofJson? (json : Json) : Option Command := do
  match ← json.variant? with
  | ("Insert", some content) => return .insert (← Codec.insert? content)
  | ("Update", some content) => return .update (← Codec.update? content)
  | ("Delete", some content) => return .delete (← Codec.delete? content)
  | ("Text", some content) => return .text (← Codec.textCommand? content)
  | _ => none

end QueryLoom
