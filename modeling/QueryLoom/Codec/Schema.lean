import QueryLoom.Config
import QueryLoom.Json.Decode

/-!
# Schemas and configurations as JSON

The JSON form of entities, written and read, and of conventions and batch limits, read.
-/

namespace QueryLoom

namespace Codec

/-- A role as JSON. -/
def roleJson (role : FieldRole) : Json := .object [
  ("primary_key", .bool role.primaryKey), ("auto_increment", .bool role.autoIncrement),
  ("split", .bool role.split)]

/-- A field as JSON. -/
def fieldJson (field : Field) : Json := .object [
  ("property", .string field.property), ("column", .string field.column),
  ("role", roleJson field.role), ("query_format", Json.ofOption .string field.outputForm)]

/-- A relation as JSON. -/
def relationJson (relation : Relation) : Json := .object [
  ("field", .string relation.field), ("target_entity", .string relation.targetEntity),
  ("target_field", .string relation.targetField)]

/-- An entity as JSON. -/
def entityJson (entity : Entity) : Json := .object [
  ("name", .string entity.name), ("table", .string entity.table),
  ("fields", Json.ofList fieldJson entity.fields),
  ("relations", Json.ofList relationJson entity.relations)]

/-- A role from JSON. -/
def role? (json : Json) : Option FieldRole := do
  let members ← json.members?
  return {
    primaryKey := ← Json.optional members "primary_key" Json.bool? false
    autoIncrement := ← Json.optional members "auto_increment" Json.bool? false
    split := ← Json.optional members "split" Json.bool? false }

/-- A relation from JSON. -/
def relation? (json : Json) : Option Relation := do
  let members ← json.members?
  return {
    field := ← Json.required members "field" Json.string?
    targetEntity := ← Json.required members "target_entity" Json.string?
    targetField := ← Json.required members "target_field" Json.string? }

end Codec

/-- The field that JSON stands for. -/
def Field.ofJson? (json : Json) : Option Field := do
  let members ← json.members?
  return {
    property := ← Json.required members "property" Json.string?
    column := ← Json.required members "column" Json.string?
    role := ← Json.optional members "role" Codec.role? {}
    outputForm := ← Json.optional members "query_format" (Json.nullable? Json.string?) none }

/-- The entity that JSON stands for. -/
def Entity.ofJson? (json : Json) : Option Entity := do
  let members ← json.members?
  return {
    name := ← Json.required members "name" Json.string?
    table := ← Json.required members "table" Json.string?
    fields := ← Json.required members "fields" (Json.list? Field.ofJson?)
    relations := ← Json.optional members "relations" (Json.list? Codec.relation?) [] }

/-- The schema that a list of entities in JSON stands for. -/
def Schema.ofJson? (json : Json) : Option Schema := do
  return Schema.ofList (← json.list? Entity.ofJson?)

/-- The conventions that JSON stands for. -/
def Conventions.ofJson? (json : Json) : Option Conventions := do
  let members ← json.members?
  return {
    upperCase := ← Json.optional members "uppercase" Json.bool? true
    quoted := ← Json.optional members "wrap_with_quotes" Json.bool? true
    uuidOctets := ← Json.optional members "formatting_guid" Json.bool? false }

/-- The batch limits that JSON stands for. -/
def BatchLimits.ofJson? (json : Json) : Option BatchLimits := do
  let members ← json.members?
  return {
    statements := ← Json.optional members "group_statements_count" Json.int64? 1000
    parameters := ← Json.optional members "group_parameters_count" Json.int64? 2000 }

/-- The configuration that JSON stands for. -/
def Config.ofJson? (json : Json) : Option Config := do
  let members ← json.members?
  return {
    conventions := ← Json.optional members "oracle" Conventions.ofJson? {}
    limits := ← Json.optional members "batch" BatchLimits.ofJson? {} }

end QueryLoom
