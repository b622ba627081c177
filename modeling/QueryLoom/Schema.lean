import QueryLoom.Error
import QueryLoom.Query.Value

/-!
# Schemas

Entities with their tables, fields and relations, and the registry that finds an entity by name.

## Implementation notes

A property or an entity is looked up by its first match. Registering an entity again replaces it.
A split entity has one physical table per split value; `Entity.tableNames` names each table once.
-/

namespace QueryLoom

/-- What a field is used for. A split field selects the physical table. -/
structure FieldRole where
  primaryKey : Bool := false
  autoIncrement : Bool := false
  split : Bool := false
deriving DecidableEq

/-- A property and its column. In the output form `{0}` stands for the column. -/
structure Field where
  property : String
  column : String
  role : FieldRole := {}
  outputForm : Option String := none
deriving DecidableEq

/-- A link from a field to a field of another entity. -/
structure Relation where
  field : String
  targetEntity : String
  targetField : String
deriving DecidableEq

/-- An entity. -/
structure Entity where
  name : String
  table : String
  fields : List Field
  relations : List Relation := []
deriving DecidableEq

namespace Entity

/-- The field of a property. -/
def field (entity : Entity) (property : String) : Except Error Field :=
  match entity.fields.find? (·.property == property) with
  | some field => .ok field
  | none => .error (.unknownField entity.name property)

/-- The primary keys in order. -/
def primaryKeys (entity : Entity) : List Field :=
  entity.fields.filter (·.role.primaryKey)

/-- The primary keys, of which there has to be one. -/
def requirePrimaryKeys (entity : Entity) : Except Error (List Field) :=
  match entity.primaryKeys with
  | [] => .error (.missingPrimaryKey entity.name)
  | keys => .ok keys

/-- The generated field: the first that is a primary key, or else the first. -/
def autoIncrementField? (entity : Entity) : Option Field :=
  let generated := entity.fields.filter (·.role.autoIncrement)
  (generated.find? (·.role.primaryKey)).or generated.head?

/-- The field that selects the physical table. -/
def splitField? (entity : Entity) : Option Field :=
  entity.fields.find? (·.role.split)

/-- The first primary key, or else the first field. -/
def defaultField? (entity : Entity) : Option Field :=
  entity.primaryKeys.head?.or entity.fields.head?

/-- The fields of some properties; every field if none are given. -/
def queryFields (entity : Entity) (properties : List String) : Except Error (List Field) :=
  if properties.isEmpty then .ok entity.fields else properties.mapM entity.field

/-- Adds a name that is not there yet. -/
def addName (names : List String) (name : String) : List String :=
  if names.contains name then names else names ++ [name]

/-- The physical table of a split value. -/
def splitTable (entity : Entity) (value : Value) : Except Error String :=
  if value.isNull then .error (.missingSplitValue entity.name)
  else .ok (entity.table ++ "_" ++ value.bareText)

/-- The physical tables of some split values, each once. -/
def tableNames (entity : Entity) (splitValues : List Value) : Except Error (List String) :=
  if entity.splitField?.isNone then .ok [entity.table]
  else if splitValues.isEmpty then .error (.missingSplitValue entity.name)
  else do return (← splitValues.mapM entity.splitTable).foldl addName []

/-- The pairs of fields that link an entity to another. -/
def relationFields (entity : Entity) (target : String) : List (String × String) :=
  (entity.relations.filter (·.targetEntity == target)).map fun r => (r.field, r.targetField)

end Entity

/-- A registry of entities. -/
structure Schema where
  entities : List Entity := []
deriving DecidableEq

namespace Schema

/-- The schema with an entity, in place of one of the same name. -/
def register (schema : Schema) (entity : Entity) : Schema :=
  ⟨schema.entities.filter (·.name != entity.name) ++ [entity]⟩

/-- The schema of some entities; of two with the same name the later stays. -/
def ofList (entities : List Entity) : Schema :=
  entities.foldl register {}

/-- The number of entities. -/
def size (schema : Schema) : Nat := schema.entities.length

/-- The entity of a name. -/
def entity (schema : Schema) (name : String) : Except Error Entity :=
  match schema.entities.find? (·.name == name) with
  | some entity => .ok entity
  | none => .error (.unknownEntity name)

end Schema

end QueryLoom
