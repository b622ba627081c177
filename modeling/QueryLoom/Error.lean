/-!
# Errors

What may go wrong when a query or a command is compiled, when a configuration is read, and when
statements run; and the wording of each.
-/

namespace QueryLoom

/-- A cause of failure. -/
inductive Error where
  /-- The schema has no such entity. -/
  | unknownEntity (name : String)
  /-- The entity has no such field. -/
  | unknownField (entity field : String)
  /-- Primary keys are needed and none are declared. -/
  | missingPrimaryKey (entity : String)
  /-- A projected field is needed and there is none. -/
  | missingQueryField (entity : String)
  /-- An aggregate other than a count needs a field. -/
  | missingAggregateField (entity function : String)
  /-- Nothing says which fields a join compares. -/
  | missingJoinPredicate (source target : String)
  /-- An update assigns nothing. -/
  | emptyUpdate (entity : String)
  /-- A generated field cannot be returned from several physical tables. -/
  | autoIncrementWithSplit (entity : String)
  /-- The physical table of a split entity is not known. -/
  | missingSplitValue (entity : String)
  /-- SQL has no form for what was asked. -/
  | unsupported (feature : String)
  /-- A value does not fit its place. -/
  | invalidValue (reason : String)
  /-- The database failed; the text is its own. -/
  | driver (text : String)
  /-- The caller gave up. -/
  | cancelled
  /-- The configuration cannot be located. -/
  | config (reason : String)
  /-- The configuration cannot be read. -/
  | configSyntax
  /-- A file cannot be read or written. -/
  | io (reason : String)
deriving Repr, DecidableEq

namespace Error

/-- The wording of an error. -/
def message : Error → String
  | unknownEntity name => "Unknown entity: '" ++ name ++ "'"
  | unknownField entity field => "Unknown field: '" ++ entity ++ "." ++ field ++ "'"
  | missingPrimaryKey entity => entity ++ " not set primary key"
  | missingQueryField entity => "Subquery: " ++ entity ++ " must set query field"
  | missingAggregateField entity function =>
    "Must specify the field to perform for the " ++ function ++ " operation on " ++ entity
  | missingJoinPredicate source target =>
    "No join predicate between " ++ source ++ " and " ++ target
  | emptyUpdate entity => "No fields are set to update for " ++ entity
  | autoIncrementWithSplit entity =>
    entity ++ " has both an auto-increment field and a split field"
  | missingSplitValue entity =>
    "Get table name failed for " ++ entity ++ ": no split value supplied"
  | unsupported feature => "Unsupported in Oracle: " ++ feature
  | invalidValue reason => "Invalid value: " ++ reason
  | driver text => text
  | cancelled => "Execution cancelled"
  | config reason => "Configuration error: " ++ reason
  | configSyntax => "Config parse error"
  | io reason => "IO error: " ++ reason

/-- Whether an error lies in what was to be compiled, and not in running it or in reading the
configuration. -/
def isConfiguration : Error → Bool
  | driver _ | cancelled | io _ | configSyntax | config _ => false
  | _ => true

end Error

end QueryLoom
