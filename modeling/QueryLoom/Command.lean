import QueryLoom.Query.Tree

/-!
# Commands

Commands that change data, again without an SQL dialect.
-/

namespace QueryLoom

/-- The new value of a field: a value, or the old one combined with a value. -/
inductive Assignment where
  | value (value : Value)
  | calculate (op : CalculateOp) (value : Value)

/-- The insertion of a row; a property without value becomes NULL. -/
structure InsertCommand where
  entity : String
  values : List (String × Value) := []
  mustAffect : Bool := true

/-- The change of the rows of a query, or of all rows. -/
structure UpdateCommand where
  entity : String
  assignments : List (String × Assignment) := []
  query : Option Query := none
  /-- The split values whose physical tables are changed. -/
  splitValues : List Value := []
  mustAffect : Bool := true

/-- The removal of the rows of a query, or of all rows. -/
structure DeleteCommand where
  entity : String
  query : Option Query := none
  splitValues : List Value := []
  mustAffect : Bool := true

/-- A script or the call of a stored procedure. -/
structure TextCommand where
  script : String
  parameters : Parameters := ⟨[]⟩
  kind : ScriptKind := .text
  mustAffect : Bool := false

/-- A command. -/
inductive Command where
  | insert (command : InsertCommand)
  | update (command : UpdateCommand)
  | delete (command : DeleteCommand)
  | text (command : TextCommand)

/-- Whether a command has to change a row. -/
def Command.mustAffect : Command → Bool
  | .insert command => command.mustAffect
  | .update command => command.mustAffect
  | .delete command => command.mustAffect
  | .text command => command.mustAffect

end QueryLoom
