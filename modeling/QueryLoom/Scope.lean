import QueryLoom.Conventions
import QueryLoom.Parameters

/-!
# Scopes

What one compilation hands out: numbered parameters and table aliases.

## Implementation notes

A compilation that fails keeps what it has handed out by then, so errors are thrown inside the
state and not around it. Parameters are numbered on across properties: a number is never used twice
in one compilation, although a name may be.
-/

namespace QueryLoom

/-- The state of a compilation. -/
structure Scope where
  parameters : Parameters := Parameters.empty
  nextNumber : Nat := 0
  nextAlias : Nat := 0

/-- A compilation that answers or fails, and hands out parameters and aliases either way. -/
abbrev Compile := ExceptT Error (StateM Scope)

/-- The alias of the outermost table. -/
def rootAlias : String := "TB"

/-- Hands out the next alias of a nested table. -/
def freshAlias : Compile String := do
  let scope ← get
  set { scope with nextAlias := scope.nextAlias + 1 }
  return "TSB" ++ toString scope.nextAlias

/-- What a compilation is for: a schema and the conventions of a database. -/
structure Compiler where
  schema : Schema
  conventions : Conventions := {}

namespace Compiler

/-- Binds a value to the next parameter of a property and answers its placeholder. -/
def bind (c : Compiler) (property : String) (value : Value) : Compile Sql := do
  let scope ← get
  let name := parameterName property scope.nextNumber
  set { scope with
    parameters := scope.parameters.add name (c.conventions.bound value)
    nextNumber := scope.nextNumber + 1 }
  return Sql.placeholder property scope.nextNumber

/-- Registers an output as the next parameter of a property and answers its placeholder. -/
def bindOutput (property : String) : Compile Sql := do
  let scope ← get
  let name := parameterName property scope.nextNumber
  set { scope with
    parameters := scope.parameters.addOutput name
    nextNumber := scope.nextNumber + 1 }
  return Sql.placeholder property scope.nextNumber

/-- The formatted table of an entity. -/
def table (c : Compiler) (entity : Entity) : String := c.conventions.identifier entity.table

end Compiler

end QueryLoom
