import QueryLoom.Scope

/-!
# Statements

A script that is ready to run, with its bindings and what the one who runs it has to know.
-/

namespace QueryLoom

/-- A statement. -/
structure Statement where
  script : Sql
  parameters : Parameters := Parameters.empty
  kind : ScriptKind := .text
  /-- At least one row has to change. -/
  mustAffect : Bool := false
  /-- The script holds hierarchical traversals. -/
  hasTraversal : Bool := false
  /-- The script cannot run in one text with others. -/
  alone : Bool := false

/-- A compiled statement; one with traversals runs alone. -/
def Statement.compiled (script : Sql) (parameters : Parameters) (mustAffect hasTraversal : Bool) :
    Statement :=
  { script, parameters, mustAffect, hasTraversal, alone := hasTraversal }

/-- The statements of one command, and the number at which the next parameter continues. -/
structure Compiled where
  statements : List Statement
  nextParameter : Nat

/-- A compilation run from a parameter number on. -/
def Compile.runFrom {α : Type} (compilation : Compile α) (number : Nat) :
    Except Error (α × Scope) :=
  match (ExceptT.run compilation).run { nextNumber := number } with
  | (.ok a, scope) => .ok (a, scope)
  | (.error e, _) => .error e

end QueryLoom
