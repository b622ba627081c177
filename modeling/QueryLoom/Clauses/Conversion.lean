import QueryLoom.Scope
import QueryLoom.Sql.Literal

/-!
# Converted columns

A column inside the function that a criterion or a sort applies to it. An operand is bound, a path
is written as a literal.
-/

namespace QueryLoom.Compiler

/-- A column in its conversion, if there is one. -/
def convert (c : Compiler) (column : Sql) (property : String) :
    Option Conversion → Compile Sql
  | none => return column
  | some (.column function) =>
    return Sql.text (function.keyword ++ "(") ++ column ++ Sql.text ")"
  | some (.path function path) =>
    return Sql.text (function.keyword ++ "(") ++ column ++ Sql.text ", " ++
      Sql.text (Literal.write path) ++ Sql.text ")"
  | some (.operand function value) =>
    match function.form with
    | .infixed symbol => do
      let operand ← c.bind property value
      return Sql.text "(" ++ column ++ Sql.text (" " ++ symbol ++ " ") ++ operand ++ Sql.text ")"
    | .called keyword => do
      let operand ← c.bind property value
      return Sql.text (keyword ++ "(") ++ column ++ Sql.text ", " ++ operand ++ Sql.text ")"
    | .unsupported feature => throw (.unsupported feature)

/-- The items of an ORDER BY. -/
def sortItems (c : Compiler) (entity : Entity) (tableAlias : String) (keys : List SortKey) :
    Compile (List Sql) :=
  keys.mapM fun key => do
    let field ← entity.field key.field
    let column ← c.convert (c.conventions.column tableAlias field) key.field key.conversion
    return column ++ Sql.text (" " ++ key.order.keyword)

end QueryLoom.Compiler
