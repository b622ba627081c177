import QueryLoom.Sql

/-!
# Text literals

A text literal stands between single quotes, and a quote inside it is written twice.
-/

namespace QueryLoom.Literal

/-- The body of the literal of a text. -/
def body : List Char → List Char
  | [] => []
  | c :: rest => if c = '\'' then '\'' :: '\'' :: body rest else c :: body rest

/-- The literal of a text. -/
def write (text : String) : String :=
  String.ofList ('\'' :: body text.toList ++ ['\''])

end QueryLoom.Literal
