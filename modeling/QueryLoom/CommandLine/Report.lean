import QueryLoom.Codec.Command
import QueryLoom.Json.Writer

/-!
# Reports

Compiled statements for reading: as text, with colours or without, and as JSON.

## Implementation notes

A coloured text starts its colour again wherever it holds the end of one.
-/

namespace QueryLoom.CommandLine

/-- A text in a colour, given by its code, if colours are on. -/
def painted (color : Bool) (code text : String) : String :=
  let start := "\x1b[" ++ code ++ "m"
  let reset := "\x1b[0m"
  if color then start ++ text.replace reset (reset ++ start) ++ reset else text

/-- The marks of a statement. -/
def marks (statement : Statement) : String :=
  ", ".intercalate ((if statement.alone then ["alone"] else []) ++
    if statement.mustAffect then ["must-affect"] else [])

/-- The line of a parameter. -/
def parameterLine (color : Bool) (parameter : Parameter) : String :=
  "  :" ++ painted color "32" parameter.name ++ " = " ++ parameter.value.display ++
    (if parameter.direction == .output then painted color "33" " (out)" else "") ++ "\n"

/-- The text of a statement, with a line left empty behind it. -/
def statementText (color : Bool) (number : Nat) (statement : Statement) : String :=
  painted color "1;36" ("-- batch " ++ toString number) ++ " " ++
    painted color "2" (marks statement) ++ "\n" ++
    painted color "37" statement.script.render ++ "\n" ++
    String.join (statement.parameters.items.map (parameterLine color)) ++ "\n"

/-- The text of statements, numbered on from a number. -/
def reportText (color : Bool) (number : Nat) : List Statement → String
  | [] => ""
  | statement :: rest =>
    statementText color number statement ++ reportText color (number + 1) rest

/-- The JSON of statements. -/
def reportJson (statements : List Statement) : String :=
  (Json.ofList Codec.statementJson statements).pretty 0 ++ "\n"

end QueryLoom.CommandLine
