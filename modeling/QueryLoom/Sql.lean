import QueryLoom.Query.Operator

/-!
# SQL text

SQL text as a list of tokens: text to be written as it is, columns under a table alias, and
placeholders of numbered parameters.

## Implementation notes

Text is only written out at the end, by `Sql.render`. Until then its placeholders and columns can
be read off (`Sql.placeholders`, `Sql.columns`) without scanning characters, and each of these
views turns concatenation into concatenation.
-/

namespace QueryLoom

/-- A token of SQL text. -/
inductive Token where
  | verbatim (text : String)
  | column (tableAlias name : String)
  | placeholder (name : String) (number : Nat)
deriving Repr, DecidableEq

/-- The name of a parameter: a property followed by the number it was given. -/
def parameterName (property : String) (number : Nat) : String :=
  property ++ toString number

/-- The characters of a token. -/
def Token.render : Token → String
  | .verbatim text => text
  | .column tableAlias name => tableAlias ++ "." ++ name
  | .placeholder name number => ":" ++ parameterName name number

/-- SQL text. -/
abbrev Sql := List Token

namespace Sql

/-- Text to be written as it is. -/
def text (s : String) : Sql :=
  if s.isEmpty then [] else [.verbatim s]

/-- A column under a table alias. -/
def column (tableAlias name : String) : Sql := [.column tableAlias name]

/-- A placeholder of a numbered parameter. -/
def placeholder (name : String) (number : Nat) : Sql := [.placeholder name number]

/-- The characters of SQL text. -/
def render : Sql → String
  | [] => ""
  | token :: rest => token.render ++ render rest

/-- SQL text in parentheses. -/
def parens (sql : Sql) : Sql := text "(" ++ sql ++ text ")"

/-- SQL texts with a separator between them. -/
def separated (separator : String) : List Sql → Sql
  | [] => []
  | [sql] => sql
  | sql :: rest => sql ++ text separator ++ separated separator rest

/-- A clause: SQL text behind a lead, or nothing if there is no text. -/
def clause (lead : String) (sql : Sql) : Sql :=
  if sql.isEmpty then [] else text lead ++ sql

/-- The placeholders of SQL text, in order. -/
def placeholders (sql : Sql) : List (String × Nat) :=
  sql.filterMap fun
    | .placeholder name number => some (name, number)
    | _ => none

/-- The columns of SQL text, in order. -/
def columns (sql : Sql) : List (String × String) :=
  sql.filterMap fun
    | .column tableAlias name => some (tableAlias, name)
    | _ => none

@[simp] theorem render_nil : render [] = "" := rfl

@[simp] theorem render_append (a b : Sql) : render (a ++ b) = render a ++ render b := by
  induction a with
  | nil => simp
  | cons token rest ih => simp [render, ih, String.append_assoc]

@[simp] theorem render_text (s : String) : render (text s) = s := by
  unfold text
  split
  · simp_all
  · simp [render, Token.render]

@[simp] theorem placeholders_append (a b : Sql) :
    placeholders (a ++ b) = placeholders a ++ placeholders b := by
  simp [placeholders]

@[simp] theorem placeholders_text (s : String) : placeholders (text s) = [] := by
  unfold text
  split <;> rfl

@[simp] theorem placeholders_placeholder (name : String) (number : Nat) :
    placeholders (placeholder name number) = [(name, number)] := rfl

@[simp] theorem columns_append (a b : Sql) : columns (a ++ b) = columns a ++ columns b := by
  simp [columns]

@[simp] theorem columns_text (s : String) : columns (text s) = [] := by
  unfold text
  split <;> rfl

end Sql

/-- An item of a projection: an expression and the label it is given, if any. -/
structure SelectItem where
  expression : Sql
  label : Option String := none
deriving Repr, DecidableEq

namespace SelectItem

/-- A name between double quotes, its case kept. -/
def quotedLabel (label : String) : String := "\"" ++ label ++ "\""

/-- The text of an item. -/
def sql (item : SelectItem) : Sql :=
  match item.label with
  | some label => item.expression ++ Sql.text (" AS " ++ quotedLabel label)
  | none => item.expression

/-- The text of a projection. -/
def list (items : List SelectItem) : Sql :=
  Sql.separated ", " (items.map sql)

end SelectItem

end QueryLoom
