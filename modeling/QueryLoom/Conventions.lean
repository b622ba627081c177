import QueryLoom.Schema
import QueryLoom.Sql
import QueryLoom.Text.UpperCase

/-!
# Conventions

How identifiers, columns and projected fields are written, and how values are bound.

## Implementation notes

An identifier is folded to upper case first and put between double quotes second, each if the
conventions say so. One that stands between double quotes already is not quoted again.
-/

namespace QueryLoom

/-- The conventions of a database. -/
structure Conventions where
  upperCase : Bool := true
  quoted : Bool := true
  /-- UUIDs are bound as their octets. -/
  uuidOctets : Bool := false
deriving Repr, DecidableEq

/-- Whether a name starts and ends with double quotes of its own. -/
def isQuoted (name : String) : Bool :=
  match name.toList with
  | '"' :: rest => rest.getLast? == some '"'
  | _ => false

namespace Conventions

/-- An identifier as it is written. -/
def identifier (conventions : Conventions) (name : String) : String :=
  let folded := if conventions.upperCase then Text.upperCase name else name
  if conventions.quoted && !isQuoted folded then SelectItem.quotedLabel folded else folded

/-- The column of a field under an alias. -/
def column (conventions : Conventions) (tableAlias : String) (field : Field) : Sql :=
  Sql.column tableAlias (conventions.identifier field.column)

/-- An output form with a column in its places. -/
def filled (form : String) (column : Sql) : Sql :=
  let rec go : List Char → List Char → Sql
    | '\x7b' :: '0' :: '\x7d' :: rest, read =>
      Sql.text (String.ofList read.reverse) ++ column ++ go rest []
    | c :: rest, read => go rest (c :: read)
    | [], read => Sql.text (String.ofList read.reverse)
  go form.toList []

/-- A projected field. An output form is labelled with the property, and so is a column of another
name where labels are wanted. -/
def item (conventions : Conventions) (tableAlias : String) (labelled : Bool) (field : Field) :
    SelectItem :=
  let column := conventions.column tableAlias field
  match field.outputForm with
  | some form => ⟨filled form column, some field.property⟩
  | none =>
    ⟨column, if labelled && field.column != field.property then some field.property else none⟩

/-- A value as it is bound. -/
def bound (conventions : Conventions) (value : Value) : Value :=
  if conventions.uuidOctets then value.withUuidOctets else value

end Conventions

end QueryLoom
