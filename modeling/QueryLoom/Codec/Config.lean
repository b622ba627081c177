import QueryLoom.Config
import QueryLoom.Toml.Reader

/-!
# Configurations as TOML

The configuration that a TOML document gives; what it leaves out keeps its default, and what it
has besides is passed over.

## Implementation notes

A list may stand in the place of a table; it gives the values in the order of the keys. A date has
none of the keys.
-/

namespace QueryLoom

namespace Toml

/-- A truth value. -/
def boolean? : Toml → Option Bool
  | .boolean b => some b
  | _ => none

/-- An integer. -/
def integer? : Toml → Option Int64
  | .integer n => some n
  | _ => none

/-- What a value gives for some keys. -/
def entries? (keys : List String) : Toml → Option Entries
  | .table _ entries => some entries
  | .array items => some (keys.zip items)
  | .tables items => some (keys.zip (items.map (.table .explicit)))
  | .moment => some []
  | _ => none

/-- A key that may be left out. -/
def optional {α : Type} (entries : Entries) (key : String) (decode : Toml → Option α)
    (default : α) : Option α :=
  match get? entries key with
  | some value => decode value
  | none => some default

end Toml

/-- The conventions that a table gives. -/
def Conventions.ofToml? (toml : Toml) : Option Conventions := do
  let entries ← toml.entries? ["uppercase", "wrap_with_quotes", "formatting_guid"]
  return {
    upperCase := ← Toml.optional entries "uppercase" Toml.boolean? true
    quoted := ← Toml.optional entries "wrap_with_quotes" Toml.boolean? true
    uuidOctets := ← Toml.optional entries "formatting_guid" Toml.boolean? false }

/-- The batch limits that a table gives. -/
def BatchLimits.ofToml? (toml : Toml) : Option BatchLimits := do
  let entries ← toml.entries? ["group_statements_count", "group_parameters_count"]
  return {
    statements := ← Toml.optional entries "group_statements_count" Toml.integer? 1000
    parameters := ← Toml.optional entries "group_parameters_count" Toml.integer? 2000 }

/-- The configuration that a TOML document gives. -/
def Config.parse (text : String) : Except Error Config :=
  let config : Option Config := do
    let entries ← Toml.parse? text
    return {
      conventions := ← Toml.optional entries "oracle" Conventions.ofToml? {}
      limits := ← Toml.optional entries "batch" BatchLimits.ofToml? {} }
  match config with
  | some config => .ok config
  | none => .error .configSyntax

end QueryLoom
