/-!
# TOML documents

TOML values, and tables that are filled line by line.

## Implementation notes

A table remembers how it came about, as that decides how it may be filled further. A table that a
header only passed through may get a header of its own later; one made by a dotted key may be
extended by dotted keys and passed through by headers; one that had its header, or stands inline,
is closed to both.
-/

namespace QueryLoom

/-- How a table came about. -/
inductive TableKind where
  | implicit
  | explicit
  | dotted
  | inline
deriving Repr, DecidableEq

/-- A TOML value. Of a value that no configuration holds only its presence is kept. -/
inductive Toml where
  | string (s : String)
  | integer (n : Int64)
  | boolean (b : Bool)
  | real
  | moment
  | array (items : List Toml)
  | table (kind : TableKind) (entries : List (String × Toml))
  | tables (items : List (List (String × Toml)))

namespace Toml

/-- The entries of a table. -/
abbrev Entries := List (String × Toml)

/-- The value of a key. -/
def get? (entries : Entries) (key : String) : Option Toml :=
  (entries.find? (·.1 == key)).map (·.2)

/-- The entries with a key given a value, in its place or at the end. -/
def put (entries : Entries) (key : String) (value : Toml) : Entries :=
  if entries.any (·.1 == key) then
    entries.map fun entry => if entry.1 == key then (key, value) else entry
  else entries ++ [(key, value)]

/-- Changes the last of some tables. -/
def changeLast? (change : Entries → Option Entries) : List Entries → Option (List Entries)
  | [] => none
  | [last] => (change last).map fun changed => [changed]
  | first :: rest => (changeLast? change rest).map (first :: ·)

/-- Enters the table of a key on the way to a header, and makes it if it is missing. -/
def enter? (entries : Entries) (key : String) (change : Entries → Option Entries) :
    Option Entries :=
  match get? entries key with
  | none => (change []).map fun inner => put entries key (.table .implicit inner)
  | some (.table kind inner) =>
    if kind == .inline then none
    else (change inner).map fun inner => put entries key (.table kind inner)
  | some (.tables items) =>
    (changeLast? change items).map fun items => put entries key (.tables items)
  | some _ => none

/-- Opens the table of a header. -/
def openTable? : List String → Entries → Option Entries
  | [], _ => none
  | [key], entries =>
    match get? entries key with
    | none => some (put entries key (.table .explicit []))
    | some (.table .implicit inner) => some (put entries key (.table .explicit inner))
    | some _ => none
  | key :: path, entries => enter? entries key (openTable? path)

/-- Opens a further table of a list of tables. -/
def openItem? : List String → Entries → Option Entries
  | [], _ => none
  | [key], entries =>
    match get? entries key with
    | none => some (put entries key (.tables [[]]))
    | some (.tables items) => some (put entries key (.tables (items ++ [[]])))
    | some _ => none
  | key :: path, entries => enter? entries key (openItem? path)

/-- Assigns a value to a dotted key. -/
def assign? : List String → Toml → Entries → Option Entries
  | [], _, _ => none
  | [key], value, entries =>
    if (get? entries key).isSome then none else some (put entries key value)
  | key :: path, value, entries =>
    let passing := 2 ≤ path.length
    match get? entries key with
    | none => (assign? path value []).map fun inner => put entries key (.table .dotted inner)
    | some (.table kind inner) =>
      if kind == .dotted || (kind == .implicit && passing) then
        (assign? path value inner).map fun inner => put entries key (.table kind inner)
      else none
    | some (.tables items) =>
      if passing then
        (changeLast? (assign? path value) items).map fun items => put entries key (.tables items)
      else none
    | some _ => none

/-- Assigns a value to a dotted key of the table of a header. -/
def assignUnder? (header path : List String) (value : Toml) : Entries → Option Entries :=
  match header with
  | [] => assign? path value
  | key :: rest => fun entries => enter? entries key (assignUnder? rest path value)

end Toml

end QueryLoom
