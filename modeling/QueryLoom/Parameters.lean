import QueryLoom.Query.Tree

/-!
# Parameters

The operations on an ordered collection of named bindings. A name keeps the place of its first
entry.

## Implementation notes

`Parameters.insert` is the only operation that adds a name, and it first looks for the name, so
collections built from the empty one have no name twice. A collection given from outside may;
every operation then acts on the first entry of a name.
-/

namespace QueryLoom

namespace Parameters

/-- No bindings. -/
def empty : Parameters := ⟨[]⟩

/-- The names in order. -/
def names (ps : Parameters) : List String := ps.items.map (·.name)

/-- The number of entries. -/
def size (ps : Parameters) : Nat := ps.items.length

/-- The first entry of a name. -/
def get? (ps : Parameters) (name : String) : Option Parameter :=
  ps.items.find? (·.name == name)

/-- Whether there is an entry of a name. -/
def contains (ps : Parameters) (name : String) : Bool := (ps.get? name).isSome

/-- Replaces the first item that satisfies a test; nothing if none does. -/
def replaceFirst {α : Type} (test : α → Bool) (change : α → α) : List α → Option (List α)
  | [] => none
  | a :: rest =>
    if test a then some (change a :: rest)
    else (replaceFirst test change rest).map (a :: ·)

/-- Puts an entry in the place of the first of its name, or at the end. -/
def insert (ps : Parameters) (parameter : Parameter) : Parameters :=
  ⟨(replaceFirst (·.name == parameter.name) (fun _ => parameter) ps.items).getD
    (ps.items ++ [parameter])⟩

/-- Binds an input. -/
def add (ps : Parameters) (name : String) (value : Value) : Parameters :=
  ps.insert ⟨name, value, .input⟩

/-- Registers an output. -/
def addOutput (ps : Parameters) (name : String) : Parameters :=
  ps.insert ⟨name, .null, .output⟩

/-- Renames an entry in its place; other entries of the new name go. Nothing if there is no such
entry. -/
def rename? (ps : Parameters) (name newName : String) : Option Parameters :=
  let kept := if name == newName then ps.items else ps.items.filter (·.name != newName)
  if ps.contains name then
    (replaceFirst (·.name == name) (fun p => { p with name := newName }) kept).map Parameters.mk
  else none

/-- Gives an entry another value; nothing if there is no such entry. -/
def modifyValue? (ps : Parameters) (name : String) (value : Value) : Option Parameters :=
  (replaceFirst (·.name == name) (fun p => { p with value := value }) ps.items).map Parameters.mk

/-- Puts every entry of another collection into this one. -/
def union (ps other : Parameters) : Parameters :=
  other.items.foldl insert ps

/-- The outputs. -/
def outputs (ps : Parameters) : List Parameter :=
  ps.items.filter (·.direction == .output)

end Parameters

end QueryLoom
