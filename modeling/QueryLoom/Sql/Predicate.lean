import QueryLoom.Sql

/-!
# Predicates

A predicate is the text of a search condition with what its surroundings have to know: whether an
OR stands between its outermost parts, and which hierarchical traversals it holds.

## Implementation notes

The text of a search condition keeps connectives and parentheses apart from its leaves, so that it
can be read again by the grammar of search conditions. `Predicate.and` puts a disjunction in
parentheses on either side; an empty predicate on the right adds nothing, not even its
traversals.
-/

namespace QueryLoom

/-- A part of the text of a search condition. -/
inductive SearchPart where
  | leaf (sql : Sql)
  | connective (op : LogicalOp)
  | opening
  | closing
deriving Repr, DecidableEq

/-- The SQL text of a part. -/
def SearchPart.sql : SearchPart → Sql
  | .leaf sql => sql
  | .connective op => Sql.text (" " ++ op.keyword ++ " ")
  | .opening => Sql.text "("
  | .closing => Sql.text ")"

/-- The text of a search condition. -/
abbrev SearchText := List SearchPart

namespace SearchText

/-- A search condition of one leaf; no text is no condition. -/
def leaf (sql : Sql) : SearchText :=
  if sql.isEmpty then [] else [.leaf sql]

/-- A search condition in parentheses. -/
def parens (text : SearchText) : SearchText :=
  .opening :: text ++ [.closing]

/-- Two search conditions with a connective between them. -/
def connect (op : LogicalOp) (left right : SearchText) : SearchText :=
  left ++ .connective op :: right

/-- The SQL text of a search condition. -/
def sql (text : SearchText) : Sql :=
  text.flatMap SearchPart.sql

@[simp] theorem sql_nil : sql [] = [] := rfl

@[simp] theorem sql_append (a b : SearchText) : sql (a ++ b) = sql a ++ sql b := by
  simp [sql]

end SearchText

/-- The table and the alias that a traversal runs under, where they are known. -/
structure TraversalSite where
  table : Option String := none
  tableAlias : Option String := none
deriving Repr, DecidableEq

/-- The later of two sites, if its table is known. -/
def TraversalSite.latest (earlier later : TraversalSite) : TraversalSite :=
  if later.table.isSome then later else earlier

/-- The traversals of a piece of SQL in order, and the site of the last of them. -/
structure Trace where
  scripts : List Sql := []
  site : TraversalSite := {}
deriving Repr, DecidableEq

/-- One trace after the other. -/
def Trace.append (earlier later : Trace) : Trace :=
  ⟨earlier.scripts ++ later.scripts, earlier.site.latest later.site⟩

instance : Append Trace := ⟨Trace.append⟩

/-- A boolean piece of SQL. -/
structure Predicate where
  text : SearchText := []
  /-- Whether an OR connects outermost parts of the text. -/
  hasOr : Bool := false
  trace : Trace := {}
deriving Repr, DecidableEq

namespace Predicate

/-- A predicate of one leaf. -/
def leaf (sql : Sql) : Predicate := ⟨SearchText.leaf sql, false, {}⟩

/-- The predicate that always or never holds. -/
def constant (holds : Bool) : Predicate :=
  leaf (Sql.text (if holds then "1 = 1" else "1 = 0"))

/-- Whether the predicate has no text. -/
def isEmpty (p : Predicate) : Bool := p.text.isEmpty

/-- The text as an operand of AND: a disjunction stands in parentheses. -/
def operand (p : Predicate) : SearchText :=
  if p.hasOr then p.text.parens else p.text

/-- The conjunction of two predicates. -/
def and (p q : Predicate) : Predicate :=
  if q.isEmpty then p
  else if p.isEmpty then ⟨q.text, q.hasOr, p.trace ++ q.trace⟩
  else ⟨p.operand.connect .and q.operand, false, p.trace ++ q.trace⟩

/-- Adds a sibling behind a connective, without parentheses; the first sibling needs none. -/
def extend (p : Predicate) (op : LogicalOp) (q : Predicate) : Predicate :=
  if q.isEmpty then p
  else if p.isEmpty then ⟨q.text, q.hasOr, p.trace ++ q.trace⟩
  else ⟨p.text.connect op q.text, p.hasOr || op == .or || q.hasOr, p.trace ++ q.trace⟩

/-- A group: its text stands in parentheses, so no OR is outermost. -/
def grouped (p : Predicate) : Predicate :=
  if p.isEmpty then p else { p with text := p.text.parens, hasOr := false }

@[simp] theorem and_empty (p : Predicate) : p.and {} = p := rfl

end Predicate

/-- The empty trace adds nothing behind another. -/
@[simp] theorem Trace.append_empty (t : Trace) : t ++ ({} : Trace) = t := by
  show Trace.append t {} = t
  cases t
  simp [Trace.append, TraversalSite.latest]

end QueryLoom
