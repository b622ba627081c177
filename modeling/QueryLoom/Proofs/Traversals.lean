import QueryLoom.Proofs.Compilation
import QueryLoom.Proofs.Occurrences

/-!
# Traversals of a query

The queries of a tree that have a traversal, in the order in which their traversals are compiled,
and what it means that a trace records the traversals of such queries: one script for each, and the
site of the last.

## Implementation notes

`Query.traversing` is read off the tree alone. A comparison without operand compiles nothing of its
value, so a query in that place is none of the tree. A recorded traversal also keeps the run that
compiled the joins of its query, which ties the text of the script to the query.
-/

namespace QueryLoom

/-! ## Queries with traversals -/

mutual
/-- The queries with a traversal in a tree: those in its conditions, in its set operations and in
its joins, and the query itself behind them. -/
def Query.traversing (query : Query) : List Query :=
  match query with
  | { conditions, joins, combines, recursion, .. } =>
    entryTraversing conditions ++ combineTraversing combines ++ joinTraversing joins ++
      if recursion.isSome then [query] else []
termination_by structural query

/-- The queries with a traversal in a list of conditions. -/
def entryTraversing (entries : List ConditionEntry) : List Query :=
  match entries with
  | [] => []
  | ⟨_, condition⟩ :: rest => condition.traversing ++ entryTraversing rest
termination_by structural entries

/-- The queries with a traversal in a condition. -/
def Condition.traversing (condition : Condition) : List Query :=
  match condition with
  | .constant _ => []
  | .criterion criterion => criterion.traversing
  | .group entries => entryTraversing entries
termination_by structural condition

/-- The queries with a traversal in the query that a comparison compares with, if it compares at
all. -/
def Criterion.traversing (criterion : Criterion) : List Query :=
  match criterion with
  | ⟨_, operator, value, _⟩ =>
    if operator.takesOperand then
      match value with
      | .subquery query => query.traversing
      | _ => []
    else []
termination_by structural criterion

/-- The queries with a traversal in set operations. -/
def combineTraversing (combines : List Combine) : List Query :=
  match combines with
  | [] => []
  | ⟨_, query⟩ :: rest => query.traversing ++ combineTraversing rest
termination_by structural combines

/-- The queries with a traversal in joins. -/
def joinTraversing (joins : List Join) : List Query :=
  match joins with
  | [] => []
  | ⟨_, _, _, query⟩ :: rest => query.traversing ++ joinTraversing rest
termination_by structural joins
end

theorem Query.traversing_eq (query : Query) :
    query.traversing =
      entryTraversing query.conditions ++ combineTraversing query.combines ++
        joinTraversing query.joins ++ if query.recursion.isSome then [query] else [] := by
  cases query
  rfl

theorem Criterion.traversing_eq (criterion : Criterion) :
    criterion.traversing =
      if criterion.operator.takesOperand then
        match criterion.value with
        | .subquery query => query.traversing
        | _ => []
      else [] := by
  obtain ⟨property, operator, value, conversion⟩ := criterion
  cases value <;> rfl

/-! ## Visible text -/

/-- No leaf of a search condition is written as nothing. -/
def SearchText.Visible (text : SearchText) : Prop :=
  ∀ sql, SearchPart.leaf sql ∈ text → sql.render ≠ ""

theorem Sql.render_ne_empty {word : String} (hword : word ≠ "") (front rest : Sql) :
    (front ++ Sql.text word ++ rest).render ≠ "" := by
  intro h
  rw [Sql.render_append, Sql.render_append, Sql.render_text] at h
  exact hword (String.append_eq_empty_iff.mp (String.append_eq_empty_iff.mp h).1).2

namespace SearchText.Visible

variable {a b : SearchText}

theorem nil : Visible [] := fun _ h => absurd h List.not_mem_nil

theorem append (ha : a.Visible) (hb : b.Visible) : Visible (a ++ b) := by
  intro sql hsql
  rcases List.mem_append.mp hsql with h | h
  · exact ha sql h
  · exact hb sql h

/-- A part that is not a leaf changes nothing. -/
theorem cons {part : SearchPart} (hpart : ∀ sql, part ≠ .leaf sql) (ha : a.Visible) :
    Visible (part :: a) := by
  intro sql hsql
  rcases List.mem_cons.mp hsql with h | h
  · exact absurd h.symm (hpart sql)
  · exact ha sql h

theorem parens (ha : a.Visible) : a.parens.Visible :=
  (cons (by simp) ha).append (cons (by simp) nil)

theorem connect (op : LogicalOp) (ha : a.Visible) (hb : b.Visible) : (connect op a b).Visible :=
  ha.append (cons (by simp) hb)

theorem leaf {sql : Sql} (h : sql.render ≠ "") : (SearchText.leaf sql).Visible := by
  unfold SearchText.leaf
  split
  · exact nil
  · intro other hother
    cases List.mem_singleton.mp hother
    exact h

/-- A search condition that has parts is written as something. -/
theorem render_ne_empty (ha : a.Visible) (hne : a ≠ []) : a.sql.render ≠ "" := by
  obtain ⟨first, rest, rfl⟩ := List.exists_cons_of_ne_nil hne
  have hfirst : first.sql.render ≠ "" := by
    cases first with
    | leaf sql => exact ha sql List.mem_cons_self
    | connective op => cases op <;> decide
    | opening => decide
    | closing => decide
  intro h
  change (first.sql ++ sql rest).render = "" at h
  rw [Sql.render_append] at h
  exact hfirst (String.append_eq_empty_iff.mp h).1

end SearchText.Visible

namespace Predicate

variable {p q : Predicate}

theorem visible_operand (hp : p.text.Visible) : p.operand.Visible := by
  unfold operand
  split
  · exact hp.parens
  · exact hp

theorem visible_grouped (hp : p.text.Visible) : p.grouped.text.Visible := by
  unfold grouped
  split
  · exact hp
  · exact hp.parens

theorem visible_and (hp : p.text.Visible) (hq : q.text.Visible) : (p.and q).text.Visible := by
  unfold Predicate.and
  split
  · exact hp
  · split
    · exact hq
    · exact (visible_operand hp).connect .and (visible_operand hq)

theorem visible_extend (op : LogicalOp) (hp : p.text.Visible) (hq : q.text.Visible) :
    (p.extend op q).text.Visible := by
  unfold extend
  split
  · exact hp
  · split
    · exact hq
    · exact hp.connect op hq

end Predicate

/-! ## Recorded traversals -/

/-- A traversal of a query: the tables that it runs over, the rows that it starts with, and the
fields that it follows. -/
structure Traversal where
  query : Query
  entity : Entity
  tableAlias : String
  key : Field
  relation : Field
  direction : TraversalDirection
  joins : List JoinedTable
  anchor : Sql

namespace Traversal

variable (c : Compiler) (traversal : Traversal)

/-- The table that a traversal runs over. -/
def table : String := c.table traversal.entity

/-- A column under the alias of a traversal. -/
def column (field : Field) : Sql := c.conventions.column traversal.tableAlias field

/-- The text of a traversal. -/
def script : Sql :=
  Sql.text "SELECT " ++ traversal.column c traversal.key ++
    Sql.text (" FROM " ++ traversal.table c ++ " " ++ traversal.tableAlias) ++
    Sql.clause " " (JoinedTable.list traversal.joins) ++ Sql.text " START WITH " ++
    traversal.anchor ++ Sql.text " CONNECT BY PRIOR " ++
    match traversal.direction with
    | .up => traversal.column c traversal.relation ++ Sql.text " = " ++
        traversal.column c traversal.key
    | .down => traversal.column c traversal.key ++ Sql.text " = " ++
        traversal.column c traversal.relation

/-- A traversal is compiled from its query: it follows the fields that the query names, holds the
joins of the query, and starts with the rows of a condition that is written, at least as a
constant. -/
structure CompiledFrom : Prop where
  recursion : ∃ spec, traversal.query.recursion = some spec ∧
    traversal.entity.field spec.key = .ok traversal.key ∧
    traversal.entity.field spec.relation = .ok traversal.relation ∧
    traversal.direction = spec.direction
  entity : c.schema.entity traversal.query.entity = .ok traversal.entity
  joins : ∃ condition s joining t,
    Yields (joinTables c traversal.entity traversal.tableAlias condition traversal.query.joins) s
      (traversal.joins, joining) t ∧
    traversal.anchor = if joining.text.isEmpty then Sql.text "1 = 1" else joining.text.sql
  anchor : traversal.anchor.render ≠ ""

theorem script_ne_nil : traversal.script c ≠ [] := by
  unfold script
  simp [Sql.text]

theorem infix_script_joins : JoinedTable.list traversal.joins <:+: traversal.script c := by
  unfold script
  iterate 4 apply Sql.infix_before
  exact Sql.infix_behind (Sql.infix_clause " " _) _

theorem infix_script_anchor : traversal.anchor <:+: traversal.script c := by
  unfold script
  iterate 2 apply Sql.infix_before
  exact Sql.infix_behind List.infix_rfl _

end Traversal

/-- The site of the last of some traversals. -/
def siteOf (c : Compiler) (traversals : List Traversal) : TraversalSite where
  table := traversals.getLast?.map (·.table c)
  tableAlias := traversals.getLast?.map (·.tableAlias)

theorem siteOf_append (c : Compiler) (a b : List Traversal) :
    siteOf c (a ++ b) = (siteOf c a).latest (siteOf c b) := by
  unfold siteOf
  rw [List.getLast?_append]
  cases b.getLast? <;> rfl

/-- A trace records the traversals of some queries, one after the other. -/
def Trace.Records (c : Compiler) (queries : List Query) (trace : Trace) : Prop :=
  ∃ traversals : List Traversal, traversals.map (·.query) = queries ∧
    (∀ traversal ∈ traversals, traversal.CompiledFrom c) ∧
    trace = ⟨traversals.map (·.script c), siteOf c traversals⟩

namespace Trace

variable {c : Compiler} {queries queries' : List Query} {trace trace' : Trace}

theorem append_assoc (a b d : Trace) : a ++ b ++ d = a ++ (b ++ d) := by
  change Trace.append (Trace.append a b) d = Trace.append a (Trace.append b d)
  unfold Trace.append
  congr 1
  · exact List.append_assoc _ _ _
  · unfold TraversalSite.latest
    dsimp only
    cases hd : d.site.table.isSome <;> simp [hd]

theorem scripts_append (a b : Trace) : (a ++ b).scripts = a.scripts ++ b.scripts := rfl

theorem records_nil : Records c [] {} := ⟨[], rfl, List.forall_mem_nil _, rfl⟩

theorem Records.append (h : Records c queries trace) (h' : Records c queries' trace') :
    Records c (queries ++ queries') (trace ++ trace') := by
  obtain ⟨a, rfl, ha, rfl⟩ := h
  obtain ⟨b, rfl, hb, rfl⟩ := h'
  refine ⟨a ++ b, List.map_append, ?_, ?_⟩
  · intro traversal htraversal
    rcases List.mem_append.mp htraversal with hmem | hmem
    · exact ha traversal hmem
    · exact hb traversal hmem
  · rw [List.map_append, siteOf_append]
    rfl

/-- No script is empty. -/
theorem Records.script_ne_nil (h : Records c queries trace) :
    ∀ script ∈ trace.scripts, script ≠ [] := by
  obtain ⟨traversals, -, -, rfl⟩ := h
  intro script hscript
  obtain ⟨traversal, -, rfl⟩ := List.mem_map.mp hscript
  exact traversal.script_ne_nil c

/-- A trace without scripts records no queries and knows no site. -/
theorem Records.eq_nil (h : Records c queries trace) (hscripts : trace.scripts = []) :
    queries = [] ∧ trace = {} := by
  obtain ⟨traversals, rfl, -, rfl⟩ := h
  obtain rfl : traversals = [] := List.map_eq_nil_iff.mp hscripts
  exact ⟨rfl, rfl⟩

end Trace

end QueryLoom
