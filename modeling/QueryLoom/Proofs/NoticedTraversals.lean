import QueryLoom.Proofs.ChosenForms
import QueryLoom.Statement.Reading

/-!
# Noticed traversals

A statement that reads says whether its script holds hierarchical traversals. It knows those of the
clauses of its query, wherever they are nested. The conditions of groups are compiled behind the
clauses, and what they traverse is written without being noticed.

## Implementation notes

Every shape of output is written around one selection, which keeps its joins, its condition, its
groups and its set operations whole. So a traversal is followed from the piece that holds it to the
script, without regard to the layers in between.
-/

namespace QueryLoom

variable {c : Compiler} {s t : Scope} {entity : Entity} {query : Query}

/-! ## Pieces of a selection -/

/-- A text holds the pieces of a selection in which queries are nested. -/
def Selection.WrittenIn (selection : Selection) (sql : Sql) : Prop :=
  ∀ piece ∈ [selection.join, selection.condition.sql, selection.group, selection.combine],
    piece <:+: sql

theorem SelectCore.infix_places (core : SelectCore) :
    ∀ piece ∈ [core.join, core.condition.sql, core.group, core.combine], piece <:+: core.sql := by
  have hpieces := core.infix_pieces
  simp only [pieces, List.forall_mem_cons] at hpieces ⊢
  obtain ⟨hjoin, hcondition, hcombine, hnil⟩ := hpieces
  refine ⟨hjoin, hcondition, ?_, hcombine, hnil⟩
  unfold SelectCore.sql
  apply Sql.infix_before
  exact Sql.infix_behind List.infix_rfl _

namespace Selection

variable {selection : Selection} {sql sql' : Sql}

theorem WrittenIn.mono (h : selection.WrittenIn sql) (hwithin : sql <:+: sql') :
    selection.WrittenIn sql' :=
  fun piece hpiece => (h piece hpiece).trans hwithin

theorem writtenIn_core (selection : Selection) (items : List SelectItem) (cap : Option Nat) :
    selection.WrittenIn (selection.core items cap).sql := by
  intro piece hpiece
  rw [core, Layers.sql]
  apply SelectCore.infix_places
  exact hpiece

theorem writtenIn_limited (selection : Selection) (cap : Option Nat) :
    selection.WrittenIn (selection.limited cap).sql := by
  obtain ⟨items, inner, hcore⟩ := selection.infix_limited cap
  exact (selection.writtenIn_core items inner).mono hcore

end Selection

/-! ## Shapes of output -/

/-- A text is written around a selection of a query, and a flag tells whether the clauses of the
selection hold traversals. -/
def WritesSelection (c : Compiler) (entity : Entity) (query : Query) (s : Scope) (sql : Sql)
    (flag : Bool) (t : Scope) : Prop :=
  ∃ properties fields sorted clauses selection,
    Yields (c.selection entity query properties fields sorted) s (clauses, selection) t ∧
      flag = clauses.hasTraversal ∧ selection.WrittenIn sql

section Shapes

variable {sql : Sql} {flag : Bool}

theorem rows_writesSelection (h : Yields (c.rows entity query) s (sql, flag) t) :
    WritesSelection c entity query s sql flag t := by
  unfold Compiler.rows at h
  simp only [yields_bind, yields_liftM, yields_pure, Prod.mk.injEq] at h
  obtain ⟨fields, _, ⟨-, rfl⟩, ⟨clauses, selection⟩, _, hselection, ⟨rfl, rfl⟩, rfl⟩ := h
  exact ⟨_, _, _, clauses, selection, hselection, rfl, selection.writtenIn_limited _⟩

theorem pageLayers_writtenIn (selection : Selection) (derived : Bool) (counted ordering : Sql)
    (paging : Paging) :
    selection.WrittenIn (Compiler.pageLayers selection derived counted ordering paging).sql := by
  unfold Compiler.pageLayers
  extract_lets order total number window numbered items
  have hnumbered : selection.WrittenIn numbered.sql := by
    cases derived with
    | false => exact selection.writtenIn_core window none
    | true => exact (selection.writtenIn_core selection.inner none).mono (Layers.infix_derived ..)
  exact hnumbered.mono ((Layers.infix_derived ..).trans (Layers.infix_orderedBy ..))

theorem page_writesSelection {paging : Paging}
    (h : Yields (c.page entity query paging) s (sql, flag) t) :
    WritesSelection c entity query s sql flag t := by
  unfold Compiler.page at h
  simp only [yields_bind, yields_liftM] at h
  obtain ⟨fields, _, ⟨-, rfl⟩, h⟩ := h
  split at h
  · exact absurd h not_yields_throw
  · simp only [yields_bind, yields_pure, Prod.mk.injEq] at h
    obtain ⟨⟨clauses, selection⟩, _, hselection, ⟨rfl, rfl⟩, rfl⟩ := h
    exact ⟨_, _, _, clauses, selection, hselection, rfl, pageLayers_writtenIn selection _ _ _ _⟩

theorem count_writesSelection (h : Yields (c.count entity query) s (sql, flag) t) :
    WritesSelection c entity query s sql flag t := by
  unfold Compiler.count at h
  simp only [yields_bind, yields_liftM, yields_pure, Prod.mk.injEq] at h
  obtain ⟨fields, _, ⟨-, rfl⟩, ⟨clauses, selection⟩, _, hselection, ⟨rfl, rfl⟩, rfl⟩ := h
  exact ⟨_, _, _, clauses, selection, hselection, rfl,
    (selection.writtenIn_limited _).mono (Layers.infix_derived ..)⟩

theorem existence_writesSelection (h : Yields (c.existence entity query) s (sql, flag) t) :
    WritesSelection c entity query s sql flag t := by
  unfold Compiler.existence at h
  extract_lets fields at h
  split at h
  · exact absurd h not_yields_throw
  · simp only [yields_bind, yields_pure, Prod.mk.injEq] at h
    obtain ⟨⟨clauses, selection⟩, _, hselection, ⟨rfl, rfl⟩, rfl⟩ := h
    refine ⟨_, _, _, clauses, selection, hselection, rfl,
      (selection.writtenIn_core selection.inner none).mono ?_⟩
    exact Sql.infix_before (Sql.infix_behind (Sql.infix_parens _) _) _

theorem aggregate_writesSelection {function : AggregateFunction}
    (h : Yields (c.aggregate entity query function) s (sql, flag) t) :
    WritesSelection c entity query s sql flag t := by
  unfold Compiler.aggregate at h
  simp only [yields_bind, yields_liftM, yields_pure, Prod.mk.injEq] at h
  obtain ⟨field, _, ⟨-, rfl⟩, fields, _, ⟨-, rfl⟩, ⟨clauses, selection⟩, _, hselection,
    ⟨rfl, rfl⟩, rfl⟩ := h
  refine ⟨_, _, _, clauses, selection, hselection, rfl, ?_⟩
  -- duplicates are removed by the function, and not by the SELECT around the pieces
  have hcore (items : List SelectItem) :
      selection.WrittenIn (Selection.core { selection with distinct := false } items none).sql :=
    Selection.writtenIn_core { selection with distinct := false } items none
  split
  · exact (hcore _).mono (Layers.infix_derived ..)
  · exact hcore _

/-- Every shape of output is written around a selection of its query. -/
theorem select_writesSelection (h : Yields (c.select entity query) s (sql, flag) t) :
    WritesSelection c entity query s sql flag t := by
  unfold Compiler.select at h
  split at h
  · exact page_writesSelection h
  · exact rows_writesSelection h
  · exact count_writesSelection h
  · exact existence_writesSelection h
  · exact aggregate_writesSelection h

end Shapes

/-! ## Traversals of groups -/

/-- The queries with a traversal in the conditions of groups, if there are groups. -/
def Query.groupTraversing (query : Query) : List Query :=
  if query.groupBy.isEmpty then [] else entryTraversing query.having

/-- The queries whose traversals a statement that reads is compiled with. -/
def Query.selectTraversing (query : Query) : List Query :=
  query.traversing ++ query.groupTraversing

/-- A script holds some traversals, compiled from some queries in order. -/
structure HoldsTraversals (c : Compiler) (script : Sql) (queries : List Query)
    (traversals : List Traversal) : Prop where
  queries : traversals.map (·.query) = queries
  compiled : ∀ traversal ∈ traversals, traversal.CompiledFrom c
  within : ∀ traversal ∈ traversals, traversal.script c <:+: script

theorem HoldsTraversals.append {script : Sql} {queries queries' : List Query}
    {traversals traversals' : List Traversal} (h : HoldsTraversals c script queries traversals)
    (h' : HoldsTraversals c script queries' traversals') :
    HoldsTraversals c script (queries ++ queries') (traversals ++ traversals') where
  queries := by rw [List.map_append, h.queries, h'.queries]
  compiled := List.forall_mem_append.mpr ⟨h.compiled, h'.compiled⟩
  within := List.forall_mem_append.mpr ⟨h.within, h'.within⟩

theorem HoldsTraversals.mono {script script' : Sql} {queries : List Query}
    {traversals : List Traversal} (h : HoldsTraversals c script queries traversals)
    (hwithin : script <:+: script') : HoldsTraversals c script' queries traversals where
  queries := h.queries
  compiled := h.compiled
  within := fun traversal htraversal => (h.within traversal htraversal).trans hwithin

/-- The conditions of groups hold their traversals. -/
theorem groupClause_holds {group : Sql} (h : Yields (c.groupClause entity query) s group t) :
    ∃ traversals, HoldsTraversals c group query.groupTraversing traversals := by
  unfold Compiler.groupClause at h
  unfold Query.groupTraversing
  split at h
  · rename_i hempty
    rw [if_pos hempty]
    exact ⟨[], rfl, List.forall_mem_nil _, List.forall_mem_nil _⟩
  · rename_i hne
    rw [if_neg hne]
    simp only [yields_bind, yields_liftM, yields_pure] at h
    obtain ⟨columns, _, -, having, _, hhaving, rfl, -⟩ := h
    have hrecords := foldEntries_records query.having Predicate.records_empty hhaving
    obtain ⟨traversals, hqueries, hcompiled, htrace⟩ := hrecords.trace
    refine ⟨traversals, hqueries, hcompiled, ?_⟩
    intro traversal htraversal
    have hscript : traversal.script c ∈ having.trace.scripts := by
      rw [htrace]
      exact List.mem_map_of_mem htraversal
    exact Sql.infix_behind
      ((hrecords.within _ hscript).trans (Sql.infix_clause " HAVING " _)) _

/-- A text around a selection holds the traversals of the clauses, and those of the groups. -/
theorem selection_holds {properties : List String} {fields : List Field} {sorted : Bool}
    {clauses : Clauses} {selection : Selection} {sql : Sql}
    (h : Yields (c.selection entity query properties fields sorted) s (clauses, selection) t)
    (hwritten : selection.WrittenIn sql) :
    clauses.hasTraversal = !query.traversing.isEmpty ∧
      ∃ traversals, HoldsTraversals c sql query.selectTraversing traversals := by
  unfold Compiler.selection at h
  simp only [yields_bind, yields_pure, Prod.mk.injEq] at h
  obtain ⟨compiled, r, hclauses, group, _, hgroup, ⟨rfl, rfl⟩, rfl⟩ := h
  simp only [Selection.WrittenIn, List.forall_mem_cons] at hwritten
  obtain ⟨hjoin, hcondition, hgrouped, hcombine, -⟩ := hwritten
  obtain ⟨traversals, hrecorded⟩ := Query.clauses_recorded query hclauses
  obtain ⟨ofGroups, hgroups⟩ := groupClause_holds hgroup
  refine ⟨Query.clauses_hasTraversal hclauses, traversals ++ ofGroups,
    HoldsTraversals.append ⟨hrecorded.queries, hrecorded.compiled, ?_⟩ (hgroups.mono hgrouped)⟩
  intro traversal htraversal
  have hscript : traversal.script c ∈ compiled.trace.scripts := by
    rw [hrecorded.trace]
    exact List.mem_map_of_mem htraversal
  rcases hrecorded.within _ hscript with hin | ⟨joined, hjoined, hin⟩ | ⟨select, hselect, hin⟩
  · exact hin.trans hcondition
  · exact (hin.trans (JoinedTable.infix_list hjoined)).trans hjoin
  · exact (hin.trans (CombinedSelect.infix_list hselect)).trans hcombine

/-! ## Statements -/

/-- A statement holds a traversal that was compiled for one of some queries. -/
def Statement.Traverses (c : Compiler) (queries : List Query) (statement : Statement) : Prop :=
  ∃ traversal : Traversal, traversal.query ∈ queries ∧ traversal.CompiledFrom c ∧
    traversal.script c <:+: statement.script

/-- A statement that holds a traversal for each of some queries holds one exactly if there are
queries. -/
theorem HoldsTraversals.traverses_iff {statement : Statement} {queries : List Query}
    {traversals : List Traversal} (h : HoldsTraversals c statement.script queries traversals) :
    statement.Traverses c queries ↔ queries ≠ [] := by
  constructor
  · rintro ⟨traversal, hquery, -⟩
    exact List.ne_nil_of_mem hquery
  · intro hne
    rw [← h.queries] at hne ⊢
    obtain ⟨first, rest, rfl⟩ := List.exists_cons_of_ne_nil (List.map_eq_nil_iff.not.mp hne)
    exact ⟨first, List.mem_cons_self, h.compiled first List.mem_cons_self,
      h.within first List.mem_cons_self⟩

/-- The statement of a query without text holds the traversals of its clauses and of its groups, in
every shape of output. It says that it holds traversals, and runs alone, exactly if its clauses
traverse. That is what its script does unless the groups traverse and the clauses do not. -/
theorem query_noticed_iff {statement : Statement} (htext : query.text = none)
    (h : c.query query = .ok statement) :
    (∃ traversals, HoldsTraversals c statement.script query.selectTraversing traversals) ∧
      statement.alone = statement.hasTraversal ∧
      (statement.hasTraversal = true ↔ query.traversing ≠ []) ∧
      ((statement.hasTraversal = true ↔ statement.Traverses c query.selectTraversing) ↔
        (query.traversing = [] → query.groupTraversing = [])) := by
  unfold Compiler.query at h
  simp only [htext, except_bind_eq_ok] at h
  obtain ⟨entity, -, ⟨⟨script, flag⟩, scope⟩, hrun, h⟩ := h
  cases h
  obtain ⟨properties, fields, sorted, clauses, selection, hselection, rfl, hwritten⟩ :=
    select_writesSelection (runFrom_eq_ok.mp hrun)
  obtain ⟨hnoticed, traversals, hholds⟩ := selection_holds hselection hwritten
  have hflag : (Statement.compiled script scope.parameters false clauses.hasTraversal).hasTraversal
      = true ↔ query.traversing ≠ [] := by
    rw [Statement.compiled, hnoticed, Bool.not_eq_true', List.isEmpty_eq_false_iff]
  refine ⟨⟨traversals, hholds⟩, rfl, hflag, ?_⟩
  rw [hflag, HoldsTraversals.traverses_iff hholds, Query.selectTraversing, ne_eq, ne_eq,
    List.append_eq_nil_iff]
  tauto

/-- The number of nodes below some, in a condition and behind a set operation, is noticed to
traverse the tree. -/
theorem countedBelow_noticed :
    let below := nodesBelow [] [] []
    let query : Query := { nodesBelow
      [⟨.and, .criterion ⟨"ParentId", .isIn, .subquery below, none⟩⟩] [] [⟨.union, below⟩] with
      recursion := none, output := .count }
    ∃ statement traversals, treeCompiler.query query = .ok statement ∧
      HoldsTraversals treeCompiler statement.script [below, below] traversals ∧
      statement.hasTraversal = true ∧ statement.alone = true := by
  intro below query
  obtain ⟨statement, h⟩ := exists_ok_of_isSome (x := treeCompiler.query query) (by decide +kernel)
  obtain ⟨⟨traversals, hholds⟩, halone, hflag, -⟩ := query_noticed_iff rfl h
  have hnoticed : statement.hasTraversal = true := hflag.mpr (List.cons_ne_nil _ _)
  exact ⟨statement, traversals, h, hholds, hnoticed, halone.trans hnoticed⟩

/-- The condition of a group traverses the tree, and the statement does not say so. -/
theorem groupedBelow_unnoticed :
    let query : Query := {
      entity := "Node", fields := ["ParentId"], groupBy := ["ParentId"]
      having := [⟨.and, .criterion ⟨"ParentId", .isIn, .subquery (nodesBelow [] [] []), none⟩⟩] }
    (treeCompiler.query query).toOption.map (fun statement =>
        (statement.script.render, statement.hasTraversal, statement.alone)) =
      some ("SELECT TB.\"PARENTID\" FROM \"NODE\" TB GROUP BY TB.\"PARENTID\" HAVING " ++
        "TB.\"PARENTID\" IN (SELECT TSB0.\"ID\" FROM \"NODE\" TSB0 WHERE TSB0.\"ID\" IN " ++
        "(SELECT TSB1.\"ID\" FROM \"NODE\" TSB1 START WITH 1 = 1 CONNECT BY PRIOR " ++
        "TSB1.\"ID\" = TSB1.\"PARENTID\"))", false, false) := by
  decide +kernel

end QueryLoom
