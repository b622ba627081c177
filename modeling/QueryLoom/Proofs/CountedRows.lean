import QueryLoom.Proofs.Correspondence
import QueryLoom.Proofs.RecordedTraversals
import QueryLoom.Statement.Reading

/-!
# Counted rows

The count of a query is the number of its rows: the SELECT of the count is put around the SELECT of
the rows without order and pages, and is compiled alike in all other respects. Both fail with the
same error, hand out the same parameters and notice the same traversals.

## Implementation notes

A count leaves its sorts out by a flag, where the rows have none to begin with. The two ways meet in
`sortClause`, and everything behind it is one computation.
-/

namespace QueryLoom

/-- The query of the number of rows. -/
def Query.counting (query : Query) : Query := { query with output := .count }

/-- The query of all rows in no order. -/
def Query.unordered (query : Query) : Query :=
  { query with sorts := [], paging := none, output := .rows }

/-- A statement counts the rows of another one, under the same bindings and flags. -/
structure Statement.CountOf (count rows : Statement) : Prop where
  script : count.script.render = "SELECT COUNT(1) FROM (" ++ rows.script.render ++ ") TB"
  parameters : count.parameters = rows.parameters
  kind : count.kind = rows.kind
  mustAffect : count.mustAffect = rows.mustAffect
  hasTraversal : count.hasTraversal = rows.hasTraversal
  alone : count.alone = rows.alone

variable {c : Compiler}

/-- Sorting by nothing is not sorting. -/
theorem sortClause_nil (entity : Entity) (tableAlias : String) (keys : List SortKey) :
    sortClause c entity tableAlias true [] = sortClause c entity tableAlias false keys := rfl

/-- The clauses of a query that is not sorted are those of the query without its sorts, with all
that they hand out. -/
theorem Query.clauses_unsorted (query : Query) (fields : List String) (tableAlias : String) :
    query.clauses c fields tableAlias false =
      { query with sorts := [] }.clauses c fields tableAlias true := by
  rw [Query.clauses_eq, Query.clauses_eq]
  simp only [sortClause_nil _ _ query.sorts]

/-- Neither pages nor the shape of the output change the clauses. -/
theorem Query.clauses_unordered (query : Query) (fields : List String) (tableAlias : String) :
    query.unordered.clauses c fields tableAlias true =
      query.counting.clauses c fields tableAlias false := by
  rw [query.counting.clauses_unsorted, Query.clauses_eq, Query.clauses_eq]
  rfl

theorem selection_unordered (entity : Entity) (query : Query) (properties : List String)
    (fields : List Field) :
    c.selection entity query.unordered properties fields true =
      c.selection entity query.counting properties fields false := by
  unfold Compiler.selection
  rw [Query.clauses_unordered]
  rfl

/-- The SELECT that counts the rows of layers. -/
def countLayers (rows : Layers) : Layers :=
  .derived [Compiler.expression (Sql.text "COUNT(1)")] rows rootAlias none

theorem render_countLayers (rows : Layers) :
    (countLayers rows).sql.render = "SELECT COUNT(1) FROM (" ++ rows.sql.render ++ ") TB" := by
  have hlead : "SELECT " ++ "COUNT(1)" ++ " FROM " ++ "(" = "SELECT COUNT(1) FROM (" := by decide
  have hend : ")" ++ (" " ++ rootAlias) = ") TB" := by decide
  have hitems : SelectItem.list [Compiler.expression (Sql.text "COUNT(1)")] =
      Sql.text "COUNT(1)" := rfl
  rw [← hlead, ← hend, countLayers, Layers.sql, hitems]
  simp only [Sql.parens, Sql.render_append, Sql.render_text, Sql.render_nil, String.append_assoc,
    String.append_empty]

/-- A count is compiled as the rows that it counts are, up to the last step. -/
theorem count_corresponds (entity : Entity) (query : Query) :
    Corresponds Eq
      (fun a b => a.1.render = "SELECT COUNT(1) FROM (" ++ b.1.render ++ ") TB" ∧ a.2 = b.2)
      (c.count entity query.counting) (c.rows entity query.unordered) := by
  unfold Compiler.count Compiler.rows
  refine (Corresponds.refl (liftM (entity.queryFields query.fields))).bind ?_
  rintro fields _ rfl
  rw [show query.unordered.fields = query.fields from rfl, selection_unordered]
  refine (Corresponds.refl _).bind ?_
  rintro ⟨clauses, s⟩ _ rfl
  exact corresponds_pure ⟨render_countLayers _, rfl⟩

/-- The count of a query that is not given as a text fails as the SELECT of its rows without order
and pages does, and otherwise it is put around that SELECT. -/
theorem count_counts_rows (c : Compiler) {query : Query} (hplain : query.text = none) :
    Agree Statement.CountOf (c.query query.counting) (c.query query.unordered) ∧
      ∀ fields tableAlias, query.clauses c fields tableAlias false =
        { query with sorts := [] }.clauses c fields tableAlias true := by
  refine ⟨?_, fun fields tableAlias => query.clauses_unsorted fields tableAlias⟩
  unfold Compiler.query
  rw [show query.counting.text = none from hplain, show query.unordered.text = none from hplain]
  refine Agree.bind_same fun entity => ?_
  have hcount : c.select entity query.counting = c.count entity query.counting := rfl
  have hrows : c.select entity query.unordered = c.rows entity query.unordered := rfl
  rw [hcount, hrows]
  refine ((count_corresponds entity query).runFrom rfl).bind ?_
  rintro ⟨⟨script, traverses⟩, scope⟩ ⟨⟨script', _⟩, _⟩ ⟨⟨hscript, rfl⟩, rfl⟩
  exact .ok ⟨hscript, rfl, rfl, rfl, rfl, rfl⟩

/-- The first nodes below a root, without duplicates: sorts and pages are left out of their count,
the cap and the traversal stay in it. -/
theorem firstNodes_counted :
    let query : Query :=
      { nodesBelow [⟨.and, .criterion ⟨"ParentId", .equal, .int 7, none⟩⟩] [] [] with
        distinct := true
        sorts := [⟨"Name", .descending, none⟩]
        size := 5
        paging := some ⟨0, 2⟩ }
    query.text = none ∧ ∃ count rows,
      treeCompiler.query query.counting = .ok count ∧
      treeCompiler.query query.unordered = .ok rows ∧ Statement.CountOf count rows := by
  intro query
  have hagree := (count_counts_rows treeCompiler (rfl : query.text = none)).1
  obtain ⟨rows, hrows⟩ := exists_ok_of_isSome (x := treeCompiler.query query.unordered) (by rfl)
  rw [hrows] at hagree
  obtain ⟨count, hcount, h⟩ := hagree.exists_ok_left
  exact ⟨rfl, count, rows, hcount, hrows, h⟩

end QueryLoom
