import QueryLoom.Clauses.OfQuery

/-!
# Where pieces occur

What SQL is put together from occurs in it whole: the operands of a predicate, the joins and the
condition of a SELECT, and a SELECT in the layers around it.

## Implementation notes

An occurrence is a contiguous run of tokens. It outlives whatever is written around it, so the
occurrences of a piece in the parts of a query carry over to the text of the query.
-/

namespace QueryLoom

/-! ## Text -/

theorem Sql.infix_before {piece front : Sql} (h : piece <:+: front) (rest : Sql) :
    piece <:+: front ++ rest :=
  h.trans (List.prefix_append front rest).isInfix

theorem Sql.infix_behind {piece rest : Sql} (h : piece <:+: rest) (front : Sql) :
    piece <:+: front ++ rest :=
  h.trans (List.suffix_append front rest).isInfix

theorem Sql.infix_parens (sql : Sql) : sql <:+: sql.parens := List.infix_append _ _ _

theorem Sql.infix_clause (lead : String) (sql : Sql) : sql <:+: Sql.clause lead sql := by
  unfold Sql.clause
  split
  · rename_i hempty
    obtain rfl := List.isEmpty_iff.mp hempty
    exact List.infix_rfl
  · exact Sql.infix_behind List.infix_rfl _

theorem Sql.infix_separated {sql : Sql} {parts : List Sql} (h : sql ∈ parts) (separator : String) :
    sql <:+: Sql.separated separator parts := by
  induction parts with
  | nil => exact absurd h List.not_mem_nil
  | cons first rest ih =>
    cases rest with
    | nil =>
      obtain rfl := List.mem_singleton.mp h
      exact List.infix_rfl
    | cons second rest =>
      rw [Sql.separated]
      · rcases List.mem_cons.mp h with rfl | hrest
        · exact Sql.infix_before (Sql.infix_before List.infix_rfl _) _
        · exact Sql.infix_behind (ih hrest) _
      · exact List.cons_ne_nil _ _

namespace SearchText

theorem sql_leaf (sql : Sql) : (leaf sql).sql = sql := by
  unfold leaf
  split
  · rename_i hempty
    rw [List.isEmpty_iff.mp hempty]
    rfl
  · simp [SearchText.sql, SearchPart.sql]

theorem infix_parens (text : SearchText) : text.sql <:+: text.parens.sql := by
  rw [parens, ← List.singleton_append, List.append_assoc, sql_append, sql_append]
  exact Sql.infix_behind (Sql.infix_before List.infix_rfl _) _

theorem infix_connect_left (op : LogicalOp) (left right : SearchText) :
    left.sql <:+: (connect op left right).sql := by
  rw [connect, sql_append]
  exact Sql.infix_before List.infix_rfl _

theorem infix_connect_right (op : LogicalOp) (left right : SearchText) :
    right.sql <:+: (connect op left right).sql := by
  rw [connect, ← List.singleton_append, sql_append, sql_append]
  exact Sql.infix_behind (Sql.infix_behind List.infix_rfl _) _

end SearchText

namespace Predicate

theorem infix_operand (p : Predicate) : p.text.sql <:+: p.operand.sql := by
  unfold operand
  split
  · exact p.text.infix_parens
  · exact List.infix_rfl

theorem infix_grouped (p : Predicate) : p.text.sql <:+: p.grouped.text.sql := by
  unfold grouped
  split
  · exact List.infix_rfl
  · exact p.text.infix_parens

/-- An empty predicate occurs anywhere. -/
theorem infix_of_isEmpty {p : Predicate} (h : p.isEmpty = true) (sql : Sql) :
    p.text.sql <:+: sql := by
  rw [List.isEmpty_iff.mp h]
  exact List.nil_infix

/-- Two predicates put together hold both, also where one of them is empty. -/
theorem infix_unless_empty {p q alone joined : Predicate} (halone : alone.text = q.text)
    (hleft : p.text.sql <:+: joined.text.sql) (hright : q.text.sql <:+: joined.text.sql) :
    let both := if q.isEmpty then p else if p.isEmpty then alone else joined
    p.text.sql <:+: both.text.sql ∧ q.text.sql <:+: both.text.sql := by
  dsimp only
  by_cases hqe : q.isEmpty = true
  · rw [if_pos hqe]
    exact ⟨List.infix_rfl, infix_of_isEmpty hqe _⟩
  · rw [if_neg hqe]
    by_cases hpe : p.isEmpty = true
    · rw [if_pos hpe, halone]
      exact ⟨infix_of_isEmpty hpe _, List.infix_rfl⟩
    · rw [if_neg hpe]
      exact ⟨hleft, hright⟩

theorem infix_and (p q : Predicate) :
    p.text.sql <:+: (p.and q).text.sql ∧ q.text.sql <:+: (p.and q).text.sql :=
  infix_unless_empty rfl (p.infix_operand.trans (SearchText.infix_connect_left _ _ _))
    (q.infix_operand.trans (SearchText.infix_connect_right _ _ _))

theorem infix_extend (p : Predicate) (op : LogicalOp) (q : Predicate) :
    p.text.sql <:+: (p.extend op q).text.sql ∧ q.text.sql <:+: (p.extend op q).text.sql :=
  infix_unless_empty rfl (SearchText.infix_connect_left _ _ _)
    (SearchText.infix_connect_right _ _ _)

end Predicate

theorem infix_comparison (column : Sql) (operator : Operator) (right : Sql) :
    right <:+: comparison column operator right :=
  Sql.infix_behind List.infix_rfl _

theorem Compiler.compareNested_sql {c : Compiler} {column : Sql} {operator : Operator}
    {target : NestedTarget} {tableAlias : String} {distinct : Bool} {clauses : Clauses} :
    (c.compareNested column operator target tableAlias distinct clauses).text.sql =
      comparison column operator
        ((c.nestedSelection target tableAlias distinct clauses).limited target.limit).sql.parens :=
  SearchText.sql_leaf _

/-! ## Clauses -/

namespace JoinedTable

theorem infix_source (joined : JoinedTable) : sourceSql joined.source <:+: joined.sql := by
  unfold JoinedTable.sql
  apply Sql.infix_before
  apply Sql.infix_before
  exact Sql.infix_behind List.infix_rfl _

theorem infix_on {joined : JoinedTable} {text : SearchText} (h : text ∈ joined.on) :
    text.sql <:+: joined.sql := by
  have hmem : text.sql ∈ joined.on.map SearchText.sql := List.mem_map_of_mem h
  exact Sql.infix_behind ((Sql.infix_separated hmem " AND ").trans (Sql.infix_clause " ON " _)) _

theorem infix_list {joined : JoinedTable} {joins : List JoinedTable} (h : joined ∈ joins) :
    joined.sql <:+: list joins :=
  Sql.infix_separated (List.mem_map_of_mem h) " "

end JoinedTable

section PlainSelect

variable (items : List SelectItem) (table tableAlias : String) (join : List JoinedTable)
  (condition : SearchText)

theorem infix_plainSelect_join :
    JoinedTable.list join <:+: plainSelect items table tableAlias join condition := by
  apply Sql.infix_before
  exact Sql.infix_behind (Sql.infix_clause " " _) _

theorem infix_plainSelect_condition :
    condition.sql <:+: plainSelect items table tableAlias join condition :=
  Sql.infix_behind (Sql.infix_clause " WHERE " _) _

end PlainSelect

namespace CombinedSelect

theorem infix_join (s : CombinedSelect) : JoinedTable.list s.join <:+: s.sql :=
  Sql.infix_behind (infix_plainSelect_join _ _ _ _ _) _

theorem infix_condition (s : CombinedSelect) : s.condition.sql <:+: s.sql :=
  Sql.infix_behind (infix_plainSelect_condition _ _ _ _ _) _

theorem infix_list {s : CombinedSelect} {combined : List CombinedSelect} (h : s ∈ combined) :
    s.sql <:+: list combined :=
  Sql.infix_separated (List.mem_map_of_mem h) " "

end CombinedSelect

/-! ## Layers -/

theorem SelectCore.infix_search (core : SelectCore) : core.condition.sql <:+: core.search.sql := by
  unfold search
  split
  · exact List.infix_rfl
  · dsimp only
    split
    · rename_i hempty
      rw [List.isEmpty_iff.mp hempty]
      exact List.nil_infix
    · split
      · exact core.condition.infix_parens.trans (SearchText.infix_connect_left _ _ _)
      · exact SearchText.infix_connect_left _ _ _

/-- The pieces of an innermost SELECT that hold nested queries. -/
def SelectCore.pieces (core : SelectCore) : List Sql :=
  [core.join, core.condition.sql, core.combine]

theorem SelectCore.infix_pieces (core : SelectCore) :
    ∀ piece ∈ core.pieces, piece <:+: core.sql := by
  intro piece hpiece
  simp only [pieces, List.mem_cons, List.not_mem_nil, or_false] at hpiece
  unfold SelectCore.sql
  rcases hpiece with rfl | rfl | rfl
  · apply Sql.infix_before
    apply Sql.infix_before
    apply Sql.infix_before
    exact Sql.infix_behind (Sql.infix_clause " " _) _
  · apply Sql.infix_before
    apply Sql.infix_before
    exact Sql.infix_behind (core.infix_search.trans (Sql.infix_clause " WHERE " _)) _
  · exact Sql.infix_behind (Sql.infix_clause " " _) _

namespace Layers

theorem infix_derived (items : List SelectItem) (inner : Layers) (tableAlias : String)
    (rows : Option RowRange) : inner.sql <:+: (Layers.derived items inner tableAlias rows).sql := by
  refine inner.sql.infix_parens.trans ?_
  simp only [Layers.sql]
  rw [List.append_assoc]
  exact List.infix_append _ _ _

theorem infix_ordered (inner : Layers) (sort : List Sql) :
    inner.sql <:+: (Layers.ordered inner sort).sql :=
  ⟨[], Sql.text " ORDER BY " ++ Sql.separated ", " sort, by simp [Layers.sql]⟩

theorem infix_orderedBy (inner : Layers) (sort : List Sql) :
    inner.sql <:+: (inner.orderedBy sort).sql := by
  unfold Layers.orderedBy
  split
  · exact List.infix_rfl
  · exact inner.infix_ordered sort

end Layers

/-- However a selection is ordered and capped, its innermost SELECT is whole, up to a cap. -/
theorem Selection.infix_limited (s : Selection) (cap : Option Nat) :
    ∃ items inner, (s.core items inner).sql <:+: (s.limited cap).sql := by
  cases cap with
  | none =>
    rw [limited]
    split
    · exact ⟨s.inner, none, (Layers.infix_derived _ _ _ _).trans (Layers.infix_ordered _ _)⟩
    · exact ⟨s.outer, none, Layers.infix_orderedBy _ _⟩
  | some limit =>
    simp only [limited]
    split
    · exact ⟨s.outer, some limit, List.infix_rfl⟩
    · exact ⟨s.inner, none, (Layers.infix_orderedBy _ _).trans (Layers.infix_derived _ _ _ _)⟩
    · split
      · exact ⟨s.inner, none, Layers.infix_derived _ _ _ _⟩
      · exact ⟨s.inner, none, ((Layers.infix_derived _ _ _ _).trans
          (Layers.infix_ordered _ _)).trans (Layers.infix_derived _ _ _ _)⟩

/-- The joins, the condition and the set operations of a selection occur in it. -/
theorem Selection.infix_pieces (s : Selection) (cap : Option Nat) :
    ∀ piece ∈ [s.join, s.condition.sql, s.combine], piece <:+: (s.limited cap).sql := by
  intro piece hpiece
  obtain ⟨items, inner, hcore⟩ := s.infix_limited cap
  refine List.IsInfix.trans ?_ hcore
  apply SelectCore.infix_pieces
  exact hpiece

end QueryLoom
