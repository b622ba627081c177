import QueryLoom.Proofs.Compilation
import QueryLoom.Proofs.Traversals

/-!
# Recorded traversals

A query that compiles records the traversals of its tree: one script for each query with a
traversal, in order, and the site of the last of them. Each recorded script occurs in the text of
the clauses.

## Implementation notes

A predicate without text adds nothing to the one before it, not even its trace. No traversal is lost
that way: a script is not empty and occurs in the text of its predicate, so a predicate without
text has recorded none.
-/

namespace QueryLoom

variable {c : Compiler} {s t : Scope} {entity : Entity} {tableAlias : String}

/-! ## Predicates -/

/-- A predicate records the traversals of some queries, and its text holds their scripts. -/
structure Predicate.Records (c : Compiler) (queries : List Query) (p : Predicate) : Prop where
  trace : p.trace.Records c queries
  within : ∀ script ∈ p.trace.scripts, script <:+: p.text.sql
  visible : p.text.Visible

namespace Predicate

variable {p q : Predicate} {queries queries' : List Query}

/-- Nothing is recorded in a predicate without text. -/
theorem Records.of_isEmpty (h : p.Records c queries) (hempty : p.isEmpty = true) :
    queries = [] ∧ p.trace = {} := by
  apply h.trace.eq_nil
  rw [List.eq_nil_iff_forall_not_mem]
  intro script hscript
  have hinfix := h.within script hscript
  rw [List.isEmpty_iff.mp hempty, SearchText.sql_nil] at hinfix
  exact h.trace.script_ne_nil script hscript (List.infix_nil.mp hinfix)

theorem records_empty : Records c [] {} where
  trace := Trace.records_nil
  within := List.forall_mem_nil _
  visible := .nil

theorem records_leaf {sql : Sql} (h : sql.render ≠ "") : (Predicate.leaf sql).Records c [] where
  trace := Trace.records_nil
  within := List.forall_mem_nil _
  visible := .leaf h

theorem records_constant (holds : Bool) : (Predicate.constant holds).Records c [] := by
  apply records_leaf
  cases holds <;> decide

theorem Records.grouped (h : p.Records c queries) : p.grouped.Records c queries := by
  have htrace : p.grouped.trace = p.trace := by
    unfold Predicate.grouped
    split <;> rfl
  constructor
  · rw [htrace]
    exact h.trace
  · rw [htrace]
    intro script hscript
    exact (h.within script hscript).trans p.infix_grouped
  · exact visible_grouped h.visible

/-- A sibling adds its traversals, also if it has none and is dropped. -/
theorem Records.extend (op : LogicalOp) (h : p.Records c queries) (h' : q.Records c queries') :
    (p.extend op q).Records c (queries ++ queries') := by
  have htrace : (p.extend op q).trace = p.trace ++ q.trace := by
    unfold Predicate.extend
    split
    · rename_i hempty
      rw [(h'.of_isEmpty hempty).2, Trace.append_empty]
    · split <;> rfl
  constructor
  · rw [htrace]
    exact h.trace.append h'.trace
  · rw [htrace, Trace.scripts_append, List.forall_mem_append]
    constructor
    · intro script hscript
      exact (h.within script hscript).trans (p.infix_extend op q).1
    · intro script hscript
      exact (h'.within script hscript).trans (p.infix_extend op q).2
  · exact visible_extend op h.visible h'.visible

end Predicate

theorem render_comparison_ne_empty (column : Sql) (operator : Operator) (right : Sql) :
    (comparison column operator right).render ≠ "" := by
  apply Sql.render_ne_empty
  intro h
  exact absurd (String.append_eq_empty_iff.mp h).2 (by decide)

theorem render_standing_ne_empty (column : Sql) (operator : Operator) :
    (column ++ Sql.text (" " ++ operator.sql)).render ≠ "" := by
  rw [← List.append_nil (column ++ Sql.text _)]
  apply Sql.render_ne_empty
  intro h
  exact absurd (String.append_eq_empty_iff.mp h).1 (by decide)

theorem compareCollection_records {property : String} {column : Sql} {operator : Operator}
    {items : List Value} {p : Predicate}
    (h : Yields (c.compareCollection entity property column operator items) s p t) :
    p.Records c [] := by
  rcases compareCollection_yields h with ⟨holds, rfl⟩ | ⟨right, rfl⟩
  · exact Predicate.records_constant holds
  · exact Predicate.records_leaf (render_comparison_ne_empty _ _ _)

theorem compareScalar_records {property : String} {column : Sql} {operator : Operator}
    {value : Value} {p : Predicate}
    (h : Yields (c.compareScalar property column operator value) s p t) : p.Records c [] := by
  obtain ⟨right, rfl⟩ := compareScalar_yields h
  exact Predicate.records_leaf (render_comparison_ne_empty _ _ _)

/-! ## Clauses -/

/-- A script occurs in one of some joins. -/
def JoinedTable.Within (script : Sql) (joins : List JoinedTable) : Prop :=
  ∃ joined ∈ joins, script <:+: joined.sql

/-- A script occurs in one of some combined SELECTs. -/
def CombinedSelect.Within (script : Sql) (combined : List CombinedSelect) : Prop :=
  ∃ select ∈ combined, script <:+: select.sql

/-- A script occurs in the condition, the joins or the set operations of clauses. -/
def Clauses.Within (script : Sql) (clauses : Clauses) : Prop :=
  script <:+: clauses.condition.sql ∨ JoinedTable.Within script clauses.usableJoin ∨
    CombinedSelect.Within script clauses.combine

/-- Clauses record the traversals of some queries, and their text holds their scripts. -/
structure Clauses.Records (c : Compiler) (queries : List Query) (clauses : Clauses) : Prop where
  trace : clauses.trace.Records c queries
  within : ∀ script ∈ clauses.trace.scripts, clauses.Within script
  visible : clauses.condition.Visible

/-- Set operations record the traversals of their queries. -/
structure CombinesRecord (c : Compiler) (queries : List Query) (combined : List CombinedSelect)
    (trace : Trace) : Prop where
  recorded : trace.Records c queries
  within : ∀ script ∈ trace.scripts, CombinedSelect.Within script combined

/-- Joins add the traversals of their queries to those that a predicate has recorded before, and
keep its text. -/
structure JoinsRecord (c : Compiler) (queries : List Query) (before after : Predicate)
    (joins : List JoinedTable) : Prop where
  trace : ∃ added : Trace, after.trace = before.trace ++ added ∧ added.Records c queries ∧
    ∀ script ∈ added.scripts, script <:+: after.text.sql ∨ JoinedTable.Within script joins
  kept : before.text.sql <:+: after.text.sql
  visible : before.text.Visible → after.text.Visible

section

variable {queries queries' : List Query} {clauses : Clauses}

/-- A nested query stands whole in its comparison. -/
theorem Clauses.Records.compareNested (h : clauses.Records c queries) (column : Sql)
    (operator : Operator) (target : NestedTarget) (nestedAlias : String) (distinct : Bool) :
    (c.compareNested column operator target nestedAlias distinct clauses).Records c queries := by
  let selection := c.nestedSelection target nestedAlias distinct clauses
  have hne := render_comparison_ne_empty column operator (selection.limited target.limit).sql.parens
  have hlimited : (selection.limited target.limit).sql <:+:
      comparison column operator (selection.limited target.limit).sql.parens :=
    (Sql.infix_parens _).trans (infix_comparison _ _ _)
  have hpieces := selection.infix_pieces target.limit
  constructor
  · exact h.trace
  · intro script hscript
    rw [Compiler.compareNested_sql]
    refine List.IsInfix.trans ?_ hlimited
    rcases h.within script hscript with hcondition | ⟨joined, hjoined, hjoin⟩ |
      ⟨select, hselect, hcombine⟩
    · exact hcondition.trans (hpieces _ (by simp [selection, Compiler.nestedSelection]))
    · exact (hjoin.trans (JoinedTable.infix_list hjoined)).trans
        (hpieces _ (by simp [selection, Compiler.nestedSelection]))
    · exact (hcombine.trans (CombinedSelect.infix_list hselect)).trans
        (hpieces _ (by simp [selection, Compiler.nestedSelection]))
  · exact .leaf hne

/-- A joined query hands on its traversals, in what it adds to the joins or to the condition. -/
theorem joinedTables_records {sourceAlias : String} {target : Entity} {kind : JoinKind}
    {fields : List (String × String)} {operator : JoinOperator} {projection : List String}
    {condition joining : Predicate} {tables : List JoinedTable} (hsub : clauses.Records c queries)
    (h : Yields (c.joinedTables entity sourceAlias target tableAlias kind fields operator projection
      clauses { condition with trace := condition.trace ++ clauses.trace }) s (tables, joining) t) :
    JoinsRecord c queries condition joining tables := by
  rcases joinedTables_yields h with ⟨hcombine, -, on, -, rfl, rfl⟩ |
    ⟨-, rfl, derivedAlias, projected, on, -, -, -, rfl⟩
  · cases hinOn : clauses.allowJoin && kind != .cross with
    | true =>
      -- the condition stands in the ON clause
      rw [if_pos rfl]
      refine ⟨⟨clauses.trace, rfl, hsub.trace, ?_⟩, List.infix_rfl, id⟩
      intro script hscript
      right
      rcases hsub.within script hscript with hcondition | ⟨joined, hjoined, hjoin⟩ |
        ⟨select, hselect, -⟩
      · refine ⟨_, List.mem_cons_self, ?_⟩
        have hown : clauses.predicate.isEmpty = false := by
          rw [Predicate.isEmpty, List.isEmpty_eq_false_iff]
          intro hnil
          have hsql : clauses.condition.sql = [] := congrArg SearchText.sql hnil
          rw [hsql] at hcondition
          exact hsub.trace.script_ne_nil script hscript (List.infix_nil.mp hcondition)
        rw [hown]
        have hoperand : script <:+: clauses.predicate.operand.sql :=
          hcondition.trans clauses.predicate.infix_operand
        exact hoperand.trans (JoinedTable.infix_on (List.mem_append_right _ List.mem_cons_self))
      · exact ⟨joined, List.mem_cons_of_mem _ hjoined, hjoin⟩
      · rw [hcombine] at hselect
        exact absurd hselect List.not_mem_nil
    | false =>
      -- the condition is handed on
      rw [if_neg Bool.false_ne_true]
      have htrace : ∀ p : Predicate, (p.and clauses.predicate).trace = p.trace := by
        intro p
        unfold Predicate.and
        split
        · rfl
        · split <;> exact Trace.append_empty _
      have hinfix := Predicate.infix_and
        { condition with trace := condition.trace ++ clauses.trace } clauses.predicate
      constructor
      · refine ⟨clauses.trace, htrace _, hsub.trace, ?_⟩
        intro script hscript
        rcases hsub.within script hscript with hcondition | ⟨joined, hjoined, hjoin⟩ |
          ⟨select, hselect, -⟩
        · exact .inl (hcondition.trans hinfix.2)
        · exact .inr ⟨joined, List.mem_cons_of_mem _ hjoined, hjoin⟩
        · rw [hcombine] at hselect
          exact absurd hselect List.not_mem_nil
      · exact hinfix.1
      · intro hvisible
        exact Predicate.visible_and hvisible hsub.visible
  · refine ⟨⟨clauses.trace, rfl, hsub.trace, ?_⟩, List.infix_rfl, id⟩
    intro script hscript
    refine .inr ⟨_, List.mem_cons_self, ?_⟩
    refine List.IsInfix.trans ?_ (JoinedTable.infix_source _)
    change script <:+: Sql.parens _
    refine List.IsInfix.trans ?_ (Sql.infix_parens _)
    rcases hsub.within script hscript with hcondition | ⟨joined, hjoined, hjoin⟩ |
      ⟨select, hselect, hcombined⟩
    · exact Sql.infix_before (hcondition.trans (infix_plainSelect_condition _ _ _ _ _)) _
    · exact Sql.infix_before ((hjoin.trans (JoinedTable.infix_list hjoined)).trans
        (infix_plainSelect_join _ _ _ _ _)) _
    · exact Sql.infix_behind ((hcombined.trans (CombinedSelect.infix_list hselect)).trans
        (Sql.infix_clause " " _)) _

/-- Joins one after the other. -/
theorem JoinsRecord.append {before between after : Predicate} {joins joins' : List JoinedTable}
    (h : JoinsRecord c queries before between joins)
    (h' : JoinsRecord c queries' between after joins') :
    JoinsRecord c (queries ++ queries') before after (joins ++ joins') := by
  obtain ⟨added, htrace, hrecords, hwithin⟩ := h.trace
  obtain ⟨added', htrace', hrecords', hwithin'⟩ := h'.trace
  refine ⟨⟨added ++ added', ?_, hrecords.append hrecords', ?_⟩, h.kept.trans h'.kept,
    h'.visible ∘ h.visible⟩
  · rw [htrace', htrace, Trace.append_assoc]
  · rw [Trace.scripts_append, List.forall_mem_append]
    constructor
    · intro script hscript
      rcases hwithin script hscript with htext | ⟨joined, hjoined, hjoin⟩
      · exact .inl (htext.trans h'.kept)
      · exact .inr ⟨joined, List.mem_append_left _ hjoined, hjoin⟩
    · intro script hscript
      rcases hwithin' script hscript with htext | ⟨joined, hjoined, hjoin⟩
      · exact .inl htext
      · exact .inr ⟨joined, List.mem_append_right _ hjoined, hjoin⟩

/-- The clauses of a query before its own traversal record what its parts record. -/
theorem Predicate.Records.assembled {condition joining : Predicate} {combine : List CombinedSelect}
    {combined : Trace} {join : List JoinedTable} {sort : List Sql} {queries'' : List Query}
    (hcondition : condition.Records c queries) (hcombine : CombinesRecord c queries' combine combined)
    (hjoin : JoinsRecord c queries'' { condition with trace := condition.trace ++ combined } joining
      join) :
    Clauses.Records c (queries ++ queries' ++ queries'')
      { condition := joining.text, hasOr := joining.hasOr, sort, join, combine, allowJoin := true,
        trace := joining.trace } := by
  obtain ⟨added, htrace, hrecords, hwithin⟩ := hjoin.trace
  constructor
  · rw [htrace]
    exact (hcondition.trace.append hcombine.recorded).append hrecords
  · rw [htrace]
    simp only [Trace.scripts_append, List.forall_mem_append]
    refine ⟨⟨?_, ?_⟩, ?_⟩
    · intro script hscript
      exact .inl ((hcondition.within script hscript).trans hjoin.kept)
    · intro script hscript
      exact .inr (.inr (hcombine.within script hscript))
    · intro script hscript
      rcases hwithin script hscript with htext | hjoined
      · exact .inl htext
      · exact .inr (.inl hjoined)
  · exact hjoin.visible hcondition.visible

/-- The clauses of a query record the traversals of its tree. A traversal of its own is the last of
them, and takes the place of its condition and its joins. -/
structure Clauses.RecordedTree (c : Compiler) (query : Query) (tableAlias : String)
    (traversals : List Traversal) (clauses : Clauses) : Prop where
  queries : traversals.map (·.query) = query.traversing
  compiled : ∀ traversal ∈ traversals, traversal.CompiledFrom c
  trace : clauses.trace = ⟨traversals.map (·.script c), siteOf c traversals⟩
  within : ∀ script ∈ clauses.trace.scripts, clauses.Within script
  visible : clauses.condition.Visible
  allowJoin : clauses.allowJoin = query.recursion.isNone
  own : query.recursion ≠ none → ∃ own, traversals.getLast? = some own ∧ own.query = query ∧
    own.joins = clauses.join ∧ clauses.condition = SearchText.leaf
      (comparison (c.conventions.column tableAlias own.key) .isIn (own.script c).parens)

theorem Clauses.RecordedTree.records {query : Query} {traversals : List Traversal}
    (h : clauses.RecordedTree c query tableAlias traversals) :
    clauses.Records c query.traversing where
  trace := ⟨traversals, h.queries, h.compiled, h.trace⟩
  within := h.within
  visible := h.visible

/-- What occurred in the clauses before occurs in the script of the traversal, or in the set
operations still. -/
theorem Clauses.Within.traversed {script : Sql} {before : Clauses} (hne : script ≠ [])
    (h : before.Within script) (own : Traversal) (hjoins : own.joins = before.usableJoin)
    (hanchor : own.anchor =
      if before.condition.isEmpty then Sql.text "1 = 1" else before.condition.sql) :
    script <:+: own.script c ∨ CombinedSelect.Within script before.combine := by
  rcases h with hcondition | ⟨joined, hjoined, hjoin⟩ | hcombine
  · left
    have hnonempty : before.condition.isEmpty = false := by
      rw [List.isEmpty_eq_false_iff]
      intro hnil
      rw [hnil, SearchText.sql_nil] at hcondition
      exact hne (List.infix_nil.mp hcondition)
    rw [hnonempty, if_neg Bool.false_ne_true] at hanchor
    rw [← hanchor] at hcondition
    exact hcondition.trans (own.infix_script_anchor c)
  · left
    rw [← hjoins] at hjoined
    exact (hjoin.trans (JoinedTable.infix_list hjoined)).trans (own.infix_script_joins c)
  · exact .inr hcombine

theorem traversal_recorded {query : Query} {innerAlias : String} {before : Clauses}
    {condition joining : Predicate} {r r' : Scope}
    (hqueries : queries = entryTraversing query.conditions ++ combineTraversing query.combines ++
      joinTraversing query.joins)
    (hbefore : before.Records c queries) (hallow : before.allowJoin = true)
    (hentity : c.schema.entity query.entity = .ok entity)
    (hjoins : Yields (joinTables c entity innerAlias condition query.joins) r
      (before.join, joining) r')
    (hcondition : before.condition = joining.text)
    (h : traversal c entity tableAlias innerAlias before query.recursion = .ok clauses) :
    ∃ traversals, clauses.RecordedTree c query tableAlias traversals := by
  obtain ⟨traversals, hmap, hcompiled, htrace⟩ := hbefore.trace
  have htraversing := query.traversing_eq
  rw [← hqueries, ← hmap] at htraversing
  have husable : before.usableJoin = before.join := if_pos hallow
  rcases traversal_eq_ok h with ⟨hnone, rfl⟩ | ⟨spec, key, relation, hsome, hkey, hrelation, rfl⟩
  · refine ⟨traversals, ?_, hcompiled, htrace, hbefore.within, hbefore.visible, ?_, ?_⟩
    · rw [htraversing, hnone]
      exact (List.append_nil _).symm
    · rw [hallow, hnone]
      rfl
    · exact fun hrecursion => absurd hnone hrecursion
  · let own : Traversal := {
      query, entity, tableAlias := innerAlias, key, relation, direction := spec.direction
      joins := before.join
      anchor := if before.condition.isEmpty then Sql.text "1 = 1" else before.condition.sql }
    have hscript : traversalScript (c.table entity) innerAlias before
        (c.conventions.column innerAlias key) (c.conventions.column innerAlias relation)
        spec.direction = own.script c := by
      unfold traversalScript Compiler.traversalLink
      rfl
    have hanchor : own.anchor.render ≠ "" := by
      change Sql.render (if before.condition.isEmpty then _ else _) ≠ ""
      split
      · decide
      · rename_i hne
        exact hbefore.visible.render_ne_empty fun hnil => hne (List.isEmpty_iff.mpr hnil)
    have hown : own.CompiledFrom c := {
      recursion := ⟨spec, hsome, hkey, hrelation, rfl⟩
      entity := hentity
      joins := ⟨condition, r, joining, r', hjoins, by rw [← hcondition]⟩
      anchor := hanchor }
    have hleaf : ∀ script, script <:+: own.script c → script <:+: (SearchText.leaf
        (comparison (c.conventions.column tableAlias key) .isIn (own.script c).parens)).sql := by
      intro script hscript
      rw [SearchText.sql_leaf]
      exact (hscript.trans (Sql.infix_parens _)).trans (infix_comparison _ _ _)
    simp only [hscript]
    refine ⟨traversals ++ [own], ?_, ?_, ?_, ?_, ?_, ?_, ?_⟩
    · rw [htraversing, hsome, List.map_append]
      rfl
    · rw [List.forall_mem_append]
      exact ⟨hcompiled, List.forall_mem_singleton.mpr hown⟩
    · rw [htrace, List.map_append, siteOf_append]
      rfl
    · rw [Trace.scripts_append, List.forall_mem_append, List.forall_mem_singleton]
      constructor
      · intro script hmem
        rcases (hbefore.within script hmem).traversed (hbefore.trace.script_ne_nil script hmem) own
          husable.symm rfl with hinfix | hcombine
        · exact .inl (hleaf script hinfix)
        · exact .inr (.inr hcombine)
      · exact .inl (hleaf _ List.infix_rfl)
    · have hvisible : (comparison (c.conventions.column tableAlias key) .isIn
          (own.script c).parens).render ≠ "" := render_comparison_ne_empty _ _ _
      exact SearchText.Visible.leaf hvisible
    · rw [hsome]
      rfl
    · intro _
      exact ⟨own, List.getLast?_concat, rfl, rfl, rfl⟩

end

/-! ## Trees -/

theorem combinedSelects_cons_records {queries queries' : List Query} {kind : CombineKind}
    {items : List SelectItem} {table nestedAlias : String} {sub : Clauses}
    {others : List CombinedSelect} {trace : Trace} (hsub : sub.Records c queries)
    (hothers : CombinesRecord c queries' others trace) :
    CombinesRecord c (queries ++ queries')
      (⟨kind, items, table, nestedAlias, sub.usableJoin, sub.condition⟩ :: sub.combine ++ others)
      (sub.trace ++ trace) := by
  constructor
  · exact hsub.trace.append hothers.recorded
  · rw [Trace.scripts_append, List.forall_mem_append]
    constructor
    · intro script hscript
      rcases hsub.within script hscript with hcondition | ⟨joined, hjoined, hjoin⟩ |
        ⟨select, hselect, hcombine⟩
      · refine ⟨_, List.mem_cons_self, List.IsInfix.trans ?_ (CombinedSelect.infix_condition _)⟩
        exact hcondition
      · refine ⟨_, List.mem_cons_self, List.IsInfix.trans ?_ (CombinedSelect.infix_join _)⟩
        exact hjoin.trans (JoinedTable.infix_list hjoined)
      · exact ⟨select, List.mem_cons_of_mem _ (List.mem_append_left _ hselect), hcombine⟩
    · intro script hscript
      obtain ⟨select, hselect, hcombine⟩ := hothers.within script hscript
      exact ⟨select, List.mem_cons_of_mem _ (List.mem_append_right _ hselect), hcombine⟩

theorem entryTraversing_cons (entry : ConditionEntry) (rest : List ConditionEntry) :
    entryTraversing (entry :: rest) = entry.condition.traversing ++ entryTraversing rest := by
  cases entry
  rfl

theorem combineTraversing_cons (first : Combine) (rest : List Combine) :
    combineTraversing (first :: rest) = first.query.traversing ++ combineTraversing rest := by
  cases first
  rfl

theorem joinTraversing_cons (first : Join) (rest : List Join) :
    joinTraversing (first :: rest) = first.query.traversing ++ joinTraversing rest := by
  cases first
  rfl

/-- Only a nested query holds traversals. -/
theorem Criterion.traversing_of_no_query {criterion : Criterion}
    (h : ∀ query, criterion.value ≠ .subquery query) : criterion.traversing = [] := by
  rw [Criterion.traversing_eq]
  generalize criterion.value = value at h
  cases value with
  | subquery query => exact absurd rfl (h query)
  | _ => exact ite_self []

mutual
/-- The clauses of a query record the traversals of its tree. -/
theorem Query.clauses_recorded (query : Query) {fields : List String} {tableAlias : String}
    {sorted : Bool} {clauses : Clauses} {s t : Scope}
    (h : Yields (query.clauses c fields tableAlias sorted) s clauses t) :
    ∃ traversals, clauses.RecordedTree c query tableAlias traversals := by
  obtain ⟨entity, innerAlias, r₁, condition, r₂, sort, r₃, combine, trace, r₄, join, joining,
    hentity, -, hcondition, -, hcombine, hjoin, hclauses⟩ := Query.clauses_yields h
  cases query with
  | mk entityName conditions sorts joins combines recursion fields' distinct groupBy having size
      paging output text =>
    have hconditions := foldEntries_records conditions Predicate.records_empty hcondition
    have hcombines := combinedSelects_records combines hcombine
    have hjoins := joinTables_records joins hjoin
    exact traversal_recorded rfl (hconditions.assembled hcombines hjoins) rfl hentity hjoin rfl
      hclauses
termination_by structural query

/-- Conditions record their traversals behind those of the conditions before them. -/
theorem foldEntries_records (entries : List ConditionEntry) {entity : Entity} {tableAlias : String}
    {queries : List Query} {before p : Predicate} {s t : Scope} (hbefore : before.Records c queries)
    (h : Yields (foldEntries c entity tableAlias before entries) s p t) :
    p.Records c (queries ++ entryTraversing entries) := by
  cases entries with
  | nil =>
    obtain ⟨rfl, rfl⟩ := foldEntries_nil_yields.mp h
    rw [entryTraversing, List.append_nil]
    exact hbefore
  | cons entry rest =>
    obtain ⟨q, r, hq, hrest⟩ := foldEntries_cons_yields.mp h
    obtain ⟨connector, condition⟩ := entry
    have hcondition := Condition.predicate_records condition hq
    have hentries := foldEntries_records rest (hbefore.extend connector hcondition) hrest
    rw [entryTraversing_cons, ← List.append_assoc]
    exact hentries
termination_by structural entries

/-- A condition records its traversals. -/
theorem Condition.predicate_records (condition : Condition) {entity : Entity} {tableAlias : String}
    {p : Predicate} {s t : Scope} (h : Yields (condition.predicate c entity tableAlias) s p t) :
    p.Records c condition.traversing := by
  cases condition with
  | constant holds =>
    obtain ⟨rfl, rfl⟩ := predicate_constant_yields.mp h
    exact Predicate.records_constant holds
  | criterion criterion =>
    exact Criterion.predicate_records criterion (predicate_criterion_yields.mp h)
  | group entries =>
    match entries with
    | [⟨connector, only⟩] =>
      have honly := Condition.predicate_records only (predicate_group_one_yields.mp h)
      rw [Condition.traversing, entryTraversing_cons, entryTraversing, List.append_nil]
      exact honly
    | [] =>
      obtain ⟨q, hq, rfl⟩ := (predicate_group_yields (by simp)).mp h
      exact (foldEntries_records [] Predicate.records_empty hq).grouped
    | ⟨connector, condition⟩ :: second :: rest =>
      obtain ⟨q, hq, rfl⟩ := (predicate_group_yields (by simp)).mp h
      obtain ⟨first, r, hfirst, hrest⟩ := foldEntries_cons_yields.mp hq
      have hcondition := Condition.predicate_records condition hfirst
      have hentries := foldEntries_records (second :: rest)
        (Predicate.records_empty.extend connector hcondition) hrest
      rw [Condition.traversing, entryTraversing_cons]
      exact hentries.grouped
termination_by structural condition

/-- A comparison records the traversals of the query that it compares with. -/
theorem Criterion.predicate_records (criterion : Criterion) {entity : Entity} {tableAlias : String}
    {p : Predicate} {s t : Scope} (h : Yields (criterion.predicate c entity tableAlias) s p t) :
    p.Records c criterion.traversing := by
  obtain ⟨field, column, r, -, -, hcases⟩ := Criterion.predicate_yields h
  obtain ⟨property, operator, value, conversion⟩ := criterion
  rcases hcases with ⟨htakes, rfl, -⟩ | ⟨htakes, hcases⟩
  · rw [Criterion.traversing_eq, htakes]
    exact Predicate.records_leaf (render_standing_ne_empty _ _)
  · cases value with
    | subquery query =>
      rcases hcases with ⟨query', target, nestedAlias, r', clauses, hvalue, -, -, hclauses, rfl⟩ |
        ⟨items, hvalue, -⟩ | ⟨hscalar, -⟩
      · have hquery : query' = query := (Value.subquery.inj hvalue).symm
        rw [hquery] at hclauses
        obtain ⟨traversals, hrecorded⟩ := Query.clauses_recorded query hclauses
        have htraversing : Criterion.traversing ⟨property, operator, .subquery query, conversion⟩ =
            query.traversing := if_pos htakes
        rw [htraversing]
        exact hrecorded.records.compareNested column operator target nestedAlias query'.distinct
      · cases hvalue
      · exact hscalar.elim
    | collection items =>
      rcases hcases with ⟨query', target, nestedAlias, r', clauses, hvalue, -⟩ |
        ⟨items', -, hcompare⟩ | ⟨hscalar, -⟩
      · cases hvalue
      · rw [Criterion.traversing_of_no_query (by simp)]
        exact compareCollection_records hcompare
      · exact hscalar.elim
    | _ =>
      rcases hcases with ⟨query', target, nestedAlias, r', clauses, hvalue, -⟩ |
        ⟨items', hvalue, -⟩ | ⟨hscalar, hcompare⟩
      · cases hvalue
      · cases hvalue
      · rw [Criterion.traversing_of_no_query (by simp)]
        exact compareScalar_records hcompare
termination_by structural criterion

/-- Set operations record the traversals of their queries. -/
theorem combinedSelects_records (combines : List Combine) {parent : Entity} {fields : List String}
    {combine : List CombinedSelect} {trace : Trace} {s t : Scope}
    (h : Yields (combinedSelects c parent fields combines) s (combine, trace) t) :
    CombinesRecord c (combineTraversing combines) combine trace := by
  cases combines with
  | nil =>
    obtain ⟨rfl, rfl, -⟩ := combinedSelects_nil_yields.mp h
    exact ⟨Trace.records_nil, List.forall_mem_nil _⟩
  | cons first rest =>
    obtain ⟨nestedAlias, r₁, target, sub, r₂, items, others, restTrace, -, -, hsub, -, hothers,
      rfl, rfl⟩ := combinedSelects_cons_yields h
    obtain ⟨kind, query⟩ := first
    obtain ⟨traversals, hquery⟩ := Query.clauses_recorded query hsub
    rw [combineTraversing_cons]
    exact combinedSelects_cons_records hquery.records (combinedSelects_records rest hothers)
termination_by structural combines

/-- Joins record the traversals of their queries behind those before them. -/
theorem joinTables_records (joins : List Join) {entity : Entity} {tableAlias : String}
    {condition joining : Predicate} {join : List JoinedTable} {s t : Scope}
    (h : Yields (joinTables c entity tableAlias condition joins) s (join, joining) t) :
    JoinsRecord c (joinTraversing joins) condition joining join := by
  cases joins with
  | nil =>
    obtain ⟨rfl, rfl, -⟩ := joinTables_nil_yields.mp h
    exact ⟨⟨{}, (Trace.append_empty _).symm, Trace.records_nil, List.forall_mem_nil _⟩,
      List.infix_rfl, id⟩
  | cons first rest =>
    obtain ⟨nestedAlias, r₁, target, sub, r₂, tables, between, r₃, others, -, -, hsub, htables,
      hothers, rfl⟩ := joinTables_cons_yields h
    obtain ⟨kind, fields, operator, query⟩ := first
    obtain ⟨traversals, hquery⟩ := Query.clauses_recorded query hsub
    have hfirst := joinedTables_records hquery.records htables
    rw [joinTraversing_cons]
    exact hfirst.append (joinTables_records rest hothers)
termination_by structural joins
end

theorem siteOf_isSome (traversals : List Traversal) :
    ((siteOf c traversals).table.isSome ↔ traversals ≠ []) ∧
      ((siteOf c traversals).tableAlias.isSome ↔ traversals ≠ []) := by
  unfold siteOf
  simp only [Option.isSome_map, List.getLast?_isSome, and_self]

/-- The traversals in the tree of a query are recorded in order, one script for each; every script
occurs in the text of the clauses, and the site is that of the last one. A traversal of the query
itself holds its joins, and the condition asks for the keys that it finds. -/
theorem traversals_recorded {query : Query} {fields : List String} {sorted : Bool}
    {clauses : Clauses} (h : Yields (query.clauses c fields tableAlias sorted) s clauses t) :
    ∃ traversals : List Traversal, traversals.map (·.query) = query.traversing ∧
      (∀ traversal ∈ traversals, traversal.CompiledFrom c) ∧
      clauses.trace.scripts = traversals.map (·.script c) ∧
      (∀ script ∈ clauses.trace.scripts, script <:+: clauses.condition.sql ∨
        script <:+: JoinedTable.list clauses.usableJoin ∨
        script <:+: CombinedSelect.list clauses.combine) ∧
      clauses.trace.site = siteOf c traversals ∧
      (clauses.trace.site.table.isSome ↔ query.traversing ≠ []) ∧
      (clauses.trace.site.tableAlias.isSome ↔ query.traversing ≠ []) ∧
      (query.recursion = none → clauses.allowJoin = true) ∧
      (query.recursion ≠ none → clauses.allowJoin = false ∧ clauses.usableJoin = [] ∧
        ∃ own, traversals.getLast? = some own ∧ own.query = query ∧ own.joins = clauses.join ∧
          clauses.condition.sql.render =
            tableAlias ++ "." ++ c.conventions.identifier own.key.column ++ " IN (" ++
              (own.script c).render ++ ")") := by
  obtain ⟨traversals, hrecorded⟩ := Query.clauses_recorded query h
  have hne : traversals ≠ [] ↔ query.traversing ≠ [] := by
    rw [← hrecorded.queries, ne_eq, ne_eq, List.map_eq_nil_iff]
  have hsite : clauses.trace.site = siteOf c traversals := congrArg Trace.site hrecorded.trace
  refine ⟨traversals, hrecorded.queries, hrecorded.compiled,
    congrArg Trace.scripts hrecorded.trace, ?_, hsite, ?_, ?_, ?_, ?_⟩
  · intro script hscript
    rcases hrecorded.within script hscript with hcondition | ⟨joined, hjoined, hjoin⟩ |
      ⟨select, hselect, hcombine⟩
    · exact .inl hcondition
    · exact .inr (.inl (hjoin.trans (JoinedTable.infix_list hjoined)))
    · exact .inr (.inr (hcombine.trans (CombinedSelect.infix_list hselect)))
  · rw [hsite, ← hne]
    exact (siteOf_isSome traversals).1
  · rw [hsite, ← hne]
    exact (siteOf_isSome traversals).2
  · intro hnone
    rw [hrecorded.allowJoin, hnone]
    rfl
  · intro hsome
    obtain ⟨own, hlast, hquery, hjoins, hcondition⟩ := hrecorded.own hsome
    have hallow : clauses.allowJoin = false := by
      rw [hrecorded.allowJoin, Option.isNone_eq_false_iff]
      exact Option.isSome_iff_ne_none.mpr hsome
    refine ⟨hallow, ?_, own, hlast, hquery, hjoins, ?_⟩
    · rw [Clauses.usableJoin, hallow, if_neg Bool.false_ne_true]
    · have hcolumn : (c.conventions.column tableAlias own.key).render =
          tableAlias ++ "." ++ c.conventions.identifier own.key.column := String.append_empty
      have hword : " IN (" = " " ++ Operator.isIn.sql ++ " " ++ "(" := by decide
      rw [hcondition, SearchText.sql_leaf, comparison, Sql.parens, hword]
      simp only [Sql.render_append, Sql.render_text, hcolumn, String.append_assoc]

/-- The nodes of a tree. -/
def nodeEntity : Entity where
  name := "Node"
  table := "NODE"
  fields := [{ property := "Id", column := "Id", role := { primaryKey := true } },
    { property := "ParentId", column := "ParentId" }, { property := "Name", column := "Name" }]

/-- A schema of nodes. -/
def treeCompiler : Compiler where
  schema := ⟨[nodeEntity]⟩

/-- The nodes below those that some conditions and joins choose. -/
def nodesBelow (conditions : List ConditionEntry) (joins : List Join) (combines : List Combine) :
    Query where
  entity := "Node"
  fields := ["Id"]
  conditions
  joins
  combines
  recursion := some ⟨"Id", "ParentId", .down⟩

/-- Traversals in a condition, a set operation, a join and the query itself are recorded in this
order, and the last one runs under the first alias. -/
theorem everyPlace_recorded :
    let below := nodesBelow [] [] []
    let query := nodesBelow [⟨.and, .criterion ⟨"Id", .isIn, .subquery below, none⟩⟩]
      [⟨.inner, [("ParentId", "Id")], .equal, below⟩] [⟨.union, below⟩]
    ∃ clauses t, ∃ traversals : List Traversal,
      Yields (query.clauses treeCompiler ["Id"] rootAlias true) {} clauses t ∧
      traversals.map (·.query) = [below, below, below, query] ∧
      clauses.trace.scripts = traversals.map (·.script treeCompiler) ∧
      clauses.usableJoin = [] ∧ clauses.trace.site = ⟨some "\"NODE\"", some "TSB0"⟩ := by
  intro below query
  obtain ⟨clauses, t, h⟩ := exists_yields_of_isSome
    (m := query.clauses treeCompiler ["Id"] rootAlias true) (s := {}) (by decide +kernel)
  have hread :
      ((query.clauses treeCompiler ["Id"] rootAlias true).run.run {}).1.toOption.map
        (·.trace.site) = some ⟨some "\"NODE\"", some "TSB0"⟩ := by
    decide +kernel
  rw [h] at hread
  obtain ⟨traversals, hqueries, -, hscripts, -, -, -, -, -, hown⟩ := traversals_recorded h
  exact ⟨clauses, t, traversals, h, hqueries, hscripts, (hown (by simp [query, nodesBelow])).2.1,
    Option.some.inj hread⟩

end QueryLoom
