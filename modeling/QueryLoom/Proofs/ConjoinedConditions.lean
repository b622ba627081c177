import QueryLoom.Proofs.SearchConditions
import QueryLoom.Statement.Reading

/-!
# Conditions that are ANDed

Conditions are ANDed in three places: behind the condition of a joining query, in an ON clause, and
in front of a row cap. Each of them asks the flag of a predicate whether parentheses are needed. The
flag is right for the clauses of every query, so that both parts hold where the whole does.
-/

namespace QueryLoom

variable {c : Compiler} {s t : Scope} {entity : Entity} {tableAlias : String}
  {holds : Sql → Bool}

/-! ## ON clauses -/

/-- Texts with an AND between them. -/
def conjoined : List SearchText → SearchText
  | [] => []
  | [text] => text
  | text :: rest => text.connect .and (conjoined rest)

/-- An ON clause is the conjunction of its texts. -/
theorem sql_conjoined (on : List SearchText) :
    (conjoined on).sql = Sql.separated " AND " (on.map SearchText.sql) := by
  induction on with
  | nil => rfl
  | cons first rest ih =>
    cases rest with
    | nil => rfl
    | cons second rest =>
      rw [conjoined, SearchText.connect, SearchText.sql_append, List.map_cons, List.map_cons,
        Sql.separated, ← List.map_cons, ← ih, List.append_assoc]
      · rfl
      · simp
      · simp

theorem conjoined_leaves_append (comparisons : List Sql) {own : SearchText} {v : Bool}
    (hown : Reads holds .conjunction own v) :
    Reads holds .conjunction
      (conjoined (comparisons.map (fun sql => [SearchPart.leaf sql]) ++ [own]))
      (comparisons.all holds && v) := by
  induction comparisons with
  | nil => exact hown
  | cons first rest ih =>
    have hcons : conjoined ((first :: rest).map (fun sql => [SearchPart.leaf sql]) ++ [own]) =
        SearchText.connect .and [.leaf first]
          (conjoined (rest.map (fun sql => [SearchPart.leaf sql]) ++ [own])) := by
      cases rest <;> rfl
    rw [hcons, List.all_cons, Bool.and_assoc]
    exact (Reads.leaf first).single.and_conjunction ih

theorem conjoined_leaves {comparisons : List Sql} (h : comparisons ≠ []) :
    Reads holds .conjunction
      (conjoined (comparisons.map fun sql => [SearchPart.leaf sql])) (comparisons.all holds) := by
  obtain ⟨front, last, rfl⟩ := (List.eq_nil_or_concat comparisons).resolve_left h
  have hlast : Reads holds .conjunction [.leaf last] (holds last) := (Reads.leaf last).single
  simpa using conjoined_leaves_append front hlast

/-- The comparisons of joined fields are leaves, and only a cross join has none. -/
theorem joinPredicates_leaves {source target : Entity} {kind : JoinKind}
    {fields : List (String × String)} {operator : JoinOperator} {sourceAlias targetAlias : String}
    {on : List SearchText}
    (h : c.joinPredicates source target kind fields operator sourceAlias targetAlias = .ok on) :
    ∃ comparisons : List Sql, on = comparisons.map (fun sql => [SearchPart.leaf sql]) ∧
      (kind ≠ .cross → comparisons ≠ []) := by
  obtain ⟨compared, hne, -, rfl⟩ := joinPredicates_eq_ok h
  refine ⟨compared.map (joinComparison c operator sourceAlias targetAlias), ?_, ?_⟩
  · rw [List.map_map]
    rfl
  · intro hkind hnil
    exact hne hkind (List.map_eq_nil_iff.mp hnil)

/-- The condition of a joined query without set operations holds together with the comparisons of
its ON clause; where it has no ON clause of its own, together with the condition of the joining
query. -/
theorem joinedTables_denotes {sourceAlias : String} {target : Entity} {kind : JoinKind}
    {fields : List (String × String)} {operator : JoinOperator} {projection : List String}
    {sub : Clauses} {condition joining : Predicate} {tables : List JoinedTable}
    (h : Yields (c.joinedTables entity sourceAlias target tableAlias kind fields operator projection
      sub condition) s (tables, joining) t) (hcombine : sub.combine = []) {v w : Option Bool}
    (hcondition : condition.Denotes holds v) (hsub : sub.predicate.Denotes holds w) :
    ∃ joined rest, ∃ comparisons : List Sql, tables = joined :: rest ∧
      c.joinPredicates entity target kind fields operator sourceAlias tableAlias =
        .ok (comparisons.map fun sql => [SearchPart.leaf sql]) ∧
      (sub.allowJoin = true → kind ≠ .cross →
        (conjoined joined.on).Means holds (both (some (comparisons.all holds)) w) ∧
          joining = condition) ∧
      (¬ (sub.allowJoin = true ∧ kind ≠ .cross) →
        joined.on = comparisons.map (fun sql => [SearchPart.leaf sql]) ∧
          joining.Denotes holds (both v w)) := by
  rcases joinedTables_yields h with ⟨-, -, on, hon, rfl, rfl⟩ | ⟨hne, -⟩
  · obtain ⟨comparisons, rfl, hcomparisons⟩ := joinPredicates_leaves hon
    refine ⟨_, _, comparisons, rfl, hon, ?_, ?_⟩
    · intro hallow hkind
      have hown : (sub.allowJoin && kind != .cross) = true := by simp [hallow, hkind]
      refine ⟨?_, by rw [hown, if_pos rfl]⟩
      cases w with
      | none =>
        rw [hsub.isEmpty_none, Bool.not_true, Bool.false_and, if_neg Bool.false_ne_true]
        exact (conjoined_leaves (hcomparisons hkind)).only.means
      | some w =>
        rw [hsub.isEmpty_some, hown, Bool.not_false, Bool.true_and, if_pos rfl]
        exact (conjoined_leaves_append comparisons hsub.operand).only.means
    · intro hother
      have hown : (sub.allowJoin && kind != .cross) = false := by
        rw [Bool.eq_false_iff]
        intro hboth
        rw [Bool.and_eq_true, bne_iff_ne] at hboth
        exact hother hboth
      rw [hown, Bool.and_false, if_neg Bool.false_ne_true, if_neg Bool.false_ne_true]
      exact ⟨rfl, hcondition.and hsub⟩
  · exact absurd hcombine hne

/-! ## Row caps -/

/-- The search condition of a SELECT holds where its condition and its row cap hold. -/
theorem search_means {core : SelectCore} {v : Option Bool}
    (h : Predicate.Denotes holds ⟨core.condition, core.compound, {}⟩ v) :
    core.search.Means holds
      (both v (core.cap.map fun count => holds (RowRange.first count).sql)) := by
  unfold SelectCore.search
  cases core.cap with
  | none => cases v <;> exact h.text
  | some count =>
    have hcap : SearchText.leaf (RowRange.first count).sql =
        [.leaf (RowRange.first count).sql] :=
      SearchText.leaf_eq (Sql.text_append_ne_nil (by decide) _)
    simp only [Option.map_some, hcap]
    cases v with
    | none =>
      have hempty : core.condition.isEmpty = true := h.isEmpty_none
      rw [hempty, if_pos rfl]
      exact (Reads.leaf _).single.only.means
    | some v =>
      have hnonempty : core.condition.isEmpty = false := h.isEmpty_some
      rw [hnonempty, if_neg Bool.false_ne_true]
      have hoperand := h.operand
      unfold Predicate.operand at hoperand
      cases hcompound : core.compound with
      | true =>
        simp only [hcompound, if_true] at hoperand ⊢
        exact (hoperand.and (.leaf _)).only.means
      | false =>
        simp only [hcompound, Bool.false_eq_true, if_false] at hoperand ⊢
        exact (hoperand.and (.leaf _)).only.means

/-! ## The flags of clauses -/

/-- A predicate denotes something under every assignment. -/
def Predicate.Denoting (p : Predicate) : Prop := ∀ holds, ∃ v, p.Denotes holds v

theorem Predicate.Denoting.of_text_eq {p q : Predicate} (h : p.Denoting)
    (htext : q.text = p.text) (hflag : q.hasOr = p.hasOr) : q.Denoting := by
  intro holds
  obtain ⟨v, hv⟩ := h holds
  exact ⟨v, hv.of_text_eq htext hflag⟩

theorem Predicate.Denoting.and {p q : Predicate} (hp : p.Denoting) (hq : q.Denoting) :
    (p.and q).Denoting := by
  intro holds
  obtain ⟨v, hv⟩ := hp holds
  obtain ⟨w, hw⟩ := hq holds
  exact ⟨both v w, hv.and hw⟩

theorem Predicate.Denoting.of_isLeaf {p : Predicate} (h : p.IsLeaf) : p.Denoting := by
  intro holds
  obtain ⟨hflag, sql, htext⟩ := h
  have hreads : Reads holds .conjunction p.text (holds sql) := by
    rw [htext]
    exact (Reads.leaf sql).single
  exact ⟨_, .of_conjunction hreads hflag⟩

/-- The predicate of conditions in a row. -/
theorem foldEntries_denoting {entries : List ConditionEntry} {p : Predicate}
    (h : Yields (foldEntries c entity tableAlias {} entries) s p t) : p.Denoting := by
  obtain ⟨siblings, -, hentries⟩ := foldEntries_denotes entries h
  intro holds
  exact ⟨_, (hentries.first rfl rfl holds).1⟩

theorem joinedTables_denoting {sourceAlias : String} {target : Entity} {kind : JoinKind}
    {fields : List (String × String)} {operator : JoinOperator} {projection : List String}
    {sub : Clauses} {condition joining : Predicate} {tables : List JoinedTable}
    (h : Yields (c.joinedTables entity sourceAlias target tableAlias kind fields operator projection
      sub condition) s (tables, joining) t)
    (hcondition : condition.Denoting) (hsub : sub.predicate.Denoting) : joining.Denoting := by
  rcases joinedTables_yields h with ⟨-, -, on, -, -, rfl⟩ | ⟨-, rfl, -⟩
  · split
    · exact hcondition
    · exact hcondition.and hsub
  · exact hcondition

/-- A traversal leaves one leaf as the condition. -/
theorem traversal_denoting {innerAlias : String} {before clauses : Clauses}
    {recursion : Option Recursion} (hbefore : before.predicate.Denoting)
    (h : traversal c entity tableAlias innerAlias before recursion = .ok clauses) :
    clauses.predicate.Denoting := by
  rcases traversal_eq_ok h with ⟨-, rfl⟩ | ⟨spec, key, relation, -, -, -, rfl⟩
  · exact hbefore
  · simp only [Clauses.predicate]
    exact .of_isLeaf (Predicate.isLeaf_leaf (comparison_ne_nil _ _ _))

mutual
/-- The flag of the clauses of a query is right. -/
theorem Query.clauses_denoting {c : Compiler} (query : Query) {fields : List String}
    {tableAlias : String} {sorted : Bool} {clauses : Clauses} {s t : Scope}
    (h : Yields (query.clauses c fields tableAlias sorted) s clauses t) :
    clauses.predicate.Denoting := by
  obtain ⟨entity, innerAlias, r₁, condition, r₂, sort, r₃, combine, trace, r₄, join, joining, -, -,
    hcondition, -, -, hjoin, htraversal⟩ := Query.clauses_yields h
  obtain ⟨name, conditions, sorts, joins, combines, recursion⟩ := query
  have hjoining := joinTables_denoting joins hjoin
    ((foldEntries_denoting hcondition).of_text_eq rfl rfl)
  exact traversal_denoting (hjoining.of_text_eq rfl rfl) htraversal
termination_by structural query

/-- Joins keep the flag of the joining query right. -/
theorem joinTables_denoting {c : Compiler} (joins : List Join) {entity : Entity}
    {tableAlias : String} {condition joining : Predicate} {join : List JoinedTable} {s t : Scope}
    (h : Yields (joinTables c entity tableAlias condition joins) s (join, joining) t)
    (hcondition : condition.Denoting) : joining.Denoting := by
  cases joins with
  | nil =>
    obtain ⟨-, rfl, -⟩ := joinTables_nil_yields.mp h
    exact hcondition
  | cons first rest =>
    obtain ⟨nestedAlias, r₁, target, sub, r₂, tables, between, r₃, others, -, -, hsub, htables,
      hothers, -⟩ := joinTables_cons_yields h
    obtain ⟨kind, fields, operator, query⟩ := first
    have hbetween := joinedTables_denoting htables (hcondition.of_text_eq rfl rfl)
      (Query.clauses_denoting query hsub)
    exact joinTables_denoting rest hothers hbetween
termination_by structural joins
end

/-- A selection takes the condition of its clauses, and their flag with it. -/
theorem selection_denoting {query : Query} {properties : List String} {fields : List Field}
    {sorted : Bool} {clauses : Clauses} {selection : Selection}
    (h : Yields (c.selection entity query properties fields sorted) s (clauses, selection) t) :
    Predicate.Denoting ⟨selection.condition, selection.compound, {}⟩ := by
  unfold Compiler.selection at h
  simp only [yields_bind, yields_pure, Prod.mk.injEq] at h
  obtain ⟨_, r, hclauses, group, _, -, ⟨rfl, rfl⟩, rfl⟩ := h
  exact Query.clauses_denoting query hclauses

/-- The text of conditions has the value of the conditions, and their flag tells whether an OR
connects outermost ones; so it does for the clauses of every query and the selections made from
them. Put behind another predicate, into an ON clause or in front of a row cap, conditions then
hold together with it. -/
theorem conditions_keep_meaning (c : Compiler) :
    (∀ entity tableAlias entries s p t,
      Yields (conditionPredicate c entity tableAlias entries) s p t →
        ∃ siblings, Yields (siblingsOf c entity tableAlias entries) s siblings t ∧
          p.hasOr = p.text.hasOuterOr ∧ ∀ holds,
            p.text.Means holds (siblings.value holds) ∧ p.hasOr = siblings.hasOr holds) ∧
    (∀ (query : Query) fields tableAlias sorted s clauses t,
      Yields (query.clauses c fields tableAlias sorted) s clauses t →
        clauses.predicate.Denoting ∧ ∀ target nestedAlias distinct,
          let nested := c.nestedSelection target nestedAlias distinct clauses
          Predicate.Denoting ⟨nested.condition, nested.compound, {}⟩) ∧
    (∀ entity query properties fields sorted s clauses selection t,
      Yields (c.selection entity query properties fields sorted) s (clauses, selection) t →
        Predicate.Denoting ⟨selection.condition, selection.compound, {}⟩) ∧
    (∀ holds (p q : Predicate) v w, p.Denotes holds v → q.Denotes holds w →
      (p.and q).Denotes holds (both v w)) ∧
    (∀ holds source sourceAlias target tableAlias kind fields operator projection (sub : Clauses)
      (condition joining : Predicate) tables s t v w,
      Yields (c.joinedTables source sourceAlias target tableAlias kind fields operator projection
        sub condition) s (tables, joining) t → sub.combine = [] →
      condition.Denotes holds v → sub.predicate.Denotes holds w →
      ∃ joined rest, ∃ comparisons : List Sql, tables = joined :: rest ∧
        c.joinPredicates source target kind fields operator sourceAlias tableAlias =
          .ok (comparisons.map fun sql => [SearchPart.leaf sql]) ∧
        (JoinedTable.sql joined = Sql.text (joined.kind.keyword ++ " ") ++
          JoinedTable.sourceSql joined.source ++ Sql.text (" " ++ joined.tableAlias) ++
            Sql.clause " ON " (conjoined joined.on).sql) ∧
        (sub.allowJoin = true → kind ≠ .cross →
          (conjoined joined.on).Means holds (both (some (comparisons.all holds)) w) ∧
            joining = condition) ∧
        (¬ (sub.allowJoin = true ∧ kind ≠ .cross) →
          joined.on = comparisons.map (fun sql => [SearchPart.leaf sql]) ∧
            joining.Denotes holds (both v w))) ∧
    (∀ holds (core : SelectCore) v,
      Predicate.Denotes holds ⟨core.condition, core.compound, {}⟩ v →
        core.search.Means holds
          (both v (core.cap.map fun count => holds (RowRange.first count).sql))) := by
  refine ⟨?_, ?_, ?_, ?_, ?_, ?_⟩
  · intro entity tableAlias entries s p t h
    obtain ⟨siblings, hsiblings, hentries⟩ := foldEntries_denotes entries h
    have hdenotes := hentries.first rfl rfl
    exact ⟨siblings, hsiblings, (hdenotes fun _ => true).1.flag,
      fun holds => ⟨(hdenotes holds).1.text, (hdenotes holds).2⟩⟩
  · intro query fields tableAlias sorted s clauses t h
    have hclauses := Query.clauses_denoting query h
    exact ⟨hclauses, fun target nestedAlias distinct => hclauses⟩
  · intro entity query properties fields sorted s clauses selection t h
    exact selection_denoting h
  · intro holds p q v w hp hq
    exact hp.and hq
  · intro holds source sourceAlias target tableAlias kind fields operator projection sub condition
      joining tables s t v w h hcombine hcondition hsub
    obtain ⟨joined, rest, comparisons, htables, hpredicates, hon, hother⟩ :=
      joinedTables_denotes h hcombine hcondition hsub
    refine ⟨joined, rest, comparisons, htables, hpredicates, ?_, hon, hother⟩
    rw [JoinedTable.sql, sql_conjoined]
  · intro holds core v h
    exact search_means h

/-- A disjunction in a group, an empty group behind an OR, and a constant. -/
def groupedConditions : List ConditionEntry :=
  [⟨.and, .group [⟨.and, .criterion ⟨"Id", .equal, .int 1, none⟩⟩,
      ⟨.or, .criterion ⟨"Owner", .equal, .int 2, none⟩⟩]⟩,
    ⟨.or, .group []⟩, ⟨.and, .constant true⟩]

/-- The group keeps its parentheses and the empty group is left out, so no OR is outermost. -/
theorem groupedConditions_keep_meaning :
    let entity : Entity := { name := "Account", table := "ACCOUNT", fields := [
      { property := "Id", column := "ID" }, { property := "Owner", column := "OWNER" }] }
    ∃ p t siblings,
      Yields (conditionPredicate { schema := {} } entity "TB" groupedConditions) {} p t ∧
      Yields (siblingsOf { schema := {} } entity "TB" groupedConditions) {} siblings t ∧
      p.hasOr = false ∧ ∀ holds, p.text.Means holds (siblings.value holds) := by
  intro entity
  obtain ⟨p, t, hp⟩ := exists_yields_of_isSome (s := {})
    (m := conditionPredicate { schema := {} } entity "TB" groupedConditions) (by decide +kernel)
  have hflag : ((conditionPredicate { schema := {} } entity "TB" groupedConditions).run.run
      {}).1.toOption.map (·.hasOr) = some false := by
    decide +kernel
  obtain ⟨siblings, hsiblings, -, hmeans⟩ :=
    (conditions_keep_meaning { schema := {} }).1 entity "TB" groupedConditions {} p t hp
  have hrun : (conditionPredicate { schema := {} } entity "TB" groupedConditions).run.run {} =
      (.ok p, t) := hp
  rw [hrun] at hflag
  exact ⟨p, t, siblings, hp, hsiblings, Option.some.inj hflag, fun holds => (hmeans holds).1⟩

end QueryLoom
