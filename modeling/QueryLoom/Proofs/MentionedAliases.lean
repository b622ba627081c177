import QueryLoom.Proofs.Bindings
import QueryLoom.Proofs.Compilation

/-!
# Mentioned aliases

The aliases that a search condition mentions outside of SELECTs in parentheses. A comparison
mentions the alias that it is made under, once, whatever it compares with; only the constant that
stands for a comparison with an empty collection mentions none.

## Implementation notes

A SELECT in parentheses can only be the right side of a comparison, and ends it. So the part of a
leaf in front of its first SELECT is what stands outside, and `EndsInSelect` says that nothing is
behind.
-/

namespace QueryLoom

/-- Whether a token is text that starts with SELECT. -/
def Token.startsSelect : Token → Bool
  | .verbatim text => "SELECT".toList.isPrefixOf text.toList
  | _ => false

namespace Sql

/-- SQL text without a SELECT. -/
def Selectless (sql : Sql) : Prop := ∀ token ∈ sql, token.startsSelect = false

/-- SQL text that is a SELECT from its first word on. -/
def StartsSelect (sql : Sql) : Prop := ∃ first ∈ sql.head?, first.startsSelect = true

/-- The part of SQL text in front of its first SELECT. -/
def outside (sql : Sql) : Sql := sql.takeWhile fun token => !token.startsSelect

/-- The aliases that SQL text mentions in front of its first SELECT. -/
def aliases (sql : Sql) : List String := sql.outside.columns.map Prod.fst

/-- SQL text without a SELECT that mentions some aliases in order. -/
structure Mentions (sql : Sql) (aliases : List String) : Prop where
  selectless : sql.Selectless
  columns : sql.columns.map Prod.fst = aliases

/-- SQL text without a SELECT, or with one in parentheses at its end. -/
def EndsInSelect (sql : Sql) : Prop :=
  sql.Selectless ∨ ∃ front select : Sql, front.Selectless ∧ select.StartsSelect ∧
    sql = front ++ select.parens

theorem Selectless.outside_append {a : Sql} (ha : a.Selectless) (b : Sql) :
    (a ++ b).outside = a ++ b.outside := by
  refine List.takeWhile_append_of_pos ?_
  intro token htoken
  rw [ha token htoken]
  rfl

theorem Selectless.outside_eq {a : Sql} (ha : a.Selectless) : a.outside = a := by
  have h : (a ++ []).outside = a ++ [] := ha.outside_append []
  rwa [List.append_nil] at h

theorem StartsSelect.append {a : Sql} (ha : a.StartsSelect) (b : Sql) : (a ++ b).StartsSelect := by
  obtain ⟨first, hfirst, hselect⟩ := ha
  refine ⟨first, ?_, hselect⟩
  cases a with
  | nil => cases hfirst
  | cons token rest => exact hfirst

theorem StartsSelect.outside_append {a : Sql} (ha : a.StartsSelect) (b : Sql) :
    (a ++ b).outside = [] := by
  obtain ⟨first, hfirst, hselect⟩ := ha
  cases a with
  | nil => cases hfirst
  | cons token rest =>
    cases hfirst
    simp [outside, hselect]

namespace Mentions

variable {a b : Sql} {xs ys : List String}

theorem nil : Mentions [] [] := ⟨List.forall_mem_nil _, rfl⟩

theorem append (ha : a.Mentions xs) (hb : b.Mentions ys) : (a ++ b).Mentions (xs ++ ys) := by
  constructor
  · intro token htoken
    rcases List.mem_append.mp htoken with h | h
    · exact ha.selectless token h
    · exact hb.selectless token h
  · rw [columns_append, List.map_append, ha.columns, hb.columns]

theorem text {s : String} (h : "SELECT".toList.isPrefixOf s.toList = false) :
    (Sql.text s).Mentions [] := by
  constructor
  · intro token htoken
    unfold Sql.text at htoken
    split at htoken
    · cases htoken
    · rw [List.mem_singleton.mp htoken]
      exact h
  · rw [columns_text, List.map_nil]

/-- A word between blanks is no SELECT. -/
theorem between (word : String) : (Sql.text (" " ++ word ++ " ")).Mentions [] := by
  apply text
  rw [String.toList_append, String.toList_append]
  rfl

theorem column (tableAlias name : String) : (Sql.column tableAlias name).Mentions [tableAlias] := by
  refine ⟨?_, rfl⟩
  intro token htoken
  rw [List.mem_singleton.mp htoken]
  rfl

theorem placeholder (name : String) (number : Nat) : (Sql.placeholder name number).Mentions [] := by
  refine ⟨?_, rfl⟩
  intro token htoken
  rw [List.mem_singleton.mp htoken]
  rfl

theorem parens (ha : a.Mentions xs) : a.parens.Mentions xs := by
  have h := ((text (by decide : "SELECT".toList.isPrefixOf "(".toList = false)).append ha).append
    (text (by decide : "SELECT".toList.isPrefixOf ")".toList = false))
  rwa [List.nil_append, List.append_nil] at h

/-- Pieces that mention nothing mention nothing together. -/
theorem separated {pieces : List Sql} (h : ∀ piece ∈ pieces, piece.Mentions []) :
    (Sql.separated ", " pieces).Mentions [] := by
  induction pieces with
  | nil => exact nil
  | cons first rest ih =>
    have hfirst := h first List.mem_cons_self
    have hrest := ih fun piece hpiece => h piece (List.mem_cons_of_mem _ hpiece)
    cases rest with
    | nil => exact hfirst
    | cons second rest =>
      rw [Sql.separated]
      · exact (hfirst.append (text (by decide))).append hrest
      · exact List.cons_ne_nil _ _

end Mentions

/-- What stands behind a SELECT in parentheses is not outside. -/
theorem outside_select {front select : Sql} (hfront : front.Selectless)
    (hselect : select.StartsSelect) : (front ++ select.parens).outside = front ++ text "(" := by
  have hopening : (text "(").Selectless := (Mentions.text (by decide)).selectless
  unfold parens
  rw [List.append_assoc, hfront.outside_append, hopening.outside_append, hselect.outside_append,
    List.append_nil]

namespace Mentions

variable {a : Sql} {xs : List String}

/-- Without a SELECT everything is outside. -/
theorem aliases (h : a.Mentions xs) : a.aliases = xs := by
  rw [Sql.aliases, h.selectless.outside_eq, h.columns]

/-- With a SELECT in parentheses at its end, SQL text mentions what its front does. -/
theorem aliases_select {select : Sql} (h : a.Mentions xs) (hselect : select.StartsSelect) :
    (a ++ select.parens).aliases = xs := by
  rw [Sql.aliases, outside_select h.selectless hselect, columns_append, columns_text,
    List.append_nil, h.columns]

end Mentions

end Sql

/-! ## Comparisons -/

section Comparisons

variable {c : Compiler} {s t : Scope} {entity : Entity} {tableAlias property : String}

theorem Conventions.column_mentions (conventions : Conventions) (tableAlias : String)
    (field : Field) : (conventions.column tableAlias field).Mentions [tableAlias] :=
  .column tableAlias _

theorem Compiler.bind_mentions {value : Value} {sql : Sql}
    (h : Yields (c.bind property value) s sql t) : sql.Mentions [] := by
  obtain ⟨rfl, -⟩ := Compiler.bind_yields.mp h
  exact .placeholder property _

/-- A conversion mentions its column and nothing else. -/
theorem convert_mentions {column sql : Sql} {conversion : Option Conversion}
    {aliases : List String} (hcolumn : column.Mentions aliases)
    (h : Yields (c.convert column property conversion) s sql t) : sql.Mentions aliases := by
  have hclose : (Sql.text ")").Mentions [] := .text (by decide)
  have hopen : (Sql.text "(").Mentions [] := .text (by decide)
  have hcomma : (Sql.text ", ").Mentions [] := .text (by decide)
  unfold Compiler.convert at h
  split at h
  · obtain ⟨rfl, -⟩ := yields_pure.mp h
    exact hcolumn
  · rename_i function
    obtain ⟨rfl, -⟩ := yields_pure.mp h
    have hfunction : (Sql.text (function.keyword ++ "(")).Mentions [] :=
      .text (by cases function <;> decide)
    simpa using (hfunction.append hcolumn).append hclose
  · rename_i function path
    obtain ⟨rfl, -⟩ := yields_pure.mp h
    have hfunction : (Sql.text (function.keyword ++ "(")).Mentions [] :=
      .text (by cases function <;> decide)
    have hpath : (Sql.text (Literal.write path)).Mentions [] := .text (by simp [Literal.write]; rfl)
    simpa using (((hfunction.append hcolumn).append hcomma).append hpath).append hclose
  · rename_i function value
    split at h
    · rename_i symbol hform
      simp only [yields_bind, yields_pure] at h
      obtain ⟨operand, _, hbind, rfl, -⟩ := h
      have hsymbol : (Sql.text (" " ++ symbol ++ " ")).Mentions [] := .between symbol
      have hoperand := Compiler.bind_mentions hbind
      simpa using (((hopen.append hcolumn).append hsymbol).append hoperand).append hclose
    · rename_i keyword hform
      simp only [yields_bind, yields_pure] at h
      obtain ⟨operand, _, hbind, rfl, -⟩ := h
      have hkeyword : (Sql.text (keyword ++ "(")).Mentions [] := by
        apply Sql.Mentions.text
        cases function <;> cases hform <;> decide
      have hoperand := Compiler.bind_mentions hbind
      simpa using (((hkeyword.append hcolumn).append hcomma).append hoperand).append hclose
    · exact absurd h not_yields_throw

theorem comparison_mentions {column right : Sql} (operator : Operator) {xs ys : List String}
    (hcolumn : column.Mentions xs) (hright : right.Mentions ys) :
    (comparison column operator right).Mentions (xs ++ ys) := by
  have hoperator : (Sql.text (" " ++ operator.sql ++ " ")).Mentions [] := .between operator.sql
  have h := (hcolumn.append hoperator).append hright
  rwa [List.append_nil] at h

end Comparisons

/-! ## Search conditions -/

namespace SearchText

/-- The leaves of a search condition. -/
def leaves (text : SearchText) : List Sql :=
  text.filterMap fun
    | .leaf sql => some sql
    | _ => none

/-- The aliases that a search condition mentions outside of SELECTs in parentheses. -/
def aliases (text : SearchText) : List String := text.leaves.flatMap Sql.aliases

/-- A search condition that mentions some aliases in order, and whose leaves have a SELECT at their
end or none. -/
structure Mentions (text : SearchText) (aliases : List String) : Prop where
  aliases : text.aliases = aliases
  ends : ∀ sql ∈ text.leaves, sql.EndsInSelect

theorem leaves_append (a b : SearchText) : (a ++ b).leaves = a.leaves ++ b.leaves := by
  simp [leaves]

namespace Mentions

variable {a b : SearchText} {xs ys : List String}

theorem nil : Mentions [] [] := ⟨rfl, List.forall_mem_nil _⟩

theorem append (ha : a.Mentions xs) (hb : b.Mentions ys) : Mentions (a ++ b) (xs ++ ys) := by
  constructor
  · rw [SearchText.aliases, leaves_append, List.flatMap_append]
    exact congrArg₂ (· ++ ·) ha.aliases hb.aliases
  · intro sql hsql
    rw [leaves_append] at hsql
    rcases List.mem_append.mp hsql with h | h
    · exact ha.ends sql h
    · exact hb.ends sql h

theorem leaf {sql : Sql} (haliases : sql.aliases = xs) (hends : sql.EndsInSelect) :
    (SearchText.leaf sql).Mentions xs := by
  unfold SearchText.leaf
  cases sql with
  | nil =>
    subst haliases
    exact nil
  | cons first rest =>
    refine ⟨?_, ?_⟩
    · simpa [SearchText.aliases, leaves] using haliases
    · simpa [leaves] using hends

/-- A part that is not a leaf mentions nothing. -/
theorem cons {part : SearchPart} (hpart : ∀ sql, part ≠ .leaf sql) (ha : a.Mentions xs) :
    Mentions (part :: a) xs := by
  have hleaves : leaves (part :: a) = leaves a := by
    cases part with
    | leaf sql => exact absurd rfl (hpart sql)
    | _ => rfl
  refine ⟨?_, ?_⟩
  · rw [SearchText.aliases, hleaves]
    exact ha.aliases
  · rw [hleaves]
    exact ha.ends

theorem parens (ha : a.Mentions xs) : a.parens.Mentions xs := by
  have hopening : Mentions (.opening :: a) xs := cons (by simp) ha
  have hclosing : Mentions [.closing] [] := cons (by simp) nil
  have h := hopening.append hclosing
  rwa [List.append_nil] at h

theorem connect (op : LogicalOp) (ha : a.Mentions xs) (hb : b.Mentions ys) :
    (connect op a b).Mentions (xs ++ ys) :=
  ha.append (cons (by simp) hb)

end Mentions

end SearchText

namespace Predicate

variable {p q : Predicate} {xs ys : List String}

theorem mentions_operand (hp : p.text.Mentions xs) : p.operand.Mentions xs := by
  unfold operand
  split
  · exact hp.parens
  · exact hp

theorem mentions_grouped (hp : p.text.Mentions xs) : p.grouped.text.Mentions xs := by
  unfold grouped
  split
  · exact hp
  · exact hp.parens

/-- An empty predicate mentions nothing. -/
theorem aliases_of_isEmpty (hp : p.text.Mentions xs) (hempty : p.isEmpty = true) : xs = [] := by
  have haliases := hp.aliases
  rw [List.isEmpty_iff.mp hempty] at haliases
  exact haliases.symm

/-- Two predicates put together mention what both do, also where one of them is empty. -/
theorem mentions_unless_empty {alone joined : Predicate} (hp : p.text.Mentions xs)
    (hq : q.text.Mentions ys) (halone : alone.text = q.text)
    (hjoined : joined.text.Mentions (xs ++ ys)) :
    (if q.isEmpty then p else if p.isEmpty then alone else joined).text.Mentions (xs ++ ys) := by
  by_cases hqe : q.isEmpty = true
  · rw [if_pos hqe, aliases_of_isEmpty hq hqe, List.append_nil]
    exact hp
  · rw [if_neg hqe]
    by_cases hpe : p.isEmpty = true
    · rw [if_pos hpe, aliases_of_isEmpty hp hpe, List.nil_append, halone]
      exact hq
    · rw [if_neg hpe]
      exact hjoined

theorem mentions_and (hp : p.text.Mentions xs) (hq : q.text.Mentions ys) :
    (p.and q).text.Mentions (xs ++ ys) :=
  mentions_unless_empty hp hq rfl ((mentions_operand hp).connect .and (mentions_operand hq))

theorem mentions_extend (op : LogicalOp) (hp : p.text.Mentions xs) (hq : q.text.Mentions ys) :
    (p.extend op q).text.Mentions (xs ++ ys) :=
  mentions_unless_empty hp hq rfl (hp.connect op hq)

/-- A leaf without a SELECT. -/
theorem mentions_leaf {sql : Sql} (h : sql.Mentions xs) : (leaf sql).text.Mentions xs :=
  .leaf h.aliases (.inl h.selectless)

theorem mentions_constant (holds : Bool) : (constant holds).text.Mentions [] :=
  mentions_leaf (.text (by cases holds <;> decide))

end Predicate

/-! ## Conditions -/

theorem Sql.startsSelect_text {word : String} (h : "SELECT".toList.isPrefixOf word.toList = true)
    (rest : Sql) : (Sql.text word ++ rest).StartsSelect := by
  have hne : word.isEmpty = false := by
    rw [Bool.eq_false_iff]
    intro hempty
    rw [String.isEmpty_iff.mp hempty] at h
    cases h
  refine StartsSelect.append ⟨.verbatim word, ?_, h⟩ rest
  rw [Sql.text, hne]
  rfl

theorem SelectCore.startsSelect (core : SelectCore) : core.sql.StartsSelect := by
  unfold SelectCore.sql
  simp only [List.append_assoc]
  apply Sql.startsSelect_text
  cases core.distinct <;> decide

theorem Layers.startsSelect (layers : Layers) : layers.sql.StartsSelect := by
  induction layers with
  | core select => exact select.startsSelect
  | ordered inner sort ih =>
    rw [Layers.sql, List.append_assoc]
    exact ih.append _
  | derived items inner tableAlias rows ih =>
    unfold Layers.sql
    simp only [List.append_assoc]
    exact Sql.startsSelect_text (by decide) _

section Conditions

variable {c : Compiler} {s t : Scope} {entity : Entity} {tableAlias property : String}

/-- A comparison with a SELECT in parentheses mentions what its column does. -/
theorem comparison_select_mentions {column select : Sql} (operator : Operator) {xs : List String}
    (hcolumn : column.Mentions xs) (hselect : select.StartsSelect) :
    (SearchText.leaf (comparison column operator select.parens)).Mentions xs := by
  have hoperator : (Sql.text (" " ++ operator.sql ++ " ")).Mentions [] := .between operator.sql
  have hfront := hcolumn.append hoperator
  rw [List.append_nil] at hfront
  exact .leaf (hfront.aliases_select hselect) (.inr ⟨_, select, hfront.selectless, hselect, rfl⟩)

theorem bind_mapM_mentions {items : List Value} {operands : List Sql}
    (h : Yields (items.mapM (c.bind property)) s operands t) :
    ∀ operand ∈ operands, operand.Mentions [] := by
  induction items generalizing s operands with
  | nil =>
    obtain ⟨rfl, -⟩ := yields_mapM_nil.mp h
    exact List.forall_mem_nil _
  | cons first rest ih =>
    obtain ⟨operand, r, others, hfirst, hrest, rfl⟩ := yields_mapM_cons.mp h
    exact List.forall_mem_cons.mpr ⟨Compiler.bind_mentions hfirst, ih hrest⟩

/-- A comparison with a collection mentions its column, unless the collection is empty. -/
theorem compareCollection_mentions {column : Sql} {operator : Operator} {items : List Value}
    {p : Predicate} {xs : List String} (hcolumn : column.Mentions xs)
    (h : Yields (c.compareCollection entity property column operator items) s p t) :
    p.text.Mentions (if items.isEmpty then [] else xs) := by
  unfold Compiler.compareCollection at h
  split at h
  · exact absurd h not_yields_throw
  · split at h
    · rename_i hempty
      obtain ⟨rfl, -⟩ := yields_pure.mp h
      rw [if_pos hempty]
      exact Predicate.mentions_constant _
    · rename_i hempty
      rw [if_neg hempty, ← List.append_nil xs]
      split at h
      · simp only [yields_bind, yields_pure] at h
        obtain ⟨operand, _, hbind, rfl, -⟩ := h
        exact Predicate.mentions_leaf
          (comparison_mentions operator hcolumn (Compiler.bind_mentions hbind))
      · simp only [yields_bind, yields_pure] at h
        obtain ⟨operands, _, hbind, rfl, -⟩ := h
        have hright := (Sql.Mentions.separated (bind_mapM_mentions hbind)).parens
        exact Predicate.mentions_leaf (comparison_mentions operator hcolumn hright)

theorem compareScalar_mentions {column : Sql} {operator : Operator} {value : Value}
    {p : Predicate} {xs : List String} (hcolumn : column.Mentions xs)
    (h : Yields (c.compareScalar property column operator value) s p t) : p.text.Mentions xs := by
  rw [← List.append_nil xs]
  unfold Compiler.compareScalar at h
  split at h
  · simp only [yields_bind, yields_pure] at h
    obtain ⟨operand, _, hbind, rfl, -⟩ := h
    exact Predicate.mentions_leaf
      (comparison_mentions operator hcolumn (Compiler.bind_mentions hbind).parens)
  · simp only [yields_bind, yields_pure] at h
    obtain ⟨operand, _, hbind, rfl, -⟩ := h
    exact Predicate.mentions_leaf
      (comparison_mentions operator hcolumn (Compiler.bind_mentions hbind))

/-- The number of times that a comparison writes its column. -/
def Criterion.columns (criterion : Criterion) : Nat :=
  if writesColumn criterion.operator criterion.value then 1 else 0

mutual
/-- The number of comparisons in a condition that write their column. -/
def Condition.columns (condition : Condition) : Nat :=
  match condition with
  | .constant _ => 0
  | .criterion criterion => criterion.columns
  | .group entries => entryColumns entries
termination_by structural condition

/-- The number of comparisons in a list of conditions that write their column. -/
def entryColumns (entries : List ConditionEntry) : Nat :=
  match entries with
  | [] => 0
  | ⟨_, condition⟩ :: rest => condition.columns + entryColumns rest
termination_by structural entries
end

/-- A comparison mentions the alias that it is made under. -/
theorem Criterion.predicate_mentions {criterion : Criterion} {p : Predicate}
    (h : Yields (criterion.predicate c entity tableAlias) s p t) :
    p.text.Mentions (List.replicate criterion.columns tableAlias) := by
  obtain ⟨field, column, r, -, hconvert, hcases⟩ := Criterion.predicate_yields h
  have hcolumn : column.Mentions [tableAlias] :=
    convert_mentions (c.conventions.column_mentions tableAlias field) hconvert
  rcases hcases with ⟨htakes, rfl, -⟩ | ⟨htakes, hcases⟩
  · have hone : criterion.columns = 1 := by
      unfold Criterion.columns
      cases criterion.value <;> simp [writesColumn, htakes]
    have hoperator : (Sql.text (" " ++ criterion.operator.sql)).Mentions [] :=
      .text (by simp; rfl)
    rw [hone]
    exact Predicate.mentions_leaf (hcolumn.append hoperator)
  · rcases hcases with ⟨query, target, nestedAlias, r', clauses, hvalue, -, -, -, rfl⟩ |
      ⟨items, hvalue, hcompare⟩ | ⟨hscalar, hcompare⟩
    · have hone : criterion.columns = 1 := by simp [Criterion.columns, hvalue, writesColumn]
      rw [hone]
      exact comparison_select_mentions criterion.operator hcolumn (Layers.startsSelect _)
    · have hcompared := compareCollection_mentions hcolumn hcompare
      convert hcompared using 1
      cases hempty : items.isEmpty <;>
        simp [Criterion.columns, hvalue, writesColumn, htakes, hempty]
    · have hone : criterion.columns = 1 := by
        revert hscalar
        unfold Criterion.columns
        cases criterion.value <;> simp [writesColumn, Value.IsScalar]
      rw [hone]
      exact compareScalar_mentions hcolumn hcompare

end Conditions

mutual
/-- Conditions mention the alias that they are made under, as often as they write a column. -/
theorem foldEntries_mentions {c : Compiler} (entries : List ConditionEntry) {entity : Entity}
    {tableAlias : String} {before p : Predicate} {s t : Scope} {xs : List String}
    (hbefore : before.text.Mentions xs)
    (h : Yields (foldEntries c entity tableAlias before entries) s p t) :
    p.text.Mentions (xs ++ List.replicate (entryColumns entries) tableAlias) := by
  cases entries with
  | nil =>
    obtain ⟨rfl, -⟩ := foldEntries_nil_yields.mp h
    rw [entryColumns, List.replicate_zero, List.append_nil]
    exact hbefore
  | cons entry rest =>
    obtain ⟨q, r, hq, hrest⟩ := foldEntries_cons_yields.mp h
    obtain ⟨connector, condition⟩ := entry
    have hfirst := Condition.predicate_mentions condition hq
    have := foldEntries_mentions rest (Predicate.mentions_extend connector hbefore hfirst) hrest
    rwa [List.append_assoc, ← List.replicate_add] at this
termination_by structural entries

theorem Condition.predicate_mentions {c : Compiler} (condition : Condition) {entity : Entity}
    {tableAlias : String} {p : Predicate} {s t : Scope}
    (h : Yields (condition.predicate c entity tableAlias) s p t) :
    p.text.Mentions (List.replicate condition.columns tableAlias) := by
  cases condition with
  | constant holds =>
    obtain ⟨rfl, -⟩ := predicate_constant_yields.mp h
    exact Predicate.mentions_constant holds
  | criterion criterion => exact Criterion.predicate_mentions (predicate_criterion_yields.mp h)
  | group entries =>
    match entries with
    | [⟨connector, only⟩] =>
      exact Condition.predicate_mentions only (predicate_group_one_yields.mp h)
    | [] =>
      obtain ⟨q, hq, rfl⟩ := (predicate_group_yields (by simp)).mp h
      obtain ⟨rfl, -⟩ := foldEntries_nil_yields.mp hq
      exact .nil
    | ⟨connector, condition⟩ :: second :: rest =>
      obtain ⟨q, hq, rfl⟩ := (predicate_group_yields (by simp)).mp h
      obtain ⟨p, r, hp, hrest⟩ := foldEntries_cons_yields.mp hq
      have hempty : ({} : Predicate).text.Mentions [] := .nil
      have hfirst := Predicate.mentions_extend connector hempty
        (Condition.predicate_mentions condition hp)
      have := foldEntries_mentions (second :: rest) hfirst hrest
      rw [List.nil_append, ← List.replicate_add] at this
      exact Predicate.mentions_grouped this
termination_by structural condition
end

end QueryLoom
