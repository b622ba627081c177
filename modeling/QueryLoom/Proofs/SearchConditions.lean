import QueryLoom.Proofs.Compilation
import QueryLoom.Proofs.SearchGrammar

/-!
# The meaning of conditions

The text of a list of conditions, read by the grammar of search conditions, has the value of the
list, and its flag tells whether an OR is outermost. What is ANDed to such a text, to an ON clause
or to a row cap therefore holds together with it.

## Implementation notes

The meaning of conditions is that of a formula with the text of every leaf in its place; the formula
keeps every group and every sibling. An induction on the siblings follows a text that ends in a
conjunction: an AND continues the conjunction, and an OR starts another one.
-/

namespace QueryLoom

/-! ## Predicates -/

/-- A text has a value, or is none. -/
def SearchText.Means (holds : Sql → Bool) (text : SearchText) : Option Bool → Prop
  | none => text = []
  | some v => Reads holds .disjunction text v ∧ ∀ w, Reads holds .disjunction text w → w = v

/-- Both of two values, of which either may be missing. -/
def both : Option Bool → Option Bool → Option Bool
  | some v, some w => some (v && w)
  | some v, none => some v
  | none, w => w

/-- A predicate has a value, and its flag tells whether an OR is outermost in its text. -/
structure Predicate.Denotes (holds : Sql → Bool) (p : Predicate) (v : Option Bool) : Prop where
  text : p.text.Means holds v
  flag : p.hasOr = p.text.hasOuterOr

theorem Reads.means {holds : Sql → Bool} {text : SearchText} {v : Bool}
    (h : Reads holds .disjunction text v) : text.Means holds (some v) :=
  ⟨h, fun _ hw => hw.unique h⟩

theorem Reads.ne_nil {holds : Sql → Bool} {rank : Rank} {text : SearchText} {v : Bool}
    (h : Reads holds rank text v) : text ≠ [] := by
  induction h with
  | leaf sql => exact List.cons_ne_nil _ _
  | parens h ih => exact List.cons_ne_nil _ _
  | single h ih => exact ih
  | and ha hb => simp [SearchText.connect]
  | only h ih => exact ih
  | or ha hb => simp [SearchText.connect]

namespace Predicate.Denotes

variable {holds : Sql → Bool} {p q : Predicate} {v w : Option Bool}

theorem empty : Denotes holds {} none := ⟨rfl, rfl⟩

/-- A predicate that reads as a conjunction and says so. -/
theorem of_conjunction {a : Bool} (h : Reads holds .conjunction p.text a)
    (hflag : p.hasOr = false) : Denotes holds p (some a) :=
  ⟨h.only.means, by rw [hflag, h.hasOuterOr_conjunction]⟩

theorem isEmpty_none (h : Denotes holds p none) : p.isEmpty = true :=
  List.isEmpty_iff.mpr h.text

theorem isEmpty_some {a : Bool} (h : Denotes holds p (some a)) : p.isEmpty = false := by
  rw [Predicate.isEmpty, List.isEmpty_eq_false_iff]
  exact h.text.1.ne_nil

/-- As an operand of AND, a predicate is a conjunction. -/
theorem operand {a : Bool} (h : Denotes holds p (some a)) :
    Reads holds .conjunction p.operand a := by
  unfold Predicate.operand
  split
  · exact (Reads.parens h.text.1).single
  · rename_i hor
    exact h.text.1.conjunction (by rw [← h.flag]; simpa using hor)

/-- The traversals of a predicate do not matter. -/
theorem of_text_eq (h : Denotes holds p v) (htext : q.text = p.text) (hflag : q.hasOr = p.hasOr) :
    Denotes holds q v :=
  ⟨by rw [htext]; exact h.text, by rw [htext, hflag]; exact h.flag⟩

/-- The conjunction of two predicates denotes both of them. -/
theorem and (hp : Denotes holds p v) (hq : Denotes holds q w) :
    Denotes holds (p.and q) (both v w) := by
  unfold Predicate.and
  cases w with
  | none =>
    rw [if_pos hq.isEmpty_none]
    cases v <;> exact hp
  | some b =>
    rw [hq.isEmpty_some, if_neg Bool.false_ne_true]
    cases v with
    | none =>
      rw [if_pos hp.isEmpty_none]
      exact hq.of_text_eq rfl rfl
    | some a =>
      rw [hp.isEmpty_some, if_neg Bool.false_ne_true]
      exact of_conjunction (hp.operand.and_conjunction hq.operand) rfl

end Predicate.Denotes

/-! ## The meaning of conditions -/

mutual
/-- A condition with the text of each leaf in its place. -/
inductive Formula where
  | leaf (sql : Sql)
  | group (siblings : Siblings)

/-- Conditions in a row, each with its connective. -/
inductive Siblings where
  | nil
  | cons (connector : LogicalOp) (first : Formula) (rest : Siblings)
end

/-- The value of operands behind the conjunction that has a value so far, where AND binds tighter
than OR. -/
def connected (v : Bool) : List (LogicalOp × Bool) → Bool
  | [] => v
  | (.and, w) :: rest => connected (v && w) rest
  | (.or, w) :: rest => v || connected w rest

/-- The value of operands in a row; the first connective does not count. -/
def chained : List (LogicalOp × Bool) → Option Bool
  | [] => none
  | (_, v) :: rest => some (connected v rest)

mutual
/-- The value of a formula; a group without members is absent. -/
def Formula.value (holds : Sql → Bool) : Formula → Option Bool
  | .leaf sql => some (holds sql)
  | .group siblings => chained (siblings.operands holds)

/-- The values of the siblings that are not absent. -/
def Siblings.operands (holds : Sql → Bool) : Siblings → List (LogicalOp × Bool)
  | .nil => []
  | .cons connector first rest =>
    match first.value holds with
    | none => rest.operands holds
    | some v => (connector, v) :: rest.operands holds
end

/-- The value of siblings. -/
def Siblings.value (holds : Sql → Bool) (siblings : Siblings) : Option Bool :=
  chained (siblings.operands holds)

/-- Whether an OR connects two siblings that are not absent. -/
def Siblings.hasOr (holds : Sql → Bool) (siblings : Siblings) : Bool :=
  (siblings.operands holds).tail.any (·.1 == .or)

mutual
/-- A condition with the text that each of its leaves compiles to. -/
def Condition.formula (c : Compiler) (entity : Entity) (tableAlias : String)
    (condition : Condition) : Compile Formula :=
  match condition with
  | .constant holds => return .leaf (Predicate.constant holds).text.sql
  | .criterion criterion => return .leaf (← criterion.predicate c entity tableAlias).text.sql
  | .group entries => return .group (← siblingsOf c entity tableAlias entries)
termination_by structural condition

/-- Conditions in a row with the texts that their leaves compile to. -/
def siblingsOf (c : Compiler) (entity : Entity) (tableAlias : String)
    (entries : List ConditionEntry) : Compile Siblings :=
  match entries with
  | [] => return .nil
  | ⟨connector, condition⟩ :: rest => do
    let first ← condition.formula c entity tableAlias
    return .cons connector first (← siblingsOf c entity tableAlias rest)
termination_by structural entries
end

/-! ## Leaves -/

section Leaves

variable {c : Compiler} {s t : Scope} {entity : Entity} {tableAlias : String}

theorem Sql.text_append_ne_nil {lead : String} (hlead : lead ≠ "") (rest : String) :
    Sql.text (lead ++ rest) ≠ [] := by
  have hempty : (lead ++ rest).isEmpty = false := by
    rw [Bool.eq_false_iff]
    intro h
    exact hlead (String.append_eq_empty_iff.mp (String.isEmpty_iff.mp h)).1
  rw [Sql.text, hempty]
  exact List.cons_ne_nil _ _

theorem comparison_ne_nil (column : Sql) (operator : Operator) (right : Sql) :
    comparison column operator right ≠ [] := by
  have hkeyword := Sql.text_append_ne_nil (by decide : " " ≠ "") (operator.sql ++ " ")
  rw [← String.append_assoc] at hkeyword
  simp [comparison, hkeyword]

theorem SearchText.leaf_eq {sql : Sql} (h : sql ≠ []) : SearchText.leaf sql = [.leaf sql] := by
  rw [SearchText.leaf, if_neg (by simpa using h)]

/-- A predicate of one leaf. -/
def Predicate.IsLeaf (p : Predicate) : Prop :=
  p.hasOr = false ∧ ∃ sql, p.text = [.leaf sql]

theorem Predicate.isLeaf_leaf {sql : Sql} (h : sql ≠ []) : (Predicate.leaf sql).IsLeaf :=
  ⟨rfl, sql, SearchText.leaf_eq h⟩

theorem Predicate.isLeaf_constant (holds : Bool) : (Predicate.constant holds).IsLeaf := by
  apply Predicate.isLeaf_leaf
  cases holds <;> decide

theorem compareCollection_isLeaf {property : String} {column : Sql} {operator : Operator}
    {items : List Value} {p : Predicate}
    (h : Yields (c.compareCollection entity property column operator items) s p t) :
    p.IsLeaf := by
  rcases compareCollection_yields h with ⟨holds, rfl⟩ | ⟨right, rfl⟩
  · exact Predicate.isLeaf_constant holds
  · exact Predicate.isLeaf_leaf (comparison_ne_nil _ _ _)

theorem compareScalar_isLeaf {property : String} {column : Sql} {operator : Operator}
    {value : Value} {p : Predicate}
    (h : Yields (c.compareScalar property column operator value) s p t) : p.IsLeaf := by
  obtain ⟨right, rfl⟩ := compareScalar_yields h
  exact Predicate.isLeaf_leaf (comparison_ne_nil _ _ _)

/-- A comparison is a leaf, also one with a nested query. -/
theorem Criterion.predicate_isLeaf {criterion : Criterion} {p : Predicate}
    (h : Yields (criterion.predicate c entity tableAlias) s p t) : p.IsLeaf := by
  obtain ⟨field, column, r, -, -, hcases⟩ := Criterion.predicate_yields h
  rcases hcases with ⟨-, rfl, -⟩ | ⟨-, ⟨query, target, nestedAlias, r', clauses, -, -, -, -, rfl⟩ |
    ⟨items, -, hcompare⟩ | ⟨-, hcompare⟩⟩
  · refine Predicate.isLeaf_leaf ?_
    have hkeyword := Sql.text_append_ne_nil (by decide : " " ≠ "") criterion.operator.sql
    simp [hkeyword]
  · exact Predicate.isLeaf_leaf (comparison_ne_nil _ _ _)
  · exact compareCollection_isLeaf hcompare
  · exact compareScalar_isLeaf hcompare

end Leaves

/-! ## Conditions in a row -/

/-- A text ends in a conjunction: the value of the conjunctions before it, and its own value. -/
inductive EndsIn (holds : Sql → Bool) : SearchText → Bool → Bool → Prop where
  | only {text : SearchText} {v : Bool} (h : Reads holds .conjunction text v) :
      EndsIn holds text false v
  | or {a b : SearchText} {d v : Bool} (ha : Reads holds .disjunction a d)
      (hb : Reads holds .conjunction b v) : EndsIn holds (a.connect .or b) d v

namespace EndsIn

variable {holds : Sql → Bool} {text operand : SearchText} {d v w : Bool}

theorem reads (h : EndsIn holds text d v) : Reads holds .disjunction text (d || v) := by
  cases h with
  | only h => exact h.only
  | or ha hb => exact .or ha hb

/-- An AND continues the conjunction. -/
theorem and (h : EndsIn holds text d v) (hw : Reads holds .operand operand w) :
    EndsIn holds (text.connect .and operand) d (v && w) := by
  cases h with
  | only h => exact .only (.and h hw)
  | @or a b d v ha hb =>
    have hassoc : (a.connect .or b).connect .and operand = a.connect .or (b.connect .and operand) :=
      by simp [SearchText.connect]
    rw [hassoc]
    exact .or ha (.and hb hw)

/-- An OR starts another conjunction. -/
theorem or_operand (h : EndsIn holds text d v) (hw : Reads holds .operand operand w) :
    EndsIn holds (text.connect .or operand) (d || v) w :=
  .or h.reads hw.single

theorem hasOuterOr_and (h : EndsIn holds text d v) (hw : Reads holds .operand operand w) :
    (text.connect .and operand).hasOuterOr = text.hasOuterOr := by
  have hrest : SearchText.outerOr 0 operand = false := hw.single.hasOuterOr_conjunction
  rw [SearchText.hasOuterOr, SearchText.connect, (h.reads.outerOrs (.connective .and :: operand)).2,
    SearchText.outerOr, hrest]
  simp

end EndsIn

/-- The predicate of a condition is an operand with the value of its formula. -/
structure ConditionDenotes (p : Predicate) (formula : Formula) : Prop where
  flag : p.hasOr = false
  operand : ∀ holds, match formula.value holds with
    | none => p.text = []
    | some v => Reads holds .operand p.text v

/-- The predicate of conditions in a row, behind a predicate of others before them. -/
structure EntriesDenote (before p : Predicate) (siblings : Siblings) : Prop where
  first : before.text = [] → before.hasOr = false → ∀ holds,
    p.Denotes holds (siblings.value holds) ∧ p.hasOr = siblings.hasOr holds
  next : ∀ holds d v, EndsIn holds before.text d v → before.hasOr = before.text.hasOuterOr →
    p.Denotes holds (some (d || connected v (siblings.operands holds))) ∧
      p.hasOr = (before.hasOr || (siblings.operands holds).any (·.1 == .or))

theorem ConditionDenotes.of_isLeaf {p : Predicate} (h : p.IsLeaf) :
    ConditionDenotes p (.leaf p.text.sql) := by
  obtain ⟨hflag, sql, htext⟩ := h
  refine ⟨hflag, ?_⟩
  intro holds
  have hsql : SearchText.sql [.leaf sql] = sql := by simp [SearchText.sql, SearchPart.sql]
  rw [htext, hsql]
  exact .leaf sql

theorem EntriesDenote.nil (before : Predicate) : EntriesDenote before before .nil := by
  constructor
  · intro htext hflag holds
    refine ⟨⟨htext, ?_⟩, hflag⟩
    rw [hflag, htext]
    rfl
  · intro holds d v hends hflag
    exact ⟨⟨hends.reads.means, hflag⟩, by simp [Siblings.operands]⟩

theorem Siblings.operands_cons_none {holds : Sql → Bool} {connector : LogicalOp}
    {first : Formula} {rest : Siblings} (h : first.value holds = none) :
    (Siblings.cons connector first rest).operands holds = rest.operands holds := by
  rw [Siblings.operands, h]

theorem Siblings.operands_cons_some {holds : Sql → Bool} {connector : LogicalOp}
    {first : Formula} {rest : Siblings} {v : Bool} (h : first.value holds = some v) :
    (Siblings.cons connector first rest).operands holds =
      (connector, v) :: rest.operands holds := by
  rw [Siblings.operands, h]

theorem Predicate.extend_of_right_empty {p q : Predicate} {connector : LogicalOp}
    (hq : q.text = []) : p.extend connector q = p :=
  if_pos (List.isEmpty_iff.mpr hq)

theorem Predicate.extend_of_left_empty {p q : Predicate} {connector : LogicalOp}
    (hp : p.text = []) (hq : q.text ≠ []) :
    p.extend connector q = ⟨q.text, q.hasOr, p.trace ++ q.trace⟩ := by
  have hq' : q.isEmpty = false := by rwa [Predicate.isEmpty, List.isEmpty_eq_false_iff]
  have hp' : p.isEmpty = true := List.isEmpty_iff.mpr hp
  rw [Predicate.extend, hq', hp', if_neg Bool.false_ne_true, if_pos rfl]

theorem Predicate.extend_of_nonempty {p q : Predicate} {connector : LogicalOp}
    (hp : p.text ≠ []) (hq : q.text ≠ []) :
    p.extend connector q =
      ⟨p.text.connect connector q.text, p.hasOr || connector == .or || q.hasOr,
        p.trace ++ q.trace⟩ := by
  have hq' : q.isEmpty = false := by rwa [Predicate.isEmpty, List.isEmpty_eq_false_iff]
  have hp' : p.isEmpty = false := by rwa [Predicate.isEmpty, List.isEmpty_eq_false_iff]
  rw [Predicate.extend, hq', hp', if_neg Bool.false_ne_true, if_neg Bool.false_ne_true]

/-- An absent sibling changes nothing; the first one that is there begins the text, and every other
one continues it behind its connective. -/
theorem EntriesDenote.cons {before q p : Predicate} {connector : LogicalOp} {formula : Formula}
    {rest : Siblings} (hq : ConditionDenotes q formula)
    (hrest : EntriesDenote (before.extend connector q) p rest) :
    EntriesDenote before p (.cons connector formula rest) := by
  constructor
  · intro htext hflag holds
    have hoperand := hq.operand holds
    unfold Siblings.value Siblings.hasOr
    cases hvalue : formula.value holds with
    | none =>
      simp only [hvalue] at hoperand
      rw [Predicate.extend_of_right_empty hoperand] at hrest
      rw [Siblings.operands_cons_none hvalue]
      exact hrest.first htext hflag holds
    | some v =>
      simp only [hvalue] at hoperand
      -- the first sibling that is there begins a conjunction, behind none before it
      rw [Predicate.extend_of_left_empty htext hoperand.ne_nil] at hrest
      rw [Siblings.operands_cons_some hvalue]
      have hnext := hrest.next holds false v (.only hoperand.single)
        (hq.flag.trans hoperand.single.hasOuterOr_conjunction.symm)
      rw [Bool.false_or] at hnext
      refine ⟨hnext.1, hnext.2.trans ?_⟩
      rw [hq.flag, Bool.false_or, List.tail_cons]
  · intro holds d v hends hflag
    have hoperand := hq.operand holds
    cases hvalue : formula.value holds with
    | none =>
      simp only [hvalue] at hoperand
      rw [Predicate.extend_of_right_empty hoperand] at hrest
      rw [Siblings.operands_cons_none hvalue]
      exact hrest.next holds d v hends hflag
    | some w =>
      simp only [hvalue] at hoperand
      rw [Predicate.extend_of_nonempty hends.reads.ne_nil hoperand.ne_nil, hq.flag,
        Bool.or_false] at hrest
      rw [Siblings.operands_cons_some hvalue]
      cases connector with
      | and =>
        have hcontinued := (hends.hasOuterOr_and hoperand).symm
        have hnext := hrest.next holds d (v && w) (hends.and hoperand) (by simp [hflag, hcontinued])
        refine ⟨hnext.1, hnext.2.trans ?_⟩
        rw [List.any_cons, ← Bool.or_assoc]
      | or =>
        have hstarted := (hends.reads.hasOuterOr_or (b := q.text)).symm
        have hnext := hrest.next holds (d || v) w (hends.or_operand hoperand) (by simp [hstarted])
        refine ⟨?_, hnext.2.trans ?_⟩
        · rw [Bool.or_assoc] at hnext
          exact hnext.1
        · simp

/-- A group is the operand that its siblings are in parentheses. -/
theorem EntriesDenote.grouped {p : Predicate} {siblings : Siblings}
    (h : EntriesDenote {} p siblings) : ConditionDenotes p.grouped (.group siblings) := by
  have hvalue (holds : Sql → Bool) : p.Denotes holds ((Formula.group siblings).value holds) :=
    (h.first rfl rfl holds).1
  constructor
  · unfold Predicate.grouped
    split
    · rename_i hempty
      have hflag := (h.first rfl rfl fun _ => true).1.flag
      rw [hflag, List.isEmpty_iff.mp hempty]
      rfl
    · rfl
  · intro holds
    have hdenotes := hvalue holds
    unfold Predicate.grouped
    cases hgroup : (Formula.group siblings).value holds with
    | none =>
      rw [hgroup] at hdenotes
      rw [if_pos hdenotes.isEmpty_none]
      exact hdenotes.text
    | some v =>
      rw [hgroup] at hdenotes
      rw [hdenotes.isEmpty_some, if_neg Bool.false_ne_true]
      exact .parens hdenotes.text.1

/-- A group of one is its condition. -/
theorem ConditionDenotes.group_one {p : Predicate} {formula : Formula} {connector : LogicalOp}
    (h : ConditionDenotes p formula) :
    ConditionDenotes p (.group (.cons connector formula .nil)) := by
  refine ⟨h.flag, ?_⟩
  intro holds
  have hvalue : (Formula.group (.cons connector formula .nil)).value holds =
      formula.value holds := by
    rw [Formula.value]
    cases hvalue : formula.value holds with
    | none =>
      rw [Siblings.operands_cons_none hvalue]
      rfl
    | some v =>
      rw [Siblings.operands_cons_some hvalue]
      rfl
  rw [hvalue]
  exact h.operand holds

section Compilations

variable {s t : Scope} {entity : Entity} {tableAlias : String}

theorem siblingsOf_cons_yields {c : Compiler} {r : Scope} {entry : ConditionEntry}
    {rest : List ConditionEntry} {first : Formula} {others : Siblings}
    (hfirst : Yields (entry.condition.formula c entity tableAlias) s first r)
    (hrest : Yields (siblingsOf c entity tableAlias rest) r others t) :
    Yields (siblingsOf c entity tableAlias (entry :: rest)) s
      (.cons entry.connector first others) t := by
  obtain ⟨connector, condition⟩ := entry
  rw [siblingsOf]
  simp only [yields_bind, yields_pure]
  exact ⟨first, r, hfirst, others, t, hrest, rfl, rfl⟩

theorem formula_group_yields {c : Compiler} {entries : List ConditionEntry} {siblings : Siblings}
    (h : Yields (siblingsOf c entity tableAlias entries) s siblings t) :
    Yields ((Condition.group entries).formula c entity tableAlias) s (.group siblings) t := by
  rw [Condition.formula]
  simp only [yields_bind, yields_pure]
  exact ⟨siblings, t, h, rfl, rfl⟩

mutual
/-- Conditions in a row compile to a text that denotes their siblings. -/
theorem foldEntries_denotes {c : Compiler} (entries : List ConditionEntry) {entity : Entity}
    {tableAlias : String} {before p : Predicate} {s t : Scope}
    (h : Yields (foldEntries c entity tableAlias before entries) s p t) :
    ∃ siblings, Yields (siblingsOf c entity tableAlias entries) s siblings t ∧
      EntriesDenote before p siblings := by
  cases entries with
  | nil =>
    obtain ⟨rfl, rfl⟩ := foldEntries_nil_yields.mp h
    exact ⟨.nil, yields_pure.mpr ⟨rfl, rfl⟩, .nil before⟩
  | cons entry rest =>
    obtain ⟨q, r, hq, hrest⟩ := foldEntries_cons_yields.mp h
    obtain ⟨connector, condition⟩ := entry
    obtain ⟨formula, hformula, hcondition⟩ := Condition.predicate_denotes condition hq
    obtain ⟨siblings, hsiblings, hentries⟩ := foldEntries_denotes rest hrest
    exact ⟨_, siblingsOf_cons_yields hformula hsiblings, hentries.cons hcondition⟩
termination_by structural entries

/-- A condition compiles to an operand that denotes its formula. -/
theorem Condition.predicate_denotes {c : Compiler} (condition : Condition) {entity : Entity}
    {tableAlias : String} {p : Predicate} {s t : Scope}
    (h : Yields (condition.predicate c entity tableAlias) s p t) :
    ∃ formula, Yields (condition.formula c entity tableAlias) s formula t ∧
      ConditionDenotes p formula := by
  cases condition with
  | constant holds =>
    obtain ⟨rfl, rfl⟩ := predicate_constant_yields.mp h
    exact ⟨_, yields_pure.mpr ⟨rfl, rfl⟩, .of_isLeaf (Predicate.isLeaf_constant holds)⟩
  | criterion criterion =>
    have hcriterion := predicate_criterion_yields.mp h
    refine ⟨_, ?_, .of_isLeaf (Criterion.predicate_isLeaf hcriterion)⟩
    rw [Condition.formula]
    simp only [yields_bind, yields_pure]
    exact ⟨p, t, hcriterion, rfl, rfl⟩
  | group entries =>
    match entries with
    | [⟨connector, only⟩] =>
      obtain ⟨formula, hformula, honly⟩ :=
        Condition.predicate_denotes only (predicate_group_one_yields.mp h)
      refine ⟨.group (.cons connector formula .nil), ?_, honly.group_one⟩
      exact formula_group_yields (siblingsOf_cons_yields hformula (yields_pure.mpr ⟨rfl, rfl⟩))
    | [] =>
      obtain ⟨q, hq, rfl⟩ := (predicate_group_yields (by simp)).mp h
      obtain ⟨rfl, rfl⟩ := foldEntries_nil_yields.mp hq
      exact ⟨.group .nil, formula_group_yields (yields_pure.mpr ⟨rfl, rfl⟩),
        (EntriesDenote.nil {}).grouped⟩
    | ⟨connector, condition⟩ :: second :: rest =>
      obtain ⟨q, hq, rfl⟩ := (predicate_group_yields (by simp)).mp h
      obtain ⟨first, r, hfirst, hrest⟩ := foldEntries_cons_yields.mp hq
      obtain ⟨formula, hformula, hcondition⟩ := Condition.predicate_denotes condition hfirst
      obtain ⟨siblings, hsiblings, hentries⟩ := foldEntries_denotes (second :: rest) hrest
      exact ⟨_, formula_group_yields (siblingsOf_cons_yields hformula hsiblings),
        (hentries.cons hcondition).grouped⟩
termination_by structural condition
end

end Compilations

end QueryLoom
