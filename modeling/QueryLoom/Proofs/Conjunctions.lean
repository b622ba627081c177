import QueryLoom.Proofs.ConjoinedConditions
import QueryLoom.Proofs.RecordedTraversals

/-!
# Conjunctions

The conjunction of predicates is associative down to the last parenthesis, flag and traversal, if a
predicate without text says nothing else either. The predicate without text is then neutral: behind
every other one, and in front of those that know the alias of their last traversal only together
with its table. All predicates that conditions compile to are of this kind.

## Implementation notes

A conjunction drops an operand without text on its right. So the operand in the middle decides on
associativity: what it knows without having a text is dropped behind the first operand, and kept in
front of the last. A site without a table is no later site, so its alias is not taken over.
-/

namespace QueryLoom

namespace Predicate

variable {p q r : Predicate}

/-- A predicate without text knows neither an OR nor traversals. -/
def IsWellFormed (p : Predicate) : Prop :=
  p.text.sql.render = "" → p.hasOr = false ∧ p.trace = {}

/-- The alias of a traversal is known only together with its table. -/
def IsSited (p : Predicate) : Prop := p.trace.site.table = none → p.trace.site.tableAlias = none

/-! ## Conjunctions by their operands -/

theorem and_of_right_isEmpty (hq : q.isEmpty = true) : p.and q = p := if_pos hq

theorem and_of_left_isEmpty (hp : p.isEmpty = true) (hq : q.isEmpty = false) :
    p.and q = ⟨q.text, q.hasOr, p.trace ++ q.trace⟩ := by
  rw [Predicate.and, hq, hp, if_neg Bool.false_ne_true, if_pos rfl]

theorem and_of_not_isEmpty (hp : p.isEmpty = false) (hq : q.isEmpty = false) :
    p.and q = ⟨p.operand.connect .and q.operand, false, p.trace ++ q.trace⟩ := by
  rw [Predicate.and, hq, hp, if_neg Bool.false_ne_true, if_neg Bool.false_ne_true]

theorem isEmpty_and : (p.and q).isEmpty = (p.isEmpty && q.isEmpty) := by
  cases hq : q.isEmpty with
  | true => rw [and_of_right_isEmpty hq, Bool.and_true]
  | false =>
    rw [Bool.and_false]
    cases hp : p.isEmpty with
    | true =>
      rw [and_of_left_isEmpty hp hq]
      exact hq
    | false =>
      rw [and_of_not_isEmpty hp hq]
      simp [isEmpty, SearchText.connect]

/-- A predicate without text that is well formed is the empty one. -/
theorem IsWellFormed.eq_empty (hp : p.IsWellFormed) (hempty : p.isEmpty = true) : p = {} := by
  obtain ⟨text, hasOr, trace⟩ := p
  obtain rfl : text = [] := List.isEmpty_iff.mp hempty
  obtain ⟨rfl, rfl⟩ := hp rfl
  rfl

theorem isWellFormed_empty : IsWellFormed {} := fun _ => ⟨rfl, rfl⟩

theorem IsWellFormed.and (hp : p.IsWellFormed) (hq : q.IsWellFormed) : (p.and q).IsWellFormed := by
  cases hempty : q.isEmpty with
  | true => rwa [and_of_right_isEmpty hempty]
  | false =>
    cases hleft : p.isEmpty with
    | true =>
      rw [hp.eq_empty hleft, and_of_left_isEmpty rfl hempty]
      intro htext
      obtain ⟨hflag, htrace⟩ := hq htext
      exact ⟨hflag, by rw [htrace]; rfl⟩
    | false =>
      rw [and_of_not_isEmpty hleft hempty]
      -- the AND alone is a text
      intro htext
      refine absurd htext ?_
      rw [SearchText.connect, ← List.singleton_append, SearchText.sql_append,
        SearchText.sql_append, ← List.append_assoc]
      exact Sql.render_ne_empty (by decide : " AND " ≠ "") _ _

/-! ## Neutral and associative -/

/-- What a predicate loses behind the empty one: an alias without a table. -/
theorem empty_and (hq : q.IsWellFormed) :
    ({} : Predicate).and q =
      { q with trace := ⟨q.trace.scripts, ({} : TraversalSite).latest q.trace.site⟩ } := by
  cases hempty : q.isEmpty with
  | true =>
    rw [hq.eq_empty hempty]
    rfl
  | false =>
    rw [and_of_left_isEmpty rfl hempty]
    rfl

theorem isSited_iff : p.IsSited ↔ ({} : TraversalSite).latest p.trace.site = p.trace.site := by
  unfold IsSited TraversalSite.latest
  obtain ⟨table, tableAlias⟩ := p.trace.site
  cases table with
  | none => simp [eq_comm]
  | some table => simp

theorem empty_and_eq_iff (hq : q.IsWellFormed) : ({} : Predicate).and q = q ↔ q.IsSited := by
  rw [empty_and hq, isSited_iff]
  constructor
  · intro h
    exact congrArg (fun p => p.trace.site) h
  · intro h
    rw [h]

theorem IsSited.and (hp : p.IsSited) (hq : q.IsSited) : (p.and q).IsSited := by
  have hlatest : (p.trace.site.latest q.trace.site).table = none →
      (p.trace.site.latest q.trace.site).tableAlias = none := by
    unfold TraversalSite.latest
    split
    · exact hq
    · exact hp
  unfold Predicate.and
  split
  · exact hp
  · split <;> exact hlatest

/-- Only the operand in the middle has to be well formed. -/
theorem and_assoc_of_middle (hq : q.IsWellFormed) : (p.and q).and r = p.and (q.and r) := by
  cases hlast : r.isEmpty with
  | true => rw [and_of_right_isEmpty hlast, and_of_right_isEmpty hlast]
  | false =>
    have hright : (q.and r).isEmpty = false := by rw [isEmpty_and, hlast, Bool.and_false]
    cases hmiddle : q.isEmpty with
    | true =>
      obtain rfl := hq.eq_empty hmiddle
      have htrace (a b : Trace) : a ++ (({} : Trace) ++ b) = a ++ b := by
        rw [← Trace.append_assoc, Trace.append_empty]
      have hbehind : isEmpty ⟨r.text, r.hasOr, ({} : Trace) ++ r.trace⟩ = false := hlast
      rw [and_empty, and_of_left_isEmpty (p := {}) rfl hlast]
      cases hfirst : p.isEmpty with
      | true => rw [and_of_left_isEmpty hfirst hlast, and_of_left_isEmpty hfirst hbehind, htrace]
      | false =>
        rw [and_of_not_isEmpty hfirst hlast, and_of_not_isEmpty hfirst hbehind, htrace]
        rfl
    | false =>
      have hleft : (p.and q).isEmpty = false := by rw [isEmpty_and, hmiddle, Bool.and_false]
      rw [and_of_not_isEmpty hleft hlast]
      cases hfirst : p.isEmpty with
      | true =>
        rw [and_of_left_isEmpty hfirst hright, and_of_left_isEmpty hfirst hmiddle,
          and_of_not_isEmpty hmiddle hlast, Trace.append_assoc]
        rfl
      | false =>
        rw [and_of_not_isEmpty hfirst hright, and_of_not_isEmpty hfirst hmiddle,
          and_of_not_isEmpty hmiddle hlast, Trace.append_assoc]
        simp [operand, SearchText.connect]

/-! ## Nested conjunctions -/

/-- What is ANDed in front of a row of predicates may as well be ANDed to the first of them. -/
theorem and_foldl {rest : List Predicate} (hq : q.IsWellFormed)
    (hrest : ∀ r ∈ rest, r.IsWellFormed) :
    p.and (rest.foldl Predicate.and q) = rest.foldl Predicate.and (p.and q) := by
  induction rest generalizing q with
  | nil => rfl
  | cons r rest ih =>
    obtain ⟨hr, hrest⟩ := List.forall_mem_cons.mp hrest
    rw [List.foldl_cons, List.foldl_cons, ih (hq.and hr) hrest, and_assoc_of_middle hq]

end Predicate

/-- Predicates in a row, nested as conjunctions in some way. -/
inductive Conjunction where
  | one (p : Predicate)
  | both (left right : Conjunction)

namespace Conjunction

/-- The conjunction of the predicates, in the order of the nesting. -/
def value : Conjunction → Predicate
  | one p => p
  | both left right => left.value.and right.value

/-- The predicates without the nesting. -/
def parts : Conjunction → List Predicate
  | one p => [p]
  | both left right => left.parts ++ right.parts

theorem parts_ne_nil (a : Conjunction) : a.parts ≠ [] := by
  induction a with
  | one p => exact List.cons_ne_nil _ _
  | both left right ihleft ihright => exact List.append_ne_nil_of_left_ne_nil ihleft _

/-- Every nesting has the value of the conjunction from left to right. -/
theorem value_eq {a : Conjunction} {first : Predicate} {rest : List Predicate}
    (hparts : a.parts = first :: rest) (hrest : ∀ p ∈ rest, p.IsWellFormed) :
    a.value = rest.foldl Predicate.and first := by
  induction a generalizing first rest with
  | one p =>
    obtain ⟨rfl, rfl⟩ := List.cons.inj hparts
    rfl
  | both left right ihleft ihright =>
    obtain ⟨front, others, hleft⟩ := List.exists_cons_of_ne_nil left.parts_ne_nil
    obtain ⟨second, behind, hright⟩ := List.exists_cons_of_ne_nil right.parts_ne_nil
    rw [parts, hleft, hright, List.cons_append] at hparts
    obtain ⟨rfl, rfl⟩ := List.cons.inj hparts
    obtain ⟨hothers, hbehind⟩ := List.forall_mem_append.mp hrest
    obtain ⟨hsecond, hbehind⟩ := List.forall_mem_cons.mp hbehind
    rw [value, ihleft hleft hothers, ihright hright hbehind, Predicate.and_foldl hsecond hbehind,
      List.foldl_append, List.foldl_cons]

theorem value_eq_of_parts_eq {a b : Conjunction} (h : ∀ p ∈ a.parts.tail, p.IsWellFormed)
    (hparts : a.parts = b.parts) : a.value = b.value := by
  obtain ⟨first, rest, ha⟩ := List.exists_cons_of_ne_nil a.parts_ne_nil
  rw [ha, List.tail_cons] at h
  rw [value_eq ha h, value_eq (hparts ▸ ha) h]

end Conjunction

/-! ## Compiled conditions -/

section Compiled

variable {c : Compiler} {s t : Scope} {entity : Entity} {tableAlias : String} {p : Predicate}
  {queries : List Query}

theorem SearchText.Visible.eq_nil {text : SearchText} (h : text.Visible)
    (hrender : text.sql.render = "") : text = [] :=
  Classical.byContradiction fun hne => h.render_ne_empty hne hrender

/-- A predicate that records its traversals is well formed, if its flag is not set without a
text. -/
theorem Predicate.Records.isWellFormed (h : p.Records c queries)
    (hflag : p.text = [] → p.hasOr = false) : p.IsWellFormed := by
  intro htext
  have hempty := h.visible.eq_nil htext
  exact ⟨hflag hempty, (h.of_isEmpty (List.isEmpty_iff.mpr hempty)).2⟩

theorem Predicate.Records.isSited (h : p.Records c queries) : p.IsSited := by
  obtain ⟨traversals, -, -, htrace⟩ := h.trace
  obtain ⟨htable, halias⟩ := siteOf_isSome (c := c) traversals
  intro hnone
  rw [htrace] at hnone ⊢
  rw [← Option.not_isSome_iff_eq_none, htable] at hnone
  rwa [← Option.not_isSome_iff_eq_none, halias]

/-- A flag that is right is not set without a text. -/
theorem Predicate.Denoting.hasOr_of_text_eq_nil (h : p.Denoting) (htext : p.text = []) :
    p.hasOr = false := by
  obtain ⟨v, hv⟩ := h fun _ => true
  rw [hv.flag, htext]
  rfl

theorem conditionPredicate_isWellFormed {entries : List ConditionEntry}
    (h : Yields (conditionPredicate c entity tableAlias entries) s p t) :
    p.IsWellFormed ∧ p.IsSited := by
  have hrecords := foldEntries_records entries Predicate.records_empty h
  exact ⟨hrecords.isWellFormed (foldEntries_denoting h).hasOr_of_text_eq_nil, hrecords.isSited⟩

theorem Condition.predicate_isWellFormed {condition : Condition}
    (h : Yields (condition.predicate c entity tableAlias) s p t) :
    p.IsWellFormed ∧ p.IsSited := by
  have hrecords := condition.predicate_records h
  obtain ⟨formula, -, hdenotes⟩ := condition.predicate_denotes h
  exact ⟨hrecords.isWellFormed fun _ => hdenotes.flag, hrecords.isSited⟩

theorem Criterion.predicate_isWellFormed {criterion : Criterion}
    (h : Yields (criterion.predicate c entity tableAlias) s p t) :
    p.IsWellFormed ∧ p.IsSited := by
  have hrecords := criterion.predicate_records h
  exact ⟨hrecords.isWellFormed fun _ => (Criterion.predicate_isLeaf h).1, hrecords.isSited⟩

/-- The target of a join is well formed as what is ANDed to the condition of the joining query. -/
theorem Query.clauses_isWellFormed {query : Query} {fields : List String} {sorted : Bool}
    {clauses : Clauses} (h : Yields (query.clauses c fields tableAlias sorted) s clauses t) :
    clauses.predicate.IsWellFormed ∧ clauses.predicate.IsSited := by
  obtain ⟨traversals, hrecorded⟩ := query.clauses_recorded h
  refine ⟨?_, fun _ => rfl⟩
  intro htext
  have hempty := hrecorded.visible.eq_nil htext
  exact ⟨(query.clauses_denoting h).hasOr_of_text_eq_nil hempty, rfl⟩

end Compiled

/-- Conjunction keeps predicates well formed and is associative on them, and the empty predicate is
neutral behind all of them and in front of those that know no alias without its table. Conditions
compile to predicates of this kind, and so does what a join puts behind a condition, so that a row of
them has one conjunction however it is nested. -/
theorem conjunctions_agree (c : Compiler) :
    (∀ p q : Predicate, p.IsWellFormed → q.IsWellFormed → (p.and q).IsWellFormed) ∧
    (∀ p q r : Predicate, p.IsWellFormed → q.IsWellFormed → r.IsWellFormed →
      (p.and q).and r = p.and (q.and r)) ∧
    (∀ p : Predicate, p.and {} = p) ∧
    (∀ p : Predicate, p.IsWellFormed → (({} : Predicate).and p = p ↔ p.IsSited)) ∧
    (∀ p q : Predicate, p.IsSited → q.IsSited → (p.and q).IsSited) ∧
    (∀ entity tableAlias entries s p t,
      Yields (conditionPredicate c entity tableAlias entries) s p t →
        p.IsWellFormed ∧ p.IsSited) ∧
    (∀ (condition : Condition) entity tableAlias s p t,
      Yields (condition.predicate c entity tableAlias) s p t → p.IsWellFormed ∧ p.IsSited) ∧
    (∀ (criterion : Criterion) entity tableAlias s p t,
      Yields (criterion.predicate c entity tableAlias) s p t → p.IsWellFormed ∧ p.IsSited) ∧
    (∀ (query : Query) fields tableAlias sorted s clauses t,
      Yields (query.clauses c fields tableAlias sorted) s clauses t →
        clauses.predicate.IsWellFormed ∧ clauses.predicate.IsSited) ∧
    ∀ a b : Conjunction, (∀ p ∈ a.parts.tail, p.IsWellFormed) → a.parts = b.parts →
      a.value = b.value := by
  refine ⟨fun p q hp hq => hp.and hq, fun p q r _ hq _ => Predicate.and_assoc_of_middle hq,
    Predicate.and_empty, fun p => Predicate.empty_and_eq_iff, fun p q hp hq => hp.and hq,
    ?_, ?_, ?_, ?_, fun a b => Conjunction.value_eq_of_parts_eq⟩
  · intro entity tableAlias entries s p t h
    exact conditionPredicate_isWellFormed h
  · intro condition entity tableAlias s p t h
    exact Condition.predicate_isWellFormed h
  · intro criterion entity tableAlias s p t h
    exact Criterion.predicate_isWellFormed h
  · intro query fields tableAlias sorted s clauses t h
    exact Query.clauses_isWellFormed h

/-- A condition with a traversal is ANDed to itself, in whatever nesting, and to nothing. -/
theorem traversedCondition_conjoined :
    let chosen := Value.subquery (nodesBelow [] [] [])
    ∃ p t, Yields (conditionPredicate treeCompiler nodeEntity rootAlias
        [⟨.and, .constant false⟩, ⟨.or, .criterion ⟨"Id", .isIn, chosen, none⟩⟩]) {} p t ∧
      p.hasOr = true ∧ p.trace.site = ⟨some "\"NODE\"", some "TSB1"⟩ ∧
      (p.and p).and p = p.and (p.and p) ∧ ({} : Predicate).and p = p := by
  intro chosen
  let entries : List ConditionEntry :=
    [⟨.and, .constant false⟩, ⟨.or, .criterion ⟨"Id", .isIn, chosen, none⟩⟩]
  obtain ⟨p, t, h⟩ := exists_yields_of_isSome
    (m := conditionPredicate treeCompiler nodeEntity rootAlias entries) (s := {})
    (by decide +kernel)
  have hread : ((conditionPredicate treeCompiler nodeEntity rootAlias entries).run.run
      {}).1.toOption.map (fun p => (p.hasOr, p.trace.site)) =
      some (true, ⟨some "\"NODE\"", some "TSB1"⟩) := by
    decide +kernel
  rw [h] at hread
  obtain ⟨hflag, hsite⟩ := Prod.mk.inj (Option.some.inj hread)
  obtain ⟨-, hassoc, -, hneutral, -, hconditions, -⟩ := conjunctions_agree treeCompiler
  obtain ⟨hp, hsited⟩ := hconditions _ _ _ _ _ _ h
  exact ⟨p, t, h, hflag, hsite, hassoc p p p hp hp hp, (hneutral p hp).mpr hsited⟩

/-- A predicate that knows the alias of a traversal and not its table. -/
def aliasedPredicate : Predicate :=
  ⟨SearchText.leaf (Sql.text "x"), false, ⟨[], ⟨none, some "p"⟩⟩⟩

/-- It has a text, so it is well formed; but behind the empty predicate its alias is lost. -/
theorem aliasedPredicate_not_kept :
    aliasedPredicate.IsWellFormed ∧ ({} : Predicate).and aliasedPredicate ≠ aliasedPredicate := by
  constructor
  · intro htext
    exact absurd htext (by decide)
  · decide

end QueryLoom
