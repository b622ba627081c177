import Mathlib.Data.List.Induction
import Mathlib.Data.Multiset.Dedup
import Mathlib.Data.Multiset.Filter
import Mathlib.Data.Multiset.UnionInter
import QueryLoom.Proofs.CombinedBranches
import QueryLoom.Statement.Reading

/-!
# Chains of set operations

The set operations of a query are written in one chain without parentheses, and SQL reads a chain
from left to right, all set operators binding alike. A branch that combines something with itself is
therefore read in the order of the text. That is its meaning in the query exactly where the operator
in front of it regroups with those inside it.

## Implementation notes

The rows of each SELECT are given; a chain is read by a grammar whose operands are SELECTs and
chains in parentheses. Rows are multisets: `UNION ALL` keeps repeated rows, and the other operators
answer each row once.
-/

namespace QueryLoom

/-! ## Set operations on rows -/

namespace CombineKind

variable {R : Type} [DecidableEq R]

/-- The rows of a set operation. -/
def rows : CombineKind → Multiset R → Multiset R → Multiset R
  | .unionAll, left, right => left + right
  | .union, left, right => (left + right).dedup
  | .difference, left, right => left.dedup.filter (· ∉ right)
  | .intersection, left, right => left.dedup.filter (· ∈ right)

/-- Whether a row is among those of a set operation, given whether it is on either side. -/
def Holds : CombineKind → Prop → Prop → Prop
  | .unionAll, left, right | .union, left, right => left ∨ right
  | .difference, left, right => left ∧ ¬ right
  | .intersection, left, right => left ∧ right

theorem mem_rows {kind : CombineKind} {left right : Multiset R} {a : R} :
    a ∈ kind.rows left right ↔ kind.Holds (a ∈ left) (a ∈ right) := by
  cases kind <;> simp [rows, Holds]

/-- All operators but `UNION ALL` answer each row once. -/
theorem nodup_rows {kind : CombineKind} (hkind : kind ≠ .unionAll) (left right : Multiset R) :
    (kind.rows left right).Nodup := by
  cases kind with
  | unionAll => exact absurd rfl hkind
  | union => exact Multiset.nodup_dedup _
  | difference => exact (Multiset.nodup_dedup _).filter _
  | intersection => exact (Multiset.nodup_dedup _).filter _

/-- Whether an operator may be applied before those inside its right operand. -/
def regroups : CombineKind → CombineKind → Bool
  | .unionAll, .unionAll => true
  | .union, .union => true
  | .intersection, .intersection => true
  | .intersection, .difference => true
  | _, _ => false

theorem rows_rows_of_regroups {outer inner : CombineKind} (h : outer.regroups inner = true)
    (x y z : Multiset R) :
    outer.rows x (inner.rows y z) = inner.rows (outer.rows x y) z := by
  by_cases hall : outer = .unionAll
  · subst hall
    cases inner <;>
      first | exact absurd h Bool.false_ne_true | exact (Multiset.add_assoc x y z).symm
  · have hinner : inner ≠ .unionAll := by
      rintro rfl
      cases outer <;> first | exact hall rfl | exact Bool.false_ne_true h
    -- both sides answer each row once, so only membership matters
    rw [Multiset.Nodup.ext (nodup_rows hall _ _) (nodup_rows hinner _ _)]
    intro a
    simp only [mem_rows]
    cases outer <;> cases inner <;> first
      | exact absurd h Bool.false_ne_true
      | simp only [Holds]; tauto

/-- An operator regroups with another one exactly if the order does not matter for any rows. -/
theorem regroups_iff [Nonempty R] {outer inner : CombineKind} :
    outer.regroups inner = true ↔ ∀ x y z : Multiset R,
      outer.rows x (inner.rows y z) = inner.rows (outer.rows x y) z := by
  refine ⟨rows_rows_of_regroups, ?_⟩
  intro h
  obtain ⟨a⟩ := ‹Nonempty R›
  have hmem (x y z : Multiset R) : outer.Holds (a ∈ x) (inner.Holds (a ∈ y) (a ∈ z)) ↔
      inner.Holds (outer.Holds (a ∈ x) (a ∈ y)) (a ∈ z) := by
    simp only [← mem_rows, h x y z]
  have hcard (x y z : Multiset R) := congrArg Multiset.card (h x y z)
  cases outer with
  | unionAll =>
    cases inner with
    | unionAll => rfl
    | union => exact absurd (hcard {a} {a} 0) (by simp [rows])
    | difference => exact absurd (hmem {a} 0 {a}) (by simp [Holds])
    | intersection => exact absurd (hmem {a} 0 0) (by simp [Holds])
  | union =>
    cases inner with
    | unionAll => exact absurd (hcard {a} 0 {a}) (by simp [rows])
    | union => rfl
    | difference => exact absurd (hmem {a} 0 {a}) (by simp [Holds])
    | intersection => exact absurd (hmem {a} 0 0) (by simp [Holds])
  | difference =>
    cases inner with
    | unionAll => exact absurd (hmem {a} {a} {a}) (by simp [Holds])
    | union => exact absurd (hmem {a} {a} {a}) (by simp [Holds])
    | difference => exact absurd (hmem {a} {a} {a}) (by simp [Holds])
    | intersection => exact absurd (hmem {a} {a} 0) (by simp [Holds])
  | intersection =>
    cases inner with
    | unionAll => exact absurd (hmem 0 0 {a}) (by simp [Holds])
    | union => exact absurd (hmem 0 0 {a}) (by simp [Holds])
    | difference => rfl
    | intersection => rfl

end CombineKind

/-! ## Reading a chain -/

/-- A part of a chain of SELECTs. -/
inductive SetPart (α : Type) where
  | select (a : α)
  | operator (kind : CombineKind)
  | opening
  | closing

/-- A chain of SELECTs as it is written. -/
abbrev SetText (α : Type) := List (SetPart α)

/-- The SQL text of a part. -/
def SetPart.sql {α : Type} (write : α → Sql) : SetPart α → Sql
  | .select a => write a
  | .operator kind => Sql.text " " ++ Sql.text (kind.keyword ++ " ")
  | .opening => Sql.text "("
  | .closing => Sql.text ")"

/-- The SQL text of a chain. -/
def SetText.sql {α : Type} (write : α → Sql) (text : SetText α) : Sql :=
  text.flatMap (SetPart.sql write)

/-- SELECTs with operators between them, without parentheses. -/
def SetText.chain {α : Type} (first : α) (rest : List (CombineKind × α)) : SetText α :=
  .select first :: rest.flatMap fun (kind, a) => [.operator kind, .select a]

/-- The ranks of the grammar of chains. -/
inductive SetRank where
  | operand
  | chain

section Reading

variable {α R : Type} [DecidableEq R] {rows : α → Multiset R}

/-- A text of a rank has some rows, where the SELECTs have the given ones. Operators bind alike and
are applied from left to right. -/
inductive Evaluates (rows : α → Multiset R) : SetRank → SetText α → Multiset R → Prop where
  | select (a : α) : Evaluates rows .operand [.select a] (rows a)
  | parens {text : SetText α} {m : Multiset R} (h : Evaluates rows .chain text m) :
      Evaluates rows .operand (.opening :: text ++ [.closing]) m
  | single {text : SetText α} {m : Multiset R} (h : Evaluates rows .operand text m) :
      Evaluates rows .chain text m
  | combined {a b : SetText α} {m n : Multiset R} (kind : CombineKind)
      (ha : Evaluates rows .chain a m) (hb : Evaluates rows .operand b n) :
      Evaluates rows .chain (a ++ .operator kind :: b) (kind.rows m n)

/-- A reader in the middle of a chain: the rows and the operator that wait for an operand, the rows
so far, and what waits outside each open parenthesis. -/
structure SetReader (R : Type) where
  waiting : Option (Multiset R × CombineKind) := none
  value : Multiset R := 0
  outer : List (Option (Multiset R × CombineKind)) := []

namespace SetReader

/-- Takes in the rows of an operand. -/
def take (r : SetReader R) (m : Multiset R) : SetReader R :=
  { r with value := match r.waiting with
      | none => m
      | some (left, kind) => kind.rows left m }

/-- Reads one part. -/
def step (rows : α → Multiset R) (r : SetReader R) : SetPart α → SetReader R
  | .select a => r.take (rows a)
  | .operator kind => { r with waiting := some (r.value, kind) }
  | .opening => { outer := r.waiting :: r.outer }
  | .closing =>
    match r.outer with
    | [] => r
    | waiting :: outer => take { waiting, outer } r.value

/-- Reads a text. -/
def read (rows : α → Multiset R) (r : SetReader R) (text : SetText α) : SetReader R :=
  text.foldl (step rows) r

theorem read_append (r : SetReader R) (a b : SetText α) :
    r.read rows (a ++ b) = (r.read rows a).read rows b := List.foldl_append

theorem read_cons (r : SetReader R) (part : SetPart α) (text : SetText α) :
    r.read rows (part :: text) = (r.step rows part).read rows text := rfl

theorem step_closing {r : SetReader R} {waiting : Option (Multiset R × CombineKind)}
    {outer : List (Option (Multiset R × CombineKind))} (h : r.outer = waiting :: outer) :
    r.step rows (.closing : SetPart α) = take { waiting, outer } r.value := by
  simp only [step, h]

/-- What a text of a rank does to a reader: an operand is taken in, and a chain is read from its
start. -/
def Reads (rows : α → Multiset R) (text : SetText α) (m : Multiset R) : SetRank → Prop
  | .operand => ∀ r : SetReader R, ∃ value,
      r.read rows text = { r with value } ∧ value = (r.take m).value
  | .chain => ∀ r : SetReader R, r.waiting = none →
      (r.read rows text).value = m ∧ (r.read rows text).outer = r.outer

end SetReader

theorem Evaluates.reads {rank : SetRank} {text : SetText α} {m : Multiset R}
    (h : Evaluates rows rank text m) : SetReader.Reads rows text m rank := by
  induction h with
  | select a =>
    intro r
    exact ⟨_, rfl, rfl⟩
  | @parens text m h ih =>
    intro r
    obtain ⟨hvalue, houter⟩ := ih { outer := r.waiting :: r.outer } rfl
    refine ⟨_, ?_, rfl⟩
    rw [List.cons_append, SetReader.read_cons, SetReader.read_append]
    show SetReader.step rows (SetReader.read rows { outer := r.waiting :: r.outer } text) .closing =
      _
    rw [SetReader.step_closing houter, hvalue]
    rfl
  | @single text m h ih =>
    intro r hwaiting
    obtain ⟨value, hread, hvalue⟩ := ih r
    rw [hread]
    refine ⟨?_, rfl⟩
    rw [hvalue, SetReader.take, hwaiting]
  | @combined a b m n kind ha hb iha ihb =>
    intro r hwaiting
    obtain ⟨hvalue, houter⟩ := iha r hwaiting
    obtain ⟨value, hread, hrows⟩ := ihb ((r.read rows a).step rows (.operator kind))
    rw [SetReader.read_append, SetReader.read_cons, hread]
    refine ⟨?_, houter⟩
    rw [hrows]
    exact congrArg (kind.rows · n) hvalue

/-- The grammar gives a chain no two values. -/
theorem Evaluates.unique {text : SetText α} {m n : Multiset R}
    (hm : Evaluates rows .chain text m) (hn : Evaluates rows .chain text n) : m = n := by
  have hm := (hm.reads {} rfl).1
  have hn := (hn.reads {} rfl).1
  exact hm.symm.trans hn

/-- The rows of a chain without parentheses, read from left to right. -/
def chainRows (rows : α → Multiset R) (own : Multiset R) (rest : List (CombineKind × α)) :
    Multiset R :=
  rest.foldl (fun m p => p.1.rows m (rows p.2)) own

theorem evaluates_chain (first : α) (rest : List (CombineKind × α)) :
    Evaluates rows .chain (SetText.chain first rest) (chainRows rows (rows first) rest) := by
  induction rest using List.reverseRecOn with
  | nil => exact .single (.select first)
  | append_singleton front last ih =>
    have hchain : SetText.chain first (front ++ [last]) =
        SetText.chain first front ++ .operator last.1 :: [.select last.2] := by
      simp [SetText.chain]
    have hrows : chainRows rows (rows first) (front ++ [last]) =
        last.1.rows (chainRows rows (rows first) front) (rows last.2) := by
      simp [chainRows]
    rw [hchain, hrows]
    exact .combined last.1 ih (.select last.2)

/-- A chain without parentheses has the rows that are read from left to right, and no others. -/
theorem evaluates_chain_iff {first : α} {rest : List (CombineKind × α)} {m : Multiset R} :
    Evaluates rows .chain (SetText.chain first rest) m ↔
      m = chainRows rows (rows first) rest := by
  constructor
  · intro h
    exact h.unique (evaluates_chain first rest)
  · rintro rfl
    exact evaluates_chain first rest

end Reading

/-! ## The meaning of nested set operations -/

namespace Branches

variable {α β R : Type} [DecidableEq R] {rows : α → Multiset R}

/-- The rows of a query with its set operations: it is combined with one branch after the other,
and each branch with those inside it before that. -/
def meaning (rows : α → Multiset R) : Branches α → Multiset R → Multiset R
  | nil, own => own
  | cons kind branch inside behind, own =>
    behind.meaning rows (kind.rows own (inside.meaning rows (rows branch)))

/-- The operators by which a query is combined itself. -/
def kinds : Branches α → List CombineKind
  | nil => []
  | cons kind _ _ behind => kind :: behind.kinds

/-- Every operator regroups with those by which its branch is combined. -/
def Regroups : Branches α → Prop
  | nil => True
  | cons kind _ inside behind =>
    (∀ inner ∈ inside.kinds, kind.regroups inner = true) ∧ inside.Regroups ∧ behind.Regroups

theorem kinds_map (f : α → β) (branches : Branches α) :
    (branches.map f).kinds = branches.kinds := by
  induction branches with
  | nil => rfl
  | cons kind branch inside behind _ hbehind => simp only [map, kinds, hbehind]

theorem regroups_map {f : α → β} {branches : Branches α} :
    (branches.map f).Regroups ↔ branches.Regroups := by
  induction branches with
  | nil => rfl
  | cons kind branch inside behind hinside hbehind =>
    simp only [map, Regroups, kinds_map, hinside, hbehind]

/-- An operator that regroups with all operators of its right operand may be applied first. -/
theorem rows_meaning {kind : CombineKind} {branches : Branches α}
    (h : ∀ inner ∈ branches.kinds, kind.regroups inner = true) (x y : Multiset R) :
    kind.rows x (branches.meaning rows y) = branches.meaning rows (kind.rows x y) := by
  induction branches generalizing y with
  | nil => rfl
  | cons inner branch inside behind _ hbehind =>
    have hinner : kind.regroups inner = true := h inner List.mem_cons_self
    have hrest : ∀ k ∈ behind.kinds, kind.regroups k = true := fun k hk =>
      h k (List.mem_cons_of_mem _ hk)
    rw [meaning, hbehind hrest, CombineKind.rows_rows_of_regroups hinner, meaning]

/-- Where operators regroup, branches may be read in the order of the text. -/
theorem chainRows_eq_meaning {branches : Branches α} (h : branches.Regroups)
    (own : Multiset R) : chainRows rows own branches.flat = branches.meaning rows own := by
  induction branches generalizing own with
  | nil => rfl
  | cons kind branch inside behind hinside hbehind =>
    obtain ⟨hkinds, hin, hbe⟩ := h
    calc chainRows rows own (cons kind branch inside behind).flat
        = chainRows rows (chainRows rows (kind.rows own (rows branch)) inside.flat)
            behind.flat := by simp [chainRows, flat]
      _ = behind.meaning rows (inside.meaning rows (kind.rows own (rows branch))) := by
          rw [hinside hin, hbehind hbe]
      _ = (cons kind branch inside behind).meaning rows own := by
          rw [meaning, rows_meaning hkinds]

end Branches

mutual
/-- Whether the operators in front of the branches of a query regroup with those inside. -/
def Query.regroups (query : Query) : Bool :=
  match query with
  | { combines, .. } => combinesRegroup combines
termination_by structural query

/-- Whether the operators of set operations regroup with those inside their branches. -/
def combinesRegroup (combines : List Combine) : Bool :=
  match combines with
  | [] => true
  | ⟨kind, query⟩ :: rest =>
    query.combines.all (fun inner => kind.regroups inner.kind) && query.regroups &&
      combinesRegroup rest
termination_by structural combines
end

theorem Query.regroups_eq (query : Query) : query.regroups = combinesRegroup query.combines := by
  obtain ⟨⟩ := query
  rfl

section

variable {c : Compiler} {parent : Entity} {fields : List String} {combines : List Combine}
  {branches : Branches Branch}

theorem Combined.kinds_eq (h : Combined c parent fields combines branches) :
    branches.kinds = combines.map (·.kind) := by
  induction h with
  | nil => rfl
  | cons _ _ _ _ _ _ hbehind => simp only [Branches.kinds, List.map_cons, hbehind]

theorem Combined.regroups (h : Combined c parent fields combines branches)
    (hcombines : combinesRegroup combines = true) : branches.Regroups := by
  induction h with
  | nil => trivial
  | @cons parent target fields kind query rest _ _ _ _ _ inside behind _ _ _ hin _
      hinside hbehind =>
    simp only [combinesRegroup, Query.regroups_eq, Bool.and_eq_true, List.all_eq_true] at hcombines
    obtain ⟨⟨hkinds, hquery⟩, hrest⟩ := hcombines
    refine ⟨?_, hinside hquery, hbehind hrest⟩
    rw [hin.kinds_eq]
    intro inner hinner
    obtain ⟨combine, hcombine, rfl⟩ := List.mem_map.mp hinner
    exact hkinds combine hcombine

end

/-! ## The chain of a SELECT -/

/-- The text of a SELECT behind its set operator. -/
def CombinedSelect.select (s : CombinedSelect) : Sql :=
  plainSelect s.items s.table s.tableAlias s.join s.condition

/-- The innermost SELECT without its set operations. -/
def SelectCore.first (core : SelectCore) : SelectCore := { core with combine := [] }

theorem SelectCore.sql_eq (core : SelectCore) :
    core.sql = core.first.sql ++ Sql.clause " " core.combine := by
  have hsearch : core.first.search = core.search := rfl
  have hnone : Sql.clause " " core.first.combine = [] := rfl
  rw [SelectCore.sql, SelectCore.sql, hsearch, hnone, List.append_nil]
  rfl

theorem CombinedSelect.sql_ne_nil (s : CombinedSelect) : s.sql ≠ [] := by
  cases hkind : s.kind <;>
    simp [CombinedSelect.sql, hkind, CombineKind.keyword, Sql.text]

theorem CombinedSelect.list_cons (first : CombinedSelect) (rest : List CombinedSelect) :
    CombinedSelect.list (first :: rest) =
      first.sql ++ rest.flatMap fun s => Sql.text " " ++ s.sql := by
  induction rest generalizing first with
  | nil => simp [CombinedSelect.list, Sql.separated]
  | cons second rest ih =>
    have hcons : CombinedSelect.list (first :: second :: rest) =
        first.sql ++ Sql.text " " ++ CombinedSelect.list (second :: rest) := rfl
    rw [hcons, ih, List.flatMap_cons, List.append_assoc, List.append_assoc]

theorem CombinedSelect.list_ne_nil {combined : List CombinedSelect} (h : combined ≠ []) :
    CombinedSelect.list combined ≠ [] := by
  obtain ⟨first, rest, rfl⟩ := List.exists_cons_of_ne_nil h
  rw [CombinedSelect.list_cons]
  exact List.append_ne_nil_of_left_ne_nil first.sql_ne_nil _

/-- The clause of set operations has a blank in front of each of them. -/
theorem CombinedSelect.clause_list (combined : List CombinedSelect) :
    Sql.clause " " (CombinedSelect.list combined) =
      combined.flatMap fun s => Sql.text " " ++ s.sql := by
  cases combined with
  | nil => rfl
  | cons first rest =>
    have hne : (CombinedSelect.list (first :: rest)).isEmpty = false :=
      List.isEmpty_eq_false_iff.mpr (CombinedSelect.list_ne_nil (List.cons_ne_nil _ _))
    rw [Sql.clause, hne, if_neg Bool.false_ne_true, CombinedSelect.list_cons, List.flatMap_cons,
      List.append_assoc]

variable {R : Type}

/-- The chain of a SELECT and its branches, each with its text and the rows it is given. -/
def SelectCore.chain (core : SelectCore) (own : Multiset R)
    (branches : Branches (Branch × Multiset R)) : SetText (Sql × Multiset R) :=
  SetText.chain (core.first.sql, own)
    (branches.flat.map fun (kind, branch, rows) => (kind, branch.select.select, rows))

theorem Combined.kind_eq {c : Compiler} {parent : Entity} {fields : List String}
    {combines : List Combine} {branches : Branches Branch}
    (h : Combined c parent fields combines branches) :
    ∀ p ∈ branches.flat, p.1 = p.2.select.kind := by
  induction h with
  | nil => exact fun p hp => absurd hp List.not_mem_nil
  | cons _ _ _ _ _ hinside hbehind =>
    intro p hp
    rcases List.mem_cons.mp hp with rfl | hp
    · rfl
    · rcases List.mem_append.mp hp with hp | hp
      · exact hinside p hp
      · exact hbehind p hp

/-- What is written for a SELECT with set operations is its chain. -/
theorem SelectCore.sql_chain {core : SelectCore} {own : Multiset R}
    {branches : Branches (Branch × Multiset R)}
    (hkinds : ∀ p ∈ (branches.map Prod.fst).flat, p.1 = p.2.select.kind)
    (hcombine : core.combine = CombinedSelect.list (branches.map Prod.fst).selects) :
    (core.chain own branches).sql Prod.fst = core.sql := by
  have hflat : (branches.map Prod.fst).selects = branches.flat.map (·.2.1.select) := by
    simp [Branches.selects, Branches.flat_map, Function.comp_def]
  have hkind : ∀ p ∈ branches.flat, p.1 = p.2.1.select.kind := by
    intro p hp
    apply hkinds (p.1, p.2.1)
    rw [Branches.flat_map]
    exact List.mem_map_of_mem hp
  rw [SelectCore.sql_eq, hcombine, CombinedSelect.clause_list, hflat, SelectCore.chain,
    SetText.chain, SetText.sql, List.flatMap_cons, List.flatMap_map, List.flatMap_map]
  congr 1
  rw [List.flatMap_assoc]
  apply List.flatMap_congr
  intro p hp
  simp [SetPart.sql, hkind p hp, CombinedSelect.sql, CombinedSelect.select]

theorem SelectCore.evaluates_chain_iff [DecidableEq R] (core : SelectCore) {own m : Multiset R}
    {branches : Branches (Branch × Multiset R)} :
    Evaluates Prod.snd .chain (core.chain own branches) m ↔
      m = chainRows Prod.snd own branches.flat := by
  have hrows : chainRows Prod.snd own
      (branches.flat.map fun (kind, branch, rows) => (kind, branch.select.select, rows)) =
        chainRows Prod.snd own branches.flat := by
    rw [chainRows, List.foldl_map, chainRows]
  rw [SelectCore.chain, QueryLoom.evaluates_chain_iff, hrows]

/-- The set operations of every query are written as the chain of its branches, after whatever
SELECT they are put, and read from left to right. The rows are those that the query means where the
operators in front of its branches regroup with those inside; two operators that do not regroup
differ on some rows. -/
theorem setOperations_read_leftToRight {c : Compiler} {query : Query} {fields : List String}
    {tableAlias : String} {sorted : Bool} {s t : Scope} {clauses : Clauses}
    (h : Yields (query.clauses c fields tableAlias sorted) s clauses t) :
    (∃ entity branches, c.schema.entity query.entity = .ok entity ∧
      Combined c entity fields query.combines branches ∧
      ∀ core : SelectCore, core.combine = CombinedSelect.list clauses.combine →
        ∀ {R : Type} [DecidableEq R] (own : Multiset R)
          (assigned : Branches (Branch × Multiset R)), assigned.map Prod.fst = branches →
          (core.chain own assigned).sql Prod.fst = core.sql ∧
          (∀ m, Evaluates Prod.snd .chain (core.chain own assigned) m ↔
            m = chainRows Prod.snd own assigned.flat) ∧
          (query.regroups = true →
            chainRows Prod.snd own assigned.flat = assigned.meaning Prod.snd own)) ∧
    ∀ outer inner : CombineKind, outer.regroups inner = true ↔
      ∀ {R : Type} [DecidableEq R] (x y z : Multiset R),
        outer.rows x (inner.rows y z) = inner.rows (outer.rows x y) z := by
  constructor
  · obtain ⟨entity, branches, hentity, hcombined, hselects⟩ := Query.clauses_combined query h
    refine ⟨entity, branches, hentity, hcombined, ?_⟩
    rintro core hcore R _ own assigned rfl
    refine ⟨core.sql_chain hcombined.kind_eq (hcore.trans (congrArg _ hselects)), ?_, ?_⟩
    · intro m
      exact core.evaluates_chain_iff
    · intro hregroups
      rw [Query.regroups_eq] at hregroups
      exact Branches.chainRows_eq_meaning
        (Branches.regroups_map.mp (hcombined.regroups hregroups)) own
  · intro outer inner
    constructor
    · intro hregroups R _
      exact CombineKind.rows_rows_of_regroups hregroups
    · intro hall
      exact (CombineKind.regroups_iff (R := Unit)).mpr hall

/-- An entity of members. -/
def memberEntity : Entity where
  name := "Member"
  table := "MEMBER"
  fields := [{ property := "Id", column := "Id" }, { property := "Name", column := "Name" }]

/-- A schema of members. -/
def memberCompiler : Compiler where
  schema := ⟨[memberEntity]⟩

/-- The members by some properties, with set operations. -/
def memberQuery (fields : List String) (combines : List Combine) : Query :=
  { entity := "Member", fields, combines }

/-- An intersection with a difference, and a union with a union, have the rows that they mean. -/
theorem nestedIntersection_meaning :
    let query := memberQuery ["Id"] [
      ⟨.intersection, memberQuery ["Id"] [⟨.difference, memberQuery ["Id"] []⟩]⟩,
      ⟨.union, memberQuery ["Id"] [⟨.union, memberQuery ["Id"] []⟩]⟩]
    ∃ clauses t branches,
      Yields (query.clauses memberCompiler ["Id"] rootAlias true) {} clauses t ∧
      clauses.combine.length = 4 ∧ query.regroups = true ∧
      ∀ core : SelectCore, core.combine = CombinedSelect.list clauses.combine →
        ∀ (own m : Multiset Nat) (assigned : Branches (Branch × Multiset Nat)),
          assigned.map Prod.fst = branches →
          (Evaluates Prod.snd .chain (core.chain own assigned) m ↔
            m = assigned.meaning Prod.snd own) := by
  intro query
  obtain ⟨clauses, t, h⟩ := exists_yields_of_isSome
    (m := query.clauses memberCompiler ["Id"] rootAlias true) (s := {}) (by decide +kernel)
  have hlength : ((query.clauses memberCompiler ["Id"] rootAlias true).run.run {}).1.toOption.map
      (·.combine.length) = some 4 := by
    decide +kernel
  rw [h] at hlength
  have hregroups : query.regroups = true := by decide
  obtain ⟨entity, branches, -, -, hall⟩ := (setOperations_read_leftToRight h).1
  refine ⟨clauses, t, branches, h, Option.some.inj hlength, hregroups, ?_⟩
  intro core hcore own m assigned hassigned
  obtain ⟨-, hread, hmeaning⟩ := hall core hcore own assigned hassigned
  rw [hread, hmeaning hregroups]

/-- A difference with a union of two branches takes away the first of them only, and the second one
is added: of one row on all sides it answers that row, where it means none. -/
theorem differenceOfUnion_not_meaning :
    let query := memberQuery ["Id"] [
      ⟨.difference, memberQuery ["Id"] [⟨.unionAll, memberQuery ["Id"] []⟩]⟩]
    ∃ statement, memberCompiler.query query = .ok statement ∧
      statement.script.render = "SELECT TB.\"ID\" FROM \"MEMBER\" TB MINUS " ++
        "SELECT TSB0.\"ID\" FROM \"MEMBER\" TSB0 UNION ALL " ++
        "SELECT TSB1.\"ID\" FROM \"MEMBER\" TSB1" ∧
      ∃ (entity : Entity) (core : SelectCore) (assigned : Branches (Branch × Multiset Nat)),
        Combined memberCompiler entity ["Id"] query.combines (assigned.map Prod.fst) ∧
        (core.chain {1} assigned).sql Prod.fst = statement.script ∧
        Evaluates Prod.snd .chain (core.chain {1} assigned) {1} ∧
        assigned.meaning Prod.snd {1} = 0 ∧
        ¬ Evaluates Prod.snd .chain (core.chain {1} assigned) (assigned.meaning Prod.snd {1}) := by
  intro query
  obtain ⟨statement, hstatement⟩ := exists_ok_of_isSome (x := memberCompiler.query query)
    (by decide +kernel)
  obtain ⟨clauses, t, h⟩ := exists_yields_of_isSome
    (m := query.clauses memberCompiler ["Id"] rootAlias true) (s := {}) (by decide +kernel)
  obtain ⟨entity, branches, -, hcombined, hselects⟩ := Query.clauses_combined query h
  let core (combine : List CombinedSelect) : SelectCore := {
    distinct := false, items := [⟨Sql.column "TB" "\"ID\"", none⟩], table := "\"MEMBER\""
    tableAlias := "TB", join := [], condition := [], compound := false, cap := none, group := []
    combine := CombinedSelect.list combine }
  have hscript : (memberCompiler.query query).toOption.map (·.script) =
      ((query.clauses memberCompiler ["Id"] rootAlias true).run.run {}).1.toOption.map
        fun clauses => (core clauses.combine).sql := by
    decide +kernel
  have htext : (memberCompiler.query query).toOption.map (·.script.render) =
      some ("SELECT TB.\"ID\" FROM \"MEMBER\" TB MINUS " ++
        "SELECT TSB0.\"ID\" FROM \"MEMBER\" TSB0 UNION ALL " ++
        "SELECT TSB1.\"ID\" FROM \"MEMBER\" TSB1") := by
    decide +kernel
  rw [hstatement, h] at hscript
  rw [hstatement] at htext
  refine ⟨statement, hstatement, Option.some.inj htext, entity, core clauses.combine, ?_⟩
  -- the query has one branch, and that one another inside it
  have hassigned : ∃ assigned : Branches (Branch × Multiset Nat), assigned.map Prod.fst = branches ∧
      ∃ first second, assigned =
        .cons .difference (first, {1}) (.cons .unionAll (second, {1}) .nil .nil) .nil := by
    cases hcombined with
    | cons _ _ _ hinside hbehind =>
      cases hbehind
      cases hinside with
      | cons _ _ _ hinside hbehind =>
        cases hbehind
        cases hinside
        exact ⟨_, rfl, _, _, rfl⟩
  obtain ⟨assigned, rfl, first, second, rfl⟩ := hassigned
  refine ⟨_, hcombined, ?_, ?_, by simp [Branches.meaning, CombineKind.rows], ?_⟩
  · rw [SelectCore.sql_chain hcombined.kind_eq (congrArg CombinedSelect.list hselects)]
    exact (Option.some.inj hscript).symm
  · rw [SelectCore.evaluates_chain_iff]
    simp [Branches.flat, chainRows, CombineKind.rows, Multiset.filter_singleton]
  · rw [SelectCore.evaluates_chain_iff]
    simp [Branches.meaning, Branches.flat, chainRows, CombineKind.rows, Multiset.filter_singleton]

end QueryLoom
