import QueryLoom.Proofs.Compilation

/-!
# Branches of set operations

The SELECTs that the set operations of a query compile to, in the nesting of the query: what a
branch combines with itself stands inside it. The clauses of the query hold them in one list, in
which a branch stands in front of those inside it.

## Implementation notes

`Branches` keeps for each branch those inside it and those behind it, as the compilation works
through them. `Combined` ties a branch to its place in the query: the entity and the clauses are
those of the combined query, the projection is asked for by the query around it.
-/

namespace QueryLoom

/-- The branches of set operations: a branch with its operator, those inside it, and those
behind. -/
inductive Branches (α : Type) where
  | nil
  | cons (kind : CombineKind) (branch : α) (inside behind : Branches α)
deriving DecidableEq

namespace Branches

variable {α β : Type}

/-- The branches without their nesting, in the order of the text. -/
def flat : Branches α → List (CombineKind × α)
  | nil => []
  | cons kind branch inside behind => (kind, branch) :: (inside.flat ++ behind.flat)

/-- The branches with something else in the place of each. -/
def map (f : α → β) : Branches α → Branches β
  | nil => nil
  | cons kind branch inside behind => cons kind (f branch) (inside.map f) (behind.map f)

theorem flat_map (f : α → β) (branches : Branches α) :
    (branches.map f).flat = branches.flat.map fun (kind, branch) => (kind, f branch) := by
  induction branches with
  | nil => rfl
  | cons kind branch inside behind hinside hbehind =>
    simp only [map, flat, hinside, hbehind, List.map_cons, List.map_append]

theorem cons_ne_nil {kind : CombineKind} {branch : α} {inside behind : Branches α} :
    cons kind branch inside behind ≠ nil := fun h => by cases h

end Branches

/-- A combined query, its entity, and the SELECT that it compiles to. -/
structure Branch where
  query : Query
  entity : Entity
  select : CombinedSelect

/-- The SELECTs of some branches, in the order of the text. -/
def Branches.selects (branches : Branches Branch) : List CombinedSelect :=
  branches.flat.map (·.2.select)

/-- Set operations compile to some branches: each SELECT has the clauses of its own query, and
projects the fields of the query that it is combined with. -/
inductive Combined (c : Compiler) : Entity → List String → List Combine → Branches Branch → Prop
  | nil {parent : Entity} {fields : List String} : Combined c parent fields [] .nil
  | cons {parent target : Entity} {fields : List String} {kind : CombineKind} {query : Query}
      {rest : List Combine} {tableAlias : String} {s t : Scope} {sub : Clauses}
      {items : List SelectItem} {inside behind : Branches Branch}
      (hentity : c.schema.entity query.entity = .ok target)
      (hclauses : Yields (query.clauses c query.fields tableAlias false) s sub t)
      (hitems : c.combinedItems parent target fields tableAlias = .ok items)
      (hinside : Combined c target query.fields query.combines inside)
      (hbehind : Combined c parent fields rest behind) :
      Combined c parent fields (⟨kind, query⟩ :: rest)
        (.cons kind ⟨query, target, kind, items, c.table target, tableAlias, sub.usableJoin,
          sub.condition⟩ inside behind)

section

variable {c : Compiler} {s t : Scope}

/-- A traversal leaves the set operations of its query alone. -/
theorem traversal_combine {entity : Entity} {tableAlias innerAlias : String}
    {before clauses : Clauses} {recursion : Option Recursion}
    (h : traversal c entity tableAlias innerAlias before recursion = .ok clauses) :
    clauses.combine = before.combine := by
  rcases traversal_eq_ok h with ⟨-, rfl⟩ | ⟨spec, key, relation, -, -, -, rfl⟩ <;> rfl

end

mutual
/-- The clauses of a query hold the branches of its set operations. -/
theorem Query.clauses_combined {c : Compiler} (query : Query) {fields : List String}
    {tableAlias : String} {sorted : Bool} {s t : Scope} {clauses : Clauses}
    (h : Yields (query.clauses c fields tableAlias sorted) s clauses t) :
    ∃ entity branches, c.schema.entity query.entity = .ok entity ∧
      Combined c entity fields query.combines branches ∧
      clauses.combine = branches.selects := by
  obtain ⟨entity, innerAlias, r₁, condition, r₂, sort, r₃, combine, trace, r₄, join, joining,
    hentity, -, -, -, hcombine, -, htraversal⟩ := Query.clauses_yields h
  obtain ⟨name, conditions, sorts, joins, combines, recursion, rest⟩ := query
  obtain ⟨branches, hbranches, hselects⟩ := combinedSelects_combined combines hcombine
  refine ⟨entity, branches, hentity, hbranches, ?_⟩
  rw [traversal_combine htraversal]
  exact hselects
termination_by structural query

theorem combinedSelects_combined {c : Compiler} (combines : List Combine) {entity : Entity}
    {fields : List String} {combine : List CombinedSelect} {trace : Trace} {s t : Scope}
    (h : Yields (combinedSelects c entity fields combines) s (combine, trace) t) :
    ∃ branches, Combined c entity fields combines branches ∧ combine = branches.selects := by
  cases combines with
  | nil =>
    obtain ⟨rfl, -, -⟩ := combinedSelects_nil_yields.mp h
    exact ⟨.nil, .nil, rfl⟩
  | cons first rest =>
    obtain ⟨nestedAlias, r₁, target, sub, r₂, items, others, restTrace, -, htarget, hsub, hitems,
      hrest, rfl, -⟩ := combinedSelects_cons_yields h
    obtain ⟨kind, query⟩ := first
    obtain ⟨target', inside, htarget', hinside, hsubCombine⟩ := Query.clauses_combined query hsub
    obtain rfl : target' = target := Except.ok.inj (htarget'.symm.trans htarget)
    obtain ⟨behind, hbehind, rfl⟩ := combinedSelects_combined rest hrest
    refine ⟨_, .cons htarget hsub hitems hinside hbehind, ?_⟩
    rw [hsubCombine]
    simp [Branches.selects, Branches.flat]
termination_by structural combines
end

end QueryLoom
