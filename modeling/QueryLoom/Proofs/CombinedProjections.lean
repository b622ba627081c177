import QueryLoom.Proofs.Occurrences
import QueryLoom.Proofs.SetOperationChains
import QueryLoom.Proofs.StatementRuns

/-!
# Projections of set operations

Each branch of a set operation projects the fields of the query that it is combined with, found in
its own entity. The branches next to the first SELECT project what that one does; those inside a
branch project the fields of that branch. All branches of a chain have as many columns as its first
SELECT exactly if every branch with others inside it has a list of fields of that length.

## Implementation notes

A chain occurs in a statement that reads in every shape of its output, in a comparison with a nested
query and in a join. Its first SELECT may write a field as its column or in its output form, with a
label or without.
-/

namespace QueryLoom

variable {c : Compiler} {s t : Scope}

/-! ## Projected fields -/

/-- The properties that a query projects: all of its entity if it names none. -/
def projectedProperties (entity : Entity) (fields : List String) : List String :=
  if fields.isEmpty then entity.fields.map (·.property) else fields

theorem Entity.field_eq_ok {entity : Entity} {property : String} {field : Field}
    (h : entity.field property = .ok field) :
    field.property = property ∧ field ∈ entity.fields := by
  unfold Entity.field at h
  split at h
  · rename_i found hfind
    cases h
    exact ⟨by simpa using List.find?_some hfind, List.mem_of_find?_eq_some hfind⟩
  · cases h

theorem Entity.mapM_field_eq_ok {entity : Entity} {properties : List String} {fields : List Field}
    (h : properties.mapM entity.field = .ok fields) :
    fields.map (·.property) = properties ∧ ∀ field ∈ fields, field ∈ entity.fields := by
  induction properties generalizing fields with
  | nil =>
    cases h
    exact ⟨rfl, by simp⟩
  | cons property rest ih =>
    simp only [List.mapM_cons, except_bind_eq_ok] at h
    obtain ⟨field, hfield, others, hothers, h⟩ := h
    cases h
    obtain ⟨hproperty, hmem⟩ := Entity.field_eq_ok hfield
    obtain ⟨hproperties, hall⟩ := ih hothers
    refine ⟨by rw [List.map_cons, hproperty, hproperties], ?_⟩
    intro f hf
    rcases List.mem_cons.mp hf with rfl | hf
    · exact hmem
    · exact hall f hf

/-- The fields of a query are those of its properties. -/
theorem Entity.queryFields_eq_ok {entity : Entity} {properties : List String}
    {fields : List Field} (h : entity.queryFields properties = .ok fields) :
    fields.map (·.property) = projectedProperties entity properties ∧
      ∀ field ∈ fields, field ∈ entity.fields := by
  unfold Entity.queryFields at h
  unfold projectedProperties
  split at h
  · rename_i hempty
    cases h
    rw [if_pos hempty]
    exact ⟨rfl, fun _ hfield => hfield⟩
  · rename_i hempty
    rw [if_neg hempty]
    exact Entity.mapM_field_eq_ok h

/-! ## What each branch projects -/

/-- Each branch with the properties that it is asked for: those of the query that it is combined
with. -/
def Branches.asked (properties : List String) : Branches Branch → List (List String × Branch)
  | nil => []
  | cons _ branch inside behind =>
    (properties, branch) ::
      (inside.asked (projectedProperties branch.entity branch.query.fields) ++
        behind.asked properties)

/-- Every branch is asked for some properties. -/
theorem Branches.asked_map_snd (properties : List String) (branches : Branches Branch) :
    (branches.asked properties).map Prod.snd = branches.flat.map Prod.snd := by
  induction branches generalizing properties with
  | nil => rfl
  | cons kind branch inside behind hinside hbehind =>
    simp only [asked, flat, List.map_cons, List.map_append, hinside, hbehind]

/-- A branch projects some properties, found in its own entity. -/
def Branch.Projects (c : Compiler) (properties : List String) (branch : Branch) : Prop :=
  ∃ fields, properties.mapM branch.entity.field = .ok fields ∧
    branch.select.items = fields.map (c.conventions.item branch.select.tableAlias false)

theorem Branch.Projects.length_items {properties : List String} {branch : Branch}
    (h : branch.Projects c properties) : branch.select.items.length = properties.length := by
  obtain ⟨fields, hfields, hitems⟩ := h
  rw [hitems, List.length_map, ← (Entity.mapM_field_eq_ok hfields).1, List.length_map]

/-- Every branch projects what it is asked for. -/
theorem Combined.projects {parent : Entity} {fields : List String} {combines : List Combine}
    {branches : Branches Branch} (h : Combined c parent fields combines branches) :
    ∀ p ∈ branches.asked (projectedProperties parent fields), p.2.Projects c p.1 := by
  induction h with
  | nil => exact fun p hp => absurd hp List.not_mem_nil
  | cons _ _ hitems _ _ hinside hbehind =>
    intro p hp
    rcases List.mem_cons.mp hp with rfl | hp
    · simp only [Compiler.combinedItems, except_bind_eq_ok] at hitems
      obtain ⟨projected, hprojected, hitems⟩ := hitems
      cases hitems
      exact ⟨projected, hprojected, rfl⟩
    · rcases List.mem_append.mp hp with hp | hp
      · exact hinside p hp
      · exact hbehind p hp

/-! ## Chains -/

/-- An item shows a field: as its column, or as a projected field. -/
def ShowsField (c : Compiler) (tableAlias : String) (item : SelectItem) (field : Field) : Prop :=
  item = ⟨c.conventions.column tableAlias field, none⟩ ∨
    ∃ labelled, item = c.conventions.item tableAlias labelled field

theorem showsField_items (c : Compiler) (tableAlias : String) (labelled : Bool)
    (fields : List Field) :
    List.Forall₂ (ShowsField c tableAlias) (fields.map (c.conventions.item tableAlias labelled))
      fields :=
  List.forall₂_map_left_iff.mpr (List.forall₂_same.mpr fun _ _ => .inr ⟨labelled, rfl⟩)

/-- A SELECT with its set operations is a chain over an entity for some fields: its branches are
those of the set operations, and it projects the fields itself. -/
structure Chain (c : Compiler) (entity : Entity) (fields : List String) (combines : List Combine)
    (core : SelectCore) (branches : Branches Branch) : Prop where
  combined : Combined c entity fields combines branches
  text : core.combine = CombinedSelect.list branches.selects
  first : ∃ columns : List Field, columns.map (·.property) = projectedProperties entity fields ∧
    (∀ field ∈ columns, field ∈ entity.fields) ∧
    List.Forall₂ (ShowsField c core.tableAlias) core.items columns

namespace Chain

variable {entity : Entity} {fields : List String} {combines : List Combine} {core : SelectCore}
  {branches : Branches Branch}

theorem length_items (h : Chain c entity fields combines core branches) :
    core.items.length = (projectedProperties entity fields).length := by
  obtain ⟨columns, hcolumns, -, hshows⟩ := h.first
  rw [hshows.length_eq, ← hcolumns, List.length_map]

/-- The branches have the columns of the first SELECT exactly if the lists of fields that they are
asked for are as long. -/
theorem width_iff (h : Chain c entity fields combines core branches) :
    (∀ p ∈ branches.flat, p.2.select.items.length = core.items.length) ↔
      ∀ p ∈ branches.asked (projectedProperties entity fields), p.1.length = core.items.length := by
  have hprojects := h.combined.projects
  have hbranch (branch : Branch) : (∃ p ∈ branches.flat, p.2 = branch) ↔
      ∃ p ∈ branches.asked (projectedProperties entity fields), p.2 = branch := by
    rw [← List.mem_map, ← List.mem_map, Branches.asked_map_snd]
  constructor
  · intro hall p hp
    obtain ⟨q, hq, hbranchEq⟩ := (hbranch p.2).mpr ⟨p, hp, rfl⟩
    rw [← (hprojects p hp).length_items, ← hbranchEq]
    exact hall q hq
  · intro hall q hq
    obtain ⟨p, hp, hbranchEq⟩ := (hbranch q.2).mp ⟨q, hq, rfl⟩
    rw [← hbranchEq, (hprojects p hp).length_items]
    exact hall p hp

/-- Where all branches are asked for the fields of the first SELECT, they project them. -/
theorem project_first (h : Chain c entity fields combines core branches)
    (hasked : ∀ p ∈ branches.asked (projectedProperties entity fields),
      p.1 = projectedProperties entity fields) :
    ∀ p ∈ branches.flat, p.2.Projects c (projectedProperties entity fields) := by
  intro q hq
  have hmem : q.2 ∈ (branches.asked (projectedProperties entity fields)).map Prod.snd := by
    rw [Branches.asked_map_snd]
    exact List.mem_map_of_mem hq
  obtain ⟨p, hp, hbranch⟩ := List.mem_map.mp hmem
  rw [← hbranch, ← hasked p hp]
  exact h.combined.projects p hp

end Chain

/-! ## Where chains occur -/

/-- The innermost SELECT of a selection, with its set operations, occurs in a text. -/
def Selection.Occurs (s : Selection) (sql : Sql) : Prop :=
  ∃ core : SelectCore, core.sql <:+: sql ∧ core.combine = s.combine ∧
    core.tableAlias = s.tableAlias ∧ (core.items = s.inner ∨ core.items = s.outer)

namespace Selection

variable {s : Selection} {sql sql' : Sql}

theorem Occurs.mono (h : s.Occurs sql) (hsql : sql <:+: sql') : s.Occurs sql' := by
  obtain ⟨core, hcore, hrest⟩ := h
  exact ⟨core, hcore.trans hsql, hrest⟩

theorem occurs_unordered (s : Selection) {items : List SelectItem}
    (hitems : items = s.inner ∨ items = s.outer) : s.Occurs (s.unordered items).sql :=
  ⟨_, List.infix_rfl, rfl, rfl, hitems⟩

/-- However a selection with set operations is ordered and capped, its innermost SELECT is whole. -/
theorem occurs_limited (h : s.isCombined = true) (cap : Option Nat) :
    s.Occurs (s.limited cap).sql := by
  have hinner := s.occurs_unordered (.inl rfl)
  have houter := s.occurs_unordered (.inr rfl)
  cases cap with
  | none =>
    rw [limited]
    split
    · exact hinner.mono ((Layers.infix_derived _ _ _ _).trans (Layers.infix_ordered _ _))
    · exact houter.mono (Layers.infix_orderedBy _ _)
  | some limit =>
    simp only [limited, h]
    split
    · exact hinner.mono (Layers.infix_derived _ _ _ _)
    · exact hinner.mono (((Layers.infix_derived _ _ _ _).trans (Layers.infix_ordered _ _)).trans
        (Layers.infix_derived _ _ _ _))

end Selection

theorem Branches.selects_ne_nil {branches : Branches Branch} (h : branches ≠ .nil) :
    branches.selects ≠ [] := by
  cases branches with
  | nil => exact absurd rfl h
  | cons => exact List.cons_ne_nil _ _

theorem Combined.branches_ne_nil {parent : Entity} {fields : List String}
    {combines : List Combine} {branches : Branches Branch}
    (h : Combined c parent fields combines branches) (hcombines : combines ≠ []) :
    branches ≠ .nil := by
  cases h with
  | nil => exact absurd rfl hcombines
  | cons => exact Branches.cons_ne_nil

/-- A query with set operations has clauses with the branches of those. -/
theorem Query.clauses_branches {query : Query} {fields : List String} {tableAlias : String}
    {sorted : Bool} {clauses : Clauses} {entity : Entity}
    (h : Yields (query.clauses c fields tableAlias sorted) s clauses t)
    (hentity : c.schema.entity query.entity = .ok entity) (hcombines : query.combines ≠ []) :
    clauses.combine ≠ [] ∧ ∃ branches, Combined c entity fields query.combines branches ∧
      clauses.combine = branches.selects := by
  obtain ⟨entity', branches, hentity', hcombined, hcombine⟩ := Query.clauses_combined query h
  obtain rfl : entity' = entity := Except.ok.inj (hentity'.symm.trans hentity)
  refine ⟨?_, branches, hcombined, hcombine⟩
  rw [hcombine]
  exact Branches.selects_ne_nil (hcombined.branches_ne_nil hcombines)

theorem Selection.isCombined_of_combine {selection : Selection} {combine : List CombinedSelect}
    (h : selection.combine = CombinedSelect.list combine) (hcombine : combine ≠ []) :
    selection.isCombined = true := by
  rw [isCombined, h, List.isEmpty_eq_false_iff.mpr (CombinedSelect.list_ne_nil hcombine)]
  rfl

/-- The fields that the first SELECT of a statement shows. A test for existence shows keys. -/
def existenceFields (entity : Entity) : List Field :=
  match entity.primaryKeys with
  | [] => entity.defaultField?.toList
  | keys => keys

theorem mem_of_existenceFields {entity : Entity} :
    ∀ field ∈ existenceFields entity, field ∈ entity.fields := by
  intro field hfield
  unfold existenceFields at hfield
  split at hfield
  · rename_i hnone
    rw [Entity.defaultField?, hnone, List.head?_nil, Option.none_or, Option.mem_toList] at hfield
    exact List.mem_of_head? hfield
  · exact List.mem_of_mem_filter hfield

/-- The fields that the branches next to the first SELECT of a statement are asked for. -/
def Query.chainFields (entity : Entity) (query : Query) : List String :=
  match query.output with
  | .existence => (existenceFields entity).map (·.property)
  | _ => query.fields

/-- A text holds a SELECT with its set operations, whole. -/
def WritesChain (c : Compiler) (entity : Entity) (fields : List String) (combines : List Combine)
    (sql : Sql) : Prop :=
  ∃ core branches, core.sql <:+: sql ∧ Chain c entity fields combines core branches

theorem WritesChain.mono {entity : Entity} {fields : List String} {combines : List Combine}
    {sql sql' : Sql} (h : WritesChain c entity fields combines sql) (hsql : sql <:+: sql') :
    WritesChain c entity fields combines sql' := by
  obtain ⟨core, branches, hcore, hchain⟩ := h
  exact ⟨core, branches, hcore.trans hsql, hchain⟩

section Statements

variable {entity : Entity} {query : Query} {sql : Sql} {flag : Bool}

/-- The selection of a query with set operations is a chain, wherever it occurs. -/
theorem selection_writesChain {properties : List String} {fields : List Field} {sorted : Bool}
    {clauses : Clauses} {selection : Selection}
    (h : Yields (c.selection entity query properties fields sorted) s (clauses, selection) t)
    (hentity : c.schema.entity query.entity = .ok entity) (hcombines : query.combines ≠ [])
    (hproperties : fields.map (·.property) = projectedProperties entity properties)
    (hfields : ∀ field ∈ fields, field ∈ entity.fields) :
    selection.isCombined = true ∧ ∀ sql, selection.Occurs sql →
      WritesChain c entity properties query.combines sql := by
  unfold Compiler.selection at h
  simp only [yields_bind, yields_pure, Prod.mk.injEq] at h
  obtain ⟨clauses, _, hclauses, group, _, -, ⟨rfl, rfl⟩, rfl⟩ := h
  obtain ⟨hne, branches, hcombined, hcombine⟩ :=
    Query.clauses_branches hclauses hentity hcombines
  constructor
  · exact Selection.isCombined_of_combine rfl hne
  · rintro sql ⟨core, hcore, htext, halias, hitems⟩
    refine ⟨core, branches, hcore, hcombined, htext.trans (congrArg CombinedSelect.list hcombine),
      fields, hproperties, hfields, ?_⟩
    rw [halias]
    rcases hitems with hitems | hitems <;> rw [hitems]
    · exact showsField_items c _ false fields
    · exact showsField_items c _ true fields

variable (hentity : c.schema.entity query.entity = .ok entity) (hcombines : query.combines ≠ [])
include hentity hcombines

theorem rows_writesChain (h : Yields (c.rows entity query) s (sql, flag) t) :
    WritesChain c entity query.fields query.combines sql := by
  unfold Compiler.rows at h
  simp only [yields_bind, yields_liftM, yields_pure, Prod.mk.injEq] at h
  obtain ⟨fields, _, ⟨hfields, rfl⟩, ⟨clauses, selection⟩, _, hselection, ⟨rfl, rfl⟩, rfl⟩ := h
  obtain ⟨hproperties, hall⟩ := Entity.queryFields_eq_ok hfields
  obtain ⟨hcombined, hchain⟩ :=
    selection_writesChain hselection hentity hcombines hproperties hall
  exact hchain _ (Selection.occurs_limited hcombined _)

theorem count_writesChain (h : Yields (c.count entity query) s (sql, flag) t) :
    WritesChain c entity query.fields query.combines sql := by
  unfold Compiler.count at h
  simp only [yields_bind, yields_liftM, yields_pure, Prod.mk.injEq] at h
  obtain ⟨fields, _, ⟨hfields, rfl⟩, ⟨clauses, selection⟩, _, hselection, ⟨rfl, rfl⟩, rfl⟩ := h
  obtain ⟨hproperties, hall⟩ := Entity.queryFields_eq_ok hfields
  obtain ⟨hcombined, hchain⟩ :=
    selection_writesChain hselection hentity hcombines hproperties hall
  exact hchain _ ((Selection.occurs_limited hcombined _).mono (Layers.infix_derived _ _ _ _))

theorem page_writesChain {paging : Paging}
    (h : Yields (c.page entity query paging) s (sql, flag) t) :
    WritesChain c entity query.fields query.combines sql := by
  unfold Compiler.page at h
  simp only [yields_bind, yields_liftM] at h
  obtain ⟨fields, _, ⟨hfields, rfl⟩, h⟩ := h
  obtain ⟨hproperties, hall⟩ := Entity.queryFields_eq_ok hfields
  split at h
  · exact absurd h not_yields_throw
  · simp only [yields_bind, yields_pure, Prod.mk.injEq] at h
    obtain ⟨⟨clauses, selection⟩, _, hselection, ⟨rfl, rfl⟩, rfl⟩ := h
    obtain ⟨hcombined, hchain⟩ :=
      selection_writesChain hselection hentity hcombines hproperties hall
    apply hchain
    -- with set operations the rows are numbered around the selection
    simp only [Compiler.pageLayers, hcombined, Bool.true_or, if_true]
    refine (selection.occurs_unordered (.inl rfl)).mono ?_
    exact ((Layers.infix_derived _ _ _ _).trans (Layers.infix_derived _ _ _ _)).trans
      (Layers.infix_orderedBy _ _)

theorem aggregate_writesChain {function : AggregateFunction}
    (h : Yields (c.aggregate entity query function) s (sql, flag) t) :
    WritesChain c entity query.fields query.combines sql := by
  unfold Compiler.aggregate at h
  simp only [yields_bind, yields_liftM, yields_pure, Prod.mk.injEq] at h
  obtain ⟨field, _, ⟨-, rfl⟩, fields, _, ⟨hfields, rfl⟩, ⟨clauses, selection⟩, _, hselection,
    ⟨rfl, rfl⟩, rfl⟩ := h
  obtain ⟨hproperties, hall⟩ := Entity.queryFields_eq_ok hfields
  obtain ⟨hcombined, hchain⟩ :=
    selection_writesChain hselection hentity hcombines hproperties hall
  apply hchain
  have hplain : Selection.isCombined { selection with distinct := false } = true := hcombined
  simp only [hplain, if_true]
  obtain ⟨core, hcore, hrest⟩ :=
    Selection.occurs_unordered { selection with distinct := false } (.inl rfl)
  exact ⟨core, hcore.trans (Layers.infix_derived _ _ _ _), hrest⟩

theorem existence_writesChain (h : Yields (c.existence entity query) s (sql, flag) t) :
    WritesChain c entity ((existenceFields entity).map (·.property)) query.combines sql := by
  have hnonempty : query.combines.isEmpty = false := List.isEmpty_eq_false_iff.mpr hcombines
  unfold Compiler.existence at h
  extract_lets fields at h
  have hfields : fields = existenceFields entity := rfl
  clear_value fields
  subst hfields
  split at h
  · exact absurd h not_yields_throw
  · rename_i properties hne
    have hproperties : properties = (existenceFields entity).map (·.property) := by
      simp only [properties, hnonempty, Bool.false_eq_true, if_false]
    simp only [yields_bind, yields_pure, Prod.mk.injEq] at h
    obtain ⟨⟨clauses, selection⟩, _, hselection, ⟨rfl, rfl⟩, rfl⟩ := h
    rw [hproperties] at hselection
    have hall : (existenceFields entity).map (·.property) =
        projectedProperties entity ((existenceFields entity).map (·.property)) := by
      have hmap : ((existenceFields entity).map (·.property)).isEmpty = false := by
        simpa using hne
      rw [projectedProperties, hmap, if_neg Bool.false_ne_true]
    refine (selection_writesChain hselection hentity hcombines hall mem_of_existenceFields).2 _ ?_
    refine (selection.occurs_unordered (.inl rfl)).mono ?_
    exact (Sql.infix_parens _).trans (List.infix_append _ _ _)

/-- The SELECT of a query with set operations holds their chain, in whatever shape its output is
asked for. -/
theorem select_writesChain (h : Yields (c.select entity query) s (sql, flag) t) :
    WritesChain c entity (query.chainFields entity) query.combines sql := by
  unfold Compiler.select at h
  unfold Query.chainFields
  split at h
  · rename_i houtput hpaging
    rw [houtput]
    exact page_writesChain hentity hcombines h
  · rename_i houtput hpaging
    rw [houtput]
    exact rows_writesChain hentity hcombines h
  · rename_i houtput
    rw [houtput]
    exact count_writesChain hentity hcombines h
  · rename_i houtput
    rw [houtput]
    exact existence_writesChain hentity hcombines h
  · rename_i houtput
    rw [houtput]
    exact aggregate_writesChain hentity hcombines h

end Statements

theorem query_writesChain {query : Query} {statement : Statement}
    (h : c.query query = .ok statement) (htext : query.text = none)
    (hcombines : query.combines ≠ []) :
    ∃ entity, c.schema.entity query.entity = .ok entity ∧
      WritesChain c entity (query.chainFields entity) query.combines statement.script := by
  unfold Compiler.query at h
  simp only [htext, except_bind_eq_ok] at h
  obtain ⟨entity, hentity, ⟨⟨script, flag⟩, scope⟩, hrun, h⟩ := h
  cases h
  exact ⟨entity, hentity, select_writesChain hentity hcombines (runFrom_eq_ok.mp hrun)⟩

/-- A nested query with set operations is selected with their chain, for its first field. -/
theorem nested_writesChain {operator : Operator} {query : Query} {target : NestedTarget}
    {tableAlias : String} {sorted : Bool} {clauses : Clauses} (distinct : Bool)
    (htarget : c.nestedTarget operator query = .ok target)
    (hclauses : Yields (query.clauses c [target.property] tableAlias sorted) s clauses t)
    (hcombines : query.combines ≠ []) :
    WritesChain c target.entity [target.property] query.combines
      ((c.nestedSelection target tableAlias distinct clauses).limited target.limit).sql := by
  obtain ⟨hentity, -, hfield, -⟩ := nestedTarget_eq_ok htarget
  obtain ⟨hproperty, hmem⟩ := Entity.field_eq_ok hfield
  obtain ⟨hne, branches, hcombined, hcombine⟩ :=
    Query.clauses_branches hclauses hentity hcombines
  have hisCombined : (c.nestedSelection target tableAlias distinct clauses).isCombined = true :=
    Selection.isCombined_of_combine rfl hne
  obtain ⟨core, hcore, htext, halias, hitems⟩ :=
    Selection.occurs_limited hisCombined target.limit
  have hitem : core.items = [⟨c.conventions.column tableAlias target.field, none⟩] := by
    rcases hitems with hitems | hitems <;> exact hitems
  refine ⟨core, branches, hcore, hcombined, htext.trans (congrArg CombinedSelect.list hcombine),
    [target.field], ?_, by simpa using hmem, ?_⟩
  · rw [projectedProperties, List.map_singleton, hproperty]
    rfl
  · rw [halias, hitem]
    exact .cons (.inl rfl) .nil

/-- A comparison with a nested query with set operations holds their chain, for the first field
of the nested query. -/
theorem subquery_writesChain {parent : Entity} {tableAlias : String} {criterion : Criterion}
    {query : Query} {p : Predicate} (h : Yields (criterion.predicate c parent tableAlias) s p t)
    (hvalue : criterion.value = .subquery query) (htakes : criterion.operator.takesOperand = true)
    (hcombines : query.combines ≠ []) :
    ∃ entity property, c.schema.entity query.entity = .ok entity ∧
      query.fields.head? = some property ∧
      WritesChain c entity [property] query.combines p.text.sql := by
  obtain ⟨field, column, r, -, -, ⟨hnone, -⟩ | ⟨-, hcases⟩⟩ := Criterion.predicate_yields h
  · rw [hnone] at htakes
    exact absurd htakes Bool.false_ne_true
  rcases hcases with ⟨query', target, nestedAlias, r', clauses, hquery, htarget, -, hclauses, rfl⟩ |
    ⟨items, hitems, -⟩ | ⟨hscalar, -⟩
  · obtain rfl : query = query' := Value.subquery.inj (hvalue.symm.trans hquery)
    obtain ⟨hentity, hhead, -, -⟩ := nestedTarget_eq_ok htarget
    refine ⟨target.entity, target.property, hentity, hhead, ?_⟩
    refine (nested_writesChain query.distinct htarget hclauses hcombines).mono ?_
    rw [Compiler.compareNested_sql, comparison]
    exact (Sql.infix_parens _).trans (List.suffix_append _ _).isInfix
  · rw [hvalue] at hitems
    cases hitems
  · rw [hvalue] at hscalar
    exact absurd hscalar id

/-- A query with set operations is joined as a derived table that selects their chain. -/
theorem joined_writesChain {source target : Entity} {sourceAlias tableAlias : String} {join : Join}
    {sub : Clauses} {r r' : Scope} {condition joining : Predicate} {tables : List JoinedTable}
    (hentity : c.schema.entity join.query.entity = .ok target)
    (hsub : Yields (join.query.clauses c join.query.fields tableAlias false) r sub r')
    (htables : Yields (c.joinedTables source sourceAlias target tableAlias join.kind join.fields
      join.operator join.query.fields sub condition) s (tables, joining) t)
    (hcombines : join.query.combines ≠ []) :
    ∃ table ∈ tables,
      WritesChain c target join.query.fields join.query.combines table.sql := by
  obtain ⟨hne, branches, hcombined, hcombine⟩ := Query.clauses_branches hsub hentity hcombines
  rcases joinedTables_yields htables with ⟨hnone, -⟩ |
    ⟨-, -, derivedAlias, projected, on, -, hprojected, -, rfl⟩
  · exact absurd hnone hne
  · obtain ⟨hproperties, hall⟩ := Entity.queryFields_eq_ok hprojected
    let core : SelectCore := {
      distinct := false, items := projected.map (c.conventions.item tableAlias false)
      table := c.table target, tableAlias, join := JoinedTable.list sub.usableJoin
      condition := sub.condition, compound := false, cap := none, group := []
      combine := CombinedSelect.list sub.combine }
    have hcore : core.sql = plainSelect core.items core.table core.tableAlias sub.usableJoin
        sub.condition ++ Sql.clause " " (CombinedSelect.list sub.combine) := by
      simp only [core, SelectCore.sql, SelectCore.search, plainSelect, Bool.false_eq_true,
        if_false, List.append_nil]
    refine ⟨_, List.mem_singleton_self _, core, branches, ?_, hcombined,
      congrArg CombinedSelect.list hcombine, projected, hproperties, hall, ?_⟩
    · refine List.IsInfix.trans ?_ (JoinedTable.infix_source _)
      rw [hcore]
      exact Sql.infix_parens _
    · exact showsField_items c _ false projected

/-- Every query with set operations among some joins is joined with their chain. -/
theorem joins_writeChain {source : Entity} {sourceAlias : String} {condition joining : Predicate}
    {joins : List Join} {tables : List JoinedTable}
    (h : Yields (joinTables c source sourceAlias condition joins) s (tables, joining) t) :
    ∀ join ∈ joins, join.query.combines ≠ [] →
      ∃ entity, c.schema.entity join.query.entity = .ok entity ∧
        ∃ table ∈ tables, WritesChain c entity join.query.fields join.query.combines table.sql := by
  induction joins generalizing s t condition joining tables with
  | nil => exact fun join hjoin => absurd hjoin List.not_mem_nil
  | cons first rest ih =>
    intro join hjoin hcombines
    obtain ⟨nestedAlias, r₁, target, sub, r₂, own, between, r₃, others, -, htarget, hsub, hown,
      hothers, rfl⟩ := joinTables_cons_yields h
    rcases List.mem_cons.mp hjoin with rfl | hrest
    · obtain ⟨table, htable, hchain⟩ := joined_writesChain htarget hsub hown hcombines
      exact ⟨target, htarget, table, List.mem_append_left _ htable, hchain⟩
    · obtain ⟨entity, hentity, table, htable, hchain⟩ := ih hothers join hrest hcombines
      exact ⟨entity, hentity, table, List.mem_append_right _ htable, hchain⟩

/-! ## The columns of set operations -/

/-- The set operations of a statement, of a comparison with a nested query and of a joined query are
written as one chain. Its branches project the fields that they are asked for, so it has one number
of columns exactly if it is asked for that many fields on every level. -/
theorem setOperations_project_asked {c : Compiler} :
    (∀ query statement, c.query query = .ok statement → query.text = none →
      query.combines ≠ [] → ∃ entity, c.schema.entity query.entity = .ok entity ∧
        WritesChain c entity (query.chainFields entity) query.combines statement.script) ∧
    (∀ parent tableAlias criterion query s p t,
      Yields (Criterion.predicate c parent tableAlias criterion) s p t →
      criterion.value = .subquery query → criterion.operator.takesOperand = true →
      query.combines ≠ [] → ∃ entity property, c.schema.entity query.entity = .ok entity ∧
        query.fields.head? = some property ∧
        WritesChain c entity [property] query.combines p.text.sql) ∧
    (∀ source sourceAlias condition joins s tables joining t,
      Yields (joinTables c source sourceAlias condition joins) s (tables, joining) t →
      ∀ join ∈ joins, join.query.combines ≠ [] →
        ∃ entity, c.schema.entity join.query.entity = .ok entity ∧
          WritesChain c entity join.query.fields join.query.combines (JoinedTable.list tables)) ∧
    ∀ entity fields combines core branches, Chain c entity fields combines core branches →
      core.items.length = (projectedProperties entity fields).length ∧
      (∀ p ∈ branches.asked (projectedProperties entity fields), p.2.Projects c p.1) ∧
      ((∀ p ∈ branches.flat, p.2.select.items.length = core.items.length) ↔
        ∀ p ∈ branches.asked (projectedProperties entity fields),
          p.1.length = core.items.length) ∧
      ((∀ p ∈ branches.asked (projectedProperties entity fields),
          p.1 = projectedProperties entity fields) →
        ∀ p ∈ branches.flat, p.2.Projects c (projectedProperties entity fields)) := by
  refine ⟨fun _ _ => query_writesChain, fun _ _ _ _ _ _ _ => subquery_writesChain, ?_, ?_⟩
  · intro source sourceAlias condition joins s tables joining t h join hjoin hcombines
    obtain ⟨entity, hentity, table, htable, hchain⟩ := joins_writeChain h join hjoin hcombines
    exact ⟨entity, hentity, hchain.mono (Sql.infix_separated (List.mem_map_of_mem htable) _)⟩
  · intro entity fields combines core branches h
    exact ⟨h.length_items, h.combined.projects, h.width_iff, h.project_first⟩

/-- The comparison of a member with nested members. -/
def memberOf (query : Query) : Criterion := ⟨"Id", .isIn, .subquery query, none⟩

/-- Where every level names one field, a statement, a comparison and a join have one column. -/
theorem uniformBranches_project :
    let query := memberQuery ["Id"]
      [⟨.union, memberQuery ["Id"] [⟨.union, memberQuery ["Id"] []⟩]⟩]
    ∃ statement p tables joining t₁ t₂, memberCompiler.query query = .ok statement ∧
      Yields ((memberOf query).predicate memberCompiler memberEntity rootAlias) {} p t₁ ∧
      Yields (joinTables memberCompiler memberEntity rootAlias {}
        [⟨.inner, [("Id", "Id")], .equal, query⟩]) {} (tables, joining) t₂ ∧
      ∀ sql ∈ [statement.script, p.text.sql, JoinedTable.list tables],
        ∃ (core : SelectCore) (branches : Branches Branch), core.sql <:+: sql ∧
          core.combine = CombinedSelect.list branches.selects ∧ core.items.length = 1 ∧
          branches.flat.length = 2 ∧ ∀ p ∈ branches.flat, p.2.Projects memberCompiler ["Id"] := by
  intro query
  obtain ⟨statement, hstatement⟩ := exists_ok_of_isSome (x := memberCompiler.query query)
    (by decide +kernel)
  obtain ⟨p, t₁, hp⟩ := exists_yields_of_isSome
    (m := (memberOf query).predicate memberCompiler memberEntity rootAlias) (s := {})
    (by decide +kernel)
  obtain ⟨⟨tables, joining⟩, t₂, hjoin⟩ := exists_yields_of_isSome
    (m := joinTables memberCompiler memberEntity rootAlias {}
      [⟨.inner, [("Id", "Id")], .equal, query⟩]) (s := {}) (by decide +kernel)
  obtain ⟨hqueries, hsubqueries, hjoins, hchains⟩ :=
    setOperations_project_asked (c := memberCompiler)
  refine ⟨statement, p, tables, joining, t₁, t₂, hstatement, hp, hjoin, ?_⟩
  -- whatever the entity is, two branches are asked for the one field
  have hwritten (entity : Entity) (sql : Sql)
      (h : WritesChain memberCompiler entity ["Id"] query.combines sql) :
      ∃ (core : SelectCore) (branches : Branches Branch), core.sql <:+: sql ∧
        core.combine = CombinedSelect.list branches.selects ∧ core.items.length = 1 ∧
        branches.flat.length = 2 ∧ ∀ p ∈ branches.flat, p.2.Projects memberCompiler ["Id"] := by
    obtain ⟨core, branches, hcore, hchain⟩ := h
    obtain ⟨hlength, -, -, hfirst⟩ := hchains _ _ _ _ _ hchain
    have hshape : branches.flat.length = 2 ∧
        ∀ p ∈ branches.asked ["Id"], p.1 = ["Id"] := by
      cases hchain.combined with
      | cons _ _ _ hinside hbehind =>
        cases hbehind
        cases hinside with
        | cons _ _ _ hinside hbehind =>
          cases hbehind
          cases hinside
          exact ⟨rfl, by simp [Branches.asked, projectedProperties, memberQuery]⟩
    exact ⟨core, branches, hcore, hchain.text, hlength, hshape.1, hfirst hshape.2⟩
  obtain ⟨entity₁, -, hchain₁⟩ := hqueries _ _ hstatement rfl (List.cons_ne_nil _ _)
  obtain ⟨entity₂, property, -, hproperty, hchain₂⟩ :=
    hsubqueries _ _ _ _ _ _ _ hp rfl rfl (List.cons_ne_nil _ _)
  obtain rfl : "Id" = property := Option.some.inj hproperty
  obtain ⟨entity₃, -, hchain₃⟩ :=
    hjoins _ _ _ _ _ _ _ _ hjoin _ List.mem_cons_self (List.cons_ne_nil _ _)
  intro sql hsql
  simp only [List.mem_cons, List.not_mem_nil, or_false] at hsql
  rcases hsql with rfl | rfl | rfl
  · exact hwritten entity₁ _ hchain₁
  · exact hwritten entity₂ _ hchain₂
  · exact hwritten entity₃ _ hchain₃

/-- A nested query and its two branches name two fields each. The first SELECT and the branch next
to it project the first field only, and the branch inside that one projects both. -/
theorem nestedBranch_not_project :
    let fields := ["Id", "Name"]
    let nested :=
      memberQuery fields [⟨.union, memberQuery fields [⟨.union, memberQuery fields []⟩]⟩]
    let query : Query := { memberQuery ["Id"] [] with
      conditions := [⟨.and, .criterion (memberOf nested)⟩] }
    ∃ statement, memberCompiler.query query = .ok statement ∧
      statement.script.render = "SELECT TB.\"ID\" FROM \"MEMBER\" TB WHERE TB.\"ID\" IN " ++
        "(SELECT TSB0.\"ID\" FROM \"MEMBER\" TSB0 UNION SELECT TSB1.\"ID\" FROM \"MEMBER\" TSB1 " ++
        "UNION SELECT TSB2.\"ID\", TSB2.\"NAME\" FROM \"MEMBER\" TSB2)" ∧
      ∃ (entity : Entity) (core : SelectCore) (branches : Branches Branch),
        core.sql <:+: statement.script ∧
        Chain memberCompiler entity ["Id"] nested.combines core branches ∧
        core.items.length = 1 ∧ branches.flat.map (·.2.select.items.length) = [1, 2] := by
  intro fields nested query
  obtain ⟨statement, hstatement⟩ := exists_ok_of_isSome (x := memberCompiler.query query)
    (by decide +kernel)
  obtain ⟨p, t, hp⟩ := exists_yields_of_isSome
    (m := (memberOf nested).predicate memberCompiler memberEntity rootAlias) (s := {})
    (by decide +kernel)
  have htext : (memberCompiler.query query).toOption.map (·.script.render) =
      some ("SELECT TB.\"ID\" FROM \"MEMBER\" TB WHERE TB.\"ID\" IN " ++
        "(SELECT TSB0.\"ID\" FROM \"MEMBER\" TSB0 UNION SELECT TSB1.\"ID\" FROM \"MEMBER\" TSB1 " ++
        "UNION SELECT TSB2.\"ID\", TSB2.\"NAME\" FROM \"MEMBER\" TSB2)") := by
    decide +kernel
  have hscript : (memberCompiler.query query).toOption.map (·.script) =
      (((memberOf nested).predicate memberCompiler memberEntity rootAlias).run.run
        {}).1.toOption.map fun p =>
          (plainSelect [⟨Sql.column "TB" "\"ID\"", none⟩] "\"MEMBER\"" "TB" [] p.text) := by
    decide +kernel
  rw [hstatement, hp] at hscript
  rw [hstatement] at htext
  obtain ⟨entity, property, -, hproperty, core, branches, hcore, hchain⟩ :=
    subquery_writesChain hp rfl rfl (List.cons_ne_nil _ _)
  obtain rfl : "Id" = property := Option.some.inj hproperty
  refine ⟨statement, hstatement, Option.some.inj htext, entity, core, branches, ?_, hchain,
    hchain.length_items, ?_⟩
  · have hcondition : statement.script =
        plainSelect [⟨Sql.column "TB" "\"ID\"", none⟩] "\"MEMBER\"" "TB" [] p.text :=
      Option.some.inj hscript
    rw [hcondition]
    exact hcore.trans ((Sql.infix_clause _ _).trans (List.suffix_append _ _).isInfix)
  · have hprojects := hchain.combined.projects
    cases hchain.combined with
    | cons _ _ _ hinside hbehind =>
      cases hbehind
      cases hinside with
      | cons _ _ _ hinside hbehind =>
        cases hbehind
        cases hinside
        have hfirst := (hprojects _ List.mem_cons_self).length_items
        have hsecond := (hprojects _ (List.mem_cons_of_mem _ List.mem_cons_self)).length_items
        simp only [Branches.flat, List.append_nil, List.map_cons, List.map_nil]
        rw [hfirst, hsecond]
        rfl

end QueryLoom
