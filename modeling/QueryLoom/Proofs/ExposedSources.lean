import QueryLoom.Proofs.ExposedColumns

/-!
# Columns of nested queries, joins and merges

A nested query is compared by one column, so that only its sort may ask for another one. A query
with set operations is joined as a derived table, which nothing but its own ON clause refers to. The
source of a MERGE is asked for the keys that it outputs.

## Implementation notes

The alias of a derived table is handed out after those of its own query. What is compiled before it
cannot refer to it, and what is compiled after it refers to tables of its own.
-/

namespace QueryLoom

variable {c : Compiler} {s t : Scope} {entity : Entity} {query : Query}

/-! ## Nested queries -/

/-- Whether the layers of a nested query have derived tables between them: it is capped behind
anything that counts rows. -/
def Query.NestedLayered (query : Query) (target : NestedTarget) : Prop :=
  target.limit.isSome = true ∧ (query.combines ≠ [] ∨ query.sorts ≠ [] ∨ query.distinct = true)

/-- What the layers of a nested query refer to is output by the derived tables between them: the
columns of its sort are its own one, behind set operations. -/
def Query.NestedExposes (c : Compiler) (query : Query) (target : NestedTarget) : Prop :=
  target.limit.isSome = true → query.combines ≠ [] →
    SortsAmong c target.entity query.sorts [c.conventions.columnName target.field]

/-- The layers of a nested query, and what they expose. -/
theorem nestedSelection_exposes {operator : Operator} {target : NestedTarget} {tableAlias : String}
    {clauses : Clauses} (htarget : c.nestedTarget operator query = .ok target)
    (hclauses : Yields (query.clauses c [target.property] tableAlias target.limit.isSome) s clauses
      t) :
    let layers :=
      (c.nestedSelection target tableAlias query.distinct clauses).limited target.limit
    (layers.derivedTables [] ≠ [] ↔ query.NestedLayered target) ∧
      (layers.Exposes ↔ query.NestedExposes c target) := by
  obtain ⟨hentity, -⟩ := nestedTarget_eq_ok htarget
  obtain ⟨⟨r, r', hsort⟩, hisEmpty⟩ := Query.clauses_sort hclauses hentity
  let selection := c.nestedSelection target tableAlias query.distinct clauses
  have hcombine : selection.combine = CombinedSelect.list clauses.combine := rfl
  have hcombined : selection.isCombined = true ↔ query.combines ≠ [] := by
    rw [Selection.isCombined_list hcombine, hisEmpty]
    simp
  obtain ⟨hisSorted, hsorts⟩ := sortClause_referred hsort
  constructor
  · rw [selection.derivedTables_limited_ne_nil]
    have hshaped : selection.isShaped = (!clauses.sort.isEmpty || query.distinct) :=
      Bool.or_false _
    unfold Selection.Wrapped Query.NestedLayered
    cases hlimit : target.limit with
    | none =>
      rw [hlimit] at hisSorted
      have hnil : clauses.sort = [] := List.isEmpty_iff.mp hisSorted
      exact iff_of_false (fun h => h.2 hnil) fun h => absurd h.1 Bool.false_ne_true
    | some limit =>
      rw [hlimit] at hisSorted
      rw [hcombined, hshaped, hisSorted]
      simp
  · have houtputs : SelectItem.outputs selection.inner =
        [c.conventions.columnName target.field] := rfl
    have hcolumn : referred tableAlias (selection.inner.map SelectItem.sql) =
        [c.conventions.columnName target.field] := referred_column _ _ _
    have hprojection : referred tableAlias (selection.outer.map SelectItem.sql) ⊆
        SelectItem.outputs selection.inner := by
      rw [houtputs, ← hcolumn]
      exact List.Subset.refl _
    calc (selection.limited target.limit).Exposes
        ↔ (selection.isCombined = true →
            referred tableAlias clauses.sort ⊆ SelectItem.outputs selection.inner) := by
          rw [selection.exposes_limited target.limit Iff.rfl]
          exact and_iff_right fun _ => hprojection
      _ ↔ (query.combines ≠ [] → target.limit.isSome = true →
            SortsAmong c target.entity query.sorts [c.conventions.columnName target.field]) := by
          rw [hcombined, houtputs, hsorts]
      _ ↔ query.NestedExposes c target := ⟨fun h hlimit hne => h hne hlimit,
          fun h hne hlimit => h hlimit hne⟩

/-- A comparison with a nested query holds its layers. -/
theorem subquery_exposes {parent : Entity} {tableAlias : String} {criterion : Criterion}
    {p : Predicate} (h : Yields (criterion.predicate c parent tableAlias) s p t)
    (hvalue : criterion.value = .subquery query) (htakes : criterion.operator.takesOperand = true) :
    ∃ (target : NestedTarget) (column : Sql) (layers : Layers),
      c.nestedTarget criterion.operator query = .ok target ∧
      p.text.sql = comparison column criterion.operator layers.sql.parens ∧
      (layers.derivedTables [] ≠ [] ↔ query.NestedLayered target) ∧
      (layers.Exposes ↔ query.NestedExposes c target) := by
  obtain ⟨field, column, r, -, -, ⟨hnone, -⟩ | ⟨-, hcases⟩⟩ := Criterion.predicate_yields h
  · rw [hnone] at htakes
    exact absurd htakes Bool.false_ne_true
  rcases hcases with ⟨query', target, nestedAlias, r', clauses, hquery, htarget, -, hclauses, rfl⟩ |
    ⟨items, hitems, -⟩ | ⟨hscalar, -⟩
  · obtain rfl : query = query' := Value.subquery.inj (hvalue.symm.trans hquery)
    exact ⟨target, column, _, htarget, Compiler.compareNested_sql,
      nestedSelection_exposes htarget hclauses⟩
  · rw [hvalue] at hitems
    cases hitems
  · rw [hvalue] at hscalar
    exact absurd hscalar id

/-! ## Joins -/

/-- The columns of a joined entity that a join compares are among some names. -/
def JoinKeysAmong (c : Compiler) (source target : Entity) (join : Join) (names : List String) :
    Prop :=
  join.kind ≠ .cross → ∀ pair ∈ Compiler.joinPairs source target join.fields,
    ∀ field, target.field pair.2 = .ok field → c.conventions.columnName field ∈ names

instance (c : Compiler) (source target : Entity) (join : Join) (names : List String) :
    Decidable (JoinKeysAmong c source target join names) :=
  inferInstanceAs (Decidable (join.kind ≠ .cross →
    ∀ pair ∈ Compiler.joinPairs source target join.fields, ∀ field, target.field pair.2 = .ok field →
      c.conventions.columnName field ∈ names))

/-- The comparison of two joined fields refers to the second one under the alias of its table. -/
theorem joinComparison_referred {sourceAlias targetAlias : String} (hne : sourceAlias ≠ targetAlias)
    (operator : JoinOperator) (pair : Field × Field) :
    referred targetAlias
        [(SearchText.leaf (joinComparison c operator sourceAlias targetAlias pair)).sql] =
      [c.conventions.columnName pair.2] := by
  have hcolumns : (joinComparison c operator sourceAlias targetAlias pair).columns =
      [(sourceAlias, c.conventions.identifier pair.1.column),
        (targetAlias, c.conventions.identifier pair.2.column)] := by
    simp [joinComparison]
  have hother : (sourceAlias == targetAlias) = false := beq_false_of_ne hne
  simp [referred, SearchText.sql_leaf, hcolumns, hother, Conventions.columnName]

theorem joinComparisons_referred {source target : Entity} {operator : JoinOperator}
    {sourceAlias targetAlias : String} {pairs : List (String × String)} {on : List SearchText}
    (hne : sourceAlias ≠ targetAlias)
    (h : pairs.mapM (fun (left, right) => do
      let left ← source.field left
      let right ← target.field right
      return SearchText.leaf (c.conventions.column sourceAlias left ++
        Sql.text (" " ++ operator.sql ++ " ") ++ c.conventions.column targetAlias right)) =
      Except.ok on) (names : List String) :
    referred targetAlias (on.map SearchText.sql) ⊆ names ↔
      ∀ pair ∈ pairs, ∀ field, target.field pair.2 = .ok field →
        c.conventions.columnName field ∈ names := by
  induction pairs generalizing on with
  | nil =>
    cases h
    exact iff_of_true (List.nil_subset _) (List.forall_mem_nil _)
  | cons pair rest ih =>
    simp only [List.mapM_cons, except_bind_eq_ok] at h
    obtain ⟨text, ⟨left, hleft, right, hright, htext⟩, texts, htexts, hon⟩ := h
    cases htext
    cases hon
    have hfirst := joinComparison_referred (c := c) hne operator (left, right)
    rw [joinComparison] at hfirst
    rw [List.map_cons, referred_cons, hfirst, List.append_subset, ih htexts, List.cons_subset,
      List.forall_mem_cons, forall_eq_ok_iff hright, and_iff_left (List.nil_subset _)]

/-- An ON clause refers to the fields of the joined entity that the join compares. -/
theorem joinPredicates_referred {source target : Entity} {join : Join}
    {sourceAlias targetAlias : String} {on : List SearchText} (hne : sourceAlias ≠ targetAlias)
    (h : c.joinPredicates source target join.kind join.fields join.operator sourceAlias
      targetAlias = .ok on) (names : List String) :
    referred targetAlias (on.map SearchText.sql) ⊆ names ↔
      JoinKeysAmong c source target join names := by
  unfold Compiler.joinPredicates at h
  split at h
  · rename_i hcross
    cases h
    exact iff_of_true (List.nil_subset _) fun hkind => absurd (by simpa using hcross) hkind
  · rename_i hcross
    split at h
    · cases h
    · rw [joinComparisons_referred hne h]
      exact ⟨fun hpairs _ => hpairs, fun hpairs => hpairs (by simpa using hcross)⟩

/-- A derived table of the projected fields of a joined query. Its ON clause asks it for the keys of
the join. -/
def JoinedTable.ExposesKeys (c : Compiler) (source target : Entity) (join : Join)
    (projected : List Field) (derived : JoinedTable) : Prop :=
  ∃ tableAlias select,
    let items := projected.map (c.conventions.item tableAlias false)
    derived.source = .derived items select ∧ Sql.text "SELECT " ++ SelectItem.list items <+: select ∧
      (DerivedTable.Exposes ⟨items, derived.tableAlias, derived.on.map SearchText.sql⟩ ↔
        JoinKeysAmong c source target join (projected.map c.conventions.outputName))

/-- A query with set operations is joined as a derived table of its fields. -/
theorem joinedTables_exposes {source target : Entity} {own tableAlias : String} {join : Join}
    {sub : Clauses} {condition joining : Predicate} {tables : List JoinedTable}
    (hown : Settled s.nextAlias own) (hcombine : sub.combine ≠ [])
    (h : Yields (c.joinedTables source own target tableAlias join.kind join.fields join.operator
      join.query.fields sub condition) s (tables, joining) t) :
    ∃ derived projected, tables = [derived] ∧ joining = condition ∧
      target.queryFields join.query.fields = .ok projected ∧
      HandedOut s.nextAlias t.nextAlias derived.tableAlias ∧
      derived.ExposesKeys c source target join projected := by
  rcases joinedTables_yields h with ⟨hnone, -⟩ |
    ⟨-, rfl, derivedAlias, projected, on, hderived, hprojected, hon, rfl⟩
  · exact absurd hnone hcombine
  obtain ⟨rfl, hnext⟩ := freshAlias_yields_nestedAlias hderived
  have hne : own ≠ nestedAlias s.nextAlias := hown _ (Nat.le_refl _)
  refine ⟨_, projected, rfl, rfl, hprojected, ?_, tableAlias, _, rfl, ?_, ?_⟩
  · exact ⟨s.nextAlias, Nat.le_refl _, hnext ▸ Nat.lt_succ_self _, rfl⟩
  · simp only [plainSelect, List.append_assoc]
    exact List.prefix_append _ _
  · rw [DerivedTable.Exposes, Conventions.outputs_items, joinPredicates_referred hne hon]

/-- A derived table among joined ones, which nothing but its own ON clause refers to: no other ON
clause and no condition behind the joins does. -/
structure JoinsDerived (c : Compiler) (source target : Entity) (join : Join)
    (projected : List Field) (tables : List JoinedTable) (joining : Predicate)
    (derived : JoinedTable) : Prop where
  mem : derived ∈ tables
  others : ∀ other ∈ tables, other ≠ derived → derived.tableAlias ∉ other.mentioned
  condition : derived.tableAlias ∉ joining.text.aliases
  exposesKeys : derived.ExposesKeys c source target join projected

theorem JoinScope.not_mem_mentioned {own : String} {m n : Nat} {joins : List JoinedTable}
    {hoisted : List String} {f u : Bool} (h : JoinScope own m n joins hoisted f u) {x : String}
    (hown : x ≠ own) (hnew : ¬ HandedOut m n x) : ∀ joined ∈ joins, x ∉ joined.mentioned := by
  intro joined hjoined hmem
  rcases h.mentioned joined hjoined x hmem with heq | hin
  · exact hown heq
  · exact hnew (h.handedOut x hin)

section JoinsDerived

variable {source target : Entity} {join : Join} {projected : List Field} {own : String}
  {m r n : Nat} {added others : List JoinedTable} {handed hoisted xs : List String}
  {f g u v : Bool} {joining : Predicate} {derived : JoinedTable}

/-- What is joined behind a derived table refers to tables of its own. -/
theorem JoinsDerived.first (hothers : JoinScope own r n others hoisted f u)
    (hout : HandedOut m r derived.tableAlias) (hown : Settled m own)
    (hjoining : joining.text.Mentions (xs ++ hoisted)) (hxs : ∀ a ∈ xs, Settled m a)
    (hexposes : derived.ExposesKeys c source target join projected) :
    JoinsDerived c source target join projected (derived :: others) joining derived := by
  have hnew {a : String} (ha : Settled m a) : derived.tableAlias ≠ a :=
    fun heq => ha.not_handedOut (heq ▸ hout)
  constructor
  · exact List.mem_cons_self
  · intro other hother hne
    have hbehind := (List.mem_cons.mp hother).resolve_left hne
    exact hothers.not_mem_mentioned (hnew hown) hout.settled.not_handedOut other hbehind
  · rw [hjoining.aliases]
    intro hin
    rcases List.mem_append.mp hin with hin | hin
    · exact hnew (hxs _ hin) rfl
    · exact hothers.not_mem_introduced hout.settled (hothers.within _ hin)
  · exact hexposes

/-- What is joined in front of a derived table does not know its alias yet. -/
theorem JoinsDerived.behind (hadded : JoinScope own m r added handed g v)
    (hout : HandedOut r n derived.tableAlias) (hown : Settled r own)
    (h : JoinsDerived c source target join projected others joining derived) :
    JoinsDerived c source target join projected (added ++ others) joining derived := by
  have hne : derived.tableAlias ≠ own := fun heq => hown.not_handedOut (heq ▸ hout)
  have hnew : ¬ HandedOut m r derived.tableAlias := fun hold => hold.settled.not_handedOut hout
  constructor
  · exact List.mem_append_right _ h.mem
  · intro other hother hdifferent
    rcases List.mem_append.mp hother with hother | hother
    · exact hadded.not_mem_mentioned hne hnew other hother
    · exact h.others other hother hdifferent
  · exact h.condition
  · exact h.exposesKeys

end JoinsDerived

/-- Every query with set operations among some joins is joined as a derived table, whose alias is
new. -/
theorem joins_derived {source : Entity} {own : String} {condition joining : Predicate}
    {joins : List Join} {tables : List JoinedTable} {xs : List String}
    (h : Yields (joinTables c source own condition joins) s (tables, joining) t)
    (hown : Settled s.nextAlias own) (hmentions : condition.text.Mentions xs)
    (hxs : ∀ a ∈ xs, Settled s.nextAlias a) :
    ∀ join ∈ joins, join.query.combines ≠ [] → ∃ target projected derived,
      c.schema.entity join.query.entity = .ok target ∧
      target.queryFields join.query.fields = .ok projected ∧
      HandedOut s.nextAlias t.nextAlias derived.tableAlias ∧
      JoinsDerived c source target join projected tables joining derived := by
  -- joins hand conditions on, so the aliases that the condition mentions grow along the induction
  induction joins generalizing s condition tables xs with
  | nil => exact fun join hjoin => absurd hjoin List.not_mem_nil
  | cons first rest ih =>
    intro join hjoin hcombines
    obtain ⟨tableAlias, r₁, target, sub, r₂, added, between, r₃, others, halias, htarget, hsub,
      hadded, hrest, rfl⟩ := joinTables_cons_yields h
    obtain ⟨hnested, hr₁⟩ := freshAlias_yields_nestedAlias halias
    have hr₂ := Query.clauses_advances _ _ _ _ _ _ _ hsub
    have hr₃ := joinedTables_advances _ _ _ _ _ _ _ _ _ _ _ _ _ hadded
    have ht := joinTables_advances _ _ _ _ _ _ _ hrest
    have hsettled : Settled r₁.nextAlias tableAlias := by
      rw [hr₁, hnested]
      exact settled_nestedAlias _
    obtain ⟨inner, hscope⟩ := Query.clauses_scope first.query hsub hsettled
    have htraced : ({ condition with trace := condition.trace ++ sub.trace } :
        Predicate).text.Mentions xs := hmentions
    have hle : s.nextAlias ≤ r₃.nextAlias := by omega
    rcases List.mem_cons.mp hjoin with rfl | hmem
    · -- a derived table hands nothing on
      have hcombine : sub.combine ≠ [] := by
        rw [← List.isEmpty_eq_false_iff, hscope.combine, List.isEmpty_eq_false_iff]
        exact hcombines
      obtain ⟨derived, projected, rfl, rfl, hprojected, hout, hexposes⟩ :=
        joinedTables_exposes (hown.mono (by omega)) hcombine hadded
      obtain ⟨hoisted, hjoining, hothers⟩ := joinTables_scope rest hrest (hown.mono hle) htraced
      have hout : HandedOut s.nextAlias r₃.nextAlias derived.tableAlias :=
        hout.mono (by omega) (Nat.le_refl _)
      exact ⟨target, projected, derived, htarget, hprojected, hout.mono (Nat.le_refl _) ht,
        .first hothers hout hown hjoining hxs hexposes⟩
    · rw [hr₁] at hscope
      obtain ⟨handed, hbetween, hbefore⟩ := joinedTables_scope hscope (hr₁ ▸ hr₂) hnested hown
        htraced hadded
      have hknown : ∀ a ∈ xs ++ handed, Settled r₃.nextAlias a := by
        intro a ha
        rcases List.mem_append.mp ha with ha | ha
        · exact (hxs a ha).mono hle
        · exact (hbefore.handedOut a (hbefore.within a ha)).settled
      obtain ⟨target', projected, derived, htarget', hprojected, hout, hderived⟩ :=
        ih hrest (hown.mono hle) hbetween hknown join hmem hcombines
      exact ⟨target', projected, derived, htarget', hprojected, hout.mono hle (Nat.le_refl _),
        hderived.behind hbefore hout (hown.mono hle)⟩

/-! ## Merges -/

/-- What an update assigns refers to its own table. -/
theorem setItems_columns {assignments : List (String × Assignment)} {items : List Sql}
    {fields : List Field} (h : Yields (c.setItems entity assignments) s (items, fields) t) :
    ∀ item ∈ items, ∀ column ∈ item.columns, column.1 = rootAlias := by
  induction assignments generalizing s items fields with
  | nil =>
    simp only [Compiler.setItems, yields_pure, Prod.mk.injEq] at h
    obtain ⟨⟨rfl, -⟩, -⟩ := h
    exact List.forall_mem_nil _
  | cons first rest ih =>
    obtain ⟨assigned, value, operand, r, others, otherFields, -, hbind, hrest, rfl, -⟩ :=
      setItems_cons_yields h
    obtain ⟨rfl, -⟩ := Compiler.bind_yields.mp hbind
    rw [List.forall_mem_cons]
    refine ⟨?_, ih hrest⟩
    cases first.2 <;> simp [Assignment.written]

/-- The equality of keys refers to each of them in the source. -/
theorem keyEquality_referred (keys : List Field) :
    referred Compiler.mergeAlias [c.keyEquality keys] = keys.map c.conventions.columnName := by
  rw [Compiler.keyEquality, referred_separated]
  induction keys with
  | nil => rfl
  | cons key rest ih =>
    have hroot : (rootAlias == Compiler.mergeAlias) = false := by decide
    have hkey : referred Compiler.mergeAlias [c.conventions.column rootAlias key ++
        Sql.text " = " ++ c.conventions.column Compiler.mergeAlias key] =
        [c.conventions.columnName key] := by
      simp [referred, hroot, Conventions.columnName]
    rw [List.map_cons, referred_cons, hkey, ih]
    rfl

/-- A MERGE from a derived table of keys. What it matches by and assigns asks the derived table for
these keys. -/
def MergesKeys (c : Compiler) (keys : List Field) (script : Sql) : Prop :=
  let selected := keys.map (c.conventions.item rootAlias false)
  ∃ (table : String) (select on : Sql) (items : List Sql),
    script = Sql.text ("MERGE INTO " ++ table ++ " " ++ rootAlias ++ " USING ") ++ select.parens ++
      Sql.text (" " ++ Compiler.mergeAlias ++ " ON ") ++ on.parens ++
      Sql.text " WHEN MATCHED THEN UPDATE SET " ++ Sql.separated ", " items ∧
    Sql.text "SELECT " ++ SelectItem.list selected <+: select ∧
    (DerivedTable.Exposes ⟨selected, Compiler.mergeAlias, on :: items⟩ ↔
      ∀ key ∈ keys, c.conventions.columnName key ∈ keys.map c.conventions.outputName)

theorem mergeScript_mergesKeys {keys : List Field} {items : List Sql} (clauses : Clauses)
    (table : String)
    (hitems : ∀ item ∈ items, ∀ column ∈ item.columns, column.1 = rootAlias) :
    MergesKeys c keys (c.mergeScript keys items clauses table) := by
  refine ⟨table, c.keySelect keys table clauses, c.keyEquality keys, items, rfl, ?_, ?_⟩
  · simp only [Compiler.keySelect, plainSelect, List.append_assoc]
    exact List.prefix_append _ _
  · have hroot : rootAlias ≠ Compiler.mergeAlias := by decide
    have hassigned : referred Compiler.mergeAlias items = [] := by
      apply List.eq_nil_iff_forall_not_mem.mpr
      intro name hname
      obtain ⟨item, hitem, written, hcolumn, -⟩ := mem_referred.mp hname
      exact hroot (hitems item hitem _ hcolumn).symm
    rw [DerivedTable.Exposes, referred_cons, hassigned, List.append_nil, keyEquality_referred,
      Conventions.outputs_items]
    exact List.forall_mem_map

/-- An update changes one table alone, or merges the keys that it selects. -/
theorem update_exposes {command : UpdateCommand} {number : Nat} {compiled : Compiled}
    (h : c.update command number = .ok compiled) :
    let query := Compiler.scopedQuery command.query command.entity
    ∃ entity, c.schema.entity command.entity = .ok entity ∧
      ((query.joins = [] ∧ query.traversing = [] ∧ ∀ statement ∈ compiled.statements,
          ∃ table, (Command.update command).SingleTable table statement.script) ∨
        ∀ statement ∈ compiled.statements, MergesKeys c entity.primaryKeys statement.script) := by
  intro query
  obtain ⟨entity, clauses, r, items, fields, scope, tables, hentity, -, hclauses, hitems, -, hform⟩ :=
    update_eq_ok h
  refine ⟨entity, hentity, ?_⟩
  rcases hform with ⟨-, keys, hkeys, -, rfl⟩ | ⟨hneeds, rfl⟩
  · obtain ⟨rfl, -⟩ := Entity.requirePrimaryKeys_eq_ok hkeys
    refine .inr fun statement hstatement => ?_
    obtain ⟨table, -, rfl⟩ := List.mem_map.mp hstatement
    exact mergeScript_mergesKeys clauses _ (setItems_columns hitems)
  · rw [Query.clauses_needsKeys hclauses] at hneeds
    simp only [Bool.not_eq_false', Bool.and_eq_true, List.isEmpty_iff] at hneeds
    refine .inl ⟨hneeds.1, hneeds.2, fun statement hstatement => ?_⟩
    obtain ⟨table, -, rfl⟩ := List.mem_map.mp hstatement
    exact ⟨_, updateScript_singleTable command items clauses _⟩

/-! ## Derived tables -/

/-- A statement that reads, a nested query, a join of set operations and a MERGE each expose the
columns that are referred to in the layer around exactly if the fields that this layer asks for are
output under the names of their columns. -/
theorem derivedTables_expose_iff {c : Compiler} :
    (∀ query statement, c.query query = .ok statement → query.text = none →
      ∃ entity, c.schema.entity query.entity = .ok entity ∧
        WritesLayers c entity query statement.script) ∧
    (∀ parent tableAlias criterion query s p t,
      Yields (Criterion.predicate c parent tableAlias criterion) s p t →
      criterion.value = .subquery query → criterion.operator.takesOperand = true →
      ∃ (target : NestedTarget) (column : Sql) (layers : Layers),
        c.nestedTarget criterion.operator query = .ok target ∧
        p.text.sql = comparison column criterion.operator layers.sql.parens ∧
        (layers.derivedTables [] ≠ [] ↔ query.NestedLayered target) ∧
        (layers.Exposes ↔ query.NestedExposes c target)) ∧
    (∀ source own condition aliases joins s tables joining t,
      Yields (joinTables c source own condition joins) s (tables, joining) t →
      Settled s.nextAlias own → condition.text.Mentions aliases →
      (∀ a ∈ aliases, Settled s.nextAlias a) →
      ∀ join ∈ joins, join.query.combines ≠ [] → ∃ target projected derived,
        c.schema.entity join.query.entity = .ok target ∧
        target.queryFields join.query.fields = .ok projected ∧
        HandedOut s.nextAlias t.nextAlias derived.tableAlias ∧
        JoinsDerived c source target join projected tables joining derived) ∧
    ∀ command number compiled, c.update command number = .ok compiled →
      ∃ entity, c.schema.entity command.entity = .ok entity ∧
        (((Compiler.scopedQuery command.query command.entity).joins = [] ∧
            (Compiler.scopedQuery command.query command.entity).traversing = [] ∧
            ∀ statement ∈ compiled.statements,
              ∃ table, (Command.update command).SingleTable table statement.script) ∨
          ∀ statement ∈ compiled.statements,
            MergesKeys c entity.primaryKeys statement.script) := by
  refine ⟨fun _ _ => query_writesLayers, fun _ _ _ _ _ _ _ => subquery_exposes, ?_, ?_⟩
  · intro source own condition aliases joins s tables joining t h hown hmentions haliases
    exact joins_derived h hown hmentions haliases
  · intro command number compiled h
    exact update_exposes h

/-- Guests, whose birthdays may have an output form. -/
def guestEntity (form : Option String) : Entity where
  name := "Guest"
  table := "GUEST"
  fields := [{ property := "Id", column := "Id", role := { primaryKey := true } },
    { property := "Born", column := "Birthday", outputForm := form }]

/-- A schema of guests. -/
def guestCompiler (form : Option String) : Compiler where
  schema := ⟨[guestEntity form]⟩

/-- The first birthdays. -/
def firstBirthdays : Query where
  entity := "Guest"
  fields := ["Born"]
  sorts := [⟨"Born", .ascending, none⟩]
  size := 5

/-- Some guests together with others. -/
def guestIds : Query where
  entity := "Guest"
  fields := ["Id"]
  sorts := [⟨"Id", .ascending, none⟩]
  size := 5
  combines := [⟨.union, { entity := "Guest", fields := ["Id"] }⟩]

/-- Setting the birthdays of the guests that are joined with themselves. -/
def setBirthdays : UpdateCommand where
  entity := "Guest"
  assignments := [("Born", .value .null)]
  query := some { joins := [⟨.inner, [("Id", "Id")], .equal, { entity := "Guest" }⟩] }

/-- Without output forms, and with sorts and joins of projected fields, every derived table exposes
what is referred to. -/
theorem plainGuests_exposed :
    (∃ (statement : Statement) (layers : Layers),
      (guestCompiler none).query firstBirthdays = .ok statement ∧
      statement.script = layers.sql ∧ layers.derivedTables [] ≠ [] ∧ layers.Exposes) ∧
    (∃ (p : Predicate) (t : Scope) (layers : Layers),
      Yields (Criterion.predicate (guestCompiler none) (guestEntity none) rootAlias
        ⟨"Id", .isIn, .subquery guestIds, none⟩) {} p t ∧
      layers.sql <:+: p.text.sql ∧ layers.derivedTables [] ≠ [] ∧ layers.Exposes) ∧
    (∃ (tables : List JoinedTable) (joining : Predicate) (t : Scope) (derived : JoinedTable)
      (items : List SelectItem) (select : Sql),
      Yields (joinTables (guestCompiler none) (guestEntity none) rootAlias {}
        [⟨.inner, [("Id", "Id")], .equal, guestIds⟩]) {} (tables, joining) t ∧
      derived ∈ tables ∧ derived.source = .derived items select ∧
      DerivedTable.Exposes ⟨items, derived.tableAlias, derived.on.map SearchText.sql⟩) ∧
    ∃ (compiled : Compiled) (statement : Statement) (items : List SelectItem) (on : Sql)
      (assigned : List Sql),
      (guestCompiler none).update setBirthdays 0 = .ok compiled ∧
      statement ∈ compiled.statements ∧ on <:+: statement.script ∧
      DerivedTable.Exposes ⟨items, Compiler.mergeAlias, on :: assigned⟩ := by
  obtain ⟨hqueries, hsubqueries, hjoins, hupdates⟩ :=
    derivedTables_expose_iff (c := guestCompiler none)
  refine ⟨?_, ?_, ?_, ?_⟩
  · obtain ⟨statement, hstatement⟩ := exists_ok_of_isSome
      (x := (guestCompiler none).query firstBirthdays) (by decide +kernel)
    obtain ⟨entity, hentity, layers, hscript, hlayered, hexposes⟩ := hqueries _ _ hstatement rfl
    obtain rfl : guestEntity none = entity := Except.ok.inj hentity
    have hwrapped : firstBirthdays.Wrapped true := .inr (.inl ⟨rfl, List.cons_ne_nil _ _⟩)
    refine ⟨statement, layers, hstatement, hscript, hlayered.mpr hwrapped,
      hexposes.mpr fun fields hfields => ?_⟩
    obtain rfl : [{ property := "Born", column := "Birthday" }] = fields := Except.ok.inj hfields
    exact Query.exposes_of_plain hfields (by decide) (by decide)
  · obtain ⟨p, t, hp⟩ := exists_yields_of_isSome
      (m := Criterion.predicate (guestCompiler none) (guestEntity none) rootAlias
        ⟨"Id", .isIn, .subquery guestIds, none⟩) (s := {}) (by decide +kernel)
    obtain ⟨target, column, layers, htarget, htext, hlayered, hexposes⟩ :=
      hsubqueries _ _ _ _ _ _ _ hp rfl rfl
    obtain rfl : ⟨guestEntity none, "Id",
        { property := "Id", column := "Id", role := { primaryKey := true } }, some 5⟩ = target :=
      Except.ok.inj htarget
    refine ⟨p, t, layers, hp, ?_, hlayered.mpr ⟨rfl, .inl (List.cons_ne_nil _ _)⟩,
      hexposes.mpr fun _ _ => by decide +kernel⟩
    rw [htext]
    exact (Sql.infix_parens _).trans (infix_comparison _ _ _)
  · obtain ⟨⟨tables, joining⟩, t, hjoin⟩ := exists_yields_of_isSome
      (m := joinTables (guestCompiler none) (guestEntity none) rootAlias {}
        [⟨.inner, [("Id", "Id")], .equal, guestIds⟩]) (s := {}) (by decide +kernel)
    obtain ⟨target, projected, derived, htarget, hprojected, -, hderived⟩ :=
      hjoins _ _ _ [] _ _ _ _ _ hjoin (settled_rootAlias 0) .nil (List.forall_mem_nil _) _
        List.mem_cons_self (List.cons_ne_nil _ _)
    obtain rfl : guestEntity none = target := Except.ok.inj htarget
    obtain rfl : [{ property := "Id", column := "Id", role := { primaryKey := true } }] =
        projected := Except.ok.inj hprojected
    obtain ⟨tableAlias, select, hsource, -, hexposes⟩ := hderived.exposesKeys
    exact ⟨tables, joining, t, derived, _, select, hjoin, hderived.mem, hsource,
      hexposes.mpr (by decide +kernel)⟩
  · obtain ⟨compiled, statement, hcompiled, hstatement⟩ := exists_singleton_of_length
      (x := (guestCompiler none).update setBirthdays 0) (f := Compiled.statements)
      (by decide +kernel)
    obtain ⟨entity, hentity, ⟨hnone, -⟩ | hmerges⟩ := hupdates _ _ _ hcompiled
    · cases hnone
    · obtain rfl : guestEntity none = entity := Except.ok.inj hentity
      have hmem : statement ∈ compiled.statements := hstatement ▸ List.mem_singleton_self statement
      obtain ⟨table, select, on, items, hscript, -, hexposes⟩ := hmerges statement hmem
      refine ⟨compiled, statement, _, on, items, hcompiled, hmem, ?_,
        hexposes.mpr (by decide +kernel)⟩
      rw [hscript]
      exact Sql.infix_before (Sql.infix_before (Sql.infix_behind (Sql.infix_parens on) _) _) _

/-- Birthdays in an output form are output under the name of their property. The layer that caps
them fills the form again, from a column that is not there. -/
theorem formedBirthdays_not_exposed :
    let form := "TO_CHAR(\x7b0\x7d, 'YYYY')"
    ∃ (statement : Statement) (layers : Layers),
      (guestCompiler (some form)).query firstBirthdays = .ok statement ∧
      statement.script = layers.sql ∧
      statement.script.render = "SELECT TO_CHAR(TB.\"BIRTHDAY\", 'YYYY') AS \"Born\" FROM " ++
        "(SELECT TO_CHAR(TB.\"BIRTHDAY\", 'YYYY') AS \"Born\" FROM \"GUEST\" TB " ++
        "ORDER BY TB.\"BIRTHDAY\" ASC) TB WHERE ROWNUM <= 5" ∧
      ¬ layers.Exposes := by
  intro form
  obtain ⟨statement, hstatement⟩ := exists_ok_of_isSome
    (x := (guestCompiler (some form)).query firstBirthdays) (by decide +kernel)
  have hrender : ((guestCompiler (some form)).query firstBirthdays).toOption.map
      (·.script.render) =
      some ("SELECT TO_CHAR(TB.\"BIRTHDAY\", 'YYYY') AS \"Born\" FROM " ++
        "(SELECT TO_CHAR(TB.\"BIRTHDAY\", 'YYYY') AS \"Born\" FROM \"GUEST\" TB " ++
        "ORDER BY TB.\"BIRTHDAY\" ASC) TB WHERE ROWNUM <= 5") := by
    decide +kernel
  rw [hstatement] at hrender
  obtain ⟨entity, hentity, layers, hscript, -, hexposes⟩ := query_writesLayers hstatement rfl
  obtain rfl : guestEntity (some form) = entity := Except.ok.inj hentity
  refine ⟨statement, layers, hstatement, hscript, Option.some.inj hrender, fun hlayers => ?_⟩
  have hfields : (guestEntity (some form)).queryFields firstBirthdays.fields =
      .ok [{ property := "Born", column := "Birthday", outputForm := some form }] := rfl
  have hwrapped : firstBirthdays.Wrapped true := .inr (.inl ⟨rfl, List.cons_ne_nil _ _⟩)
  have hamong := (hexposes.mp hlayers _ hfields).1 hwrapped
  revert hamong
  decide +kernel

end QueryLoom
