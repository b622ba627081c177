import QueryLoom.Proofs.MentionedAliases
import QueryLoom.Proofs.NestedAliases

/-!
# Scopes of joins

Behind FROM a table and its joins introduce aliases from left to right, and an ON clause may mention
those that stand before it. The aliases of one FROM are all different. They are mentioned in their
scope exactly if no condition is moved out of a join that stands in an ON clause itself.

## Implementation notes

A cross join and a traversal hand their condition to the joining query. The outermost query writes
it behind WHERE, where all aliases are known. A query that is joined itself writes it into its own
ON clause, in front of the join that the condition is about: that is the one way out of scope.
-/

namespace QueryLoom

/-- The aliases that an ON clause mentions outside of SELECTs in parentheses. -/
def JoinedTable.mentioned (joined : JoinedTable) : List String :=
  joined.on.flatMap SearchText.aliases

/-- The aliases that joins introduce, in order. -/
def introduced (joins : List JoinedTable) : List String := joins.map (·.tableAlias)

/-- Every ON clause mentions aliases that are known before, or that its own join or one in front of
it introduces. -/
def ScopedFrom (known : List String) : List JoinedTable → Prop
  | [] => True
  | joined :: rest =>
    (∀ a ∈ joined.mentioned, a ∈ known ++ [joined.tableAlias]) ∧
      ScopedFrom (known ++ [joined.tableAlias]) rest

instance decidableScopedFrom :
    (known : List String) → (joins : List JoinedTable) → Decidable (ScopedFrom known joins)
  | _, [] => inferInstanceAs (Decidable True)
  | known, joined :: rest =>
    have := decidableScopedFrom (known ++ [joined.tableAlias]) rest
    inferInstanceAs (Decidable ((∀ a ∈ joined.mentioned, a ∈ known ++ [joined.tableAlias]) ∧
      ScopedFrom (known ++ [joined.tableAlias]) rest))

theorem scopedFrom_append {known : List String} {a b : List JoinedTable} :
    ScopedFrom known (a ++ b) ↔ ScopedFrom known a ∧ ScopedFrom (known ++ introduced a) b := by
  induction a generalizing known with
  | nil => simp [ScopedFrom, introduced]
  | cons first rest ih =>
    simp only [List.cons_append, ScopedFrom, ih, introduced, List.map_cons, and_assoc,
      List.append_assoc, List.nil_append]

/-- Aliases that no ON clause mentions need not be known. -/
theorem scopedFrom_iff_of_subset {known fewer : List String} {joins : List JoinedTable}
    (hsubset : fewer ⊆ known)
    (h : ∀ joined ∈ joins, ∀ a ∈ joined.mentioned, a ∈ known → a ∈ fewer) :
    ScopedFrom known joins ↔ ScopedFrom fewer joins := by
  induction joins generalizing known fewer with
  | nil => exact Iff.rfl
  | cons first rest ih =>
    have hadd : fewer ++ [first.tableAlias] ⊆ known ++ [first.tableAlias] :=
      List.append_subset.mpr ⟨List.Subset.trans hsubset (List.subset_append_left _ _),
        List.subset_append_right _ _⟩
    have hrest : ScopedFrom (known ++ [first.tableAlias]) rest ↔
        ScopedFrom (fewer ++ [first.tableAlias]) rest := by
      apply ih
      · exact hadd
      · intro joined hjoined a ha hknown
        rcases List.mem_append.mp hknown with hold | hnew
        · exact List.mem_append_left _ (h joined (List.mem_cons_of_mem _ hjoined) a ha hold)
        · exact List.mem_append_right _ hnew
    simp only [ScopedFrom, hrest]
    refine and_congr_left fun _ => ?_
    constructor
    · intro hall a ha
      rcases List.mem_append.mp (hall a ha) with hold | hnew
      · exact List.mem_append_left _ (h first List.mem_cons_self a ha hold)
      · exact List.mem_append_right _ hnew
    · intro hall a ha
      exact hadd (hall a ha)

/-! ## Queries whose joins stay in scope -/

mutual
/-- Whether the condition that a query hands on mentions an alias: that of a traversal, of a
comparison, or of a join. -/
def Query.mentions (query : Query) : Bool :=
  match query with
  | { conditions, joins, recursion, .. } =>
    recursion.isSome || entryColumns conditions != 0 || joinsHoist joins
termination_by structural query

/-- Whether joins hand a condition that mentions an alias to the joining query: cross joins and
joins of traversals do. -/
def joinsHoist (joins : List Join) : Bool :=
  match joins with
  | [] => false
  | ⟨kind, _, _, query⟩ :: rest =>
    (query.combines.isEmpty && (kind == .cross || query.recursion.isSome) && query.mentions) ||
      joinsHoist rest
termination_by structural joins
end

mutual
/-- Whether the joins of a query stay in scope. -/
def Query.inScope (query : Query) : Bool :=
  match query with
  | { joins, .. } => joinsInScope joins
termination_by structural query

/-- Whether joins stay in scope: a query that is joined with an ON clause has no joins that hand it
a condition. A traversal and a query with set operations keep their joins to themselves. -/
def joinsInScope (joins : List Join) : Bool :=
  match joins with
  | [] => true
  | ⟨kind, _, _, query⟩ :: rest =>
    (!query.combines.isEmpty || query.recursion.isSome ||
      (query.inScope && (kind == .cross || !joinsHoist query.joins))) && joinsInScope rest
termination_by structural joins
end

theorem Query.mentions_eq (query : Query) :
    query.mentions =
      (query.recursion.isSome || entryColumns query.conditions != 0 || joinsHoist query.joins) := by
  cases query
  rfl

/-! ## What joins introduce and mention -/

/-- An alias that is handed out from one number on and before another. -/
def HandedOut (m n : Nat) (a : String) : Prop := ∃ k, m ≤ k ∧ k < n ∧ a = nestedAlias k

/-- An alias that is not handed out from a number on. -/
def Settled (m : Nat) (a : String) : Prop := ∀ k, m ≤ k → a ≠ nestedAlias k

theorem Settled.mono {m n : Nat} {a : String} (h : Settled m a) (hmn : m ≤ n) : Settled n a :=
  fun k hk => h k (Nat.le_trans hmn hk)

theorem settled_nestedAlias (m : Nat) : Settled (m + 1) (nestedAlias m) := by
  intro k hk heq
  have := nestedAlias_inj heq
  omega

theorem settled_rootAlias (m : Nat) : Settled m rootAlias :=
  fun k _ heq => nestedAlias_ne_rootAlias k heq.symm

theorem HandedOut.mono {m m' n n' : Nat} {a : String} (h : HandedOut m n a) (hm : m' ≤ m)
    (hn : n ≤ n') : HandedOut m' n' a := by
  obtain ⟨k, hk, hkn, heq⟩ := h
  exact ⟨k, Nat.le_trans hm hk, Nat.lt_of_lt_of_le hkn hn, heq⟩

theorem HandedOut.settled {m n : Nat} {a : String} (h : HandedOut m n a) : Settled n a := by
  obtain ⟨k, -, hkn, rfl⟩ := h
  exact (settled_nestedAlias k).mono hkn

theorem Settled.not_handedOut {m n : Nat} {a : String} (h : Settled m a) : ¬ HandedOut m n a := by
  rintro ⟨k, hk, -, heq⟩
  exact h k hk heq

/-- The joins of a query under an alias, from one number of aliases to another, with the aliases
that the condition handed to the query mentions. -/
structure JoinScope (own : String) (m n : Nat) (joins : List JoinedTable) (hoisted : List String)
    (hoists inScope : Bool) : Prop where
  handedOut : ∀ a ∈ introduced joins, HandedOut m n a
  nodup : (introduced joins).Nodup
  mentioned : ∀ joined ∈ joins, ∀ a ∈ joined.mentioned, a = own ∨ a ∈ introduced joins
  ends : ∀ joined ∈ joins, ∀ text ∈ joined.on, ∀ sql ∈ text.leaves, sql.EndsInSelect
  within : ∀ a ∈ hoisted, a ∈ introduced joins
  hoists : hoisted ≠ [] ↔ hoists = true
  inScope : ScopedFrom [own] joins ↔ inScope = true

namespace JoinScope

variable {own : String} {m n r : Nat} {a b : List JoinedTable} {xs ys : List String}
  {f g u v : Bool}

theorem nil (own : String) (m : Nat) : JoinScope own m m [] [] false true where
  handedOut := by simp [introduced]
  nodup := .nil
  mentioned := by simp
  ends := by simp
  within := by simp
  hoists := by simp
  inScope := by simp [ScopedFrom]

/-- What is introduced later is mentioned in none of the joins before. -/
theorem append (ha : JoinScope own m r a xs f u) (hb : JoinScope own r n b ys g v)
    (hmr : m ≤ r) (hrn : r ≤ n) :
    JoinScope own m n (a ++ b) (xs ++ ys) (f || g) (u && v) := by
  have happend : introduced (a ++ b) = introduced a ++ introduced b := List.map_append
  have hdisjoint : ∀ x ∈ introduced a, x ∉ introduced b := fun x hx hb' =>
    (ha.handedOut x hx).settled.not_handedOut (hb.handedOut x hb')
  constructor
  · intro x hx
    rcases List.mem_append.mp (happend ▸ hx) with h | h
    · exact (ha.handedOut x h).mono (Nat.le_refl _) hrn
    · exact (hb.handedOut x h).mono hmr (Nat.le_refl _)
  · rw [happend]
    exact ha.nodup.append hb.nodup hdisjoint
  · intro joined hjoined x hx
    rw [happend, List.mem_append]
    rcases List.mem_append.mp hjoined with h | h
    · exact (ha.mentioned joined h x hx).imp_right .inl
    · exact (hb.mentioned joined h x hx).imp_right .inr
  · intro joined hjoined
    rcases List.mem_append.mp hjoined with h | h
    · exact ha.ends joined h
    · exact hb.ends joined h
  · intro x hx
    rw [happend, List.mem_append]
    rcases List.mem_append.mp hx with h | h
    · exact .inl (ha.within x h)
    · exact .inr (hb.within x h)
  · rw [Bool.or_eq_true, ← ha.hoists, ← hb.hoists, ne_eq, List.append_eq_nil_iff, not_and_or]
  · have hrest : ScopedFrom ([own] ++ introduced a) b ↔ ScopedFrom [own] b := by
      apply scopedFrom_iff_of_subset
      · exact List.subset_append_left _ _
      · intro joined hjoined x hx hknown
        rcases List.mem_append.mp hknown with h | h
        · exact h
        · rcases hb.mentioned joined hjoined x hx with rfl | hb'
          · exact List.mem_singleton_self _
          · exact absurd hb' (hdisjoint x h)
    rw [scopedFrom_append, hrest, ha.inScope, hb.inScope, Bool.and_eq_true]

theorem mono {m' n' : Nat} (h : JoinScope own m n a xs f u) (hm : m' ≤ m) (hn : n ≤ n') :
    JoinScope own m' n' a xs f u :=
  { h with handedOut := fun x hx => (h.handedOut x hx).mono hm hn }

/-- An alias that is not handed out any more is introduced by none of the joins. -/
theorem not_mem_introduced (h : JoinScope own m n a xs f u) {x : String} (hx : Settled m x) :
    x ∉ introduced a :=
  fun hmem => hx.not_handedOut (h.handedOut x hmem)

end JoinScope

/-! ## One join -/

section OneJoin

variable {c : Compiler} {s t : Scope} {entity target : Entity} {own tableAlias : String}
  {kind : JoinKind} {fields : List (String × String)} {operator : JoinOperator}

/-- The comparisons of joined fields mention the two tables that they compare. -/
theorem joinPredicates_mention {on : List SearchText}
    (h : c.joinPredicates entity target kind fields operator own tableAlias = .ok on) :
    ∀ text ∈ on, text.Mentions [own, tableAlias] := by
  obtain ⟨compared, -, -, rfl⟩ := joinPredicates_eq_ok h
  intro text htext
  obtain ⟨⟨left, right⟩, -, rfl⟩ := List.mem_map.mp htext
  have hleft := c.conventions.column_mentions own left
  have hright := c.conventions.column_mentions tableAlias right
  have hoperator : (Sql.text (" " ++ operator.sql ++ " ")).Mentions [] := .between operator.sql
  have hboth : (joinComparison c operator own tableAlias (left, right)).Mentions
      [own, tableAlias] := (hleft.append hoperator).append hright
  exact .leaf hboth.aliases (.inl hboth.selectless)

/-- Comparisons of joined fields mention no other tables. -/
theorem mentioned_on {on : List SearchText} (hon : ∀ text ∈ on, text.Mentions [own, tableAlias])
    {a : String} (ha : a ∈ on.flatMap SearchText.aliases) : a = own ∨ a = tableAlias := by
  obtain ⟨text, htext, ha⟩ := List.mem_flatMap.mp ha
  rw [(hon text htext).aliases] at ha
  simpa using ha

/-- A join in front of the joins of its own query. Its ON clause is in scope exactly if it mentions
none of these. -/
theorem JoinScope.cons {source : JoinSource} {on : List SearchText} {m r n : Nat}
    {joins : List JoinedTable} {hoisted inner : List String} {f hoists u : Bool}
    (hinner : JoinScope tableAlias r n joins inner f u) (outer : List String) (hrn : r ≤ n)
    (halias : HandedOut m r tableAlias) (hown : Settled m own)
    (hends : ∀ text ∈ on, ∀ sql ∈ text.leaves, sql.EndsInSelect)
    (hmentioned : ∀ a ∈ on.flatMap SearchText.aliases, a = own ∨ a = tableAlias ∨ a ∈ outer)
    (houter : ∀ a ∈ outer, a ∈ on.flatMap SearchText.aliases ∧ a ∈ introduced joins)
    (hhoisted : ∀ a ∈ hoisted, a = tableAlias ∨ a ∈ introduced joins)
    (hhoists : hoisted ≠ [] ↔ hoists = true) :
    JoinScope own m n (⟨kind, source, tableAlias, on⟩ :: joins) hoisted hoists
      (u && outer.isEmpty) := by
  have hmr : m ≤ r := by
    obtain ⟨k, hk, hkr, -⟩ := halias
    omega
  have hnotOwn : own ∉ introduced joins := hinner.not_mem_introduced (hown.mono hmr)
  have hnotAlias : tableAlias ∉ introduced joins := hinner.not_mem_introduced halias.settled
  have hintroduced : introduced (⟨kind, source, tableAlias, on⟩ :: joins) =
      tableAlias :: introduced joins := rfl
  constructor
  · rw [hintroduced]
    intro a ha
    rcases List.mem_cons.mp ha with rfl | ha
    · exact halias.mono (Nat.le_refl _) hrn
    · exact (hinner.handedOut a ha).mono hmr (Nat.le_refl _)
  · exact List.nodup_cons.mpr ⟨hnotAlias, hinner.nodup⟩
  · rw [hintroduced]
    intro joined hjoined a ha
    rw [List.mem_cons]
    rcases List.mem_cons.mp hjoined with rfl | hjoined
    · rcases hmentioned a ha with h | h | h
      · exact .inl h
      · exact .inr (.inl h)
      · exact .inr (.inr (houter a h).2)
    · exact .inr (hinner.mentioned joined hjoined a ha)
  · intro joined hjoined
    rcases List.mem_cons.mp hjoined with rfl | hjoined
    · exact hends
    · exact hinner.ends joined hjoined
  · intro a ha
    rw [hintroduced, List.mem_cons]
    exact hhoisted a ha
  · exact hhoists
  · have hrest : ScopedFrom [own, tableAlias] joins ↔ ScopedFrom [tableAlias] joins := by
      apply scopedFrom_iff_of_subset
      · exact List.subset_cons_self _ _
      · intro joined hjoined a ha hknown
        rcases hinner.mentioned joined hjoined a ha with h | h
        · rw [h]
          exact List.mem_singleton_self _
        · rcases List.mem_cons.mp hknown with rfl | hknown
          · exact absurd h hnotOwn
          · exact hknown
    -- what the ON clause mentions beyond its own two tables is introduced only behind it
    have hon : (∀ a ∈ on.flatMap SearchText.aliases, a ∈ [own, tableAlias]) ↔ outer = [] := by
      constructor
      · intro hall
        refine List.eq_nil_iff_forall_not_mem.mpr fun a ha => ?_
        obtain ⟨hmem, hin⟩ := houter a ha
        rcases List.mem_cons.mp (hall a hmem) with rfl | hmem
        · exact hnotOwn hin
        · exact hnotAlias (List.mem_singleton.mp hmem ▸ hin)
      · rintro rfl a ha
        rcases hmentioned a ha with h | h | h
        · simp [h]
        · simp [h]
        · cases h
    have hscoped : ScopedFrom [own] (⟨kind, source, tableAlias, on⟩ :: joins) ↔
        (∀ a ∈ on.flatMap SearchText.aliases, a ∈ [own, tableAlias]) ∧
          ScopedFrom [own, tableAlias] joins := Iff.rfl
    rw [hscoped, hon, hrest, hinner.inScope, Bool.and_eq_true, List.isEmpty_iff, and_comm]

/-- A join that brings no joins of its own is in scope. -/
theorem JoinScope.single {source : JoinSource} {on : List SearchText} {m n : Nat}
    {hoisted : List String} {hoists : Bool} (hon : ∀ text ∈ on, text.Mentions [own, tableAlias])
    (halias : HandedOut m n tableAlias) (hown : Settled m own)
    (hhoisted : ∀ a ∈ hoisted, a = tableAlias) (hhoists : hoisted ≠ [] ↔ hoists = true) :
    JoinScope own m n [⟨kind, source, tableAlias, on⟩] hoisted hoists true := by
  refine (JoinScope.nil tableAlias n).cons [] (Nat.le_refl n) halias hown
    (fun text htext => (hon text htext).ends) ?_ (by simp)
    (fun a ha => .inl (hhoisted a ha)) hhoists
  intro a ha
  exact (mentioned_on hon ha).imp_right .inl

/-- An ON clause with a condition at its end mentions what both do, also where the condition is
empty. -/
theorem mentioned_on_operand {on : List SearchText} {p : Predicate} {xs : List String}
    (hp : p.text.Mentions xs) {a : String} :
    a ∈ (if !p.isEmpty then on ++ [p.operand] else on).flatMap SearchText.aliases ↔
      a ∈ on.flatMap SearchText.aliases ∨ a ∈ xs := by
  by_cases hempty : p.isEmpty = true
  · rw [hempty, Predicate.aliases_of_isEmpty hp hempty]
    simp
  · have hfull : (!p.isEmpty) = true := by simpa using hempty
    rw [if_pos hfull, List.flatMap_append, List.mem_append, List.flatMap_singleton,
      (Predicate.mentions_operand hp).aliases]

/-- A join without the condition of its query, in front of the joins of the query, stays in scope
if these do. -/
theorem JoinScope.handingOn {source : JoinSource} {on : List SearchText} {m r n k : Nat}
    {joins : List JoinedTable} {hoisted : List String} {f u : Bool}
    (hinner : JoinScope tableAlias r n joins hoisted f u) (hrn : r ≤ n)
    (halias : HandedOut m r tableAlias) (hown : Settled m own)
    (hon : ∀ text ∈ on, text.Mentions [own, tableAlias]) :
    JoinScope own m n (⟨kind, source, tableAlias, on⟩ :: joins)
      (List.replicate k tableAlias ++ hoisted) (k != 0 || f) u := by
  have hhoists : List.replicate k tableAlias ++ hoisted ≠ [] ↔ (k != 0 || f) = true := by
    rw [Bool.or_eq_true, ← hinner.hoists, bne_iff_ne, ne_eq, List.append_eq_nil_iff,
      List.replicate_eq_nil_iff, not_and_or]
  have hwithin : ∀ a ∈ List.replicate k tableAlias ++ hoisted,
      a = tableAlias ∨ a ∈ introduced joins := by
    intro a ha
    rcases List.mem_append.mp ha with h | h
    · exact .inl (List.eq_of_mem_replicate h)
    · exact .inr (hinner.within a h)
  have h : JoinScope own m n (⟨kind, source, tableAlias, on⟩ :: joins) _ _ (u && true) :=
    hinner.cons [] hrn halias hown (fun text htext => (hon text htext).ends)
      (fun a ha => (mentioned_on hon ha).imp_right .inl) (by simp) hwithin hhoists
  rwa [Bool.and_true] at h

/-- A join with the condition of its query in the ON clause, in front of the joins of the query,
stays in scope if these do and the condition is about none of them. -/
theorem JoinScope.keeping {source : JoinSource} {on : List SearchText} {m r n k : Nat}
    {joins : List JoinedTable} {hoisted : List String} {f u : Bool} {p : Predicate}
    (hinner : JoinScope tableAlias r n joins hoisted f u) (hrn : r ≤ n)
    (halias : HandedOut m r tableAlias) (hown : Settled m own)
    (hon : ∀ text ∈ on, text.Mentions [own, tableAlias])
    (hp : p.text.Mentions (List.replicate k tableAlias ++ hoisted)) :
    JoinScope own m n
      (⟨kind, source, tableAlias, if !p.isEmpty then on ++ [p.operand] else on⟩ :: joins)
      [] false (u && !f) := by
  have houter : hoisted.isEmpty = !f := by
    rw [Bool.eq_iff_iff, List.isEmpty_iff, Bool.not_eq_true', ← Bool.not_eq_true,
      ← hinner.hoists, not_not]
  rw [← houter]
  refine hinner.cons hoisted hrn halias hown ?_ ?_ ?_ (by simp) (by simp)
  · intro text htext
    split at htext
    · rcases List.mem_append.mp htext with h | h
      · exact (hon text h).ends
      · rw [List.mem_singleton.mp h]
        exact (Predicate.mentions_operand hp).ends
    · exact (hon text htext).ends
  · intro a ha
    rcases (mentioned_on_operand hp).mp ha with h | h
    · exact (mentioned_on hon h).imp_right .inl
    · rcases List.mem_append.mp h with h | h
      · exact .inr (.inl (List.eq_of_mem_replicate h))
      · exact .inr (.inr h)
  · intro a ha
    exact ⟨(mentioned_on_operand hp).mpr (.inr (List.mem_append_right _ ha)), hinner.within a ha⟩

end OneJoin

/-! ## All joins of a query -/

/-- The alias of the table that the joins of a query stand behind: that of its traversal, if it has
one. -/
def Query.fromAlias (query : Query) (tableAlias : String) (next : Nat) : String :=
  if query.recursion.isSome then nestedAlias next else tableAlias

/-- The clauses of a query under an alias: its joins, and a condition that mentions the alias, and
behind it what joins have handed to the query; a traversal mentions the alias alone. -/
structure ClauseScope (query : Query) (tableAlias : String) (m n : Nat) (clauses : Clauses)
    (hoisted : List String) : Prop where
  joins : JoinScope (query.fromAlias tableAlias m) m n clauses.join hoisted
    (joinsHoist query.joins) query.inScope
  fromAlias_new : query.fromAlias tableAlias m ∉ introduced clauses.join
  condition : clauses.condition.Mentions
    (if query.recursion.isSome then [tableAlias]
      else List.replicate (entryColumns query.conditions) tableAlias ++ hoisted)
  allowJoin : clauses.allowJoin = query.recursion.isNone
  combine : clauses.combine.isEmpty = query.combines.isEmpty

section Joined

variable {c : Compiler} {s t : Scope} {entity target : Entity} {own tableAlias : String}
  {kind : JoinKind} {fields : List (String × String)} {operator : JoinOperator}
  {projection : List String} {query : Query} {sub : Clauses} {condition joining : Predicate}
  {tables : List JoinedTable}

/-- The tables that the join of a query adds, and what it hands to the joining query. -/
theorem joinedTables_scope {m : Nat} {hoisted xs : List String}
    (hsub : ClauseScope query tableAlias (m + 1) s.nextAlias sub hoisted)
    (hms : m + 1 ≤ s.nextAlias) (halias : tableAlias = nestedAlias m) (hown : Settled m own)
    (hcondition : condition.text.Mentions xs)
    (h : Yields (c.joinedTables entity own target tableAlias kind fields operator projection sub
      condition) s (tables, joining) t) :
    ∃ handed, joining.text.Mentions (xs ++ handed) ∧
      JoinScope own m t.nextAlias tables handed
        (query.combines.isEmpty && (kind == .cross || query.recursion.isSome) && query.mentions)
        (!query.combines.isEmpty || query.recursion.isSome ||
          (query.inScope && (kind == .cross || !joinsHoist query.joins))) := by
  have hhanded : HandedOut m (m + 1) tableAlias := ⟨m, Nat.le_refl m, Nat.lt_succ_self m, halias⟩
  rcases joinedTables_yields h with ⟨hcombine, rfl, on, hon, rfl, rfl⟩ |
    ⟨hcombine, rfl, derivedAlias, projected, on, hderived, -, hon, rfl⟩
  · have hempty : query.combines.isEmpty = true := by
      rw [← hsub.combine, hcombine]
      rfl
    have hon := joinPredicates_mention hon
    have hcarried : sub.predicate.text.Mentions _ := hsub.condition
    cases hrecursion : query.recursion with
    | some spec =>
      have hallow : sub.allowJoin = false := by rw [hsub.allowJoin, hrecursion]; rfl
      have hmentions : query.mentions = true := by rw [Query.mentions_eq, hrecursion]; rfl
      have hcarries : sub.predicate.text.Mentions [tableAlias] := by
        rw [hrecursion] at hcarried
        exact hcarried
      refine ⟨[tableAlias], ?_, ?_⟩
      · simpa [hallow] using Predicate.mentions_and hcondition hcarries
      · simp only [hallow, hempty, hmentions, Clauses.usableJoin, Bool.false_and, Bool.and_false,
          Option.isSome_some, Bool.or_true, Bool.and_true, Bool.false_eq_true, if_false,
          Bool.true_or]
        exact .single hon (hhanded.mono (Nat.le_refl _) hms) hown (by simp) (by simp)
    | none =>
      have hallow : sub.allowJoin = true := by rw [hsub.allowJoin, hrecursion]; rfl
      have hjoins := hsub.joins
      rw [Query.fromAlias, hrecursion, Option.isSome_none, if_neg Bool.false_ne_true] at hjoins
      have hcarries : sub.predicate.text.Mentions
          (List.replicate (entryColumns query.conditions) tableAlias ++ hoisted) := by
        rw [hrecursion] at hcarried
        exact hcarried
      have husable : sub.usableJoin = sub.join := by rw [Clauses.usableJoin, hallow, if_pos rfl]
      have hmentions : query.mentions =
          (entryColumns query.conditions != 0 || joinsHoist query.joins) := by
        rw [Query.mentions_eq, hrecursion, Option.isSome_none, Bool.false_or]
      rw [husable, hallow, hempty, hmentions]
      cases hkind : kind == .cross with
      | true =>
        have hjoined : JoinScope own m s.nextAlias
            (⟨kind, .table (c.table target), tableAlias, on⟩ :: sub.join)
            (List.replicate (entryColumns query.conditions) tableAlias ++ hoisted) _ _ :=
          hjoins.handingOn hms hhanded hown hon
        exact ⟨List.replicate (entryColumns query.conditions) tableAlias ++ hoisted,
          by simpa [bne, hkind] using Predicate.mentions_and hcondition hcarries,
          by simpa [bne, hkind] using hjoined⟩
      | false =>
        have hjoined : JoinScope own m s.nextAlias
            (⟨kind, .table (c.table target), tableAlias, _⟩ :: sub.join) [] _ _ :=
          hjoins.keeping hms hhanded hown hon hcarries
        exact ⟨[], by simpa [bne, hkind] using hcondition, by simpa [bne, hkind] using hjoined⟩
  · have hempty : query.combines.isEmpty = false := by
      rw [← hsub.combine]
      exact List.isEmpty_eq_false_iff.mpr hcombine
    obtain ⟨rfl, hnext⟩ := freshAlias_yields_nestedAlias hderived
    refine ⟨[], by rwa [List.append_nil], ?_⟩
    simp only [hempty, Bool.false_and, Bool.not_false, Bool.true_or]
    refine .single (joinPredicates_mention hon) ⟨s.nextAlias, ?_, ?_, rfl⟩ hown (by simp) (by simp)
    · exact Nat.le_of_succ_le hms
    · rw [hnext]
      exact Nat.lt_succ_self _

theorem traversalScript_startsSelect (table innerAlias : String) (clauses : Clauses)
    (keyColumn relationColumn : Sql) (direction : TraversalDirection) :
    (traversalScript table innerAlias clauses keyColumn relationColumn direction).StartsSelect := by
  unfold traversalScript
  simp only [List.append_assoc]
  exact Sql.startsSelect_text (by decide) _

theorem combinedSelects_isEmpty {combines : List Combine} {combine : List CombinedSelect}
    {trace : Trace}
    (h : Yields (combinedSelects c entity projection combines) s (combine, trace) t) :
    combine.isEmpty = combines.isEmpty := by
  cases combines with
  | nil =>
    obtain ⟨rfl, -, -⟩ := combinedSelects_nil_yields.mp h
    rfl
  | cons first rest =>
    obtain ⟨nestedAlias, r₁, target, sub, r₂, items, others, restTrace, -, -, -, -, -, rfl, -⟩ :=
      combinedSelects_cons_yields h
    rfl

/-- The alias of a traversal, or of the query itself, is handed out before those of its joins. -/
theorem traversalAlias_fromAlias {innerAlias : String}
    (h : Yields (traversalAlias query.recursion tableAlias) s innerAlias t)
    (halias : Settled s.nextAlias tableAlias) :
    innerAlias = query.fromAlias tableAlias s.nextAlias ∧ s.nextAlias ≤ t.nextAlias ∧
      Settled t.nextAlias innerAlias := by
  unfold traversalAlias at h
  unfold Query.fromAlias
  split at h
  · rename_i hrecursion
    obtain ⟨rfl, hnext⟩ := freshAlias_yields_nestedAlias h
    rw [if_pos hrecursion, hnext]
    exact ⟨rfl, Nat.le_succ _, settled_nestedAlias _⟩
  · rename_i hrecursion
    obtain ⟨rfl, rfl⟩ := yields_pure.mp h
    rw [if_neg hrecursion]
    exact ⟨rfl, Nat.le_refl _, halias⟩

end Joined

mutual
theorem Query.clauses_scope {c : Compiler} (query : Query) {fields : List String}
    {tableAlias : String} {sorted : Bool} {s t : Scope} {clauses : Clauses}
    (h : Yields (query.clauses c fields tableAlias sorted) s clauses t)
    (halias : Settled s.nextAlias tableAlias) :
    ∃ hoisted, ClauseScope query tableAlias s.nextAlias t.nextAlias clauses hoisted := by
  obtain ⟨entity, innerAlias, r₁, condition, r₂, sort, r₃, combine, trace, r₄, join, joining, -,
    hinner, hcondition, hsort, hcombine, hjoin, htraversal⟩ := Query.clauses_yields h
  obtain ⟨hown, hr₁, hsettled⟩ := traversalAlias_fromAlias hinner halias
  have hr₂ := foldEntries_advances _ _ _ _ _ _ _ hcondition
  have hr₃ := sortClause_advances _ _ _ _ _ _ _ hsort
  have hr₄ := combinedSelects_advances _ _ _ _ _ _ hcombine
  have hle : r₁.nextAlias ≤ r₄.nextAlias := Nat.le_trans hr₂ (Nat.le_trans hr₃ hr₄)
  have hempty : ({} : Predicate).text.Mentions [] := .nil
  have hmentions := foldEntries_mentions query.conditions hempty hcondition
  have htraced : ({ condition with trace := condition.trace ++ trace } : Predicate).text.Mentions
      ([] ++ List.replicate (entryColumns query.conditions) innerAlias) := hmentions
  have hisEmpty := combinedSelects_isEmpty hcombine
  obtain ⟨name, conditions, sorts, joins, combines, recursion, rest⟩ := query
  obtain ⟨hoisted, hjoining, hjoins⟩ := joinTables_scope joins hjoin (hsettled.mono hle) htraced
  have hnew := hjoins.not_mem_introduced (hsettled.mono hle)
  have hscope := hjoins.mono (Nat.le_trans hr₁ hle) (Nat.le_refl _)
  subst hown
  refine ⟨hoisted, ?_⟩
  rcases traversal_eq_ok htraversal with ⟨hnone, rfl⟩ |
    ⟨spec, key, relation, hsome, -, -, rfl⟩
  · dsimp only at hnone
    subst hnone
    exact ⟨hscope, hnew, hjoining, rfl, hisEmpty⟩
  · dsimp only at hsome
    subst hsome
    refine ⟨hscope, hnew, ?_, rfl, hisEmpty⟩
    exact comparison_select_mentions .isIn (c.conventions.column_mentions tableAlias key)
      (traversalScript_startsSelect _ _ _ _ _ _)
termination_by structural query

theorem joinTables_scope {c : Compiler} (joins : List Join) {entity : Entity}
    {own : String} {condition joining : Predicate} {join : List JoinedTable} {s t : Scope}
    {xs : List String} (h : Yields (joinTables c entity own condition joins) s (join, joining) t)
    (hown : Settled s.nextAlias own) (hcondition : condition.text.Mentions xs) :
    ∃ hoisted, joining.text.Mentions (xs ++ hoisted) ∧
      JoinScope own s.nextAlias t.nextAlias join hoisted (joinsHoist joins)
        (joinsInScope joins) := by
  cases joins with
  | nil =>
    obtain ⟨rfl, rfl, rfl⟩ := joinTables_nil_yields.mp h
    refine ⟨[], by rwa [List.append_nil], ?_⟩
    exact .nil own s.nextAlias
  | cons first rest =>
    obtain ⟨tableAlias, r₁, target, sub, r₂, tables, between, r₃, others, halias, -, hsub, htables,
      hrest, rfl⟩ := joinTables_cons_yields h
    obtain ⟨kind, fields, operator, query⟩ := first
    obtain ⟨hnested, hr₁⟩ := freshAlias_yields_nestedAlias halias
    have hr₂ := Query.clauses_advances _ _ _ _ _ _ _ hsub
    have hr₃ := joinedTables_advances _ _ _ _ _ _ _ _ _ _ _ _ _ htables
    have ht := joinTables_advances _ _ _ _ _ _ _ hrest
    have hsettled : Settled r₁.nextAlias tableAlias := by
      rw [hr₁, hnested]
      exact settled_nestedAlias _
    obtain ⟨inner, hscope⟩ := Query.clauses_scope query hsub hsettled
    rw [hr₁] at hscope
    have htraced : ({ condition with trace := condition.trace ++ sub.trace } :
        Predicate).text.Mentions xs := hcondition
    obtain ⟨handed, hbetween, hfirst⟩ := joinedTables_scope hscope (hr₁ ▸ hr₂) hnested hown
      htraced htables
    have hle : s.nextAlias ≤ r₃.nextAlias := by omega
    obtain ⟨hoisted, hjoining, hothers⟩ := joinTables_scope rest hrest (hown.mono hle) hbetween
    refine ⟨handed ++ hoisted, by rwa [List.append_assoc] at hjoining, ?_⟩
    rw [joinsHoist, joinsInScope]
    exact hfirst.append hothers hle ht
termination_by structural joins
end

/-- The joins of a query introduce different aliases, none of which is that of the table in front of
them, and their ON clauses mention no others. The ON clauses mention what stands before them exactly
if no query that is joined with an ON clause has a join that hands it a condition. -/
theorem joins_scoped_iff {c : Compiler} {query : Query} {fields : List String}
    {tableAlias : String} {sorted : Bool} {s t : Scope} {clauses : Clauses}
    (h : Yields (query.clauses c fields tableAlias sorted) s clauses t)
    (halias : Settled s.nextAlias tableAlias) :
    let own := query.fromAlias tableAlias s.nextAlias
    (own :: introduced clauses.join).Nodup ∧
    (∀ joined ∈ clauses.join, ∀ text ∈ joined.on, ∀ sql ∈ text.leaves, sql.EndsInSelect) ∧
    (∀ joined ∈ clauses.join, ∀ a ∈ joined.mentioned, a ∈ own :: introduced clauses.join) ∧
    (ScopedFrom [own] clauses.join ↔ query.inScope = true) := by
  obtain ⟨hoisted, hscope⟩ := Query.clauses_scope query h halias
  refine ⟨?_, hscope.joins.ends, ?_, hscope.joins.inScope⟩
  · exact List.nodup_cons.mpr ⟨hscope.fromAlias_new, hscope.joins.nodup⟩
  · intro joined hjoined a ha
    exact List.mem_cons.mpr (hscope.joins.mentioned joined hjoined a ha)

/-- A schema of players, their teams, and cities. -/
def leagueCompiler : Compiler where
  schema := ⟨[
    { name := "Player", table := "PLAYER", fields := [
      { property := "Id", column := "Id" }, { property := "TeamId", column := "TeamId" }] },
    { name := "Team", table := "TEAM", fields := [
      { property := "Id", column := "Id" }, { property := "Name", column := "Name" }] },
    { name := "City", table := "CITY", fields := [
      { property := "Id", column := "Id" }, { property := "Name", column := "Name" }] }]⟩

/-- The players with their teams, and the cities of a name by a join of the teams. -/
def playersInCity (kind : JoinKind) : Query where
  entity := "Player"
  joins := [⟨.inner, [("TeamId", "Id")], .equal, {
    entity := "Team"
    joins := [⟨kind, [("Name", "Name")], .equal, {
      entity := "City"
      conditions := [⟨.and, .criterion ⟨"Name", .equal, .text "Bonn", none⟩⟩] }⟩] }⟩]

/-- A condition on a table that is joined with an ON clause of its own stays in scope. -/
theorem innerJoins_scoped :
    ∃ clauses t, Yields ((playersInCity .inner).clauses leagueCompiler [] rootAlias true) {}
        clauses t ∧
      introduced clauses.join = ["TSB0", "TSB1"] ∧ ScopedFrom [rootAlias] clauses.join := by
  obtain ⟨clauses, t, h⟩ := exists_yields_of_isSome
    (m := (playersInCity .inner).clauses leagueCompiler [] rootAlias true) (s := {})
    (by decide +kernel)
  have hintroduced :
      (((playersInCity .inner).clauses leagueCompiler [] rootAlias true).run.run {}).1.toOption.map
        (fun clauses => introduced clauses.join) = some ["TSB0", "TSB1"] := by
    decide +kernel
  rw [h] at hintroduced
  refine ⟨clauses, t, h, Option.some.inj hintroduced, ?_⟩
  exact (joins_scoped_iff h (settled_rootAlias 0)).2.2.2.mpr (by decide)

/-- The condition on a table that is cross joined by a joined table is written into the ON clause of
that one, in front of the table that it is about. -/
theorem nestedCrossJoin_not_scoped :
    ∃ clauses t, Yields ((playersInCity .cross).clauses leagueCompiler [] rootAlias true) {}
        clauses t ∧
      (JoinedTable.list clauses.join).render =
        "INNER JOIN \"TEAM\" TSB0 ON TB.\"TEAMID\" = TSB0.\"ID\" AND TSB1.\"NAME\" = :Name0 " ++
          "CROSS JOIN \"CITY\" TSB1" ∧
      ¬ ScopedFrom [rootAlias] clauses.join := by
  obtain ⟨clauses, t, h⟩ := exists_yields_of_isSome
    (m := (playersInCity .cross).clauses leagueCompiler [] rootAlias true) (s := {})
    (by decide +kernel)
  have hread :
      (((playersInCity .cross).clauses leagueCompiler [] rootAlias true).run.run {}).1.toOption.map
        (fun clauses => ((JoinedTable.list clauses.join).render,
          decide (ScopedFrom [rootAlias] clauses.join))) =
      some ("INNER JOIN \"TEAM\" TSB0 ON TB.\"TEAMID\" = TSB0.\"ID\" AND " ++
        "TSB1.\"NAME\" = :Name0 CROSS JOIN \"CITY\" TSB1", false) := by
    decide +kernel
  rw [h] at hread
  obtain ⟨hrender, hscoped⟩ := Prod.mk.inj (Option.some.inj hread)
  exact ⟨clauses, t, h, hrender, of_decide_eq_false hscoped⟩

end QueryLoom
