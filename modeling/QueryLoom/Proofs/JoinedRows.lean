import Mathlib.Data.List.Nodup
import QueryLoom.Proofs.JoinScopes
import QueryLoom.Proofs.LayeredRows

/-!
# Rows of joins

The rows of a SELECT from a table with a chain of joins: each join goes with the rows that the joins
before it have left, from left to right, and WHERE lets through what passes. A row of the first
table is listed once for each way in which the chain extends it.

## Implementation notes

A row of a chain keeps the columns of every table under the alias of the table; under an alias that
a row has no partner for, all columns are missing. An outer join also brings in rows that have no
partner on their left, with everything missing there, so a chain is split into what belongs to the
rows of the first table and what belongs to none.
-/

namespace QueryLoom

/-! ## Lists -/

/-- Of rows with different values, one at most has a given value. -/
theorem length_filter_le_one {α β : Type} {test : α → Bool} {f : α → β} {xs : List α} {b : β}
    (hunique : (xs.map f).Nodup) (h : ∀ x ∈ xs, test x = true → f x = b) :
    (xs.filter test).length ≤ 1 := by
  have hsame : ∀ value ∈ (xs.filter test).map f, value = b := by
    intro value hvalue
    obtain ⟨x, hx, rfl⟩ := List.mem_map.mp hvalue
    obtain ⟨hmem, htest⟩ := List.mem_filter.mp hx
    exact h x hmem htest
  have hnodup : ((xs.filter test).map f).Nodup :=
    (List.filter_sublist.map f).nodup hunique
  rwa [List.eq_replicate_of_mem hsame, List.nodup_replicate, List.length_map] at hnodup

/-- If every member of a list is made into copies of its key, and the keys are different, then the
key of a member is there once for each of its own copies. -/
theorem count_flatMap_of_nodup {α β : Type} [BEq β] [LawfulBEq β] {f : α → List β} {key : α → β}
    {xs : List α} (hcopies : ∀ x ∈ xs, ∀ b ∈ f x, b = key x) (hunique : (xs.map key).Nodup) {x : α}
    (hx : x ∈ xs) : (xs.flatMap f).count (key x) = (f x).length := by
  induction xs with
  | nil => cases hx
  | cons first rest ih =>
    obtain ⟨hfirst, hrest⟩ := List.forall_mem_cons.mp hcopies
    obtain ⟨hnew, hothers⟩ := List.nodup_cons.mp hunique
    have hother {y : α} (hy : y ∈ rest) : key y ≠ key first := fun h =>
      hnew (h ▸ List.mem_map_of_mem hy)
    rw [List.flatMap_cons, List.count_append]
    rcases List.mem_cons.mp hx with rfl | hmem
    · have hown : (f x).count (key x) = (f x).length := List.count_eq_length.mpr fun b hb =>
        (hfirst b hb).symm
      have hnone : (rest.flatMap f).count (key x) = 0 := by
        rw [List.count_eq_zero]
        intro h
        obtain ⟨y, hy, hb⟩ := List.mem_flatMap.mp h
        exact hother hy (hrest y hy _ hb).symm
      rw [hown, hnone, Nat.add_zero]
    · have hnone : (f first).count (key x) = 0 := by
        rw [List.count_eq_zero]
        intro h
        exact hother hmem (hfirst _ h)
      rw [hnone, Nat.zero_add, ih hrest hothers hmem]

/-! ## Rows -/

/-- What the tables of a database hold, and what expressions and conditions say about the rows of
joins. -/
structure Contents (V : Type) where
  /-- The rows of a table, by the names that identifiers of columns stand for. -/
  rows : JoinSource → List (String → V)
  /-- What a missing column is worth. -/
  null : V
  /-- What an expression is worth in a row. -/
  value : Sql → Columns V → V
  /-- Whether a leaf of a search condition is true of a row. -/
  truth : Sql → Columns V → Bool
  value_column : ∀ tableAlias name columns,
    value (Sql.column tableAlias name) columns = columns tableAlias (resolvedName name)
  truth_equal : ∀ left leftName right rightName columns,
    truth (Sql.column left leftName ++ Sql.text " = " ++ Sql.column right rightName) columns =
      true → columns left (resolvedName leftName) = columns right (resolvedName rightName)

namespace JoinKind

/-- A join that keeps rows without a partner in the joined table. -/
def keepsLeft : JoinKind → Bool
  | left | full => true
  | _ => false

/-- A join that keeps rows of the joined table without a partner. -/
def keepsRight : JoinKind → Bool
  | right | full => true
  | _ => false

end JoinKind

namespace Contents

variable {V : Type} (d : Contents V)

/-- No row of any table. -/
def nothing : Columns V := fun _ _ => d.null

/-- Whether a search condition is true of a row. -/
def holds (columns : Columns V) (text : SearchText) : Bool :=
  text.value fun leaf => d.truth leaf columns

/-- Whether all items of an ON clause are true of a row. -/
def meets (joined : JoinedTable) (columns : Columns V) : Bool :=
  joined.on.all (d.holds columns)

/-- A row with each of its partners in a joined table. -/
def partners (joined : JoinedTable) (columns : Columns V) : List (Columns V) :=
  ((d.rows joined.source).map (Function.update columns joined.tableAlias)).filter (d.meets joined)

/-- What a join makes of a row: one row for each partner, or one that misses the joined table if the
join keeps rows without a partner. -/
def extended (joined : JoinedTable) (columns : Columns V) : List (Columns V) :=
  if joined.kind.keepsLeft && (d.partners joined columns).isEmpty then
    [Function.update columns joined.tableAlias fun _ => d.null]
  else d.partners joined columns

/-- The rows of a joined table that have no partner among some rows, if the join keeps them. -/
def unmatched (joined : JoinedTable) (lefts : List (Columns V)) : List (Columns V) :=
  if joined.kind.keepsRight then
    ((d.rows joined.source).filter fun row =>
      lefts.all fun columns => !d.meets joined (Function.update columns joined.tableAlias row)).map
        (Function.update d.nothing joined.tableAlias)
  else []

/-- The rows of a join with the rows on its left. -/
def join (lefts : List (Columns V)) (joined : JoinedTable) : List (Columns V) :=
  lefts.flatMap (d.extended joined) ++ d.unmatched joined lefts

/-- A row of a table alone, under an alias. -/
def alone (tableAlias : String) (row : String → V) : Columns V :=
  Function.update d.nothing tableAlias row

/-- The rows of a table with a chain of joins. -/
def source (table tableAlias : String) (joins : List JoinedTable) : List (Columns V) :=
  joins.foldl d.join ((d.rows (.table table)).map (d.alone tableAlias))

/-- The values that a projection shows of a row. -/
def project (items : List SelectItem) (columns : Columns V) : List V :=
  items.map fun item => d.value item.expression columns

/-- The rows of a SELECT of some items from a table with joins and a condition. -/
def answer (items : List SelectItem) (table tableAlias : String) (joins : List JoinedTable)
    (condition : SearchText) : List (List V) :=
  ((d.source table tableAlias joins).filter fun columns => d.holds columns condition).map
    (d.project items)

/-! ## Chains of joins -/

/-- What a chain of joins makes of one row. -/
def chained : List JoinedTable → Columns V → List (Columns V)
  | [], columns => [columns]
  | joined :: rest, columns => (d.extended joined columns).flatMap (chained rest)

variable {d}

/-- A join leaves what stands under other aliases. -/
theorem extended_apply {joined : JoinedTable} {columns both : Columns V} {own : String}
    (h : both ∈ d.extended joined columns) (hown : own ≠ joined.tableAlias) :
    both own = columns own := by
  unfold extended at h
  split at h
  · rw [List.mem_singleton.mp h, Function.update_of_ne hown]
  · obtain ⟨row, -, rfl⟩ := List.mem_map.mp (List.mem_filter.mp h).1
    exact Function.update_of_ne hown row columns

theorem chained_apply {joins : List JoinedTable} {columns both : Columns V} {own : String}
    (h : both ∈ d.chained joins columns) (hown : own ∉ introduced joins) :
    both own = columns own := by
  induction joins generalizing columns with
  | nil => rw [List.mem_singleton.mp h]
  | cons joined rest ih =>
    obtain ⟨hfirst, hrest⟩ := not_or.mp (mt List.mem_cons.mpr hown)
    obtain ⟨between, hbetween, hboth⟩ := List.mem_flatMap.mp h
    rw [ih hboth hrest, extended_apply hbetween hfirst]

/-- What an outer join brings in misses everything on its left. -/
theorem unmatched_apply {joined : JoinedTable} {lefts : List (Columns V)} {columns : Columns V}
    {own : String} (h : columns ∈ d.unmatched joined lefts) (hown : own ≠ joined.tableAlias) :
    columns own = d.nothing own := by
  unfold unmatched at h
  split at h
  · obtain ⟨row, -, rfl⟩ := List.mem_map.mp h
    exact Function.update_of_ne hown row d.nothing
  · cases h

/-- The rows of a chain of joins: what the chain makes of each row before it, and rows that miss
everything that stands before it. -/
theorem foldl_join {joins : List JoinedTable} {own : String} (hown : own ∉ introduced joins)
    (lefts : List (Columns V)) :
    ∃ others, joins.foldl d.join lefts = lefts.flatMap (d.chained joins) ++ others ∧
      ∀ columns ∈ others, columns own = d.nothing own := by
  induction joins generalizing lefts with
  | nil => exact ⟨[], by simp [chained], List.forall_mem_nil _⟩
  | cons joined rest ih =>
    obtain ⟨hfirst, hrest⟩ := not_or.mp (mt List.mem_cons.mpr hown)
    obtain ⟨others, hothers, hmissing⟩ := ih hrest (d.join lefts joined)
    refine ⟨(d.unmatched joined lefts).flatMap (d.chained rest) ++ others, ?_, ?_⟩
    · have hchained : lefts.flatMap (d.chained (joined :: rest)) =
          (lefts.flatMap (d.extended joined)).flatMap (d.chained rest) := by
        rw [List.flatMap_assoc]
        rfl
      rw [List.foldl_cons, hothers, join, List.flatMap_append, hchained, List.append_assoc]
    · rw [List.forall_mem_append]
      refine ⟨?_, hmissing⟩
      intro columns hcolumns
      obtain ⟨stranger, hstranger, hmem⟩ := List.mem_flatMap.mp hcolumns
      rw [chained_apply hmem hrest, unmatched_apply hstranger hfirst]

/-! ## Joins that find one row -/

variable (d) in
/-- The ON clause of a join compares, by equality, columns whose values are unique in the joined
table with columns of other tables. -/
def LooksUp (joined : JoinedTable) : Prop :=
  ∃ pairs : List ((String × String) × String),
    (∀ pair ∈ pairs, pair.1.1 ≠ joined.tableAlias ∧
      SearchText.leaf (Sql.column pair.1.1 pair.1.2 ++ Sql.text " = " ++
        Sql.column joined.tableAlias pair.2) ∈ joined.on) ∧
    ((d.rows joined.source).map fun row => pairs.map fun pair => row (resolvedName pair.2)).Nodup

theorem holds_leaf (columns : Columns V) {sql : Sql} (h : sql ≠ []) :
    d.holds columns (SearchText.leaf sql) = d.truth sql columns := by
  rw [SearchText.leaf_eq h]
  exact SearchText.value_of_reads (Reads.leaf sql).single.only

/-- A join that looks rows up finds one partner at most. -/
theorem LooksUp.length_partners {joined : JoinedTable} (h : d.LooksUp joined)
    (columns : Columns V) : (d.partners joined columns).length ≤ 1 := by
  obtain ⟨pairs, hpairs, hunique⟩ := h
  -- a partner has the values that the row asks for
  have hvalues : ∀ row, d.meets joined (Function.update columns joined.tableAlias row) = true →
      (pairs.map fun pair => row (resolvedName pair.2)) =
        pairs.map fun pair => columns pair.1.1 (resolvedName pair.1.2) := by
    intro row hmeets
    refine List.map_congr_left fun pair hpair => ?_
    obtain ⟨hother, hon⟩ := hpairs pair hpair
    have htrue := List.all_eq_true.mp hmeets _ hon
    rw [holds_leaf _ (by simp [Sql.column])] at htrue
    have hequal := d.truth_equal _ _ _ _ _ htrue
    rw [Function.update_of_ne hother, Function.update_self] at hequal
    exact hequal.symm
  rw [partners, List.filter_map, List.length_map]
  exact length_filter_le_one hunique fun row _ => hvalues row

/-- A chain of joins that look rows up makes one row at most of a row. -/
theorem length_chained_le_one {joins : List JoinedTable} (h : ∀ joined ∈ joins, d.LooksUp joined)
    (columns : Columns V) : (d.chained joins columns).length ≤ 1 := by
  induction joins generalizing columns with
  | nil => exact Nat.le_refl 1
  | cons joined rest ih =>
    obtain ⟨hfirst, hrest⟩ := List.forall_mem_cons.mp h
    have hone : (d.extended joined columns).length ≤ 1 := by
      unfold extended
      split
      · exact Nat.le_refl 1
      · exact hfirst.length_partners columns
    rw [chained]
    cases hextended : d.extended joined columns with
    | nil => exact Nat.zero_le 1
    | cons both others =>
      rw [hextended, List.length_cons] at hone
      obtain rfl : others = [] := List.length_eq_zero_iff.mp (by omega)
      rw [List.flatMap_singleton]
      exact ih hrest both

/-! ## Rows of a table in its joins -/

variable (d) in
/-- The ways in which a chain of joins extends a row of a table and passes a condition. -/
def combinations (tableAlias : String) (joins : List JoinedTable) (condition : SearchText)
    (row : String → V) : List (Columns V) :=
  (d.chained joins (d.alone tableAlias row)).filter fun columns => d.holds columns condition

variable (d) in
/-- What a projection shows of a row of a table alone. -/
def shown (items : List SelectItem) (tableAlias : String) (row : String → V) : List V :=
  d.project items (d.alone tableAlias row)

variable (d) in
/-- A projection shows the keys of a table: it looks at this table only, and what it shows is
different for different rows and is there for each. -/
structure KeyedBy (items : List SelectItem) (table tableAlias : String) : Prop where
  own : ∀ columns columns' : Columns V, columns tableAlias = columns' tableAlias →
    d.project items columns = d.project items columns'
  unique : ((d.rows (.table table)).map (d.shown items tableAlias)).Nodup
  present : ∀ row ∈ d.rows (.table table), d.shown items tableAlias row ≠ d.project items d.nothing

section Answers

variable {items : List SelectItem} {table tableAlias : String} {joins : List JoinedTable}
  {condition : SearchText}

/-- The rows of a SELECT: for each row of its table what the combinations of the row show, and rows
that miss the table. -/
theorem answer_eq (items : List SelectItem) (table : String) (condition : SearchText)
    (hown : tableAlias ∉ introduced joins) :
    ∃ others : List (Columns V), d.answer items table tableAlias joins condition =
        ((d.rows (.table table)).flatMap fun row =>
          (d.combinations tableAlias joins condition row).map (d.project items)) ++
          others.map (d.project items) ∧
      ∀ columns ∈ others, columns tableAlias = d.nothing tableAlias := by
  obtain ⟨others, hothers, hmissing⟩ :=
    foldl_join hown ((d.rows (.table table)).map (d.alone tableAlias))
  refine ⟨others.filter fun columns => d.holds columns condition, ?_, ?_⟩
  · rw [answer, source, hothers, List.filter_append, List.map_append, List.flatMap_map,
      List.filter_flatMap, List.map_flatMap]
    rfl
  · intro columns hcolumns
    exact hmissing columns (List.mem_filter.mp hcolumns).1

/-- The key of a row is listed once for each combination of the row. -/
theorem count_answer [DecidableEq V] (hkeyed : d.KeyedBy items table tableAlias)
    (hown : tableAlias ∉ introduced joins) {row : String → V}
    (hrow : row ∈ d.rows (.table table)) :
    (d.answer items table tableAlias joins condition).count (d.shown items tableAlias row) =
      (d.combinations tableAlias joins condition row).length := by
  obtain ⟨others, hanswer, hmissing⟩ := answer_eq (d := d) items table condition hown
  have hcopies : ∀ row ∈ d.rows (.table table),
      ∀ key ∈ (d.combinations tableAlias joins condition row).map (d.project items),
        key = d.shown items tableAlias row := by
    intro row _ key hkey
    obtain ⟨columns, hcolumns, rfl⟩ := List.mem_map.mp hkey
    exact hkeyed.own _ _ (chained_apply (List.mem_filter.mp hcolumns).1 hown)
  have hnone : (others.map (d.project items)).count (d.shown items tableAlias row) = 0 := by
    rw [List.count_eq_zero]
    intro h
    obtain ⟨columns, hcolumns, hshown⟩ := List.mem_map.mp h
    refine hkeyed.present row hrow ?_
    rw [← hshown]
    exact hkeyed.own _ _ (hmissing columns hcolumns)
  rw [hanswer, List.count_append, hnone, Nat.add_zero,
    count_flatMap_of_nodup hcopies hkeyed.unique hrow, List.length_map]

/-- Without joins no key is listed twice. -/
theorem nodup_answer_nil (hkeyed : d.KeyedBy items table tableAlias) :
    (d.answer items table tableAlias [] condition).Nodup := by
  have hsublist : (d.answer items table tableAlias [] condition).Sublist
      ((d.rows (.table table)).map (d.shown items tableAlias)) := by
    rw [answer, source, List.foldl_nil]
    have hall := (List.filter_sublist (p := fun columns => d.holds columns condition)
      (l := (d.rows (.table table)).map (d.alone tableAlias))).map (d.project items)
    rwa [List.map_map] at hall
  exact hsublist.nodup hkeyed.unique

/-- The keys of the rows of a table are listed once for each combination of the row. So no key is
listed twice exactly if no row has two combinations: without joins none is, and neither if every
join looks rows up. -/
structure ListsKeys [DecidableEq V] (d : Contents V) (items : List SelectItem)
    (table tableAlias : String) (joins : List JoinedTable) (condition : SearchText) : Prop where
  count : ∀ row ∈ d.rows (.table table),
    (d.answer items table tableAlias joins condition).count (d.shown items tableAlias row) =
      (d.combinations tableAlias joins condition row).length
  once_iff : (∀ row ∈ d.rows (.table table),
      (d.answer items table tableAlias joins condition).count (d.shown items tableAlias row) ≤ 1) ↔
    ∀ row ∈ d.rows (.table table), (d.combinations tableAlias joins condition row).length ≤ 1
  unjoined : joins = [] → (d.answer items table tableAlias joins condition).Nodup
  lookedUp : (∀ joined ∈ joins, d.LooksUp joined) → ∀ row ∈ d.rows (.table table),
    (d.answer items table tableAlias joins condition).count (d.shown items tableAlias row) ≤ 1

theorem KeyedBy.listsKeys [DecidableEq V] (hkeyed : d.KeyedBy items table tableAlias)
    (hown : tableAlias ∉ introduced joins) :
    d.ListsKeys items table tableAlias joins condition := by
  have hcount : ∀ row ∈ d.rows (.table table),
      (d.answer items table tableAlias joins condition).count (d.shown items tableAlias row) =
        (d.combinations tableAlias joins condition row).length :=
    fun row hrow => count_answer hkeyed hown hrow
  refine ⟨hcount, forall₂_congr fun row hrow => by rw [hcount row hrow], ?_, ?_⟩
  · rintro rfl
    exact nodup_answer_nil hkeyed
  · intro hlooksUp row hrow
    rw [hcount row hrow]
    exact Nat.le_trans (List.length_filter_le _ _) (length_chained_le_one hlooksUp _)

end Answers

end Contents

end QueryLoom
