import QueryLoom.Proofs.Reprojections

/-!
# Rows of selections

The rows of a selection in its layers. A cap lets the first rows through WHERE where nothing else
happens to rows. Otherwise it goes around the whole selection, and shows its first rows again.

## Implementation notes

The layers that a cap goes around are those without a cap, up to the labels of the outermost
projection. Labels change neither the rows nor the columns that a layer refers to.
-/

namespace QueryLoom

/-! ## Rows of a selection -/

/-- The innermost SELECT of a selection. -/
def Selection.innermost (s : Selection) (items : List SelectItem) (cap : Option Nat) :
    SelectCore where
  distinct := s.distinct
  items
  table := s.table
  tableAlias := s.tableAlias
  join := s.join
  condition := s.condition
  compound := s.compound
  cap
  group := s.group
  combine := s.combine

theorem Selection.core_eq (s : Selection) (items : List SelectItem) (cap : Option Nat) :
    s.core items cap = .core (s.innermost items cap) := rfl

namespace Engine

variable {V : Type} {e : Engine V} {s : Selection}

/-- A cap in the innermost SELECT lets the first of the rows through WHERE. -/
theorem found_capped (hreads : s.condition.Readable)
    (hcompound : s.condition.hasOuterOr = true → s.compound = true) (items : List SelectItem)
    (count : Nat) :
    e.found (s.innermost items (some count)) = (e.found (s.innermost items none)).take count := by
  have htest (number : Nat) (columns : Columns V) :
      ((s.innermost items (some count)).search.value fun leaf => e.truth number leaf columns) =
        (((s.innermost items none).search.value fun leaf => e.truth number leaf columns) &&
          decide (number ≤ count)) := by
    rw [SelectCore.value_search rfl hreads hcompound, e.truth_first]
    rfl
  have hcapped := passing_capped
    (fun number columns =>
      (s.innermost items none).search.value fun leaf => e.truth number leaf columns)
    count 1 (e.source s.table s.tableAlias s.join)
  simp only [← htest, Nat.add_sub_cancel] at hcapped
  exact hcapped

variable [DecidableEq V]

/-- A selection without anything that counts rows may be capped where its rows are found. -/
theorem rows_core_capped (hreads : s.condition.Readable)
    (hcompound : s.condition.hasOuterOr = true → s.compound = true)
    (hcombined : s.isCombined = false) (hshaped : s.isShaped = false) (items : List SelectItem)
    (count : Nat) :
    e.rows (s.core items (some count)) = (e.rows (s.unordered items)).take count := by
  obtain ⟨-, hdistinct, hgroup, hcombine⟩ := Selection.isGathered_eq hcombined hshaped
  have hplain (cap : Option Nat) : e.rows (s.core items cap) =
      (e.found (s.innermost items cap)).map (e.project items) := by
    rw [Selection.core_eq, rows, answer, map_snd_coreAnswer]
    simp [shown, Selection.innermost, hdistinct, hgroup, hcombine, Function.comp_def]
  rw [hplain, Selection.unordered, hplain, found_capped hreads hcompound, List.map_take]

/-- What a SELECT shows before its set operations is projected from columns. -/
theorem project_of_mem_shown {select : SelectCore} :
    ∀ pair ∈ e.shown select, e.project select.items pair.1 = pair.2 := by
  intro pair hpair
  unfold shown at hpair
  extract_lets found grouped projected at hpair
  have hprojected : pair ∈ projected := by
    split at hpair
    · exact unrepeated_subset [] projected hpair
    · exact hpair
  obtain ⟨columns, -, rfl⟩ := List.mem_map.mp hprojected
  rfl

theorem rows_unordered (s : Selection) (items : List SelectItem) :
    e.rows (s.unordered items) =
      if s.combine.isEmpty then (e.shown (s.innermost items none)).map Prod.snd
      else e.combine s.combine ((e.shown (s.innermost items none)).map Prod.snd) := by
  rw [rows, Selection.unordered, Selection.core_eq, answer, map_snd_coreAnswer]
  rfl

/-- Without set operations every row is projected from columns. -/
theorem exists_project_of_mem_rows (hcombined : s.isCombined = false) {items : List SelectItem} :
    ∀ row ∈ e.rows (s.unordered items), ∃ columns, e.project items columns = row := by
  have hcombine : s.combine.isEmpty = true := by simpa [Selection.isCombined] using hcombined
  rw [rows_unordered, if_pos hcombine, List.forall_mem_map]
  exact fun pair hpair => ⟨pair.1, project_of_mem_shown pair hpair⟩

/-- Every row of a SELECT has a value for each item, behind set operations too. -/
theorem length_of_mem_rows {items : List SelectItem} :
    ∀ row ∈ e.rows (s.unordered items), row.length = items.length := by
  have hshown : ∀ row ∈ (e.shown (s.innermost items none)).map Prod.snd,
      row.length = items.length := by
    rw [List.forall_mem_map]
    intro pair hpair
    rw [← project_of_mem_shown pair hpair]
    exact List.length_map _
  rw [rows_unordered]
  split
  · exact hshown
  · exact e.width_combine _ _ _ hshown

end Engine

/-! ## Labels -/

section Labels

variable {s : Selection}
  (hsame : s.outer.map SelectItem.expression = s.inner.map SelectItem.expression)
include hsame

theorem columnsOf_outer : SelectItem.columnsOf s.outer = SelectItem.columnsOf s.inner := by
  have hcolumns (items : List SelectItem) : SelectItem.columnsOf items =
      (items.map SelectItem.expression).flatMap Sql.columns := by
    rw [List.flatMap_map]
    rfl
  rw [hcolumns, hcolumns, hsame]

namespace Engine

variable {V : Type} {e : Engine V}

theorem project_outer : e.project s.outer = e.project s.inner := by
  funext columns
  have hproject (items : List SelectItem) : e.project items columns =
      (items.map SelectItem.expression).map fun sql => e.value sql columns := by
    rw [List.map_map]
    rfl
  rw [hproject, hproject, hsame]

variable [DecidableEq V]

theorem shown_outer :
    e.shown (s.innermost s.outer none) = e.shown (s.innermost s.inner none) := by
  have hfound : e.found (s.innermost s.outer none) = e.found (s.innermost s.inner none) := rfl
  rw [shown, shown, hfound]
  simp only [Selection.innermost, project_outer hsame]
  rfl

/-- Labels change no rows. -/
theorem rows_outer : e.rows (s.unordered s.outer) = e.rows (s.unordered s.inner) := by
  rw [rows_unordered, rows_unordered, shown_outer hsame]

/-- Without set operations, labels do not change the columns of rows either. -/
theorem answer_outer (hcombined : s.isCombined = false) :
    e.answer (s.unordered s.outer) = e.answer (s.unordered s.inner) := by
  have hcombine : s.combine = [] := by simpa [Selection.isCombined] using hcombined
  rw [Selection.unordered, Selection.unordered, Selection.core_eq, Selection.core_eq, answer,
    answer, coreAnswer, coreAnswer, shown_outer hsame]
  simp [Selection.innermost, hcombine]

theorem answer_derived_outer (inner : Layers) (rows : Option RowRange) :
    e.answer (.derived s.outer inner s.tableAlias rows) =
      e.answer (.derived s.inner inner s.tableAlias rows) := by
  rw [answer, answer, project_outer hsame]

omit [DecidableEq V] in
theorem reprojected_outer (known : List SelectItem) (tableAlias : String) :
    e.reprojected s.outer known tableAlias = e.reprojected s.inner known tableAlias := by
  funext row
  rw [reprojected, reprojected, project_outer hsame]

end Engine

end Labels

/-! ## Layers around a selection -/

theorem SelectItem.columns_sql (item : SelectItem) :
    item.sql.columns = item.expression.columns := by
  unfold sql
  cases item.label <;> simp

/-- The layer around a derived table is asked for the columns of its projection and its order. -/
theorem resolves_around {inner items : List SelectItem} {tableAlias : String}
    {rows : Option RowRange} {order : List Sql} :
    DerivedTable.Resolves ⟨inner, tableAlias,
        items.map SelectItem.sql ++ rows.toList.map RowRange.sql ++ order⟩ ↔
      (∀ column ∈ SelectItem.columnsOf items, SelectItem.Offers inner tableAlias column) ∧
        ∀ sql ∈ order, ∀ column ∈ sql.columns, SelectItem.Offers inner tableAlias column := by
  have hrows : ∀ sql ∈ rows.toList.map RowRange.sql, ∀ column ∈ sql.columns,
      SelectItem.Offers inner tableAlias column := by
    rw [List.forall_mem_map]
    intro range _ column hcolumn
    rw [range.columns_sql] at hcolumn
    cases hcolumn
  simp only [DerivedTable.Resolves, List.forall_mem_append, List.forall_mem_map,
    SelectItem.columns_sql, SelectItem.columnsOf, List.forall_mem_flatMap]
  exact and_congr_left fun _ => and_iff_left (List.forall_mem_map.mp hrows)

namespace Selection

variable {s : Selection} (limit : Nat)

/-- The columns of a selection are on offer behind its own projection. -/
def OffersOwn (s : Selection) : Prop :=
  ∀ column ∈ SelectItem.columnsOf s.inner, SelectItem.Offers s.inner s.tableAlias column

theorem resolves_of_not_wrapped {cap : Option Nat} (h : ¬ s.Wrapped cap) :
    (s.limited cap).Resolves := by
  have hnone := not_not.mp (mt (s.derivedTables_limited_ne_nil cap).mp h)
  rw [Layers.Resolves, hnone]
  exact List.forall_mem_nil _

/-- An order behind a set operation goes on a layer of its own. -/
theorem limited_none_of_wrapped (h : s.Wrapped none) : s.limited none =
    .ordered (.derived s.outer (s.unordered s.inner) s.tableAlias none) s.sort := by
  rw [limited, if_pos]
  simpa [Wrapped] using h

theorem limited_none_of_not_wrapped (h : ¬ s.Wrapped none) :
    s.limited none = (s.unordered s.outer).orderedBy s.sort := by
  rw [limited, if_neg]
  simpa [Wrapped] using h

/-- Without a cap, the columns of the outer projection and of the order have to be on offer where
there is a layer for an order behind a set operation. -/
theorem resolves_limited_none (s : Selection) : (s.limited none).Resolves ↔ (s.Wrapped none →
    (∀ column ∈ SelectItem.columnsOf s.outer, SelectItem.Offers s.inner s.tableAlias column) ∧
    ∀ sql ∈ s.sort, ∀ column ∈ sql.columns, SelectItem.Offers s.inner s.tableAlias column) := by
  by_cases hwrapped : s.Wrapped none
  · have htables : (s.limited none).derivedTables [] = [⟨s.inner, s.tableAlias,
        s.outer.map SelectItem.sql ++ (none : Option RowRange).toList.map RowRange.sql ++
          s.sort⟩] := by
      rw [limited_none_of_wrapped hwrapped, Layers.derivedTables, Layers.derivedTables,
        List.append_nil, derivedTables_unordered, items_unordered]
    rw [Layers.Resolves, htables, List.forall_mem_singleton, resolves_around]
    exact ⟨fun h _ => h, fun h => h hwrapped⟩
  · exact iff_of_true (resolves_of_not_wrapped hwrapped) fun h => absurd h hwrapped

/-- A selection without labels. -/
def unlabelled (s : Selection) : Selection := { s with outer := s.inner }

theorem items_unlabelled (s : Selection) : (s.unlabelled.limited none).items = s.inner := by
  rw [limited]
  split
  · rfl
  · exact Layers.items_orderedBy _ _

/-- A cap that does not count rows where they are found counts them around the whole selection. -/
theorem limited_of_wrapped (h : s.Wrapped (some limit)) : s.limited (some limit) =
    .derived s.outer (s.unlabelled.limited none) s.tableAlias (some (.first limit)) := by
  have hunlabelled : s.unlabelled.limited none =
      if s.isCombined && !s.sort.isEmpty then
        .ordered (.derived s.inner (s.unordered s.inner) s.tableAlias none) s.sort
      else (s.unordered s.inner).orderedBy s.sort := rfl
  rw [hunlabelled]
  simp only [limited]
  split
  · rename_i hcombined hshaped
    rw [Wrapped, hcombined, hshaped] at h
    simp at h
  · rename_i hcombined hshaped
    rw [hcombined, Bool.false_and, if_neg Bool.false_ne_true]
  · rename_i hcombined
    rw [hcombined, Bool.true_and]
    cases s.sort <;> rfl

end Selection

section Wrapped

variable {s : Selection}
  (hsame : s.outer.map SelectItem.expression = s.inner.map SelectItem.expression)
include hsame

theorem resolves_unlabelled : (s.unlabelled.limited none).Resolves ↔ (s.limited none).Resolves := by
  rw [Selection.resolves_limited_none, Selection.resolves_limited_none, columnsOf_outer hsame]
  rfl

/-- Around a selection that is put into a layer, the columns of its projection have to be on
offer. -/
theorem resolves_limited {limit : Nat} (hwrapped : s.Wrapped (some limit)) :
    (s.limited (some limit)).Resolves ↔ s.OffersOwn ∧ (s.limited none).Resolves := by
  have haround : DerivedTable.Resolves ⟨s.inner, s.tableAlias, s.outer.map SelectItem.sql ++
      (some (RowRange.first limit)).toList.map RowRange.sql ++ []⟩ ↔ s.OffersOwn := by
    rw [resolves_around, columnsOf_outer hsame]
    exact and_iff_left (List.forall_mem_nil _)
  rw [s.limited_of_wrapped limit hwrapped, Layers.Resolves, Layers.derivedTables,
    List.forall_mem_cons, s.items_unlabelled, haround, ← resolves_unlabelled hsame]
  rfl

namespace Engine

variable {V : Type} {e : Engine V} [DecidableEq V]

theorem rows_unlabelled : e.rows (s.unlabelled.limited none) = e.rows (s.limited none) := by
  by_cases hwrapped : s.Wrapped none
  · have hunlabelled : s.unlabelled.limited none =
        .ordered (.derived s.inner (s.unordered s.inner) s.tableAlias none) s.sort :=
      s.unlabelled.limited_none_of_wrapped hwrapped
    rw [hunlabelled, s.limited_none_of_wrapped hwrapped, rows, rows, answer, answer,
      answer_derived_outer hsame]
  · have hunlabelled : s.unlabelled.limited none = (s.unordered s.inner).orderedBy s.sort :=
      s.unlabelled.limited_none_of_not_wrapped hwrapped
    rw [hunlabelled, s.limited_none_of_not_wrapped hwrapped]
    cases hcombined : s.isCombined with
    | false => rw [rows, rows, answer_orderedBy (answer_outer hsame hcombined)]
    | true =>
      have hsort : s.sort = [] := not_not.mp fun hsort => hwrapped ⟨hcombined, hsort⟩
      rw [hsort]
      exact (rows_outer hsame).symm

/-- Where a cap puts a layer around a selection, the rows without a cap are shown again. -/
theorem rows_limited_of_wrapped {limit : Nat} (hwrapped : s.Wrapped (some limit)) :
    e.rows (s.limited (some limit)) =
      ((e.rows (s.limited none)).map (e.reprojected s.inner s.inner s.tableAlias)).take limit := by
  rw [s.limited_of_wrapped limit hwrapped, rows_derived_first, rows_unlabelled hsame,
    reprojected_outer hsame, s.items_unlabelled]

end Engine

end Wrapped

end QueryLoom
