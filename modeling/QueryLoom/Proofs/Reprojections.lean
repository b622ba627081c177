import QueryLoom.Proofs.LayeredRows
import QueryLoom.Proofs.ParameterNames
import QueryLoom.Proofs.RowCaps

/-!
# Projections written again

A layer around a SELECT may write the projection of the SELECT again. It shows the same values if
every column that the projection refers to is output as itself. Behind a set operation the rows are
those of other SELECTs too, and only columns that are output as themselves are shown again.

## Implementation notes

That no less will do is shown by an engine in which a value says where it comes from: a column is
worth its name, and any other expression whether its columns are what their names say.
-/

namespace QueryLoom

namespace SelectItem

variable {items : List SelectItem} {tableAlias : String} {column : String × String}

/-! ## Columns of a projection -/

/-- The columns that a projection refers to. -/
def columnsOf (items : List SelectItem) : List (String × String) :=
  items.flatMap fun item => item.expression.columns

/-- An item is a column, whatever its label. -/
def IsColumn (item : SelectItem) (tableAlias name : String) : Prop :=
  ∃ written, item.expression = Sql.column tableAlias written ∧ resolvedName written = name

/-- A projection offers a column, and what it offers is the column itself. -/
structure Keeps (items : List SelectItem) (tableAlias : String) (column : String × String) :
    Prop where
  offered : Offers items tableAlias column
  itself : ∀ item ∈ items, item.outputName = some (resolvedName column.2) →
    item.IsColumn tableAlias (resolvedName column.2)

/-- The items of a projection are columns that are output under their own names, no two of them
under one name. -/
structure AreColumns (items : List SelectItem) (tableAlias : String) : Prop where
  columns : ∀ item ∈ items, ∃ name, item.outputName = some name ∧ item.IsColumn tableAlias name
  names : (items.map outputName).Nodup

/-- The first item that is output under a name. -/
def named? (items : List SelectItem) (name : String) : Option SelectItem :=
  items.find? fun item => item.outputName == some name

/-- The one item that is output under the name of a column on offer. -/
theorem Offers.exists_item (h : Offers items tableAlias column) :
    ∃ item ∈ items, item.outputName = some (resolvedName column.2) ∧
      named? items (resolvedName column.2) = some item ∧
      ∀ other ∈ items, other.outputName = some (resolvedName column.2) → other = item := by
  have hcount := h.2
  rw [List.count, List.countP_map, List.countP_eq_length_filter] at hcount
  obtain ⟨item, hfilter⟩ := List.length_eq_one_iff.mp hcount
  have hnamed (other : SelectItem) :
      other ∈ items ∧ other.outputName = some (resolvedName column.2) ↔ other = item := by
    have hmem := List.mem_singleton (a := other) (b := item)
    rwa [← hfilter, List.mem_filter, Function.comp_apply, beq_iff_eq] at hmem
  obtain ⟨hmem, hname⟩ := (hnamed item).mpr rfl
  refine ⟨item, hmem, hname, ?_, fun other hother hsame => (hnamed other).mp ⟨hother, hsame⟩⟩
  have hhead := congrArg List.head? hfilter
  rwa [List.head?_filter, List.head?_cons] at hhead

theorem AreColumns.offers (h : AreColumns items tableAlias) :
    ∀ column ∈ columnsOf items, Offers items tableAlias column := by
  intro column hcolumn
  obtain ⟨item, hitem, hmem⟩ := List.mem_flatMap.mp hcolumn
  obtain ⟨name, hname, written, hexpression, hresolved⟩ := h.columns item hitem
  rw [hexpression] at hmem
  obtain rfl : column = (tableAlias, written) := List.mem_singleton.mp hmem
  refine ⟨rfl, h.names.count (a := some (resolvedName written)) |>.trans (if_pos ?_)⟩
  rw [hresolved, ← hname]
  exact List.mem_map_of_mem hitem

/-- Columns under their own names are kept. -/
theorem AreColumns.keeps (h : AreColumns items tableAlias) :
    ∀ column ∈ columnsOf items, Keeps items tableAlias column := by
  intro column hcolumn
  refine ⟨h.offers column hcolumn, ?_⟩
  intro item hitem hname
  obtain ⟨name, hown, hcolumn⟩ := h.columns item hitem
  rw [hown] at hname
  exact Option.some.inj hname ▸ hcolumn

end SelectItem

/-! ## Values shown again -/

namespace Engine

open SelectItem

variable {V : Type} (e : Engine V) {items : List SelectItem} {tableAlias : String}

/-- Under the name of an item stands what a row has for the item. -/
theorem derivedColumns_map (shown : SelectItem → V) (name : String) :
    e.derivedColumns tableAlias items (items.map shown) tableAlias name =
      ((named? items name).map shown).getD e.missing := by
  have hlookup : ((items.map outputName).zip (items.map shown)).lookup (some name) =
      (named? items name).map shown := by
    induction items with
    | nil => rfl
    | cons first rest ih =>
      unfold named? at ih ⊢
      rw [List.map_cons, List.map_cons, List.zip_cons_cons, List.lookup_cons, List.find?_cons, ih,
        Bool.beq_comm]
      cases first.outputName == some name <;> rfl
  rw [derivedColumns, if_pos rfl, hlookup]

variable {e}

/-- A column that a projection keeps is worth the same in the rows that the projection shows. -/
theorem worth_derivedColumns {column : String × String} (h : Keeps items tableAlias column)
    (columns : Columns V) :
    (e.derivedColumns tableAlias items (e.project items columns)).worth column =
      columns.worth column := by
  obtain ⟨item, hitem, hname, hnamed, -⟩ := h.offered.exists_item
  obtain ⟨written, hexpression, hresolved⟩ := h.itself item hitem hname
  rw [Columns.worth, Columns.worth, h.offered.1, project, derivedColumns_map, hnamed,
    Option.map_some, Option.getD_some, hexpression, e.value_column, hresolved]

/-- A projection that keeps its columns shows the same when it is written again. -/
theorem reprojected_project (h : ∀ column ∈ columnsOf items, Keeps items tableAlias column)
    (columns : Columns V) :
    e.reprojected items items tableAlias (e.project items columns) = e.project items columns := by
  apply List.map_congr_left
  intro item hitem
  apply e.value_congr
  intro column hcolumn
  exact worth_derivedColumns (h column (List.mem_flatMap.mpr ⟨item, hitem, hcolumn⟩)) columns

/-- Values are found again under keys that differ. -/
theorem map_lookup_zip {α β : Type} [BEq α] [LawfulBEq α] {keys : List α} {values : List β}
    (other : β) (hnodup : keys.Nodup) (hlength : keys.length = values.length) :
    keys.map (fun key => ((keys.zip values).lookup key).getD other) = values := by
  induction keys generalizing values with
  | nil => exact (List.length_eq_zero_iff.mp hlength.symm).symm
  | cons first rest ih =>
    obtain ⟨value, values, rfl⟩ := List.exists_cons_of_length_eq_add_one hlength.symm
    obtain ⟨hfirst, hrest⟩ := List.nodup_cons.mp hnodup
    have hothers : rest.map (fun key => (((first :: rest).zip (value :: values)).lookup key).getD
        other) = rest.map fun key => ((rest.zip values).lookup key).getD other := by
      apply List.map_congr_left
      intro key hkey
      have hne : (key == first) = false := by
        rw [beq_eq_false_iff_ne]
        rintro rfl
        exact hfirst hkey
      rw [List.zip_cons_cons, List.lookup_cons, hne]
    rw [List.map_cons, hothers, ih hrest (Nat.succ.inj hlength), List.zip_cons_cons,
      List.lookup_cons_self, Option.getD_some]

/-- Columns under their own names show every row again, wherever it comes from. -/
theorem reprojected_eq (h : AreColumns items tableAlias) {row : List V}
    (hlength : row.length = items.length) : e.reprojected items items tableAlias row = row := by
  have hfound := map_lookup_zip e.missing h.names ((List.length_map _).trans hlength.symm)
  rw [List.map_map] at hfound
  refine Eq.trans (List.map_congr_left ?_) hfound
  intro item hitem
  obtain ⟨name, hname, written, hexpression, hresolved⟩ := h.columns item hitem
  rw [hexpression, e.value_column, hresolved, derivedColumns, if_pos rfl, Function.comp_apply,
    hname]

end Engine

/-! ## Where values come from -/

/-- Where a value comes from: a column, an expression over columns that are what their names say, or
neither. -/
inductive Origin where
  | column (tableAlias name : String)
  | faithful
  | strayed
deriving DecidableEq

namespace Origin

open SelectItem

/-- What an expression is worth: a column what is found under its name, anything else whether all
its columns are what their names say. -/
def value (sql : Sql) (columns : Columns Origin) : Origin :=
  match sql with
  | [.column tableAlias name] => columns tableAlias (resolvedName name)
  | sql =>
    if ∀ column ∈ sql.columns, columns.worth column = Columns.worth Origin.column column then
      .faithful
    else .strayed

/-- What a row has for an item if every name is that of a column. -/
def output (tableAlias : String) (item : SelectItem) : Origin :=
  match item.outputName with
  | some name => .column tableAlias name
  | none => .strayed

variable {sql : Sql} {columns : Columns Origin}

theorem value_congr {a b : Columns Origin}
    (h : ∀ column ∈ sql.columns, a.worth column = b.worth column) : value sql a = value sql b := by
  unfold value
  split
  · exact h _ (List.mem_singleton_self _)
  · have hiff : (∀ column ∈ sql.columns, a.worth column = Columns.worth Origin.column column) ↔
        ∀ column ∈ sql.columns, b.worth column = Columns.worth Origin.column column :=
      forall₂_congr fun column hcolumn => by rw [h column hcolumn]
    exact if_congr hiff rfl rfl

/-- The value in the row of a table. -/
theorem value_column_cases (sql : Sql) :
    (∃ tableAlias name, sql = Sql.column tableAlias name ∧
      value sql Origin.column = .column tableAlias (resolvedName name)) ∨
    value sql Origin.column = .faithful := by
  unfold value
  split
  · rename_i tableAlias name
    exact .inl ⟨tableAlias, name, rfl, rfl⟩
  · exact .inr (if_pos fun _ _ => rfl)

/-- An expression is worth what it is in the row of a table exactly if all its columns are what
their names say. -/
theorem value_eq_iff : value sql columns = value sql Origin.column ↔
    ∀ column ∈ sql.columns, columns.worth column = Columns.worth Origin.column column := by
  refine ⟨?_, value_congr⟩
  unfold value
  split
  · intro h column hcolumn
    obtain rfl := List.mem_singleton.mp hcolumn
    exact h
  · intro h
    rw [if_pos fun _ _ => rfl] at h
    by_contra hstrayed
    rw [if_neg hstrayed] at h
    cases h

end Origin

theorem RowRange.sql_first_inj {a b : Nat} :
    (RowRange.first a).sql = (RowRange.first b).sql ↔ a = b := by
  rw [sql_first, sql_first, List.singleton_inj, Token.verbatim.injEq, String.append_right_inj,
    Nat.toString_eq_repr, Nat.toString_eq_repr, Nat.repr_inj]

/-- Whether a text is no row cap that keeps a row with some number out. -/
def RowRange.admits (number : Nat) (sql : Sql) : Bool :=
  decide (∀ count < number, sql ≠ (RowRange.first count).sql)

theorem RowRange.admits_first (number count : Nat) :
    admits number (RowRange.first count).sql = decide (number ≤ count) := by
  unfold admits
  rw [decide_eq_decide]
  simp only [ne_eq, sql_first_inj]
  exact ⟨fun h => not_lt.mp fun hlt => h count hlt rfl, fun h other hlt => by omega⟩

/-- An engine with one row in each table. Conditions hold, row caps apart, and set operations leave
rows in which every name is that of a column. -/
def originEngine (items : List SelectItem) (tableAlias : String) : Engine Origin where
  source _ _ _ := [Origin.column]
  truth number sql _ := RowRange.admits number sql
  value := Origin.value
  group _ rows := rows
  combine _ rows := rows.map fun row =>
    if row.length = items.length then items.map (Origin.output tableAlias) else row
  precedes _ _ _ := true
  missing := .strayed
  truth_first number count _ := RowRange.admits_first number count
  value_column _ _ _ := rfl
  value_congr _ _ _ := Origin.value_congr
  width_combine _ rows width h := by
    rw [List.forall_mem_map]
    intro row hrow
    split
    · rename_i hlength
      rw [List.length_map, ← hlength]
      exact h row hrow
    · exact h row hrow

namespace Origin

open SelectItem

variable {items : List SelectItem} {tableAlias : String}
  (hoffers : ∀ column ∈ columnsOf items, Offers items tableAlias column)
include hoffers

/-- A projection whose columns are on offer keeps them, if it shows the row of a table again. -/
theorem keeps_of_reprojected
    (h : (originEngine items tableAlias).reprojected items items tableAlias
        ((originEngine items tableAlias).project items Origin.column) =
      (originEngine items tableAlias).project items Origin.column) :
    ∀ column ∈ columnsOf items, Keeps items tableAlias column := by
  intro column hcolumn
  obtain ⟨item, hitem, hmem⟩ := List.mem_flatMap.mp hcolumn
  have hoffered := hoffers column hcolumn
  have hworth := value_eq_iff.mp (List.map_inj_left.mp h item hitem) column hmem
  obtain ⟨shown, -, -, hnamed, hunique⟩ := hoffered.exists_item
  rw [Columns.worth, hoffered.1, Engine.project, Engine.derivedColumns_map, hnamed,
    Option.map_some, Option.getD_some] at hworth
  refine ⟨hoffered, ?_⟩
  intro other hother hname
  obtain rfl := hunique other hother hname
  obtain ⟨under, written, hexpression, hvalue⟩ | hvalue := value_column_cases other.expression
  · obtain ⟨rfl, hresolved⟩ := Origin.column.inj (hvalue.symm.trans hworth)
    exact ⟨written, hoffered.1 ▸ hexpression, hresolved⟩
  · cases hvalue.symm.trans hworth

/-- Where every name is that of a column, a projection whose columns are on offer shows what it
shows of the row of a table. -/
theorem reprojected_output :
    (originEngine items tableAlias).reprojected items items tableAlias
        (items.map (output tableAlias)) =
      (originEngine items tableAlias).project items Origin.column := by
  apply List.map_congr_left
  intro item hitem
  apply value_congr
  intro column hcolumn
  have hoffered := hoffers column (List.mem_flatMap.mpr ⟨item, hitem, hcolumn⟩)
  obtain ⟨shown, -, hname, hnamed, -⟩ := hoffered.exists_item
  rw [Columns.worth, Columns.worth, hoffered.1, Engine.derivedColumns_map, hnamed, Option.map_some,
    Option.getD_some, output, hname]

/-- A projection whose columns are on offer is one of columns, if it shows again a row in which
every name is that of a column. -/
theorem areColumns_of_reprojected
    (h : (originEngine items tableAlias).reprojected items items tableAlias
        (items.map (output tableAlias)) = items.map (output tableAlias)) :
    AreColumns items tableAlias := by
  have hcolumns : ∀ item ∈ items, ∃ name, item.outputName = some name ∧
      item.IsColumn tableAlias name := by
    intro item hitem
    have hvalue : value item.expression Origin.column = output tableAlias item :=
      List.map_inj_left.mp ((reprojected_output hoffers).symm.trans h) item hitem
    unfold output at hvalue
    split at hvalue
    · rename_i name hname
      refine ⟨name, hname, ?_⟩
      obtain ⟨under, written, hexpression, hown⟩ | hown := value_column_cases item.expression
      · obtain ⟨rfl, hresolved⟩ := Origin.column.inj (hown.symm.trans hvalue)
        exact ⟨written, hexpression, hresolved⟩
      · cases hown.symm.trans hvalue
    · obtain ⟨under, written, -, hown⟩ | hown := value_column_cases item.expression
      all_goals cases hown.symm.trans hvalue
  refine ⟨hcolumns, List.nodup_iff_count_le_one.mpr ?_⟩
  intro output
  by_cases hmem : output ∈ items.map outputName
  · obtain ⟨item, hitem, rfl⟩ := List.mem_map.mp hmem
    obtain ⟨name, hname, written, hexpression, hresolved⟩ := hcolumns item hitem
    have hcolumn : (tableAlias, written) ∈ columnsOf items := by
      refine List.mem_flatMap.mpr ⟨item, hitem, ?_⟩
      rw [hexpression]
      exact List.mem_singleton_self _
    have hcount := (hoffers _ hcolumn).2
    rw [hresolved, ← hname] at hcount
    exact hcount.le
  · rw [List.count_eq_zero.mpr hmem]
    exact Nat.zero_le 1

end Origin

end QueryLoom
