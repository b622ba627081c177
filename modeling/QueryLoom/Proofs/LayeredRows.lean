import Mathlib.Data.List.Sort
import QueryLoom.Proofs.DerivedTables
import QueryLoom.Proofs.SearchConditions
import QueryLoom.Sql.Selection

/-!
# Rows of layers

The rows of a SELECT in layers. In the innermost layer WHERE lets rows through one after the other,
then they are grouped, projected, freed of duplicates and combined with other SELECTs. An order is
put on what comes out. A layer around a derived table knows its rows by the names of its projection,
lets some of them through and projects again. It has no rows at all if it refers to a column that
the derived table does not output, or outputs twice.

## Implementation notes

A search condition is read with the number that the next row would get, so a row cap is a condition
like any other: it counts the rows that have passed before, in its own SELECT, and nothing that
happens behind WHERE. What tables hold, what expressions are worth and what groups and set
operations make of rows is left to an engine. An expression is worth the same wherever its columns
are, so what an output form writes around its column is read as a function of the column.

Rows come with the columns that an order behind them may look at.
-/

namespace QueryLoom

/-! ## Engines -/

/-- The values of columns, by alias and by the name that an identifier stands for. -/
abbrev Columns (V : Type) := String → String → V

/-- The value of a column as it is written. -/
def Columns.worth {V : Type} (columns : Columns V) (column : String × String) : V :=
  columns column.1 (resolvedName column.2)

/-- What the rows of a SELECT depend on, besides its text. -/
structure Engine (V : Type) where
  /-- The rows of a table under an alias, with its joins. -/
  source : String → String → Sql → List (Columns V)
  /-- Whether a leaf of a search condition holds of a row, for the number that the row would get. -/
  truth : Nat → Sql → Columns V → Bool
  /-- What an expression is worth in a row. -/
  value : Sql → Columns V → V
  /-- The rows of groups: the clauses from GROUP BY on, applied to rows. -/
  group : Sql → List (Columns V) → List (Columns V)
  /-- The set operations behind a SELECT, applied to its rows. -/
  combine : Sql → List (List V) → List (List V)
  /-- Whether a row stands before another one in an order. -/
  precedes : List Sql → Columns V → Columns V → Bool
  /-- The value of a column that a derived table does not have. -/
  missing : V
  truth_first : ∀ number count columns,
    truth number (RowRange.first count).sql columns = decide (number ≤ count)
  value_column : ∀ tableAlias name columns,
    value (Sql.column tableAlias name) columns = columns tableAlias (resolvedName name)
  value_congr : ∀ sql (a b : Columns V), (∀ column ∈ sql.columns, a.worth column = b.worth column) →
    value sql a = value sql b
  width_combine : ∀ sql rows width, (∀ row ∈ rows, row.length = width) →
    ∀ row ∈ combine sql rows, row.length = width

/-! ## Rows that pass -/

section Passing

variable {α : Type} (test : Nat → α → Bool)

/-- The rows that pass a test. It sees the number that a row would get; a row that does not pass
leaves its number to the next one. -/
def passing : Nat → List α → List α
  | _, [] => []
  | number, row :: rest =>
    if test number row then row :: passing (number + 1) rest else passing number rest

/-- A cap next to a test lets the first of the rows through that pass the test. -/
theorem passing_capped (count number : Nat) (rows : List α) :
    passing (fun next row => test next row && decide (next ≤ count)) number rows =
      (passing test number rows).take (count + 1 - number) := by
  induction rows generalizing number with
  | nil => rw [passing, passing, List.take_nil]
  | cons row rest ih =>
    rw [passing, passing]
    by_cases htest : test number row = true
    · by_cases hcap : number ≤ count
      · have hleft : count + 1 - number = count + 1 - (number + 1) + 1 := by omega
        rw [htest, if_pos (by simpa using hcap), if_pos rfl, ih, hleft, List.take_succ_cons]
      · have hleft : count + 1 - number = 0 := by omega
        rw [htest, if_neg (by simpa using hcap), ih, hleft, List.take_zero, List.take_zero]
    · rw [if_neg (by simp [htest]), if_neg htest, ih]

theorem passing_true (number : Nat) (rows : List α) :
    passing (fun _ _ => true) number rows = rows := by
  induction rows generalizing number with
  | nil => rfl
  | cons row rest ih => rw [passing, if_pos rfl, ih]

/-- A cap alone lets the first rows through. -/
theorem passing_first (count : Nat) (rows : List α) :
    passing (fun next _ => decide (next ≤ count)) 1 rows = rows.take count := by
  have hcapped := passing_capped (fun _ _ => true) count 1 rows
  simpa only [Bool.true_and, passing_true, Nat.add_sub_cancel] using hcapped

end Passing

/-! ## Search conditions -/

namespace SearchText

/-- The value of a search condition, read from the left; no condition holds always. -/
def value (holds : Sql → Bool) (text : SearchText) : Bool := (Reader.read holds {} text).value

theorem value_of_reads {holds : Sql → Bool} {text : SearchText} {v : Bool}
    (h : Reads holds .disjunction text v) : text.value holds = v :=
  (h.takes {} rfl).2

/-- A text is a search condition, or none. -/
def Readable (text : SearchText) : Prop := ∀ holds, ∃ v, text.Means holds v

end SearchText

/-- A condition and a row cap next to it hold together, as parentheses keep an outermost OR of the
condition to itself. -/
theorem SelectCore.value_search {core : SelectCore} {count : Nat} (hcap : core.cap = some count)
    (hreads : core.condition.Readable)
    (hcompound : core.condition.hasOuterOr = true → core.compound = true) (holds : Sql → Bool) :
    core.search.value holds =
      (core.condition.value holds && holds (RowRange.first count).sql) := by
  have hleaf : SearchText.leaf (RowRange.first count).sql =
      [.leaf (RowRange.first count).sql] :=
    SearchText.leaf_eq (Sql.text_append_ne_nil (by decide) _)
  have hlast : Reads holds .operand [.leaf (RowRange.first count).sql]
      (holds (RowRange.first count).sql) := .leaf _
  rw [search, hcap]
  dsimp only
  rw [hleaf]
  obtain ⟨v, hv⟩ := hreads holds
  cases v with
  | none =>
    have hnil : core.condition = [] := hv
    rw [hnil, List.isEmpty_nil, if_pos rfl]
    rfl
  | some v =>
    have hne : core.condition.isEmpty = false := by
      rw [List.isEmpty_eq_false_iff]
      exact hv.1.ne_nil
    rw [hne, if_neg Bool.false_ne_true, SearchText.value_of_reads hv.1]
    split
    · exact SearchText.value_of_reads ((Reads.parens hv.1).single.and hlast).only
    · rename_i hplain
      have hor : core.condition.hasOuterOr = false := by
        rw [Bool.eq_false_iff]
        exact fun hor => hplain (hcompound hor)
      exact SearchText.value_of_reads ((hv.1.conjunction hor).and hlast).only

/-! ## Layers -/

namespace Engine

variable {V : Type} (e : Engine V)

/-- The values that a projection shows of a row. -/
def project (items : List SelectItem) (columns : Columns V) : List V :=
  items.map fun item => e.value item.expression columns

/-- The columns of a row of a derived table, by the names of its projection. -/
def derivedColumns (tableAlias : String) (items : List SelectItem) (row : List V) : Columns V :=
  fun under name =>
    if under = tableAlias then
      (((items.map SelectItem.outputName).zip row).lookup (some name)).getD e.missing
    else e.missing

/-- The rows that WHERE lets through. -/
def found (select : SelectCore) : List (Columns V) :=
  passing (fun number columns =>
      select.search.value fun leaf => e.truth number leaf columns) 1
    (e.source select.table select.tableAlias select.join)

/-- The rows of a derived table that a range lets through, by their columns. -/
def ranged (rows : Option RowRange) (all : List (Columns V)) : List (Columns V) :=
  match rows with
  | none => all
  | some range => passing (fun number columns => e.truth number range.sql columns) 1 all

theorem ranged_first (count : Nat) (all : List (Columns V)) :
    e.ranged (some (.first count)) all = all.take count := by
  simp only [ranged, e.truth_first]
  exact passing_first count all

variable [DecidableEq V]

/-- Rows without those seen before, each where it stands first. -/
def unrepeated (seen : List (List V)) :
    List (Columns V × List V) → List (Columns V × List V)
  | [] => []
  | pair :: rest =>
    if pair.2 ∈ seen then unrepeated seen rest else pair :: unrepeated (pair.2 :: seen) rest

theorem unrepeated_subset (seen : List (List V)) (pairs : List (Columns V × List V)) :
    unrepeated seen pairs ⊆ pairs := by
  induction pairs generalizing seen with
  | nil => exact List.Subset.refl _
  | cons pair rest ih =>
    rw [unrepeated]
    split
    · exact List.subset_cons_of_subset pair (ih seen)
    · exact List.cons_subset_cons pair (ih _)

/-- The rows of a SELECT before its set operations, each with its columns. -/
def shown (select : SelectCore) : List (Columns V × List V) :=
  let found := e.found select
  let grouped := if select.group.isEmpty then found else e.group select.group found
  let projected := grouped.map fun columns => (columns, e.project select.items columns)
  if select.distinct then unrepeated [] projected else projected

/-- The rows of the innermost SELECT. Set operations leave only the columns of the projection. -/
def coreAnswer (select : SelectCore) : List (Columns V × List V) :=
  let shown := e.shown select
  if select.combine.isEmpty then shown
  else (e.combine select.combine (shown.map Prod.snd)).map fun row =>
    (e.derivedColumns "" select.items row, row)

theorem map_snd_coreAnswer (select : SelectCore) :
    (e.coreAnswer select).map Prod.snd =
      if select.combine.isEmpty then (e.shown select).map Prod.snd
      else e.combine select.combine ((e.shown select).map Prod.snd) := by
  unfold coreAnswer
  split
  · rfl
  · rw [List.map_map]
    exact List.map_id _

/-- The rows of a SELECT in layers, each with its columns. -/
def answer : Layers → List (Columns V × List V)
  | .core select => e.coreAnswer select
  | .ordered inner sort =>
    (answer inner).insertionSort fun a b => e.precedes sort a.1 b.1 = true
  | .derived items inner tableAlias rows =>
    (e.ranged rows ((answer inner).map fun pair =>
        e.derivedColumns tableAlias inner.items pair.2)).map fun columns =>
      (columns, e.project items columns)

/-- The rows of a SELECT in layers. -/
def rows (layers : Layers) : List (List V) := (e.answer layers).map Prod.snd

variable {e}

/-- An order keeps the rows. -/
theorem rows_ordered_perm (inner : Layers) (sort : List Sql) :
    (e.rows (.ordered inner sort)).Perm (e.rows inner) :=
  (List.perm_insertionSort _ _).map Prod.snd

theorem rows_orderedBy_perm (inner : Layers) (sort : List Sql) :
    (e.rows (inner.orderedBy sort)).Perm (e.rows inner) := by
  unfold Layers.orderedBy
  split
  · exact .refl _
  · exact rows_ordered_perm inner sort

theorem answer_orderedBy {inner inner' : Layers} (h : e.answer inner = e.answer inner')
    (sort : List Sql) : e.answer (inner.orderedBy sort) = e.answer (inner'.orderedBy sort) := by
  unfold Layers.orderedBy
  split
  · exact h
  · rw [answer, answer, h]

/-- A row of a derived table with some items, as a layer around it shows it. -/
def reprojected (e : Engine V) (items known : List SelectItem) (tableAlias : String)
    (row : List V) : List V :=
  e.project items (e.derivedColumns tableAlias known row)

variable (items : List SelectItem) (inner : Layers) (tableAlias : String)

theorem rows_derived :
    e.rows (.derived items inner tableAlias none) =
      (e.rows inner).map (e.reprojected items inner.items tableAlias) := by
  simp only [rows, answer, ranged, List.map_map]
  rfl

/-- A cap around a derived table takes the first of its rows. -/
theorem rows_derived_first (count : Nat) :
    e.rows (.derived items inner tableAlias (some (.first count))) =
      ((e.rows inner).map (e.reprojected items inner.items tableAlias)).take count := by
  simp only [rows, answer, ranged_first, List.map_take, List.map_map]
  rfl

/-! ## Texts with rows -/

end Engine

/-- A column that a layer refers to is one of the derived table inside it, which outputs one column
of that name. -/
def SelectItem.Offers (items : List SelectItem) (tableAlias : String)
    (column : String × String) : Prop :=
  column.1 = tableAlias ∧ (items.map outputName).count (some (resolvedName column.2)) = 1

instance (items : List SelectItem) (tableAlias : String) (column : String × String) :
    Decidable (SelectItem.Offers items tableAlias column) :=
  inferInstanceAs (Decidable (_ ∧ _))

/-- Every column that the layer around a derived table refers to is one that it offers. -/
def DerivedTable.Resolves (derived : DerivedTable) : Prop :=
  ∀ sql ∈ derived.around, ∀ column ∈ sql.columns,
    SelectItem.Offers derived.items derived.tableAlias column

instance (derived : DerivedTable) : Decidable derived.Resolves :=
  inferInstanceAs (Decidable (∀ sql ∈ derived.around, ∀ column ∈ sql.columns,
    SelectItem.Offers derived.items derived.tableAlias column))

/-- In every layer around a derived table the columns are known, and none is ambiguous. -/
def Layers.Resolves (layers : Layers) : Prop :=
  ∀ derived ∈ layers.derivedTables [], derived.Resolves

instance (layers : Layers) : Decidable layers.Resolves :=
  inferInstanceAs (Decidable (∀ derived ∈ layers.derivedTables [], derived.Resolves))

/-- The rows of a SELECT in layers, if its columns are known. -/
def Engine.rows? {V : Type} [DecidableEq V] (e : Engine V) (layers : Layers) :
    Option (List (List V)) :=
  if layers.Resolves then some (e.rows layers) else none

end QueryLoom
