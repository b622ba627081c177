import QueryLoom.Proofs.ConjoinedConditions
import QueryLoom.Proofs.SelectionRows

/-!
# Capped rows

A capped selection has the first rows of the selection without a cap, whichever of its parts there
are: a cap counts in WHERE where nothing else happens to rows, and in a layer around the selection
otherwise. That layer writes the projection again, so this holds exactly for the projections that
may be written again: columns may be, and an output form may not unless its column is projected too.

## Implementation notes

Where a cap puts a layer around a selection, what has to be told apart is where the rows inside come
from: they are projected from those of tables, from those of set operations, or are those of set
operations themselves. That the conditions for these cases are needed is read off one engine, in
which values say where they come from.
-/

namespace QueryLoom

/-! ## Projections under a cap -/

/-- The projection of a selection may be written again around the rows that a cap counts: rows of
tables show its columns again, and so do those of an order behind a set operation, if there are any;
rows of a set operation itself are shown again by columns only. -/
structure Selection.Reprojects (s : Selection) : Prop where
  /-- Rows of a table are ordered, grouped or freed of duplicates inside the layer of the cap. -/
  shaped : s.isCombined = false → s.isShaped = true →
    ∀ column ∈ SelectItem.columnsOf s.inner, SelectItem.Keeps s.inner s.tableAlias column
  /-- A set operation stands inside the layer of the cap. -/
  combined : s.isCombined = true → s.sort = [] → SelectItem.AreColumns s.inner s.tableAlias
  /-- The rows of a set operation are projected for their order, inside the layer of the cap. -/
  sorted : s.isCombined = true → s.sort ≠ [] → (s.limited none).Resolves →
    ∀ column ∈ SelectItem.columnsOf s.inner, SelectItem.Keeps s.inner s.tableAlias column

/-- In every engine a cap takes the first of the rows that there are without it. Without rows, as
the text refers to unknown columns, there are none with a cap either. -/
def Selection.CapTakesFirst (s : Selection) : Prop :=
  ∀ (V : Type) [DecidableEq V] (e : Engine V) (limit : Nat),
    e.rows? (s.limited (some limit)) = (e.rows? (s.limited none)).map (List.take limit)

/-- Columns under their own names may be written again around whatever a cap counts. -/
theorem SelectItem.AreColumns.reprojects {s : Selection}
    (h : SelectItem.AreColumns s.inner s.tableAlias) : s.Reprojects :=
  ⟨fun _ _ => h.keeps, fun _ _ => h, fun _ _ _ => h.keeps⟩

section Capped

variable {s : Selection}
  (hsame : s.outer.map SelectItem.expression = s.inner.map SelectItem.expression)

include hsame in
/-- What is shown again around the rows without a cap is what is there. -/
theorem Selection.Reprojects.shown_again (h : s.Reprojects) {V : Type} [DecidableEq V]
    (e : Engine V) {limit : Nat} (hwrapped : s.Wrapped (some limit))
    (hresolves : (s.limited none).Resolves) :
    s.OffersOwn ∧ ∀ row ∈ e.rows (s.limited none),
      e.reprojected s.inner s.inner s.tableAlias row = row := by
  cases hcombined : s.isCombined with
  | false =>
    have hshaped : s.isShaped = true := by simpa [Wrapped, hcombined] using hwrapped
    have hkeeps := h.shaped hcombined hshaped
    refine ⟨fun column hcolumn => (hkeeps column hcolumn).offered, ?_⟩
    intro row hrow
    rw [s.limited_none_of_not_wrapped (by simp [Wrapped, hcombined]),
      (Engine.rows_orderedBy_perm _ _).mem_iff] at hrow
    obtain ⟨columns, rfl⟩ := Engine.exists_project_of_mem_rows hcombined row hrow
    rw [Engine.project_outer hsame]
    exact Engine.reprojected_project hkeeps columns
  | true =>
    by_cases hsort : s.sort = []
    · have hcolumns := h.combined hcombined hsort
      refine ⟨hcolumns.offers, ?_⟩
      intro row hrow
      rw [s.limited_none_of_not_wrapped (fun h => h.2 hsort),
        (Engine.rows_orderedBy_perm _ _).mem_iff, Engine.rows_outer hsame] at hrow
      exact Engine.reprojected_eq hcolumns (Engine.length_of_mem_rows row hrow)
    · have hkeeps := h.sorted hcombined hsort hresolves
      refine ⟨fun column hcolumn => (hkeeps column hcolumn).offered, ?_⟩
      intro row hrow
      rw [s.limited_none_of_wrapped ⟨hcombined, hsort⟩, (Engine.rows_ordered_perm _ _).mem_iff,
        Engine.rows_derived, Engine.reprojected_outer hsame] at hrow
      obtain ⟨inner, -, rfl⟩ := List.mem_map.mp hrow
      exact Engine.reprojected_project hkeeps _

variable (hreads : s.condition.Readable)

include hsame hreads in
/-- A cap takes the first rows, if the projection may be written again where it is. -/
theorem Selection.Reprojects.capTakesFirst (h : s.Reprojects)
    (hcompound : s.condition.hasOuterOr = true → s.compound = true) : s.CapTakesFirst := by
  intro V _ e limit
  rw [Engine.rows?, Engine.rows?]
  by_cases hwrapped : s.Wrapped (some limit)
  · have hcapped := resolves_limited hsame hwrapped
    by_cases hresolves : (s.limited none).Resolves
    · obtain ⟨hoffers, hagain⟩ := h.shown_again hsame e hwrapped hresolves
      rw [if_pos (hcapped.mpr ⟨hoffers, hresolves⟩), if_pos hresolves,
        Engine.rows_limited_of_wrapped hsame hwrapped, List.map_congr_left hagain, List.map_id']
      rfl
    · rw [if_neg fun h => hresolves (hcapped.mp h).2, if_neg hresolves]
      rfl
  · -- rows are counted where they are found
    obtain ⟨hcombined, hshaped⟩ : s.isCombined = false ∧ s.isShaped = false := by
      simpa [Wrapped] using hwrapped
    have hplain : ¬ s.Wrapped none := by simp [Wrapped, hcombined]
    have hsort := (isGathered_eq hcombined hshaped).1
    have hcapped : s.limited (some limit) = s.core s.outer (some limit) := by
      simp only [limited, hcombined, hshaped]
    rw [if_pos (resolves_of_not_wrapped hwrapped), if_pos (resolves_of_not_wrapped hplain), hcapped,
      s.limited_none_of_not_wrapped hplain, hsort,
      Engine.rows_core_capped hreads hcompound hcombined hshaped]
    rfl

/-! ## No more than is needed -/

section Origins

variable (hcap : SearchPart.leaf (RowRange.first 0).sql ∉ s.condition)

include hreads hcap

/-- Where conditions hold, row caps apart, the row of a table is found. -/
theorem Origin.found (items : List SelectItem) :
    (originEngine s.inner s.tableAlias).found (s.innermost items none) = [Origin.column] := by
  have hholds : s.condition.value (RowRange.admits 1) = true := by
    obtain ⟨v, hv⟩ := hreads (RowRange.admits 1)
    cases v with
    | none =>
      have hnil : s.condition = [] := hv
      rw [hnil]
      rfl
    | some v =>
      rw [SearchText.value_of_reads hv.1]
      apply hv.1.eq_true
      intro sql hsql
      apply decide_eq_true
      intro count hcount heq
      obtain rfl := Nat.lt_one_iff.mp hcount
      exact hcap (heq ▸ hsql)
  have hfound : (originEngine s.inner s.tableAlias).found (s.innermost items none) =
      if s.condition.value (RowRange.admits 1) = true then [Origin.column] else [] := rfl
  rw [hfound, if_pos hholds]

/-- The one row of a selection: that of a table, or behind a set operation one in which every name
is that of a column. -/
theorem Origin.rows_unordered {items : List SelectItem} (hlength : items.length = s.inner.length) :
    (originEngine s.inner s.tableAlias).rows (s.unordered items) =
      if s.isCombined then [s.inner.map (Origin.output s.tableAlias)]
      else [(originEngine s.inner s.tableAlias).project items Origin.column] := by
  have hshown : ((originEngine s.inner s.tableAlias).shown (s.innermost items none)).map Prod.snd =
      [(originEngine s.inner s.tableAlias).project items Origin.column] := by
    unfold Engine.shown
    rw [Origin.found hreads hcap]
    simp [Selection.innermost, originEngine, Engine.unrepeated]
  rw [Engine.rows_unordered, hshown]
  cases hcombine : s.combine with
  | nil => simp [Selection.isCombined, hcombine]
  | cons token rest =>
    simp [Selection.isCombined, hcombine, originEngine, Engine.project, hlength]

end Origins

include hsame in
/-- A cap that takes the first row where there is one has its columns on offer, and shows it
again. -/
theorem Selection.CapTakesFirst.shown_again (h : s.CapTakesFirst) (hwrapped : s.Wrapped (some 1))
    (hresolves : (s.limited none).Resolves) {V : Type} [DecidableEq V] {e : Engine V}
    {row : List V} (hrow : e.rows (s.limited none) = [row]) :
    s.OffersOwn ∧ e.reprojected s.inner s.inner s.tableAlias row = row := by
  have hfirst := h V e 1
  rw [Engine.rows?, Engine.rows?, if_pos hresolves, hrow] at hfirst
  split at hfirst
  · rename_i hcapped
    refine ⟨((resolves_limited hsame hwrapped).mp hcapped).1, ?_⟩
    rw [Engine.rows_limited_of_wrapped hsame hwrapped, hrow] at hfirst
    exact (List.cons.inj (Option.some.inj hfirst)).1
  · cases hfirst

include hsame hreads in
/-- Where a cap takes the first rows in every engine, the projection may be written again. -/
theorem Selection.CapTakesFirst.reprojects (h : s.CapTakesFirst)
    (hcap : SearchPart.leaf (RowRange.first 0).sql ∉ s.condition) : s.Reprojects := by
  have houter : s.outer.length = s.inner.length := by
    simpa using congrArg List.length hsame
  constructor
  case shaped =>
    intro hcombined hshaped
    have hplain : ¬ s.Wrapped none := by simp [Wrapped, hcombined]
    have hrow : (originEngine s.inner s.tableAlias).rows (s.limited none) =
        [(originEngine s.inner s.tableAlias).project s.inner Origin.column] := by
      rw [s.limited_none_of_not_wrapped hplain, ← List.perm_singleton]
      refine (Engine.rows_orderedBy_perm _ _).trans ?_
      rw [Origin.rows_unordered hreads hcap houter, hcombined, if_neg Bool.false_ne_true,
        Engine.project_outer hsame]
    obtain ⟨hoffers, hagain⟩ := h.shown_again hsame (.inr hshaped)
      (resolves_of_not_wrapped hplain) hrow
    exact Origin.keeps_of_reprojected hoffers hagain
  case combined =>
    intro hcombined hsort
    have hplain : ¬ s.Wrapped none := fun h => h.2 hsort
    have hrow : (originEngine s.inner s.tableAlias).rows (s.limited none) =
        [s.inner.map (Origin.output s.tableAlias)] := by
      rw [s.limited_none_of_not_wrapped hplain, ← List.perm_singleton]
      refine (Engine.rows_orderedBy_perm _ _).trans ?_
      rw [Origin.rows_unordered hreads hcap houter, hcombined, if_pos rfl]
    obtain ⟨hoffers, hagain⟩ := h.shown_again hsame (.inl hcombined)
      (resolves_of_not_wrapped hplain) hrow
    exact Origin.areColumns_of_reprojected hoffers hagain
  case sorted =>
    intro hcombined hsort hresolves
    have hwrapped : s.Wrapped none := ⟨hcombined, hsort⟩
    have hoffers : s.OffersOwn := by
      have hown := ((s.resolves_limited_none.mp hresolves) hwrapped).1
      rwa [columnsOf_outer hsame] at hown
    have hrow : (originEngine s.inner s.tableAlias).rows (s.limited none) =
        [(originEngine s.inner s.tableAlias).project s.inner Origin.column] := by
      rw [s.limited_none_of_wrapped hwrapped, ← List.perm_singleton]
      refine (Engine.rows_ordered_perm _ _).trans ?_
      rw [Engine.rows_derived, Origin.rows_unordered hreads hcap rfl, hcombined, if_pos rfl,
        Engine.reprojected_outer hsame, List.map_singleton, items_unordered,
        Origin.reprojected_output hoffers]
    obtain ⟨-, hagain⟩ := h.shown_again hsame (.inl hcombined) hresolves hrow
    exact Origin.keeps_of_reprojected hoffers hagain

end Capped

/-! ## Compiled selections -/

section Compiled

variable {c : Compiler} {query : Query} {sorted : Bool} {clauses : Clauses} {r t : Scope}

/-- A predicate that denotes something is a condition to put a cap next to. -/
theorem Predicate.Denoting.readable {text : SearchText} {hasOr : Bool}
    (h : Predicate.Denoting ⟨text, hasOr, {}⟩) :
    text.Readable ∧ (text.hasOuterOr = true → hasOr = true) := by
  constructor
  · intro holds
    obtain ⟨v, hv⟩ := h holds
    exact ⟨v, hv.text⟩
  · intro hor
    obtain ⟨v, hv⟩ := h fun _ => true
    exact hv.flag.trans hor

/-- Labels change nothing else about fields. -/
theorem Conventions.expression_item (conventions : Conventions) (tableAlias : String)
    (labelled : Bool) (field : Field) :
    (conventions.item tableAlias labelled field).expression =
      (conventions.item tableAlias false field).expression := by
  unfold item
  cases field.outputForm <;> rfl

/-- Fields without output forms, of different columns, are columns under their own names. -/
theorem Conventions.areColumns_items (conventions : Conventions) (tableAlias : String)
    {fields : List Field} (hforms : ∀ field ∈ fields, field.outputForm = none)
    (hnames : (fields.map conventions.columnName).Nodup) :
    SelectItem.AreColumns (fields.map (conventions.item tableAlias false)) tableAlias := by
  have hname : ∀ field ∈ fields, (conventions.item tableAlias false field).outputName =
      some (conventions.columnName field) := by
    intro field hfield
    unfold item
    rw [hforms field hfield]
    rfl
  constructor
  · rw [List.forall_mem_map]
    intro field hfield
    refine ⟨_, hname field hfield, conventions.identifier field.column, ?_, rfl⟩
    unfold item
    rw [hforms field hfield]
    rfl
  · have houtputs : (fields.map (conventions.item tableAlias false)).map SelectItem.outputName =
        (fields.map conventions.columnName).map some := by
      rw [List.map_map, List.map_map]
      exact List.map_congr_left hname
    rw [houtputs]
    exact hnames.map (Option.some_injective String)

/-- The selection of a query may be capped, if it projects fields without output forms, of different
columns. -/
theorem selection_capTakesFirst {entity : Entity} {properties : List String} {fields : List Field}
    {selection : Selection}
    (h : Yields (c.selection entity query properties fields sorted) r (clauses, selection) t)
    (hforms : ∀ field ∈ fields, field.outputForm = none)
    (hnames : (fields.map c.conventions.columnName).Nodup) : selection.CapTakesFirst := by
  obtain ⟨hreads, hcompound⟩ := (selection_denoting h).readable
  unfold Compiler.selection at h
  simp only [yields_bind, yields_pure, Prod.mk.injEq] at h
  obtain ⟨_, _, -, _, _, -, ⟨-, rfl⟩, -⟩ := h
  have hcolumns := c.conventions.areColumns_items rootAlias hforms hnames
  refine hcolumns.reprojects.capTakesFirst ?_ hreads hcompound
  rw [List.map_map, List.map_map]
  exact List.map_congr_left fun field _ => c.conventions.expression_item rootAlias true field

/-- A nested query, which projects one column, may be capped. -/
theorem nestedSelection_capTakesFirst {fields : List String} {tableAlias : String}
    (h : Yields (query.clauses c fields tableAlias sorted) r clauses t) (target : NestedTarget)
    (distinct : Bool) : (c.nestedSelection target tableAlias distinct clauses).CapTakesFirst := by
  have hdenoting : Predicate.Denoting ⟨clauses.condition, clauses.hasOr, {}⟩ :=
    Query.clauses_denoting query h
  obtain ⟨hreads, hcompound⟩ := hdenoting.readable
  have hcolumns : SelectItem.AreColumns
      [⟨c.conventions.column tableAlias target.field, none⟩] tableAlias := by
    constructor
    · rw [List.forall_mem_singleton]
      exact ⟨_, rfl, _, rfl, rfl⟩
    · exact List.nodup_singleton _
  exact hcolumns.reprojects.capTakesFirst rfl hreads hcompound

end Compiled

/-! ## Capped selections -/

/-- A cap takes the first rows of a selection if its projection may be written again where the cap
puts a layer around it, and in no other case takes them in every engine. It is written once, in a
SELECT without DISTINCT, GROUP BY, set operations and ORDER BY. -/
theorem capped_rows_first_iff (s : Selection) (hreads : s.condition.Readable)
    (hcompound : s.condition.hasOuterOr = true → s.compound = true)
    (hsame : s.outer.map SelectItem.expression = s.inner.map SelectItem.expression) :
    (s.Reprojects → s.CapTakesFirst) ∧
    (.leaf (RowRange.first 0).sql ∉ s.condition → s.CapTakesFirst → s.Reprojects) ∧
    ∀ limit, (s.limited (some limit)).caps false = [(.first limit, false)] ∧
      (s.limited none).caps false = [] ∧
      ((∀ piece ∈ s.pieces, piece.rowCaps = []) →
        (s.limited (some limit)).sql.rowCaps = [.verbatim ("ROWNUM <= " ++ toString limit)] ∧
        (s.limited none).sql.rowCaps = []) := by
  refine ⟨fun h => h.capTakesFirst hsame hreads hcompound,
    fun hcap h => h.reprojects hsame hreads hcap, ?_⟩
  intro limit
  obtain ⟨hcapped, huncapped⟩ := s.caps_limited limit
  refine ⟨hcapped, huncapped, ?_⟩
  intro hpieces
  have hwritten (cap : Option Nat) : (s.limited cap).sql.rowCaps =
      ((s.limited cap).caps false).flatMap fun range => range.1.sql.rowCaps :=
    Layers.rowCaps_sql false fun piece hpiece =>
      hpieces piece (s.pieces_limited_subset cap hpiece)
  rw [hwritten, hwritten, hcapped, huncapped]
  refine ⟨?_, rfl⟩
  rw [List.flatMap_cons, List.flatMap_nil, List.append_nil, RowRange.rowCaps_first,
    RowRange.sql_first]

/-! ## Prices -/

/-- The prices of a table of products, in cents. -/
def priceEngine (prices : List Nat) : Engine Nat where
  source _ tableAlias _ := prices.map fun price under name =>
    if under = tableAlias ∧ name = "PRICE" then price else 0
  truth number sql columns :=
    RowRange.admits number sql &&
      match sql with
      | [.column tableAlias name, .verbatim " < 400"] =>
        decide (columns.worth (tableAlias, name) < 400)
      | [.column tableAlias name, .verbatim " > 900"] =>
        decide (900 < columns.worth (tableAlias, name))
      | _ => true
  value sql columns :=
    match sql with
    | [.column tableAlias name] => columns.worth (tableAlias, name)
    | [.column tableAlias name, .verbatim " / 100"] => columns.worth (tableAlias, name) / 100
    | _ => 0
  group _ rows := rows
  combine _ rows := rows
  precedes
    | (.column tableAlias name :: _) :: _, a, b =>
      decide (a.worth (tableAlias, name) ≤ b.worth (tableAlias, name))
    | _, _, _ => true
  missing := 0
  truth_first number count columns := by
    rw [RowRange.admits_first, RowRange.sql_first, Bool.and_true]
  value_column _ _ _ := rfl
  value_congr sql a b h := by
    split
    · exact h _ (List.mem_singleton_self _)
    · rw [h _ List.mem_cons_self]
    · rfl
  width_combine _ _ _ h := h

/-- The different prices that are low or high, in ascending order. -/
def extremePrices : Selection where
  inner := [⟨Sql.column "TB" "\"PRICE\"", none⟩]
  outer := [⟨Sql.column "TB" "\"PRICE\"", some "Price"⟩]
  table := "\"PRODUCT\""
  tableAlias := "TB"
  condition := [.leaf (Sql.column "TB" "\"PRICE\"" ++ Sql.text " < 400"), .connective .or,
    .leaf (Sql.column "TB" "\"PRICE\"" ++ Sql.text " > 900")]
  compound := true
  sort := [Sql.column "TB" "\"PRICE\"" ++ Sql.text " ASC"]
  distinct := true

/-- Prices in the form of another currency unit, in ascending order. -/
def formedPrices : Selection where
  inner := [⟨Sql.column "TB" "\"PRICE\"" ++ Sql.text " / 100", some "PRICE"⟩]
  outer := [⟨Sql.column "TB" "\"PRICE\"" ++ Sql.text " / 100", some "PRICE"⟩]
  table := "\"PRODUCT\""
  tableAlias := "TB"
  sort := [Sql.column "TB" "\"PRICE\"" ++ Sql.text " ASC"]

/-- Two low prices are counted behind the order, and not where they are found. In another form they
may not be capped. -/
theorem extremePrices_first :
    let e := priceEngine [700, 1200, 300, 1200, 500, 100]
    e.rows? (extremePrices.limited (some 2)) = some [[100], [300]] ∧
      (extremePrices.limited (some 2)).sql.rowCaps = [.verbatim "ROWNUM <= 2"] ∧
      ¬ formedPrices.CapTakesFirst := by
  intro e
  have hreads : extremePrices.condition.Readable := fun holds =>
    ⟨_, Reads.means (.or (.only (.single (.leaf _))) (.single (.leaf _)))⟩
  have hcolumns : SelectItem.AreColumns extremePrices.inner extremePrices.tableAlias := by
    constructor
    · exact List.forall_mem_singleton.mpr ⟨"PRICE", by decide, _, rfl, by decide⟩
    · exact List.nodup_singleton _
  obtain ⟨hfirst, -, hcaps⟩ := capped_rows_first_iff extremePrices hreads (fun _ => rfl) rfl
  obtain ⟨-, hformed, -⟩ := capped_rows_first_iff formedPrices (fun _ => ⟨none, rfl⟩)
    (fun h => absurd h Bool.false_ne_true) rfl
  have hall : e.rows? (extremePrices.limited none) = some [[100], [300], [1200]] := by
    decide +kernel
  have hrows := hfirst hcolumns.reprojects Nat e 2
  rw [hall] at hrows
  refine ⟨hrows, ((hcaps 2).2.2 (by decide +kernel)).1, fun h => ?_⟩
  have hkeeps := (hformed List.not_mem_nil h).shaped rfl rfl ("TB", "\"PRICE\"") (by decide)
  obtain ⟨written, hexpression, -⟩ := hkeeps.itself _ (List.mem_singleton_self _) (by decide)
  have hlength : 2 = 1 := congrArg List.length hexpression
  exact absurd hlength (by decide)

/-- Products with their prices, in the form of another currency unit. -/
def productCompiler : Compiler where
  schema := ⟨[{ name := "Product", table := "PRODUCT", fields :=
    [{ property := "PRICE", column := "PRICE", outputForm := some "\x7b0\x7d / 100" }] }]⟩

/-- The two lowest prices. -/
def lowestPrices : Query where
  entity := "Product"
  fields := ["PRICE"]
  sorts := [⟨"PRICE", .ascending, none⟩]
  size := 2

/-- Prices in a form are divided once without a cap, and once more in the layer that caps them. -/
theorem formedPrices_divided_again :
    let e := priceEngine [1250, 300, 900]
    (∃ statement, productCompiler.query lowestPrices = .ok statement ∧
      statement.script = (formedPrices.limited (some 2)).sql ∧
      statement.script.render = "SELECT TB.\"PRICE\" / 100 AS \"PRICE\" FROM " ++
        "(SELECT TB.\"PRICE\" / 100 AS \"PRICE\" FROM \"PRODUCT\" TB " ++
        "ORDER BY TB.\"PRICE\" ASC) TB WHERE ROWNUM <= 2") ∧
    formedPrices.condition = [] ∧ formedPrices.compound = false ∧
    formedPrices.outer = formedPrices.inner ∧
    e.rows? (formedPrices.limited none) = some [[3], [9], [12]] ∧
    e.rows? (formedPrices.limited (some 2)) = some [[0], [0]] := by
  intro e
  refine ⟨?_, rfl, rfl, rfl, by decide +kernel, by decide +kernel⟩
  obtain ⟨statement, hstatement⟩ := exists_ok_of_isSome
    (x := productCompiler.query lowestPrices) (by decide +kernel)
  have hscript : (productCompiler.query lowestPrices).toOption.map (·.script) =
      some (formedPrices.limited (some 2)).sql := by
    decide +kernel
  rw [hstatement] at hscript
  obtain hscript : statement.script = _ := Option.some.inj hscript
  refine ⟨statement, hstatement, hscript, ?_⟩
  rw [hscript]
  decide +kernel

end QueryLoom
