import Mathlib.Data.List.Basic
import QueryLoom.Proofs.Occurrences
import QueryLoom.Proofs.SearchConditions

/-!
# Row caps in layers

Which SELECT of some layers counts rows, what else that SELECT does with its rows, and how often a
row cap is written.

## Implementation notes

A row cap is found by the word that it begins with. Everything else that layers write around their
pieces begins with another character.
-/

namespace QueryLoom

/-! ## Layers -/

/-- The rows of the innermost SELECT are grouped, freed of duplicates or combined. -/
def SelectCore.isGathered (select : SelectCore) : Bool :=
  select.distinct || !select.group.isEmpty || !select.combine.isEmpty

namespace Layers

/-- The ranges of rows in some layers, in the order in which they are written, each with whether its
own SELECT orders its rows, groups them, frees them of duplicates or combines them. -/
def caps (isOrdered : Bool) : Layers → List (RowRange × Bool)
  | core select =>
    (select.cap.map fun count => (RowRange.first count, isOrdered || select.isGathered)).toList
  | ordered inner _ => inner.caps true
  | derived _ inner _ rows => inner.caps false ++ (rows.map fun range => (range, isOrdered)).toList

/-- The pieces of layers, without their ranges of rows. -/
def pieces : Layers → List Sql
  | core select => select.items.map SelectItem.sql ++
      [select.join, select.condition.sql, select.group, select.combine]
  | ordered inner sort => inner.pieces ++ sort
  | derived items inner _ _ => items.map SelectItem.sql ++ inner.pieces

end Layers

/-- Whether a token begins with the word for row numbers. -/
def Token.isRowCap : Token → Bool
  | .verbatim text => "ROWNUM".toList.isPrefixOf text.toList
  | _ => false

namespace Sql

/-- The row caps of a text. -/
def rowCaps (sql : Sql) : Sql := sql.filter Token.isRowCap

@[simp] theorem rowCaps_nil : rowCaps [] = [] := rfl

@[simp] theorem rowCaps_append (a b : Sql) : rowCaps (a ++ b) = rowCaps a ++ rowCaps b :=
  List.filter_append _ _

theorem rowCaps_text {word : String} (h : word.toList.head? ≠ some 'R') :
    rowCaps (text word) = [] := by
  unfold text
  split
  · rfl
  · have hword : "ROWNUM".toList.isPrefixOf word.toList = false := by
      cases hlist : word.toList with
      | nil => rfl
      | cons first rest =>
        rw [hlist] at h
        have hfirst : ('R' == first) = false := by
          rw [beq_eq_false_iff_ne]
          exact fun hsame => h (congrArg some hsame.symm)
        rw [show "ROWNUM".toList = 'R' :: "OWNUM".toList by decide, List.isPrefixOf_cons_cons,
          hfirst, Bool.false_and]
    rw [rowCaps, List.filter_cons_of_neg, List.filter_nil]
    rw [Token.isRowCap, hword]
    exact Bool.false_ne_true

theorem head?_lead {lead : String} (hlead : lead.toList ≠ []) (rest : String) :
    (lead ++ rest).toList.head? = lead.toList.head? := by
  rw [String.toList_append, List.head?_append_of_ne_nil _ hlead]

/-- A text that begins with a word other than that for row numbers. -/
theorem rowCaps_lead {lead : String} (hlead : lead.toList ≠ [])
    (hfirst : lead.toList.head? ≠ some 'R') (rest : String) :
    rowCaps (text (lead ++ rest)) = [] := by
  apply rowCaps_text
  rw [head?_lead hlead]
  exact hfirst

theorem rowCaps_parens (sql : Sql) : rowCaps sql.parens = rowCaps sql := by
  rw [parens, rowCaps_append, rowCaps_append, rowCaps_text (by decide), rowCaps_text (by decide),
    List.nil_append, List.append_nil]

theorem rowCaps_separated {separator : String} (hseparator : separator.toList.head? ≠ some 'R')
    {parts : List Sql} (h : ∀ part ∈ parts, rowCaps part = []) :
    rowCaps (separated separator parts) = [] := by
  induction parts with
  | nil => rfl
  | cons first rest ih =>
    obtain ⟨hfirst, hrest⟩ := List.forall_mem_cons.mp h
    cases rest with
    | nil => exact hfirst
    | cons second rest =>
      rw [separated]
      · rw [rowCaps_append, rowCaps_append, hfirst, rowCaps_text hseparator, ih hrest]
        rfl
      · exact List.cons_ne_nil _ _

theorem rowCaps_clause {lead : String} (hlead : lead.toList.head? ≠ some 'R') (sql : Sql) :
    rowCaps (clause lead sql) = rowCaps sql := by
  unfold clause
  split
  · rename_i hempty
    rw [List.isEmpty_iff.mp hempty]
  · rw [rowCaps_append, rowCaps_text hlead, List.nil_append]

theorem rowCaps_items {items : List SelectItem}
    (h : ∀ piece ∈ items.map SelectItem.sql, rowCaps piece = []) :
    rowCaps (SelectItem.list items) = [] :=
  rowCaps_separated (by decide) h

end Sql

theorem RowRange.sql_first (count : Nat) :
    (RowRange.first count).sql = [.verbatim ("ROWNUM <= " ++ toString count)] := by
  rw [RowRange.sql, Sql.text, if_neg]
  intro h
  exact absurd (String.append_eq_empty_iff.mp (String.isEmpty_iff.mp h)).1 (by decide)

theorem RowRange.rowCaps_first (count : Nat) :
    (RowRange.first count).sql.rowCaps = (RowRange.first count).sql := by
  rw [RowRange.sql_first, Sql.rowCaps, List.filter_cons_of_pos, List.filter_nil]
  rw [Token.isRowCap, String.toList_append]
  rfl

/-- The search condition of a SELECT adds its row cap to the condition. -/
theorem SelectCore.rowCaps_search (select : SelectCore) :
    select.search.sql.rowCaps = select.condition.sql.rowCaps ++
      (select.cap.toList.flatMap fun count => (RowRange.first count).sql) := by
  have hand : (SearchPart.connective .and).sql.rowCaps = [] := Sql.rowCaps_text (by decide)
  unfold search
  split
  · rename_i hcap
    rw [hcap]
    simp
  · rename_i count hcap
    have hconnect (left : SearchText) :
        (left.connect .and (SearchText.leaf (RowRange.first count).sql)).sql.rowCaps =
          left.sql.rowCaps ++ (RowRange.first count).sql := by
      rw [SearchText.connect, ← List.singleton_append, SearchText.sql_append,
        SearchText.sql_append, Sql.rowCaps_append, Sql.rowCaps_append, SearchText.sql_leaf,
        RowRange.rowCaps_first]
      simp [SearchText.sql, hand]
    have hparens : select.condition.parens.sql.rowCaps = select.condition.sql.rowCaps := by
      have hopening : SearchPart.opening.sql.rowCaps = [] := Sql.rowCaps_text (by decide)
      have hclosing : SearchPart.closing.sql.rowCaps = [] := Sql.rowCaps_text (by decide)
      rw [SearchText.parens, ← List.singleton_append, List.append_assoc, SearchText.sql_append,
        SearchText.sql_append, Sql.rowCaps_append, Sql.rowCaps_append]
      simp [SearchText.sql, hopening, hclosing]
    rw [hcap]
    dsimp only
    split
    · rename_i hempty
      rw [List.isEmpty_iff.mp hempty, SearchText.sql_leaf, RowRange.rowCaps_first]
      simp
    · split
      · rw [hconnect, hparens]
        simp
      · rw [hconnect]
        simp

/-- Layers without row caps in their pieces write the row caps of their SELECTs, and no others. -/
theorem Layers.rowCaps_sql {layers : Layers} (isOrdered : Bool)
    (h : ∀ piece ∈ layers.pieces, piece.rowCaps = []) :
    layers.sql.rowCaps = (layers.caps isOrdered).flatMap fun cap => cap.1.sql.rowCaps := by
  induction layers generalizing isOrdered with
  | core select =>
    simp only [pieces, List.forall_mem_append, List.forall_mem_cons] at h
    obtain ⟨hitems, hjoin, hcondition, hgroup, hcombine, -⟩ := h
    have hselect : (Sql.text
        (if select.distinct then "SELECT DISTINCT " else "SELECT ")).rowCaps = [] := by
      split <;> exact Sql.rowCaps_text (by decide)
    have hfrom :
        (Sql.text (" FROM " ++ select.table ++ " " ++ select.tableAlias)).rowCaps = [] := by
      rw [String.append_assoc, String.append_assoc]
      exact Sql.rowCaps_lead (by decide) (by decide) _
    have hblank (sql : Sql) : (Sql.clause " " sql).rowCaps = sql.rowCaps :=
      Sql.rowCaps_clause (by decide) sql
    have hwhere (sql : Sql) : (Sql.clause " WHERE " sql).rowCaps = sql.rowCaps :=
      Sql.rowCaps_clause (by decide) sql
    rw [Layers.sql, SelectCore.sql]
    simp only [Sql.rowCaps_append, hselect, Sql.rowCaps_items hitems, hfrom, hblank, hjoin, hwhere,
      select.rowCaps_search, hcondition, hgroup, hcombine, List.nil_append, List.append_nil, caps]
    cases select.cap with
    | none => rfl
    | some count => simp [RowRange.rowCaps_first]
  | ordered inner sort ih =>
    rw [pieces, List.forall_mem_append] at h
    rw [Layers.sql, Sql.rowCaps_append, Sql.rowCaps_append, Sql.rowCaps_text (by decide),
      Sql.rowCaps_separated (by decide) h.2, List.append_nil, List.append_nil, caps, ih true h.1]
  | derived items inner tableAlias rows ih =>
    rw [pieces, List.forall_mem_append] at h
    have halias : (Sql.text (" " ++ tableAlias)).rowCaps = [] :=
      Sql.rowCaps_lead (by decide) (by decide) _
    have hselect : (Sql.text "SELECT ").rowCaps = [] := Sql.rowCaps_text (by decide)
    have hfrom : (Sql.text " FROM ").rowCaps = [] := Sql.rowCaps_text (by decide)
    have hwhere : (Sql.text " WHERE ").rowCaps = [] := Sql.rowCaps_text (by decide)
    simp only [Layers.sql, Sql.rowCaps_append, hselect, Sql.rowCaps_items h.1, hfrom,
      Sql.rowCaps_parens, ih false h.2, halias, List.nil_append, List.append_nil, caps,
      List.flatMap_append]
    cases rows with
    | none => rfl
    | some range => simp [hwhere]

/-! ## Selections -/

namespace Selection

variable (s : Selection)

/-- The pieces of a selection. -/
def pieces : List Sql :=
  (s.inner ++ s.outer).map SelectItem.sql ++ [s.join, s.condition.sql, s.group, s.combine] ++ s.sort

theorem items_subset_pieces {items : List SelectItem} (h : items ⊆ s.inner ++ s.outer) :
    items.map SelectItem.sql ⊆ s.pieces := by
  intro piece hpiece
  exact List.mem_append_left _ (List.mem_append_left _ (List.map_subset _ h hpiece))

theorem pieces_core_subset {items : List SelectItem} (h : items ⊆ s.inner ++ s.outer)
    (cap : Option Nat) : (s.core items cap).pieces ⊆ s.pieces := by
  rw [core, Layers.pieces, List.append_subset]
  refine ⟨s.items_subset_pieces h, ?_⟩
  intro piece hpiece
  exact List.mem_append_left _ (List.mem_append_right _ hpiece)

theorem pieces_orderedBy_subset {inner : Layers} (h : inner.pieces ⊆ s.pieces) :
    (inner.orderedBy s.sort).pieces ⊆ s.pieces := by
  unfold Layers.orderedBy
  split
  · exact h
  · exact List.append_subset.mpr ⟨h, List.subset_append_right _ _⟩

/-- The layers of a selection are made of its pieces. -/
theorem pieces_limited_subset (cap : Option Nat) : (s.limited cap).pieces ⊆ s.pieces := by
  have hinner : s.inner ⊆ s.inner ++ s.outer := List.subset_append_left _ _
  have houter : s.outer ⊆ s.inner ++ s.outer := List.subset_append_right _ _
  have hderived {items : List SelectItem} {inner : Layers} {rows : Option RowRange}
      (hitems : items ⊆ s.inner ++ s.outer) (hlayer : inner.pieces ⊆ s.pieces) :
      (Layers.derived items inner s.tableAlias rows).pieces ⊆ s.pieces :=
    List.append_subset.mpr ⟨s.items_subset_pieces hitems, hlayer⟩
  have hordered {inner : Layers} (hlayer : inner.pieces ⊆ s.pieces) :
      (Layers.ordered inner s.sort).pieces ⊆ s.pieces :=
    List.append_subset.mpr ⟨hlayer, List.subset_append_right _ _⟩
  have hcore := s.pieces_core_subset hinner none
  cases cap with
  | none =>
    rw [limited]
    split
    · exact hordered (hderived houter hcore)
    · exact s.pieces_orderedBy_subset (s.pieces_core_subset houter none)
  | some limit =>
    simp only [limited]
    split
    · exact s.pieces_core_subset houter (some limit)
    · exact hderived houter (s.pieces_orderedBy_subset hcore)
    · split
      · exact hderived houter hcore
      · exact hderived houter (hordered (hderived hinner hcore))

/-- A selection that is not wrapped carries nothing that counts rows. -/
theorem isGathered_eq {s : Selection} (hcombined : s.isCombined = false)
    (hshaped : s.isShaped = false) :
    s.sort = [] ∧ s.distinct = false ∧ s.group = [] ∧ s.combine = [] := by
  simpa [isCombined, isShaped, and_assoc, and_comm, and_left_comm] using And.intro hcombined hshaped

/-- A capped selection counts rows once, in a SELECT that does nothing else with its rows; without
a cap no rows are counted. -/
theorem caps_limited (limit : Nat) :
    (s.limited (some limit)).caps false = [(.first limit, false)] ∧
      (s.limited none).caps false = [] := by
  have hcore (isOrdered : Bool) (items : List SelectItem) :
      (s.unordered items).caps isOrdered = [] := rfl
  have hordered (isOrdered : Bool) (items : List SelectItem) :
      ((s.unordered items).orderedBy s.sort).caps isOrdered = [] := by
    unfold Layers.orderedBy
    split <;> rfl
  simp only [limited]
  constructor
  · split
    · rename_i hcombined hshaped
      obtain ⟨-, hdistinct, hgroup, hcombine⟩ := isGathered_eq hcombined hshaped
      simp [core, Layers.caps, SelectCore.isGathered, hdistinct, hgroup, hcombine]
    · simp [Layers.caps, hordered]
    · split <;> rfl
  · split
    · rfl
    · exact hordered false s.outer

end Selection

end QueryLoom
