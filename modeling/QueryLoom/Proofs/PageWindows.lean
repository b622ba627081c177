import QueryLoom.Proofs.Correspondence
import QueryLoom.Proofs.RecordedTraversals
import QueryLoom.Query.Build
import QueryLoom.Statement.Reading

/-!
# Windows of pages

All pages of a query number the same rows and take a window of them each. The windows of the pages
of one size stand side by side: each has as many row numbers as the size says, the first one begins
at one, and every row number is in one window and in no other.

## Implementation notes

An offset is a product of 64-bit numbers, so only pages count whose last row number is within 64
bits. The page of a row is found by division; the row numbers that are left over at the end of the
64 bits, fewer than a page has, are on none.
-/

namespace QueryLoom

/-! ## What a page writes -/

/-- The query of a page of rows. -/
def Query.onPage (query : Query) (paging : Paging) : Query :=
  { query with output := .rows, paging := some paging }

/-- The clauses that take a window of numbered rows, in the order of the numbers. -/
def windowClause (window : RowRange) : Sql :=
  Sql.text " WHERE " ++ window.sql ++ Sql.text " ORDER BY " ++ Sql.text rowNumberColumn

/-- Two statements take windows of the same numbered rows, under the same bindings and flags. -/
structure Statement.SameNumbering (p q : RowRange) (a b : Statement) : Prop where
  script : ∃ numbered, a.script = numbered ++ windowClause p ∧ b.script = numbered ++ windowClause q
  parameters : a.parameters = b.parameters
  kind : a.kind = b.kind
  mustAffect : a.mustAffect = b.mustAffect
  hasTraversal : a.hasTraversal = b.hasTraversal
  alone : a.alone = b.alone

/-- A window stands behind the rows that it is taken of. -/
theorem Layers.sql_windowed (items : List SelectItem) (inner : Layers) (tableAlias : String)
    (window : RowRange) :
    ((Layers.derived items inner tableAlias (some window)).orderedBy
        [Sql.text rowNumberColumn]).sql =
      (Layers.derived items inner tableAlias none).sql ++ windowClause window := by
  simp [Layers.orderedBy, Layers.sql, windowClause, Sql.separated]

/-- The layers of a page are the same for all pages up to the window. -/
theorem exists_sql_pageLayers (s : Selection) (derived : Bool) (counted ordering : Sql) :
    ∃ numbered : Sql, ∀ paging,
      (Compiler.pageLayers s derived counted ordering paging).sql =
        numbered ++ windowClause (Compiler.Paging.window paging) :=
  ⟨_, fun _ => Layers.sql_windowed _ _ _ _⟩

variable {c : Compiler}

theorem selection_onPage (entity : Entity) (query : Query) (paging : Paging)
    (properties : List String) (fields : List Field) (sorted : Bool) :
    c.selection entity (query.onPage paging) properties fields sorted =
      c.selection entity query properties fields sorted := by
  unfold Compiler.selection
  rw [Query.clauses_eq, Query.clauses_eq]
  rfl

/-- Two pages of a query are compiled alike up to their windows. -/
theorem page_corresponds (entity : Entity) (query : Query) (p q : Paging) :
    Corresponds Eq
      (fun a b => (∃ numbered, a.1 = numbered ++ windowClause (Compiler.Paging.window p) ∧
        b.1 = numbered ++ windowClause (Compiler.Paging.window q)) ∧ a.2 = b.2)
      (c.page entity (query.onPage p) p) (c.page entity (query.onPage q) q) := by
  unfold Compiler.page
  refine (Corresponds.refl (liftM (entity.queryFields query.fields))).bind ?_
  rintro fields _ rfl
  cases entity.defaultField? with
  | none => exact corresponds_throw _
  | some default =>
    dsimp only
    rw [selection_onPage, selection_onPage]
    refine (Corresponds.refl _).bind ?_
    rintro ⟨clauses, s⟩ _ rfl
    obtain ⟨numbered, hnumbered⟩ := exists_sql_pageLayers s
      (s.isCombined || s.distinct || !s.group.isEmpty)
      (c.pageColumns (s.isCombined || s.distinct || !s.group.isEmpty) fields default).1
      (c.pageColumns (s.isCombined || s.distinct || !s.group.isEmpty) fields default).2
    exact corresponds_pure ⟨⟨numbered, hnumbered p, hnumbered q⟩, rfl⟩

theorem pages_sameNumbering {query : Query} (hplain : query.text = none) (p q : Paging) :
    Agree (Statement.SameNumbering (Compiler.Paging.window p) (Compiler.Paging.window q))
      (c.query (query.onPage p)) (c.query (query.onPage q)) := by
  unfold Compiler.query
  rw [show (query.onPage p).text = none from hplain, show (query.onPage q).text = none from hplain]
  refine Agree.bind_same fun entity => ?_
  have hselect (paging : Paging) : c.select entity (query.onPage paging) =
      c.page entity (query.onPage paging) paging := rfl
  rw [hselect, hselect]
  refine ((page_corresponds entity query p q).runFrom rfl).bind ?_
  rintro ⟨⟨script, traverses⟩, scope⟩ ⟨⟨script', _⟩, _⟩ ⟨⟨hscript, rfl⟩, rfl⟩
  exact .ok ⟨hscript, rfl, rfl, rfl, rfl, rfl⟩

/-! ## Windows -/

/-- Whether a row number is in a range; both ends belong to it. -/
def RowRange.Has : RowRange → Nat → Prop
  | .first count, row => row ≤ count
  | .between low high, row => low ≤ row ∧ row ≤ high

/-- The window of the page of a number, counted from one, and a size. -/
def pageWindow (number size : UInt64) : RowRange :=
  Compiler.Paging.window (Paging.page number size)

/-- Pages are counted from one, and the last row number of a page is within 64 bits. -/
structure PageFits (number size : UInt64) : Prop where
  pos : 1 ≤ number.toNat
  bounded : number.toNat * size.toNat < UInt64.size

/-- The last row number that is on a page of a size. -/
def lastPagedRow (size : UInt64) : Nat := (UInt64.size - 1) / size.toNat * size.toNat

section Windows

variable {number size : UInt64}

theorem PageFits.offset_page (h : PageFits number size) :
    (Paging.page number size).offset.toNat = (number.toNat - 1) * size.toNat := by
  have hle : (number.toNat - 1) * size.toNat ≤ number.toNat * size.toNat :=
    Nat.mul_le_mul_right _ (Nat.sub_le _ _)
  have hne : (number == 0) = false := by
    rw [beq_eq_false_iff_ne]
    rintro rfl
    exact absurd h.pos (by decide)
  rw [Paging.page, hne, if_neg Bool.false_ne_true]
  dsimp only
  have hone : 1 ≤ number := UInt64.le_iff_toNat_le.mpr h.pos
  rw [UInt64.toNat_mul, UInt64.toNat_sub_of_le _ _ hone]
  exact Nat.mod_eq_of_lt (Nat.lt_of_le_of_lt hle h.bounded)

/-- A page has the row numbers behind those of the pages before it, as many as its size. -/
theorem PageFits.window_eq (h : PageFits number size) (hsize : 1 ≤ size) :
    pageWindow number size =
      .between ((number.toNat - 1) * size.toNat + 1) (number.toNat * size.toNat) := by
  have hmax : max size.toNat 1 = size.toNat := Nat.max_eq_left (UInt64.le_iff_toNat_le.mp hsize)
  have hend : (number.toNat - 1) * size.toNat + size.toNat = number.toNat * size.toNat := by
    rw [← Nat.succ_mul, Nat.succ_eq_add_one, Nat.sub_add_cancel h.pos]
  rw [pageWindow, Compiler.Paging.window, h.offset_page, Paging.page, hmax, hend]

/-- The page of a row is found by division. -/
theorem PageFits.has_iff (h : PageFits number size) (hsize : 1 ≤ size) {row : Nat} :
    (pageWindow number size).Has row ↔ 1 ≤ row ∧ number.toNat = (row - 1) / size.toNat + 1 := by
  have hpos : 0 < size.toNat := UInt64.le_iff_toNat_le.mp hsize
  have hnumber := h.pos
  have hend : (number.toNat - 1 + 1) * size.toNat = number.toNat * size.toNat := by
    rw [Nat.sub_add_cancel h.pos]
  rw [h.window_eq hsize, RowRange.Has]
  constructor
  · rintro ⟨hlow, hhigh⟩
    have hdiv : (row - 1) / size.toNat = number.toNat - 1 :=
      Nat.div_eq_of_lt_le (by omega) (by omega)
    omega
  · rintro ⟨hrow, heq⟩
    have hdiv : (row - 1) / size.toNat = number.toNat - 1 := by omega
    have hlow := Nat.div_mul_le_self (row - 1) size.toNat
    have hhigh := Nat.lt_div_mul_add hpos (a := row - 1)
    rw [hdiv] at hlow hhigh
    rw [Nat.add_mul, Nat.one_mul] at hend
    omega

/-- The rows on pages are those up to the last page within 64 bits. -/
theorem existsUnique_page (hsize : 1 ≤ size) (row : Nat) :
    (∃! number, PageFits number size ∧ (pageWindow number size).Has row) ↔
      1 ≤ row ∧ row ≤ lastPagedRow size := by
  have hpos : 0 < size.toNat := UInt64.le_iff_toNat_le.mp hsize
  constructor
  · rintro ⟨number, ⟨hfits, hhas⟩, -⟩
    rw [hfits.window_eq hsize] at hhas
    refine ⟨Nat.le_trans (Nat.le_add_left _ _) hhas.1, Nat.le_trans hhas.2 ?_⟩
    have hbounded := hfits.bounded
    exact Nat.mul_le_mul_right _ ((Nat.le_div_iff_mul_le hpos).mpr (by omega))
  · rintro ⟨hrow, hlast⟩
    have hbefore : row - 1 < lastPagedRow size := by omega
    have hcount : (row - 1) / size.toNat < (UInt64.size - 1) / size.toNat :=
      (Nat.div_lt_iff_lt_mul hpos).mpr hbefore
    have hend : ((row - 1) / size.toNat + 1) * size.toNat ≤ UInt64.size - 1 :=
      (Nat.le_div_iff_mul_le hpos).mp hcount
    have hnumber : (row - 1) / size.toNat + 1 < UInt64.size :=
      Nat.lt_of_le_of_lt (Nat.le_mul_of_pos_right _ hpos) (Nat.lt_of_le_pred (by decide) hend)
    obtain ⟨number, hpage⟩ : ∃ number : UInt64, number.toNat = (row - 1) / size.toNat + 1 :=
      ⟨.ofNat _, UInt64.toNat_ofNat_of_lt' hnumber⟩
    have hfits : PageFits number size := by
      constructor <;> rw [hpage]
      · exact Nat.le_add_left 1 _
      · exact Nat.lt_of_le_pred (by decide) hend
    refine ⟨number, ⟨hfits, (hfits.has_iff hsize).mpr ⟨hrow, hpage⟩⟩, ?_⟩
    rintro other ⟨hother, hhas⟩
    have hsame := ((hother.has_iff hsize).mp hhas).2
    exact UInt64.toNat_inj.mp (hsame.trans hpage.symm)

end Windows

/-- All pages of a query that is not a text fail alike, or take their windows of the same numbered
rows. For a size of at least one, the window of every page that fits into 64 bits has as many row
numbers as the size says; the window of the first page begins at one, and that of the next page
right behind the one before it. So exactly one page has a row, for all rows up to the last page. -/
theorem pages_tile (c : Compiler) {query : Query} (hplain : query.text = none) {size : UInt64}
    (hsize : 1 ≤ size) :
    (∀ p q, Agree (Statement.SameNumbering (Compiler.Paging.window p) (Compiler.Paging.window q))
      (c.query (query.onPage p)) (c.query (query.onPage q))) ∧
    (∀ number, PageFits number size → ∃ low high,
      pageWindow number size = .between low high ∧ high + 1 = low + size.toNat) ∧
    (∃ high, pageWindow 1 size = .between 1 high) ∧
    (∀ number, 1 ≤ number → PageFits (number + 1) size → ∃ low middle high,
      pageWindow number size = .between low middle ∧
        pageWindow (number + 1) size = .between (middle + 1) high) ∧
    ∀ row, (∃! number, PageFits number size ∧ (pageWindow number size).Has row) ↔
      1 ≤ row ∧ row ≤ lastPagedRow size := by
  refine ⟨pages_sameNumbering hplain, ?_, ?_, ?_, existsUnique_page hsize⟩
  · intro number hfits
    refine ⟨_, _, hfits.window_eq hsize, ?_⟩
    rw [Nat.add_right_comm, ← Nat.succ_mul, Nat.succ_eq_add_one, Nat.sub_add_cancel hfits.pos]
  · have hfirst : PageFits 1 size := ⟨by decide, by simpa using size.toNat_lt_size⟩
    exact ⟨1 * size.toNat, (hfirst.window_eq hsize).trans (by simp)⟩
  · intro number hnumber hnext
    -- a number that wraps around is zero, which is the number of no page
    have hsucc : (number + 1).toNat = number.toNat + 1 := by
      have hpos := hnext.pos
      have hlt := number.toNat_lt
      rw [UInt64.toNat_add, UInt64.toNat_one] at hpos ⊢
      omega
    have hfits : PageFits number size :=
      ⟨UInt64.le_iff_toNat_le.mp hnumber, Nat.lt_of_le_of_lt
        (Nat.mul_le_mul_right _ (by omega)) hnext.bounded⟩
    have hwindow := hnext.window_eq hsize
    rw [hsucc, Nat.add_sub_cancel] at hwindow
    exact ⟨_, _, _, hfits.window_eq hsize, hwindow⟩

/-- The nodes below a root by their names, ten on a page: the third page has the rows behind those
of the second one, and row 25 is on it alone. -/
theorem nodePages_tile :
    let query : Query :=
      { nodesBelow [⟨.and, .criterion ⟨"ParentId", .equal, .int 7, none⟩⟩] [] [] with
        sorts := [⟨"Name", .descending, none⟩] }
    query.text = none ∧ (1 : UInt64) ≤ 10 ∧
      (∃ second third, treeCompiler.query (query.onPage (.page 2 10)) = .ok second ∧
        treeCompiler.query (query.onPage (.page 3 10)) = .ok third ∧
        Statement.SameNumbering (.between 11 20) (.between 21 30) second third) ∧
      (∃! number, PageFits number 10 ∧ (pageWindow number 10).Has 25) ∧
      (pageWindow 3 10).Has 25 := by
  intro query
  have hsize : (1 : UInt64) ≤ 10 := by decide
  obtain ⟨hpages, -, -, -, hrows⟩ := pages_tile treeCompiler (rfl : query.text = none) hsize
  have hagree := hpages (.page 2 10) (.page 3 10)
  obtain ⟨third, hthird⟩ := exists_ok_of_isSome
    (x := treeCompiler.query (query.onPage (.page 3 10))) (by rfl)
  rw [hthird] at hagree
  obtain ⟨second, hsecond, hsame⟩ := hagree.exists_ok_left
  exact ⟨rfl, hsize, ⟨second, third, hsecond, hthird, hsame⟩, (hrows 25).mpr (by decide),
    by decide, by decide⟩

end QueryLoom
