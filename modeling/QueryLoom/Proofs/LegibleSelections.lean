import QueryLoom.Clauses.OfQuery
import QueryLoom.Proofs.CombinedProjections
import QueryLoom.Proofs.LegibleText
import QueryLoom.Proofs.Placeholders
import QueryLoom.Proofs.UpperCasing

/-!
# Legible selections

Conditions, joins, set operations and SELECTs are legible if their pieces are, in whatever layers a
selection is written. The identifiers and the projected fields of a schema are legible if the schema
holds no colon and its properties are names.
-/

namespace QueryLoom

/-! ## Schemas -/

/-- A field whose property is a name, and whose column and output form have no colon. -/
structure Field.Legible (field : Field) : Prop where
  property : IsName field.property
  column : Colonless field.column
  outputForm : ∀ form ∈ field.outputForm, Colonless form

/-- An entity whose table has no colon and whose fields are legible. -/
structure Entity.Legible (entity : Entity) : Prop where
  table : Colonless entity.table
  fields : ∀ field ∈ entity.fields, field.Legible

/-- A schema whose entities are legible. -/
def Schema.Legible (schema : Schema) : Prop := ∀ entity ∈ schema.entities, entity.Legible

theorem Schema.Legible.entity {schema : Schema} (h : schema.Legible) {name : String}
    {entity : Entity} (hentity : schema.entity name = .ok entity) : entity.Legible := by
  unfold Schema.entity at hentity
  split at hentity
  · rename_i found hfind
    cases hentity
    exact h _ (List.mem_of_find?_eq_some hfind)
  · cases hentity

theorem Entity.Legible.field {entity : Entity} (h : entity.Legible) {property : String}
    {field : Field} (hfield : entity.field property = .ok field) : field.Legible :=
  h.fields field (Entity.field_eq_ok hfield).2

/-- The properties that can be looked up are names. -/
theorem Entity.Legible.property {entity : Entity} (h : entity.Legible) {property : String}
    {field : Field} (hfield : entity.field property = .ok field) :
    IsName property := by
  have := (h.field hfield).property
  rwa [(Entity.field_eq_ok hfield).1] at this

/-! ## Identifiers and projected fields -/

theorem colonless_upperCase {text : String} (h : Colonless text) :
    Colonless (Text.upperCase text) := by
  unfold Colonless at h ⊢
  rwa [Text.mem_upperCase_iff (by decide)]

theorem colonless_quotedLabel {label : String} (h : Colonless label) :
    Colonless (SelectItem.quotedLabel label) :=
  colonless_append.mpr ⟨colonless_append.mpr ⟨by decide, h⟩, by decide⟩

namespace Conventions

variable (conventions : Conventions) {tableAlias : String} {field : Field}

theorem colonless_identifier {name : String} (h : Colonless name) :
    Colonless (conventions.identifier name) := by
  have hfolded : Colonless (if conventions.upperCase then Text.upperCase name else name) := by
    split
    · exact colonless_upperCase h
    · exact h
  unfold identifier
  extract_lets folded
  split
  · exact colonless_quotedLabel hfolded
  · exact hfolded

theorem column_plain (halias : Colonless tableAlias) (hfield : field.Legible) :
    (conventions.column tableAlias field).Plain :=
  Sql.plain_column halias (conventions.colonless_identifier hfield.column)

/-- An output form without colons is plain where its column is. -/
theorem filled_plain {form : String} {column : Sql} (hform : Colonless form)
    (hcolumn : column.Plain) : (filled form column).Plain := by
  have hread {read : List Char} (h : ':' ∉ read) :
      (Sql.text (String.ofList read.reverse)).Plain := by
    apply Sql.plain_text
    simpa [Colonless] using h
  have hgo (chars read : List Char) (hchars : ':' ∉ chars) (h : ':' ∉ read) :
      (filled.go column chars read).Plain := by
    fun_induction filled.go column chars read with
    | case1 rest read ih =>
      simp only [List.mem_cons, not_or] at hchars
      exact ((hread h).append hcolumn).append (ih hchars.2.2.2 (by simp))
    | case2 c rest read _ ih =>
      simp only [List.mem_cons, not_or] at hchars
      exact ih hchars.2 (by simp [hchars.1, h])
    | case3 read => exact hread h
  exact hgo form.toList [] hform (by simp)

theorem item_legible (halias : Colonless tableAlias) (hfield : field.Legible) (labelled : Bool) :
    (conventions.item tableAlias labelled field).sql.Legible := by
  have hcolumn := conventions.column_plain halias hfield
  have hlabel : Separator (" AS " ++ SelectItem.quotedLabel field.property) := by
    have := separator_blank (colonless_append.mpr ⟨(by decide : Colonless "AS "),
      colonless_quotedLabel hfield.property.colonless⟩)
    rwa [← String.append_assoc] at this
  unfold item SelectItem.sql
  cases hform : field.outputForm with
  | some form =>
    have hfilled := filled_plain (hfield.outputForm form hform) hcolumn
    exact hfilled.legible.append_text hlabel
  | none =>
    cases labelled && field.column != field.property with
    | true => exact hcolumn.legible.append_text hlabel
    | false => exact hcolumn.legible

end Conventions

/-- The items of a projection are legible. -/
def LegibleItems (items : List SelectItem) : Prop := ∀ item ∈ items, item.sql.Legible

theorem legibleItems_map (conventions : Conventions) {tableAlias : String} {fields : List Field}
    (halias : Colonless tableAlias) (hfields : ∀ field ∈ fields, field.Legible)
    (labelled : Bool) : LegibleItems (fields.map (conventions.item tableAlias labelled)) := by
  intro item hitem
  obtain ⟨field, hfield, rfl⟩ := List.mem_map.mp hitem
  exact conventions.item_legible halias (hfields field hfield) labelled

theorem LegibleItems.list {items : List SelectItem} (h : LegibleItems items) :
    (SelectItem.list items).Legible := by
  refine Sql.Legible.separated (by decide) fun piece hpiece => ?_
  obtain ⟨item, hitem, rfl⟩ := List.mem_map.mp hpiece
  exact h item hitem

/-! ## Search conditions -/

namespace SearchText

variable {a b : SearchText}

theorem legible_leaf {sql : Sql} (h : sql.Legible) : (leaf sql).sql.Legible := by
  rwa [sql_leaf]

theorem legible_parens (h : a.sql.Legible) : a.parens.sql.Legible := by
  have hsql : a.parens.sql = a.sql.parens := by
    simp [parens, Sql.parens, SearchPart.sql, SearchText.sql]
  rw [hsql]
  exact h.parens

theorem legible_connect (op : LogicalOp) (ha : a.sql.Legible) (hb : b.sql.Legible) :
    (connect op a b).sql.Legible := by
  have hsql : (connect op a b).sql = a.sql ++ Sql.text (" " ++ op.keyword ++ " ") ++ b.sql := by
    simp [connect, SearchPart.sql, SearchText.sql]
  rw [hsql]
  exact ha.join (by cases op <;> decide) hb

end SearchText

namespace Predicate

variable {p q : Predicate}

theorem legible_operand (h : p.text.sql.Legible) : p.operand.sql.Legible := by
  unfold operand
  split
  · exact SearchText.legible_parens h
  · exact h

theorem legible_grouped (h : p.text.sql.Legible) : p.grouped.text.sql.Legible := by
  unfold grouped
  split
  · exact h
  · exact SearchText.legible_parens h

theorem legible_and (hp : p.text.sql.Legible) (hq : q.text.sql.Legible) :
    (p.and q).text.sql.Legible := by
  unfold Predicate.and
  split
  · exact hp
  · split
    · exact hq
    · exact SearchText.legible_connect .and (legible_operand hp) (legible_operand hq)

theorem legible_extend (op : LogicalOp) (hp : p.text.sql.Legible) (hq : q.text.sql.Legible) :
    (p.extend op q).text.sql.Legible := by
  unfold extend
  split
  · exact hp
  · split
    · exact hq
    · exact SearchText.legible_connect op hp hq

theorem legible_constant (holds : Bool) : (constant holds).text.sql.Legible :=
  SearchText.legible_leaf (Sql.legible_text (by cases holds <;> decide))

end Predicate

/-! ## Joins and set operations -/

/-- The text behind a table: a blank and its alias, or both names behind FROM. -/
theorem separator_from {table tableAlias : String} (htable : Colonless table)
    (halias : Colonless tableAlias) : Separator (" FROM " ++ table ++ " " ++ tableAlias) := by
  refine ⟨?_, ?_⟩
  · rw [String.append_assoc, String.append_assoc, String.toList_append]
    rfl
  · simpa using ⟨⟨⟨by decide, htable⟩, by decide⟩, halias⟩

theorem JoinedTable.legible_sql {kind : JoinKind} {source : JoinSource} {tableAlias : String}
    {on : List SearchText} (hsource : (JoinedTable.sourceSql source).Legible)
    (halias : Colonless tableAlias) (hon : ∀ text ∈ on, text.sql.Legible) :
    (JoinedTable.sql ⟨kind, source, tableAlias, on⟩).Legible := by
  have hkeyword : (Sql.text (kind.keyword ++ " ")).Plain :=
    Sql.plain_text (by cases kind <;> decide)
  have hon' : (Sql.separated " AND " (on.map SearchText.sql)).Legible :=
    .separated (by decide) (List.forall_mem_map.mpr hon)
  exact ((hkeyword.append_legible hsource).append_text (separator_blank halias)).append_clause
    (by decide) hon'

theorem JoinedTable.legible_list {joins : List JoinedTable}
    (h : ∀ joined ∈ joins, joined.sql.Legible) : (JoinedTable.list joins).Legible :=
  .separated (by decide) (List.forall_mem_map.mpr h)

theorem CombinedSelect.legible_list {selects : List CombinedSelect}
    (h : ∀ select ∈ selects, select.sql.Legible) : (CombinedSelect.list selects).Legible :=
  .separated (by decide) (List.forall_mem_map.mpr h)

theorem legible_plainSelect {items : List SelectItem} {table tableAlias : String}
    {join : List JoinedTable} {condition : SearchText} (hitems : LegibleItems items)
    (htable : Colonless table) (halias : Colonless tableAlias)
    (hjoin : ∀ joined ∈ join, joined.sql.Legible) (hcondition : condition.sql.Legible) :
    (plainSelect items table tableAlias join condition).Legible := by
  have hselect : (Sql.text "SELECT ").Plain := Sql.plain_text (by decide)
  exact (((hselect.append_legible hitems.list).append_text
    (separator_from htable halias)).append_clause (by decide)
      (JoinedTable.legible_list hjoin)).append_clause (by decide) hcondition

/-! ## Layers -/

theorem RowRange.colonless (range : RowRange) :
    ∃ text, Colonless text ∧ range.sql = Sql.text text := by
  cases range with
  | first count =>
    exact ⟨_, colonless_append.mpr ⟨by decide, colonless_toString count⟩, rfl⟩
  | between low high =>
    refine ⟨_, ?_, rfl⟩
    simpa using ⟨⟨⟨⟨by decide, by decide⟩, colonless_toString low⟩, by decide⟩,
      colonless_toString high⟩

theorem RowRange.legible (range : RowRange) : range.sql.Legible := by
  obtain ⟨text, htext, hsql⟩ := range.colonless
  rw [hsql]
  exact Sql.legible_text htext

/-- A selection whose pieces are legible. -/
structure Selection.Legible (s : Selection) : Prop where
  inner : LegibleItems s.inner
  outer : LegibleItems s.outer
  table : Colonless s.table
  tableAlias : Colonless s.tableAlias
  join : s.join.Legible
  condition : s.condition.sql.Legible
  group : s.group.Legible
  group_breaks : s.group.Breaks
  combine : s.combine.Legible
  sort : ∀ item ∈ s.sort, item.Legible

namespace Layers

theorem legible_ordered {inner : Layers} {sort : List Sql} (hinner : inner.sql.Legible)
    (hsort : ∀ item ∈ sort, item.Legible) : (Layers.ordered inner sort).sql.Legible :=
  hinner.join (by decide) (.separated (by decide) hsort)

theorem legible_orderedBy {inner : Layers} {sort : List Sql} (hinner : inner.sql.Legible)
    (hsort : ∀ item ∈ sort, item.Legible) : (inner.orderedBy sort).sql.Legible := by
  unfold orderedBy
  split
  · exact hinner
  · exact legible_ordered hinner hsort

theorem legible_derived {items : List SelectItem} {inner : Layers} {tableAlias : String}
    (hitems : LegibleItems items) (hinner : inner.sql.Legible) (halias : Colonless tableAlias)
    (rows : Option RowRange) : (Layers.derived items inner tableAlias rows).sql.Legible := by
  have hselect : (Sql.text "SELECT ").Plain := Sql.plain_text (by decide)
  have hfrom := ((hselect.append_legible hitems.list).join (s := " FROM ") (by decide)
    hinner.parens).append_text (separator_blank halias)
  cases rows with
  | none =>
    rw [Layers.sql, List.append_nil]
    exact hfrom
  | some range =>
    rw [Layers.sql, ← List.append_assoc]
    exact hfrom.join (by decide) range.legible

end Layers

namespace SelectCore

variable {core : SelectCore}

theorem legible_search (h : core.condition.sql.Legible) : core.search.sql.Legible := by
  unfold search
  cases core.cap with
  | none => exact h
  | some count =>
    have hcap := SearchText.legible_leaf (RowRange.first count).legible
    dsimp only
    split
    · exact hcap
    · split
      · exact SearchText.legible_connect .and (SearchText.legible_parens h) hcap
      · exact SearchText.legible_connect .and h hcap

end SelectCore

namespace Selection

variable {s : Selection} {items : List SelectItem}

theorem Legible.core (h : s.Legible) (hitems : LegibleItems items) (cap : Option Nat) :
    (s.core items cap).sql.Legible := by
  have hselect : (Sql.text (if s.distinct then "SELECT DISTINCT " else "SELECT ")).Plain := by
    apply Sql.plain_text
    split <;> decide
  have hblank : Separator " " := by decide
  have hjoined := ((hselect.append_legible hitems.list).append_text
    (separator_from h.table h.tableAlias)).append_clause hblank h.join
  refine Sql.Legible.append_clause ?_ hblank h.combine
  refine Sql.Legible.append ?_ h.group h.group_breaks
  exact hjoined.append_clause (by decide) (SelectCore.legible_search h.condition)

theorem Legible.unordered (h : s.Legible) (hitems : LegibleItems items) :
    (s.unordered items).sql.Legible :=
  h.core hitems none

/-- A selection is legible in whatever layers it is written. -/
theorem Legible.limited (h : s.Legible) (cap : Option Nat) : (s.limited cap).sql.Legible := by
  have hinner := h.unordered h.inner
  unfold Selection.limited
  cases cap with
  | none =>
    dsimp only
    split
    · exact Layers.legible_ordered (Layers.legible_derived h.outer hinner h.tableAlias none) h.sort
    · exact Layers.legible_orderedBy (h.unordered h.outer) h.sort
  | some limit =>
    dsimp only
    split
    · exact h.core h.outer _
    · exact Layers.legible_derived h.outer (Layers.legible_orderedBy hinner h.sort) h.tableAlias _
    · split
      · exact Layers.legible_derived h.outer hinner h.tableAlias _
      · have hderived := Layers.legible_derived h.inner hinner h.tableAlias none
        exact Layers.legible_derived h.outer (Layers.legible_ordered hderived h.sort) h.tableAlias _

end Selection

end QueryLoom
