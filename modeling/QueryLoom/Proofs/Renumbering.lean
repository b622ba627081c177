import QueryLoom.Proofs.Compilation
import QueryLoom.Proofs.Placeholders
import QueryLoom.Statement.Writing

/-!
# Renumbered SQL

SQL text with all its placeholders numbered some numbers further on. Whatever is put together from
pieces can be renumbered piece by piece, as no piece is chosen by the number of a placeholder.

## Implementation notes

Each kind of clause has a `shift` of its own, which reaches the placeholders in it. What a clause is
tested for (whether it is empty, whether an OR is outermost, whether it holds traversals) is the
same before and after.
-/

namespace QueryLoom

/-- A token with its placeholder, if it is one, numbered further on. -/
def Token.shift (k : Nat) : Token → Token
  | .placeholder name number => .placeholder name (number + k)
  | token => token

namespace Sql

/-- SQL text with its placeholders numbered further on. -/
def shift (k : Nat) (sql : Sql) : Sql := sql.map (Token.shift k)

variable (k : Nat)

@[simp] theorem shift_nil : shift k [] = [] := rfl

@[simp] theorem shift_append (a b : Sql) : shift k (a ++ b) = shift k a ++ shift k b :=
  List.map_append

@[simp] theorem shift_text (s : String) : shift k (text s) = text s := by
  unfold text
  split <;> rfl

@[simp] theorem shift_placeholder (name : String) (number : Nat) :
    shift k (placeholder name number) = placeholder name (number + k) := rfl

@[simp] theorem isEmpty_shift (sql : Sql) : (shift k sql).isEmpty = sql.isEmpty := by
  cases sql <;> rfl

@[simp] theorem shift_parens (sql : Sql) : shift k sql.parens = (shift k sql).parens := by
  simp [parens]

@[simp] theorem shift_clause (lead : String) (sql : Sql) :
    shift k (clause lead sql) = clause lead (shift k sql) := by
  unfold clause
  rw [isEmpty_shift]
  split
  · rfl
  · simp

@[simp] theorem shift_separated (separator : String) (pieces : List Sql) :
    shift k (separated separator pieces) = separated separator (pieces.map (shift k)) := by
  induction pieces with
  | nil => rfl
  | cons first rest ih =>
    cases rest with
    | nil => rfl
    | cons second rest =>
      rw [separated, shift_append, shift_append, shift_text, ih]
      · rfl
      · exact List.cons_ne_nil _ _

/-- SQL text without placeholders has nothing to number. -/
theorem shift_of_bag_eq_zero {sql : Sql} (h : sql.bag = 0) : shift k sql = sql := by
  have hnone : ∀ token ∈ sql, Token.shift k token = token := by
    intro token htoken
    cases token with
    | placeholder name number =>
      have hmem : (name, number) ∈ sql.bag :=
        mem_bag.mpr (List.mem_filterMap.mpr ⟨_, htoken, rfl⟩)
      rw [h] at hmem
      exact absurd hmem (Multiset.notMem_zero _)
    | verbatim text => rfl
    | column tableAlias name => rfl
  rw [shift, List.map_congr_left hnone, List.map_id']

end Sql

namespace SelectItem

/-- An item with its placeholders numbered further on. -/
def shift (k : Nat) (item : SelectItem) : SelectItem := ⟨item.expression.shift k, item.label⟩

theorem shift_sql (k : Nat) (item : SelectItem) : item.sql.shift k = (item.shift k).sql := by
  obtain ⟨expression, label⟩ := item
  cases label with
  | none => rfl
  | some label => simp [sql, shift]

@[simp] theorem shift_list (k : Nat) (items : List SelectItem) :
    (list items).shift k = list (items.map (shift k)) := by
  simp [list, Function.comp_def, shift_sql]

end SelectItem

namespace Conventions

variable (conventions : Conventions) (k : Nat)

@[simp] theorem shift_column (tableAlias : String) (field : Field) :
    (conventions.column tableAlias field).shift k = conventions.column tableAlias field := rfl

@[simp] theorem shift_item (tableAlias : String) (labelled : Bool) (field : Field) :
    (conventions.item tableAlias labelled field).shift k =
      conventions.item tableAlias labelled field := by
  unfold item SelectItem.shift
  cases field.outputForm with
  | none => rfl
  | some form =>
    simp only [Sql.shift_of_bag_eq_zero k
      (bag_filled form (bag_column conventions tableAlias field))]

@[simp] theorem shift_comp_item (tableAlias : String) (labelled : Bool) :
    SelectItem.shift k ∘ conventions.item tableAlias labelled =
      conventions.item tableAlias labelled :=
  funext fun field => shift_item conventions k tableAlias labelled field

theorem shift_items (tableAlias : String) (labelled : Bool) (fields : List Field) :
    (fields.map (conventions.item tableAlias labelled)).map (SelectItem.shift k) =
      fields.map (conventions.item tableAlias labelled) := by
  rw [List.map_map, shift_comp_item]

end Conventions

/-! ## Search conditions -/

/-- A part of a search condition with its placeholders numbered further on. -/
def SearchPart.shift (k : Nat) : SearchPart → SearchPart
  | .leaf sql => .leaf (sql.shift k)
  | part => part

@[simp] theorem SearchPart.shift_sql (k : Nat) (part : SearchPart) :
    part.sql.shift k = (part.shift k).sql := by
  cases part <;> simp [SearchPart.sql, SearchPart.shift]

namespace SearchText

/-- A search condition with its placeholders numbered further on. -/
def shift (k : Nat) (text : SearchText) : SearchText := text.map (SearchPart.shift k)

variable (k : Nat)

@[simp] theorem isEmpty_shift (text : SearchText) : (text.shift k).isEmpty = text.isEmpty := by
  cases text <;> rfl

@[simp] theorem shift_sql (text : SearchText) : text.sql.shift k = (text.shift k).sql := by
  induction text with
  | nil => rfl
  | cons part rest ih =>
    rw [sql_cons, Sql.shift_append, ih, SearchPart.shift_sql]
    rfl

@[simp] theorem shift_leaf (sql : Sql) : (leaf sql).shift k = leaf (sql.shift k) := by
  unfold leaf
  rw [Sql.isEmpty_shift]
  split <;> rfl

@[simp] theorem shift_parens (text : SearchText) : text.parens.shift k = (text.shift k).parens := by
  simp [parens, shift, SearchPart.shift]

@[simp] theorem shift_connect (op : LogicalOp) (left right : SearchText) :
    (connect op left right).shift k = connect op (left.shift k) (right.shift k) := by
  simp [connect, shift, SearchPart.shift]

end SearchText

/-- Traversals with their placeholders numbered further on. -/
def Trace.shift (k : Nat) (trace : Trace) : Trace :=
  { trace with scripts := trace.scripts.map (Sql.shift k) }

@[simp] theorem Trace.shift_mk (k : Nat) (scripts : List Sql) (site : TraversalSite) :
    (⟨scripts, site⟩ : Trace).shift k = ⟨scripts.map (Sql.shift k), site⟩ := rfl

@[simp] theorem Trace.shift_empty (k : Nat) : ({} : Trace).shift k = {} := rfl

@[simp] theorem Trace.shift_append (k : Nat) (a b : Trace) :
    (a ++ b).shift k = a.shift k ++ b.shift k := by
  show (Trace.append a b).shift k = Trace.append (a.shift k) (b.shift k)
  simp [Trace.append, Trace.shift]

namespace Predicate

/-- A predicate with its placeholders numbered further on. -/
def shift (k : Nat) (p : Predicate) : Predicate := ⟨p.text.shift k, p.hasOr, p.trace.shift k⟩

variable (k : Nat)

@[simp] theorem shift_empty : ({} : Predicate).shift k = {} := rfl

@[simp] theorem isEmpty_shift (p : Predicate) : (p.shift k).isEmpty = p.isEmpty :=
  SearchText.isEmpty_shift k p.text

@[simp] theorem shift_leaf (sql : Sql) : (leaf sql).shift k = leaf (sql.shift k) := by
  simp [leaf, shift]

@[simp] theorem shift_constant (holds : Bool) : (constant holds).shift k = constant holds := by
  simp [constant]

@[simp] theorem shift_operand (p : Predicate) : p.operand.shift k = (p.shift k).operand := by
  unfold operand
  cases hor : p.hasOr <;> simp [shift, hor]

@[simp] theorem shift_and (p q : Predicate) : (p.and q).shift k = (p.shift k).and (q.shift k) := by
  unfold and
  rw [isEmpty_shift, isEmpty_shift]
  split
  · rfl
  · split
    · simp [shift]
    · rw [← shift_operand, ← shift_operand]
      simp [shift]

@[simp] theorem shift_extend (p : Predicate) (op : LogicalOp) (q : Predicate) :
    (p.extend op q).shift k = (p.shift k).extend op (q.shift k) := by
  unfold extend
  rw [isEmpty_shift, isEmpty_shift]
  split
  · rfl
  · split <;> simp [shift]

@[simp] theorem shift_grouped (p : Predicate) : p.grouped.shift k = (p.shift k).grouped := by
  unfold grouped
  rw [isEmpty_shift]
  split
  · rfl
  · simp [shift]

end Predicate

@[simp] theorem shift_comparison (k : Nat) (column : Sql) (operator : Operator) (right : Sql) :
    (comparison column operator right).shift k =
      comparison (column.shift k) operator (right.shift k) := by
  simp [comparison]

/-! ## Clauses -/

namespace JoinedTable

/-- What is joined with its placeholders numbered further on. -/
def shiftSource (k : Nat) : JoinSource → JoinSource
  | .table name => .table name
  | .derived items select => .derived items (select.shift k)

/-- A joined table with its placeholders numbered further on. -/
def shift (k : Nat) (joined : JoinedTable) : JoinedTable :=
  { joined with
    source := shiftSource k joined.source
    on := joined.on.map (SearchText.shift k) }

variable (k : Nat)

theorem shift_sourceSql (source : JoinSource) :
    (sourceSql source).shift k = sourceSql (shiftSource k source) := by
  cases source <;> simp [sourceSql, shiftSource]

theorem shift_sql (joined : JoinedTable) : joined.sql.shift k = (joined.shift k).sql := by
  simp [sql, shift, shift_sourceSql, Function.comp_def]

@[simp] theorem shift_list (joined : List JoinedTable) :
    (list joined).shift k = list (joined.map (shift k)) := by
  simp [list, Function.comp_def, shift_sql]

end JoinedTable

@[simp] theorem shift_plainSelect (k : Nat) (items : List SelectItem) (table tableAlias : String)
    (join : List JoinedTable) (condition : SearchText) :
    (plainSelect items table tableAlias join condition).shift k =
      plainSelect (items.map (SelectItem.shift k)) table tableAlias
        (join.map (JoinedTable.shift k)) (condition.shift k) := by
  simp [plainSelect]

namespace CombinedSelect

/-- A SELECT behind a set operator with its placeholders numbered further on. -/
def shift (k : Nat) (s : CombinedSelect) : CombinedSelect :=
  { s with
    items := s.items.map (SelectItem.shift k)
    join := s.join.map (JoinedTable.shift k)
    condition := s.condition.shift k }

theorem shift_sql (k : Nat) (s : CombinedSelect) : s.sql.shift k = (s.shift k).sql := by
  simp [sql, shift]

@[simp] theorem shift_list (k : Nat) (combined : List CombinedSelect) :
    (list combined).shift k = list (combined.map (shift k)) := by
  simp [list, Function.comp_def, shift_sql]

end CombinedSelect

namespace Clauses

/-- Clauses with their placeholders numbered further on. -/
def shift (k : Nat) (clauses : Clauses) : Clauses where
  condition := clauses.condition.shift k
  hasOr := clauses.hasOr
  sort := clauses.sort.map (Sql.shift k)
  join := clauses.join.map (JoinedTable.shift k)
  combine := clauses.combine.map (CombinedSelect.shift k)
  allowJoin := clauses.allowJoin
  trace := clauses.trace.shift k

variable (k : Nat)

@[simp] theorem shift_usableJoin (clauses : Clauses) :
    clauses.usableJoin.map (JoinedTable.shift k) = (clauses.shift k).usableJoin := by
  unfold usableJoin
  cases hallow : clauses.allowJoin <;> simp [shift, hallow]

@[simp] theorem hasTraversal_shift (clauses : Clauses) :
    (clauses.shift k).hasTraversal = clauses.hasTraversal := by
  simp [hasTraversal, shift, Trace.shift]

@[simp] theorem hasJoin_shift (clauses : Clauses) :
    (clauses.shift k).hasJoin = clauses.hasJoin := by
  unfold hasJoin
  rw [← shift_usableJoin, List.isEmpty_map]

@[simp] theorem shift_predicate (clauses : Clauses) :
    clauses.predicate.shift k = (clauses.shift k).predicate := rfl

end Clauses

/-! ## Layers -/

@[simp] theorem RowRange.shift_sql (k : Nat) (range : RowRange) :
    range.sql.shift k = range.sql := by
  cases range <;> simp [RowRange.sql]

namespace SelectCore

/-- The innermost SELECT with its placeholders numbered further on. -/
def shift (k : Nat) (core : SelectCore) : SelectCore :=
  { core with
    items := core.items.map (SelectItem.shift k)
    join := core.join.shift k
    condition := core.condition.shift k
    group := core.group.shift k
    combine := core.combine.shift k }

theorem shift_search (k : Nat) (core : SelectCore) :
    core.search.shift k = (core.shift k).search := by
  have hempty : (core.shift k).condition.isEmpty = core.condition.isEmpty :=
    SearchText.isEmpty_shift k core.condition
  have hcap : (core.shift k).cap = core.cap := rfl
  have hcompound : (core.shift k).compound = core.compound := rfl
  unfold search
  rw [hcap, hempty, hcompound]
  cases core.cap with
  | none => rfl
  | some count =>
    dsimp only
    split
    · simp
    · split <;> simp [shift]

theorem shift_sql (k : Nat) (core : SelectCore) : core.sql.shift k = (core.shift k).sql := by
  have hdistinct : (core.shift k).distinct = core.distinct := rfl
  unfold sql
  rw [← shift_search, hdistinct]
  simp [shift]

end SelectCore

namespace Layers

/-- A SELECT in layers with its placeholders numbered further on. -/
def shift (k : Nat) : Layers → Layers
  | .core select => .core (select.shift k)
  | .ordered inner sort => .ordered (inner.shift k) (sort.map (Sql.shift k))
  | .derived items inner tableAlias rows =>
    .derived (items.map (SelectItem.shift k)) (inner.shift k) tableAlias rows

@[simp] theorem shift_sql (k : Nat) (layers : Layers) :
    layers.sql.shift k = (layers.shift k).sql := by
  induction layers with
  | core select => exact select.shift_sql k
  | ordered inner sort ih => simp [sql, shift, ih]
  | derived items inner tableAlias rows ih => cases rows <;> simp [sql, shift, ih]

@[simp] theorem shift_orderedBy (k : Nat) (inner : Layers) (sort : List Sql) :
    (inner.orderedBy sort).shift k = (inner.shift k).orderedBy (sort.map (Sql.shift k)) := by
  unfold orderedBy
  rw [List.isEmpty_map]
  split <;> rfl

end Layers

namespace Selection

/-- A selection with its placeholders numbered further on. -/
def shift (k : Nat) (s : Selection) : Selection :=
  { s with
    inner := s.inner.map (SelectItem.shift k)
    outer := s.outer.map (SelectItem.shift k)
    join := s.join.shift k
    condition := s.condition.shift k
    group := s.group.shift k
    combine := s.combine.shift k
    sort := s.sort.map (Sql.shift k) }

/-- The layers of a selection do not depend on how its placeholders are numbered. -/
theorem shift_limited (k : Nat) (s : Selection) (cap : Option Nat) :
    (s.limited cap).shift k = (s.shift k).limited cap := by
  have hsort : (s.shift k).sort.isEmpty = s.sort.isEmpty := List.isEmpty_map
  have hcombined : (s.shift k).isCombined = s.isCombined := by
    unfold isCombined
    rw [← Sql.isEmpty_shift k s.combine]
    rfl
  have hshaped : (s.shift k).isShaped = s.isShaped := by
    unfold isShaped
    rw [hsort, ← Sql.isEmpty_shift k s.group]
    rfl
  cases cap with
  | none =>
    rw [limited, limited, hsort, hcombined]
    split
    · rfl
    · exact Layers.shift_orderedBy k _ _
  | some limit =>
    simp only [limited, hsort, hcombined, hshaped]
    split
    · rfl
    · simp only [Layers.shift, Layers.shift_orderedBy]
      rfl
    · split <;> rfl

end Selection

namespace Compiler

variable {c : Compiler} (k : Nat)

theorem shift_nestedSelection (target : NestedTarget) (tableAlias : String) (distinct : Bool)
    (clauses : Clauses) :
    (c.nestedSelection target tableAlias distinct clauses).shift k =
      c.nestedSelection target tableAlias distinct (clauses.shift k) := by
  unfold nestedSelection Selection.shift
  rw [← Clauses.shift_usableJoin]
  simp [SelectItem.shift, Clauses.shift]

@[simp] theorem shift_compareNested (column : Sql) (operator : Operator) (target : NestedTarget)
    (tableAlias : String) (distinct : Bool) (clauses : Clauses) :
    (c.compareNested column operator target tableAlias distinct clauses).shift k =
      c.compareNested (column.shift k) operator target tableAlias distinct (clauses.shift k) := by
  simp only [compareNested, Predicate.shift, Predicate.leaf, SearchText.shift_leaf,
    shift_comparison, Sql.shift_parens, Layers.shift_sql, Selection.shift_limited,
    shift_nestedSelection, Clauses.shift]

@[simp] theorem shift_traversalLink (direction : TraversalDirection) (key relation : Sql) :
    (traversalLink direction key relation).shift k =
      traversalLink direction (key.shift k) (relation.shift k) := by
  cases direction <;> simp [traversalLink]

end Compiler

theorem shift_traversalScript (k : Nat) (table innerAlias : String) (clauses : Clauses)
    (keyColumn relationColumn : Sql) (direction : TraversalDirection) :
    (traversalScript table innerAlias clauses keyColumn relationColumn direction).shift k =
      traversalScript table innerAlias (clauses.shift k) (keyColumn.shift k)
        (relationColumn.shift k) direction := by
  have hempty : (clauses.shift k).condition.isEmpty = clauses.condition.isEmpty :=
    SearchText.isEmpty_shift k clauses.condition
  have hanchor : (if clauses.condition.isEmpty then Sql.text "1 = 1"
      else clauses.condition.sql).shift k =
        if clauses.condition.isEmpty then Sql.text "1 = 1"
        else (clauses.shift k).condition.sql := by
    split
    · exact Sql.shift_text k _
    · exact SearchText.shift_sql k clauses.condition
  unfold traversalScript
  rw [hempty]
  simp only [Sql.shift_append, Sql.shift_text, Sql.shift_clause, JoinedTable.shift_list, hanchor,
    Compiler.shift_traversalLink]
  rfl

/-- Clauses behind a traversal over some fields. -/
def throughTraversal (c : Compiler) (entity : Entity) (tableAlias innerAlias : String)
    (clauses : Clauses) (direction : TraversalDirection) (key relation : Field) : Clauses :=
  let script := traversalScript (c.table entity) innerAlias clauses
    (c.conventions.column innerAlias key) (c.conventions.column innerAlias relation) direction
  { clauses with
    condition :=
      SearchText.leaf (comparison (c.conventions.column tableAlias key) .isIn script.parens)
    hasOr := false
    allowJoin := false
    trace := clauses.trace ++ ⟨[script], ⟨some (c.table entity), some innerAlias⟩⟩ }

section

variable {c : Compiler} (k : Nat) (entity : Entity) (tableAlias innerAlias : String)
  (clauses : Clauses)

theorem traversal_some (spec : Recursion) :
    traversal c entity tableAlias innerAlias clauses (some spec) = (do
      let key ← entity.field spec.key
      let relation ← entity.field spec.relation
      return throughTraversal c entity tableAlias innerAlias clauses spec.direction key relation) :=
  rfl

theorem shift_throughTraversal (direction : TraversalDirection) (key relation : Field) :
    (throughTraversal c entity tableAlias innerAlias clauses direction key relation).shift k =
      throughTraversal c entity tableAlias innerAlias (clauses.shift k) direction key relation := by
  have hscript := shift_traversalScript k (c.table entity) innerAlias clauses
    (c.conventions.column innerAlias key) (c.conventions.column innerAlias relation) direction
  rw [Conventions.shift_column, Conventions.shift_column] at hscript
  unfold throughTraversal
  rw [← hscript]
  simp [Clauses.shift]

/-- A traversal replaces renumbered clauses as it does the clauses themselves. -/
theorem shift_traversal (recursion : Option Recursion) :
    traversal c entity tableAlias innerAlias (clauses.shift k) recursion =
      (traversal c entity tableAlias innerAlias clauses recursion).map (Clauses.shift k) := by
  cases recursion with
  | none => rfl
  | some spec =>
    rw [traversal_some, traversal_some]
    cases entity.field spec.key with
    | error e => rfl
    | ok key =>
      cases entity.field spec.relation with
      | error e => rfl
      | ok relation =>
        exact congrArg Except.ok
          (shift_throughTraversal k entity tableAlias innerAlias clauses _ _ _).symm

end

end QueryLoom
