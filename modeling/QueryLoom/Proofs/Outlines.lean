import QueryLoom.Statement.Writing
import QueryLoom.Proofs.Compilation
import QueryLoom.Proofs.ParameterCollections

/-!
# Outlines

A query or a command without the payloads of its values. What is left of a value is what a
comparison with it has to know: whether it is a collection, and how that is bound, or a nested
query.

## Implementation notes

An outline is a query or a command itself, with NULL for every payload, so that the same functions
compile it. A collection that is bound whole keeps one element, and one that is bound element by
element keeps as many intervals as it has elements.
-/

namespace QueryLoom

/-- The elements of a collection without their payloads. -/
def outlineItems (items : List Value) : List Value :=
  if items.isEmpty then []
  else if items.all Value.bindsInCollection then [.null]
  else items.map fun _ => .interval 0

/-- A conversion without the payload of its operand. -/
def Conversion.outline : Conversion → Conversion
  | .operand function _ => .operand function .null
  | conversion => conversion

/-- A sort key without the payload of its conversion. -/
def SortKey.outline (key : SortKey) : SortKey :=
  { key with conversion := key.conversion.map Conversion.outline }

/-- A binding without its payload. -/
def Parameter.outline (p : Parameter) : Parameter :=
  { p with value := .null }

/-- Bindings without their payloads. -/
def Parameters.outline (ps : Parameters) : Parameters :=
  ⟨ps.items.map Parameter.outline⟩

/-- A script without the payloads of its bindings. -/
def TextScript.outline (text : TextScript) : TextScript :=
  { text with parameters := text.parameters.outline }

mutual
/-- A value without its payload. -/
def Value.outline (value : Value) : Value :=
  match value with
  | .collection items => .collection (outlineItems items)
  | .subquery query => .subquery query.outline
  | _ => .null
termination_by structural value

/-- A comparison without the payloads of its values. -/
def Criterion.outline (criterion : Criterion) : Criterion :=
  match criterion with
  | ⟨field, operator, value, conversion⟩ =>
    ⟨field, operator, value.outline, conversion.map Conversion.outline⟩
termination_by structural criterion

/-- A condition without the payloads of its values. -/
def Condition.outline (condition : Condition) : Condition :=
  match condition with
  | .criterion criterion => .criterion criterion.outline
  | .group entries => .group (outlineEntries entries)
  | .constant holds => .constant holds
termination_by structural condition

/-- Conditions without the payloads of their values. -/
def outlineEntries (entries : List ConditionEntry) : List ConditionEntry :=
  match entries with
  | [] => []
  | ⟨connector, condition⟩ :: rest => ⟨connector, condition.outline⟩ :: outlineEntries rest
termination_by structural entries

/-- Joins without the payloads of the values in their queries. -/
def outlineJoins (joins : List Join) : List Join :=
  match joins with
  | [] => []
  | ⟨kind, fields, operator, query⟩ :: rest =>
    ⟨kind, fields, operator, query.outline⟩ :: outlineJoins rest
termination_by structural joins

/-- Set operations without the payloads of the values in their queries. -/
def outlineCombines (combines : List Combine) : List Combine :=
  match combines with
  | [] => []
  | ⟨kind, query⟩ :: rest => ⟨kind, query.outline⟩ :: outlineCombines rest
termination_by structural combines

/-- A query without the payloads of its values. -/
def Query.outline (query : Query) : Query :=
  match query with
  | { entity, conditions, sorts, joins, combines, recursion, fields, distinct, groupBy, having,
      size, paging, output, text } =>
    { entity, conditions := outlineEntries conditions, sorts := sorts.map SortKey.outline
      joins := outlineJoins joins, combines := outlineCombines combines, recursion, fields
      distinct, groupBy, having := outlineEntries having, size, paging, output
      text := text.map TextScript.outline }
termination_by structural query
end

/-- An outline, field by field. -/
theorem Query.outline_eq (query : Query) :
    query.outline = { query with
      conditions := outlineEntries query.conditions
      sorts := query.sorts.map SortKey.outline
      joins := outlineJoins query.joins
      combines := outlineCombines query.combines
      having := outlineEntries query.having
      text := query.text.map TextScript.outline } := by
  cases query
  rfl

@[simp] theorem Query.entity_outline (query : Query) : query.outline.entity = query.entity := by
  rw [Query.outline_eq]

@[simp] theorem Query.fields_outline (query : Query) : query.outline.fields = query.fields := by
  rw [Query.outline_eq]

/-! ## Values with the same outline -/

/-- Two values that a comparison may exchange: both single, both collections that are bound alike,
or nested queries with the same outline. -/
inductive Value.SameShape : Value → Value → Prop where
  | single {v w : Value} (hv : v.IsScalar) (hw : w.IsScalar) : SameShape v w
  | empty : SameShape (.collection []) (.collection [])
  | whole {xs ys : List Value} (hxs : xs ≠ []) (hys : ys ≠ [])
      (hx : xs.all Value.bindsInCollection = true) (hy : ys.all Value.bindsInCollection = true) :
      SameShape (.collection xs) (.collection ys)
  | elements {xs ys : List Value} (hx : xs.all Value.bindsInCollection = false)
      (hy : ys.all Value.bindsInCollection = false) (hlength : xs.length = ys.length) :
      SameShape (.collection xs) (.collection ys)
  | nested {p q : Query} (h : p.outline = q.outline) : SameShape (.subquery p) (.subquery q)

theorem Value.single_or (value : Value) :
    value.IsScalar ∨ (∃ items, value = .collection items) ∨ ∃ query, value = .subquery query := by
  cases value with
  | collection items => exact .inr (.inl ⟨items, rfl⟩)
  | subquery query => exact .inr (.inr ⟨query, rfl⟩)
  | _ => exact .inl trivial

@[simp] theorem Value.outline_collection (items : List Value) :
    (Value.collection items).outline = .collection (outlineItems items) := rfl

@[simp] theorem Value.outline_subquery (query : Query) :
    (Value.subquery query).outline = .subquery query.outline := rfl

theorem Value.IsScalar.outline_eq {value : Value} (h : value.IsScalar) : value.outline = .null := by
  cases value with
  | collection items => exact h.elim
  | subquery query => exact h.elim
  | _ => rfl

@[simp] theorem isEmpty_outlineItems (items : List Value) :
    (outlineItems items).isEmpty = items.isEmpty := by
  unfold outlineItems
  cases hempty : items.isEmpty with
  | true => rfl
  | false =>
    cases items.all Value.bindsInCollection with
    | true => rfl
    | false => simpa using hempty

@[simp] theorem all_outlineItems (items : List Value) :
    (outlineItems items).all Value.bindsInCollection = items.all Value.bindsInCollection := by
  unfold outlineItems
  cases items with
  | nil => rfl
  | cons first rest =>
    cases hall : (first :: rest).all Value.bindsInCollection with
    | true => simp [Value.bindsInCollection]
    | false => simp [Value.bindsInCollection]

theorem outlineItems_elements {items : List Value}
    (h : items.all Value.bindsInCollection = false) :
    outlineItems items = items.map fun _ => .interval 0 := by
  cases items with
  | nil => cases h
  | cons first rest => simp only [outlineItems, h, List.isEmpty_cons, Bool.false_eq_true, if_false]

/-- The outlines of two collections are the same exactly if the collections have the same shape. -/
theorem outlineItems_eq_iff {xs ys : List Value} :
    outlineItems xs = outlineItems ys ↔ Value.SameShape (.collection xs) (.collection ys) := by
  constructor
  · intro h
    have hempty : xs.isEmpty = ys.isEmpty := by
      rw [← isEmpty_outlineItems xs, h, isEmpty_outlineItems]
    have hall : xs.all Value.bindsInCollection = ys.all Value.bindsInCollection := by
      rw [← all_outlineItems xs, h, all_outlineItems]
    by_cases hxs : xs = []
    · obtain rfl : ys = [] := by simpa [hxs] using hempty.symm
      exact hxs ▸ .empty
    · have hys : ys ≠ [] := by
        rintro rfl
        exact hxs (by simpa using hempty)
      cases hx : xs.all Value.bindsInCollection with
      | true => exact .whole hxs hys hx (hall ▸ hx)
      | false =>
        have hy : ys.all Value.bindsInCollection = false := hall ▸ hx
        refine .elements hx hy ?_
        rw [outlineItems_elements hx, outlineItems_elements hy] at h
        simpa using congrArg List.length h
  · intro h
    cases h with
    | single hv _ => exact hv.elim
    | empty => rfl
    | whole hxs hys hx hy => simp [outlineItems, hxs, hys, hx, hy]
    | elements hx hy hlength =>
      rw [outlineItems_elements hx, outlineItems_elements hy, List.map_const', List.map_const',
        hlength]

/-- Two values have the same outline exactly if they have the same shape. -/
theorem Value.outline_eq_iff {v w : Value} : v.outline = w.outline ↔ v.SameShape w := by
  constructor
  · intro h
    rcases v.single_or with hv | ⟨xs, rfl⟩ | ⟨p, rfl⟩ <;>
      rcases w.single_or with hw | ⟨ys, rfl⟩ | ⟨q, rfl⟩
    · exact .single hv hw
    · cases hv.outline_eq ▸ h
    · cases hv.outline_eq ▸ h
    · cases hw.outline_eq ▸ h
    · exact outlineItems_eq_iff.mp (by simpa using h)
    · cases h
    · cases hw.outline_eq ▸ h
    · cases h
    · exact .nested (by simpa using h)
  · intro h
    cases h with
    | single hv hw => rw [hv.outline_eq, hw.outline_eq]
    | nested h => simpa using h
    | empty => rfl
    | whole hxs hys hx hy => simpa using outlineItems_eq_iff.mpr (.whole hxs hys hx hy)
    | elements hx hy hlength => simpa using outlineItems_eq_iff.mpr (.elements hx hy hlength)

/-! ## Commands and statements -/

/-- An assignment without the payload of its value. -/
def Assignment.outline : Assignment → Assignment
  | .value _ => .value .null
  | .calculate op _ => .calculate op .null

/-- An insertion without the payloads of its values. -/
def InsertCommand.outline (command : InsertCommand) : InsertCommand :=
  { command with values := command.values.map fun (property, _) => (property, .null) }

/-- An update without the payloads of its values. Split values are not bound; they are left out
altogether. -/
def UpdateCommand.outline (command : UpdateCommand) : UpdateCommand :=
  { command with
    assignments := command.assignments.map (Prod.map id Assignment.outline)
    query := command.query.map Query.outline
    splitValues := [] }

/-- A deletion without the payloads of its values and without its split values. -/
def DeleteCommand.outline (command : DeleteCommand) : DeleteCommand :=
  { command with query := command.query.map Query.outline, splitValues := [] }

/-- A command without the payloads of its values. -/
def Command.outline : Command → Command
  | .insert command => .insert command.outline
  | .update command => .update command.outline
  | .delete command => .delete command.outline
  | .text command => .text { command with parameters := command.parameters.outline }

/-- A statement without the payloads of its bindings. -/
def Statement.outline (statement : Statement) : Statement :=
  { statement with parameters := statement.parameters.outline }

/-- Statements of a command without the payloads of their bindings. -/
def Compiled.outline (compiled : Compiled) : Compiled :=
  { compiled with statements := compiled.statements.map Statement.outline }

end QueryLoom
