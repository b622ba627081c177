import Mathlib.Data.List.Nodup
import QueryLoom.Clauses.Criterion
import QueryLoom.Statement.Writing

/-!
# Bindings

The values that a query or a command binds, listed from its tree alone, in the order in which they
are numbered.

## Implementation notes

What is bound depends neither on the schema nor on the number at which a compilation starts, except
that an insertion binds the fields of its entity. A sort counts only where the query is sorted, and
a nested query is sorted where its rows are capped. A comparison with an empty collection binds the
operand of its conversion and then does not write its column, so a binding also says whether its
placeholder is written.
-/

namespace QueryLoom

/-- A call that hands out a parameter. -/
structure Binding where
  /-- The property that the parameter is named by. -/
  property : String
  /-- The value of an input; an output has none. -/
  value : Option Value
  /-- Whether the placeholder is written into the SQL text. -/
  written : Bool := true

namespace Binding

/-- An input of a property. -/
def input (property : String) (value : Value) : Binding := ⟨property, some value, true⟩

/-- An output of a property. -/
def output (property : String) : Binding := ⟨property, none, true⟩

/-- The entry of a binding under a number, its value as the conventions bind it. -/
def parameter (conventions : Conventions) (number : Nat) (binding : Binding) : Parameter :=
  match binding.value with
  | some value => ⟨parameterName binding.property number, conventions.bound value, .input⟩
  | none => ⟨parameterName binding.property number, .null, .output⟩

theorem name_parameter (conventions : Conventions) (number : Nat) (binding : Binding) :
    (binding.parameter conventions number).name = parameterName binding.property number := by
  unfold parameter
  cases binding.value <;> rfl

end Binding

/-- The operand of a conversion, of a column that is written or not. -/
def conversionBindings (property : String) (written : Bool) : Option Conversion → List Binding
  | some (.operand function value) =>
    match function.form with
    | .unsupported _ => []
    | _ => [⟨property, some value, written⟩]
  | _ => []

/-- The elements of a collection, or the collection as a whole. -/
def collectionBindings (property : String) (items : List Value) : List Binding :=
  if items.isEmpty then []
  else if items.all Value.bindsInCollection then [.input property (.collection items)]
  else items.map (.input property)

/-- The value that a comparison with a single value binds: inside a pattern, if there is one. -/
def scalarOperand (operator : Operator) (value : Value) : Value :=
  if operator.isMembership then value
  else
    match operator.pattern? with
    | none => value
    | some pattern => .text (pattern.apply value.bareText)

/-- Whether a comparison writes its column: all do but those with an empty collection. -/
def writesColumn (operator : Operator) : Value → Bool
  | .collection items => !(operator.takesOperand && items.isEmpty)
  | _ => true

/-- The operands of sorts. -/
def sortBindings (keys : List SortKey) : List Binding :=
  keys.flatMap fun key => conversionBindings key.field true key.conversion

/-- Whether a nested query is sorted: its rows are capped. -/
def nestedSorted (operator : Operator) (query : Query) : Bool :=
  (if operator.isMembership then rowCap query.size else some 1).isSome

mutual
/-- The bindings of a query: of its conditions, its sorts where they count, its set operations and
its joins. -/
def Query.bindings (sorted : Bool) (query : Query) : List Binding :=
  match query with
  | { conditions, sorts, joins, combines, .. } =>
    entryBindings conditions ++ (if sorted then sortBindings sorts else []) ++
      combineBindings combines ++ joinBindings joins
termination_by structural query

/-- The bindings of a list of conditions. -/
def entryBindings (entries : List ConditionEntry) : List Binding :=
  match entries with
  | [] => []
  | ⟨_, condition⟩ :: rest => condition.bindings ++ entryBindings rest
termination_by structural entries

/-- The bindings of a condition. -/
def Condition.bindings (condition : Condition) : List Binding :=
  match condition with
  | .constant _ => []
  | .criterion criterion => criterion.bindings
  | .group entries => entryBindings entries
termination_by structural condition

/-- The bindings of a comparison: the operand of its conversion, then what it compares with. -/
def Criterion.bindings (criterion : Criterion) : List Binding :=
  match criterion with
  | ⟨property, operator, value, conversion⟩ =>
    conversionBindings property (writesColumn operator value) conversion ++
      if operator.takesOperand then
        match value with
        | .subquery query => query.bindings (nestedSorted operator query)
        | .collection items => collectionBindings property items
        | value => [.input property (scalarOperand operator value)]
      else []
termination_by structural criterion

/-- The bindings of set operations. -/
def combineBindings (combines : List Combine) : List Binding :=
  match combines with
  | [] => []
  | ⟨_, query⟩ :: rest => query.bindings false ++ combineBindings rest
termination_by structural combines

/-- The bindings of joins. -/
def joinBindings (joins : List Join) : List Binding :=
  match joins with
  | [] => []
  | ⟨_, _, _, query⟩ :: rest => query.bindings false ++ joinBindings rest
termination_by structural joins
end

theorem Query.bindings_eq (sorted : Bool) (query : Query) :
    query.bindings sorted =
      entryBindings query.conditions ++ (if sorted then sortBindings query.sorts else []) ++
        combineBindings query.combines ++ joinBindings query.joins := by
  obtain ⟨⟩ := query
  rfl

theorem Criterion.bindings_eq (criterion : Criterion) :
    criterion.bindings =
      conversionBindings criterion.field (writesColumn criterion.operator criterion.value)
          criterion.conversion ++
        if criterion.operator.takesOperand then
          match criterion.value with
          | .subquery query => query.bindings (nestedSorted criterion.operator query)
          | .collection items => collectionBindings criterion.field items
          | value => [.input criterion.field (scalarOperand criterion.operator value)]
        else [] := by
  obtain ⟨property, operator, value, conversion⟩ := criterion
  cases value <;> rfl

/-- A binding with the number it is given. -/
abbrev Issue := Binding × Nat

namespace Issue

/-- The name of the parameter. -/
def name (issue : Issue) : String := parameterName issue.1.property issue.2

/-- The placeholder of the parameter. -/
def placeholder (issue : Issue) : String × Nat := (issue.1.property, issue.2)

/-- The entry of the parameter. -/
def parameter (conventions : Conventions) (issue : Issue) : Parameter :=
  issue.1.parameter conventions issue.2

@[simp] theorem name_parameter (conventions : Conventions) (issue : Issue) :
    (issue.parameter conventions).name = issue.name :=
  Binding.name_parameter conventions issue.2 issue.1

end Issue

/-- Bindings numbered from a number on. -/
def numbered (number : Nat) (bindings : List Binding) : List Issue := bindings.zipIdx number

@[simp] theorem numbered_nil (number : Nat) : numbered number [] = [] := rfl

theorem numbered_append (number : Nat) (a b : List Binding) :
    numbered number (a ++ b) = numbered number a ++ numbered (number + a.length) b := by
  simp [numbered, List.zipIdx_append]

/-- Bindings numbered from a number on have the numbers from there. -/
theorem number_of_mem_numbered {number : Nat} {bindings : List Binding} {issue : Issue}
    (h : issue ∈ numbered number bindings) :
    number ≤ issue.2 ∧ issue.2 < number + bindings.length := by
  have hmem : issue.2 ∈ (bindings.zipIdx number).map Prod.snd := List.mem_map_of_mem h
  rw [List.zipIdx_map_snd, List.mem_range'_1] at hmem
  exact hmem

theorem nodup_numbers (number : Nat) (bindings : List Binding) :
    ((numbered number bindings).map Prod.snd).Nodup := by
  rw [numbered, List.zipIdx_map_snd]
  exact List.nodup_range'

theorem nodup_numbered (number : Nat) (bindings : List Binding) :
    (numbered number bindings).Nodup :=
  (nodup_numbers number bindings).of_map _

/-- No number is given twice. -/
theorem numbered_inj {number : Nat} {bindings : List Binding} {i j : Issue}
    (hi : i ∈ numbered number bindings) (hj : j ∈ numbered number bindings) (h : i.2 = j.2) :
    i = j :=
  List.inj_on_of_nodup_map (nodup_numbers number bindings) hi hj h

/-- The bindings of the HAVING clause, which a query without groups does not have. -/
def Query.havingBindings (query : Query) : List Binding :=
  if query.groupBy.isEmpty then [] else entryBindings query.having

/-- The bindings of a statement that reads. Only rows are sorted. -/
def Query.statementBindings (query : Query) : List Binding :=
  query.bindings (query.output == .rows) ++ query.havingBindings

/-- The bindings of assignments. -/
def assignmentBindings (assignments : List (String × Assignment)) : List Binding :=
  assignments.map fun (property, assignment) =>
    match assignment with
    | .value value | .calculate _ value => .input property value

/-- The bindings of an insertion: every field that is not generated, with the first value given for
it or NULL, and then the generated field. -/
def InsertCommand.bindings (command : InsertCommand) (entity : Entity) : List Binding :=
  (entity.fields.filter (!·.role.autoIncrement)).map (fun field =>
    .input field.property
      (((command.values.find? (·.1 == field.property)).map (·.2)).getD .null)) ++
    entity.autoIncrementField?.toList.map (.output ·.property)

/-- The bindings of a command under a schema; a text binds nothing. -/
def Compiler.bindings (c : Compiler) : Command → List Binding
  | .insert command =>
    match c.schema.entity command.entity with
    | .ok entity => command.bindings entity
    | .error _ => []
  | .update command =>
    (Compiler.scopedQuery command.query command.entity).bindings false ++
      assignmentBindings command.assignments
  | .delete command => (Compiler.scopedQuery command.query command.entity).bindings false
  | .text _ => []

end QueryLoom
