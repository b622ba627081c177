import QueryLoom.Calendar.Reader
import QueryLoom.Codec.Names

/-!
# Queries as JSON

The JSON form of values, parameters and queries, written and read.

## Implementation notes

Writing gives every member, defaults included. Reading spends one unit of fuel per level of
nesting; `ofJson?` starts with as many as the JSON has levels, which is never too few.
-/

namespace QueryLoom

namespace Codec

/-- A pair of texts as JSON. -/
def pairJson (pair : String × String) : Json := .array [.string pair.1, .string pair.2]

/-- A traversal as JSON. -/
def recursionJson (recursion : Recursion) : Json := .object [
  ("data_field", .string recursion.key), ("relation_field", .string recursion.relation),
  ("direction", Json.tagOf TraversalDirection.names recursion.direction)]

/-- A window of rows as JSON. -/
def pagingJson (paging : Paging) : Json := .object [
  ("offset", Json.ofNat paging.offset.toNat), ("size", Json.ofNat paging.size.toNat)]

/-- An output as JSON. -/
def outputJson : Output → Json
  | .aggregate function => Json.tagged "Aggregate" (Json.tagOf AggregateFunction.names function)
  | output => Json.tagOf Output.names output

mutual
/-- A value as JSON. -/
def valueJson : Value → Json
  | .null => .string "Null"
  | .bool b => Json.tagged "Bool" (.bool b)
  | .int n => Json.tagged "Int" (Json.ofInt n.toInt)
  | .float x => Json.tagged "Float" (Json.ofFloat x)
  | .text s => Json.tagged "String" (.string s)
  | .date day => Json.tagged "Date" (.string day.render)
  | .dateTime moment => Json.tagged "DateTime" (.string (moment.render "T"))
  | .interval milliseconds => Json.tagged "Interval" (Json.ofInt milliseconds.toInt)
  | .uuid id => Json.tagged "Uuid" (.string id.render)
  | .bytes octets => Json.tagged "Bytes" (Json.ofList (fun b => Json.ofNat b.toNat) octets)
  | .collection items => Json.tagged "Array" (.array (valuesJson items))
  | .subquery query => Json.tagged "Subquery" (queryJson query)
termination_by structural value => value

/-- Some values as JSON. -/
def valuesJson : List Value → List Json
  | [] => []
  | value :: rest => valueJson value :: valuesJson rest
termination_by structural values => values

/-- Some parameters as JSON. -/
def parameterListJson : List Parameter → List Json
  | [] => []
  | ⟨name, value, direction⟩ :: rest =>
    .object [("name", .string name), ("value", valueJson value),
      ("direction", Json.tagOf Direction.names direction)] :: parameterListJson rest
termination_by structural parameters => parameters

/-- A conversion as JSON. -/
def conversionJson : Conversion → Json
  | .column function => Json.tagOf ColumnFunction.names function
  | .path function path =>
    Json.tagged (((PathFunction.names.find? (·.2 == function)).map (·.1)).getD "") (.string path)
  | .operand function value =>
    Json.tagged (((OperandFunction.names.find? (·.2 == function)).map (·.1)).getD "")
      (valueJson value)
termination_by structural conversion => conversion

/-- A conversion that may be absent, as JSON. -/
def conversionOptionJson : Option Conversion → Json
  | none => .null
  | some conversion => conversionJson conversion
termination_by structural conversion => conversion

/-- A condition as JSON. -/
def conditionJson : Condition → Json
  | .criterion criterion => Json.tagged "Criterion" (criterionJson criterion)
  | .group entries => Json.tagged "Group" (.array (entriesJson entries))
  | .constant holds => Json.tagged "Constant" (.bool holds)
termination_by structural condition => condition

/-- A comparison as JSON. -/
def criterionJson : Criterion → Json
  | ⟨field, operator, value, conversion⟩ => .object [
    ("field", .string field), ("operator", Json.tagOf Operator.names operator),
    ("value", valueJson value), ("conversion", conversionOptionJson conversion)]
termination_by structural criterion => criterion

/-- Some conditions with their connectives as JSON. -/
def entriesJson : List ConditionEntry → List Json
  | [] => []
  | ⟨connector, condition⟩ :: rest =>
    .object [("connector", Json.tagOf LogicalOp.names connector),
      ("condition", conditionJson condition)] :: entriesJson rest
termination_by structural entries => entries

/-- Some sort keys as JSON. -/
def sortsJson : List SortKey → List Json
  | [] => []
  | ⟨field, order, conversion⟩ :: rest =>
    .object [("field", .string field), ("order", Json.tagOf SortOrder.names order),
      ("conversion", conversionOptionJson conversion)] :: sortsJson rest
termination_by structural sorts => sorts

/-- Some joins as JSON. -/
def joinsJson : List Join → List Json
  | [] => []
  | ⟨kind, fields, operator, query⟩ :: rest =>
    .object [("kind", Json.tagOf JoinKind.names kind), ("fields", Json.ofList pairJson fields),
      ("operator", Json.tagOf JoinOperator.names operator), ("query", queryJson query)] ::
        joinsJson rest
termination_by structural joins => joins

/-- Some set operations as JSON. -/
def combinesJson : List Combine → List Json
  | [] => []
  | ⟨kind, query⟩ :: rest =>
    .object [("kind", Json.tagOf CombineKind.names kind), ("query", queryJson query)] ::
      combinesJson rest
termination_by structural combines => combines

/-- A text that may be absent, as JSON. -/
def textJson : Option TextScript → Json
  | none => .null
  | some ⟨script, ⟨parameters⟩⟩ => .object [
    ("script", .string script), ("parameters", .array (parameterListJson parameters))]
termination_by structural text => text

/-- A query as JSON. -/
def queryJson : Query → Json
  | { entity, conditions, sorts, joins, combines, recursion, fields, distinct, groupBy, having,
      size, paging, output, text } => .object [
    ("entity", .string entity),
    ("conditions", .array (entriesJson conditions)),
    ("sorts", .array (sortsJson sorts)),
    ("joins", .array (joinsJson joins)),
    ("combines", .array (combinesJson combines)),
    ("recursion", Json.ofOption recursionJson recursion),
    ("fields", Json.ofStrings fields),
    ("distinct", .bool distinct),
    ("group_by", Json.ofStrings groupBy),
    ("having", .array (entriesJson having)),
    ("size", Json.ofNat size.toNat),
    ("paging", Json.ofOption pagingJson paging),
    ("output", outputJson output),
    ("text", textJson text)]
termination_by structural query => query
end

/-- Parameters as JSON. -/
def parametersJson (parameters : Parameters) : Json := .array (parameterListJson parameters.items)

/-- One parameter as JSON. -/
def parameterJson (parameter : Parameter) : Json := .object [
  ("name", .string parameter.name), ("value", valueJson parameter.value),
  ("direction", Json.tagOf Direction.names parameter.direction)]

/-- A traversal from JSON. -/
def recursion? (json : Json) : Option Recursion := do
  let members ← json.members?
  return {
    key := ← Json.required members "data_field" Json.string?
    relation := ← Json.required members "relation_field" Json.string?
    direction := ← Json.required members "direction" (Json.unit? TraversalDirection.names) }

/-- A window of rows from JSON. -/
def paging? (json : Json) : Option Paging := do
  let members ← json.members?
  return {
    offset := ← Json.required members "offset" Json.uint64?
    size := ← Json.required members "size" Json.uint64? }

/-- An output from JSON. -/
def output? (json : Json) : Option Output :=
  match json.variant? with
  | some ("Aggregate", some content) =>
    (Json.unit? AggregateFunction.names content).map Output.aggregate
  | _ => Json.unit? Output.names json

/-- A pair of texts from JSON. -/
def pair? : Json → Option (String × String) := Json.pair? Json.string? Json.string?

mutual
/-- A value from JSON. -/
def value? (fuel : Nat) (json : Json) : Option Value :=
  match fuel with
  | 0 => none
  | fuel + 1 => do
    match ← json.variant? with
    | ("Null", content) => if Json.isUnit content then return .null else none
    | ("Bool", some content) => return .bool (← content.bool?)
    | ("Int", some content) => return .int (← content.int64?)
    | ("Float", some content) => return .float (← content.float?)
    | ("String", some content) => return .text (← content.string?)
    | ("Date", some content) => return .date (← Date.parse? (← content.string?))
    | ("DateTime", some content) => return .dateTime (← DateTime.parse? (← content.string?))
    | ("Interval", some content) => return .interval (← content.int64?)
    | ("Uuid", some content) => return .uuid (← Uuid.parse? (← content.string?))
    | ("Bytes", some content) => return .bytes (← content.list? Json.octet?)
    | ("Array", some content) => return .collection (← content.list? (value? fuel))
    | ("Subquery", some content) => return .subquery (← query? fuel content)
    | _ => none
termination_by structural fuel

/-- A parameter from JSON. -/
def parameter? (fuel : Nat) (json : Json) : Option Parameter :=
  match fuel with
  | 0 => none
  | fuel + 1 => do
    let members ← json.members?
    return {
      name := ← Json.required members "name" Json.string?
      value := ← Json.required members "value" (value? fuel)
      direction := ← Json.optional members "direction" (Json.unit? Direction.names) .input }
termination_by structural fuel

/-- A conversion from JSON. -/
def conversion? (fuel : Nat) (json : Json) : Option Conversion :=
  match fuel with
  | 0 => none
  | fuel + 1 => do
    let (tag, content) ← json.variant?
    match ColumnFunction.names.lookup tag, PathFunction.names.lookup tag,
      OperandFunction.names.lookup tag, content with
    | some function, _, _, content => if Json.isUnit content then return .column function else none
    | none, some function, _, some content => return .path function (← content.string?)
    | none, none, some function, some content => return .operand function (← value? fuel content)
    | _, _, _, _ => none
termination_by structural fuel

/-- A comparison from JSON. -/
def criterion? (fuel : Nat) (json : Json) : Option Criterion :=
  match fuel with
  | 0 => none
  | fuel + 1 => do
    let members ← json.members?
    return {
      field := ← Json.required members "field" Json.string?
      operator := ← Json.required members "operator" (Json.unit? Operator.names)
      value := ← Json.required members "value" (value? fuel)
      conversion :=
        ← Json.optional members "conversion" (Json.nullable? (conversion? fuel)) none }
termination_by structural fuel

/-- A condition from JSON. -/
def condition? (fuel : Nat) (json : Json) : Option Condition :=
  match fuel with
  | 0 => none
  | fuel + 1 => do
    match ← json.variant? with
    | ("Criterion", some content) => return .criterion (← criterion? fuel content)
    | ("Group", some content) => return .group (← content.list? (sibling? fuel))
    | ("Constant", some content) => return .constant (← content.bool?)
    | _ => none
termination_by structural fuel

/-- A condition with its connective from JSON. -/
def sibling? (fuel : Nat) (json : Json) : Option ConditionEntry :=
  match fuel with
  | 0 => none
  | fuel + 1 => do
    let members ← json.members?
    return {
      connector := ← Json.required members "connector" (Json.unit? LogicalOp.names)
      condition := ← Json.required members "condition" (condition? fuel) }
termination_by structural fuel

/-- A sort key from JSON. -/
def sortKey? (fuel : Nat) (json : Json) : Option SortKey :=
  match fuel with
  | 0 => none
  | fuel + 1 => do
    let members ← json.members?
    return {
      field := ← Json.required members "field" Json.string?
      order := ← Json.required members "order" (Json.unit? SortOrder.names)
      conversion :=
        ← Json.optional members "conversion" (Json.nullable? (conversion? fuel)) none }
termination_by structural fuel

/-- A join from JSON. -/
def join? (fuel : Nat) (json : Json) : Option Join :=
  match fuel with
  | 0 => none
  | fuel + 1 => do
    let members ← json.members?
    return {
      kind := ← Json.required members "kind" (Json.unit? JoinKind.names)
      fields := ← Json.optional members "fields" (Json.list? pair?) []
      operator := ← Json.optional members "operator" (Json.unit? JoinOperator.names) .equal
      query := ← Json.required members "query" (query? fuel) }
termination_by structural fuel

/-- A set operation from JSON. -/
def combine? (fuel : Nat) (json : Json) : Option Combine :=
  match fuel with
  | 0 => none
  | fuel + 1 => do
    let members ← json.members?
    return {
      kind := ← Json.required members "kind" (Json.unit? CombineKind.names)
      query := ← Json.required members "query" (query? fuel) }
termination_by structural fuel

/-- A text from JSON. -/
def textScript? (fuel : Nat) (json : Json) : Option TextScript :=
  match fuel with
  | 0 => none
  | fuel + 1 => do
    let members ← json.members?
    return {
      script := ← Json.required members "script" Json.string?
      parameters := ⟨← Json.optional members "parameters" (Json.list? (parameter? fuel)) []⟩ }
termination_by structural fuel

/-- A query from JSON; every member may be left out. -/
def query? (fuel : Nat) (json : Json) : Option Query :=
  match fuel with
  | 0 => none
  | fuel + 1 => do
    let members ← json.members?
    return {
      entity := ← Json.optional members "entity" Json.string? ""
      conditions := ← Json.optional members "conditions" (Json.list? (sibling? fuel)) []
      sorts := ← Json.optional members "sorts" (Json.list? (sortKey? fuel)) []
      joins := ← Json.optional members "joins" (Json.list? (join? fuel)) []
      combines := ← Json.optional members "combines" (Json.list? (combine? fuel)) []
      recursion := ← Json.optional members "recursion" (Json.nullable? recursion?) none
      fields := ← Json.optional members "fields" (Json.list? Json.string?) []
      distinct := ← Json.optional members "distinct" Json.bool? false
      groupBy := ← Json.optional members "group_by" (Json.list? Json.string?) []
      having := ← Json.optional members "having" (Json.list? (sibling? fuel)) []
      size := ← Json.optional members "size" Json.uint64? 0
      paging := ← Json.optional members "paging" (Json.nullable? paging?) none
      output := ← Json.optional members "output" output? .rows
      text := ← Json.optional members "text" (Json.nullable? (textScript? fuel)) none }
termination_by structural fuel
end

end Codec

/-- The value that JSON stands for. -/
def Value.ofJson? (json : Json) : Option Value := Codec.value? json.depth json

/-- The query that JSON stands for. -/
def Query.ofJson? (json : Json) : Option Query := Codec.query? json.depth json

/-- The criterion that JSON stands for. -/
def Criterion.ofJson? (json : Json) : Option Criterion := Codec.criterion? json.depth json

/-- The condition that JSON stands for. -/
def Condition.ofJson? (json : Json) : Option Condition := Codec.condition? json.depth json

/-- The condition with its connective that JSON stands for. -/
def ConditionEntry.ofJson? (json : Json) : Option ConditionEntry := Codec.sibling? json.depth json

/-- The conversion that JSON stands for. -/
def Conversion.ofJson? (json : Json) : Option Conversion := Codec.conversion? json.depth json

/-- The parameters that JSON stands for, taken as they are. -/
def Parameters.ofJson? (json : Json) : Option Parameters := do
  return ⟨← json.list? fun item => Codec.parameter? item.depth item⟩

end QueryLoom
