import QueryLoom.Codec.Query
import QueryLoom.Proofs.CalendarText
import QueryLoom.Proofs.JsonForms
import QueryLoom.Proofs.UuidText

/-!
# Forms of queries in JSON

What JSON a query and its parts may stand as, and that each form is read back as what it stands for.
A member is left out only where the query holds its default, and an absent part may be `null`.

## Implementation notes

The forms are one mutual block along the query tree, and so is the theorem about them. Each of its
cases is a lemma of its own about one level, which takes the lower levels as hypotheses; the block
only ties the recursion.
-/

namespace QueryLoom

open Json

/-! ## Forms -/

/-- The forms of a window of rows. -/
def Paging.Form (paging : Paging) : Json → Prop :=
  Laid [⟨"offset", (· = ofNat paging.offset.toNat), False⟩,
    ⟨"size", (· = ofNat paging.size.toNat), False⟩]

/-- The forms of a traversal. -/
def Recursion.Form (recursion : Recursion) : Json → Prop :=
  Laid [⟨"data_field", (· = .string recursion.key), False⟩,
    ⟨"relation_field", (· = .string recursion.relation), False⟩,
    ⟨"direction", (· = tagOf TraversalDirection.names recursion.direction), False⟩]

/-- The forms of an output. -/
def Output.Form (output : Output) : Json → Prop :=
  match output with
  | .aggregate function => Tagged "Aggregate" (· = tagOf AggregateFunction.names function)
  | plain => (· = tagOf Output.names plain)

/-- The forms of a pair of texts. -/
def pairForm (pair : String × String) : Json → Prop :=
  Paired (· = .string pair.1) (· = .string pair.2)

mutual
/-- The forms of a value. A number that is not finite has none. -/
def Value.Form (value : Value) : Json → Prop :=
  match value with
  | .null => (· = .string "Null")
  | .bool b => Tagged "Bool" (· = .bool b)
  | .int n => Tagged "Int" (· = ofInt n.toInt)
  | .float x => Tagged "Float" fun json => x.isFinite = true ∧ json = .number (.real x)
  | .text s => Tagged "String" (· = .string s)
  | .date day => Tagged "Date" (· = .string day.render)
  | .dateTime moment => Tagged "DateTime" (· = .string (moment.render "T"))
  | .interval milliseconds => Tagged "Interval" (· = ofInt milliseconds.toInt)
  | .uuid id => Tagged "Uuid" (· = .string id.render)
  | .bytes octets => Tagged "Bytes" (Listed (octets.map fun b json => json = ofNat b.toNat))
  | .collection items => Tagged "Array" (Listed (valueForms items))
  | .subquery query => Tagged "Subquery" (Laid query.slots)
termination_by structural value

/-- The forms of some values. -/
def valueForms (values : List Value) : List (Json → Prop) :=
  match values with
  | [] => []
  | value :: rest => value.Form :: valueForms rest
termination_by structural values

/-- The forms of a parameter. -/
def Parameter.Form (parameter : Parameter) : Json → Prop :=
  match parameter with
  | ⟨name, value, direction⟩ =>
    Laid [⟨"name", (· = .string name), False⟩, ⟨"value", value.Form, False⟩,
      ⟨"direction", (· = tagOf Direction.names direction), direction = .input⟩]
termination_by structural parameter

/-- The forms of some parameters. -/
def parameterForms (parameters : List Parameter) : List (Json → Prop) :=
  match parameters with
  | [] => []
  | parameter :: rest => parameter.Form :: parameterForms rest
termination_by structural parameters

/-- The forms of a conversion. -/
def Conversion.Form (conversion : Conversion) : Json → Prop :=
  match conversion with
  | .column function => (· = tagOf ColumnFunction.names function)
  | .path function path => Tagged (nameOf PathFunction.names function) (· = .string path)
  | .operand function value => Tagged (nameOf OperandFunction.names function) value.Form
termination_by structural conversion

/-- The forms of a conversion that may be absent. -/
def conversionForm (conversion : Option Conversion) : Json → Prop :=
  match conversion with
  | none => (· = .null)
  | some conversion => conversion.Form
termination_by structural conversion

/-- The forms of a condition. -/
def Condition.Form (condition : Condition) : Json → Prop :=
  match condition with
  | .criterion criterion => Tagged "Criterion" criterion.Form
  | .group entries => Tagged "Group" (Listed (entryForms entries))
  | .constant holds => Tagged "Constant" (· = .bool holds)
termination_by structural condition

/-- The forms of a comparison. -/
def Criterion.Form (criterion : Criterion) : Json → Prop :=
  match criterion with
  | ⟨field, operator, value, conversion⟩ =>
    Laid [⟨"field", (· = .string field), False⟩,
      ⟨"operator", (· = tagOf Operator.names operator), False⟩, ⟨"value", value.Form, False⟩,
      ⟨"conversion", conversionForm conversion, conversion = none⟩]
termination_by structural criterion

/-- The forms of a condition with its connective. -/
def ConditionEntry.Form (entry : ConditionEntry) : Json → Prop :=
  match entry with
  | ⟨connector, condition⟩ =>
    Laid [⟨"connector", (· = tagOf LogicalOp.names connector), False⟩,
      ⟨"condition", condition.Form, False⟩]
termination_by structural entry

/-- The forms of some conditions with their connectives. -/
def entryForms (entries : List ConditionEntry) : List (Json → Prop) :=
  match entries with
  | [] => []
  | entry :: rest => entry.Form :: entryForms rest
termination_by structural entries

/-- The forms of a sort key. -/
def SortKey.Form (sort : SortKey) : Json → Prop :=
  match sort with
  | ⟨field, order, conversion⟩ =>
    Laid [⟨"field", (· = .string field), False⟩,
      ⟨"order", (· = tagOf SortOrder.names order), False⟩,
      ⟨"conversion", conversionForm conversion, conversion = none⟩]
termination_by structural sort

/-- The forms of some sort keys. -/
def sortForms (sorts : List SortKey) : List (Json → Prop) :=
  match sorts with
  | [] => []
  | sort :: rest => sort.Form :: sortForms rest
termination_by structural sorts

/-- The forms of a join. -/
def Join.Form (join : Join) : Json → Prop :=
  match join with
  | ⟨kind, fields, operator, query⟩ =>
    Laid [⟨"kind", (· = tagOf JoinKind.names kind), False⟩,
      ⟨"fields", Listed (fields.map pairForm), fields = []⟩,
      ⟨"operator", (· = tagOf JoinOperator.names operator), operator = .equal⟩,
      ⟨"query", Laid query.slots, False⟩]
termination_by structural join

/-- The forms of some joins. -/
def joinForms (joins : List Join) : List (Json → Prop) :=
  match joins with
  | [] => []
  | join :: rest => join.Form :: joinForms rest
termination_by structural joins

/-- The forms of a set operation. -/
def Combine.Form (combine : Combine) : Json → Prop :=
  match combine with
  | ⟨kind, query⟩ =>
    Laid [⟨"kind", (· = tagOf CombineKind.names kind), False⟩, ⟨"query", Laid query.slots, False⟩]
termination_by structural combine

/-- The forms of some set operations. -/
def combineForms (combines : List Combine) : List (Json → Prop) :=
  match combines with
  | [] => []
  | combine :: rest => combine.Form :: combineForms rest
termination_by structural combines

/-- The forms of a script with its bindings. -/
def TextScript.Form (text : TextScript) : Json → Prop :=
  match text with
  | ⟨script, ⟨parameters⟩⟩ =>
    Laid [⟨"script", (· = .string script), False⟩,
      ⟨"parameters", Listed (parameterForms parameters), parameters = []⟩]
termination_by structural text

/-- The forms of a script that may be absent. -/
def textForm (text : Option TextScript) : Json → Prop :=
  match text with
  | none => (· = .null)
  | some text => text.Form
termination_by structural text

/-- The slots of a query; every member may be left out where it holds its default. -/
def Query.slots (query : Query) : List Slot :=
  match query with
  | { entity, conditions, sorts, joins, combines, recursion, fields, distinct, groupBy, having,
      size, paging, output, text } =>
    [⟨"entity", (· = .string entity), entity = ""⟩,
      ⟨"conditions", Listed (entryForms conditions), conditions = []⟩,
      ⟨"sorts", Listed (sortForms sorts), sorts = []⟩,
      ⟨"joins", Listed (joinForms joins), joins = []⟩,
      ⟨"combines", Listed (combineForms combines), combines = []⟩,
      ⟨"recursion", optionForm Recursion.Form recursion, recursion = none⟩,
      ⟨"fields", Listed (fields.map fun field json => json = .string field), fields = []⟩,
      ⟨"distinct", (· = .bool distinct), distinct = false⟩,
      ⟨"group_by", Listed (groupBy.map fun field json => json = .string field), groupBy = []⟩,
      ⟨"having", Listed (entryForms having), having = []⟩,
      ⟨"size", (· = ofNat size.toNat), size = 0⟩,
      ⟨"paging", optionForm Paging.Form paging, paging = none⟩,
      ⟨"output", output.Form, output = .rows⟩,
      ⟨"text", textForm text, text = none⟩]
termination_by structural query
end

/-- The forms of a query. -/
def Query.Form (query : Query) : Json → Prop := Laid query.slots

/-! ## Parts that hold no queries -/

theorem Date.decodes (date : Date) (bound : Nat) :
    Decodes (fun json => do Date.parse? (← json.string?)) (· = .string date.render) bound date :=
  decodes_of_eq (by simp only [string?, Option.bind_eq_bind, Option.bind_some, parse?_render])

theorem DateTime.decodes (moment : DateTime) (bound : Nat) :
    Decodes (fun json => do DateTime.parse? (← json.string?)) (· = .string (moment.render "T"))
      bound moment :=
  decodes_of_eq (by simp only [string?, Option.bind_eq_bind, Option.bind_some, parse?_render])

theorem Uuid.decodes (id : Uuid) (bound : Nat) :
    Decodes (fun json => do Uuid.parse? (← json.string?)) (· = .string id.render) bound id :=
  decodes_of_eq (by simp only [string?, Option.bind_eq_bind, Option.bind_some, parse?_render])

theorem Paging.decodes (paging : Paging) (fuel : Nat) :
    Decodes Codec.paging? paging.Form fuel paging := by
  refine decodes_laid (fun _ => Codec.paging?) fun left members hbound hslots => ?_
  simp only [List.forall_mem_cons] at hslots
  obtain ⟨hoffset, hsize, -⟩ := hslots
  have hoffset := hoffset.required (decodes_uint64 paging.offset) hbound
  have hsize := hsize.required (decodes_uint64 paging.size) hbound
  rw [Codec.paging?]
  exact read_bind rfl <| read_bind hoffset <| read_bind hsize rfl

theorem Recursion.decodes (recursion : Recursion) (fuel : Nat) :
    Decodes Codec.recursion? recursion.Form fuel recursion := by
  obtain ⟨key, relation, direction⟩ := recursion
  refine decodes_laid (fun _ => Codec.recursion?) fun left members hbound hslots => ?_
  simp only [List.forall_mem_cons] at hslots
  obtain ⟨hkey, hrelation, hdirection, -⟩ := hslots
  have hkey := hkey.required (decodes_string key) hbound
  have hrelation := hrelation.required (decodes_string relation) hbound
  have hdirection := hdirection.required
    (decodes_name direction (by cases direction <;> rfl)) hbound
  rw [Codec.recursion?]
  exact read_bind rfl <| read_bind hkey <| read_bind hrelation <| read_bind hdirection rfl

theorem Output.decodes (output : Output) (bound : Nat) :
    Decodes Codec.output? output.Form bound output := by
  cases output with
  | aggregate function =>
    rintro _ - ⟨_, rfl, rfl⟩
    cases function <;> rfl
  | _ => exact decodes_of_eq rfl

theorem pair_decodes (pair : String × String) (bound : Nat) :
    Decodes Codec.pair? (pairForm pair) bound pair :=
  (decodes_string pair.1).paired (decodes_string pair.2)

/-! ## One level of a query

What holds a part of a query is decoded if the part is, with whatever fuel. -/

/-- A value that holds no values. -/
theorem Value.leaf_decodes {value : Value} (hcollection : ∀ items, value ≠ .collection items)
    (hsubquery : ∀ query, value ≠ .subquery query) (fuel : Nat) :
    Decodes (Codec.value? fuel) value.Form fuel value := by
  cases value with
  | null => exact decodes_fueled Codec.value? fun _ => rfl
  | bool b =>
    exact decodes_tagged Codec.value? Value.bool (fun _ => decodes_bool b) fun _ _ => rfl
  | int n => exact decodes_tagged Codec.value? Value.int (fun _ => decodes_int64 n) fun _ _ => rfl
  | float x =>
    have hcontent : ∀ left, Decodes float?
        (fun json => x.isFinite = true ∧ json = .number (.real x)) left x := by
      rintro _ _ - ⟨-, rfl⟩
      rfl
    exact decodes_tagged Codec.value? Value.float hcontent fun _ _ => rfl
  | text s =>
    exact decodes_tagged Codec.value? Value.text (fun _ => decodes_string s) fun _ _ => rfl
  | date day =>
    exact decodes_tagged Codec.value? Value.date (Date.decodes day) fun _ content => by
      cases content <;> rfl
  | dateTime moment =>
    exact decodes_tagged Codec.value? Value.dateTime (DateTime.decodes moment) fun _ content => by
      cases content <;> rfl
  | interval n =>
    exact decodes_tagged Codec.value? Value.interval (fun _ => decodes_int64 n) fun _ _ => rfl
  | uuid id =>
    exact decodes_tagged Codec.value? Value.uuid (Uuid.decodes id) fun _ content => by
      cases content <;> rfl
  | bytes octets =>
    have hoctets : ∀ left, Decodes (list? octet?)
        (Listed (octets.map fun b json => json = ofNat b.toNat)) left octets := fun left =>
      (decodesAll_map fun octet _ => decodes_octet octet).listed
    exact decodes_tagged Codec.value? Value.bytes hoctets fun _ _ => rfl
  | collection items => exact absurd rfl (hcollection items)
  | subquery query => exact absurd rfl (hsubquery query)

theorem Value.collection_decodes {items : List Value} (fuel : Nat)
    (h : ∀ left, DecodesAll (Codec.value? left) (valueForms items) left items) :
    Decodes (Codec.value? fuel) (Value.Form (.collection items)) fuel (.collection items) :=
  decodes_tagged Codec.value? Value.collection (fun left => (h left).listed) fun _ _ => rfl

theorem Value.subquery_decodes {query : Query} (fuel : Nat)
    (h : ∀ left, Decodes (Codec.query? left) query.Form left query) :
    Decodes (Codec.value? fuel) (Value.Form (.subquery query)) fuel (.subquery query) :=
  decodes_tagged Codec.value? Value.subquery h fun _ _ => rfl

theorem Parameter.level_decodes {name : String} {value : Value} {direction : Direction} (fuel : Nat)
    (h : ∀ left, Decodes (Codec.value? left) value.Form left value) :
    Decodes (Codec.parameter? fuel) (Parameter.Form ⟨name, value, direction⟩) fuel
      ⟨name, value, direction⟩ := by
  refine decodes_laid Codec.parameter? fun left members hbound hslots => ?_
  simp only [List.forall_mem_cons] at hslots
  obtain ⟨hname, hvalue, hdirection, -⟩ := hslots
  have hname := hname.required (decodes_string name) hbound
  have hvalue := hvalue.required (h left) hbound
  have hdirection := hdirection.optional
    (decodes_name direction (by cases direction <;> rfl)) hbound
  rw [Codec.parameter?]
  exact read_bind rfl <| read_bind hname <| read_bind hvalue <| read_bind hdirection rfl

theorem Conversion.operand_decodes {function : OperandFunction} {value : Value} (fuel : Nat)
    (h : ∀ left, Decodes (Codec.value? left) value.Form left value) :
    Decodes (Codec.conversion? fuel) (Conversion.Form (.operand function value)) fuel
      (.operand function value) := by
  refine decodes_tagged Codec.conversion? (Conversion.operand function) h fun left content => ?_
  cases function <;> rfl

theorem Conversion.plain_decodes {conversion : Conversion} (fuel : Nat)
    (hplain : ∀ function value, conversion ≠ .operand function value) :
    Decodes (Codec.conversion? fuel) conversion.Form fuel conversion := by
  cases conversion with
  | column function =>
    refine decodes_fueled Codec.conversion? fun left => ?_
    cases function <;> rfl
  | path function path =>
    refine decodes_tagged Codec.conversion? (Conversion.path function)
      (fun _ => decodes_string path) fun left content => ?_
    cases function <;> rfl
  | operand function value => exact absurd rfl (hplain function value)

theorem Conversion.decodes_nullable {conversion : Conversion} {fuel : Nat}
    (h : Decodes (Codec.conversion? fuel) conversion.Form fuel conversion) :
    Decodes (nullable? (Codec.conversion? fuel)) conversion.Form fuel (some conversion) :=
  h.nullable (by cases fuel <;> rfl)

theorem Criterion.level_decodes {field : String} {operator : Operator} {value : Value}
    {conversion : Option Conversion} (fuel : Nat)
    (hvalue : ∀ left, Decodes (Codec.value? left) value.Form left value)
    (hconversion : ∀ left,
      Decodes (nullable? (Codec.conversion? left)) (conversionForm conversion) left conversion) :
    Decodes (Codec.criterion? fuel) (Criterion.Form ⟨field, operator, value, conversion⟩) fuel
      ⟨field, operator, value, conversion⟩ := by
  refine decodes_laid Codec.criterion? fun left members hbound hslots => ?_
  simp only [List.forall_mem_cons] at hslots
  obtain ⟨hfield, hoperator, hslot, hoption, -⟩ := hslots
  have hfield := hfield.required (decodes_string field) hbound
  have hoperator := hoperator.required (decodes_name operator (by cases operator <;> rfl)) hbound
  have hvalue := hslot.required (hvalue left) hbound
  have hconversion := hoption.optional (hconversion left) hbound
  rw [Codec.criterion?]
  exact read_bind rfl <| read_bind hfield <| read_bind hoperator <| read_bind hvalue <|
    read_bind hconversion rfl

theorem Condition.criterion_decodes {criterion : Criterion} (fuel : Nat)
    (h : ∀ left, Decodes (Codec.criterion? left) criterion.Form left criterion) :
    Decodes (Codec.condition? fuel) (Condition.Form (.criterion criterion)) fuel
      (.criterion criterion) :=
  decodes_tagged Codec.condition? Condition.criterion h fun _ _ => rfl

theorem Condition.group_decodes {entries : List ConditionEntry} (fuel : Nat)
    (h : ∀ left, DecodesAll (Codec.sibling? left) (entryForms entries) left entries) :
    Decodes (Codec.condition? fuel) (Condition.Form (.group entries)) fuel (.group entries) :=
  decodes_tagged Codec.condition? Condition.group (fun left => (h left).listed) fun _ _ => rfl

theorem Condition.constant_decodes (holds : Bool) (fuel : Nat) :
    Decodes (Codec.condition? fuel) (Condition.Form (.constant holds)) fuel (.constant holds) :=
  decodes_tagged Codec.condition? Condition.constant (fun _ => decodes_bool holds) fun _ _ => rfl

theorem ConditionEntry.level_decodes {connector : LogicalOp} {condition : Condition} (fuel : Nat)
    (h : ∀ left, Decodes (Codec.condition? left) condition.Form left condition) :
    Decodes (Codec.sibling? fuel) (ConditionEntry.Form ⟨connector, condition⟩) fuel
      ⟨connector, condition⟩ := by
  refine decodes_laid Codec.sibling? fun left members hbound hslots => ?_
  simp only [List.forall_mem_cons] at hslots
  obtain ⟨hconnector, hcondition, -⟩ := hslots
  have hconnector := hconnector.required
    (decodes_name connector (by cases connector <;> rfl)) hbound
  have hcondition := hcondition.required (h left) hbound
  rw [Codec.sibling?]
  exact read_bind rfl <| read_bind hconnector <| read_bind hcondition rfl

theorem SortKey.level_decodes {field : String} {order : SortOrder} {conversion : Option Conversion}
    (fuel : Nat)
    (h : ∀ left,
      Decodes (nullable? (Codec.conversion? left)) (conversionForm conversion) left conversion) :
    Decodes (Codec.sortKey? fuel) (SortKey.Form ⟨field, order, conversion⟩) fuel
      ⟨field, order, conversion⟩ := by
  refine decodes_laid Codec.sortKey? fun left members hbound hslots => ?_
  simp only [List.forall_mem_cons] at hslots
  obtain ⟨hfield, horder, hconversion, -⟩ := hslots
  have hfield := hfield.required (decodes_string field) hbound
  have horder := horder.required (decodes_name order (by cases order <;> rfl)) hbound
  have hconversion := hconversion.optional (h left) hbound
  rw [Codec.sortKey?]
  exact read_bind rfl <| read_bind hfield <| read_bind horder <| read_bind hconversion rfl

theorem Join.level_decodes {kind : JoinKind} {fields : List (String × String)}
    {operator : JoinOperator} {query : Query} (fuel : Nat)
    (h : ∀ left, Decodes (Codec.query? left) query.Form left query) :
    Decodes (Codec.join? fuel) (Join.Form ⟨kind, fields, operator, query⟩) fuel
      ⟨kind, fields, operator, query⟩ := by
  refine decodes_laid Codec.join? fun left members hbound hslots => ?_
  simp only [List.forall_mem_cons] at hslots
  obtain ⟨hkind, hfields, hoperator, hquery, -⟩ := hslots
  have hkind := hkind.required (decodes_name kind (by cases kind <;> rfl)) hbound
  have hfields := hfields.optional
    (decodesAll_map fun pair _ => pair_decodes pair left).listed hbound
  have hoperator := hoperator.optional (decodes_name operator (by cases operator <;> rfl)) hbound
  have hquery := hquery.required (h left) hbound
  rw [Codec.join?]
  exact read_bind rfl <| read_bind hkind <| read_bind hfields <| read_bind hoperator <|
    read_bind hquery rfl

theorem Combine.level_decodes {kind : CombineKind} {query : Query} (fuel : Nat)
    (h : ∀ left, Decodes (Codec.query? left) query.Form left query) :
    Decodes (Codec.combine? fuel) (Combine.Form ⟨kind, query⟩) fuel ⟨kind, query⟩ := by
  refine decodes_laid Codec.combine? fun left members hbound hslots => ?_
  simp only [List.forall_mem_cons] at hslots
  obtain ⟨hkind, hquery, -⟩ := hslots
  have hkind := hkind.required (decodes_name kind (by cases kind <;> rfl)) hbound
  have hquery := hquery.required (h left) hbound
  rw [Codec.combine?]
  exact read_bind rfl <| read_bind hkind <| read_bind hquery rfl

theorem TextScript.level_decodes {script : String} {parameters : List Parameter} (fuel : Nat)
    (h : ∀ left, DecodesAll (Codec.parameter? left) (parameterForms parameters) left parameters) :
    Decodes (Codec.textScript? fuel) (TextScript.Form ⟨script, ⟨parameters⟩⟩) fuel
      ⟨script, ⟨parameters⟩⟩ := by
  refine decodes_laid Codec.textScript? fun left members hbound hslots => ?_
  simp only [List.forall_mem_cons] at hslots
  obtain ⟨hscript, hparameters, -⟩ := hslots
  have hscript := hscript.required (decodes_string script) hbound
  have hparameters := hparameters.optional (h left).listed hbound
  rw [Codec.textScript?]
  exact read_bind rfl <| read_bind hscript <| read_bind hparameters rfl

theorem TextScript.decodes_nullable {text : TextScript} {fuel : Nat}
    (h : Decodes (Codec.textScript? fuel) text.Form fuel text) :
    Decodes (nullable? (Codec.textScript? fuel)) text.Form fuel (some text) :=
  h.nullable (by cases fuel <;> rfl)

theorem texts_decode (texts : List String) (bound : Nat) :
    Decodes (list? string?) (Listed (texts.map fun text json => json = .string text)) bound texts :=
  (decodesAll_map fun text _ => decodes_string text).listed

theorem Query.level_decodes {query : Query} (fuel : Nat)
    (hconditions : ∀ left,
      DecodesAll (Codec.sibling? left) (entryForms query.conditions) left query.conditions)
    (hsorts : ∀ left, DecodesAll (Codec.sortKey? left) (sortForms query.sorts) left query.sorts)
    (hjoins : ∀ left, DecodesAll (Codec.join? left) (joinForms query.joins) left query.joins)
    (hcombines : ∀ left,
      DecodesAll (Codec.combine? left) (combineForms query.combines) left query.combines)
    (hhaving : ∀ left, DecodesAll (Codec.sibling? left) (entryForms query.having) left query.having)
    (htext : ∀ left,
      Decodes (nullable? (Codec.textScript? left)) (textForm query.text) left query.text) :
    Decodes (Codec.query? fuel) query.Form fuel query := by
  obtain ⟨entity, conditions, sorts, joins, combines, recursion, fields, distinct, groupBy, having,
    size, paging, output, text⟩ := query
  refine decodes_laid Codec.query? fun left members hbound hslots => ?_
  simp only [Query.slots, List.forall_mem_cons] at hslots
  obtain ⟨atEntity, atConditions, atSorts, atJoins, atCombines, atRecursion, atFields, atDistinct,
    atGroupBy, atHaving, atSize, atPaging, atOutput, atText, -⟩ := hslots
  have atEntity := atEntity.optional (decodes_string entity) hbound
  have atConditions := atConditions.optional (hconditions left).listed hbound
  have atSorts := atSorts.optional (hsorts left).listed hbound
  have atJoins := atJoins.optional (hjoins left).listed hbound
  have atCombines := atCombines.optional (hcombines left).listed hbound
  have atRecursion := atRecursion.optional
    (decodes_option (fun datum => datum.decodes left) rfl) hbound
  have atFields := atFields.optional (texts_decode fields left) hbound
  have atDistinct := atDistinct.optional (decodes_bool distinct) hbound
  have atGroupBy := atGroupBy.optional (texts_decode groupBy left) hbound
  have atHaving := atHaving.optional (hhaving left).listed hbound
  have atSize := atSize.optional (decodes_uint64 size) hbound
  have atPaging := atPaging.optional (decodes_option (fun datum => datum.decodes left) rfl) hbound
  have atOutput := atOutput.optional (output.decodes left) hbound
  have atText := atText.optional (htext left) hbound
  rw [Codec.query?]
  exact read_bind rfl <| read_bind atEntity <| read_bind atConditions <| read_bind atSorts <|
    read_bind atJoins <| read_bind atCombines <| read_bind atRecursion <| read_bind atFields <|
    read_bind atDistinct <| read_bind atGroupBy <| read_bind atHaving <| read_bind atSize <|
    read_bind atPaging <| read_bind atOutput <| read_bind atText rfl

/-! ## All levels of a query -/

mutual

theorem Value.decodes (value : Value) (fuel : Nat) :
    Decodes (Codec.value? fuel) value.Form fuel value :=
  match value with
  | .collection items => Value.collection_decodes fuel fun left => valueForms_decode items left
  | .subquery query => Value.subquery_decodes fuel fun left => Query.decodes query left
  | .null | .bool _ | .int _ | .float _ | .text _ | .date _ | .dateTime _ | .interval _ | .uuid _
  | .bytes _ => Value.leaf_decodes (by nofun) (by nofun) fuel
termination_by structural value

theorem valueForms_decode (values : List Value) (fuel : Nat) :
    DecodesAll (Codec.value? fuel) (valueForms values) fuel values :=
  match values with
  | [] => decodesAll_nil
  | value :: rest => .cons (Value.decodes value fuel) (valueForms_decode rest fuel)
termination_by structural values

theorem Parameter.decodes (parameter : Parameter) (fuel : Nat) :
    Decodes (Codec.parameter? fuel) parameter.Form fuel parameter :=
  match parameter with
  | ⟨_, value, _⟩ => Parameter.level_decodes fuel fun left => Value.decodes value left
termination_by structural parameter

theorem parameterForms_decode (parameters : List Parameter) (fuel : Nat) :
    DecodesAll (Codec.parameter? fuel) (parameterForms parameters) fuel parameters :=
  match parameters with
  | [] => decodesAll_nil
  | parameter :: rest =>
    .cons (Parameter.decodes parameter fuel) (parameterForms_decode rest fuel)
termination_by structural parameters

theorem Conversion.decodes (conversion : Conversion) (fuel : Nat) :
    Decodes (Codec.conversion? fuel) conversion.Form fuel conversion :=
  match conversion with
  | .operand _ value => Conversion.operand_decodes fuel fun left => Value.decodes value left
  | .column _ | .path _ _ => Conversion.plain_decodes fuel (by nofun)
termination_by structural conversion

theorem conversionForm_decodes (conversion : Option Conversion) (fuel : Nat) :
    Decodes (nullable? (Codec.conversion? fuel)) (conversionForm conversion) fuel conversion :=
  match conversion with
  | none => decodes_null
  | some conversion => Conversion.decodes_nullable (Conversion.decodes conversion fuel)
termination_by structural conversion

theorem Condition.decodes (condition : Condition) (fuel : Nat) :
    Decodes (Codec.condition? fuel) condition.Form fuel condition :=
  match condition with
  | .criterion criterion =>
    Condition.criterion_decodes fuel fun left => Criterion.decodes criterion left
  | .group entries => Condition.group_decodes fuel fun left => entryForms_decode entries left
  | .constant holds => Condition.constant_decodes holds fuel
termination_by structural condition

theorem Criterion.decodes (criterion : Criterion) (fuel : Nat) :
    Decodes (Codec.criterion? fuel) criterion.Form fuel criterion :=
  match criterion with
  | ⟨_, _, value, conversion⟩ =>
    Criterion.level_decodes fuel (fun left => Value.decodes value left) fun left =>
      conversionForm_decodes conversion left
termination_by structural criterion

theorem ConditionEntry.decodes (entry : ConditionEntry) (fuel : Nat) :
    Decodes (Codec.sibling? fuel) entry.Form fuel entry :=
  match entry with
  | ⟨_, condition⟩ =>
    ConditionEntry.level_decodes fuel fun left => Condition.decodes condition left
termination_by structural entry

theorem entryForms_decode (entries : List ConditionEntry) (fuel : Nat) :
    DecodesAll (Codec.sibling? fuel) (entryForms entries) fuel entries :=
  match entries with
  | [] => decodesAll_nil
  | entry :: rest => .cons (ConditionEntry.decodes entry fuel) (entryForms_decode rest fuel)
termination_by structural entries

theorem SortKey.decodes (sort : SortKey) (fuel : Nat) :
    Decodes (Codec.sortKey? fuel) sort.Form fuel sort :=
  match sort with
  | ⟨_, _, conversion⟩ =>
    SortKey.level_decodes fuel fun left => conversionForm_decodes conversion left
termination_by structural sort

theorem sortForms_decode (sorts : List SortKey) (fuel : Nat) :
    DecodesAll (Codec.sortKey? fuel) (sortForms sorts) fuel sorts :=
  match sorts with
  | [] => decodesAll_nil
  | sort :: rest => .cons (SortKey.decodes sort fuel) (sortForms_decode rest fuel)
termination_by structural sorts

theorem Join.decodes (join : Join) (fuel : Nat) :
    Decodes (Codec.join? fuel) join.Form fuel join :=
  match join with
  | ⟨_, _, _, query⟩ => Join.level_decodes fuel fun left => Query.decodes query left
termination_by structural join

theorem joinForms_decode (joins : List Join) (fuel : Nat) :
    DecodesAll (Codec.join? fuel) (joinForms joins) fuel joins :=
  match joins with
  | [] => decodesAll_nil
  | join :: rest => .cons (Join.decodes join fuel) (joinForms_decode rest fuel)
termination_by structural joins

theorem Combine.decodes (combine : Combine) (fuel : Nat) :
    Decodes (Codec.combine? fuel) combine.Form fuel combine :=
  match combine with
  | ⟨_, query⟩ => Combine.level_decodes fuel fun left => Query.decodes query left
termination_by structural combine

theorem combineForms_decode (combines : List Combine) (fuel : Nat) :
    DecodesAll (Codec.combine? fuel) (combineForms combines) fuel combines :=
  match combines with
  | [] => decodesAll_nil
  | combine :: rest => .cons (Combine.decodes combine fuel) (combineForms_decode rest fuel)
termination_by structural combines

theorem TextScript.decodes (text : TextScript) (fuel : Nat) :
    Decodes (Codec.textScript? fuel) text.Form fuel text :=
  match text with
  | ⟨_, ⟨parameters⟩⟩ =>
    TextScript.level_decodes fuel fun left => parameterForms_decode parameters left
termination_by structural text

theorem textForm_decodes (text : Option TextScript) (fuel : Nat) :
    Decodes (nullable? (Codec.textScript? fuel)) (textForm text) fuel text :=
  match text with
  | none => decodes_null
  | some text => TextScript.decodes_nullable (TextScript.decodes text fuel)
termination_by structural text

theorem Query.decodes (query : Query) (fuel : Nat) :
    Decodes (Codec.query? fuel) query.Form fuel query :=
  match query with
  | { conditions, sorts, joins, combines, having, text, .. } =>
    Query.level_decodes fuel (fun left => entryForms_decode conditions left)
      (fun left => sortForms_decode sorts left) (fun left => joinForms_decode joins left)
      (fun left => combineForms_decode combines left) (fun left => entryForms_decode having left)
      fun left => textForm_decodes text left
termination_by structural query

end

end QueryLoom
