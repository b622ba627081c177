import QueryLoom.Proofs.QueryForms

/-!
# Encodings as forms

What is written for a query is one of its forms, as long as every number in it is finite. A number
that is not is written as `null`, which no number is read from.
-/

namespace QueryLoom

open Json

/-! ## Finite numbers -/

mutual
/-- Every number in a value is finite. -/
def Value.Finite (value : Value) : Prop :=
  match value with
  | .float x => x.isFinite = true
  | .collection items => valuesFinite items
  | .subquery query => query.Finite
  | _ => True
termination_by structural value

/-- Every number in some values is finite. -/
def valuesFinite (values : List Value) : Prop :=
  match values with
  | [] => True
  | value :: rest => value.Finite ∧ valuesFinite rest
termination_by structural values

/-- Every number in a parameter is finite. -/
def Parameter.Finite (parameter : Parameter) : Prop :=
  match parameter with
  | ⟨_, value, _⟩ => value.Finite
termination_by structural parameter

/-- Every number in some parameters is finite. -/
def parametersFinite (parameters : List Parameter) : Prop :=
  match parameters with
  | [] => True
  | parameter :: rest => parameter.Finite ∧ parametersFinite rest
termination_by structural parameters

/-- Every number in a conversion is finite. -/
def Conversion.Finite (conversion : Conversion) : Prop :=
  match conversion with
  | .operand _ value => value.Finite
  | _ => True
termination_by structural conversion

/-- Every number in a conversion that may be absent is finite. -/
def conversionFinite (conversion : Option Conversion) : Prop :=
  match conversion with
  | none => True
  | some conversion => conversion.Finite
termination_by structural conversion

/-- Every number in a condition is finite. -/
def Condition.Finite (condition : Condition) : Prop :=
  match condition with
  | .criterion criterion => criterion.Finite
  | .group entries => entriesFinite entries
  | .constant _ => True
termination_by structural condition

/-- Every number in a comparison is finite. -/
def Criterion.Finite (criterion : Criterion) : Prop :=
  match criterion with
  | ⟨_, _, value, conversion⟩ => value.Finite ∧ conversionFinite conversion
termination_by structural criterion

/-- Every number in a condition with its connective is finite. -/
def ConditionEntry.Finite (entry : ConditionEntry) : Prop :=
  match entry with
  | ⟨_, condition⟩ => condition.Finite
termination_by structural entry

/-- Every number in some conditions is finite. -/
def entriesFinite (entries : List ConditionEntry) : Prop :=
  match entries with
  | [] => True
  | entry :: rest => entry.Finite ∧ entriesFinite rest
termination_by structural entries

/-- Every number in some sort keys is finite. -/
def SortKey.Finite (sort : SortKey) : Prop :=
  match sort with
  | ⟨_, _, conversion⟩ => conversionFinite conversion
termination_by structural sort

/-- Every number in some sort keys is finite. -/
def sortsFinite (sorts : List SortKey) : Prop :=
  match sorts with
  | [] => True
  | sort :: rest => sort.Finite ∧ sortsFinite rest
termination_by structural sorts

/-- Every number in a join is finite. -/
def Join.Finite (join : Join) : Prop :=
  match join with
  | ⟨_, _, _, query⟩ => query.Finite
termination_by structural join

/-- Every number in some joins is finite. -/
def joinsFinite (joins : List Join) : Prop :=
  match joins with
  | [] => True
  | join :: rest => join.Finite ∧ joinsFinite rest
termination_by structural joins

/-- Every number in a set operation is finite. -/
def Combine.Finite (combine : Combine) : Prop :=
  match combine with
  | ⟨_, query⟩ => query.Finite
termination_by structural combine

/-- Every number in some set operations is finite. -/
def combinesFinite (combines : List Combine) : Prop :=
  match combines with
  | [] => True
  | combine :: rest => combine.Finite ∧ combinesFinite rest
termination_by structural combines

/-- Every number that is bound to a script is finite. -/
def TextScript.Finite (text : TextScript) : Prop :=
  match text with
  | ⟨_, ⟨parameters⟩⟩ => parametersFinite parameters
termination_by structural text

/-- Every number that is bound to a script that may be absent is finite. -/
def textFinite (text : Option TextScript) : Prop :=
  match text with
  | none => True
  | some text => text.Finite
termination_by structural text

/-- Every number in a query is finite. -/
def Query.Finite (query : Query) : Prop :=
  match query with
  | { conditions, sorts, joins, combines, having, text, .. } =>
    entriesFinite conditions ∧ sortsFinite sorts ∧ joinsFinite joins ∧ combinesFinite combines ∧
      entriesFinite having ∧ textFinite text
termination_by structural query
end

/-! ## Encodings -/

theorem Paging.form_json (paging : Paging) : paging.Form (Codec.pagingJson paging) :=
  laid_object (by simp) (.cons ⟨rfl, rfl⟩ (.cons ⟨rfl, rfl⟩ .nil))

theorem Recursion.form_json (recursion : Recursion) :
    recursion.Form (Codec.recursionJson recursion) :=
  laid_object (by simp) (.cons ⟨rfl, rfl⟩ (.cons ⟨rfl, rfl⟩ (.cons ⟨rfl, rfl⟩ .nil)))

theorem Output.form_json (output : Output) : output.Form (Codec.outputJson output) := by
  cases output with
  | aggregate function => exact ⟨_, rfl, rfl⟩
  | _ => exact rfl

theorem texts_json (texts : List String) :
    Listed (texts.map fun text json => json = .string text) (ofStrings texts) :=
  listed_map fun _ _ => rfl

mutual

theorem Value.form_json (value : Value) (h : value.Finite) : value.Form (Codec.valueJson value) :=
  match value, h with
  | .null, _ => rfl
  | .bool _, _ | .int _, _ | .text _, _ | .date _, _ | .dateTime _, _ | .interval _, _
  | .uuid _, _ => ⟨_, rfl, rfl⟩
  | .float _, h => ⟨_, rfl, h, if_pos h⟩
  | .bytes _, _ => ⟨_, rfl, listed_map fun _ _ => rfl⟩
  | .collection items, h => ⟨_, rfl, _, rfl, valueForms_json items h⟩
  | .subquery query, h => ⟨_, rfl, Query.form_json query h⟩
termination_by structural value

theorem valueForms_json (values : List Value) (h : valuesFinite values) :
    List.Forall₂ (fun form item => form item) (valueForms values) (Codec.valuesJson values) :=
  match values, h with
  | [], _ => .nil
  | value :: rest, h => .cons (Value.form_json value h.1) (valueForms_json rest h.2)
termination_by structural values

theorem parameterForms_json (parameters : List Parameter) (h : parametersFinite parameters) :
    List.Forall₂ (fun form item => form item) (parameterForms parameters)
      (Codec.parameterListJson parameters) :=
  match parameters, h with
  | [], _ => .nil
  | ⟨_, value, _⟩ :: rest, h => by
    have hvalue := Value.form_json value h.1
    refine .cons (laid_object (by simp) ?_) (parameterForms_json rest h.2)
    exact .cons ⟨rfl, rfl⟩ (.cons ⟨rfl, hvalue⟩ (.cons ⟨rfl, rfl⟩ .nil))
termination_by structural parameters

theorem Conversion.form_json (conversion : Conversion) (h : conversion.Finite) :
    conversion.Form (Codec.conversionJson conversion) :=
  match conversion, h with
  | .column _, _ => rfl
  | .path _ _, _ => ⟨_, rfl, rfl⟩
  | .operand _ value, h => ⟨_, rfl, Value.form_json value h⟩
termination_by structural conversion

theorem conversionForm_json (conversion : Option Conversion) (h : conversionFinite conversion) :
    conversionForm conversion (Codec.conversionOptionJson conversion) :=
  match conversion, h with
  | none, _ => rfl
  | some conversion, h => Conversion.form_json conversion h
termination_by structural conversion

theorem Condition.form_json (condition : Condition) (h : condition.Finite) :
    condition.Form (Codec.conditionJson condition) :=
  match condition, h with
  | .criterion criterion, h => ⟨_, rfl, Criterion.form_json criterion h⟩
  | .group entries, h => ⟨_, rfl, _, rfl, entryForms_json entries h⟩
  | .constant _, _ => ⟨_, rfl, rfl⟩
termination_by structural condition

theorem Criterion.form_json (criterion : Criterion) (h : criterion.Finite) :
    criterion.Form (Codec.criterionJson criterion) :=
  match criterion, h with
  | ⟨_, _, value, conversion⟩, h => by
    have hvalue := Value.form_json value h.1
    have hconversion := conversionForm_json conversion h.2
    refine laid_object (by simp) ?_
    exact .cons ⟨rfl, rfl⟩ (.cons ⟨rfl, rfl⟩ (.cons ⟨rfl, hvalue⟩ (.cons ⟨rfl, hconversion⟩ .nil)))
termination_by structural criterion

theorem entryForms_json (entries : List ConditionEntry) (h : entriesFinite entries) :
    List.Forall₂ (fun form item => form item) (entryForms entries) (Codec.entriesJson entries) :=
  match entries, h with
  | [], _ => .nil
  | ⟨_, condition⟩ :: rest, h => by
    have hcondition := Condition.form_json condition h.1
    refine .cons (laid_object (by simp) ?_) (entryForms_json rest h.2)
    exact .cons ⟨rfl, rfl⟩ (.cons ⟨rfl, hcondition⟩ .nil)
termination_by structural entries

theorem sortForms_json (sorts : List SortKey) (h : sortsFinite sorts) :
    List.Forall₂ (fun form item => form item) (sortForms sorts) (Codec.sortsJson sorts) :=
  match sorts, h with
  | [], _ => .nil
  | ⟨_, _, conversion⟩ :: rest, h => by
    have hconversion := conversionForm_json conversion h.1
    refine .cons (laid_object (by simp) ?_) (sortForms_json rest h.2)
    exact .cons ⟨rfl, rfl⟩ (.cons ⟨rfl, rfl⟩ (.cons ⟨rfl, hconversion⟩ .nil))
termination_by structural sorts

theorem joinForms_json (joins : List Join) (h : joinsFinite joins) :
    List.Forall₂ (fun form item => form item) (joinForms joins) (Codec.joinsJson joins) :=
  match joins, h with
  | [], _ => .nil
  | ⟨_, fields, _, query⟩ :: rest, h => by
    have hfields : Listed (fields.map pairForm) (ofList Codec.pairJson fields) :=
      listed_map fun _ _ => ⟨_, _, rfl, rfl, rfl⟩
    have hquery := Query.form_json query h.1
    refine .cons (laid_object (by simp) ?_) (joinForms_json rest h.2)
    exact .cons ⟨rfl, rfl⟩ (.cons ⟨rfl, hfields⟩ (.cons ⟨rfl, rfl⟩ (.cons ⟨rfl, hquery⟩ .nil)))
termination_by structural joins

theorem combineForms_json (combines : List Combine) (h : combinesFinite combines) :
    List.Forall₂ (fun form item => form item) (combineForms combines)
      (Codec.combinesJson combines) :=
  match combines, h with
  | [], _ => .nil
  | ⟨_, query⟩ :: rest, h => by
    have hquery := Query.form_json query h.1
    refine .cons (laid_object (by simp) ?_) (combineForms_json rest h.2)
    exact .cons ⟨rfl, rfl⟩ (.cons ⟨rfl, hquery⟩ .nil)
termination_by structural combines

theorem textForm_json (text : Option TextScript) (h : textFinite text) :
    textForm text (Codec.textJson text) :=
  match text, h with
  | none, _ => rfl
  | some ⟨_, ⟨parameters⟩⟩, h => by
    have hparameters := parameterForms_json parameters h
    refine laid_object (by simp) ?_
    exact .cons ⟨rfl, rfl⟩ (.cons ⟨rfl, _, rfl, hparameters⟩ .nil)
termination_by structural text

theorem Query.form_json (query : Query) (h : query.Finite) : query.Form (Codec.queryJson query) :=
  match query, h with
  | { conditions, sorts, joins, combines, recursion, fields, groupBy, having, paging, output,
      text, .. }, h => by
    obtain ⟨hconditions, hsorts, hjoins, hcombines, hhaving, htext⟩ := h
    have hconditions := entryForms_json conditions hconditions
    have hsorts := sortForms_json sorts hsorts
    have hjoins := joinForms_json joins hjoins
    have hcombines := combineForms_json combines hcombines
    have hhaving := entryForms_json having hhaving
    have htext := textForm_json text htext
    refine laid_object (by simp) ?_
    refine .cons ⟨rfl, rfl⟩ (.cons ⟨rfl, _, rfl, hconditions⟩ (.cons ⟨rfl, _, rfl, hsorts⟩ ?_))
    refine .cons ⟨rfl, _, rfl, hjoins⟩ (.cons ⟨rfl, _, rfl, hcombines⟩ ?_)
    refine .cons ⟨rfl, optionForm_json fun datum _ => datum.form_json⟩ ?_
    refine .cons ⟨rfl, texts_json fields⟩ ?_
    refine .cons ⟨rfl, rfl⟩ (.cons ⟨rfl, texts_json groupBy⟩ (.cons ⟨rfl, _, rfl, hhaving⟩ ?_))
    refine .cons ⟨rfl, rfl⟩ (.cons ⟨rfl, optionForm_json fun datum _ => datum.form_json⟩ ?_)
    exact .cons ⟨rfl, output.form_json⟩ (.cons ⟨rfl, htext⟩ .nil)
termination_by structural query

end

end QueryLoom
