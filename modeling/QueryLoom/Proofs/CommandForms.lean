import QueryLoom.Codec.Command
import QueryLoom.Proofs.EncodedForms

/-!
# Forms of commands in JSON

What JSON parameters and commands may stand as, that each form is read back as what it stands for,
and that what is written is a form. A command other than a text has to change a row unless its JSON
says otherwise.
-/

namespace QueryLoom

open Json

/-! ## Values and queries with all their levels -/

theorem Value.ofJson?_decodes (value : Value) (bound : Nat) :
    Decodes Value.ofJson? value.Form bound value :=
  fun json _ hform => Value.decodes value json.depth json (Nat.le_refl _) hform

theorem Query.ofJson?_decodes (query : Query) (bound : Nat) :
    Decodes Query.ofJson? query.Form bound query :=
  fun json _ hform => Query.decodes query json.depth json (Nat.le_refl _) hform

/-- The forms of parameters. -/
def Parameters.Form (parameters : Parameters) : Json → Prop :=
  Listed (parameterForms parameters.items)

theorem parameterForms_ofJson? (parameters : List Parameter) (bound : Nat) :
    DecodesAll (fun item => Codec.parameter? item.depth item) (parameterForms parameters) bound
      parameters := by
  induction parameters with
  | nil => exact decodesAll_nil
  | cons parameter rest ih =>
    refine .cons ?_ ih
    intro item _ hform
    exact Parameter.decodes parameter item.depth item (Nat.le_refl _) hform

theorem Parameters.ofJson?_decodes (parameters : Parameters) (bound : Nat) :
    Decodes Parameters.ofJson? parameters.Form bound parameters := by
  obtain ⟨items⟩ := parameters
  intro json hdepth hform
  have hitems := (parameterForms_ofJson? items bound).listed json hdepth hform
  simp only [Parameters.ofJson?, hitems, Option.bind_eq_bind, Option.bind_some, Option.pure_def]

/-- Every number in some parameters is finite. -/
def Parameters.Finite (parameters : Parameters) : Prop := parametersFinite parameters.items

theorem Parameters.form_json (parameters : Parameters) (h : parameters.Finite) :
    parameters.Form (Codec.parametersJson parameters) :=
  ⟨_, rfl, parameterForms_json parameters.items h⟩

/-! ## Assignments -/

/-- The forms of an assignment. -/
def Assignment.Form (assignment : Assignment) : Json → Prop :=
  match assignment with
  | .value assigned => Tagged "Value" assigned.Form
  | .calculate op operand =>
    Tagged "Calculate" (Laid [⟨"op", (· = tagOf CalculateOp.names op), False⟩,
      ⟨"value", operand.Form, False⟩])

/-- Every number in an assignment is finite. -/
def Assignment.Finite (assignment : Assignment) : Prop :=
  match assignment with
  | .value operand | .calculate _ operand => operand.Finite

theorem Assignment.decodes (assignment : Assignment) (bound : Nat) :
    Decodes Codec.assignment? assignment.Form bound assignment := by
  cases assignment with
  | value assigned =>
    exact decodes_tagged (fun _ => Codec.assignment?) Assignment.value assigned.ofJson?_decodes
      fun _ _ => rfl
  | calculate op operand =>
    rintro _ - ⟨_, rfl, members, rfl, -, hslots⟩
    simp only [List.forall_mem_cons] at hslots
    obtain ⟨hop, hvalue, -⟩ := hslots
    have hop := hop.required (decodes_name op (by cases op <;> rfl)) (Nat.le_refl _)
    have hvalue := hvalue.required (operand.ofJson?_decodes _) (Nat.le_refl _)
    simp only [Codec.assignment?, tagged, variant?, members?, Option.bind_eq_bind,
      Option.bind_some, hop, hvalue, Option.pure_def]

theorem Assignment.form_json (assignment : Assignment) (h : assignment.Finite) :
    assignment.Form (Codec.assignmentJson assignment) := by
  cases assignment with
  | value assigned => exact ⟨_, rfl, assigned.form_json h⟩
  | calculate op operand =>
    refine ⟨_, rfl, laid_object (by simp) ?_⟩
    exact .cons ⟨rfl, rfl⟩ (.cons ⟨rfl, operand.form_json h⟩ .nil)

/-! ## Commands -/

/-- The forms of an insertion. -/
def InsertCommand.Form (command : InsertCommand) : Json → Prop :=
  Laid [⟨"entity", (· = .string command.entity), False⟩,
    ⟨"values", Listed (command.values.map fun entry =>
      Paired (· = .string entry.1) entry.2.Form), False⟩,
    ⟨"must_affect_data", (· = .bool command.mustAffect), command.mustAffect = true⟩]

/-- The forms of an update. -/
def UpdateCommand.Form (command : UpdateCommand) : Json → Prop :=
  Laid [⟨"entity", (· = .string command.entity), False⟩,
    ⟨"assignments", Listed (command.assignments.map fun entry =>
      Paired (· = .string entry.1) entry.2.Form), False⟩,
    ⟨"query", optionForm Query.Form command.query, command.query = none⟩,
    ⟨"split_values", Listed (valueForms command.splitValues), command.splitValues = []⟩,
    ⟨"must_affect_data", (· = .bool command.mustAffect), command.mustAffect = true⟩]

/-- The forms of a deletion. -/
def DeleteCommand.Form (command : DeleteCommand) : Json → Prop :=
  Laid [⟨"entity", (· = .string command.entity), False⟩,
    ⟨"query", optionForm Query.Form command.query, command.query = none⟩,
    ⟨"split_values", Listed (valueForms command.splitValues), command.splitValues = []⟩,
    ⟨"must_affect_data", (· = .bool command.mustAffect), command.mustAffect = true⟩]

/-- The forms of a text command. -/
def TextCommand.Form (command : TextCommand) : Json → Prop :=
  Laid [⟨"script", (· = .string command.script), False⟩,
    ⟨"parameters", command.parameters.Form, command.parameters = ⟨[]⟩⟩,
    ⟨"kind", (· = tagOf ScriptKind.names command.kind), command.kind = .text⟩,
    ⟨"must_affect_data", (· = .bool command.mustAffect), command.mustAffect = false⟩]

/-- The forms of a command. -/
def Command.Form (command : Command) : Json → Prop :=
  match command with
  | .insert command => Tagged "Insert" command.Form
  | .update command => Tagged "Update" command.Form
  | .delete command => Tagged "Delete" command.Form
  | .text command => Tagged "Text" command.Form

/-- Every number in a command is finite. -/
def Command.Finite (command : Command) : Prop :=
  match command with
  | .insert command => ∀ entry ∈ command.values, entry.2.Finite
  | .update command => (∀ entry ∈ command.assignments, entry.2.Finite) ∧
      (∀ query ∈ command.query, query.Finite) ∧ valuesFinite command.splitValues
  | .delete command => (∀ query ∈ command.query, query.Finite) ∧ valuesFinite command.splitValues
  | .text command => command.parameters.Finite

theorem valueForms_ofJson? (values : List Value) (bound : Nat) :
    DecodesAll Value.ofJson? (valueForms values) bound values := by
  induction values with
  | nil => exact decodesAll_nil
  | cons value rest ih => exact .cons (value.ofJson?_decodes bound) ih

theorem InsertCommand.decodes (command : InsertCommand) (bound : Nat) :
    Decodes Codec.insert? command.Form bound command := by
  refine decodes_laid (fun _ => Codec.insert?) fun left members hbound hslots => ?_
  simp only [List.forall_mem_cons] at hslots
  obtain ⟨hentity, hvalues, haffect, -⟩ := hslots
  have hentity := hentity.required (decodes_string command.entity) hbound
  have hvalues := hvalues.required (decodesAll_map fun entry _ =>
    (decodes_string entry.1).paired (entry.2.ofJson?_decodes left)).listed hbound
  have haffect := haffect.optional (decodes_bool command.mustAffect) hbound
  rw [Codec.insert?]
  exact read_bind rfl <| read_bind hentity <| read_bind hvalues <| read_bind haffect rfl

theorem UpdateCommand.decodes (command : UpdateCommand) (bound : Nat) :
    Decodes Codec.update? command.Form bound command := by
  refine decodes_laid (fun _ => Codec.update?) fun left members hbound hslots => ?_
  simp only [List.forall_mem_cons] at hslots
  obtain ⟨hentity, hassignments, hquery, hsplit, haffect, -⟩ := hslots
  have hentity := hentity.required (decodes_string command.entity) hbound
  have hassignments := hassignments.required (decodesAll_map fun entry _ =>
    (decodes_string entry.1).paired (entry.2.decodes left)).listed hbound
  have hquery := hquery.optional
    (decodes_option (fun query => query.ofJson?_decodes left) rfl) hbound
  have hsplit := hsplit.optional (valueForms_ofJson? command.splitValues left).listed hbound
  have haffect := haffect.optional (decodes_bool command.mustAffect) hbound
  rw [Codec.update?]
  exact read_bind rfl <| read_bind hentity <| read_bind hassignments <| read_bind hquery <|
    read_bind hsplit <| read_bind haffect rfl

theorem DeleteCommand.decodes (command : DeleteCommand) (bound : Nat) :
    Decodes Codec.delete? command.Form bound command := by
  refine decodes_laid (fun _ => Codec.delete?) fun left members hbound hslots => ?_
  simp only [List.forall_mem_cons] at hslots
  obtain ⟨hentity, hquery, hsplit, haffect, -⟩ := hslots
  have hentity := hentity.required (decodes_string command.entity) hbound
  have hquery := hquery.optional
    (decodes_option (fun query => query.ofJson?_decodes left) rfl) hbound
  have hsplit := hsplit.optional (valueForms_ofJson? command.splitValues left).listed hbound
  have haffect := haffect.optional (decodes_bool command.mustAffect) hbound
  rw [Codec.delete?]
  exact read_bind rfl <| read_bind hentity <| read_bind hquery <| read_bind hsplit <|
    read_bind haffect rfl

theorem TextCommand.decodes (command : TextCommand) (bound : Nat) :
    Decodes Codec.textCommand? command.Form bound command := by
  refine decodes_laid (fun _ => Codec.textCommand?) fun left members hbound hslots => ?_
  simp only [List.forall_mem_cons] at hslots
  obtain ⟨hscript, hparameters, hkind, haffect, -⟩ := hslots
  have hscript := hscript.required (decodes_string command.script) hbound
  have hparameters := hparameters.optional (command.parameters.ofJson?_decodes left) hbound
  have hkind := hkind.optional
    (decodes_name command.kind (by cases command.kind <;> rfl)) hbound
  have haffect := haffect.optional (decodes_bool command.mustAffect) hbound
  rw [Codec.textCommand?]
  exact read_bind rfl <| read_bind hscript <| read_bind hparameters <| read_bind hkind <|
    read_bind haffect rfl

theorem Command.decodes (command : Command) (bound : Nat) :
    Decodes Command.ofJson? command.Form bound command := by
  cases command with
  | insert command =>
    exact decodes_tagged (fun _ => Command.ofJson?) Command.insert command.decodes fun _ _ => rfl
  | update command =>
    exact decodes_tagged (fun _ => Command.ofJson?) Command.update command.decodes fun _ _ => rfl
  | delete command =>
    exact decodes_tagged (fun _ => Command.ofJson?) Command.delete command.decodes fun _ _ => rfl
  | text command =>
    exact decodes_tagged (fun _ => Command.ofJson?) Command.text command.decodes fun _ _ => rfl

theorem Command.form_json (command : Command) (h : command.Finite) :
    command.Form (Codec.commandJson command) := by
  cases command with
  | insert command =>
    have hvalues : Listed (command.values.map fun entry =>
        Paired (· = .string entry.1) entry.2.Form) _ :=
      listed_map fun entry hentry => ⟨_, _, rfl, rfl, entry.2.form_json (h entry hentry)⟩
    refine ⟨_, rfl, laid_object (by simp) ?_⟩
    exact .cons ⟨rfl, rfl⟩ (.cons ⟨rfl, hvalues⟩ (.cons ⟨rfl, rfl⟩ .nil))
  | update command =>
    obtain ⟨hassignments, hquery, hsplit⟩ := h
    have hassignments : Listed (command.assignments.map fun entry =>
        Paired (· = .string entry.1) entry.2.Form) _ :=
      listed_map fun entry hentry => ⟨_, _, rfl, rfl, entry.2.form_json (hassignments entry hentry)⟩
    have hquery := optionForm_json fun query hsome => Query.form_json query (hquery query hsome)
    have hsplit := valueForms_json command.splitValues hsplit
    refine ⟨_, rfl, laid_object (by simp) ?_⟩
    refine .cons ⟨rfl, rfl⟩ (.cons ⟨rfl, hassignments⟩ (.cons ⟨rfl, hquery⟩ ?_))
    exact .cons ⟨rfl, _, rfl, hsplit⟩ (.cons ⟨rfl, rfl⟩ .nil)
  | delete command =>
    obtain ⟨hquery, hsplit⟩ := h
    have hquery := optionForm_json fun query hsome => Query.form_json query (hquery query hsome)
    have hsplit := valueForms_json command.splitValues hsplit
    refine ⟨_, rfl, laid_object (by simp) ?_⟩
    refine .cons ⟨rfl, rfl⟩ (.cons ⟨rfl, hquery⟩ (.cons ⟨rfl, _, rfl, hsplit⟩ ?_))
    exact .cons ⟨rfl, rfl⟩ .nil
  | text command =>
    have hparameters := command.parameters.form_json h
    refine ⟨_, rfl, laid_object (by simp) ?_⟩
    exact .cons ⟨rfl, rfl⟩ (.cons ⟨rfl, hparameters⟩ (.cons ⟨rfl, rfl⟩ (.cons ⟨rfl, rfl⟩ .nil)))

end QueryLoom
