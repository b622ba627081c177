import QueryLoom.Proofs.FaithfulBinding

/-!
# Inserted rows

An insertion writes the columns of its entity and, in the same order, a placeholder for each of
them, which is bound to the first value given for the property or to NULL. The generated field comes
last, as an output.

## Implementation notes

Columns and placeholders are written in one pass over the fields, while the values are looked up in
a list in which properties may repeat and come in any order. So, apart from the table of a split
entity, the text of an insertion depends only on the entity and on the number at which it starts,
and the values only matter to the parameters. A placeholder finds its value unless a parameter of
the same name was put in behind it.
-/

namespace QueryLoom

/-- The fields that an insertion writes, as they are declared: all that are not generated. -/
def Entity.writtenFields (entity : Entity) : List Field :=
  entity.fields.filter (!·.role.autoIncrement)

/-- The field that an insertion returns: the first generated primary key, or else the first
generated field. -/
def Entity.returnedField? (entity : Entity) : Option Field :=
  (entity.fields.find? fun field => field.role.autoIncrement && field.role.primaryKey).or
    (entity.fields.find? (·.role.autoIncrement))

theorem Entity.autoIncrementField?_eq (entity : Entity) :
    entity.autoIncrementField? = entity.returnedField? := by
  rw [autoIncrementField?, returnedField?, List.find?_filter, List.head?_filter]
  simp only [Bool.decide_and, Bool.decide_eq_true]

namespace InsertCommand

/-- The first value that is given for a property. -/
def given? (command : InsertCommand) (property : String) : Option Value :=
  (command.values.find? (·.1 == property)).map (·.2)

/-- The value that is written for a property: the first one given, or NULL. -/
def given (command : InsertCommand) (property : String) : Value :=
  (command.given? property).getD .null

/-- The table that is inserted into: that of the split value, if there is one. -/
def table (command : InsertCommand) (entity : Entity) : String :=
  match entity.splitField?.bind fun field => command.given? field.property with
  | some value => entity.table ++ "_" ++ value.bareText
  | none => entity.table

/-- The text that returns a generated field under a number. -/
def returningText (c : Compiler) (number : Nat) : Option Field → String
  | none => ""
  | some field => " RETURNING " ++ c.conventions.identifier field.column ++ " INTO :" ++
      parameterName field.property number

/-- The text of an insertion that starts at a number: the columns of the written fields, their
placeholders, and the generated field under the number behind theirs. -/
def text (c : Compiler) (command : InsertCommand) (entity : Entity) (number : Nat) : String :=
  "INSERT INTO " ++ c.conventions.identifier (command.table entity) ++
    " (" ++ ", ".intercalate
      (entity.writtenFields.map fun field => c.conventions.identifier field.column) ++
    ") VALUES (" ++ ", ".intercalate
      ((entity.writtenFields.zipIdx number).map fun (field, n) =>
        ":" ++ parameterName field.property n) ++ ")" ++
    returningText c (number + entity.writtenFields.length) entity.returnedField?

/-- Why an insertion is refused. -/
inductive Refused (schema : Schema) (command : InsertCommand) : Error → Prop where
  | unknownEntity (h : ∀ entity ∈ schema.entities, entity.name ≠ command.entity) :
    Refused schema command (.unknownEntity command.entity)
  | generatedAndSplit {entity : Entity} (hentity : schema.entity command.entity = .ok entity)
      (hgenerated : ∃ field ∈ entity.fields, field.role.autoIncrement = true)
      (hsplit : ∃ field ∈ entity.fields, field.role.split = true) :
    Refused schema command (.autoIncrementWithSplit entity.name)
  | undeclared {entity : Entity} {property : String}
      (hentity : schema.entity command.entity = .ok entity)
      (hgiven : property ∈ command.values.map (·.1))
      (hundeclared : ∀ field ∈ entity.fields, field.property ≠ property) :
    Refused schema command (.unknownField entity.name property)
  | unsplit {entity : Entity} {field : Field}
      (hentity : schema.entity command.entity = .ok entity)
      (hsplit : entity.splitField? = some field)
      (hvalue : ∀ value, command.given? field.property = some value → value.isNull = true) :
    Refused schema command (.missingSplitValue entity.name)

/-- Every placeholder of an insertion finds its own entry: that of a written field the value given
for it, and that of the generated field an output. -/
structure Bound (c : Compiler) (command : InsertCommand) (entity : Entity) (number : Nat)
    (parameters : Parameters) : Prop where
  input : ∀ field n, (field, n) ∈ entity.writtenFields.zipIdx number →
    parameters.get? (parameterName field.property n) =
      some ⟨parameterName field.property n, c.conventions.bound (command.given field.property),
        .input⟩
  output : ∀ field, entity.returnedField? = some field →
    parameters.get? (parameterName field.property (number + entity.writtenFields.length)) =
      some ⟨parameterName field.property (number + entity.writtenFields.length), .null, .output⟩

end InsertCommand

variable {c : Compiler} {entity : Entity} {command : InsertCommand} {number : Nat} {s t : Scope}

/-! ## Text -/

/-- Columns and placeholders come in pairs, a field each, and the placeholders count up. -/
theorem insertedColumns_eq {values : List (String × Value)} {fields : List Field}
    {columns : List String} {placeholders : List Sql}
    (h : Yields (c.insertedColumns values fields) s (columns, placeholders) t) :
    columns = fields.map (fun field => c.conventions.identifier field.column) ∧
      placeholders = (fields.zipIdx s.nextNumber).map (fun (field, n) =>
        Sql.placeholder field.property n) ∧
      t.nextNumber = s.nextNumber + fields.length := by
  induction fields generalizing s columns placeholders with
  | nil =>
    rw [Compiler.insertedColumns, yields_pure, Prod.mk.injEq] at h
    obtain ⟨⟨rfl, rfl⟩, rfl⟩ := h
    exact ⟨rfl, rfl, rfl⟩
  | cons field rest ih =>
    rw [Compiler.insertedColumns] at h
    simp only [yields_bind, yields_pure, Prod.mk.injEq] at h
    obtain ⟨placeholder, r, hbind, ⟨columns, placeholders⟩, _, hrest, ⟨rfl, rfl⟩, rfl⟩ := h
    obtain ⟨rfl, rfl⟩ := Compiler.bind_yields.mp hbind
    obtain ⟨rfl, rfl, hnext⟩ := ih hrest
    exact ⟨rfl, rfl, by rw [hnext, List.length_cons, Nat.add_assoc, Nat.add_comm 1]⟩

theorem Sql.render_placeholder (property : String) (number : Nat) :
    (Sql.placeholder property number).render = ":" ++ parameterName property number := by
  rw [Sql.placeholder, Sql.render, Sql.render, Token.render, String.append_empty]

theorem returning_eq {field? : Option Field} {sql : Sql} (h : Yields (c.returning field?) s sql t) :
    sql.render = InsertCommand.returningText c s.nextNumber field? ∧
      sql.placeholders = field?.toList.map fun field => (field.property, s.nextNumber) := by
  cases field? with
  | none =>
    obtain ⟨rfl, rfl⟩ := yields_pure.mp h
    exact ⟨rfl, rfl⟩
  | some field =>
    simp only [Compiler.returning, yields_bind, yields_pure] at h
    obtain ⟨output, _, houtput, rfl, rfl⟩ := h
    obtain ⟨rfl, -⟩ := Compiler.bindOutput_yields.mp houtput
    have hinto (name : String) : " INTO " ++ (":" ++ name) = " INTO :" ++ name := by
      rw [← String.append_assoc]
      rfl
    refine ⟨?_, by simp⟩
    simp only [InsertCommand.returningText, Sql.render_append, Sql.render_text,
      Sql.render_placeholder, String.append_assoc, hinto]

/-- The bindings of an insertion with their numbers, field by field. -/
theorem numbered_insertion (command : InsertCommand) (entity : Entity) (number : Nat) :
    numbered number (command.bindings entity) =
      (entity.writtenFields.zipIdx number).map (fun (field, n) =>
        (.input field.property (command.given field.property), n)) ++
      entity.returnedField?.toList.map fun field =>
        (.output field.property, number + entity.writtenFields.length) := by
  rw [InsertCommand.bindings, numbered_append, List.length_map, Entity.autoIncrementField?_eq]
  congr 1
  · rw [numbered, List.zipIdx_map]
    rfl
  · cases entity.returnedField? <;> rfl

theorem Sql.placeholders_separated (separator : String) (pieces : List Sql) :
    (Sql.separated separator pieces).placeholders = pieces.flatMap Sql.placeholders := by
  induction pieces with
  | nil => rfl
  | cons first rest ih =>
    cases rest with
    | nil => simp [Sql.separated]
    | cons second rest =>
      rw [Sql.separated, placeholders_append, placeholders_append, placeholders_text, ih]
      · simp
      · exact List.cons_ne_nil _ _

/-- The text of an insertion behind its table, and its placeholders in the order of their
bindings. -/
theorem insertBody_eq {body : Sql} (h : Yields (c.insertBody entity command.values) s body t) :
    "INSERT INTO " ++ c.conventions.identifier (command.table entity) ++ body.render =
        command.text c entity s.nextNumber ∧
      body.placeholders =
        (numbered s.nextNumber (command.bindings entity)).map Issue.placeholder := by
  unfold Compiler.insertBody at h
  simp only [yields_bind, yields_pure] at h
  obtain ⟨⟨columns, placeholders⟩, r, hcolumns, returning, _, hreturning, rfl, rfl⟩ := h
  obtain ⟨rfl, rfl, hnext⟩ := insertedColumns_eq hcolumns
  obtain ⟨hrender, hplaceholders⟩ := returning_eq hreturning
  rw [Entity.autoIncrementField?_eq] at hrender hplaceholders
  have hvalues (rest : String) : ") VALUES " ++ ("(" ++ rest) = ") VALUES (" ++ rest := by
    rw [← String.append_assoc]
    rfl
  constructor
  · unfold InsertCommand.text
    simp only [Sql.render_append, Sql.render_text, Sql.parens, Sql.render_separated, hrender, hnext,
      List.map_map, Function.comp_def, Sql.render_placeholder, String.append_assoc, hvalues,
      Entity.writtenFields]
  · simp only [numbered_insertion, Sql.placeholders_append, Sql.placeholders_text, Sql.parens,
      Sql.placeholders_separated, hplaceholders, hnext, List.flatMap_map,
      Sql.placeholders_placeholder, ← List.map_eq_flatMap, List.nil_append, List.append_nil,
      List.map_append, List.map_map]
    rfl

/-! ## Refusals -/

/-- A look-up finds nothing exactly if no item has the name. -/
theorem find?_key_eq_none {α : Type} {items : List α} {key : α → String} {name : String} :
    items.find? (key · == name) = none ↔ ∀ item ∈ items, key item ≠ name := by
  simp only [List.find?_eq_none, beq_iff_eq, ne_eq]

theorem Schema.entity_eq_error {schema : Schema} {name : String} {e : Error} :
    schema.entity name = .error e ↔
      e = .unknownEntity name ∧ ∀ entity ∈ schema.entities, entity.name ≠ name := by
  unfold Schema.entity
  rw [← find?_key_eq_none]
  cases schema.entities.find? (·.name == name) with
  | none => simp [eq_comm]
  | some entity => simp

theorem Entity.field_eq_error {property : String} {e : Error} :
    entity.field property = .error e ↔
      e = .unknownField entity.name property ∧
        ∀ field ∈ entity.fields, field.property ≠ property := by
  unfold Entity.field
  rw [← find?_key_eq_none]
  cases entity.fields.find? (·.property == property) with
  | none => simp [eq_comm]
  | some field => simp

/-- The physical table of an insertion, or that it has none: its split value is missing or NULL. -/
theorem Entity.tableNames_toList (entity : Entity) (value? : Option Value) :
    entity.tableNames value?.toList =
      match entity.splitField?, value? with
      | none, _ => .ok [entity.table]
      | some _, none => .error (.missingSplitValue entity.name)
      | some _, some value =>
        if value.isNull then .error (.missingSplitValue entity.name)
        else .ok [entity.table ++ "_" ++ value.bareText] := by
  unfold tableNames
  cases entity.splitField? with
  | none => rfl
  | some field =>
    cases value? with
    | none => rfl
    | some value =>
      cases hnull : value.isNull with
      | true => simp [splitTable, hnull, Bind.bind, Except.bind]
      | false => simp [splitTable, hnull, Bind.bind, Except.bind, addName, pure, Except.pure]

theorem tableNames_eq_error {value? : Option Value} {e : Error}
    (h : entity.tableNames value?.toList = .error e) :
    ∃ field, entity.splitField? = some field ∧ e = .missingSplitValue entity.name ∧
      ∀ value, value? = some value → value.isNull = true := by
  rw [Entity.tableNames_toList] at h
  split at h
  · cases h
  · rename_i field hsplit
    cases h
    exact ⟨field, hsplit, rfl, nofun⟩
  · rename_i field value hsplit
    split at h
    · rename_i hnull
      cases h
      refine ⟨field, hsplit, rfl, ?_⟩
      rintro _ ⟨⟩
      exact hnull
    · cases h

/-- A split entity has a table for a split value that is not NULL. -/
theorem exists_splitValue {value? : Option Value} {field : Field} {tables : List String}
    (hsplit : entity.splitField? = some field)
    (h : entity.tableNames value?.toList = .ok tables) :
    ∃ value, value? = some value ∧ value.isNull = false := by
  rw [Entity.tableNames_toList, hsplit] at h
  cases value? with
  | none => cases h
  | some value =>
    cases hnull : value.isNull with
    | false => exact ⟨value, rfl, hnull⟩
    | true => simp [hnull] at h

theorem exists_insertedColumns (c : Compiler) (values : List (String × Value))
    (fields : List Field) (s : Scope) :
    ∃ pairs t, Yields (c.insertedColumns values fields) s pairs t := by
  induction fields generalizing s with
  | nil => exact ⟨_, s, yields_pure.mpr ⟨rfl, rfl⟩⟩
  | cons field rest ih =>
    rw [Compiler.insertedColumns]
    simp only [yields_bind, yields_pure]
    obtain ⟨pairs, t, hrest⟩ := ih _
    exact ⟨_, t, _, _, Compiler.bind_yields.mpr ⟨rfl, rfl⟩, pairs, t, hrest, rfl, rfl⟩

theorem exists_returning (c : Compiler) (field? : Option Field) (s : Scope) :
    ∃ sql t, Yields (c.returning field?) s sql t := by
  cases field? with
  | none => exact ⟨_, s, yields_pure.mpr ⟨rfl, rfl⟩⟩
  | some field =>
    simp only [Compiler.returning, yields_bind, yields_pure]
    exact ⟨_, _, _, _, Compiler.bindOutput_yields.mpr ⟨rfl, rfl⟩, rfl, rfl⟩

/-- An insertion writes its columns and placeholders whatever it starts from. -/
theorem exists_insertBody (c : Compiler) (entity : Entity) (values : List (String × Value))
    (s : Scope) : ∃ body t, Yields (c.insertBody entity values) s body t := by
  obtain ⟨pairs, r, hpairs⟩ :=
    exists_insertedColumns c values (entity.fields.filter (!·.role.autoIncrement)) s
  obtain ⟨sql, t, hsql⟩ := exists_returning c entity.autoIncrementField? r
  unfold Compiler.insertBody
  simp only [yields_bind, yields_pure]
  exact ⟨_, t, pairs, r, hpairs, sql, t, hsql, rfl, rfl⟩

theorem Entity.autoIncrementField?_isSome :
    entity.autoIncrementField?.isSome = true ↔
      ∃ field ∈ entity.fields, field.role.autoIncrement = true := by
  rw [Entity.autoIncrementField?_eq, Entity.returnedField?, Option.isSome_or, Bool.or_eq_true,
    List.find?_isSome, List.find?_isSome]
  constructor
  · rintro (⟨field, hfield, hrole⟩ | h)
    · exact ⟨field, hfield, (Bool.and_eq_true_iff.mp hrole).1⟩
    · exact h
  · exact .inr

theorem Entity.splitField?_isSome :
    entity.splitField?.isSome = true ↔ ∃ field ∈ entity.fields, field.role.split = true :=
  List.find?_isSome

/-- What an insertion fails over is a reason to refuse it. -/
theorem insert_refused {e : Error} (h : c.insert command number = .error e) :
    command.Refused c.schema e := by
  simp only [Compiler.insert, except_bind_eq_error] at h
  rcases h with hentity | ⟨entity, hentity, h⟩
  · obtain ⟨rfl, hnone⟩ := Schema.entity_eq_error.mp hentity
    exact .unknownEntity hnone
  · split at h
    · rename_i hboth
      rw [Bool.and_eq_true, Entity.autoIncrementField?_isSome, Entity.splitField?_isSome] at hboth
      cases h
      exact .generatedAndSplit hentity hboth.1 hboth.2
    · simp only [except_bind_eq_error] at h
      rcases h with hdeclared | ⟨-, -, hbody | ⟨-, -, htables | ⟨tables, -, ⟨⟩⟩⟩⟩
      · obtain ⟨⟨property, value⟩, hvalue, hfield⟩ := except_forM_eq_error hdeclared
        rw [except_bind_eq_error] at hfield
        obtain hfield | ⟨field, -, ⟨⟩⟩ := hfield
        obtain ⟨rfl, hnone⟩ := Entity.field_eq_error.mp hfield
        exact .undeclared hentity (List.mem_map.mpr ⟨_, hvalue, rfl⟩) hnone
      · -- columns and placeholders are written without a check
        obtain ⟨body, t, hyields⟩ :=
          exists_insertBody c entity command.values { nextNumber := number }
        rw [runFrom_eq_ok.mpr hyields] at hbody
        cases hbody
      · obtain ⟨field, hsplit, rfl, hnull⟩ := tableNames_eq_error htables
        rw [hsplit, Option.bind_some] at hnull
        exact .unsplit hentity hsplit hnull

/-- What compiles gives values for declared properties only. -/
theorem insert_declared {compiled : Compiled} (h : c.insert command number = .ok compiled)
    (hentity : c.schema.entity command.entity = .ok entity) :
    ∀ property ∈ command.values.map (·.1), ∃ field ∈ entity.fields, field.property = property := by
  simp only [Compiler.insert, hentity, except_bind_eq_ok, Except.ok.injEq, exists_eq_left'] at h
  split at h
  · cases h
  · simp only [except_bind_eq_ok] at h
    obtain ⟨_, hdeclared, -⟩ := h
    intro property hproperty
    obtain ⟨⟨property, value⟩, hvalue, rfl⟩ := List.mem_map.mp hproperty
    obtain ⟨field, hfield, -⟩ := except_bind_eq_ok.mp (except_forM_eq_ok.mp hdeclared _ hvalue)
    by_contra hnone
    have herror := Entity.field_eq_error.mpr ⟨rfl, fun field hfield hsame =>
      hnone ⟨field, hfield, hsame⟩⟩
    rw [hfield] at herror
    cases herror

/-- Where there is a reason to refuse it, an insertion does not compile. -/
theorem InsertCommand.Refused.not_ok {e : Error} (hrefused : command.Refused c.schema e)
    {compiled : Compiled} (h : c.insert command number = .ok compiled) : False := by
  obtain ⟨entity, body, scope, tables, hentity, hboth, -, htables, -⟩ := insert_eq_ok h
  cases hrefused with
  | unknownEntity hnone =>
    rw [Schema.entity_eq_error.mpr ⟨rfl, hnone⟩] at hentity
    cases hentity
  | generatedAndSplit hsame hgenerated hsplit =>
    cases hentity.symm.trans hsame
    rw [Entity.autoIncrementField?_isSome.mpr hgenerated, Entity.splitField?_isSome.mpr hsplit]
      at hboth
    cases hboth
  | undeclared hsame hgiven hundeclared =>
    cases hentity.symm.trans hsame
    obtain ⟨field, hfield, hproperty⟩ := insert_declared h hentity _ hgiven
    exact hundeclared field hfield hproperty
  | unsplit hsame hsplit hvalue =>
    cases hentity.symm.trans hsame
    rw [insertedSplitValue, hsplit, Option.bind_some] at htables
    obtain ⟨value, hgiven, hnull⟩ := exists_splitValue hsplit htables
    rw [hvalue value hgiven] at hnull
    cases hnull

/-! ## Values -/

/-- Parameters that are put in one after the other are all found exactly if those of one name are
the same. -/
theorem parametersOf_kept_iff {bindings : List Binding} :
    (∀ i ∈ numbered number bindings,
        (parametersOf c number bindings).get? i.name = some (i.parameter c.conventions)) ↔
      ∀ i ∈ numbered number bindings, ∀ j ∈ numbered number bindings,
        NamesClash i.1.property i.2 j.1.property j.2 →
          i.parameter c.conventions = j.parameter c.conventions := by
  constructor
  · intro hkept i hi j hj hclash
    have hname : i.name = j.name := parameterName_eq_of_namesClash hclash
    have hfound := hkept i hi
    rw [hname, hkept j hj] at hfound
    exact (Option.some.inj hfound).symm
  · intro hagree i hi
    have hsame : ∀ j ∈ numbered number bindings, j.name = i.name →
        j.parameter c.conventions = i.parameter c.conventions := by
      intro j hj hname
      -- one number is given to one binding; under two the one name takes in the other's digits
      by_cases hnumber : i.2 = j.2
      · rw [numbered_inj hi hj hnumber]
      · rcases (parameterName_eq_iff hnumber).mp hname.symm with hclash | hclash
        · exact (hagree i hi j hj hclash).symm
        · exact hagree j hj i hi hclash
    have hfound : (parametersOf c number bindings).get? (i.parameter c.conventions).name =
        some (i.parameter c.conventions) := by
      refine Parameters.get?_foldl_insert_of_unique (List.mem_map_of_mem hi) ?_
      rw [List.forall_mem_map]
      intro j hj hname
      rw [Issue.name_parameter, Issue.name_parameter] at hname
      exact hsame j hj hname
    rwa [Issue.name_parameter] at hfound

/-- The values of an insertion are bound if every one of its bindings is found. -/
theorem insertion_bound_iff {parameters : Parameters} :
    command.Bound c entity number parameters ↔
      ∀ i ∈ numbered number (command.bindings entity),
        parameters.get? i.name = some (i.parameter c.conventions) := by
  rw [numbered_insertion, List.forall_mem_append, List.forall_mem_map, List.forall_mem_map]
  constructor
  · intro h
    exact ⟨fun p hp => h.input p.1 p.2 hp,
      fun field hfield => h.output field (by simpa using hfield)⟩
  · rintro ⟨hinput, houtput⟩
    exact ⟨fun field n hfield => hinput (field, n) hfield,
      fun field hfield => houtput field (by simpa using hfield)⟩

/-- The one physical table of an insertion. -/
theorem tableNames_eq_table {tables : List String}
    (h : entity.tableNames (insertedSplitValue entity command.values).toList = .ok tables) :
    tables = [command.table entity] := by
  unfold insertedSplitValue at h
  unfold InsertCommand.table InsertCommand.given?
  cases hsplit : entity.splitField? with
  | none =>
    rw [Entity.tableNames_toList, hsplit] at h
    cases h
    rfl
  | some field =>
    obtain ⟨value, hvalue, hnull⟩ := exists_splitValue hsplit h
    rw [Entity.tableNames_toList, hvalue] at h
    rw [hsplit] at hvalue h
    simp only [hvalue, hnull, Bool.false_eq_true, if_false, Except.ok.injEq] at h ⊢
    exact h.symm

/-! ## Insertions -/

/-- An insertion fails for a reason to refuse it, and whenever there is one. Otherwise it is one
statement: its text names the written columns in order and as many placeholders, which count up from
where the insertion starts, with that of the returned field behind them, and the next number is the
one behind all of them. Its parameters are the first values given for the written properties, or
NULL, as the conventions bind them, and an output. Every placeholder finds its own exactly if
properties whose names clash under their numbers have the same one. -/
theorem insert_pairs (c : Compiler) (command : InsertCommand) (number : Nat) :
    (∀ e, c.command (.insert command) number = .error e → command.Refused c.schema e) ∧
    (∀ e, command.Refused c.schema e →
      ∃ first, c.command (.insert command) number = .error first) ∧
    ∀ compiled, c.command (.insert command) number = .ok compiled →
      ∃ entity statement, c.schema.entity command.entity = .ok entity ∧
        compiled.statements = [statement] ∧
        statement.script.render = command.text c entity number ∧
        statement.script.placeholders =
          (numbered number (command.bindings entity)).map Issue.placeholder ∧
        compiled.nextParameter = number + statement.script.placeholders.length ∧
        statement.parameters = parametersOf c number (command.bindings entity) ∧
        (command.Bound c entity number statement.parameters ↔
          ∀ i ∈ numbered number (command.bindings entity),
          ∀ j ∈ numbered number (command.bindings entity),
            NamesClash i.1.property i.2 j.1.property j.2 →
              i.parameter c.conventions = j.parameter c.conventions) := by
  refine ⟨fun e => insert_refused, ?_, ?_⟩
  · intro e hrefused
    cases h : c.command (.insert command) number with
    | ok compiled => exact (hrefused.not_ok h).elim
    | error first => exact ⟨first, rfl⟩
  · intro compiled h
    obtain ⟨entity, body, scope, tables, hentity, -, hbody, htables, rfl⟩ := insert_eq_ok h
    obtain rfl := tableNames_eq_table htables
    obtain ⟨hrender, hplaceholders⟩ := insertBody_eq hbody
    have hissued := (insertBody_placed hbody command rfl).toIssued
    have hscript (table : String) :
        (Sql.text ("INSERT INTO " ++ table) ++ body).placeholders = body.placeholders := by
      rw [Sql.placeholders_append, Sql.placeholders_text, List.nil_append]
    refine ⟨entity, _, hentity, rfl, ?_, ?_, ?_, hissued.parameters_eq, ?_⟩
    · rw [← hrender]
      exact (Sql.render_append _ _).trans (by rw [Sql.render_text])
    · exact (hscript _).trans hplaceholders
    · refine hissued.nextNumber.trans ?_
      change _ = number + (Sql.placeholders (Sql.text _ ++ body)).length
      rw [hscript, hplaceholders, List.length_map, numbered, List.length_zipIdx]
    · rw [insertion_bound_iff]
      change (∀ i ∈ _, scope.parameters.get? _ = _) ↔ _
      rw [hissued.parameters_eq]
      exact parametersOf_kept_iff

/-- A schema whose entity has two generated fields, the second of which is its primary key. -/
def generatedKeys (properties : List String) : Compiler where
  schema := ⟨[{ name := "Account", table := "ACCOUNT", fields :=
    { property := "Serial", column := "Serial", role := { autoIncrement := true } } ::
    { property := "Id", column := "Id", role := { primaryKey := true, autoIncrement := true } } ::
    properties.map fun name => { property := name, column := name } }]⟩

/-- The first of two values is written, a property without one is NULL, and the primary key is
returned. -/
theorem generatedKeys_inserted :
    let command : InsertCommand := {
      entity := "Account", values := [("Name", .text "first"), ("Name", .text "second")] }
    ∃ compiled statement,
      (generatedKeys ["Owner", "Name"]).command (.insert command) 3 = .ok compiled ∧
      compiled.statements = [statement] ∧ compiled.nextParameter = 6 ∧
      statement.script.render = "INSERT INTO \"ACCOUNT\" (\"OWNER\", \"NAME\") " ++
        "VALUES (:Owner3, :Name4) RETURNING \"ID\" INTO :Id5" ∧
      statement.parameters.get? "Owner3" = some ⟨"Owner3", .null, .input⟩ ∧
      statement.parameters.get? "Name4" = some ⟨"Name4", .text "first", .input⟩ ∧
      statement.parameters.get? "Id5" = some ⟨"Id5", .null, .output⟩ := by
  intro command
  obtain ⟨compiled, h⟩ := exists_ok_of_isSome
    (x := (generatedKeys ["Owner", "Name"]).command (.insert command) 3) (by decide +kernel)
  obtain ⟨entity, statement, hentity, hstatement, hrender, hplaceholders, hnext, -, hbound⟩ :=
    (insert_pairs (generatedKeys ["Owner", "Name"]) command 3).2.2 compiled h
  cases hentity
  have hfound := hbound.mpr fun i hi j hj hclash =>
    absurd hclash (noClash_of_properties (by decide +kernel) i hi j hj)
  have howner : parameterName "Owner" 3 = "Owner3" := by decide +kernel
  have hname : parameterName "Name" 4 = "Name4" := by decide +kernel
  have hid : parameterName "Id" 5 = "Id5" := by decide +kernel
  have hownerFound := hfound.input { property := "Owner", column := "Owner" } 3 (by decide +kernel)
  have hnameFound := hfound.input { property := "Name", column := "Name" } 4 (by decide +kernel)
  have hidFound := hfound.output
    { property := "Id", column := "Id", role := { primaryKey := true, autoIncrement := true } } rfl
  rw [howner] at hownerFound
  rw [hname] at hnameFound
  refine ⟨compiled, statement, h, hstatement, ?_, hrender.trans (by decide +kernel), hownerFound,
    hnameFound, hid ▸ hidFound⟩
  rw [hnext, hplaceholders]
  rfl

/-- The first property is numbered 0 and the returned key 10, so that both are bound as `Id10`, and
the value that is given for the property is lost to the output. -/
theorem generatedKeys_valueLost :
    let c := generatedKeys ["Id1", "B", "C", "D", "E", "F", "G", "H", "I", "J"]
    let command : InsertCommand := { entity := "Account", values := [("Id1", .int 7)] }
    ∃ entity compiled statement, c.schema.entity "Account" = .ok entity ∧
      c.command (.insert command) 0 = .ok compiled ∧ compiled.statements = [statement] ∧
      ("Id1", 0) ∈ statement.script.placeholders ∧ ("Id", 10) ∈ statement.script.placeholders ∧
      (statement.parameters.get? "Id10").map (·.direction) = some .output ∧
      ¬ command.Bound c entity 0 statement.parameters := by
  intro c command
  obtain ⟨compiled, h⟩ := exists_ok_of_isSome (x := c.command (.insert command) 0)
    (by decide +kernel)
  have hread : (c.command (.insert command) 0).toOption.map (fun compiled =>
      compiled.statements.map fun statement =>
        (statement.script.placeholders.contains ("Id1", 0),
          statement.script.placeholders.contains ("Id", 10),
          (statement.parameters.get? "Id10").map (·.direction))) =
      some [(true, true, some .output)] := by
    decide +kernel
  rw [h] at hread
  obtain ⟨statement, hstatement, hread⟩ := List.map_eq_singleton_iff.mp (Option.some.inj hread)
  obtain ⟨hproperty, hread⟩ := Prod.mk.inj hread
  obtain ⟨hreturned, hdirection⟩ := Prod.mk.inj hread
  refine ⟨_, compiled, statement, rfl, h, hstatement, by simpa using hproperty,
    by simpa using hreturned, hdirection, ?_⟩
  intro hbound
  have hfound := hbound.input { property := "Id1", column := "Id1" } 0 (by decide +kernel)
  have hname : parameterName "Id1" 0 = "Id10" := by decide +kernel
  rw [hname] at hfound
  rw [hfound] at hdirection
  cases hdirection

end QueryLoom
