import QueryLoom.Codec.Schema
import QueryLoom.Proofs.CommandForms

/-!
# Lossless JSON

Entities are read back from every form of their JSON, as queries and commands are, and so JSON loses
nothing of any of them.
-/

namespace QueryLoom

open Json

/-! ## Entities -/

/-- The forms of a role. -/
def FieldRole.Form (role : FieldRole) : Json → Prop :=
  Laid [⟨"primary_key", (· = .bool role.primaryKey), role.primaryKey = false⟩,
    ⟨"auto_increment", (· = .bool role.autoIncrement), role.autoIncrement = false⟩,
    ⟨"split", (· = .bool role.split), role.split = false⟩]

/-- The forms of a field. -/
def Field.Form (field : Field) : Json → Prop :=
  Laid [⟨"property", (· = .string field.property), False⟩,
    ⟨"column", (· = .string field.column), False⟩,
    ⟨"role", field.role.Form, field.role = {}⟩,
    ⟨"query_format", optionForm (fun text json => json = .string text) field.outputForm,
      field.outputForm = none⟩]

/-- The forms of a relation. -/
def Relation.Form (relation : Relation) : Json → Prop :=
  Laid [⟨"field", (· = .string relation.field), False⟩,
    ⟨"target_entity", (· = .string relation.targetEntity), False⟩,
    ⟨"target_field", (· = .string relation.targetField), False⟩]

/-- The forms of an entity. -/
def Entity.Form (entity : Entity) : Json → Prop :=
  Laid [⟨"name", (· = .string entity.name), False⟩, ⟨"table", (· = .string entity.table), False⟩,
    ⟨"fields", Listed (entity.fields.map Field.Form), False⟩,
    ⟨"relations", Listed (entity.relations.map Relation.Form), entity.relations = []⟩]

theorem FieldRole.decodes (role : FieldRole) (bound : Nat) :
    Decodes Codec.role? role.Form bound role := by
  refine decodes_laid (fun _ => Codec.role?) fun left members hbound hslots => ?_
  simp only [List.forall_mem_cons] at hslots
  obtain ⟨hprimary, hgenerated, hsplit, -⟩ := hslots
  have hprimary := hprimary.optional (decodes_bool role.primaryKey) hbound
  have hgenerated := hgenerated.optional (decodes_bool role.autoIncrement) hbound
  have hsplit := hsplit.optional (decodes_bool role.split) hbound
  rw [Codec.role?]
  exact read_bind rfl <| read_bind hprimary <| read_bind hgenerated <| read_bind hsplit rfl

theorem Field.decodes (field : Field) (bound : Nat) :
    Decodes Field.ofJson? field.Form bound field := by
  refine decodes_laid (fun _ => Field.ofJson?) fun left members hbound hslots => ?_
  simp only [List.forall_mem_cons] at hslots
  obtain ⟨hproperty, hcolumn, hrole, hformat, -⟩ := hslots
  have hproperty := hproperty.required (decodes_string field.property) hbound
  have hcolumn := hcolumn.required (decodes_string field.column) hbound
  have hrole := hrole.optional (field.role.decodes left) hbound
  have hformat := hformat.optional (decodes_option decodes_string rfl) hbound
  rw [Field.ofJson?]
  exact read_bind rfl <| read_bind hproperty <| read_bind hcolumn <| read_bind hrole <|
    read_bind hformat rfl

theorem Relation.decodes (relation : Relation) (bound : Nat) :
    Decodes Codec.relation? relation.Form bound relation := by
  refine decodes_laid (fun _ => Codec.relation?) fun left members hbound hslots => ?_
  simp only [List.forall_mem_cons] at hslots
  obtain ⟨hfield, hentity, htarget, -⟩ := hslots
  have hfield := hfield.required (decodes_string relation.field) hbound
  have hentity := hentity.required (decodes_string relation.targetEntity) hbound
  have htarget := htarget.required (decodes_string relation.targetField) hbound
  rw [Codec.relation?]
  exact read_bind rfl <| read_bind hfield <| read_bind hentity <| read_bind htarget rfl

theorem Entity.decodes (entity : Entity) (bound : Nat) :
    Decodes Entity.ofJson? entity.Form bound entity := by
  refine decodes_laid (fun _ => Entity.ofJson?) fun left members hbound hslots => ?_
  simp only [List.forall_mem_cons] at hslots
  obtain ⟨hname, htable, hfields, hrelations, -⟩ := hslots
  have hname := hname.required (decodes_string entity.name) hbound
  have htable := htable.required (decodes_string entity.table) hbound
  have hfields := hfields.required
    (decodesAll_map fun field _ => field.decodes left).listed hbound
  have hrelations := hrelations.optional
    (decodesAll_map fun relation _ => relation.decodes left).listed hbound
  rw [Entity.ofJson?]
  exact read_bind rfl <| read_bind hname <| read_bind htable <| read_bind hfields <|
    read_bind hrelations rfl

theorem FieldRole.form_json (role : FieldRole) : role.Form (Codec.roleJson role) :=
  laid_object (by simp) (.cons ⟨rfl, rfl⟩ (.cons ⟨rfl, rfl⟩ (.cons ⟨rfl, rfl⟩ .nil)))

theorem Field.form_json (field : Field) : field.Form (Codec.fieldJson field) := by
  refine laid_object (by simp) (.cons ⟨rfl, rfl⟩ (.cons ⟨rfl, rfl⟩ ?_))
  exact .cons ⟨rfl, field.role.form_json⟩ (.cons ⟨rfl, optionForm_json fun _ _ => rfl⟩ .nil)

theorem Relation.form_json (relation : Relation) : relation.Form (Codec.relationJson relation) :=
  laid_object (by simp) (.cons ⟨rfl, rfl⟩ (.cons ⟨rfl, rfl⟩ (.cons ⟨rfl, rfl⟩ .nil)))

theorem Entity.form_json (entity : Entity) : entity.Form (Codec.entityJson entity) := by
  have hfields := listed_map fun field (_ : field ∈ entity.fields) => field.form_json
  have hrelations := listed_map fun relation (_ : relation ∈ entity.relations) => relation.form_json
  refine laid_object (by simp) (.cons ⟨rfl, rfl⟩ (.cons ⟨rfl, rfl⟩ ?_))
  exact .cons ⟨rfl, hfields⟩ (.cons ⟨rfl, hrelations⟩ .nil)

/-! ## Losslessness -/

/-- The JSON of values, queries, parameters, commands and entities loses nothing. What is written
has every member. In their forms an object, at every level, may lack members that hold their
defaults, and what is absent may be `null`; of any object any such members may be removed. -/
theorem json_lossless :
    Lossless Codec.valueJson Value.ofJson? Value.Form Value.Finite ∧
      Lossless Codec.queryJson Query.ofJson? Query.Form Query.Finite ∧
      Lossless Codec.parametersJson Parameters.ofJson? Parameters.Form Parameters.Finite ∧
      Lossless Codec.commandJson Command.ofJson? Command.Form Command.Finite ∧
      Lossless Codec.entityJson Entity.ofJson? Entity.Form (fun _ => True) ∧
      ∀ slots members (keep : String → Bool), Laid slots (.object members) →
        (∀ slot ∈ slots, keep slot.name = false → slot.omissible) →
          Laid slots (.object (members.filter (keep ·.1))) := by
  refine ⟨?values, ?queries, ?parameters, ?commands, ?entities, ?objects⟩
  case values => exact lossless_of_forms Value.form_json Value.ofJson?_decodes
  case queries => exact lossless_of_forms Query.form_json Query.ofJson?_decodes
  case parameters => exact lossless_of_forms Parameters.form_json Parameters.ofJson?_decodes
  case commands => exact lossless_of_forms Command.form_json Command.decodes
  case entities => exact lossless_of_forms (fun entity _ => entity.form_json) Entity.decodes
  case objects => exact fun slots members keep h homissible => h.kept keep homissible

/-- The query of the buyers of orders. -/
def orders : Query := { entity := "orders", fields := ["buyer"] }

/-- The query in JSON without the members that hold their defaults. -/
def ordersJson : Json := .object [("entity", .string "orders"), ("fields", ofStrings ["buyer"])]

theorem orders_form : orders.Form ordersJson := by
  have hfinite : orders.Finite := ⟨trivial, trivial, trivial, trivial, trivial, trivial⟩
  refine (Query.form_json orders hfinite).kept (fun name => name ∈ ["entity", "fields"]) ?_
  simp [orders, Query.slots]

/-- The comparison of a key with the buyers. -/
def membership : Criterion := ⟨"id", .isIn, .collection [.subquery orders], none⟩

/-- The comparison in JSON without its conversion. -/
def membershipJson : Json :=
  .object [("field", .string "id"), ("operator", .string "In"),
    ("value", tagged "Array" (.array [tagged "Subquery" ordersJson]))]

theorem membership_form : membership.Form membershipJson := by
  have hvalue : Value.Form (.collection [.subquery orders])
      (tagged "Array" (.array [tagged "Subquery" ordersJson])) :=
    ⟨_, rfl, _, rfl, .cons ⟨_, rfl, orders_form⟩ .nil⟩
  refine ⟨_, rfl, by simp, ?_⟩
  simp only [List.forall_mem_cons]
  exact ⟨.inl ⟨_, rfl, rfl⟩, .inl ⟨_, rfl, rfl⟩, .inl ⟨_, rfl, hvalue⟩, .inr ⟨rfl, trivial⟩,
    List.forall_mem_nil _⟩

/-- The query of the users among the buyers. -/
def buyers : Query := { entity := "users", conditions := [⟨.and, .criterion membership⟩] }

/-- The query in JSON without the members that hold their defaults, but for one that is `null`. -/
def buyersJson : Json :=
  .object [("entity", .string "users"), ("paging", .null), ("conditions", .array
    [.object [("connector", .string "And"), ("condition", tagged "Criterion" membershipJson)]])]

theorem buyers_form : buyers.Form buyersJson := by
  have hentry : ConditionEntry.Form ⟨.and, .criterion membership⟩ (.object
      [("connector", .string "And"), ("condition", tagged "Criterion" membershipJson)]) :=
    laid_object (by simp) (.cons ⟨rfl, rfl⟩ (.cons ⟨rfl, _, rfl, membership_form⟩ .nil))
  have hconditions : Listed [ConditionEntry.Form ⟨.and, .criterion membership⟩] (.array [_]) :=
    ⟨_, rfl, .cons hentry .nil⟩
  refine ⟨_, rfl, by simp, ?_⟩
  simpa [buyers, Query.slots, Slot.Filled, get?, optionForm, entryForms] using hconditions

/-- An update that does not say whether a row has to change: one has to. -/
theorem buyersUpdate_restored :
    Command.ofJson? (tagged "Update" (.object [("entity", .string "users"),
        ("assignments", .array [.array [.string "age", tagged "Calculate" (.object
          [("op", .string "Add"), ("value", tagged "Int" (ofInt 1))])]]),
        ("query", buyersJson)])) =
      some (.update {
        entity := "users"
        assignments := [("age", .calculate .add (.int 1))]
        query := some buyers
        mustAffect := true }) := by
  have hassignment := Assignment.form_json (.calculate .add (.int 1)) trivial
  refine json_lossless.2.2.2.1.decoded _ _ ⟨_, rfl, _, rfl, by simp, ?_⟩
  simp only [List.forall_mem_cons]
  exact ⟨.inl ⟨_, rfl, rfl⟩, .inl ⟨_, rfl, _, rfl, .cons ⟨_, _, rfl, rfl, hassignment⟩ .nil⟩,
    .inl ⟨_, rfl, buyers_form⟩, .inr ⟨rfl, trivial⟩, .inr ⟨rfl, trivial⟩, List.forall_mem_nil _⟩

end QueryLoom
