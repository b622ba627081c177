import Mathlib.Data.List.Nodup
import QueryLoom.Proofs.ChosenForms
import QueryLoom.Proofs.UpperCasing

/-!
# Tables of split entities

A command that changes rows of a split entity has one statement for each physical table that its
split values name, and each name counts once. Names are compared before the conventions write them
as identifiers. So two statements change one table exactly if identifiers are folded to upper case
and two split values with different texts have one upper-case form.

## Implementation notes

Quotes make no table of two. All physical tables of an entity begin with its table and an
underscore, and a name that is quoted already cannot be another one of them between quotes: the
underscore would stand one place further on.
-/

namespace QueryLoom

/-! ## Identifiers -/

/-- A name as the conventions fold it, before it is quoted. -/
def Conventions.folded (conventions : Conventions) (name : String) : String :=
  if conventions.upperCase then Text.upperCase name else name

namespace Conventions

variable {conventions : Conventions}

theorem identifier_eq (name : String) :
    conventions.identifier name =
      if conventions.quoted && !isQuoted (conventions.folded name) then
        SelectItem.quotedLabel (conventions.folded name)
      else conventions.folded name := rfl

theorem folded_append (a b : String) :
    conventions.folded (a ++ b) = conventions.folded a ++ conventions.folded b := by
  unfold folded
  split
  · exact Text.upperCase_append a b
  · rfl

theorem folded_underscore : conventions.folded "_" = "_" := by
  unfold folded
  split
  · decide
  · rfl

theorem folded_quote : conventions.folded "\"" = "\"" := by
  unfold folded
  split
  · decide
  · rfl

end Conventions

/-- What stands between quotes does not begin as it does without them, up to an underscore. -/
theorem stem_ne_quoted_stem (stem a b : List Char) :
    stem ++ '_' :: a ≠ '"' :: (stem ++ b) := by
  induction stem with
  | nil => simp
  | cons first rest ih =>
    intro h
    obtain ⟨rfl, h⟩ := List.cons.inj h
    exact ih h

theorem stem_ne_quotedLabel (stem a b : String) :
    stem ++ "_" ++ a ≠ SelectItem.quotedLabel (stem ++ "_" ++ b) := by
  intro h
  have hchars := congrArg String.toList h
  simp only [SelectItem.quotedLabel, String.toList_append] at hchars
  refine stem_ne_quoted_stem stem.toList a.toList ('_' :: (b.toList ++ ['"'])) ?_
  simpa using hchars

theorem quotedLabel_inj {a b : String} :
    SelectItem.quotedLabel a = SelectItem.quotedLabel b ↔ a = b := by
  rw [← String.toList_inj, ← String.toList_inj]
  simp [SelectItem.quotedLabel]

/-- Two names with one stem are written alike exactly if they are folded alike. -/
theorem Conventions.identifier_stem_inj {conventions : Conventions} (stem a b : String) :
    conventions.identifier (stem ++ "_" ++ a) = conventions.identifier (stem ++ "_" ++ b) ↔
      conventions.folded a = conventions.folded b := by
  have hfolded (text : String) : conventions.folded (stem ++ "_" ++ text) =
      conventions.folded stem ++ "_" ++ conventions.folded text := by
    rw [folded_append, folded_append, folded_underscore]
  have hstem : conventions.folded stem ++ "_" ++ conventions.folded a =
      conventions.folded stem ++ "_" ++ conventions.folded b ↔
        conventions.folded a = conventions.folded b := String.append_right_inj _
  rw [identifier_eq, identifier_eq, hfolded, hfolded]
  split <;> split
  · rw [quotedLabel_inj, hstem]
  · -- one of them is quoted already, the other is not
    refine iff_of_false (stem_ne_quotedLabel _ _ _).symm fun h => ?_
    simp_all
  · refine iff_of_false (stem_ne_quotedLabel _ _ _) fun h => ?_
    simp_all
  · exact hstem

/-! ## Physical tables -/

namespace Entity

theorem mem_foldl_addName {names added : List String} {name : String} :
    name ∈ added.foldl addName names ↔ name ∈ names ∨ name ∈ added := by
  induction added generalizing names with
  | nil => simp
  | cons first rest ih =>
    rw [List.foldl_cons, ih, List.mem_cons]
    unfold addName
    split
    · rename_i hcontains
      have hfirst : first ∈ names := by simpa using hcontains
      constructor
      · rintro (h | h)
        · exact .inl h
        · exact .inr (.inr h)
      · rintro (h | rfl | h)
        · exact .inl h
        · exact .inl hfirst
        · exact .inr h
    · rw [List.mem_append, List.mem_singleton, or_assoc]

theorem nodup_foldl_addName {names added : List String} (h : names.Nodup) :
    (added.foldl addName names).Nodup := by
  induction added generalizing names with
  | nil => exact h
  | cons first rest ih =>
    apply ih
    unfold addName
    split
    · exact h
    · rename_i hcontains
      have hfirst : first ∉ names := by simpa using hcontains
      exact List.nodup_append.mpr ⟨h, List.nodup_singleton _,
        fun a ha b hb hab => hfirst (by rwa [← List.mem_singleton.mp hb, ← hab])⟩

variable {entity : Entity}

theorem splitTables_eq_ok {values : List Value} {names : List String}
    (h : values.mapM entity.splitTable = .ok names) :
    names = values.map (fun value => entity.table ++ "_" ++ value.bareText) ∧
      ∀ value ∈ values, value.isNull = false := by
  induction values generalizing names with
  | nil =>
    cases h
    exact ⟨rfl, List.forall_mem_nil _⟩
  | cons first rest ih =>
    simp only [List.mapM_cons, except_bind_eq_ok] at h
    obtain ⟨name, hname, others, hothers, h⟩ := h
    cases h
    obtain ⟨rfl, hrest⟩ := ih hothers
    unfold splitTable at hname
    split at hname
    · cases hname
    · rename_i hnull
      cases hname
      exact ⟨rfl, List.forall_mem_cons.mpr ⟨by simpa using hnull, hrest⟩⟩

/-- The physical tables of a split entity are those of its split values, each named once. -/
theorem tableNames_eq_ok {values : List Value} {tables : List String}
    (hsplit : entity.splitField?.isSome = true) (h : entity.tableNames values = .ok tables) :
    tables.Nodup ∧ ∀ name, name ∈ tables ↔
      ∃ value ∈ values, name = entity.table ++ "_" ++ value.bareText := by
  have hnone : entity.splitField?.isNone = false := by
    rw [Option.isNone_eq_false_iff]
    exact hsplit
  unfold tableNames at h
  rw [hnone, if_neg Bool.false_ne_true] at h
  split at h
  · cases h
  · simp only [except_bind_eq_ok] at h
    obtain ⟨names, hnames, h⟩ := h
    cases h
    obtain ⟨rfl, -⟩ := splitTables_eq_ok hnames
    refine ⟨nodup_foldl_addName List.nodup_nil, ?_⟩
    intro name
    rw [mem_foldl_addName, or_iff_right List.not_mem_nil, List.mem_map]
    constructor <;> rintro ⟨value, hvalue, hname⟩ <;> exact ⟨value, hvalue, hname.symm⟩

end Entity

/-! ## Statements -/

/-- A script changes the rows of a table, alone or by selected keys. -/
def Command.Changes (command : Command) (c : Compiler) (table : String) (script : Sql) : Prop :=
  command.SingleTable table script ∨
    ∃ keys clauses, command.Keyed c keys clauses table script

variable {c : Compiler} {command : Command} {change : RowChange} {number : Nat}
  {compiled : Compiled}

/-- What every script for a table satisfies, the statements satisfy for the tables as written. -/
theorem perTable_scripts {written : String → Sql → Prop} {tables : List String} {scope : Scope}
    {mustAffect hasTraversal : Bool} {script : String → Sql}
    (hscript : ∀ table, written table (script table)) :
    List.Forall₂ (fun table statement => written table statement.script)
      (tables.map c.conventions.identifier)
      (c.perTable tables scope mustAffect hasTraversal script).statements := by
  rw [Compiler.perTable, List.forall₂_map_left_iff, List.forall₂_map_right_iff, List.forall₂_same]
  intro table _
  exact hscript (c.conventions.identifier table)

/-- The statements of a command that changes rows write the physical tables of its entity, one each
and in order. -/
theorem command_changes (hchange : command.rowChange? = some change)
    (h : c.command command number = .ok compiled) :
    ∃ entity tables, c.schema.entity change.entity = .ok entity ∧
      entity.tableNames change.splitValues = .ok tables ∧
      List.Forall₂ (fun table statement => command.Changes c table statement.script)
        (tables.map c.conventions.identifier) compiled.statements := by
  cases command with
  | insert command => cases hchange
  | text command => cases hchange
  | update command =>
    cases hchange
    obtain ⟨entity, clauses, r, items, fields, scope, tables, hentity, -, -, -, htables, hform⟩ :=
      update_eq_ok h
    refine ⟨entity, tables, hentity, htables, ?_⟩
    rcases hform with ⟨-, keys, -, -, rfl⟩ | ⟨-, rfl⟩
    · exact perTable_scripts fun table => .inr ⟨keys, clauses, items, rfl⟩
    · exact perTable_scripts fun table =>
        .inl (updateScript_singleTable command items clauses table)
  | delete command =>
    cases hchange
    obtain ⟨entity, clauses, scope, tables, hentity, -, htables, hform⟩ := delete_eq_ok h
    refine ⟨entity, tables, hentity, htables, ?_⟩
    rcases hform with ⟨-, keys, -, rfl⟩ | ⟨-, rfl⟩
    · exact perTable_scripts fun table => .inr ⟨keys, clauses, rfl⟩
    · exact perTable_scripts fun table => .inl (deleteScript_singleTable command clauses table)

/-- A query with joins or traversals chooses the rows of every physical table by keys, selected with
one condition from one chain of joins. -/
theorem command_keyed (hchange : command.rowChange? = some change)
    (hkeyed : ¬ (change.query.joins = [] ∧ change.query.traversing = []))
    (h : c.command command number = .ok compiled) :
    ∃ entity tables clauses t, c.schema.entity change.entity = .ok entity ∧
      entity.tableNames change.splitValues = .ok tables ∧
      Yields (change.query.clauses c change.query.fields rootAlias false)
        { nextNumber := number } clauses t ∧
      List.Forall₂ (fun table statement =>
          command.Keyed c entity.primaryKeys clauses table statement.script)
        (tables.map c.conventions.identifier) compiled.statements := by
  have hneeds {clauses : Clauses} {t : Scope}
      (hclauses : Yields (change.query.clauses c change.query.fields rootAlias false)
        { nextNumber := number } clauses t) : Compiler.needsKeys clauses = true := by
    rw [Query.clauses_needsKeys hclauses, Bool.not_eq_true', Bool.and_eq_false_iff,
      List.isEmpty_eq_false_iff, List.isEmpty_eq_false_iff]
    exact Classical.not_and_iff_not_or_not.mp hkeyed
  cases command with
  | insert command => cases hchange
  | text command => cases hchange
  | update command =>
    cases hchange
    obtain ⟨entity, clauses, r, items, fields, scope, tables, hentity, -, hclauses, -, htables,
      ⟨-, keys, hkeys, -, rfl⟩ | ⟨hnone, -⟩⟩ := update_eq_ok h
    · obtain ⟨rfl, -⟩ := Entity.requirePrimaryKeys_eq_ok hkeys
      exact ⟨entity, tables, clauses, r, hentity, htables, hclauses,
        perTable_scripts fun table => ⟨items, rfl⟩⟩
    · rw [hneeds hclauses] at hnone
      cases hnone
  | delete command =>
    cases hchange
    obtain ⟨entity, clauses, scope, tables, hentity, hclauses, htables,
      ⟨-, keys, hkeys, rfl⟩ | ⟨hnone, -⟩⟩ := delete_eq_ok h
    · obtain ⟨rfl, -⟩ := Entity.requirePrimaryKeys_eq_ok hkeys
      exact ⟨entity, tables, clauses, scope, hentity, htables, hclauses,
        perTable_scripts fun table => rfl⟩
    · rw [hneeds hclauses] at hnone
      cases hnone

/-- Split values whose texts are told apart in the writing of identifiers too. -/
def Conventions.TellApart (conventions : Conventions) (values : List Value) : Prop :=
  conventions.upperCase = true → ∀ v ∈ values, ∀ w ∈ values,
    Text.upperCase v.bareText = Text.upperCase w.bareText → v.bareText = w.bareText

theorem nodup_identifiers_iff {entity : Entity} {values : List Value} {tables : List String}
    (hsplit : entity.splitField?.isSome = true) (h : entity.tableNames values = .ok tables) :
    (tables.map c.conventions.identifier).Nodup ↔ c.conventions.TellApart values := by
  obtain ⟨hnodup, hmem⟩ := Entity.tableNames_eq_ok hsplit h
  have hname (v w : Value) : entity.table ++ "_" ++ v.bareText = entity.table ++ "_" ++ w.bareText ↔
      v.bareText = w.bareText := String.append_right_inj _
  rw [List.nodup_map_iff_inj_on hnodup]
  simp only [hmem]
  constructor
  · intro hinj hupper v hv w hw hsame
    refine (hname v w).mp (hinj _ ⟨v, hv, rfl⟩ _ ⟨w, hw, rfl⟩ ?_)
    rw [Conventions.identifier_stem_inj, Conventions.folded, if_pos hupper, Conventions.folded,
      if_pos hupper]
    exact hsame
  · rintro hapart _ ⟨v, hv, rfl⟩ _ ⟨w, hw, rfl⟩ hsame
    rw [Conventions.identifier_stem_inj] at hsame
    rw [hname]
    unfold Conventions.folded at hsame
    split at hsame
    · rename_i hupper
      exact hapart hupper v hv w hw hsame
    · exact hsame

/-- A command that changes rows of a split entity has one statement for each table that its split
values name. The identifiers that the statements write are pairwise distinct exactly if
upper-casing, where the conventions ask for it, keeps different texts of the split values
different. -/
theorem splitTables_distinct_iff {entity : Entity} (hchange : command.rowChange? = some change)
    (hentity : c.schema.entity change.entity = .ok entity)
    (hsplit : entity.splitField?.isSome = true) (h : c.command command number = .ok compiled) :
    ∃ names : List String, names.Nodup ∧
      (∀ name, name ∈ names ↔
        ∃ value ∈ change.splitValues, name = entity.table ++ "_" ++ value.bareText) ∧
      List.Forall₂ (fun table statement => command.Changes c table statement.script)
        (names.map c.conventions.identifier) compiled.statements ∧
      ((names.map c.conventions.identifier).Nodup ↔
        c.conventions.TellApart change.splitValues) := by
  obtain ⟨entity', tables, hentity', htables, hchanges⟩ := command_changes hchange h
  rw [hentity] at hentity'
  obtain rfl := Except.ok.inj hentity'
  obtain ⟨hnodup, hmem⟩ := Entity.tableNames_eq_ok hsplit htables
  exact ⟨tables, hnodup, hmem, hchanges, nodup_identifiers_iff hsplit htables⟩

/-- Orders, with a table for each region. -/
def orderEntity : Entity where
  name := "Order"
  table := "ORDERS"
  fields := [{ property := "Id", column := "Id", role := { primaryKey := true } },
    { property := "Region", column := "Region", role := { split := true } },
    { property := "Total", column := "Total" }]

/-- A schema of orders. -/
def orderCompiler : Compiler where
  schema := ⟨[orderEntity]⟩

/-- Adding one to the totals of the orders in some regions. -/
def raiseTotals (regions : List String) : Command :=
  .update { entity := "Order", assignments := [("Total", .calculate .add (.int 1))]
            splitValues := regions.map .text }

/-- Regions that differ in more than their case have statements of their own, and a region that is
named twice has one. -/
theorem raisedRegions_distinct :
    ∃ (compiled : Compiled) (names : List String),
      orderCompiler.command (raiseTotals ["eu", "us", "eu"]) 0 = .ok compiled ∧
      List.Forall₂ (fun table statement =>
          (raiseTotals ["eu", "us", "eu"]).Changes orderCompiler table statement.script)
        (names.map orderCompiler.conventions.identifier) compiled.statements ∧
      (names.map orderCompiler.conventions.identifier).Nodup ∧
      compiled.statements.length = 2 := by
  obtain ⟨compiled, h⟩ := exists_ok_of_isSome
    (x := orderCompiler.command (raiseTotals ["eu", "us", "eu"]) 0) (by decide +kernel)
  have hlength : (orderCompiler.command (raiseTotals ["eu", "us", "eu"]) 0).toOption.map
      (·.statements.length) = some 2 := by
    decide +kernel
  rw [h] at hlength
  obtain ⟨names, -, -, hchanges, hiff⟩ := splitTables_distinct_iff rfl rfl rfl h
  have hregions : orderCompiler.conventions.TellApart (["eu", "us", "eu"].map .text) := by
    unfold Conventions.TellApart
    decide +kernel
  exact ⟨compiled, names, h, hchanges, hiff.mpr hregions, Option.some.inj hlength⟩

/-- Two spellings of one region are two names and one table, whose totals are raised twice. -/
theorem respelledRegion_raised_twice :
    (orderCompiler.command (raiseTotals ["eu", "EU"]) 0).toOption.map (fun compiled =>
        compiled.statements.map fun statement => statement.script.render) =
      some ["UPDATE \"ORDERS_EU\" TB SET \"TOTAL\" = TB.\"TOTAL\" + :Total0",
        "UPDATE \"ORDERS_EU\" TB SET \"TOTAL\" = TB.\"TOTAL\" + :Total0"] := by
  decide +kernel

end QueryLoom
