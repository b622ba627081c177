import QueryLoom.Proofs.SplitTables

/-!
# Quoted tables of split entities

The table of a split entity is written with a split value in it, the one place where data becomes
part of a script. Between double quotes the value stays one identifier exactly if it has no double
quote of its own. The first one it has ends the identifier, and the rest of the value is SQL.

## Implementation notes

A name that starts and ends with double quotes is not quoted again, but the table of the entity
stands in front of the value, so a value alone cannot pass for quoted. Upper-casing neither makes
nor loses a double quote.
-/

namespace QueryLoom

/-! ## Identifiers -/

/-- A text is one quoted identifier: what stands between its double quotes has none. -/
def IsQuotedIdentifier (text : String) : Prop :=
  ∃ body : String, '"' ∉ body.toList ∧ text = SelectItem.quotedLabel body

theorem isQuotedIdentifier_iff (body : String) :
    IsQuotedIdentifier (SelectItem.quotedLabel body) ↔ '"' ∉ body.toList := by
  constructor
  · rintro ⟨other, hother, h⟩
    rwa [quotedLabel_inj.mp h]
  · intro h
    exact ⟨body, h, rfl⟩

namespace Conventions

variable {conventions : Conventions}

theorem quote_mem_folded (name : String) :
    '"' ∈ (conventions.folded name).toList ↔ '"' ∈ name.toList := by
  unfold folded
  split
  · exact Text.mem_upperCase_iff (by decide) name
  · exact Iff.rfl

/-- A table without double quotes keeps what is added to it from passing for quoted. -/
theorem not_isQuoted_split {table : String} (htable : '"' ∉ table.toList) (text : String) :
    isQuoted (conventions.folded (table ++ "_" ++ text)) = false := by
  have hfolded : '"' ∉ (conventions.folded table).toList := by rwa [quote_mem_folded]
  rw [folded_append, folded_append, folded_underscore]
  -- a quoted name starts with a double quote; this one starts with the table, or with the
  -- underscore if the table is empty
  unfold isQuoted
  simp only [String.toList_append]
  cases hchars : (conventions.folded table).toList with
  | nil => rfl
  | cons first rest =>
    rw [hchars] at hfolded
    have hfirst : first ≠ '"' := fun h => hfolded (h ▸ List.mem_cons_self)
    simp only [List.cons_append]
    split
    · rename_i h
      exact absurd (List.cons.inj h).1 hfirst
    · rfl

variable {table : String} (hquoted : conventions.quoted = true) (htable : '"' ∉ table.toList)

include hquoted htable

theorem identifier_split (text : String) :
    conventions.identifier (table ++ "_" ++ text) =
      SelectItem.quotedLabel (conventions.folded (table ++ "_" ++ text)) := by
  rw [identifier_eq, hquoted, not_isQuoted_split htable]
  rfl

/-- The table of a split value is one quoted identifier exactly if the value has no double
quote. -/
theorem identifier_split_quoted_iff (text : String) :
    IsQuotedIdentifier (conventions.identifier (table ++ "_" ++ text)) ↔ '"' ∉ text.toList := by
  rw [identifier_split hquoted htable, isQuotedIdentifier_iff, quote_mem_folded]
  simp [String.toList_append, htable]

/-- A double quote in a split value ends the identifier of its table, and what follows it is
written behind the identifier. -/
theorem identifier_split_broken {text : String} (h : '"' ∈ text.toList) :
    ∃ before after : String, text = before ++ "\"" ++ after ∧
      IsQuotedIdentifier (conventions.identifier (table ++ "_" ++ before)) ∧
      conventions.identifier (table ++ "_" ++ text) =
        conventions.identifier (table ++ "_" ++ before) ++ conventions.folded after ++ "\"" := by
  obtain ⟨before, after, hchars, hbefore⟩ := List.eq_append_cons_of_mem h
  have htext : text = String.ofList before ++ "\"" ++ String.ofList after := by
    rw [← String.toList_inj, hchars]
    simp [String.toList_append]
  refine ⟨String.ofList before, String.ofList after, htext, ?_, ?_⟩
  · rw [identifier_split_quoted_iff hquoted htable, String.toList_ofList]
    exact hbefore
  · rw [identifier_split hquoted htable, identifier_split hquoted htable, htext]
    simp only [SelectItem.quotedLabel, folded_append, folded_quote, String.append_assoc]

end Conventions

/-! ## Statements -/

/-- The physical table of a split value, as it is written. -/
def Conventions.splitTable (conventions : Conventions) (entity : Entity) (value : Value) : String :=
  conventions.identifier (entity.table ++ "_" ++ value.bareText)

namespace Command

/-- The entity that a command writes to, unless it is a text. -/
def target? : Command → Option String
  | .insert command => some command.entity
  | .update command => some command.entity
  | .delete command => some command.entity
  | .text _ => none

/-- The split values that a command gives for an entity. -/
def splitValues (entity : Entity) : Command → List Value
  | .insert command => (insertedSplitValue entity command.values).toList
  | .update command => command.splitValues
  | .delete command => command.splitValues
  | .text _ => []

/-- A script writes rows of a table. -/
def Writes (command : Command) (c : Compiler) (table : String) (script : Sql) : Prop :=
  match command with
  | .insert _ => ∃ rest, script.render = "INSERT INTO " ++ table ++ " (" ++ rest
  | command => command.Changes c table script

end Command

variable {c : Compiler} {command : Command} {number : Nat} {compiled : Compiled} {entity : Entity}

/-- What is paired off has a partner on either side. -/
theorem partners_of_forall₂ {α β : Type} {R : α → β → Prop} {as : List α} {bs : List β}
    (h : List.Forall₂ R as bs) :
    (∀ a ∈ as, ∃ b ∈ bs, R a b) ∧ ∀ b ∈ bs, ∃ a ∈ as, R a b := by
  induction h with
  | nil => exact ⟨List.forall_mem_nil _, List.forall_mem_nil _⟩
  | cons hfirst _ ih =>
    simp only [List.forall_mem_cons, List.exists_mem_cons_iff]
    exact ⟨⟨.inl hfirst, fun a ha => .inr (ih.1 a ha)⟩, ⟨.inl hfirst, fun b hb => .inr (ih.2 b hb)⟩⟩

theorem insertBody_starts {values : List (String × Value)} {body : Sql} {s t : Scope}
    (h : Yields (c.insertBody entity values) s body t) : ∃ rest, body.render = " (" ++ rest := by
  simp only [Compiler.insertBody, yields_bind, yields_pure] at h
  obtain ⟨_, _, -, _, _, -, rfl, -⟩ := h
  simp only [Sql.render_append, Sql.render_text, String.append_assoc]
  exact ⟨_, rfl⟩

/-- The statements of a command write the physical tables of its split values, one each and in
order. -/
theorem command_writes {name : String} (htarget : command.target? = some name)
    (hentity : c.schema.entity name = .ok entity) (h : c.command command number = .ok compiled) :
    ∃ tables, entity.tableNames (command.splitValues entity) = .ok tables ∧
      List.Forall₂ (fun table statement => command.Writes c table statement.script)
        (tables.map c.conventions.identifier) compiled.statements := by
  cases command with
  | text command => cases htarget
  | update command =>
    cases htarget
    obtain ⟨found, tables, hfound, htables, hchanges⟩ := command_changes rfl h
    obtain rfl := Except.ok.inj (hentity.symm.trans hfound)
    exact ⟨tables, htables, hchanges⟩
  | delete command =>
    cases htarget
    obtain ⟨found, tables, hfound, htables, hchanges⟩ := command_changes rfl h
    obtain rfl := Except.ok.inj (hentity.symm.trans hfound)
    exact ⟨tables, htables, hchanges⟩
  | insert command =>
    cases htarget
    obtain ⟨found, body, scope, tables, hfound, -, hbody, htables, rfl⟩ := insert_eq_ok h
    obtain rfl := Except.ok.inj (hentity.symm.trans hfound)
    obtain ⟨rest, hrest⟩ := insertBody_starts hbody
    refine ⟨tables, htables, perTable_scripts fun table => ⟨rest, ?_⟩⟩
    simp only [Sql.render_append, Sql.render_text, hrest, String.append_assoc]

/-- A command on a split entity writes the tables of its split values, and no others. Where
identifiers are quoted and the table of the entity has no double quote, the table of a split value
is one quoted identifier exactly if the value has no double quote. Otherwise the identifier names
another table, and the rest of the value stands behind it. -/
theorem splitTables_quoted_iff {name : String} (htarget : command.target? = some name)
    (hentity : c.schema.entity name = .ok entity) (hsplit : entity.splitField?.isSome = true)
    (hquoted : c.conventions.quoted = true) (htable : '"' ∉ entity.table.toList)
    (h : c.command command number = .ok compiled) :
    (∀ statement ∈ compiled.statements, ∃ value ∈ command.splitValues entity,
      command.Writes c (c.conventions.splitTable entity value) statement.script) ∧
    ∀ value ∈ command.splitValues entity,
      (∃ statement ∈ compiled.statements,
        command.Writes c (c.conventions.splitTable entity value) statement.script) ∧
      (IsQuotedIdentifier (c.conventions.splitTable entity value) ↔
        '"' ∉ value.bareText.toList) ∧
      ('"' ∈ value.bareText.toList → ∃ before after : String,
        value.bareText = before ++ "\"" ++ after ∧
        IsQuotedIdentifier (c.conventions.identifier (entity.table ++ "_" ++ before)) ∧
        c.conventions.splitTable entity value =
          c.conventions.identifier (entity.table ++ "_" ++ before) ++
            c.conventions.folded after ++ "\"") := by
  obtain ⟨tables, htables, hwrites⟩ := command_writes htarget hentity h
  obtain ⟨-, hmem⟩ := Entity.tableNames_eq_ok hsplit htables
  obtain ⟨hwritten, hwriter⟩ := partners_of_forall₂ hwrites
  constructor
  · intro statement hstatement
    obtain ⟨_, hidentifier, hscript⟩ := hwriter statement hstatement
    obtain ⟨table, hname, rfl⟩ := List.mem_map.mp hidentifier
    obtain ⟨value, hvalue, rfl⟩ := (hmem table).mp hname
    exact ⟨value, hvalue, hscript⟩
  · intro value hvalue
    have hname : entity.table ++ "_" ++ value.bareText ∈ tables := (hmem _).mpr ⟨value, hvalue, rfl⟩
    exact ⟨hwritten _ (List.mem_map_of_mem hname),
      Conventions.identifier_split_quoted_iff hquoted htable value.bareText,
      Conventions.identifier_split_broken hquoted htable⟩

/-- Removing the orders of some regions. -/
def removeOrders (regions : List String) : Command :=
  .delete { entity := "Order", splitValues := regions.map .text }

/-- The table of a region with a blank is one quoted identifier. -/
theorem removedRegion_quoted :
    ∃ (compiled : Compiled) (statement : Statement),
      orderCompiler.command (removeOrders ["new york"]) 0 = .ok compiled ∧
      statement ∈ compiled.statements ∧
      (removeOrders ["new york"]).Writes orderCompiler
        (orderCompiler.conventions.splitTable orderEntity (.text "new york")) statement.script ∧
      IsQuotedIdentifier
        (orderCompiler.conventions.splitTable orderEntity (.text "new york")) := by
  obtain ⟨compiled, h⟩ := exists_ok_of_isSome
    (x := orderCompiler.command (removeOrders ["new york"]) 0) (by decide +kernel)
  obtain ⟨-, hvalues⟩ := splitTables_quoted_iff rfl rfl rfl rfl (by decide) h
  obtain ⟨⟨statement, hstatement, hwrites⟩, hquoted, -⟩ :=
    hvalues (.text "new york") (List.mem_singleton_self _)
  exact ⟨compiled, statement, h, hstatement, hwrites, hquoted.mpr (by decide)⟩

/-- A double quote in a region ends the name of the table, and the rest of the region makes the
statement another one. -/
theorem quotedRegion_broken :
    (orderCompiler.command (removeOrders ["eu\" TB --"]) 0).toOption.map (fun compiled =>
        compiled.statements.map fun statement => statement.script.render) =
      some ["DELETE \"ORDERS_EU\" TB --\" TB"] ∧
    ¬ IsQuotedIdentifier
      (orderCompiler.conventions.splitTable orderEntity (.text "eu\" TB --")) := by
  refine ⟨by decide +kernel, ?_⟩
  rw [Conventions.splitTable, Conventions.identifier_split_quoted_iff rfl (by decide)]
  decide

end QueryLoom
