import QueryLoom.Proofs.ConfigurationErrors
import QueryLoom.Proofs.RecordedTraversals
import QueryLoom.Proofs.ShiftedCommands
import QueryLoom.Session.Runner

/-!
# Commands that do not compile

Queries, commands and batches fail over what was to be compiled and over nothing else. A list of
commands with one that does not compile fails as the first such command does, wherever it stands,
and the connection is not even opened for the commands before it.

## Implementation notes

Batches compile a command at the number that the open batch has come to. Whether a command
compiles, and what it fails over, is the same at every number, so a command compiles or is refused
once and for all.
-/

namespace QueryLoom

variable {c : Compiler}

/-! ## Queries -/

theorem groupClause_configured (entity : Entity) (query : Query) :
    FailsConfigured (c.groupClause entity query) := by
  unfold Compiler.groupClause
  split
  · exact .pure _
  · refine (FailsConfigured.liftM (.mapM entity.field_configured query.groupBy)).bind ?_
    intro columns
    exact (foldEntries_configured query.having entity rootAlias {}).bind fun having => .pure _

theorem selection_configured (entity : Entity) (query : Query) (properties : List String)
    (fields : List Field) (sorted : Bool) :
    FailsConfigured (c.selection entity query properties fields sorted) := by
  refine (Query.clauses_configured query properties rootAlias sorted).bind fun clauses => ?_
  exact (groupClause_configured entity query).bind fun group => .pure _

theorem aggregateField_configured (entity : Entity) (fields : List String)
    (function : AggregateFunction) :
    Configured (Compiler.aggregateField entity fields function) := by
  unfold Compiler.aggregateField
  split
  · exact entity.field_configured _
  · split
    · exact .ok _
    · exact .error rfl
  · exact .error rfl

theorem select_configured (entity : Entity) (query : Query) :
    FailsConfigured (c.select entity query) := by
  have hfields := FailsConfigured.liftM (σ := Scope) (entity.queryFields_configured query.fields)
  unfold Compiler.select
  split
  · refine hfields.bind fun fields => ?_
    split
    · exact .throw rfl
    · exact (selection_configured entity query _ fields true).bind fun s => .pure _
  · refine hfields.bind fun fields => ?_
    exact (selection_configured entity query _ fields true).bind fun s => .pure _
  · refine hfields.bind fun fields => ?_
    exact (selection_configured entity query _ fields false).bind fun s => .pure _
  · unfold Compiler.existence
    dsimp only
    -- the primary keys answer the test, or else the default field does
    split
    all_goals
      split
      · exact .throw rfl
      · exact (selection_configured entity query _ _ false).bind fun s => .pure _
  · refine (FailsConfigured.liftM (aggregateField_configured entity _ _)).bind fun field => ?_
    refine hfields.bind fun fields => ?_
    exact (selection_configured entity query _ fields false).bind fun s => .pure _

theorem query_configured (query : Query) : Configured (c.query query) := by
  unfold Compiler.query
  split
  · exact .ok _
  · refine (schema_entity_configured _ _).bind fun entity => ?_
    exact ((select_configured entity query).runFrom 0).bind fun selected => .ok _

/-! ## Commands -/

theorem insertBody_configured (entity : Entity) (values : List (String × Value)) :
    FailsConfigured (c.insertBody entity values) := by
  have hcolumns (fields : List Field) : FailsConfigured (c.insertedColumns values fields) := by
    induction fields with
    | nil => exact .pure _
    | cons field rest ih =>
      exact (bind_configured c field.property _).bind fun placeholder => ih.bind fun _ => .pure _
  have hreturning (field : Option Field) : FailsConfigured (c.returning field) := by
    cases field with
    | none => exact .pure _
    | some field =>
      have houtput : FailsConfigured (Compiler.bindOutput field.property) := fun _ => .ok _
      exact houtput.bind fun output => .pure _
  exact (hcolumns _).bind fun columns => (hreturning _).bind fun returning => .pure _

theorem insert_configured (command : InsertCommand) (number : Nat) :
    Configured (c.insert command number) := by
  unfold Compiler.insert
  refine (schema_entity_configured _ _).bind fun entity => ?_
  dsimp only
  split
  · exact .error rfl
  · refine (Configured.forM (fun value => ?_) command.values).bind fun _ => ?_
    · exact (entity.field_configured value.1).bind fun _ => .ok _
    · refine ((insertBody_configured entity command.values).runFrom number).bind fun body => ?_
      exact (entity.tableNames_configured _).bind fun tables => .ok _

theorem setItems_configured (entity : Entity) (assignments : List (String × Assignment)) :
    FailsConfigured (c.setItems entity assignments) := by
  induction assignments with
  | nil => exact .pure _
  | cons first rest ih =>
    obtain ⟨property, assignment⟩ := first
    refine (FailsConfigured.liftM (entity.field_configured property)).bind fun field => ?_
    cases assignment with
    | value value => exact (bind_configured c property value).bind fun _ => ih.bind fun _ => .pure _
    | calculate op value =>
      exact (bind_configured c property value).bind fun _ => ih.bind fun _ => .pure _

theorem update_configured (command : UpdateCommand) (number : Nat) :
    Configured (c.update command number) := by
  unfold Compiler.update
  refine (schema_entity_configured _ _).bind fun entity => ?_
  dsimp only
  split
  · exact .error rfl
  · refine (FailsConfigured.runFrom ?_ number).bind fun body => ?_
    · refine (Query.clauses_configured _ _ rootAlias false).bind fun clauses => ?_
      exact (setItems_configured entity command.assignments).bind fun items => .pure _
    · refine (entity.tableNames_configured _).bind fun tables => ?_
      split
      · refine entity.requirePrimaryKeys_configured.bind fun keys => ?_
        split
        · exact .error rfl
        · exact .ok _
      · exact .ok _

theorem delete_configured (command : DeleteCommand) (number : Nat) :
    Configured (c.delete command number) := by
  unfold Compiler.delete
  refine (schema_entity_configured _ _).bind fun entity => ?_
  refine ((Query.clauses_configured _ _ rootAlias false).runFrom number).bind fun body => ?_
  refine (entity.tableNames_configured _).bind fun tables => ?_
  split
  · exact entity.requirePrimaryKeys_configured.bind fun keys => .ok _
  · exact .ok _

theorem command_configured (command : Command) (number : Nat) :
    Configured (c.command command number) := by
  cases command with
  | insert command => exact insert_configured command number
  | update command => exact update_configured command number
  | delete command => exact delete_configured command number
  | text command => exact .ok _

theorem commandsFrom_configured (commands : List Command) (number : Nat) :
    Configured (c.commandsFrom number commands) := by
  induction commands generalizing number with
  | nil => exact .ok []
  | cons command rest ih =>
    exact (command_configured command number).bind fun compiled => (ih _).bind fun _ => .ok _

theorem batches_configured (limits : BatchLimits) (commands : List Command) :
    Configured (c.batches limits commands) := by
  have hadd (b : Batcher) (count : Nat) : Configured (c.addCommands b count commands) := by
    induction commands generalizing b count with
    | nil => exact .ok _
    | cons command rest ih =>
      exact (command_configured command b.nextParameter).bind fun compiled => ih _ _
  exact (hadd _ 0).bind fun added => .ok _

/-! ## Lists of commands -/

/-- A command compiles, whatever number its parameters start at. -/
def Compiler.Accepts (c : Compiler) (command : Command) : Prop :=
  ∀ number, ∃ compiled, c.command command number = .ok compiled

/-- A command fails with an error, whatever number its parameters start at. -/
def Compiler.Refuses (c : Compiler) (command : Command) (e : Error) : Prop :=
  ∀ number, c.command command number = .error e

/-- A command compiles at every number, or fails with one and the same error at every number. -/
theorem accepts_or_refuses (c : Compiler) (command : Command) :
    c.Accepts command ∨ ∃ e, c.Refuses command e := by
  have hshift (number : Nat) := command_shift (c := c) (k := number) command 0
  simp only [Nat.zero_add] at hshift
  cases h : c.command command 0 with
  | error e =>
    rw [h] at hshift
    exact .inr ⟨e, fun number => (hshift number).eq_error⟩
  | ok compiled =>
    rw [h] at hshift
    refine .inl fun number => ?_
    obtain ⟨shifted, hshifted, -⟩ := (hshift number).exists_ok_right
    exact ⟨shifted, hshifted⟩

/-- Some command of a list fails with an error, and those before it compile. -/
def Compiler.FailsFirst (c : Compiler) (commands : List Command) (e : Error) : Prop :=
  ∃ before failing after, commands = before ++ failing :: after ∧
    (∀ command ∈ before, c.Accepts command) ∧ c.Refuses failing e

/-- If some command of a list does not compile, there is a first one. -/
theorem exists_failsFirst {commands : List Command}
    (h : ∃ command ∈ commands, ¬ c.Accepts command) : ∃ e, c.FailsFirst commands e := by
  induction commands with
  | nil =>
    obtain ⟨command, hcommand, -⟩ := h
    exact absurd hcommand List.not_mem_nil
  | cons first rest ih =>
    rcases accepts_or_refuses c first with haccepts | ⟨e, hrefuses⟩
    · obtain ⟨command, hcommand, hnot⟩ := h
      have hrest : command ∈ rest := by
        rcases List.mem_cons.mp hcommand with rfl | hrest
        · exact absurd haccepts hnot
        · exact hrest
      obtain ⟨e, before, failing, after, rfl, hbefore, hfailing⟩ := ih ⟨command, hrest, hnot⟩
      exact ⟨e, first :: before, failing, after, rfl,
        List.forall_mem_cons.mpr ⟨haccepts, hbefore⟩, hfailing⟩
    · exact ⟨e, [], first, rest, rfl, List.forall_mem_nil _, hrefuses⟩

/-- Commands are taken into batches up to the first that does not compile. -/
theorem Compiler.FailsFirst.batches_eq {commands : List Command} {e : Error}
    (h : c.FailsFirst commands e) (limits : BatchLimits) :
    c.batches limits commands = .error e := by
  obtain ⟨before, failing, after, rfl, hbefore, hfailing⟩ := h
  have hadd (b : Batcher) (count : Nat) :
      c.addCommands b count (before ++ failing :: after) = .error e := by
    induction before generalizing b count with
    | nil =>
      rw [List.nil_append, Compiler.addCommands, hfailing]
      rfl
    | cons first rest ih =>
      obtain ⟨hfirst, hrest⟩ := List.forall_mem_cons.mp hbefore
      obtain ⟨compiled, hcompiled⟩ := hfirst b.nextParameter
      rw [List.cons_append, Compiler.addCommands, hcompiled]
      exact ih hrest _ _
  unfold Compiler.batches
  rw [hadd]
  rfl

/-- A run of commands that do not compile fails before it calls the connection. -/
theorem Compiler.FailsFirst.execute_eq {runner : Runner} {commands : List Command} {e : Error}
    (h : runner.compiler.FailsFirst commands e) (transaction : Option Bool)
    (isolation : Option IsolationLevel) (session : Session) :
    (runner.execute transaction isolation commands).run.run session = (.error e, session) := by
  have hbatches := h.batches_eq runner.limits
  obtain ⟨before, failing, after, hcommands, -, -⟩ := h
  have hsome : commands.isEmpty = false := by simp [hcommands]
  unfold Runner.execute
  rw [hsome, if_neg Bool.false_ne_true, hbatches]
  rfl

/-- Every error of a compilation is one of configuration. Among commands of which some does not
compile at some number there is a first such command, refused with one error at every number; a run
of the commands fails with that error and leaves the session as it was, without a call to the
connection. -/
theorem refused_runs_nothing (runner : Runner) :
    (∀ query, Configured (runner.compiler.query query)) ∧
      (∀ command number, Configured (runner.compiler.command command number)) ∧
      (∀ commands, Configured (runner.compiler.commands commands)) ∧
      (∀ limits commands, Configured (runner.compiler.batches limits commands)) ∧
      ∀ (commands : List Command) (transaction : Option Bool) (isolation : Option IsolationLevel)
        (session : Session),
        (∃ command ∈ commands, ∃ number e, runner.compiler.command command number = .error e) →
        ∃ before failing after e, commands = before ++ failing :: after ∧
          (∀ command ∈ before, runner.compiler.Accepts command) ∧
          runner.compiler.Refuses failing e ∧ e.isConfiguration = true ∧
          (runner.execute transaction isolation commands).run.run session =
            (.error e, session) := by
  refine ⟨query_configured, command_configured, fun commands => commandsFrom_configured commands 0,
    batches_configured, ?_⟩
  rintro commands transaction isolation session ⟨command, hcommand, number, e, he⟩
  have hnot : ¬ runner.compiler.Accepts command := by
    intro haccepts
    obtain ⟨compiled, hcompiled⟩ := haccepts number
    rw [he] at hcompiled
    cases hcompiled
  obtain ⟨e, hfirst⟩ := exists_failsFirst ⟨command, hcommand, hnot⟩
  have hrun := hfirst.execute_eq transaction isolation session
  obtain ⟨before, failing, after, hcommands, hbefore, hfailing⟩ := hfirst
  have hconfigured : e.isConfiguration = true := command_configured failing 0 e (hfailing 0)
  exact ⟨before, failing, after, e, hcommands, hbefore, hfailing, hconfigured, hrun⟩

/-- A deletion of all nodes is not run if one of leaves, which the schema does not know, stands
behind it. -/
theorem unknownLeaves_run_nothing :
    let runner : Runner := { compiler := treeCompiler }
    let commands := [Command.delete { entity := "Node" }, .delete { entity := "Leaf" }]
    (∃ command ∈ commands, ∃ number e, runner.compiler.command command number = .error e) ∧
      runner.compiler.Accepts (.delete { entity := "Node" }) ∧
      (runner.execute none none commands).run.run {} =
        (.error (.unknownEntity "Leaf"), {}) := by
  intro runner commands
  have hleaf (number : Nat) : runner.compiler.command (.delete { entity := "Leaf" }) number =
      .error (.unknownEntity "Leaf") := rfl
  have hsome : ∃ command ∈ commands, ∃ number e,
      runner.compiler.command command number = .error e :=
    ⟨_, List.mem_cons_of_mem _ List.mem_cons_self, 0, _, hleaf 0⟩
  have hnode : runner.compiler.Accepts (.delete { entity := "Node" }) := by
    rcases accepts_or_refuses runner.compiler (.delete { entity := "Node" }) with h | ⟨e, h⟩
    · exact h
    · cases h 0
  obtain ⟨before, failing, after, e, hcommands, -, hrefused, -, hrun⟩ :=
    (refused_runs_nothing runner).2.2.2.2 commands none none {} hsome
  -- the first command compiles, so the second one is the first that does not
  have hlast : failing = .delete { entity := "Leaf" } := by
    cases before with
    | nil =>
      obtain ⟨rfl, -⟩ := List.cons.inj hcommands
      obtain ⟨compiled, hcompiled⟩ := hnode 0
      rw [hrefused 0] at hcompiled
      cases hcompiled
    | cons first rest =>
      obtain ⟨-, htail⟩ := List.cons.inj hcommands
      cases rest with
      | nil => exact (List.cons.inj htail).1.symm
      | cons second rest => simp at htail
  subst hlast
  obtain rfl := Except.error.inj ((hrefused 0).symm.trans (hleaf 0))
  exact ⟨hsome, hnode, hrun⟩

end QueryLoom
