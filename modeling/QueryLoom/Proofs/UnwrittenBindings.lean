import Mathlib.Data.Multiset.UnionInter
import QueryLoom.Proofs.StatementBindings

/-!
# Bindings that are not written

The parameters of an update or a deletion are the placeholders of its script exactly if nothing is
bound without being written: by a set operation of its query, or by a conversion that is compared
with an empty collection. A query that is read writes its set operations; a command does not.
-/

namespace QueryLoom

variable {c : Compiler} {statement : Statement} {command : Command} {number : Nat}

/-- The names of the placeholders of SQL text, in order. -/
def Sql.placeholderNames (sql : Sql) : List String :=
  sql.placeholders.map fun p => parameterName p.1 p.2

/-- The parameters of a statement are the placeholders of its script. -/
def BoundAsWritten (statement : Statement) : Prop :=
  ∀ name, name ∈ statement.parameters.names ↔ name ∈ statement.script.placeholderNames

/-- Where a script writes the bindings that are not lost, its placeholders are its parameters
exactly if every lost name is written for another binding. -/
theorem boundAsWritten_iff {bindings : List Binding} {lost : Issue → Prop}
    (hparameters : statement.parameters = parametersOf c number bindings)
    (hscript : ∀ p, p ∈ statement.script.placeholders ↔
      ∃ i ∈ numbered number bindings, ¬ lost i ∧ i.placeholder = p) :
    BoundAsWritten statement ↔ ∀ i ∈ numbered number bindings, lost i →
      ∃ j ∈ numbered number bindings, ¬ lost j ∧ j.name = i.name := by
  have hwritten (name : String) : name ∈ statement.script.placeholderNames ↔
      ∃ j ∈ numbered number bindings, ¬ lost j ∧ j.name = name := by
    constructor
    · intro h
      obtain ⟨p, hp, rfl⟩ := List.mem_map.mp h
      obtain ⟨j, hj, hkept, rfl⟩ := (hscript p).mp hp
      exact ⟨j, hj, hkept, rfl⟩
    · rintro ⟨j, hj, hkept, rfl⟩
      exact List.mem_map.mpr ⟨j.placeholder, (hscript _).mpr ⟨j, hj, hkept, rfl⟩, rfl⟩
  unfold BoundAsWritten
  constructor
  · intro h i hi _
    exact (hwritten i.name).mp ((h i.name).mp (hparameters ▸ mem_names_parametersOf.mpr
      ⟨i, hi, rfl⟩))
  · intro h name
    rw [hparameters, mem_names_parametersOf, hwritten]
    constructor
    · rintro ⟨i, hi, rfl⟩
      by_cases hlost : lost i
      · exact h i hi hlost
      · exact ⟨i, hi, hlost, rfl⟩
    · rintro ⟨j, hj, -, hname⟩
      exact ⟨j, hj, hname⟩

/-- A command loses the bindings of the set operations in its query, and those that no statement
writes. -/
def Command.Loses (command : Command) (number : Nat) (issue : Issue) : Prop :=
  issue.1.written = false ∨ issue ∈ command.combinedIssues number

/-- Set operations are numbered among the bindings of their command. -/
theorem mem_numbered_of_combinedIssues {issue : Issue}
    (h : issue ∈ command.combinedIssues number) : issue ∈ numbered number (c.bindings command) := by
  have hquery (query : Query) (rest : List Binding)
      (hissue : issue ∈ numbered (number + (entryBindings query.conditions).length)
        (combineBindings query.combines)) :
      issue ∈ numbered number (query.bindings false ++ rest) := by
    simp only [Query.bindings_eq, Bool.false_eq_true, if_false, List.append_nil, numbered_append,
      List.mem_append]
    exact .inl (.inl (.inr hissue))
  cases command with
  | insert command => exact absurd h (List.not_mem_nil)
  | update command => exact hquery _ _ h
  | delete command =>
    have := hquery _ [] h
    rwa [List.append_nil] at this
  | text command => exact absurd h (List.not_mem_nil)

/-- The script of a command writes exactly the bindings that are not lost. -/
theorem CommandPlaced.mem_placeholders (h : CommandPlaced c command number statement)
    (p : String × Nat) : p ∈ statement.script.placeholders ↔
      ∃ i ∈ numbered number (c.bindings command), ¬ command.Loses number i ∧ i.placeholder = p := by
  -- each placeholder is written once, so the script has none that set operations would write
  have hdisjoint : Disjoint statement.script.bag (writtenBag (command.combinedIssues number)) := by
    apply Multiset.disjoint_of_nodup_add
    rw [h.script]
    exact nodup_issueBag number (c.bindings command)
  rw [← Sql.mem_bag]
  constructor
  · intro hp
    have hall : p ∈ issueBag number (c.bindings command) := by
      rw [← h.script]
      exact Multiset.mem_add.mpr (.inl hp)
    obtain ⟨i, hi, hwritten, hplaceholder⟩ := mem_writtenBag.mp hall
    refine ⟨i, hi, ?_, hplaceholder⟩
    rintro (hunwritten | hcombined)
    · rw [hwritten] at hunwritten
      exact Bool.false_ne_true hunwritten.symm
    · exact Multiset.disjoint_left.mp hdisjoint hp
        (mem_writtenBag.mpr ⟨i, hcombined, hwritten, hplaceholder⟩)
  · rintro ⟨i, hi, hkept, hplaceholder⟩
    have hwritten : i.1.written = true := by
      by_contra hunwritten
      exact hkept (.inl (by simpa using hunwritten))
    have hall : p ∈ statement.script.bag + writtenBag (command.combinedIssues number) := by
      rw [h.script]
      exact mem_writtenBag.mpr ⟨i, hi, hwritten, hplaceholder⟩
    rcases Multiset.mem_add.mp hall with hp | hp
    · exact hp
    · obtain ⟨j, hj, -, hsame⟩ := mem_writtenBag.mp hp
      have hij : i = j := numbered_inj hi (mem_numbered_of_combinedIssues hj)
        (Prod.mk.inj (hplaceholder.trans hsame.symm)).2
      exact absurd (.inr (hij ▸ hj)) hkept

/-- The script of an update or a deletion writes what is not lost, and its placeholders are its
parameters exactly if every lost name is written for another binding. -/
theorem selection_boundAsWritten_iff (hselects : command.selection?.isSome = true)
    {compiled : Compiled} (h : c.command command number = .ok compiled)
    (hstatement : statement ∈ compiled.statements) :
    (∀ p, p ∈ statement.script.placeholders ↔
      ∃ i ∈ numbered number (c.bindings command),
        ¬ command.Loses number i ∧ i.placeholder = p) ∧
    (BoundAsWritten statement ↔
      ∀ i ∈ numbered number (c.bindings command), command.Loses number i →
        ∃ j ∈ numbered number (c.bindings command),
          ¬ command.Loses number j ∧ j.name = i.name) := by
  have htext : ∀ text, command ≠ .text text := by
    rintro text rfl
    cases hselects
  have hplaced := (command_placed h).2 statement hstatement htext
  exact ⟨hplaced.mem_placeholders,
    boundAsWritten_iff hplaced.parameters hplaced.mem_placeholders⟩

/-- A schema with accounts and their owners. -/
def ownedAccounts : Compiler where
  schema := ⟨[{ name := "Account", table := "ACCOUNT", fields := [
    { property := "Id", column := "Id", role := { primaryKey := true } },
    { property := "Owner", column := "Owner" }] }]⟩

/-- The deletion of an account that is among the rows of some set operations. -/
def combinedDeletion (combines : List Combine) : Command :=
  .delete { entity := "Account", query := some {
    conditions := [⟨.and, .criterion ⟨"Id", .equal, .int 1, none⟩⟩], combines } }

/-- A deletion without set operations writes what it binds. -/
theorem plainDeletion_boundAsWritten :
    ∃ compiled, ownedAccounts.command (combinedDeletion []) 3 = .ok compiled ∧
      compiled.statements.length = 1 ∧
      ∀ statement ∈ compiled.statements, BoundAsWritten statement := by
  obtain ⟨compiled, h⟩ := exists_ok_of_isSome
    (x := ownedAccounts.command (combinedDeletion []) 3) (by decide +kernel)
  have hlength : (ownedAccounts.command (combinedDeletion []) 3).toOption.map
      (·.statements.length) = some 1 := by
    decide +kernel
  rw [h] at hlength
  refine ⟨compiled, h, Option.some.inj hlength, ?_⟩
  intro statement hstatement
  apply (selection_boundAsWritten_iff (by rfl) h hstatement).2.mpr
  intro i hi hlost
  have hwritten : ∀ i ∈ numbered 3 (ownedAccounts.bindings (combinedDeletion [])),
      i.1.written = true := by
    decide +kernel
  rcases hlost with hunwritten | hcombined
  · rw [hwritten i hi] at hunwritten
    exact absurd hunwritten.symm Bool.false_ne_true
  · exact absurd hcombined (List.not_mem_nil)

/-- A deletion of the accounts that an intersection leaves binds the owner of the intersection, and
deletes whatever has the key. -/
theorem combinedDeletion_not_boundAsWritten :
    let command := combinedDeletion [⟨.intersection, {
      entity := "Account", fields := ["Id"]
      conditions := [⟨.and, .criterion ⟨"Owner", .equal, .int 2, none⟩⟩] }⟩]
    ∃ compiled, ownedAccounts.command command 0 = .ok compiled ∧
      ∃ statement ∈ compiled.statements, statement.parameters.names = ["Id0", "Owner1"] ∧
        statement.script.placeholderNames = ["Id0"] ∧ ¬ BoundAsWritten statement := by
  intro command
  obtain ⟨compiled, h⟩ := exists_ok_of_isSome (x := ownedAccounts.command command 0)
    (by decide +kernel)
  have hread : (ownedAccounts.command command 0).toOption.map (fun compiled =>
      compiled.statements.map fun statement =>
        (statement.parameters.names, statement.script.placeholderNames)) =
      some [(["Id0", "Owner1"], ["Id0"])] := by
    decide +kernel
  rw [h] at hread
  obtain ⟨statement, hstatement, hnames⟩ := List.map_eq_singleton_iff.mp (Option.some.inj hread)
  obtain ⟨hbound, hwritten⟩ := Prod.mk.inj hnames
  refine ⟨compiled, h, statement, by simp [hstatement], hbound, hwritten, ?_⟩
  intro hall
  have howner := (hall "Owner1").mp (by rw [hbound]; decide)
  rw [hwritten] at howner
  exact absurd howner (by decide)

end QueryLoom
