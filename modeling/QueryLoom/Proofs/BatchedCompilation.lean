import QueryLoom.Proofs.RenamedParameters
import QueryLoom.Proofs.ShiftedCommands

/-!
# Batches and single statements

Commands compiled in batches against the same commands compiled one after the other. They fail
alike, and otherwise the batches hold the same statements in the same order, each with its
placeholders numbered some way back. The parameters are the same ones renamed exactly if the same
pairs of bindings share a name at both numbers.

## Implementation notes

In batches a command is numbered from where the grouping stands, and otherwise from the end of the
command before it, which is at least as far. One induction over the commands works through both at
once.
-/

namespace QueryLoom

variable {c : Compiler}

/-! ## What a batch holds -/

/-- A statement that may run with others: a text without a traversal. -/
structure Shared (statement : Statement) : Prop where
  alone : statement.alone = false
  kind : statement.kind = .text
  hasTraversal : statement.hasTraversal = false

/-- A batch holds one statement that runs alone, as it is, or several that do not: their scripts a
line each, their parameters put together, and data to be changed if any of them has some. -/
inductive Holds : Statement → List Statement → Prop where
  | alone (statement : Statement) (h : statement.alone = true) : Holds statement [statement]
  | together (batch : Statement) (statements : List Statement) (nonempty : statements ≠ [])
      (members : ∀ s ∈ statements, Shared s)
      (script : batch.script = Sql.separated "\n" (statements.map (·.script)))
      (parameters : batch.parameters =
        statements.foldl (fun ps s => ps.union s.parameters) Parameters.empty)
      (mustAffect : batch.mustAffect = statements.any (·.mustAffect)) (shared : Shared batch) :
      Holds batch statements

theorem BatchOf.holds {batch : Statement} {entries : List Contribution}
    (hentries : ∀ e ∈ entries, e.2.alone = false → Shared e.2) (h : BatchOf batch entries) :
    Holds batch (entries.map Prod.snd) := by
  cases h with
  | alone e halone => exact .alone e.2 halone
  | together entries htogether =>
    rw [gathered_eq_ofList, OpenBatch.close_ofList]
    refine .together _ _ ?_ ?_ rfl rfl rfl ⟨rfl, rfl, rfl⟩
    · simpa using htogether.nonempty
    · intro s hs
      obtain ⟨e, he, rfl⟩ := List.mem_map.mp hs
      exact hentries e he (htogether.shared e he)

theorem perTable_shared (tables : List String) (scope : Scope) (mustAffect hasTraversal : Bool)
    (script : String → Sql) :
    ∀ s ∈ (c.perTable tables scope mustAffect hasTraversal script).statements,
      s.alone = false → Shared s := by
  intro s hs halone
  obtain ⟨table, -, rfl⟩ := List.mem_map.mp hs
  exact ⟨halone, rfl, halone⟩

/-- A statement that does not run alone is a text without a traversal, whatever its command is. -/
theorem command_shared {command : Command} {number : Nat} {compiled : Compiled}
    (h : c.command command number = .ok compiled) :
    ∀ s ∈ compiled.statements, s.alone = false → Shared s := by
  cases command with
  | insert command =>
    obtain ⟨_, _, _, _, -, -, -, -, rfl⟩ := insert_eq_ok h
    exact perTable_shared _ _ _ _ _
  | update command =>
    obtain ⟨_, _, _, _, _, _, _, -, -, -, -, -, ⟨-, _, -, -, rfl⟩ | ⟨-, rfl⟩⟩ := update_eq_ok h
    · exact perTable_shared _ _ _ _ _
    · exact perTable_shared _ _ _ _ _
  | delete command =>
    obtain ⟨_, _, _, _, -, -, -, ⟨-, _, -, rfl⟩ | ⟨-, rfl⟩⟩ := delete_eq_ok h
    · exact perTable_shared _ _ _ _ _
    · exact perTable_shared _ _ _ _ _
  | text command =>
    cases h
    intro s hs halone
    rw [List.mem_singleton.mp hs] at halone
    exact absurd halone Bool.noConfusion

/-- What the batches of a grouping hold are the statements of its parts, in order. -/
theorem finish_holds {limits : BatchLimits} {commands : List Command} {parts : List Part}
    (hparts : PartsOf c 0 commands parts) (h : Threaded c (Batcher.ofLimits limits) 0 parts) :
    ∃ groups, groups.flatten = parts.flatMap (·.compiled.statements) ∧
      List.Forall₂ Holds ((Batcher.ofLimits limits).after parts).finish groups := by
  obtain ⟨closed, opened, hgrouped, hflat, -⟩ := h.grouped_ofLimits
  obtain ⟨groups, hflush, hflat'⟩ := hgrouped.flush
  have hall : groups.flatten = parts.flatMap Part.contributions := hflat'.trans hflat
  refine ⟨groups.map (List.map Prod.snd), ?_, List.forall₂_map_right_iff.mpr ?_⟩
  · rw [← List.map_flatten, hall, List.map_flatMap]
    simp only [Part.contributions, List.map_map, Function.comp_def, List.map_id']
  · have hentries : ∀ group ∈ groups, ∀ e ∈ group, e.2.alone = false → Shared e.2 := by
      intro group hgroup e he
      have hmem : e ∈ groups.flatten := List.mem_flatten_of_mem hgroup he
      rw [hall] at hmem
      obtain ⟨p, hp, hcontribution⟩ := List.mem_flatMap.mp hmem
      obtain ⟨s, hs, rfl⟩ := List.mem_map.mp hcontribution
      exact command_shared (hparts.compiles p hp) s hs
    refine forall₂_imp_of_mem hflush.closed ?_
    intro batch _ group hgroup hbatch
    exact hbatch.holds (hentries group hgroup)

/-! ## A command at two numbers -/

/-- A statement is another one of the same command with its placeholders numbered further on, and
its parameters are renamed accordingly exactly if the same pairs of bindings share a name at both
numbers, in particular where no names clash. -/
structure Renumbered (c : Compiler) (command : Command) (m k : Nat) (a b : Statement) : Prop where
  shift : Statement.ShiftOf k a b
  parameters : RenamedFrom (c.bindings command) m (m + k) a.parameters b.parameters ↔
    ShareAlike (c.bindings command) m (m + k)
  renamed : NoClash (numbered m (c.bindings command)) →
    NoClash (numbered (m + k) (c.bindings command)) →
    RenamedFrom (c.bindings command) m (m + k) a.parameters b.parameters

/-- The compilations of a command in batches and on its own: the latter is some numbers further on
with every statement. A text is the same. -/
structure Counterpart (c : Compiler) (p q : Part) : Prop where
  place : q.place = p.place
  command : q.command = p.command
  statements : ∃ k, q.number = p.number + k ∧
    List.Forall₂ (Renumbered c p.command p.number k) p.compiled.statements q.compiled.statements
  text : ∀ text, p.command = .text text → q.compiled.statements = p.compiled.statements

/-- At any two numbers the parameters of a statement are renamed exactly if the same pairs of
bindings share a name at both. -/
theorem renumbered_of_shift {command : Command} {m k : Nat} {compiled compiled' : Compiled}
    (hm : c.command command m = .ok compiled) (hk : c.command command (m + k) = .ok compiled')
    (htext : ∀ text, command ≠ .text text) (h : Compiled.ShiftOf k compiled compiled') :
    List.Forall₂ (Renumbered c command m k) compiled.statements compiled'.statements := by
  refine forall₂_imp_of_mem h.statements ?_
  intro a ha b hb hshift
  have hparameters := ((command_placed hm).2 a ha htext).parameters
  have hparameters' := ((command_placed hk).2 b hb htext).parameters
  have hiff : RenamedFrom (c.bindings command) m (m + k) (parametersOf c m (c.bindings command))
      (parametersOf c (m + k) (c.bindings command)) ↔
        ShareAlike (c.bindings command) m (m + k) := renamedFrom_iff
  rw [← hparameters, ← hparameters'] at hiff
  exact ⟨hshift, hiff, fun hm hn => hiff.mpr (shareAlike_of_noClash hm hn)⟩

/-- A text is the same at every number, and binds nothing that could be renamed. -/
theorem renumbered_text (command : TextCommand) (m k : Nat) :
    List.Forall₂ (Renumbered c (.text command) m k) (Compiler.text command m).statements
      (Compiler.text command (m + k)).statements := by
  have hrenamed : RenamedFrom (c.bindings (.text command)) m (m + k) command.parameters
      command.parameters :=
    ⟨id, fun x hx => absurd hx List.not_mem_nil, (Parameters.renamed_id _).symm⟩
  have halike : ShareAlike (c.bindings (.text command)) m (m + k) :=
    fun x hx => absurd hx List.not_mem_nil
  exact .cons ⟨⟨(Sql.shift_text k _).symm, rfl, rfl, rfl, rfl⟩, iff_of_true hrenamed halike,
    fun _ _ => hrenamed⟩ .nil

theorem Counterpart.of_shift {command : Command} {place number k : Nat}
    {compiled compiled' : Compiled} (hm : c.command command number = .ok compiled)
    (hk : c.command command (number + k) = .ok compiled')
    (h : Compiled.ShiftOf k compiled compiled') :
    Counterpart c ⟨place, command, number, compiled⟩ ⟨place, command, number + k, compiled'⟩ := by
  by_cases htext : ∃ text, command = .text text
  · obtain ⟨text, rfl⟩ := htext
    cases hm
    cases hk
    exact ⟨rfl, rfl, ⟨k, rfl, renumbered_text text number k⟩, fun _ _ => rfl⟩
  · have hnone : ∀ text, command ≠ .text text := fun text heq => htext ⟨text, heq⟩
    exact ⟨rfl, rfl, ⟨k, rfl, renumbered_of_shift hm hk hnone h⟩,
      fun text heq => absurd heq (hnone text)⟩

/-! ## Two ways through the commands -/

theorem Batcher.add_nextParameter_le (b : Batcher) (compiled : Compiled) :
    (b.add compiled).nextParameter ≤ compiled.nextParameter := by
  unfold Batcher.add
  dsimp only
  split
  · exact Nat.le_refl _
  · exact Nat.zero_le _

/-- Commands compiled one after the other agree with what a grouping takes in of them, wherever it
stands no further on. -/
theorem addCommands_agree (commands : List Command) {b : Batcher} {number : Nat}
    (count place : Nat) (hnumber : b.nextParameter ≤ number) :
    Agree (fun r statements => ∃ parts plain, PartsOf c place commands parts ∧
        PartsOf c place commands plain ∧ Threaded c b place parts ∧ r.1 = b.after parts ∧
        r.2 = count + statements.length ∧ List.Forall₂ (Counterpart c) parts plain ∧
        statements = plain.flatMap (·.compiled.statements))
      (c.addCommands b count commands) (c.commandsFrom number commands) := by
  induction commands generalizing b number count place with
  | nil => exact .ok ⟨[], [], ⟨rfl, by simp⟩, ⟨rfl, by simp⟩, trivial, rfl, rfl, .nil, rfl⟩
  | cons command rest ih =>
    obtain ⟨k, rfl⟩ := Nat.exists_eq_add_of_le hnumber
    rw [Compiler.addCommands, Compiler.commandsFrom]
    have hcommand := command_shift (c := c) (k := k) command b.nextParameter
    generalize hm : c.command command b.nextParameter = x at hcommand ⊢
    generalize hk : c.command command (b.nextParameter + k) = y at hcommand ⊢
    cases hcommand with
    | error e => exact .error e
    | @ok compiled compiled' hshift =>
      have hle : (b.add compiled).nextParameter ≤ compiled'.nextParameter := by
        rw [hshift.nextParameter]
        exact (b.add_nextParameter_le compiled).trans (Nat.le_add_right _ _)
      refine (ih (count + compiled.statements.length) (place + 1) hle).bind_pure ?_
      rintro ⟨b', count'⟩ others
        ⟨parts, plain, hparts, hplain, hthreaded, hafter, hcount, hmatch, rfl⟩
      let p : Part := ⟨place, command, b.nextParameter, compiled⟩
      let q : Part := ⟨place, command, b.nextParameter + k, compiled'⟩
      refine ⟨p :: parts, q :: plain, .cons (p := p) hm rfl hparts, .cons (p := q) hk rfl hplain,
        ⟨rfl, rfl, hm, hthreaded⟩, hafter, ?_, .cons (.of_shift hm hk hshift) hmatch, rfl⟩
      rw [hcount, hshift.statements.length_eq, List.length_append, Nat.add_assoc]

/-- Commands compiled in batches and one after the other fail with the same error, or the statements
of every command are held by the batches in order, each once, and are renumbered by the same shift
when the commands are compiled one after the other. -/
theorem batches_agree (c : Compiler) (limits : BatchLimits) (commands : List Command) :
    Agree (fun (batches, count) statements => count = statements.length ∧
        ∃ parts plain groups, PartsOf c 0 commands parts ∧ PartsOf c 0 commands plain ∧
          List.Forall₂ (Counterpart c) parts plain ∧
          statements = plain.flatMap (·.compiled.statements) ∧
          groups.flatten = parts.flatMap (·.compiled.statements) ∧
          List.Forall₂ Holds batches groups)
      (c.batches limits commands) (c.commands commands) := by
  have hagree := addCommands_agree (c := c) (b := Batcher.ofLimits limits) commands 0 0
    (Nat.le_refl 0)
  refine hagree.pure_bind ?_
  rintro ⟨b, count⟩ statements
    ⟨parts, plain, hparts, hplain, hthreaded, rfl, hcount, hmatch, hstatements⟩
  obtain ⟨groups, hflat, hholds⟩ := finish_holds hparts hthreaded
  have hlength : count = statements.length := by simpa using hcount
  exact ⟨hlength, parts, plain, groups, hparts, hplain, hmatch, hstatements, hflat, hholds⟩

/-- The second of two insertions shares a name where its batch starts at zero, and none behind the
first one: ten parameters in the batch, and eleven otherwise. -/
theorem clashingInsertions_not_renamed :
    let c := accountCompiler ["A1", "B", "C", "D", "E", "F", "G", "H", "I", "J", "A"]
    let commands := [clashingInsertion, clashingInsertion]
    ∃ first second plain₁ plain₂,
      c.batches { statements := 1 } commands = .ok ([first, second], 2) ∧
      c.commands commands = .ok [plain₁, plain₂] ∧
      second.parameters.items.length = 10 ∧ plain₂.parameters.items.length = 11 ∧
      ∀ f, plain₂.parameters ≠ second.parameters.renamed f := by
  intro c commands
  obtain ⟨⟨batches, count⟩, hbatches⟩ := exists_ok_of_isSome
    (x := c.batches { statements := 1 } commands) (by decide +kernel)
  obtain ⟨statements, hstatements⟩ := exists_ok_of_isSome
    (x := c.commands commands) (by decide +kernel)
  have hread : (c.batches { statements := 1 } commands).toOption.map (fun (batches, count) =>
      (batches.map (·.parameters.items.length), count)) = some ([10, 10], 2) := by
    decide +kernel
  have hplain : (c.commands commands).toOption.map (fun statements =>
      statements.map (·.parameters.items.length)) = some [10, 11] := by
    decide +kernel
  rw [hbatches] at hread
  rw [hstatements] at hplain
  obtain ⟨hsizes, rfl⟩ := Prod.mk.inj (Option.some.inj hread)
  obtain ⟨first, rest, rfl, -, hrest⟩ := List.map_eq_cons_iff.mp hsizes
  obtain ⟨second, rfl, hsecond⟩ := List.map_eq_singleton_iff.mp hrest
  obtain ⟨plain₁, rest, rfl, -, hrest⟩ := List.map_eq_cons_iff.mp (Option.some.inj hplain)
  obtain ⟨plain₂, rfl, hlast⟩ := List.map_eq_singleton_iff.mp hrest
  refine ⟨first, second, plain₁, plain₂, hbatches, hstatements, hsecond, hlast, ?_⟩
  intro f heq
  rw [heq, Parameters.renamed, List.length_map, hsecond] at hlast
  exact absurd hlast (by decide)

end QueryLoom
