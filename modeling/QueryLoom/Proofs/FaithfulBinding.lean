import QueryLoom.Proofs.Batching
import QueryLoom.Proofs.ParameterNames

/-!
# Faithful bindings

Every placeholder finds the value that it was written for, in the statements of queries and
commands and in every batch, exactly if no two of their parameters are named alike. A property that
ends in digits can take over the name of another one: nothing stands between property and number.

## Implementation notes

The parameters of a batch are those of its commands, put in one after the other, and a command on a
split entity puts the same ones in for each of its tables. Bindings are therefore compared as
members of a list in which one may stand repeatedly.
-/

namespace QueryLoom

variable {c : Compiler} {calls : List Issue} {statement : Statement}

/-- No two of some bindings are named alike. -/
def NoClash (calls : List Issue) : Prop :=
  ∀ i ∈ calls, ∀ j ∈ calls, ¬ NamesClash i.1.property i.2 j.1.property j.2

/-- Some bindings account for a statement: each has a number of its own, and the placeholders of the
script are theirs. -/
structure Accounts (calls : List Issue) (statement : Statement) : Prop where
  numbers : ∀ i ∈ calls, ∀ j ∈ calls, i.2 = j.2 → i = j
  placeholders : ∀ p ∈ statement.script.placeholders, ∃ i ∈ calls, i.placeholder = p

/-- The parameters of a statement are faithful to some bindings: their names differ, and each name
has the value of its binding. -/
structure Faithful (c : Compiler) (calls : List Issue) (statement : Statement) : Prop where
  distinct : ∀ i ∈ calls, ∀ j ∈ calls, i.name = j.name → i = j
  kept : ∀ i ∈ calls, statement.parameters.get? i.name = some (i.parameter c.conventions)

/-- Names are distinct exactly if none clash. -/
theorem distinct_iff_noClash (hnumbers : ∀ i ∈ calls, ∀ j ∈ calls, i.2 = j.2 → i = j) :
    (∀ i ∈ calls, ∀ j ∈ calls, i.name = j.name → i = j) ↔ NoClash calls := by
  constructor
  · intro hdistinct i hi j hj hclash
    have heq := hdistinct i hi j hj (parameterName_eq_of_namesClash hclash)
    subst heq
    obtain ⟨digits, hne, -, hlonger⟩ := hclash
    have hlength := congrArg String.length hlonger
    rw [String.length_append] at hlength
    exact hne (String.length_eq_zero_iff.mp (by omega))
  · intro hclash i hi j hj hname
    by_contra hne
    have hnumber : i.2 ≠ j.2 := fun heq => hne (hnumbers i hi j hj heq)
    rcases (parameterName_eq_iff hnumber).mp hname with h | h
    · exact hclash i hi j hj h
    · exact hclash j hj i hi h

/-- A statement whose parameters are some bindings put in one after the other is faithful to them
exactly if none clash. -/
theorem faithful_iff_of_inserted (haccounts : Accounts calls statement)
    (hinserted : NoClash calls → statement.parameters =
      (calls.map (Issue.parameter c.conventions)).foldl Parameters.insert Parameters.empty) :
    Faithful c calls statement ↔ NoClash calls := by
  have hiff := distinct_iff_noClash haccounts.numbers
  constructor
  · intro h
    exact hiff.mp h.distinct
  · intro hclash
    have hdistinct := hiff.mpr hclash
    refine ⟨hdistinct, ?_⟩
    intro i hi
    rw [hinserted hclash, ← Issue.name_parameter c.conventions]
    apply Parameters.get?_foldl_insert_of_unique (List.mem_map_of_mem hi)
    intro p hp hname
    obtain ⟨j, hj, rfl⟩ := List.mem_map.mp hp
    rw [Issue.name_parameter, Issue.name_parameter] at hname
    rw [hdistinct j hj i hi hname]

/-- A property that does not end in a digit takes over no name. -/
theorem noClash_of_properties
    (h : ∀ i ∈ calls, i.1.property.toList.getLast?.all (!·.isDigit) = true) : NoClash calls := by
  intro i hi j hj
  exact not_namesClash_of_getLast (h i hi)

/-! ## Statements -/

theorem accounts_of_bag {number : Nat} {bindings : List Binding}
    (h : ∀ p ∈ statement.script.bag, p ∈ issueBag number bindings) :
    Accounts (numbered number bindings) statement := by
  refine ⟨fun _ hi _ hj => numbered_inj hi hj, ?_⟩
  intro p hp
  obtain ⟨i, hi, -, hplaceholder⟩ := mem_writtenBag.mp (h p (Sql.mem_bag.mpr hp))
  exact ⟨i, hi, hplaceholder⟩

/-- A statement that reads is faithful exactly if its names do not clash. -/
theorem query_faithful_iff {query : Query} (htext : query.text = none)
    (h : c.query query = .ok statement) :
    statement.parameters = parametersOf c 0 query.statementBindings ∧
      Accounts (numbered 0 query.statementBindings) statement ∧
      (Faithful c (numbered 0 query.statementBindings) statement ↔
        NoClash (numbered 0 query.statementBindings)) := by
  obtain ⟨hparameters, hbag⟩ := query_placed htext h
  have haccounts : Accounts (numbered 0 query.statementBindings) statement :=
    accounts_of_bag fun p hp => hbag ▸ hp
  exact ⟨hparameters, haccounts, faithful_iff_of_inserted haccounts fun _ => hparameters⟩

theorem CommandPlaced.accounts {command : Command} {number : Nat}
    (h : CommandPlaced c command number statement) :
    Accounts (numbered number (c.bindings command)) statement := by
  apply accounts_of_bag
  intro p hp
  rw [← h.script]
  exact Multiset.mem_add.mpr (.inl hp)

/-- A statement that writes is faithful exactly if its names do not clash. -/
theorem CommandPlaced.faithful_iff {command : Command} {number : Nat}
    (h : CommandPlaced c command number statement) :
    Faithful c (numbered number (c.bindings command)) statement ↔
      NoClash (numbered number (c.bindings command)) :=
  faithful_iff_of_inserted h.accounts fun _ => h.parameters

/-! ## Batches -/

/-- The bindings of a command at the number where it is compiled. -/
def Part.issues (c : Compiler) (p : Part) : List Issue := numbered p.number (c.bindings p.command)

/-- The bindings of the commands that a batch has statements of. -/
def batchCalls (c : Compiler) (entries : List Contribution) : List Issue :=
  entries.flatMap fun e => e.1.issues c

theorem mem_batchCalls {entries : List Contribution} {i : Issue} :
    i ∈ batchCalls c entries ↔ ∃ e ∈ entries, i ∈ e.1.issues c := List.mem_flatMap

/-- A statement with a compilation that yields it. -/
def Contribution.Valid (c : Compiler) (e : Contribution) : Prop :=
  e.1.Compiles c ∧ e.2 ∈ e.1.compiled.statements

/-- What a text command yields runs alone, and writes no placeholders. -/
theorem Contribution.Valid.of_text {e : Contribution} {text : TextCommand} (h : e.Valid c)
    (htext : e.1.command = .text text) :
    e.2.alone = true ∧ e.2.script.placeholders = [] ∧ e.1.issues c = [] := by
  obtain ⟨hcompiles, hmem⟩ := h
  rw [Part.Compiles, htext] at hcompiles
  have hcompiled : e.1.compiled = Compiler.text text e.1.number := by
    injection hcompiles with hcompiles
    exact hcompiles.symm
  rw [hcompiled] at hmem
  rw [List.mem_singleton.mp hmem, Part.issues, htext]
  exact ⟨rfl, Sql.placeholders_text _, rfl⟩

/-- Every other command yields statements with its bindings. -/
theorem Contribution.Valid.placed {e : Contribution} (h : e.Valid c)
    (htext : ∀ text, e.1.command ≠ .text text) :
    CommandPlaced c e.1.command e.1.number e.2 :=
  (command_placed h.1).2 e.2 h.2 htext

theorem Contribution.Valid.accounts {e : Contribution} (h : e.Valid c) :
    Accounts (e.1.issues c) e.2 := by
  by_cases htext : ∃ text, e.1.command = .text text
  · obtain ⟨text, htext⟩ := htext
    obtain ⟨-, hscript, hcalls⟩ := h.of_text htext
    rw [hcalls]
    refine ⟨fun i hi => absurd hi (List.not_mem_nil), ?_⟩
    rw [hscript]
    exact fun p hp => absurd hp (List.not_mem_nil)
  · exact (h.placed (not_exists.mp htext)).accounts

theorem Contribution.Valid.faithful_iff {e : Contribution} (h : e.Valid c) :
    Faithful c (e.1.issues c) e.2 ↔ NoClash (e.1.issues c) := by
  by_cases htext : ∃ text, e.1.command = .text text
  · obtain ⟨text, htext⟩ := htext
    obtain ⟨-, -, hcalls⟩ := h.of_text htext
    rw [hcalls]
    constructor
    · exact fun _ i hi => absurd hi (List.not_mem_nil)
    · exact fun _ => ⟨fun i hi => absurd hi (List.not_mem_nil),
        fun i hi => absurd hi (List.not_mem_nil)⟩
  · exact (h.placed (not_exists.mp htext)).faithful_iff

/-- Different commands of one batch have different numbers. -/
theorem Together.calls_numbers {entries : List Contribution} (h : Together entries)
    (hvalid : ∀ e ∈ entries, e.Valid c) :
    ∀ i ∈ batchCalls c entries, ∀ j ∈ batchCalls c entries, i.2 = j.2 → i = j := by
  have hends (e : Contribution) (he : e ∈ entries) :
      e.1.compiled.nextParameter = e.1.number + (c.bindings e.1.command).length :=
    (command_placed (hvalid e he).1).1
  have hsame (e : Contribution) {i j : Issue} (hi : i ∈ e.1.issues c) (hj : j ∈ e.1.issues c)
      (hij : i.2 = j.2) : i = j := numbered_inj hi hj hij
  have hcases : ∀ a ∈ entries, ∀ b ∈ entries, a.1 = b.1 ∨ a.1.Before b.1 ∨ b.1.Before a.1 := by
    apply List.Pairwise.forall_of_forall_of_flip
    · exact fun a _ => .inl rfl
    · exact h.ordered.imp fun h => h.elim .inl fun h => .inr (.inl h)
    · exact h.ordered.imp fun h => h.elim (fun h => .inl h.symm) fun h => .inr (.inr h)
  intro i hi j hj hij
  obtain ⟨a, ha, hia⟩ := mem_batchCalls.mp hi
  obtain ⟨b, hb, hjb⟩ := mem_batchCalls.mp hj
  have hrangeI := number_of_mem_numbered hia
  have hrangeJ := number_of_mem_numbered hjb
  have hendA := hends a ha
  have hendB := hends b hb
  rcases hcases a ha b hb with heq | ⟨-, hbefore⟩ | ⟨-, hbefore⟩
  · exact hsame a hia (heq ▸ hjb) hij
  · omega
  · omega

theorem gathered_scripts (entries : List Contribution) :
    (gathered entries).scripts = entries.map (·.2.script) := by
  rw [gathered_eq_ofList, OpenBatch.scripts_ofList, List.map_map]
  rfl

/-- A batch puts in the parameters of its statements one after the other. -/
theorem gathered_parameters (entries : List Contribution) :
    (gathered entries).parameters =
      (entries.flatMap (·.2.parameters.items)).foldl Parameters.insert Parameters.empty := by
  induction entries using List.reverseRecOn with
  | nil => rfl
  | append_singleton front e ih =>
    rw [gathered_append, OpenBatch.append, ih, Parameters.union, List.flatMap_append,
      List.foldl_append, List.flatMap_singleton]

/-- Where no names clash, a statement holds its bindings in order. -/
theorem CommandPlaced.items {command : Command} {number : Nat}
    (h : CommandPlaced c command number statement)
    (hclash : NoClash (numbered number (c.bindings command))) :
    statement.parameters.items =
      (numbered number (c.bindings command)).map (Issue.parameter c.conventions) := by
  have hdistinct := (distinct_iff_noClash h.accounts.numbers).mpr hclash
  rw [h.parameters, parametersOf, Parameters.items_foldl_insert]
  · rfl
  · have hnames : ((numbered number (c.bindings command)).map Issue.name).Nodup :=
      List.Nodup.map_on hdistinct (nodup_numbered _ _)
    simpa [Parameters.names, Parameters.empty, Function.comp_def] using hnames

/-- A batch in one text is faithful exactly if the names of all its commands do not clash. -/
theorem Together.faithful_iff {entries : List Contribution} (h : Together entries)
    (hvalid : ∀ e ∈ entries, e.Valid c) :
    Accounts (batchCalls c entries) (gathered entries).close ∧
      (Faithful c (batchCalls c entries) (gathered entries).close ↔
        NoClash (batchCalls c entries)) := by
  have hplaced : ∀ e ∈ entries, CommandPlaced c e.1.command e.1.number e.2 := by
    intro e he
    apply (hvalid e he).placed
    intro text htext
    have halone := ((hvalid e he).of_text htext).1
    rw [h.shared e he] at halone
    exact Bool.false_ne_true halone
  have haccounts : Accounts (batchCalls c entries) (gathered entries).close := by
    refine ⟨h.calls_numbers hvalid, ?_⟩
    intro p hp
    have hbag : p ∈ Sql.bag (Sql.separated "\n" (gathered entries).scripts) := Sql.mem_bag.mpr hp
    rw [gathered_scripts, Sql.mem_bag_separated] at hbag
    obtain ⟨script, hscript, hp⟩ := hbag
    obtain ⟨e, he, rfl⟩ := List.mem_map.mp hscript
    obtain ⟨i, hi, hplaceholder⟩ := (hplaced e he).accounts.placeholders p (Sql.mem_bag.mp hp)
    exact ⟨i, mem_batchCalls.mpr ⟨e, he, hi⟩, hplaceholder⟩
  refine ⟨haccounts, faithful_iff_of_inserted haccounts ?_⟩
  intro hclash
  -- without clashes no statement has lost a binding, so the batch takes in all of them
  have hitems : ∀ e ∈ entries,
      e.2.parameters.items = (e.1.issues c).map (Issue.parameter c.conventions) := by
    intro e he
    apply (hplaced e he).items
    intro i hi j hj
    exact hclash i (mem_batchCalls.mpr ⟨e, he, hi⟩) j (mem_batchCalls.mpr ⟨e, he, hj⟩)
  change (gathered entries).parameters = _
  rw [gathered_parameters, batchCalls, List.map_flatMap]
  congr 1
  exact List.flatMap_congr hitems

/-- A batch is faithful exactly if the names of its commands do not clash. -/
theorem BatchOf.faithful_iff {batch : Statement} {entries : List Contribution}
    (h : BatchOf batch entries) (hvalid : ∀ e ∈ entries, e.Valid c) :
    Accounts (batchCalls c entries) batch ∧
      (Faithful c (batchCalls c entries) batch ↔ NoClash (batchCalls c entries)) := by
  cases h with
  | alone e halone =>
    have hcalls : batchCalls c [e] = e.1.issues c := by simp [batchCalls]
    rw [hcalls]
    have he := hvalid e (List.mem_singleton_self e)
    exact ⟨he.accounts, he.faithful_iff⟩
  | together entries htogether => exact htogether.faithful_iff hvalid

/-- Every statement in the batches of commands comes from the compilation of its command. -/
theorem PartsOf.valid {commands : List Command} {parts : List Part}
    {groups : List (List Contribution)} (h : PartsOf c 0 commands parts)
    (hflat : groups.flatten = parts.flatMap Part.contributions) :
    ∀ group ∈ groups, ∀ e ∈ group, e.Valid c := by
  intro group hgroup e he
  have hmem : e ∈ parts.flatMap Part.contributions := by
    rw [← hflat]
    exact List.mem_flatten_of_mem hgroup he
  obtain ⟨p, hp, hcontribution⟩ := List.mem_flatMap.mp hmem
  obtain ⟨statement, hstatement, rfl⟩ := List.mem_map.mp hcontribution
  exact ⟨h.compiles p hp, hstatement⟩

/-- The statement of every query, the statements of every command at every number, and the batches
of every list of commands are faithful to what was bound for them exactly if no names clash. What
is bound are the bindings of the tree, numbered one after the other. -/
theorem faithful_iff_noClash (c : Compiler) :
    (∀ query statement, query.text = none → c.query query = .ok statement →
      statement.parameters = parametersOf c 0 query.statementBindings ∧
        Accounts (numbered 0 query.statementBindings) statement ∧
        (Faithful c (numbered 0 query.statementBindings) statement ↔
          NoClash (numbered 0 query.statementBindings))) ∧
    (∀ command number compiled, (∀ text, command ≠ .text text) →
      c.command command number = .ok compiled →
      compiled.nextParameter = number + (c.bindings command).length ∧
        ∀ statement ∈ compiled.statements,
          statement.parameters = parametersOf c number (c.bindings command) ∧
          Accounts (numbered number (c.bindings command)) statement ∧
          (Faithful c (numbered number (c.bindings command)) statement ↔
            NoClash (numbered number (c.bindings command)))) ∧
    (∀ limits commands batches count, c.batches limits commands = .ok (batches, count) →
      ∃ parts groups, PartsOf c 0 commands parts ∧
        groups.flatten = parts.flatMap Part.contributions ∧
        List.Forall₂ (fun batch group => BatchOf batch group ∧
          Accounts (batchCalls c group) batch ∧
            (Faithful c (batchCalls c group) batch ↔ NoClash (batchCalls c group)))
          batches groups) := by
  refine ⟨fun query statement => query_faithful_iff, ?_, ?_⟩
  · intro command number compiled htext h
    obtain ⟨hnext, hall⟩ := command_placed h
    refine ⟨hnext, ?_⟩
    intro statement hstatement
    have hplaced := hall statement hstatement htext
    exact ⟨hplaced.parameters, hplaced.accounts, hplaced.faithful_iff⟩
  · intro limits commands batches count h
    obtain ⟨parts, groups, hparts, hbatches, hflat, -⟩ := batches_grouped h
    refine ⟨parts, groups, hparts, hflat, ?_⟩
    have hvalid := hparts.valid hflat
    have hboth := (List.forall₂_and_left _ _).mpr ⟨hvalid, hbatches.flip⟩
    refine hboth.flip.imp ?_
    rintro batch group ⟨hgroup, hbatch⟩
    exact ⟨hbatch, hbatch.faithful_iff hgroup⟩

/-- A schema with one entity of some properties. -/
def accountCompiler (properties : List String) : Compiler where
  schema := ⟨[{ name := "Account", table := "ACCOUNT"
                fields := properties.map fun name => { property := name, column := name } }]⟩

/-- The deletion of the accounts with some values of two properties. -/
def accountDeletion (first second : String) : Command :=
  .delete { entity := "Account", query := some { conditions := [
    ⟨.and, .criterion ⟨first, .equal, .int 1, none⟩⟩,
    ⟨.and, .criterion ⟨second, .equal, .int 2, none⟩⟩] } }

/-- Properties that do not end in digits are bound faithfully. -/
theorem deletion_faithful :
    let c := accountCompiler ["Id", "Owner"]
    let command := accountDeletion "Id" "Owner"
    ∃ compiled, c.command command 9 = .ok compiled ∧ compiled.statements.length = 1 ∧
      ∀ statement ∈ compiled.statements,
        Faithful c (numbered 9 (c.bindings command)) statement := by
  intro c command
  obtain ⟨compiled, h⟩ := exists_ok_of_isSome (x := c.command command 9) (by decide +kernel)
  have hlength : (c.command command 9).toOption.map (·.statements.length) = some 1 := by
    decide +kernel
  have htext : ∀ text, command ≠ .text text := by
    intro text heq
    simp only [command, accountDeletion, reduceCtorEq] at heq
  rw [h] at hlength
  refine ⟨compiled, h, Option.some.inj hlength, ?_⟩
  intro statement hstatement
  have hall := ((faithful_iff_noClash c).2.1 command 9 compiled htext h).2
  apply (hall statement hstatement).2.2.mpr
  apply noClash_of_properties
  decide +kernel

/-- An insertion of eleven properties, the last of which is the first one without its digit. -/
def clashingInsertion : Command :=
  .insert { entity := "Account", values := [("A1", .text "first"), ("A", .text "last")] }

/-- The first property is numbered 0 and the last one 10, so that both are bound as `A10`, and the
placeholder of the first value finds the last one. -/
theorem insertion_not_faithful :
    let c := accountCompiler ["A1", "B", "C", "D", "E", "F", "G", "H", "I", "J", "A"]
    ∃ compiled, c.command clashingInsertion 0 = .ok compiled ∧
      ∃ statement ∈ compiled.statements,
        ("A1", 0) ∈ statement.script.placeholders ∧
        (statement.parameters.get? (parameterName "A1" 0)).map (·.value.bareText) = some "last" ∧
        ¬ Faithful c (numbered 0 (c.bindings clashingInsertion)) statement := by
  intro c
  obtain ⟨compiled, h⟩ := exists_ok_of_isSome (x := c.command clashingInsertion 0)
    (by decide +kernel)
  have hread : (c.command clashingInsertion 0).toOption.map (fun compiled =>
      compiled.statements.map fun statement =>
        (statement.script.placeholders.contains ("A1", 0),
          (statement.parameters.get? (parameterName "A1" 0)).map (·.value.bareText))) =
      some [(true, some "last")] := by
    decide +kernel
  rw [h] at hread
  obtain ⟨statement, hstatement, hvalue⟩ := List.map_eq_singleton_iff.mp (Option.some.inj hread)
  obtain ⟨hplaceholder, hvalue⟩ := Prod.mk.inj hvalue
  refine ⟨compiled, h, statement, by simp [hstatement], by simpa using hplaceholder, hvalue, ?_⟩
  intro hfaithful
  have hshared : ∃ i ∈ numbered 0 (c.bindings clashingInsertion),
      ∃ j ∈ numbered 0 (c.bindings clashingInsertion), i.name = j.name ∧ i.2 ≠ j.2 := by
    decide +kernel
  obtain ⟨i, hi, j, hj, hname, hnumber⟩ := hshared
  exact hnumber (congrArg Prod.snd (hfaithful.distinct i hi j hj hname))

end QueryLoom
