import QueryLoom.Proofs.ShiftedCompilation
import QueryLoom.Statement.Writing

/-!
# Commands from another number on

Neither whether a command compiles nor what its scripts say depends on the number at which its
parameters start: some numbers further on it fails with the same error, or yields the same scripts
with their placeholders numbered further on.
-/

namespace QueryLoom

/-- A statement is another one with its placeholders numbered further on. Nothing is said about the
parameters. -/
structure Statement.ShiftOf (k : Nat) (a b : Statement) : Prop where
  script : b.script = a.script.shift k
  kind : b.kind = a.kind
  mustAffect : b.mustAffect = a.mustAffect
  hasTraversal : b.hasTraversal = a.hasTraversal
  alone : b.alone = a.alone

/-- The statements of a command are those of another compilation with their placeholders numbered
further on, and parameters continue further on. -/
structure Compiled.ShiftOf (k : Nat) (a b : Compiled) : Prop where
  statements : List.Forall₂ (Statement.ShiftOf k) a.statements b.statements
  nextParameter : b.nextParameter = a.nextParameter + k

variable {c : Compiler} {k : Nat}

theorem Shifts.runFrom {α : Type} {f : α → α} {m n : Compile α} (h : Shifts k f m n)
    (number : Nat) :
    Agree (fun a b => b.1 = f a.1 ∧ Scope.Ahead k a.2 b.2) (m.runFrom number)
      (n.runFrom (number + k)) :=
  Corresponds.runFrom h ⟨rfl, rfl⟩

/-- The statements of all physical tables are renumbered alike. -/
theorem perTable_shift {tables : List String} {s t : Scope} {mustAffect hasTraversal : Bool}
    {script script' : String → Sql} (hscope : Scope.Ahead k s t)
    (hscript : ∀ table, script' table = (script table).shift k) :
    Compiled.ShiftOf k (c.perTable tables s mustAffect hasTraversal script)
      (c.perTable tables t mustAffect hasTraversal script') := by
  refine ⟨?_, hscope.1⟩
  refine List.forall₂_map_right_iff.mpr (List.forall₂_map_left_iff.mpr ?_)
  exact List.forall₂_same.mpr fun table _ => ⟨hscript _, rfl, rfl, rfl, rfl⟩

/-! ## Insertions -/

theorem insertedColumns_shifts (values : List (String × Value)) (fields : List Field) :
    Shifts k (Prod.map id (List.map (Sql.shift k))) (c.insertedColumns values fields)
      (c.insertedColumns values fields) := by
  induction fields with
  | nil => exact shifts_pure rfl
  | cons field rest ih =>
    refine (bind_shifts _ _).bind fun placeholder => ?_
    refine ih.bind fun others => ?_
    exact shifts_pure rfl

theorem returning_shifts (field : Option Field) :
    Shifts k (Sql.shift k) (c.returning field) (c.returning field) := by
  cases field with
  | none => exact shifts_pure rfl
  | some field =>
    refine (bindOutput_shifts _).bind fun output => ?_
    exact shifts_pure (by simp)

theorem insertBody_shifts (entity : Entity) (values : List (String × Value)) :
    Shifts k (Sql.shift k) (c.insertBody entity values) (c.insertBody entity values) := by
  refine (insertedColumns_shifts values _).bind fun inserted => ?_
  refine (returning_shifts _).bind fun returning => ?_
  exact shifts_pure (by simp)

theorem insert_shift (command : InsertCommand) (number : Nat) :
    Agree (Compiled.ShiftOf k) (c.insert command number) (c.insert command (number + k)) := by
  unfold Compiler.insert
  refine Agree.bind_same fun entity => ?_
  split
  · exact .error _
  · refine Agree.bind_same fun checked => ?_
    refine ((insertBody_shifts entity command.values).runFrom number).bind ?_
    rintro ⟨body, s⟩ ⟨_, t⟩ ⟨rfl, hscope⟩
    refine Agree.bind_same fun tables => ?_
    exact .ok (perTable_shift hscope fun table => by simp)

/-! ## Updates and deletions -/

@[simp] theorem needsKeys_shift (clauses : Clauses) :
    Compiler.needsKeys (clauses.shift k) = Compiler.needsKeys clauses := by
  simp [Compiler.needsKeys]

theorem setItems_shifts (entity : Entity) (assignments : List (String × Assignment)) :
    Shifts k (Prod.map (List.map (Sql.shift k)) id) (c.setItems entity assignments)
      (c.setItems entity assignments) := by
  induction assignments with
  | nil => exact shifts_pure rfl
  | cons first rest ih =>
    obtain ⟨property, assignment⟩ := first
    refine (shifts_liftM _).bind fun field => ?_
    cases assignment with
    | value value =>
      refine (bind_shifts property value).bind fun operand => ?_
      refine ih.bind fun others => ?_
      exact shifts_pure (by simp)
    | calculate op value =>
      refine (bind_shifts property value).bind fun operand => ?_
      refine ih.bind fun others => ?_
      exact shifts_pure (by simp)

/-- The clauses of an update with its SET items and their fields. -/
theorem selectionAndItems_shifts (query : Query) (entity : Entity)
    (assignments : List (String × Assignment)) :
    let body : Compile (Clauses × List Sql × List Field) := do
      let clauses ← query.clauses c query.fields rootAlias false
      let (items, fields) ← c.setItems entity assignments
      return (clauses, items, fields)
    Shifts k (Prod.map (Clauses.shift k) (Prod.map (List.map (Sql.shift k)) id)) body body := by
  refine (Query.clauses_shifts query query.fields rootAlias false).bind fun clauses => ?_
  refine (setItems_shifts entity assignments).bind fun (items, fields) => ?_
  exact shifts_pure rfl

theorem shift_keySelect (keys : List Field) (table : String) (clauses : Clauses) :
    (c.keySelect keys table clauses).shift k = c.keySelect keys table (clauses.shift k) := by
  unfold Compiler.keySelect
  rw [shift_plainSelect, Conventions.shift_items, Clauses.shift_usableJoin]
  rfl

theorem shift_keyEquality (keys : List Field) :
    (c.keyEquality keys).shift k = c.keyEquality keys := by
  simp [Compiler.keyEquality, Function.comp_def]

theorem shift_updateScript (items : List Sql) (clauses : Clauses) (table : String) :
    (Compiler.updateScript items clauses table).shift k =
      Compiler.updateScript (items.map (Sql.shift k)) (clauses.shift k) table := by
  simp [Compiler.updateScript, Clauses.shift]

theorem shift_mergeScript (keys : List Field) (items : List Sql) (clauses : Clauses)
    (table : String) :
    (c.mergeScript keys items clauses table).shift k =
      c.mergeScript keys (items.map (Sql.shift k)) (clauses.shift k) table := by
  simp [Compiler.mergeScript, shift_keySelect, shift_keyEquality]

theorem shift_deleteScript (clauses : Clauses) (table : String) :
    (Compiler.deleteScript clauses table).shift k =
      Compiler.deleteScript (clauses.shift k) table := by
  simp [Compiler.deleteScript, Clauses.shift]

theorem shift_keyedDeleteScript (keys : List Field) (clauses : Clauses) (table : String) :
    (c.keyedDeleteScript keys clauses table).shift k =
      c.keyedDeleteScript keys (clauses.shift k) table := by
  simp [Compiler.keyedDeleteScript, shift_keySelect]

theorem update_shift (command : UpdateCommand) (number : Nat) :
    Agree (Compiled.ShiftOf k) (c.update command number) (c.update command (number + k)) := by
  unfold Compiler.update
  refine Agree.bind_same fun entity => ?_
  split
  · exact .error _
  · refine ((selectionAndItems_shifts _ entity command.assignments).runFrom number).bind ?_
    rintro ⟨⟨clauses, items, fields⟩, s⟩ ⟨_, t⟩ ⟨rfl, hscope⟩
    refine Agree.bind_same fun tables => ?_
    rw [needsKeys_shift, Clauses.hasTraversal_shift]
    split
    · refine Agree.bind_same fun keys => ?_
      dsimp only [id]
      split
      · exact .error _
      · exact .ok (perTable_shift hscope fun table =>
          (shift_mergeScript keys items clauses table).symm)
    · exact .ok (perTable_shift hscope fun table => (shift_updateScript items clauses table).symm)

theorem delete_shift (command : DeleteCommand) (number : Nat) :
    Agree (Compiled.ShiftOf k) (c.delete command number) (c.delete command (number + k)) := by
  unfold Compiler.delete
  refine Agree.bind_same fun entity => ?_
  refine ((Query.clauses_shifts _ _ _ _).runFrom number).bind ?_
  rintro ⟨clauses, s⟩ ⟨_, t⟩ ⟨rfl, hscope⟩
  refine Agree.bind_same fun tables => ?_
  dsimp only
  rw [needsKeys_shift]
  split
  · refine Agree.bind_same fun keys => ?_
    rw [Clauses.hasTraversal_shift]
    exact .ok (perTable_shift hscope fun table => (shift_keyedDeleteScript keys clauses table).symm)
  · exact .ok (perTable_shift hscope fun table => (shift_deleteScript clauses table).symm)

theorem command_shift (command : Command) (number : Nat) :
    Agree (Compiled.ShiftOf k) (c.command command number) (c.command command (number + k)) := by
  cases command with
  | insert command => exact insert_shift command number
  | update command => exact update_shift command number
  | delete command => exact delete_shift command number
  | text command =>
    refine .ok ⟨.cons ⟨?_, rfl, rfl, rfl, rfl⟩ .nil, rfl⟩
    exact (Sql.shift_text k _).symm

end QueryLoom
