import QueryLoom.Proofs.Runs
import QueryLoom.Statement.Writing

/-!
# Runs of statements

What the compilation of a command answers: the checks that it passes, the scope that it leaves, and
the script of each physical table.
-/

namespace QueryLoom

variable {c : Compiler} {number : Nat} {compiled : Compiled}

/-- A compilation run from a number on answers as it does from the empty scope. -/
theorem runFrom_eq_ok {α : Type} {m : Compile α} {a : α} {t : Scope} :
    m.runFrom number = .ok (a, t) ↔ Yields m { nextNumber := number } a t := by
  unfold Compile.runFrom Yields
  rcases m.run.run { nextNumber := number } with ⟨e | b, r⟩
  · constructor <;> intro h <;> cases h
  · constructor
    · intro h
      cases h
      rfl
    · intro h
      cases h
      rfl

/-- The first value that an insertion gives for its split field. -/
def insertedSplitValue (entity : Entity) (values : List (String × Value)) : Option Value :=
  entity.splitField?.bind fun field => (values.find? (·.1 == field.property)).map (·.2)

theorem insert_eq_ok {command : InsertCommand} (h : c.insert command number = .ok compiled) :
    ∃ entity body scope tables, c.schema.entity command.entity = .ok entity ∧
      (entity.autoIncrementField?.isSome && entity.splitField?.isSome) = false ∧
      Yields (c.insertBody entity command.values) { nextNumber := number } body scope ∧
      entity.tableNames (insertedSplitValue entity command.values).toList = .ok tables ∧
      compiled = c.perTable tables scope command.mustAffect false fun table =>
        Sql.text ("INSERT INTO " ++ table) ++ body := by
  simp only [Compiler.insert, except_bind_eq_ok] at h
  obtain ⟨entity, hentity, h⟩ := h
  split at h
  · cases h
  · rename_i hsplit
    simp only [except_bind_eq_ok] at h
    obtain ⟨-, -, ⟨body, scope⟩, hrun, tables, htables, h⟩ := h
    cases h
    exact ⟨entity, body, scope, tables, hentity, by simpa using hsplit, runFrom_eq_ok.mp hrun,
      htables, rfl⟩

/-- What an assignment writes behind its column, given its placeholder. -/
def Assignment.written (c : Compiler) (field : Field) (operand : Sql) : Assignment → Sql
  | .value _ => operand
  | .calculate op _ =>
    c.conventions.column rootAlias field ++ Sql.text (" " ++ op.symbol ++ " ") ++ operand

/-- An assignment binds its value, in front of those behind it. -/
theorem setItems_cons_yields {entity : Entity} {first : String × Assignment}
    {rest : List (String × Assignment)} {items : List Sql} {fields : List Field} {s t : Scope}
    (h : Yields (c.setItems entity (first :: rest)) s (items, fields) t) :
    ∃ field value operand r others otherFields, entity.field first.1 = .ok field ∧
      Yields (c.bind first.1 value) s operand r ∧
      Yields (c.setItems entity rest) r (others, otherFields) t ∧
      items = (Sql.text (c.conventions.identifier field.column ++ " = ") ++
        first.2.written c field operand) :: others ∧
      fields = field :: otherFields := by
  obtain ⟨property, assignment⟩ := first
  cases assignment with
  | value value =>
    simp only [Compiler.setItems, yields_bind, yields_liftM, yields_pure, Prod.mk.injEq] at h
    obtain ⟨field, _, ⟨hfield, rfl⟩, operand, r, hoperand, ⟨others, otherFields⟩, _, hrest,
      ⟨rfl, rfl⟩, rfl⟩ := h
    exact ⟨field, value, operand, r, others, otherFields, hfield, hoperand, hrest, rfl, rfl⟩
  | calculate op value =>
    simp only [Compiler.setItems, yields_bind, yields_liftM, yields_pure, Prod.mk.injEq] at h
    obtain ⟨field, _, ⟨hfield, rfl⟩, operand, r, hoperand, _, _, ⟨rfl, rfl⟩, ⟨others, otherFields⟩,
      _, hrest, ⟨rfl, rfl⟩, rfl⟩ := h
    exact ⟨field, value, operand, r, others, otherFields, hfield, hoperand, hrest, rfl, rfl⟩

/-- An update runs as a MERGE over selected keys where its query has joins or traversals, and as a
plain UPDATE where it has not. -/
theorem update_eq_ok {command : UpdateCommand} (h : c.update command number = .ok compiled) :
    ∃ entity clauses r items fields scope tables, c.schema.entity command.entity = .ok entity ∧
      command.assignments ≠ [] ∧
      Yields ((Compiler.scopedQuery command.query command.entity).clauses c
        (Compiler.scopedQuery command.query command.entity).fields rootAlias false)
          { nextNumber := number } clauses r ∧
      Yields (c.setItems entity command.assignments) r (items, fields) scope ∧
      entity.tableNames command.splitValues = .ok tables ∧
      ((Compiler.needsKeys clauses = true ∧ ∃ keys, entity.requirePrimaryKeys = .ok keys ∧
          fields.find? (·.role.primaryKey) = none ∧
          compiled = c.perTable tables scope command.mustAffect clauses.hasTraversal
            (c.mergeScript keys items clauses)) ∨
        (Compiler.needsKeys clauses = false ∧
          compiled = c.perTable tables scope command.mustAffect false
            (Compiler.updateScript items clauses))) := by
  simp only [Compiler.update, except_bind_eq_ok] at h
  obtain ⟨entity, hentity, h⟩ := h
  split at h
  · cases h
  · rename_i hassignments
    simp only [except_bind_eq_ok] at h
    obtain ⟨⟨_, _⟩, hrun, tables, htables, h⟩ := h
    have hyields := runFrom_eq_ok.mp hrun
    simp only [yields_bind, yields_pure] at hyields
    obtain ⟨clauses, r, hclauses, ⟨items, fields⟩, scope, hitems, rfl, rfl⟩ := hyields
    refine ⟨entity, clauses, r, items, fields, scope, tables, hentity,
      fun hnil => hassignments (by rw [hnil]; rfl), hclauses, hitems, htables, ?_⟩
    cases hkeys : Compiler.needsKeys clauses with
    | true =>
      simp only [hkeys, if_true, except_bind_eq_ok] at h
      obtain ⟨keys, hprimary, h⟩ := h
      cases hassigned : fields.find? (·.role.primaryKey) with
      | some key =>
        rw [hassigned] at h
        cases h
      | none =>
        rw [hassigned] at h
        cases h
        exact .inl ⟨rfl, keys, hprimary, rfl, rfl⟩
    | false =>
      simp only [hkeys, Bool.false_eq_true, if_false] at h
      cases h
      exact .inr ⟨rfl, rfl⟩

/-- A deletion goes by selected keys where its query has joins or traversals, and by its condition
where it has not. -/
theorem delete_eq_ok {command : DeleteCommand} (h : c.delete command number = .ok compiled) :
    ∃ entity clauses scope tables, c.schema.entity command.entity = .ok entity ∧
      Yields ((Compiler.scopedQuery command.query command.entity).clauses c
        (Compiler.scopedQuery command.query command.entity).fields rootAlias false)
          { nextNumber := number } clauses scope ∧
      entity.tableNames command.splitValues = .ok tables ∧
      ((Compiler.needsKeys clauses = true ∧ ∃ keys, entity.requirePrimaryKeys = .ok keys ∧
          compiled = c.perTable tables scope command.mustAffect clauses.hasTraversal
            (c.keyedDeleteScript keys clauses)) ∨
        (Compiler.needsKeys clauses = false ∧
          compiled = c.perTable tables scope command.mustAffect false
            (Compiler.deleteScript clauses))) := by
  simp only [Compiler.delete, except_bind_eq_ok] at h
  obtain ⟨entity, hentity, ⟨clauses, scope⟩, hrun, tables, htables, h⟩ := h
  refine ⟨entity, clauses, scope, tables, hentity, runFrom_eq_ok.mp hrun, htables, ?_⟩
  cases hkeys : Compiler.needsKeys clauses with
  | true =>
    simp only [hkeys, if_true, except_bind_eq_ok] at h
    obtain ⟨keys, hprimary, h⟩ := h
    cases h
    exact .inl ⟨rfl, keys, hprimary, rfl⟩
  | false =>
    simp only [hkeys, Bool.false_eq_true, if_false] at h
    cases h
    exact .inr ⟨rfl, rfl⟩

end QueryLoom
