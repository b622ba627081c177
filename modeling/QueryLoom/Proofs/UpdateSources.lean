import QueryLoom.Proofs.JoinedRows
import QueryLoom.Proofs.SplitTables

/-!
# Sources of MERGE statements

The MERGE of an update matches the rows of its table by keys, which it selects from the joins of the
query. A row that the joins combine in several ways has its key in that selection several times, as
nothing there frees it of duplicates.

## Implementation notes

Primary keys are shown as they are selected: in their output form, where they have one. Without
output forms they look at their own table only.
-/

namespace QueryLoom

variable {c : Compiler}

/-- Keys without output forms are shown as their columns. -/
theorem Contents.project_columns {V : Type} (d : Contents V) (tableAlias : String)
    {keys : List Field} (h : ∀ key ∈ keys, key.outputForm = none) (columns : Columns V) :
    d.project (keys.map (c.conventions.item tableAlias false)) columns =
      keys.map fun key => columns tableAlias (c.conventions.columnName key) := by
  rw [Contents.project, List.map_map]
  refine List.map_congr_left fun key hkey => ?_
  rw [Function.comp_apply, Conventions.item, h key hkey]
  exact d.value_column _ _ _

theorem Contents.project_congr {V : Type} (d : Contents V) (tableAlias : String)
    {keys : List Field} (h : ∀ key ∈ keys, key.outputForm = none) (columns columns' : Columns V)
    (hsame : columns tableAlias = columns' tableAlias) :
    d.project (keys.map (c.conventions.item tableAlias false)) columns =
      d.project (keys.map (c.conventions.item tableAlias false)) columns' := by
  rw [d.project_columns tableAlias h, d.project_columns tableAlias h, hsame]

/-- An update by a MERGE selects the keys of its rows from the joins of its query, table by table.
For all contents of the tables in which the keys of the updated table are unique, the key of a row
is selected once for each combination with joined rows that the condition lets through: no key is
selected twice exactly if no row has two combinations. This is so if the query carries no joins, as
it has none or its traversal holds them, and if every join looks rows up by unique columns. -/
theorem merge_selects_combinations {command : UpdateCommand} {number : Nat} {compiled : Compiled}
    (hmerge : ¬ ((Compiler.scopedQuery command.query command.entity).joins = [] ∧
      (Compiler.scopedQuery command.query command.entity).traversing = []))
    (h : c.command (.update command) number = .ok compiled) :
    let query := Compiler.scopedQuery command.query command.entity
    ∃ (entity : Entity) (tables : List String) (clauses : Clauses) (t : Scope),
      c.schema.entity command.entity = .ok entity ∧
      entity.tableNames command.splitValues = .ok tables ∧
      Yields (query.clauses c query.fields rootAlias false) { nextNumber := number } clauses t ∧
      (query.joins = [] ∨ query.recursion ≠ none → clauses.usableJoin = []) ∧
      List.Forall₂ (fun table statement =>
          (Command.update command).Keyed c entity.primaryKeys clauses table statement.script ∧
          ∀ (V : Type) [DecidableEq V] (d : Contents V),
            let items := entity.primaryKeys.map (c.conventions.item rootAlias false)
            d.KeyedBy items table rootAlias →
              d.ListsKeys items table rootAlias clauses.usableJoin clauses.condition)
        (tables.map c.conventions.identifier) compiled.statements := by
  intro query
  obtain ⟨entity, tables, clauses, t, hentity, htables, hclauses, hkeyed⟩ :=
    command_keyed rfl hmerge h
  obtain ⟨hoisted, hscope⟩ := Query.clauses_scope query hclauses (settled_rootAlias _)
  have hroot : rootAlias ∉ introduced clauses.join :=
    hscope.joins.not_mem_introduced (settled_rootAlias _)
  have hown : rootAlias ∉ introduced clauses.usableJoin := by
    unfold Clauses.usableJoin
    split
    · exact hroot
    · exact List.not_mem_nil
  refine ⟨entity, tables, clauses, t, hentity, htables, hclauses, ?_, hkeyed.imp ?_⟩
  · rintro (hnone | hsome)
    · have hempty := Query.clauses_join_isEmpty hclauses
      rw [hnone, List.isEmpty_nil, List.isEmpty_iff] at hempty
      rw [Clauses.usableJoin, hempty, ite_self]
    · have hallow : clauses.allowJoin = false := by
        rw [hscope.allowJoin, Option.isNone_eq_false_iff]
        exact Option.isSome_iff_ne_none.mpr hsome
      rw [Clauses.usableJoin, hallow, if_neg Bool.false_ne_true]
  · intro table statement hstatement
    exact ⟨hstatement, fun V _ d hunique => hunique.listsKeys hown⟩

/-- The primary key of users, and of orders. -/
def shopKey : Field where
  property := "Id"
  column := "Id"
  role := { primaryKey := true }

/-- Users and their orders. -/
def shopCompiler : Compiler where
  schema := ⟨[
    { name := "User", table := "USERS", fields := [shopKey,
      { property := "Status", column := "Status" }] },
    { name := "Order", table := "ORDERS", fields := [shopKey,
      { property := "UserId", column := "UserId" },
      { property := "Status", column := "Status" }] }]⟩

/-- The selected keys of users, and of orders. -/
def shopKeys : List SelectItem := [shopKey].map (shopCompiler.conventions.item rootAlias false)

/-- Updating the rows of an entity that have a partner in another one. -/
def markJoined (entity : String) (fields : List (String × String)) (other : String) :
    UpdateCommand where
  entity
  assignments := [("Status", .value (.text "new"))]
  query := some { joins := [⟨.inner, fields, .equal, { entity := other }⟩] }

/-- The number in a column. -/
def shopValue : Sql → Columns Nat → Nat
  | [.column tableAlias name], columns => columns tableAlias (resolvedName name)
  | _, _ => 0

/-- A user with two orders. -/
def shopContents : Contents Nat where
  rows
    | .table "\"USERS\"" => [fun name => if name = "ID" then 1 else 0]
    | .table "\"ORDERS\"" =>
      [fun name => if name = "ID" then 1 else if name = "USERID" then 1 else 0,
        fun name => if name = "ID" then 2 else if name = "USERID" then 1 else 0]
    | _ => []
  null := 0
  value := shopValue
  truth
    | [.column left leftName, .verbatim " = ", .column right rightName], columns =>
      columns left (resolvedName leftName) != 0 &&
        columns left (resolvedName leftName) == columns right (resolvedName rightName)
    | _, _ => false
  value_column _ _ _ := rfl
  truth_equal left leftName right rightName columns h := by
    have hboth : (columns left (resolvedName leftName) != 0 &&
        columns left (resolvedName leftName) == columns right (resolvedName rightName)) = true := h
    exact eq_of_beq (Bool.and_eq_true_iff.mp hboth).2

theorem shopContents_keyedBy : ∀ table ∈ ["\"USERS\"", "\"ORDERS\""],
    shopContents.KeyedBy shopKeys table rootAlias := by
  have hkey : ∀ key ∈ [shopKey], key.outputForm = none := by decide
  have hown := shopContents.project_congr (c := shopCompiler) rootAlias hkey
  intro table htable
  rcases List.mem_cons.mp htable with rfl | htable
  · exact ⟨hown, by decide, by decide⟩
  · obtain rfl := List.mem_singleton.mp htable
    exact ⟨hown, by decide, by decide⟩

/-- Every order has one user, so its key is selected once. -/
theorem markedOrders_selected_once :
    let command := markJoined "Order" [("UserId", "Id")] "User"
    ∃ (compiled : Compiled) (statement : Statement) (keys : List Field) (clauses : Clauses),
      shopCompiler.command (.update command) 0 = .ok compiled ∧
      compiled.statements = [statement] ∧
      (Command.update command).Keyed shopCompiler keys clauses "\"ORDERS\"" statement.script ∧
      keys.map (shopCompiler.conventions.item rootAlias false) = shopKeys ∧
      ∀ row ∈ shopContents.rows (.table "\"ORDERS\""),
        (shopContents.answer shopKeys "\"ORDERS\"" rootAlias clauses.usableJoin
          clauses.condition).count (shopContents.shown shopKeys rootAlias row) ≤ 1 := by
  intro command
  obtain ⟨compiled, statement, h, hone⟩ := exists_singleton_of_length
    (x := shopCompiler.command (.update command) 0) (f := Compiled.statements) (by decide)
  obtain ⟨entity, tables, clauses, t, hentity, htables, hclauses, -, hstatements⟩ :=
    merge_selects_combinations (by decide) h
  obtain rfl : shopCompiler.schema.entities[1] = entity := Except.ok.inj hentity
  obtain rfl : ["ORDERS"] = tables := Except.ok.inj htables
  rw [hone] at hstatements
  have hkeys : shopCompiler.schema.entities[1].primaryKeys.map
      (shopCompiler.conventions.item rootAlias false) = shopKeys := by
    decide
  have htable : shopCompiler.conventions.identifier "ORDERS" = "\"ORDERS\"" := by decide
  cases hstatements with
  | cons hfirst _ =>
    rw [htable] at hfirst
    refine ⟨compiled, statement, _, clauses, h, hone, hfirst.1, hkeys, ?_⟩
    have hlists := hfirst.2 Nat shopContents
    rw [hkeys] at hlists
    refine (hlists (shopContents_keyedBy _ (by decide))).lookedUp ?_
    have hjoins : clauses.usableJoin = [⟨.inner, .table "\"USERS\"", "TSB0",
        [SearchText.leaf (Sql.column rootAlias "\"USERID\"" ++ Sql.text " = " ++
          Sql.column "TSB0" "\"ID\"")]⟩] :=
      hclauses.eq_of_map (by decide)
    intro joined hjoined
    rw [hjoins] at hjoined
    obtain rfl := List.mem_singleton.mp hjoined
    refine ⟨[((rootAlias, "\"USERID\""), "\"ID\"")], ?_, by decide⟩
    rintro pair hpair
    obtain rfl := List.mem_singleton.mp hpair
    exact ⟨by decide, List.mem_singleton_self _⟩

/-- A user has two orders, so the key of the user is selected twice. -/
theorem markedUsers_selected_twice :
    let command := markJoined "User" [("Id", "UserId")] "Order"
    shopContents.KeyedBy shopKeys "\"USERS\"" rootAlias ∧
    ∃ (keys : List Field) (clauses : Clauses) (compiled : Compiled) (statement : Statement),
      shopCompiler.command (.update command) 0 = .ok compiled ∧
      compiled.statements = [statement] ∧
      (Command.update command).Keyed shopCompiler keys clauses "\"USERS\"" statement.script ∧
      keys.map (shopCompiler.conventions.item rootAlias false) = shopKeys ∧
      shopContents.answer shopKeys "\"USERS\"" rootAlias clauses.usableJoin clauses.condition =
        [[1], [1]] := by
  intro command
  refine ⟨shopContents_keyedBy _ (by decide), ?_⟩
  obtain ⟨compiled, statement, h, hone⟩ := exists_singleton_of_length
    (x := shopCompiler.command (.update command) 0) (f := Compiled.statements) (by decide)
  obtain ⟨entity, tables, clauses, t, hentity, htables, hclauses, hstatements⟩ :=
    command_keyed (show (Command.update command).rowChange? = some _ from rfl) (by decide) h
  obtain rfl : shopCompiler.schema.entities[0] = entity := Except.ok.inj hentity
  obtain rfl : ["USERS"] = tables := Except.ok.inj htables
  rw [hone] at hstatements
  have htable : shopCompiler.conventions.identifier "USERS" = "\"USERS\"" := by decide
  have hanswer : shopContents.answer shopKeys "\"USERS\"" rootAlias clauses.usableJoin
      clauses.condition = [[1], [1]] :=
    hclauses.eq_of_map (f := fun clauses => shopContents.answer shopKeys "\"USERS\"" rootAlias
      clauses.usableJoin clauses.condition) (by decide)
  cases hstatements with
  | cons hfirst _ =>
    rw [htable] at hfirst
    exact ⟨_, clauses, compiled, statement, h, hone, hfirst, by decide, hanswer⟩

end QueryLoom
