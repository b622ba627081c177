import QueryLoom.Proofs.LegibleStatements
import QueryLoom.Proofs.UnwrittenBindings

/-!
# Bindings of a SELECT

Every binding of a query is written exactly once into the SELECT of the query, in every shape that
its output asks for, except for the operand of a conversion that is compared with an empty
collection. So the parameters are the placeholders exactly if nothing is lost with such operands.
Over a legible schema the placeholders are also what a reader of the script takes for them.
-/

namespace QueryLoom

variable {c : Compiler} {query : Query} {statement : Statement}

/-- The calls that hand out the parameters of a query, in order. -/
def Query.issues (query : Query) : List Issue := numbered 0 query.statementBindings

/-- The script of a query writes the placeholders of the written bindings and no others. -/
theorem query_placeholders (htext : query.text = none) (h : c.query query = .ok statement)
    (p : String × Nat) : p ∈ statement.script.placeholders ↔
      ∃ i ∈ query.issues, i.1.written = true ∧ i.placeholder = p := by
  rw [← Sql.mem_bag, (query_placed htext h).2]
  exact mem_writtenBag

/-- No placeholder of a query is written twice, through however many layers its SELECT is put. -/
theorem query_nodup_placeholders (htext : query.text = none) (h : c.query query = .ok statement) :
    statement.script.placeholders.Nodup := by
  have hnodup : statement.script.bag.Nodup := by
    rw [(query_placed htext h).2]
    exact nodup_issueBag 0 query.statementBindings
  exact Multiset.coe_nodup.mp hnodup

/-- A binding of a query is written once, or not at all. -/
theorem query_count_placeholder (htext : query.text = none) (h : c.query query = .ok statement)
    {i : Issue} (hi : i ∈ query.issues) :
    statement.script.placeholders.count i.placeholder = if i.1.written then 1 else 0 := by
  rw [(query_nodup_placeholders htext h).count]
  congr 1
  rw [eq_iff_iff, query_placeholders htext h]
  constructor
  · rintro ⟨j, hj, hwritten, hsame⟩
    rwa [← numbered_inj hj hi (Prod.mk.inj hsame).2]
  · intro hwritten
    exact ⟨i, hi, hwritten, rfl⟩

/-- A SELECT writes nothing but placeholders of its bindings; each binding is written once if it is
written at all; and the parameters of the statement are the placeholders of its script exactly if
every name that is not written for one binding is written for another. Where neither the schema nor
the paths of conversions have colons, the placeholders are read off the characters of the script. -/
theorem query_boundAsWritten_iff (htext : query.text = none) (h : c.query query = .ok statement) :
    (∀ p ∈ statement.script.placeholders, ∃ i ∈ query.issues, i.placeholder = p) ∧
    (∀ i ∈ query.issues,
      statement.script.placeholders.count i.placeholder = if i.1.written then 1 else 0) ∧
    (BoundAsWritten statement ↔ ∀ i ∈ query.issues, i.1.written = false →
      ∃ j ∈ query.issues, j.1.written = true ∧ j.name = i.name) ∧
    (c.schema.Legible → AllColonless query.paths →
      namesIn statement.script.render = statement.script.placeholderNames) := by
  refine ⟨?_, fun i hi => query_count_placeholder htext h hi, ?_,
    fun hschema hpaths => (query_legible hschema htext hpaths h).namesIn_render⟩
  · intro p hp
    obtain ⟨i, hi, -, hplaceholder⟩ := (query_placeholders htext h p).mp hp
    exact ⟨i, hi, hplaceholder⟩
  · have hscript (p : String × Nat) : p ∈ statement.script.placeholders ↔
        ∃ i ∈ numbered 0 query.statementBindings, ¬ i.1.written = false ∧ i.placeholder = p := by
      simp only [Bool.not_eq_false]
      exact query_placeholders htext h p
    have hiff := boundAsWritten_iff (query_placed htext h).1 hscript
    simp only [Bool.not_eq_false] at hiff
    exact hiff

/-- The accounts of some owners, those whose keys another query answers, on a page. -/
def pagedAccounts : Query where
  entity := "Account"
  conditions := [
    ⟨.and, .criterion ⟨"Owner", .isIn, .collection [.int 1, .int 2], none⟩⟩,
    ⟨.or, .criterion ⟨"Id", .isIn, .subquery {
      entity := "Account", fields := ["Id"], size := 3
      conditions := [⟨.and, .criterion ⟨"Owner", .greaterThan, .int 5, none⟩⟩]
      sorts := [⟨"Id", .ascending, some (.operand .modulo (.int 7))⟩] }, none⟩⟩]
  combines := [⟨.union, {
    entity := "Account"
    conditions := [⟨.and, .criterion ⟨"Id", .equal, .int 4, some (.operand .add (.int 1))⟩⟩] }⟩]
  paging := some ⟨0, 10⟩

theorem ownedAccounts_legible : ownedAccounts.schema.Legible := by
  have hid : Field.Legible { property := "Id", column := "Id", role := { primaryKey := true } } :=
    ⟨by decide, by decide, nofun⟩
  have howner : Field.Legible { property := "Owner", column := "Owner" } :=
    ⟨by decide, by decide, nofun⟩
  exact List.forall_mem_singleton.mpr
    ⟨by decide, List.forall_mem_cons.mpr ⟨hid, List.forall_mem_singleton.mpr howner⟩⟩

/-- A page that nests, combines and sorts mentions the five parameters that it binds. -/
theorem pagedAccounts_boundAsWritten :
    ∃ statement, ownedAccounts.query pagedAccounts = .ok statement ∧
      statement.parameters.names.length = 5 ∧ BoundAsWritten statement ∧
      namesIn statement.script.render = statement.script.placeholderNames := by
  obtain ⟨statement, h⟩ := exists_ok_of_isSome (x := ownedAccounts.query pagedAccounts)
    (by decide +kernel)
  have hnames : (ownedAccounts.query pagedAccounts).toOption.map
      (·.parameters.names.length) = some 5 := by
    decide +kernel
  rw [h] at hnames
  obtain ⟨-, -, hiff, hread⟩ := query_boundAsWritten_iff rfl h
  have hpaths : AllColonless pagedAccounts.paths := by
    have hnone : pagedAccounts.paths = [] := rfl
    rw [hnone]
    exact List.forall_mem_nil _
  refine ⟨statement, h, Option.some.inj hnames, hiff.mpr ?_, hread ownedAccounts_legible hpaths⟩
  intro i hi hunwritten
  have hwritten : ∀ i ∈ pagedAccounts.issues, i.1.written = true := by
    decide +kernel
  rw [hwritten i hi] at hunwritten
  exact absurd hunwritten.symm Bool.false_ne_true

/-- A sum compared with no values binds its operand and writes the constant alone. -/
theorem sumInNothing_not_boundAsWritten :
    let query : Query := {
      entity := "Account", fields := ["Id"]
      conditions := [⟨.and, .criterion
        ⟨"Id", .isIn, .collection [], some (.operand .add (.int 1))⟩⟩] }
    ∃ statement, ownedAccounts.query query = .ok statement ∧
      statement.parameters.names = ["Id0"] ∧
      statement.script.render = "SELECT TB.\"ID\" FROM \"ACCOUNT\" TB WHERE 1 = 0" ∧
      statement.script.placeholderNames = [] ∧ ¬ BoundAsWritten statement := by
  intro query
  obtain ⟨statement, h⟩ := exists_ok_of_isSome (x := ownedAccounts.query query)
    (by decide +kernel)
  have hread : (ownedAccounts.query query).toOption.map (fun statement =>
      (statement.parameters.names, statement.script.render, statement.script.placeholderNames)) =
      some (["Id0"], "SELECT TB.\"ID\" FROM \"ACCOUNT\" TB WHERE 1 = 0", []) := by
    decide +kernel
  rw [h] at hread
  obtain ⟨hbound, hread⟩ := Prod.mk.inj (Option.some.inj hread)
  obtain ⟨hrender, hwritten⟩ := Prod.mk.inj hread
  refine ⟨statement, h, hbound, hrender, hwritten, ?_⟩
  intro hall
  have hname := (hall "Id0").mp (by rw [hbound]; decide)
  rw [hwritten] at hname
  exact absurd hname (List.not_mem_nil)

end QueryLoom
