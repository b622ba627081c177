import QueryLoom.Batch
import QueryLoom.Session.Transaction
import QueryLoom.Statement.Reading

/-!
# Running commands and queries

Commands and queries compiled and run on one connection each.

## Implementation notes

Everything is compiled before the connection is opened, so what does not compile runs nothing.
-/

namespace QueryLoom

/-- What commands and queries are run with. -/
structure Runner where
  compiler : Compiler
  limits : BatchLimits := {}
  connection : Connection := {}

/-- A page of rows and the total number of rows. -/
structure RowPage where
  rows : List Row
  total : Nat

/-- A value as a number of rows. -/
def Value.asCount : Value → Except Error Nat
  | .null => .ok 0
  | .int n =>
    if 0 ≤ n.toInt then .ok n.toInt.toNat
    else .error (.invalidValue ("expected a count, got " ++ (Value.int n).display))
  | .float x =>
    if 0 ≤ x then .ok x.toUInt64.toNat
    else .error (.invalidValue ("expected a count, got " ++ (Value.float x).display))
  | value => .error (.invalidValue ("expected a count, got " ++ value.display))

namespace Runner

/-- Runs commands, in a transaction if told so, or without being told if there is more than one
statement. -/
def execute (runner : Runner) (transaction : Option Bool) (isolation : Option IsolationLevel)
    (commands : List Command) : Run Nat := do
  if commands.isEmpty then return 0
  else
    let (batches, count) ← runner.compiler.batches runner.limits commands
    runner.connection.connect
    runBatches runner.connection (transaction.getD (1 < count)) isolation batches

/-- The rows of a query. -/
def query (runner : Runner) (query : Query) : Run (List Row) := do
  let statement ← runner.compiler.query { query with output := .rows }
  runner.connection.connect
  runner.connection.query statement

/-- Takes the total number of rows out of rows; the last one given counts. -/
def takeTotal (total : Nat) : List Row → Except Error RowPage
  | [] => .ok ⟨[], total⟩
  | row :: rest => do
    let total ← match row.find? (·.1 == totalCountColumn) with
      | some (_, value) => value.asCount
      | none => .ok total
    let page ← takeTotal total rest
    return { page with rows := row.filter (·.1 != totalCountColumn) :: page.rows }

/-- A page of the rows of a query. -/
def page (runner : Runner) (query : Query) (paging : Paging) : Run RowPage := do
  let rows ← runner.query { query with paging := some paging }
  takeTotal 0 rows

/-- The single value that a query answers in a shape. -/
def scalar (runner : Runner) (query : Query) (output : Output) : Run Value := do
  let statement ← runner.compiler.query { query with output }
  runner.connection.connect
  runner.connection.readScalar statement

/-- The number of rows of a query. -/
def count (runner : Runner) (query : Query) : Run Nat := do
  (← runner.scalar query .count).asCount

/-- Whether a query has rows. -/
def existence (runner : Runner) (query : Query) : Run Bool := do
  return 0 < (← (← runner.scalar query .existence).asCount)

/-- An aggregate of a query. -/
def aggregate (runner : Runner) (query : Query) (function : AggregateFunction) : Run Value :=
  runner.scalar query (.aggregate function)

end Runner

end QueryLoom
