import QueryLoom.Config
import QueryLoom.Statement.Writing

/-!
# Batches

Statements grouped into batches, each of which runs in one round trip.

## Implementation notes

There is at most one open batch. It is closed by a statement that runs alone, by either limit, and
at the end; a limit is tested after a statement is taken in, so an open batch is never full.
Parameters are numbered from zero again whenever no batch is open.
-/

namespace QueryLoom

/-- A batch that takes in statements. -/
structure OpenBatch where
  scripts : List Sql := []
  parameters : Parameters := Parameters.empty
  mustAffect : Bool := false

namespace OpenBatch

/-- The batch with one more statement. -/
def append (batch : OpenBatch) (statement : Statement) : OpenBatch where
  scripts := batch.scripts ++ [statement.script]
  parameters := batch.parameters.union statement.parameters
  mustAffect := batch.mustAffect || statement.mustAffect

/-- The batch as one statement, a script per line. -/
def close (batch : OpenBatch) : Statement where
  script := Sql.separated "\n" batch.scripts
  parameters := batch.parameters
  mustAffect := batch.mustAffect

end OpenBatch

/-- The grouping of statements: what is open, what is closed in order, and the number at which
parameters continue. -/
structure Batcher where
  maxStatements : Nat
  maxParameters : Nat
  current : Option OpenBatch := none
  closed : List Statement := []
  nextParameter : Nat := 0

namespace Batcher

/-- A grouping of nothing, within limits. -/
def ofLimits (limits : BatchLimits) : Batcher :=
  { maxStatements := limits.maxStatements, maxParameters := limits.maxParameters }

/-- Whether a batch takes in no more. -/
def isFull (b : Batcher) (batch : OpenBatch) : Bool :=
  b.maxStatements ≤ batch.scripts.length || b.maxParameters ≤ batch.parameters.size

/-- Closes a batch. -/
def close (b : Batcher) (batch : OpenBatch) : Batcher :=
  { b with current := none, closed := b.closed ++ [batch.close], nextParameter := 0 }

/-- Closes the open batch, if there is one. -/
def flush (b : Batcher) : Batcher :=
  match b.current with
  | some batch => b.close batch
  | none => b

/-- Takes in a statement. -/
def push (b : Batcher) (statement : Statement) : Batcher :=
  if statement.alone then
    let flushed := b.flush
    { flushed with closed := flushed.closed ++ [statement] }
  else
    let batch := (b.current.getD {}).append statement
    if b.isFull batch then b.close batch else { b with current := some batch }

/-- Takes in the statements of a command. -/
def add (b : Batcher) (compiled : Compiled) : Batcher :=
  let pushed := compiled.statements.foldl push b
  { pushed with
    nextParameter := if pushed.current.isSome then compiled.nextParameter else 0 }

/-- Every batch in order. -/
def finish (b : Batcher) : List Statement := b.flush.closed

end Batcher

namespace Compiler

/-- Takes in the statements of commands, each numbered from where the grouping stands; also counts
them. -/
def addCommands (c : Compiler) (b : Batcher) (count : Nat) :
    List Command → Except Error (Batcher × Nat)
  | [] => .ok (b, count)
  | command :: rest => do
    let compiled ← c.command command b.nextParameter
    c.addCommands (b.add compiled) (count + compiled.statements.length) rest

/-- The batches of commands, and the number of statements in them. -/
def batches (c : Compiler) (limits : BatchLimits) (commands : List Command) :
    Except Error (List Statement × Nat) := do
  let (b, count) ← c.addCommands (Batcher.ofLimits limits) 0 commands
  return (b.finish, count)

end Compiler

end QueryLoom
