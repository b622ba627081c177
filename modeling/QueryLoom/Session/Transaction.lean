import QueryLoom.Session.Connection

/-!
# Transactions

The run of batches in order, inside a transaction or without one.

## Implementation notes

Inside a transaction, a batch that has to change a row and changes none ends the run, which is
rolled back and answers zero. A failure or a cancellation rolls back too, whatever the rollback
itself says, and is the answer. The token is looked at before every batch. Numbers of rows are
added as unsigned numbers of 64 bits.
-/

namespace QueryLoom

/-- The sum of two numbers of rows. -/
def addRows (a b : Nat) : Nat := (a + b) % UInt64.size

/-- Gives up with an error, after a rollback if there is a transaction. -/
def abort {α : Type} (connection : Connection) (transaction : Bool) (e : Error) : Run α := do
  if transaction then
    tryCatch connection.rollback fun _ => return ()
  throw e

/-- Executes batches in order. Answers the rows changed, and whether every batch did what it has
to do. -/
def executeBatches (connection : Connection) (transaction : Bool) (affected : Nat) :
    List Statement → Run (Nat × Bool)
  | [] => return (affected, true)
  | batch :: rest => do
    if (← get).cancelled then abort connection transaction .cancelled
    else
      let rows ← tryCatch (Connection.execute batch) (abort connection transaction)
      if transaction && batch.mustAffect && rows == 0 then return (affected, false)
      else executeBatches connection transaction (addRows affected rows) rest

/-- Runs batches on an open connection and answers the rows changed. -/
def runBatches (connection : Connection) (transaction : Bool)
    (isolation : Option IsolationLevel) (batches : List Statement) : Run Nat := do
  if transaction then connection.begin isolation
  let (affected, success) ← executeBatches connection transaction 0 batches
  if !transaction then return affected
  else if success then
    connection.commit
    return affected
  else
    connection.rollback
    return 0

end QueryLoom
