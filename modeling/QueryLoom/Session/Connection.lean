import QueryLoom.Statement

/-!
# Connections

A connection whose answers are laid down beforehand, and the log of the calls made to it.

## Implementation notes

The cancellation token is part of the state, as a call may fire it while it runs. A call that
comes to an end counts even if the token fired meanwhile; one that hangs is given up as cancelled.
-/

namespace QueryLoom

/-- A row of a result: values by column label. -/
abbrev Row := List (String × Value)

/-- A failure that is given by its text is one of the driver. -/
instance : Coe (Option String) (Option Error) := ⟨Option.map .driver⟩

/-- How one call goes. -/
structure Reply where
  /-- The rows it changes. -/
  rows : Nat := 1
  error : Option Error := none
  /-- It fires the cancellation token. -/
  cancel : Bool := false
  /-- It fires the token and never comes to an end. -/
  hang : Bool := false
deriving Repr, DecidableEq

/-- How a connection answers its calls. -/
structure Connection where
  connectError : Option Error := none
  beginError : Option Error := none
  commitError : Option Error := none
  rollbackError : Option Error := none
  /-- How reading calls go. -/
  fetch : Reply := {}
  rows : List Row := []
  scalar : Value := .null

/-- A call to a connection. -/
inductive Call where
  | connect
  | begin (isolation : Option IsolationLevel)
  | execute (statement : Statement)
  | query (statement : Statement)
  | scalar (statement : Statement)
  | commit
  | rollback

/-- The state of a session: the token, the replies of the next executions, and the calls so
far. -/
structure Session where
  cancelled : Bool := false
  replies : List Reply := []
  calls : List Call := []

/-- A run over a connection: it answers or fails, and the calls it made remain either way. -/
abbrev Run := ExceptT Error (StateM Session)

namespace Connection

/-- Logs a call. -/
def log (call : Call) : Run Unit :=
  modify fun session => { session with calls := session.calls ++ [call] }

/-- A call that fails with a given error, or does not. -/
def perform (call : Call) (failure : Option Error) : Run Unit := do
  log call
  match failure with
  | some e => throw e
  | none => return ()

/-- A call that goes as a reply says. -/
def await (reply : Reply) : Run Unit := do
  if reply.cancel || reply.hang then
    modify fun session => { session with cancelled := true }
  if reply.hang then throw .cancelled
  match reply.error with
  | some e => throw e
  | none => return ()

/-- Opens the connection. -/
def connect (connection : Connection) : Run Unit :=
  perform .connect connection.connectError

/-- Begins a transaction. -/
def begin (connection : Connection) (isolation : Option IsolationLevel) : Run Unit :=
  perform (.begin isolation) connection.beginError

/-- Commits the transaction. -/
def commit (connection : Connection) : Run Unit :=
  perform .commit connection.commitError

/-- Rolls the transaction back. -/
def rollback (connection : Connection) : Run Unit :=
  perform .rollback connection.rollbackError

/-- Executes a statement and answers the number of rows it changed. -/
def execute (statement : Statement) : Run Nat := do
  log (.execute statement)
  let session ← get
  let reply := session.replies.head?.getD {}
  set { session with replies := session.replies.tail }
  await reply
  return reply.rows

/-- Reads rows. -/
def query (connection : Connection) (statement : Statement) : Run (List Row) := do
  log (.query statement)
  await connection.fetch
  return connection.rows

/-- Reads the first column of the first row. -/
def readScalar (connection : Connection) (statement : Statement) : Run Value := do
  log (.scalar statement)
  await connection.fetch
  return connection.scalar

end Connection

end QueryLoom
