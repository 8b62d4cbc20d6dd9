import EntityGraph.Graph.Row
import EntityGraph.Statement.Basic
/-!
# Sessions

What a computation asks of the database, and how it goes on with each answer.
A session is a finite tree of requests, so what it may ever send can be read
off it, whatever the database answers; `runWith` plays it against an executor
that answers by its state.
-/

namespace EntityGraph

/-- A computation that sends statements. -/
inductive Session (α : Type) where
  /-- Nothing more is sent. -/
  | done (outcome : Except Failure α)
  /-- A statement whose rows are awaited. -/
  | fetch (statement : Statement) (next : Except Failure RowStream → Session α)
  /-- A statement whose end is awaited. -/
  | execute (statement : Statement) (next : Except Failure Unit → Session α)

namespace Session

variable {α β σ : Type}

/-- The session that goes on with the value of another one. A failure ends
it. -/
def bind (session : Session α) (f : α → Session β) : Session β :=
  match session with
  | done (.ok a) => f a
  | done (.error failure) => done (.error failure)
  | fetch statement next => fetch statement fun answer => (next answer).bind f
  | execute statement next => execute statement fun answer => (next answer).bind f

instance : Monad Session where
  pure a := done (.ok a)
  bind := bind

/-- The session that sends nothing. -/
def ofExcept (outcome : Except Failure α) : Session α :=
  done outcome

instance : MonadLift (Except Failure) Session where
  monadLift := ofExcept

/-- What could be built of arguments that may not be accepted. -/
def ofArguments (built : Except ArgumentFault α) : Session α :=
  done (built.mapError .argument)

instance : MonadLift (Except ArgumentFault) Session where
  monadLift := ofArguments

/-- The rows of a statement as they come. -/
def stream (statement : Statement) : Session RowStream :=
  fetch statement done

/-- All rows of a statement. -/
def fetchAll (statement : Statement) : Session (List Row) :=
  fetch statement fun answer => done (answer.bind RowStream.collect)

/-- The first row of a statement, if it has one. -/
def fetchOne (statement : Statement) : Session (Option Row) :=
  fetch statement fun answer => done (answer.bind RowStream.first)

/-- One column of all rows of a statement. -/
def fetchColumn (statement : Statement) (decoder : Decoder α) (column : String) :
    Session (List α) := do
  let rows ← fetchAll statement
  ofExcept (rows.mapM fun row => row.get decoder column)

/-- One column of the first row of a statement. -/
def fetchScalar (statement : Statement) (decoder : Decoder α) (column : String) :
    Session (Option α) := do
  match ← fetchOne statement with
  | some row => ofExcept (row.getOpt decoder column)
  | none => pure none

/-- Sends a statement and ignores its rows. -/
def run (statement : Statement) : Session Unit :=
  execute statement done

end Session

/-- What answers statements, with a state that each may change. -/
structure Executor (σ : Type) where
  fetch : Statement → σ → Except Failure RowStream × σ
  execute : Statement → σ → Except Failure Unit × σ

/-- Plays a session against an executor. -/
def Session.runWith {α σ : Type} (executor : Executor σ) : Session α → σ → Except Failure α × σ
  | done outcome, state => (outcome, state)
  | fetch statement next, state =>
    let (answer, after) := executor.fetch statement state
    (next answer).runWith executor after
  | execute statement next, state =>
    let (answer, after) := executor.execute statement state
    (next answer).runWith executor after

end EntityGraph
