import EntityGraph.Bolt.Value
import EntityGraph.Cypher.Columns
import EntityGraph.Session
/-!
# The client of a database server

What is said to the server for each statement, and what its replies mean. The
columns of a row are those that the text of its statement names, so a
statement whose columns are not known is refused before anything is sent.
Outside a transaction the rows are read as they are asked for; inside one they
are all read at once.
-/

namespace EntityGraph.Bolt

/-- What is said to the server. -/
inductive Request where
  | run (statement : String) (parameters : Bag Value)
  | begin
  | commit
  | rollback

/-- What the server says. -/
inductive Reply where
  /-- The request has been met, without rows. -/
  | success
  /-- The connection is refused or lost. -/
  | refused
  /-- A statement has failed, with a code and a message of the database. -/
  | failed (code message : String)
  /-- A statement has these rows, after which the server may break off. Rows
  come in pieces, and those of a piece that breaks off are not among them. -/
  | rows (fields : List String) (values : List (List Value)) (brokenOff : Bool)

/-- A server, with a state that each request may change. -/
structure Server (σ : Type) where
  answer : Request → σ → Reply × σ

/-- Parameters bound one after another, each to the value that stands for its
JSON. -/
def bindAll (parameters : List (String × Json)) : Bag Value :=
  parameters.foldl (fun bound (name, value) => bound.insert name (.ofJson value)) .empty

/-- The request for a statement. -/
def Request.ofStatement (s : Statement) : Request :=
  .run s.text (bindAll s.parameters.entries)

/-- The columns that the rows of a statement have; none if it returns
nothing. -/
def knownColumns (statement : String) : Except Failure (List String) :=
  match Cypher.returnColumns statement with
  | .ok columns => .ok columns
  | .error .noReturn => .ok []
  | .error .returnsAll => .error (.argument .returnsAll)
  | .error .malformed => .error (.argument .malformedStatement)

/-- The failure of a statement. -/
def statementFailure (s : Statement) (what : String) : Failure :=
  .query ("Cypher query failed" ++ what) s.text

/-- The failure of a statement that the database reports. -/
def databaseFailure (s : Statement) (code message : String) : Failure :=
  statementFailure s (": Neo4j error " ++ Config.graved code ++ ": " ++ message)

/-- The row of the values that the server sent under some names, by the JSON forms
that the driver gives. A column that it did not send is null, and one that it sent
twice has the last value. -/
def decodeRowBy (given : Value → Option Json) (columns fields : List String)
    (values : List Value) : Row :=
  let sent := Bag.ofList (fields.zip values)
  ⟨.ofList (columns.map fun column =>
    (column, ((sent.get? column).map (Value.columnBy given)).getD .null))⟩

/-- The row of the values that the server sent under some names. -/
def decodeRow (columns fields : List String) (values : List Value) : Row :=
  decodeRowBy Value.given? columns fields values

/-- All rows of a statement that a reply gives, or why there are none. -/
def rowsOf (s : Statement) (columns : List String) : Reply → Except Failure (List Row)
  | .success => .ok []
  | .refused => .error (statementFailure s "")
  | .failed code message => .error (databaseFailure s code message)
  | .rows fields values brokenOff =>
    if brokenOff then .error (statementFailure s "")
    else .ok (values.map (decodeRow columns fields))

/-- The rows of a statement as they come. A failure comes after the rows that
were seen before it. -/
def streamOf (s : Statement) (columns : List String) : Reply → RowStream
  | .success => []
  | .refused => [.error (statementFailure s "")]
  | .failed code message => [.error (databaseFailure s code message)]
  | .rows fields values brokenOff =>
    values.map (fun sent => .ok (decodeRow columns fields sent))
      ++ if brokenOff then [.error (statementFailure s "")] else []

variable {α σ : Type}

/-- Sends a statement outside a transaction, of whose rows at most `limit` are
read. Nothing is sent when none is to be read. -/
def fetchUpTo (server : Server σ) (limit : Option Nat) (s : Statement) (state : σ) :
    Except Failure RowStream × σ :=
  match knownColumns s.text with
  | .error failure => (.error failure, state)
  | .ok columns =>
    if limit = some 0 then (.ok [], state)
    else
      let (reply, after) := server.answer (.ofStatement s) state
      let stream := streamOf s columns reply
      (.ok (match limit with
        | some n => stream.take n
        | none => stream), after)

/-- Sends a statement whose rows are ignored. Its columns need not be known. -/
def execute (server : Server σ) (s : Statement) (state : σ) : Except Failure Unit × σ :=
  let (reply, after) := server.answer (.ofStatement s) state
  ((rowsOf s [] reply).map fun _ => (), after)

/-- Statements outside transactions. -/
def client (server : Server σ) : Executor σ :=
  { fetch := fetchUpTo server none
    execute := execute server }

/-- Sends a statement inside a transaction and reads all its rows. -/
def fetchBuffered (server : Server σ) (s : Statement) (state : σ) :
    Except Failure RowStream × σ :=
  match knownColumns s.text with
  | .error failure => (.error failure, state)
  | .ok columns =>
    let (reply, after) := server.answer (.ofStatement s) state
    ((rowsOf s columns reply).map fun rows => rows.map .ok, after)

/-- Statements inside a transaction. -/
def transactionClient (server : Server σ) : Executor σ :=
  { fetch := fetchBuffered server
    execute := execute server }

/-- Sends a request that begins or ends a transaction. -/
def control (server : Server σ) (request : Request) (state : σ) : Except Failure Unit × σ :=
  match server.answer request state with
  | (.success, after) => (.ok (), after)
  | (_, after) => (.error .connection, after)

/-- Begins a transaction and goes on inside it. A transaction that the body
does not end is dropped. -/
def transaction (server : Server σ) (body : σ → Except Failure α × σ) (state : σ) :
    Except Failure α × σ :=
  match control server .begin state with
  | (.ok (), begun) => body begun
  | (.error failure, after) => (.error failure, after)

end EntityGraph.Bolt
