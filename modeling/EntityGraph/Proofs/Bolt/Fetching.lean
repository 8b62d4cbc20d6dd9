import EntityGraph.Proofs.Bolt.Row
import Mathlib.Data.List.Forall2
/-!
# All rows of a statement

Two ways to ask for all rows of a statement, and that they come to the same.
Outside a transaction the rows are taken from a stream one after another, and a
failure is met where the stream has it; inside one the server is read to its end
before any row is given. The failure that a stream ends with is the one that
reading to the end meets (`collect_streamOf`), so the outcome is the same whatever
the server does, and it is the one that `Answers` describes
(`fetchAll_agree`).
-/

namespace EntityGraph

/-- Rows in front of a stream are collected in front of it, and lost where the
stream fails. -/
theorem RowStream.collect_append (rows : List Row) (rest : RowStream) :
    RowStream.collect (rows.map .ok ++ rest) = (RowStream.collect rest).map (rows ++ ·) := by
  induction rows with
  | nil => cases h : RowStream.collect rest <;> simp [h, Except.map]
  | cons row rows ih =>
    rw [List.map_cons, List.cons_append, RowStream.collect, ih]
    cases RowStream.collect rest <;> rfl

theorem RowStream.collect_rows (rows : List Row) :
    RowStream.collect (rows.map .ok) = .ok rows := by
  have hcollect := RowStream.collect_append rows []
  rwa [List.append_nil, RowStream.collect, Except.map, List.append_nil] at hcollect

theorem Session.runWith_fetchAll {σ : Type} (executor : Executor σ) (s : Statement) (state : σ) :
    (Session.fetchAll s).runWith executor state =
      ((executor.fetch s state).1.bind RowStream.collect, (executor.fetch s state).2) :=
  rfl

namespace Bolt

/-! ### What is to come of a statement -/

/-- The columns that the rows of a statement have: those that its text names, and
none if it returns nothing. -/
inductive HasColumns (text : String) : List String → Prop
  | returned {columns : List String} :
      Cypher.returnColumns text = .ok columns → HasColumns text columns
  | nothing : Cypher.returnColumns text = .error .noReturn → HasColumns text []

/-- Whether a server fails with a statement, at once or after some rows. -/
def Reply.fails : Reply → Bool
  | .success => false
  | .refused | .failed _ _ => true
  | .rows _ _ brokenOff => brokenOff

/-- A row shows what was sent under each of its columns: nothing else, and null
where nothing was sent. -/
structure Shows (columns fields : List String) (values : List Value) (row : Row) : Prop where
  keys : ∀ name, name ∈ row.columns.keys ↔ name ∈ columns
  sent : ∀ column ∈ columns, ∀ v, sent? fields values column = some v →
    row.columns.get? column = some v.column
  missing : ∀ column ∈ columns, sent? fields values column = none →
    row.columns.get? column = some .null

variable {σ : Type}

/-- What comes of asking for all rows of a statement, and the state in which the
server is then. What the server is asked is to run the text with every parameter
bound. -/
inductive Answers (server : Server σ) (s : Statement) (state : σ) :
    Except Failure (List Row) → σ → Prop
  /-- A text that cannot be read is refused, and the server is not asked. -/
  | malformed : Cypher.returnColumns s.text = .error .malformed →
      Answers server s state (.error (.argument .malformedStatement)) state
  /-- So is one that returns whatever there is. -/
  | returnsAll : Cypher.returnColumns s.text = .error .returnsAll →
      Answers server s state (.error (.argument .returnsAll)) state
  /-- Where the server fails there are no rows, only the failure of the
  statement. -/
  | failed {columns : List String} {reply : Reply} {after : σ} (message : String) :
      HasColumns s.text columns →
      server.answer (.run s.text (bindAll s.parameters.entries)) state = (reply, after) →
      reply.fails = true → Answers server s state (.error (.query message s.text)) after
  /-- Otherwise there is one row for each that was sent, in order. -/
  | rows {columns fields : List String} {table : List (List Value)} {rows : List Row} {after : σ} :
      HasColumns s.text columns →
      server.answer (.run s.text (bindAll s.parameters.entries)) state =
        (.rows fields table false, after) →
      List.Forall₂ (Shows columns fields) table rows → Answers server s state (.ok rows) after
  | nothing {columns : List String} {after : σ} :
      HasColumns s.text columns →
      server.answer (.run s.text (bindAll s.parameters.entries)) state = (.success, after) →
      Answers server s state (.ok []) after

/-! ### One way and the other -/

theorem shows_decodeRow (columns fields : List String) (values : List Value) :
    Shows columns fields values (decodeRow columns fields values) where
  keys name := by
    rw [decodeRow, decodeRowBy, Bag.mem_keys_ofList, List.map_map]
    simp
  sent column hcolumn v hsent := by rw [get?_decodeRow hcolumn, hsent]; rfl
  missing column hcolumn hsent := by rw [get?_decodeRow hcolumn, hsent]; rfl

/-- **The stream of a reply ends in the failure** that reading all of it meets. -/
theorem collect_streamOf (s : Statement) (columns : List String) (reply : Reply) :
    (streamOf s columns reply).collect = rowsOf s columns reply := by
  cases reply with
  | success | refused | failed => rfl
  | rows fields values brokenOff =>
    have hrows : (values.map fun sent => .ok (decodeRow columns fields sent) : RowStream) =
        (values.map (decodeRow columns fields)).map .ok :=
      (List.map_map ..).symm
    rw [streamOf, hrows, RowStream.collect_append]
    cases brokenOff with
    | true => rfl
    | false => rw [rowsOf, if_neg (by decide), if_neg (by decide), RowStream.collect, Except.map,
        List.append_nil]

/-- The columns of a statement are known where it has any, or returns nothing. -/
theorem HasColumns.known {text : String} {columns : List String} (h : HasColumns text columns) :
    knownColumns text = .ok columns := by
  cases h with
  | returned h => rw [knownColumns, h]
  | nothing h => rw [knownColumns, h]

section Runs

variable {server : Server σ} {s : Statement} {state : σ} {columns : List String}

/-- Outside a transaction all rows of the reply are collected from its stream. -/
theorem fetchAll_client (h : knownColumns s.text = .ok columns) :
    (Session.fetchAll s).runWith (client server) state =
      (rowsOf s columns (server.answer (.ofStatement s) state).1,
        (server.answer (.ofStatement s) state).2) := by
  rw [Session.runWith_fetchAll, ← collect_streamOf]
  simp only [client, fetchUpTo, h, reduceCtorEq, if_false]
  rfl

/-- Inside one they are given as they were read. -/
theorem fetchAll_transactionClient (h : knownColumns s.text = .ok columns) :
    (Session.fetchAll s).runWith (transactionClient server) state =
      (rowsOf s columns (server.answer (.ofStatement s) state).1,
        (server.answer (.ofStatement s) state).2) := by
  have hfetch : (transactionClient server).fetch s state =
      ((rowsOf s columns (server.answer (.ofStatement s) state).1).map fun rows => rows.map .ok,
        (server.answer (.ofStatement s) state).2) := by
    simp only [transactionClient, fetchBuffered, h]
  rw [Session.runWith_fetchAll, hfetch]
  cases rowsOf s columns (server.answer (.ofStatement s) state).1 with
  | error failure => rfl
  | ok rows => exact congrArg (·, _) (RowStream.collect_rows rows)

/-- A statement whose columns are not known is refused both ways, with the server
as it was. -/
theorem fetchAll_refused (server : Server σ) (state : σ) {failure : Failure}
    (h : knownColumns s.text = .error failure) :
    (Session.fetchAll s).runWith (client server) state = (.error failure, state) ∧
      (Session.fetchAll s).runWith (transactionClient server) state = (.error failure, state) := by
  rw [Session.runWith_fetchAll, Session.runWith_fetchAll]
  simp only [client, fetchUpTo, transactionClient, fetchBuffered, h]
  exact ⟨rfl, rfl⟩

/-- What all rows of a reply are is what is to come of the statement. -/
theorem answers_rowsOf (h : HasColumns s.text columns) {reply : Reply} {after : σ}
    (hreply : server.answer (.ofStatement s) state = (reply, after)) :
    Answers server s state (rowsOf s columns reply) after := by
  cases reply with
  | success => exact .nothing h hreply
  | refused => exact .failed _ h hreply rfl
  | failed code message => exact .failed _ h hreply rfl
  | rows fields values brokenOff =>
    cases brokenOff with
    | true => exact .failed _ h hreply rfl
    | false =>
      refine .rows h hreply ?_
      rw [List.forall₂_map_right_iff, List.forall₂_same]
      exact fun sent _ => shows_decodeRow columns fields sent

end Runs

/-- **The two ways agree.** Whatever the text, the parameters and the server, all
rows of a statement come to the same outcome outside a transaction and inside one,
and leave the server in the same state. The outcome is a refusal before the server
is asked, the failure of the statement, or a row for each that was sent. -/
theorem fetchAll_agree (server : Server σ) (s : Statement) (state : σ) :
    ∃ outcome after, (Session.fetchAll s).runWith (client server) state = (outcome, after) ∧
      (Session.fetchAll s).runWith (transactionClient server) state = (outcome, after) ∧
      Answers server s state outcome after := by
  have hasked {columns : List String} (h : HasColumns s.text columns) :
      ∃ outcome after, (Session.fetchAll s).runWith (client server) state = (outcome, after) ∧
        (Session.fetchAll s).runWith (transactionClient server) state = (outcome, after) ∧
        Answers server s state outcome after :=
    ⟨_, _, fetchAll_client h.known, fetchAll_transactionClient h.known, answers_rowsOf h rfl⟩
  have hrefused {failure : Failure} (h : knownColumns s.text = .error failure) :=
    fetchAll_refused server state h
  cases htext : Cypher.returnColumns s.text with
  | ok columns => exact hasked (.returned htext)
  | error fault =>
    cases fault with
    | noReturn => exact hasked (.nothing htext)
    | returnsAll =>
      obtain ⟨hclient, htransaction⟩ := hrefused (by rw [knownColumns, htext])
      exact ⟨_, _, hclient, htransaction, .returnsAll htext⟩
    | malformed =>
      obtain ⟨hclient, htransaction⟩ := hrefused (by rw [knownColumns, htext])
      exact ⟨_, _, hclient, htransaction, .malformed htext⟩

end Bolt

end EntityGraph
