import EntityGraph.Proofs.Number.Spelled
import EntityGraph.Proofs.Statement.Outline
import EntityGraph.Session
import EntityGraph.Statement.Node
import Mathlib.Data.List.Nodup
/-!
# Statements over a store

What the statements that delete a node mean: a store holds nodes by their
numbers, and the lines of a statement are clauses that are run one after
another. A selection binds the nodes of a label whose number an identifier
spells, and what comes after it is done to each of them. Of the database itself
only two things are known: how it reads the texts of integers, and that it reads
nothing in a text that is no number.

What happens to a store is kept as a list of changes, so that a change is told
apart from a value that was there before.
-/

namespace EntityGraph

/-! ### Stores -/

/-- A node as it is stored, under the number that identifies it. -/
structure Stored where
  id : Int
  labels : List String
  properties : Bag Json := .empty
deriving DecidableEq

/-- The nodes of a database. No two have the same number. -/
structure Store where
  nodes : List Stored
  nodup : (nodes.map Stored.id).Nodup
  bounded : ∀ node ∈ nodes, 0 ≤ node.id ∧ node.id ≤ Number.int64Max

/-- What is done to a store. -/
inductive Change where
  /-- A property of a node gets a value. -/
  | set (id : Int) (key : String) (value : Json)
  /-- A node is taken out. -/
  | remove (id : Int)
deriving DecidableEq

namespace Store

/-- The node under a number. -/
def node? (store : Store) (id : Int) : Option Stored :=
  store.nodes.find? (·.id == id)

/-- The node with the value of a property set, if it is the one with the
number. -/
def setIn (id : Int) (key : String) (value : Json) (node : Stored) : Stored :=
  if node.id = id then { node with properties := node.properties.insert key value } else node

@[simp] theorem id_setIn (id : Int) (key : String) (value : Json) (node : Stored) :
    (setIn id key value node).id = node.id := by
  unfold setIn
  split <;> rfl

/-- The store after a change. -/
def change (store : Store) : Change → Store
  | .set id key value =>
    { nodes := store.nodes.map (setIn id key value)
      nodup := by
        rw [List.map_map]
        exact (List.map_congr_left fun node _ => id_setIn id key value node) ▸ store.nodup
      bounded := by
        intro node hnode
        obtain ⟨before, hbefore, rfl⟩ := List.mem_map.1 hnode
        rw [id_setIn]
        exact store.bounded before hbefore }
  | .remove id =>
    { nodes := store.nodes.filter (·.id != id)
      nodup := store.nodup.sublist (List.filter_sublist.map Stored.id)
      bounded := fun node hnode => store.bounded node (List.mem_filter.1 hnode).1 }

/-- The store after some changes, one after another. -/
def after (store : Store) (changes : List Change) : Store :=
  changes.foldl change store

theorem node?_change_set (store : Store) (id other : Int) (key : String) (value : Json) :
    (store.change (.set id key value)).node? other =
      (store.node? other).map (setIn id key value) := by
  simp only [node?, change, List.find?_map]
  congr 2
  funext node
  simp

theorem node?_change_remove (store : Store) (id other : Int) :
    (store.change (.remove id)).node? other = if other = id then none else store.node? other := by
  simp only [node?, change, List.find?_filter]
  split
  · next h =>
    subst h
    simp
  · next h =>
    congr 1
    funext node
    by_cases hnode : node.id = other <;> simp [hnode, h]

/-- The node under a number is the one that has it. -/
theorem node?_eq_some_iff {store : Store} {id : Int} {node : Stored} :
    store.node? id = some node ↔ node ∈ store.nodes ∧ node.id = id := by
  constructor
  · intro h
    exact ⟨List.mem_of_find?_eq_some h, by simpa using List.find?_some h⟩
  · rintro ⟨hmem, rfl⟩
    obtain ⟨found, hfound⟩ : ∃ found, store.node? node.id = some found :=
      Option.isSome_iff_exists.1 (List.find?_isSome.2 ⟨node, hmem, by simp⟩)
    have hid : found.id = node.id := by simpa using List.find?_some hfound
    rw [hfound, List.inj_on_of_nodup_map store.nodup (List.mem_of_find?_eq_some hfound) hmem hid]

end Store

/-- What is known of a database. -/
structure Database where
  /-- The integer that it reads in a text. -/
  toInteger : String → Option Int
  /-- The text of its time. -/
  now : String
  toInteger_of_spelled : ∀ {text : String} {n : Int}, Number.spelled? text = some n →
    Number.int64Min ≤ n → n ≤ Number.int64Max → toInteger text = some n
  toInteger_of_readFloat : ∀ {text : String} {fault : Number.NumeralFault},
    Number.readFloat text = .error fault → toInteger text = none

/-- The database that reads spelled integers and nothing else. -/
def Database.spelling (now : String) : Database where
  toInteger := Number.spelled?
  now
  toInteger_of_spelled h _ _ := h
  toInteger_of_readFloat {text _} h := by
    cases hspelled : Number.spelled? text with
    | none => rfl
    | some n =>
      obtain ⟨x, hx⟩ := Number.exists_readFloat hspelled
      simp [h] at hx

/-! ### Clauses -/

/-- The clauses of which the statements that delete a node are made. -/
inductive Clause where
  /-- Binds the nodes of a label whose number is read in a parameter. -/
  | select (label parameter : String)
  /-- Gives a property of the bound nodes the time as its value. -/
  | stamp (key : String)
  /-- Takes the bound nodes out, with their relationships. -/
  | delete
  /-- Returns the number of each bound node as a text. -/
  | returnIds (column : String)
  /-- Returns how many nodes are bound. -/
  | returnCount (column : String)
deriving DecidableEq

namespace Clause

/-- The name after a text, and what follows it. -/
def nameAfter? (start : String) (cs : List Char) : Option (String × List Char) :=
  (Text.dropStart? start.toList cs).map fun rest =>
    (String.ofList (rest.takeWhile isNameChar), rest.dropWhile isNameChar)

/-- The name between two texts, with nothing after the second. -/
def nameBetween? (start stop : String) (cs : List Char) : Option String := do
  let (name, rest) ← nameAfter? start cs
  if rest = stop.toList then some name else none

/-- A selection as it is written. -/
def select? (cs : List Char) : Option Clause := do
  let (label, rest) ← nameAfter? "MATCH (n:" cs
  let parameter ← nameBetween? ") WHERE id(n) = toInteger($" ")" rest
  return .select label parameter

/-- The clause that is written in a line. -/
def ofLine? (line : String) : Option Clause :=
  let cs := line.toList
  (select? cs)
    <|> (nameBetween? "SET n." (" = " ++ Statement.now) cs).map stamp
    <|> (if line = "DETACH DELETE n" then some delete else none)
    <|> (nameBetween? "RETURN toString(id(n)) AS " "" cs).map returnIds
    <|> (nameBetween? "RETURN count(n) AS " "" cs).map returnCount

end Clause

/-- The clauses of a statement, one to a line. -/
def Statement.clauses? (statement : Statement) : Option (List Clause) :=
  (Text.parts "\n" statement.text).mapM Clause.ofLine?

/-- How far a statement has come: the numbers of the bound nodes, a row each,
what was changed so far, and what was returned. -/
structure Progress where
  bound : List Int := []
  changes : List Change := []
  rows : List Row := []

namespace Database

variable (db : Database) (store : Store)

/-- The numbers of the nodes of a label whose number is read in a text. -/
def selected (label text : String) : List Int :=
  (store.nodes.filter fun node =>
    node.labels.contains label && db.toInteger text == some node.id).map Stored.id

/-- The text of a parameter; nothing is read in what is no text. -/
def parameterText? (parameters : Bag Json) (name : String) : Option String :=
  (parameters.get? name).bind Json.asText?

/-- Runs one clause. -/
def step (parameters : Bag Json) (p : Progress) : Clause → Progress
  | .select label parameter =>
    { p with bound := ((parameterText? parameters parameter).map
        (db.selected (store.after p.changes) label)).getD [] }
  | .stamp key => { p with changes := p.changes ++ p.bound.map (.set · key (.str db.now)) }
  | .delete => { p with changes := p.changes ++ p.bound.map .remove }
  | .returnIds column =>
    { p with rows := p.bound.map fun id => ⟨.single column (.str (toString id))⟩ }
  | .returnCount column => { p with rows := [⟨.single column (.int p.bound.length)⟩] }

/-- Runs the clauses of a statement after some changes. -/
def run (parameters : Bag Json) (changes : List Change) (clauses : List Clause) : Progress :=
  clauses.foldl (db.step store parameters) { changes }

/-- Answers the statements that are read, and keeps what they changed in the
store. -/
def answer (statement : Statement) (changes : List Change) :
    Except Failure (List Row) × List Change :=
  match statement.clauses? with
  | none => (.error (.query "the statement is not read" statement.text), changes)
  | some clauses =>
    let p := db.run store statement.parameters changes clauses
    (.ok p.rows, p.changes)

/-- The database over a store, as what answers statements. -/
def executor : Executor (List Change) where
  fetch statement changes := (db.answer store statement changes).map (·.map (·.map .ok)) id
  execute statement changes := (db.answer store statement changes).map (·.map fun _ => ()) id

end Database

/-! ### The clauses of a deletion -/

namespace Clause

theorem dropStart?_append (start rest : List Char) :
    Text.dropStart? start (start ++ rest) = some rest := by
  induction start with
  | nil => cases rest <;> rfl
  | cons c start ih => simp [Text.dropStart?, ih]

theorem takeWhile_append_cons {p : Char → Bool} {name : List Char} {c : Char} (rest : List Char)
    (hname : ∀ d ∈ name, p d = true) (hc : p c = false) :
    (name ++ c :: rest).takeWhile p = name ∧ (name ++ c :: rest).dropWhile p = c :: rest := by
  constructor
  · rw [List.takeWhile_append_of_pos hname, List.takeWhile_cons_of_neg (by simp [hc]),
      List.append_nil]
  · rw [List.dropWhile_append_of_pos hname, List.dropWhile_cons_of_neg (by simp [hc])]

theorem nameAfter?_append {start name : String} {c : Char} {rest : List Char}
    (hname : isName name = true) (hc : isNameChar c = false) :
    nameAfter? start (start.toList ++ (name.toList ++ c :: rest)) = some (name, c :: rest) := by
  obtain ⟨htake, hdrop⟩ := takeWhile_append_cons rest
    (fun _ hd => Statement.isNameChar_of_mem hname hd) hc
  rw [nameAfter?, dropStart?_append, Option.map_some, htake, hdrop, String.ofList_toList]

/-- **The line that selects a node is read as the selection of it.** -/
theorem ofLine?_selectById (label : Statement.Identifier) :
    ofLine? (Statement.selectById label) = some (.select label.text "id") := by
  have hline : (Statement.selectById label).toList = "MATCH (n:".toList ++
      (label.text.toList ++ ')' :: " WHERE id(n) = toInteger($id)".toList) := by
    simp [Statement.selectById, Statement.labelled, Statement.NodePattern.text]
  have hparameter : nameBetween? ") WHERE id(n) = toInteger($" ")"
      (')' :: " WHERE id(n) = toInteger($id)".toList) = some "id" := by decide
  have hselect : select? (Statement.selectById label).toList = some (.select label.text "id") := by
    rw [select?, hline, nameAfter?_append label.isName (by decide)]
    simp only [Option.bind_eq_bind, Option.bind_some, hparameter]
    rfl
  rw [ofLine?, hselect]
  rfl

end Clause

namespace Statement

theorem isLine_selectById (label : Identifier) : IsLine (selectById label) := by
  simp +decide [selectById, labelled, NodePattern.text, isLine_of_isName label.isName]

/-- A statement that selects a node by its identifier and has two more lines. -/
theorem clauses?_selectById (label : Identifier) {change last : String} {second third : Clause}
    {parameters : Bag Json} (hlines : IsLine change ∧ IsLine last)
    (hchange : Clause.ofLine? change = some second) (hlast : Clause.ofLine? last = some third) :
    clauses? ⟨Text.unlines [selectById label, change, last], parameters⟩ =
      some [.select label.text "id", second, third] := by
  have hparts : Text.parts "\n" (Text.unlines [selectById label, change, last]) =
      [selectById label, change, last] := Text.parts_unlines (by
    simpa using ⟨isLine_selectById label, hlines.1, hlines.2⟩)
  rw [clauses?, hparts]
  simp [Clause.ofLine?_selectById, hchange, hlast]

theorem clauses?_softDelete {label id : String} (h : isName label = true) :
    ∃ statement, softDelete label id = .ok statement ∧
      statement.parameters.get? "id" = some (.str id) ∧ statement.clauses? =
        some [.select label "id", .stamp "deleted_at", .returnIds "id"] := by
  refine ⟨_, by rw [softDelete, Identifier.ofText_of_isName "label" h]; rfl, by simp [Bag.single],
    clauses?_selectById ⟨label, h⟩ (by decide) (by decide) (by decide)⟩

theorem clauses?_detachDelete {label id : String} (h : isName label = true) :
    ∃ statement, detachDelete label id = .ok statement ∧
      statement.parameters.get? "id" = some (.str id) ∧ statement.clauses? =
        some [.select label "id", .delete, .returnCount "deleted_count"] := by
  refine ⟨_, by rw [detachDelete, Identifier.ofText_of_isName "label" h]; rfl,
    by simp [Bag.single], clauses?_selectById ⟨label, h⟩ (by decide) (by decide) (by decide)⟩

end Statement

end EntityGraph
