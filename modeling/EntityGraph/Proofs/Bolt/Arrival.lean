import EntityGraph.Proofs.Bolt.Row
import EntityGraph.Proofs.Graph.Decoding
import Mathlib.Data.List.Forall2
/-!
# Nodes and relationships on their way

What a column carries from the server to the reader of a row. A node or a
relationship is read with the identifiers that the server has, in decimals, and
with its own names of properties; a list of nodes is read as all of them in
order (`arrives_decodeRow`). The two ways to send a statement give the same such
rows (`fetch_of_rows`).
-/

namespace EntityGraph.Bolt

/-- A node as the server has it. -/
structure SentNode where
  id : Int
  labels : List String
  properties : List (String × Value)

/-- A relationship as the server has it. -/
structure SentEdge where
  id : Int
  startId : Int
  endId : Int
  type : String
  properties : List (String × Value)

/-- What the server sends for a node. -/
def SentNode.value (n : SentNode) : Value :=
  .node n.id n.labels n.properties

/-- What the server sends for a relationship. -/
def SentEdge.value (e : SentEdge) : Value :=
  .edge e.id e.startId e.endId e.type e.properties

/-- A node that was read is the one that the server has. -/
structure SentNode.IsRead (n : SentNode) (read : Node) : Prop where
  id : read.id = toString n.id
  labels : read.labels = n.labels
  keys : ∀ key, key ∈ read.properties.keys ↔ key ∈ n.properties.map Prod.fst

/-- A relationship that was read is the one that the server has. -/
structure SentEdge.IsRead (e : SentEdge) (read : Edge) : Prop where
  id : read.id = toString e.id
  type : read.type = e.type
  startId : read.startId = toString e.startId
  endId : read.endId = toString e.endId
  keys : ∀ key, key ∈ read.properties.keys ↔ key ∈ e.properties.map Prod.fst

/-- A row shows the nodes and relationships that the server sent under its
columns. -/
structure Arrives (columns fields : List String) (values : List Value) (row : Row) : Prop where
  node : ∀ column ∈ columns, ∀ n : SentNode, sent? fields values column = some n.value →
    ∃ read, row.get Decode.node column = .ok read ∧ n.IsRead read
  edge : ∀ column ∈ columns, ∀ e : SentEdge, sent? fields values column = some e.value →
    ∃ read, row.get Decode.edge column = .ok read ∧ e.IsRead read
  nodes : ∀ column ∈ columns, ∀ ns : List SentNode,
    sent? fields values column = some (.list (ns.map SentNode.value)) →
    List.Forall₂ SentNode.IsRead ns (row.relatedNodes column)

/-! ### The JSON forms of columns -/

/-- The form that the driver gives is the one that a value has. -/
theorem Value.render_given? (v : Value) : v.render v.given? = v.plain := by
  cases v with
  | float x =>
    show render (some (Json.ofFloat x)) (float x) = Json.ofFloat x
    cases Json.ofFloat x <;> rfl
  | _ => rfl

theorem Value.properties_given? (members : List (String × Value)) :
    properties given? members = .ofList (plainMembers members) := by
  refine congrArg Bag.ofList ?_
  induction members with
  | nil => rfl
  | cons member members ih =>
    obtain ⟨key, v⟩ := member
    rw [List.map_cons, ih, plainMembers]
    exact congrArg (fun json => (key, json) :: plainMembers members) (render_given? v)

theorem mem_keys_properties (given : Value → Option Json) (members : List (String × Value))
    (key : String) : key ∈ (Value.properties given members).keys ↔ key ∈ members.map Prod.fst := by
  rw [Value.properties, Bag.mem_keys_ofList, List.map_map]
  rfl

/-- The node that is read of one that was sent, by the JSON forms that the driver
gives. -/
def SentNode.readBy (given : Value → Option Json) (n : SentNode) : Node :=
  { id := toString n.id, labels := n.labels, properties := Value.properties given n.properties }

/-- The node that is read of one that was sent. -/
def SentNode.read (n : SentNode) : Node :=
  n.readBy Value.given?

theorem SentNode.isRead_read (n : SentNode) : n.IsRead n.read :=
  ⟨rfl, rfl, mem_keys_properties _ _⟩

theorem columnBy_node (given : Value → Option Json) (n : SentNode) :
    n.value.columnBy given = (n.readBy given).toJson :=
  rfl

theorem column_node (n : SentNode) : n.value.column = n.read.toJson := rfl

/-- The relationship that is read of one that was sent. -/
def SentEdge.read (e : SentEdge) : Edge :=
  { id := toString e.id, type := e.type, startId := toString e.startId, endId := toString e.endId
    properties := Value.properties Value.given? e.properties }

theorem SentEdge.isRead_read (e : SentEdge) : e.IsRead e.read :=
  ⟨rfl, rfl, rfl, rfl, mem_keys_properties _ _⟩

theorem column_edge (e : SentEdge) : e.value.column = e.read.toJson := rfl

theorem asNodes?_list (ns : List SentNode) :
    (Value.list (ns.map SentNode.value)).asNodes? Value.given? = some (ns.map SentNode.read) := by
  rw [Value.asNodes?]
  induction ns with
  | nil => rfl
  | cons n ns ih => rw [List.map_cons, List.mapM_cons, ih]; rfl

theorem column_nodes (ns : List SentNode) :
    (Value.list (ns.map SentNode.value)).column = .arr ((ns.map SentNode.read).map Node.toJson) := by
  rw [Value.column, Value.columnBy, asNodes?_list]
  rfl

/-! ### Rows -/

/-- **What was sent is read,** whatever else the row holds. -/
theorem arrives_decodeRow (columns fields : List String) (values : List Value) :
    Arrives columns fields values (decodeRow columns fields values) := by
  have hcolumn {column : String} {v : Value} (hmem : column ∈ columns)
      (hsent : sent? fields values column = some v) :
      (decodeRow columns fields values).columns.get? column = some v.column := by
    rw [get?_decodeRow hmem, hsent]
    rfl
  refine ⟨fun column hmem n hsent => ?_, fun column hmem e hsent => ?_,
    fun column hmem ns hsent => ?_⟩
  · have hnode := (hcolumn hmem hsent).trans (congrArg some (column_node n))
    exact ⟨n.read, Row.get_eq_ok hnode (Decode.node_toJson n.read), n.isRead_read⟩
  · have hedge := (hcolumn hmem hsent).trans (congrArg some (column_edge e))
    exact ⟨e.read, Row.get_eq_ok hedge (Decode.edge_toJson e.read), e.isRead_read⟩
  · rw [Row.relatedNodes_eq ((hcolumn hmem hsent).trans (congrArg some (column_nodes ns))),
      List.forall₂_map_right_iff, List.forall₂_same]
    exact fun n _ => n.isRead_read

variable {σ : Type} {server : Server σ} {s : Statement} {state after : σ}
  {columns fields : List String} {table : List (List Value)}

/-- **The rows of a statement,** outside a transaction and inside one. -/
theorem fetch_of_rows (haccepted : knownColumns s.text = .ok columns)
    (hreply : server.answer (.ofStatement s) state = (.rows fields table false, after)) :
    (client server).fetch s state =
        (.ok ((table.map (decodeRow columns fields)).map .ok), after) ∧
      (transactionClient server).fetch s state =
        (.ok ((table.map (decodeRow columns fields)).map .ok), after) := by
  constructor
  · simp [client, fetchUpTo, haccepted, hreply, streamOf]
  · simp [transactionClient, fetchBuffered, haccepted, hreply, rowsOf, Except.map]

end EntityGraph.Bolt
