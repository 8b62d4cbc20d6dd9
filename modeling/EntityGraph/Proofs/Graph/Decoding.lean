import EntityGraph.Graph.Row
import EntityGraph.Proofs.Bag
/-!
# Reading what was written

The object form of a node or of a relationship is read as that node
(`node_toJson`) or relationship (`edge_toJson`), and a list of object forms as
the list of what they stand for (`list_toJson`).
-/

namespace EntityGraph

namespace Decode

variable {α : Type}

/-- A member of an object that was made of some entries. -/
theorem lookupEntry_ofList (key : String) (entries : List (String × α)) :
    lookupEntry key (Bag.ofList entries).entries = lastValue? key entries :=
  Bag.get?_ofList entries key

@[simp] theorem text_str (s : String) : text (.str s) = some s := rfl

@[simp] theorem object_ofBag (bag : Bag Json) : object (.ofBag bag) = some bag :=
  congrArg some (Bag.ofList_entries bag)

/-- Items that are read as what they were made of are read as a list of it. -/
theorem items_map {item : Decoder α} {f : α → Json} (h : ∀ a, item (f a) = some a) (as : List α) :
    items item (as.map f) = some as := by
  induction as with
  | nil => rfl
  | cons a as ih => simp [items, h a, ih]

@[simp] theorem list_ofTexts (texts : List String) : list text (.ofTexts texts) = some texts :=
  items_map text_str texts

/-- **The object form of a node is read as the node.** -/
@[simp] theorem node_toJson (n : Node) : node n.toJson = some n := by
  rw [Node.toJson, Json.ofBag, node]
  simp [required, defaulted, lookupEntry_ofList, lastValue?]

/-- The object form of a relationship is read as the relationship. -/
@[simp] theorem edge_toJson (e : Edge) : edge e.toJson = some e := by
  rw [Edge.toJson, Json.ofBag, edge]
  simp [required, defaulted, lookupEntry_ofList, lastValue?]

/-- A list of object forms is read as the list of the nodes. -/
@[simp] theorem list_toJson (nodes : List Node) :
    list node (.arr (nodes.map Node.toJson)) = some nodes :=
  items_map node_toJson nodes

end Decode

namespace Row

variable {α : Type} {r : Row} {column : String}

theorem get_eq_ok {decoder : Decoder α} {value : Json} {a : α}
    (hvalue : r.columns.get? column = some value) (hread : decoder value = some a) :
    r.get decoder column = .ok a := by
  rw [get, hvalue]
  simp only [decodeColumn, hread]

theorem relatedNodes_eq {nodes : List Node}
    (h : r.columns.get? column = some (.arr (nodes.map Node.toJson))) :
    r.relatedNodes column = nodes := by
  rw [relatedNodes, getOpt, h]
  simp only [decodeColumn, Decode.list_toJson, Except.map]

end Row

end EntityGraph
