import EntityGraph.Graph.Decode
import EntityGraph.Failure
/-!
# Nodes and relationships

The nodes and relationships of a property graph, as the database returns them:
identified by decimal texts, and with a bag of properties. Both are read from
objects with their fields as members, or from lists of their fields in order.
-/

namespace EntityGraph

/-- A node. -/
structure Node where
  id : String
  labels : List String := []
  properties : Bag Json := .empty
deriving DecidableEq

/-- A relationship, which leads from one node to another. -/
structure Edge where
  id : String
  type : String
  startId : String
  endId : String
  properties : Bag Json := .empty
deriving DecidableEq

/-- The object form of a node. -/
def Node.toJson (n : Node) : Json :=
  .ofBag (.ofList [("id", .str n.id), ("labels", .ofTexts n.labels),
    ("properties", .ofBag n.properties)])

/-- The object form of a relationship. -/
def Edge.toJson (e : Edge) : Json :=
  .ofBag (.ofList [("id", .str e.id), ("type", .str e.type), ("start_id", .str e.startId),
    ("end_id", .str e.endId), ("properties", .ofBag e.properties)])

namespace Decode

/-- A node. Labels and properties may be missing. -/
def node : Decoder Node
  | .obj members => do
    return { id := ← required text "id" members
             labels := ← defaulted (list text) [] "labels" members
             properties := ← defaulted object .empty "properties" members }
  | .arr [id] => do return { id := ← text id }
  | .arr [id, labels] => do return { id := ← text id, labels := ← list text labels }
  | .arr [id, labels, properties] => do
    return { id := ← text id, labels := ← list text labels, properties := ← object properties }
  | _ => none

/-- A relationship. Properties may be missing. -/
def edge : Decoder Edge
  | .obj members => do
    return { id := ← required text "id" members
             type := ← required text "type" members
             startId := ← required text "start_id" members
             endId := ← required text "end_id" members
             properties := ← defaulted object .empty "properties" members }
  | .arr [id, type, startId, endId] => do
    return { id := ← text id, type := ← text type, startId := ← text startId
             endId := ← text endId }
  | .arr [id, type, startId, endId, properties] => do
    return { id := ← text id, type := ← text type, startId := ← text startId
             endId := ← text endId, properties := ← object properties }
  | _ => none

end Decode

namespace Node

variable {α : Type}

/-- Reads a property that is there. -/
def decodeProperty (decoder : Decoder α) (key : String) (value : Json) : Except Failure α :=
  match decoder value with
  | some a => .ok a
  | none => .error (.internal (.undecodableProperty key))

/-- A property that the node must have. -/
def get (n : Node) (decoder : Decoder α) (key : String) : Except Failure α :=
  match n.properties.get? key with
  | some value => decodeProperty decoder key value
  | none => .error (.internal (.missingProperty key))

/-- A property that may be missing or null. -/
def getOpt (n : Node) (decoder : Decoder α) (key : String) : Except Failure (Option α) :=
  match n.properties.get? key with
  | none | some .null => .ok none
  | some value => (decodeProperty decoder key value).map some

/-- A property, or a default where there is none that can be read. -/
def getOr (n : Node) (decoder : Decoder α) (key : String) (default : α) : α :=
  match n.getOpt decoder key with
  | .ok (some a) => a
  | _ => default

/-- The node with one more label. -/
def withLabel (n : Node) (label : String) : Node :=
  { n with labels := n.labels ++ [label] }

/-- Whether the node has a label. -/
def hasLabel (n : Node) (label : String) : Bool :=
  n.labels.contains label

end Node

end EntityGraph
