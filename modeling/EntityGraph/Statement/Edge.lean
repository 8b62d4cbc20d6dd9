import EntityGraph.Statement.Basic
import EntityGraph.Statement.Pattern
import EntityGraph.TextSet
/-!
# Relationship statements

The statements that create and read relationships, and the one that makes the
relationships of a type lead to exactly a given set of nodes.
-/

namespace EntityGraph.Statement

/-- The line that selects any node by the identifier that `id` stands for. -/
def selectNode (variableName id : String) : String :=
  "MATCH (" ++ variableName ++ ") WHERE id(" ++ variableName ++ ") = toInteger(" ++ id ++ ")"

/-- The pattern of a relationship of one type from the node `source`. -/
def edgeFromSource (variableName : String) (type : Identifier) (direction : Direction)
    (target : NodePattern) : EdgePattern :=
  { source := { variableName := "source" }, variableName, types := [type], direction, target }

/-- Creates a relationship between two nodes unless it is there already, and
returns it as `r`. -/
def mergeEdge (sourceId type targetId : String) (direction : Direction) :
    Except ArgumentFault Statement := do
  let type ← Identifier.ofText "relationship type" type
  return Statement.mk
    (Text.unlines
      [selectNode "source" "$source_id", selectNode "target" "$target_id",
        "MERGE " ++ (edgeFromSource "r" type direction { variableName := "target" }).text,
        "RETURN r"])
    (.ofList [("source_id", .str sourceId), ("target_id", .str targetId)])

/-- Makes the relationships of a type lead from a node to exactly the targets
that exist, and returns their number as `synced_count`. Relationships to other
nodes are removed. -/
def syncEdges (sourceId type : String) (targetIds : List String) (direction : Direction) :
    Except ArgumentFault Statement := do
  let type ← Identifier.ofText "relationship type" type
  return Statement.mk
    (Text.unlines
      [selectNode "source" "$source_id",
        "OPTIONAL MATCH "
          ++ (edgeFromSource "old" type direction { variableName := "old_target" }).text,
        "WHERE NOT toString(id(old_target)) IN $target_ids",
        "DELETE old",
        "WITH DISTINCT source",
        "UNWIND $target_ids AS target_id",
        selectNode "target" "target_id",
        "MERGE " ++ (edgeFromSource "r" type direction { variableName := "target" }).text,
        "RETURN count(DISTINCT target) AS synced_count"])
    (.ofList [("source_id", .str sourceId),
      ("target_ids", .ofTexts (TextSet.ofList targetIds).toList)])

/-- The line that selects the node `source` of a label by its identifier. -/
def selectSource (label : Identifier) : String :=
  "MATCH " ++ NodePattern.text { variableName := "source", label := some label }
    ++ " WHERE id(source) = toInteger($id)"

/-- Reads the nodes that a node is linked to, newest first, as `target`. -/
def linkedNodes (sourceLabel id type : String) (direction : Direction)
    (targetLabel : Option String) : Except ArgumentFault Statement := do
  let sourceLabel ← Identifier.ofText "label" sourceLabel
  let type ← Identifier.ofText "relationship type" type
  let target ← NodePattern.withLabel "target" targetLabel
  return Statement.mk
    (Text.unlines
      [selectSource sourceLabel, "MATCH " ++ (edgeFromSource "" type direction target).text,
        "RETURN target", "ORDER BY target.created_at DESC"])
    (.single "id" (.str id))

/-- Reads the relationships of a node, newest first, as `r` with their ends as
`source` and `target`. -/
def edgesOf (sourceLabel id type : String) (direction : Direction) :
    Except ArgumentFault Statement := do
  let sourceLabel ← Identifier.ofText "label" sourceLabel
  let type ← Identifier.ofText "relationship type" type
  return Statement.mk
    (Text.unlines
      [selectSource sourceLabel,
        "MATCH " ++ (edgeFromSource "r" type direction { variableName := "target" }).text,
        "RETURN r, source, target", "ORDER BY r.created_at DESC"])
    (.single "id" (.str id))

end EntityGraph.Statement
