import EntityGraph.Statement.Basic
import EntityGraph.Statement.Pattern
import EntityGraph.Text.Blank
/-!
# Node statements

The statements that create, look up, change and delete single nodes. A node is
selected by the number that identifies it; an identifier that is no number
selects nothing. Deleting is of two sorts: a soft deletion only marks the node,
and a detaching one removes it together with its relationships.
-/

namespace EntityGraph.Statement

/-- The text that stands for the time at which a statement runs. -/
def now : String := "toString(datetime())"

/-- The pattern of a node `n` of a label. -/
def labelled (label : Identifier) : NodePattern :=
  { variableName := "n", label := some label }

/-- The condition that a node is not marked as deleted. -/
def notDeleted : String := "(n.deleted_at IS NULL)"

/-- The line that selects a node of a label by its identifier. -/
def selectById (label : Identifier) : String :=
  "MATCH " ++ (labelled label).text ++ " WHERE id(n) = toInteger($id)"

/-- Creates a node, which is returned as `n`. -/
def createNode (label : String) (properties : Bag Json) : Except ArgumentFault Statement := do
  let label ← Identifier.ofText "label" label
  return Statement.mk
    (Text.unlines
      ["CREATE (n:" ++ label.text ++ " $properties)", "SET n.created_at = " ++ now, "RETURN n"])
    (.single "properties" (.ofBag properties))

/-- Looks up a node that is not marked as deleted, which is returned as `n`. -/
def findById (label id : String) : Except ArgumentFault Statement := do
  let label ← Identifier.ofText "label" label
  return Statement.mk
    (Text.unlines [selectById label ++ " AND " ++ notDeleted, "RETURN n"])
    (.single "id" (.str id))

/-- Looks up the first node that is not marked as deleted and has a value
stored under a name; it is returned as `n`. -/
def findByField (label storedName : String) (value : Json) : Except ArgumentFault Statement := do
  let label ← Identifier.ofText "label" label
  let storedName ← Identifier.ofText "field" storedName
  return Statement.mk
    (Text.unlines
      ["MATCH " ++ (labelled label).text ++ " WHERE n." ++ storedName.text ++ " = $field_value AND "
        ++ notDeleted, "RETURN n", "LIMIT 1"])
    (.single "field_value" value)

/-- Whether a property may overwrite a stored one: it is neither null nor a
blank text. -/
def overwrites : Json → Bool
  | .null => false
  | .str s => !Text.isBlank s
  | _ => true

/-- The properties that overwrite stored ones, so that a partial update clears
nothing. -/
def updatable (properties : Bag Json) : Bag Json :=
  properties.filter fun _ value => overwrites value

/-- Overwrites properties of a node, which is returned as `n`. -/
def updateNode (label id : String) (properties : Bag Json) : Except ArgumentFault Statement := do
  let label ← Identifier.ofText "label" label
  return Statement.mk
    (Text.unlines
      [selectById label, "SET n += $properties, n.updated_at = " ++ now, "RETURN n"])
    (.ofList [("id", .str id), ("properties", .ofBag (updatable properties))])

/-- Marks a node as deleted and returns its identifier as `id`. -/
def softDelete (label id : String) : Except ArgumentFault Statement := do
  let label ← Identifier.ofText "label" label
  return Statement.mk
    (Text.unlines
      [selectById label, "SET n.deleted_at = " ++ now, "RETURN toString(id(n)) AS id"])
    (.single "id" (.str id))

/-- Removes a node and its relationships and returns the number of removed
nodes as `deleted_count`. -/
def detachDelete (label id : String) : Except ArgumentFault Statement := do
  let label ← Identifier.ofText "label" label
  return Statement.mk
    (Text.unlines
      [selectById label, "DETACH DELETE n", "RETURN count(n) AS deleted_count"])
    (.single "id" (.str id))

end EntityGraph.Statement
