import EntityGraph.Failure
import EntityGraph.Schema.Field
import EntityGraph.Text.Join
/-!
# Patterns

The patterns of nodes and relationships that stand in statements. Labels,
relationship types and property names go into the text of a statement, so
they have to be names: an `Identifier` is a text that is one.
-/

namespace EntityGraph.Statement

/-- A text that may stand in a statement as a name. -/
structure Identifier where
  text : String
  isName : EntityGraph.isName text = true
deriving DecidableEq

/-- A text as an identifier; `what` says what it was to name. -/
def Identifier.ofText (what value : String) : Except ArgumentFault Identifier :=
  if h : EntityGraph.isName value then .ok ⟨value, h⟩ else .error (.notAName what value)

/-- The types of a relationship field, of which there must be one at least. -/
def identifyTypes (types : List String) : Except ArgumentFault (List Identifier) :=
  if types.isEmpty then .error .noRelationshipTypes
  else types.mapM (Identifier.ofText "relationship type")

/-- A node in a pattern: the variable that stands for it and, if there is one,
the label it must have. -/
structure NodePattern where
  variableName : String
  label : Option Identifier := none
deriving DecidableEq

namespace NodePattern

/-- A node with a label, which an absent or empty text leaves open. -/
def withLabel (variableName : String) (label : Option String) :
    Except ArgumentFault NodePattern :=
  match label with
  | none => .ok { variableName }
  | some text =>
    if text.isEmpty then .ok { variableName }
    else (Identifier.ofText "label" text).map fun label => { variableName, label := some label }

/-- A node pattern as it is written. -/
def text (node : NodePattern) : String :=
  match node.label with
  | none => "(" ++ node.variableName ++ ")"
  | some label => "(" ++ node.variableName ++ ":" ++ label.text ++ ")"

end NodePattern

/-- A relationship in a pattern, between two nodes. -/
structure EdgePattern where
  source : NodePattern
  variableName : String := ""
  types : List Identifier
  direction : Direction
  target : NodePattern

/-- A relationship pattern as it is written. -/
def EdgePattern.text (edge : EdgePattern) : String :=
  edge.source.text ++ edge.direction.arrows.1 ++ "[" ++ edge.variableName ++ ":"
    ++ Text.join "|" (edge.types.map Identifier.text) ++ "]" ++ edge.direction.arrows.2
    ++ edge.target.text

end EntityGraph.Statement
