import EntityGraph.Statement.Edge
import EntityGraph.Statement.Search
/-!
# Calls

Every way to make a statement, with the arguments it takes, so that a law of
all statements is one statement about calls. A call fails on names that may
not stand in a statement, and then makes none.
-/

namespace EntityGraph.Statement

/-- **A call that makes a statement.** -/
inductive Call where
  | createNode (label : String) (properties : Bag Json)
  | findById (label id : String)
  | findByField (label storedName : String) (value : Json)
  | updateNode (label id : String) (properties : Bag Json)
  | softDelete (label id : String)
  | detachDelete (label id : String)
  | mergeEdge (sourceId type targetId : String) (direction : Direction)
  | syncEdges (sourceId type : String) (targetIds : List String) (direction : Direction)
  | linkedNodes (sourceLabel id type : String) (direction : Direction)
      (targetLabel : Option String)
  | edgesOf (sourceLabel id type : String) (direction : Direction)
  | search (s : Schema) (r : SearchRequest)
  | count (s : Schema) (r : SearchRequest)
  | textSearch (s : Schema) (term : String) (skip limit : Option UInt64)

namespace Call

/-- The statement of a call. -/
def statement : Call → Except ArgumentFault Statement
  | createNode label properties => Statement.createNode label properties
  | findById label id => Statement.findById label id
  | findByField label storedName value => Statement.findByField label storedName value
  | updateNode label id properties => Statement.updateNode label id properties
  | softDelete label id => Statement.softDelete label id
  | detachDelete label id => Statement.detachDelete label id
  | mergeEdge sourceId type targetId direction =>
    Statement.mergeEdge sourceId type targetId direction
  | syncEdges sourceId type targetIds direction =>
    Statement.syncEdges sourceId type targetIds direction
  | linkedNodes sourceLabel id type direction targetLabel =>
    Statement.linkedNodes sourceLabel id type direction targetLabel
  | edgesOf sourceLabel id type direction => Statement.edgesOf sourceLabel id type direction
  | search s r => Statement.search s r
  | count s r => Statement.count s r
  | textSearch s term skip limit => Statement.textSearch s term skip limit

/-- The columns that are read from the rows of a call: a node, an identifier, a
number, relationships with their ends, or entities with what is linked to
them. -/
def columns : Call → List String
  | createNode .. | findById .. | findByField .. | updateNode .. | textSearch .. => ["n"]
  | softDelete .. => ["id"]
  | detachDelete .. => ["deleted_count"]
  | mergeEdge .. => ["r"]
  | syncEdges .. => ["synced_count"]
  | linkedNodes .. => ["target"]
  | edgesOf .. => ["r", "source", "target"]
  | search s _ => "n" :: s.relationships.map (·.collectionAlias)
  | count .. => ["total_count"]

/-- A call that searches gathers all linked nodes, or their number, for every
relationship field. -/
def IsGathering : Call → Prop
  | search s _ => ∀ field ∈ s.relationships, ∃ link, field.link = some link ∧
      link.cardinality ≠ .single
  | _ => True

end Call

end EntityGraph.Statement
