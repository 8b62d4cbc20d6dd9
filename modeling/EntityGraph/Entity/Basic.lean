import EntityGraph.Schema.Basic
import EntityGraph.Value.Basic
/-!
# Entities

What a type of entities is to the library: a label, a table of fields, and
access to the values of the fields by their names. Every entity carries the
identifier and the times that the store keeps about its node.
-/

namespace EntityGraph

open Time (Instant)

/-- What the store keeps about the node of an entity. -/
structure Metadata where
  id : Option String := none
  createdAt : Option Instant := none
  updatedAt : Option Instant := none
  deletedAt : Option Instant := none
deriving DecidableEq

/-- The JSON form of a point in time that may be absent. -/
def Metadata.timeJson : Option Instant → Json
  | some t => .str t.toZuluText
  | none => .null

/-- The members of a document that hold the metadata. -/
def Metadata.members (m : Metadata) : List (String × Json) :=
  [("id", match m.id with
      | some id => .str id
      | none => .null),
    ("created_at", timeJson m.createdAt), ("updated_at", timeJson m.updatedAt),
    ("deleted_at", timeJson m.deletedAt)]

/-- A type of entities. -/
class Entity (α : Type) where
  /-- The label of the nodes that entities are stored as. -/
  label : String
  fields : List Field
  /-- The entity about which nothing is said. -/
  blank : α
  metadata : α → Metadata
  withMetadata : α → Metadata → α
  /-- The value of a field, if the entity has the field. -/
  readField : α → String → Option Value
  /-- The entity with a field changed, unless it rejects the value. -/
  writeField : α → String → Value → Option α

namespace Entity

variable {α : Type} [Entity α]

/-- The schema of a type of entities. -/
def schema (α : Type) [Entity α] : Schema :=
  .ofFields (label α) (fields α)

/-- The entity with a field changed, or the same entity if it rejects the
value. -/
def tryWrite (entity : α) (name : String) (value : Value) : α :=
  (writeField entity name value).getD entity

end Entity

end EntityGraph
