import EntityGraph.Entity.Basic
import EntityGraph.Value.Coercion
import EntityGraph.Graph.Row
/-!
# Converters

Entities from nodes and rows, and the properties to store of an entity. A
property that cannot be read as a value of its field leaves the field as it is
in a blank entity and hinders no other field. Relationship fields are never
stored.
-/

namespace EntityGraph

open Time (Instant)

/-- A way between the entities of a type and their nodes. -/
structure Converter (α : Type) where
  fromNode : Node → α
  /-- The entity of the node in a column of a row, with what other columns say
  about it. -/
  fromRow : Row → String → Except Failure α
  toProperties : α → Bag Json

namespace Converter

variable {α : Type} [Entity α]

/-- The time in a property that holds the text of one. -/
def readTime (n : Node) (key : String) : Option Instant :=
  ((n.properties.get? key).bind Json.asText?).bind Instant.read?

/-- The metadata of a node. -/
def readMetadata (n : Node) : Metadata :=
  { id := some n.id
    createdAt := readTime n "created_at"
    updatedAt := readTime n "updated_at"
    deletedAt := readTime n "deleted_at" }

/-- The entity with one field read from the properties, if it has a property
that can be read. -/
def readScalar (properties : Bag Json) (entity : α) (field : Field) : α :=
  match properties.get? field.storedName with
  | none => entity
  | some raw =>
    match field.coerce raw with
    | .ok value => Entity.tryWrite entity field.name value
    | .error _ => entity

/-- The entity of a node, by the fields of a schema. -/
def fromNodeBy (s : Schema) (n : Node) : α :=
  s.scalars.foldl (readScalar n.properties) (Entity.withMetadata Entity.blank (readMetadata n))

/-- The number that a JSON number is counted as: integers out of the signed
64-bit range and floating-point numbers go to the nearest integer in range
towards zero. -/
def countOf : Json → Option Int
  | .int n => some (Number.clamp Number.int64Min Number.int64Max n)
  | .float x => some x.truncate
  | _ => none

/-- A number of linked nodes, kept between zero and the largest signed 32-bit
integer. -/
def clampCount (n : Int) : Int :=
  Number.clamp 0 Number.int32Max n

/-- The entity with the number of its linked nodes for one field, if the row
has it. -/
def readCount (row : Row) (entity : α) (field : Field) : α :=
  match (row.columns.get? field.collectionAlias).bind countOf with
  | some n => Entity.tryWrite entity field.name (.integer (clampCount n))
  | none => entity

/-- The entity of the node in a column, with the numbers of linked nodes that
other columns hold. -/
def fromRowBy (s : Schema) (row : Row) (column : String) : Except Failure α :=
  (row.get Decode.node column).map fun node =>
    (s.relationships.filter (·.isCountOnly)).foldl (readCount row) (fromNodeBy s node)

/-- Whether a value is left out of the stored properties: it says nothing. -/
def isOmitted (field : Field) (value : Value) : Bool :=
  if field.nullable then value.isBlank else value.isDefault field.kind

/-- The properties with one field added, unless it says nothing. -/
def writeScalar (entity : α) (properties : Bag Json) (field : Field) : Bag Json :=
  match Entity.readField entity field.name with
  | none => properties
  | some value =>
    if isOmitted field value then properties
    else properties.insert field.storedName value.toJson

/-- The properties to store of an entity, by the fields of a schema. -/
def toPropertiesBy (s : Schema) (entity : α) : Bag Json :=
  s.scalars.foldl (writeScalar entity) .empty

/-- The converter by the fields of a schema. -/
def ofSchema (s : Schema) : Converter α :=
  { fromNode := fromNodeBy s
    fromRow := fromRowBy s
    toProperties := toPropertiesBy s }

/-- The converter by the fields of the type itself. -/
def standard (α : Type) [Entity α] : Converter α :=
  ofSchema (Entity.schema α)

end Converter

end EntityGraph
