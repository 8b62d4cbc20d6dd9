import EntityGraph.Schema.Name
/-!
# Fields

What an entity type declares about one of its fields: the kind of its values,
the name it is stored under, and, when it stands for other nodes, how these
are linked. A field is a scalar or a relationship, and which one it is never
changes.
-/

namespace EntityGraph

/-- The kind of a field's values. -/
inductive Kind where
  | string
  | integer
  | float
  | boolean
  | datetime
  | enum (variants : List String)
  | list (inner : Kind)
deriving DecidableEq, Repr

/-- Whether values of a kind are lists. -/
def Kind.isList : Kind → Bool
  | .list _ => true
  | _ => false

/-- Which way a relationship points, seen from the entity. -/
inductive Direction where
  | outgoing
  | incoming
  | both
deriving DecidableEq, Repr

/-- The arrow parts before and after the bracket of a pattern. -/
def Direction.arrows : Direction → String × String
  | .outgoing => ("-", "->")
  | .incoming => ("<-", "-")
  | .both => ("-", "-")

/-- What a search gives for a relationship: all linked nodes, one of them, or
their number. -/
inductive Cardinality where
  | collection
  | single
  | count
deriving DecidableEq, Repr

/-- How a relationship field is linked to other nodes. -/
structure Link where
  types : List String
  targetLabel : Option String := none
  targetField : Option String := none
  direction : Direction := .outgoing
  cardinality : Cardinality := .collection
deriving DecidableEq, Repr

/-- A declared field. -/
structure Field where
  name : String
  storedName : String
  kind : Kind
  nullable : Bool := false
  searchable : Bool := false
  link : Option Link := none
deriving DecidableEq, Repr

/-- The names that the store keeps for itself. -/
def reservedNames : List String :=
  ["id", "created_at", "updated_at", "deleted_at"]

namespace Field

/-- A scalar field, stored under its name in snake case. -/
def scalar (name : String) (kind : Kind) : Field :=
  { name, storedName := snakeCase name, kind }

/-- A relationship field over some relationship types. -/
def relationship (name : String) (types : List String) : Field :=
  { name, storedName := snakeCase name, kind := .list .string, link := some { types } }

/-- The field stored under another name. -/
def storedAs (f : Field) (storedName : String) : Field :=
  { f with storedName }

/-- The field marked for free-text search. -/
def markSearchable (f : Field) : Field :=
  { f with searchable := true }

/-- The field with null among its values. -/
def markNullable (f : Field) : Field :=
  { f with nullable := true }

/-- The field with its link changed, if it has one. -/
def mapLink (f : Field) (change : Link → Link) : Field :=
  { f with link := f.link.map change }

/-- The field linked to nodes of one label. -/
def target (f : Field) (label : String) : Field :=
  f.mapLink ({ · with targetLabel := some label })

/-- The field whose linked nodes are recognised by one of their properties. -/
def targetField (f : Field) (name : String) : Field :=
  f.mapLink ({ · with targetField := some name })

/-- The field linked in a given direction. -/
def directed (f : Field) (direction : Direction) : Field :=
  f.mapLink ({ · with direction })

/-- The field with a given cardinality. -/
def withCardinality (f : Field) (cardinality : Cardinality) : Field :=
  f.mapLink ({ · with cardinality })

/-- The field reduced to the number of linked nodes. -/
def countOnly (f : Field) : Field :=
  { f with kind := .integer }.withCardinality .count

/-- Whether the field stands for other nodes. -/
def isRelationship (f : Field) : Bool :=
  f.link.isSome

/-- Whether the field is the number of linked nodes. -/
def isCountOnly (f : Field) : Bool :=
  f.link.any (·.cardinality == .count)

/-- Whether the field would use a name that the store keeps for itself. -/
def isReserved (f : Field) : Bool :=
  reservedNames.contains f.name || reservedNames.contains f.storedName

/-- The name of the field in small letters, which names its parameter and
stands in its variables. -/
def lowerName (f : Field) : String :=
  Text.lower f.name

/-- The column under which a search gives the field's linked nodes or their
number. -/
def collectionAlias (f : Field) : String :=
  f.lowerName ++ "_collection"

end Field

end EntityGraph
