import EntityGraph.Schema.Field
/-!
# Schemas

The declared fields of an entity type, apart from those with reserved names,
divided into scalars and relationships. Both keep the order of declaration.
-/

namespace EntityGraph

/-- The label of an entity type and its fields. -/
structure Schema where
  label : String
  scalars : List Field
  relationships : List Field
deriving DecidableEq, Repr

namespace Schema

/-- The schema of a table of fields. -/
def ofFields (label : String) (fields : List Field) : Schema :=
  let kept := fields.filter (!·.isReserved)
  { label
    scalars := kept.filter (!·.isRelationship)
    relationships := kept.filter (·.isRelationship) }

/-- All fields, scalars first. -/
def fields (s : Schema) : List Field :=
  s.scalars ++ s.relationships

/-- Whether there are relationship fields. -/
def hasRelationships (s : Schema) : Bool :=
  !s.relationships.isEmpty

/-- The first field of a name, scalars first. -/
def field? (s : Schema) (name : String) : Option Field :=
  s.fields.find? (·.name == name)

/-- The stored names that free text is looked for in: those of the scalars
marked for it, or of all texts when none is marked. -/
def searchableFields (s : Schema) : List String :=
  let marked := s.scalars.filter (·.searchable)
  (if marked.isEmpty then s.scalars.filter (·.kind == .string) else marked).map (·.storedName)

end Schema

end EntityGraph
