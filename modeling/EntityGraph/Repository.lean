import EntityGraph.Entity.Converter
import EntityGraph.Session
import EntityGraph.Statement.Edge
import EntityGraph.Statement.Search
/-!
# Repositories

What can be done with the stored entities of a type: create, look up, search,
count, change, delete and link them. Each operation builds its statements
first; when an argument is not accepted nothing is sent.
-/

namespace EntityGraph

/-- Access to the stored entities of a type. -/
structure Repository (α : Type) where
  converter : Converter α

namespace Repository

variable {α β : Type} [Entity α]

/-- The repository that reads the fields of the type and nothing more. -/
def standard (α : Type) [Entity α] : Repository α :=
  ⟨.standard α⟩

/-- The label of the stored nodes. -/
def label (_ : Repository α) : String :=
  Entity.label α

/-- The schema of the entities. -/
def schema (_ : Repository α) : Schema :=
  Entity.schema α

/-- The column that holds the node of an entity. -/
def nodeColumn : String := "n"

/-- The entities of all rows. -/
def convertAll (repo : Repository α) (rows : List Row) : Except Failure (List α) :=
  rows.mapM fun row => repo.converter.fromRow row nodeColumn

/-- The entity of the first row, if there is one. -/
def convertFirst (repo : Repository α) : List Row → Except Failure (Option α)
  | [] => .ok none
  | row :: _ => (repo.converter.fromRow row nodeColumn).map some

/-- The integer in a column of the first row, or zero if there is no row. -/
def firstNumber (column : String) : List Row → Except Failure Int
  | [] => .ok 0
  | row :: _ => row.get Decode.int64 column

/-- Stores a new entity and gives it as it was stored. -/
def create (repo : Repository α) (entity : α) : Session α := do
  let statement ← Statement.createNode repo.label (repo.converter.toProperties entity)
  let rows ← Session.fetchAll statement
  match ← repo.convertFirst rows with
  | some created => pure created
  | none => Session.ofExcept (.error (.internal (.createdNothing repo.label)))

/-- Looks up an entity by its identifier. -/
def findById (repo : Repository α) (id : String) : Session (Option α) := do
  let statement ← Statement.findById repo.label id
  let rows ← Session.fetchAll statement
  repo.convertFirst rows

/-- The stored name that a look-up by a field means: the field of that name, a
scalar stored under it, or a time that the store keeps. -/
def resolveStoredName (repo : Repository α) (field : String) : Except ArgumentFault String :=
  match repo.schema.field? field with
  | some declared =>
    if declared.isRelationship then .error (.relationshipLookUp field)
    else .ok declared.storedName
  | none =>
    match repo.schema.scalars.find? (·.storedName == field) with
    | some declared => .ok declared.storedName
    | none =>
      if field != "id" && reservedNames.contains field then .ok field
      else .error (.unknownField field repo.label)

/-- Looks up the first entity with a value in a field. -/
def findByField (repo : Repository α) (field : String) (value : Json) : Session (Option α) := do
  let storedName ← repo.resolveStoredName field
  let statement ← Statement.findByField repo.label storedName value
  let rows ← Session.fetchAll statement
  repo.convertFirst rows

/-- Runs a statement that counts entities. -/
def fetchCount (statement : Statement) : Session Int := do
  let rows ← Session.fetchAll statement
  firstNumber "total_count" rows

/-- One page of the entities that a request selects, with the number of all of
them. -/
def page (repo : Repository α) (request : SearchRequest) : Session (Page α) := do
  let search ← Statement.search repo.schema request
  let count ← Statement.count repo.schema request
  let rows ← Session.fetchAll search
  let total ← fetchCount count
  let items ← repo.convertAll rows
  return { items, total }

/-- All entities that are not marked as deleted, newest first. -/
def all (repo : Repository α) : Session (Page α) :=
  repo.page { pageSize := 0 }

/-- The entities in which a text is found. -/
def search (repo : Repository α) (term : String) (skip limit : Option UInt64) :
    Session (List α) := do
  let statement ← Statement.textSearch repo.schema term skip limit
  let rows ← Session.fetchAll statement
  repo.convertAll rows

/-- The number of entities that a request selects. -/
def count (repo : Repository α) (request : SearchRequest) : Session Int := do
  let statement ← Statement.count repo.schema request
  fetchCount statement

/-- The number of all entities that are not marked as deleted. -/
def countAll (repo : Repository α) : Session Int :=
  repo.count {}

/-- The entities that a statement returns. -/
def entitiesOf (repo : Repository α) (statement : Statement) : Session (List α) := do
  let rows ← Session.fetchAll statement
  repo.convertAll rows

/-- The entities that an entity is linked to, read by their own converter. -/
def relatedWith (repo : Repository α) (converter : Converter β) (id type : String)
    (direction : Direction) (targetLabel : Option String) : Session (List β) := do
  let statement ← Statement.linkedNodes repo.label id type direction targetLabel
  let rows ← Session.fetchAll statement
  Session.ofExcept (rows.mapM fun row =>
    (row.get Decode.node "target").map converter.fromNode)

/-- The entities that an entity is linked to. -/
def related (β : Type) [Entity β] (repo : Repository α) (id type : String)
    (direction : Direction) (targetLabel : Option String) : Session (List β) :=
  repo.relatedWith (.standard β) id type direction targetLabel

/-- The relationships of an entity, with their ends. -/
def edges (repo : Repository α) (id type : String) (direction : Direction) :
    Session (List Row) := do
  let statement ← Statement.edgesOf repo.label id type direction
  Session.fetchAll statement

/-- Marks an entity as deleted and tells whether the store gave its identifier
back. -/
def delete (repo : Repository α) (id : String) : Session Bool := do
  let statement ← Statement.softDelete repo.label id
  match ← Session.fetchAll statement with
  | [] => pure false
  | row :: _ =>
    let returned ← row.getOpt Decode.text "id"
    pure (returned == some id)

/-- Removes an entity with its relationships and tells whether there was one. -/
def detachDelete (repo : Repository α) (id : String) : Session Bool := do
  let statement ← Statement.detachDelete repo.label id
  let rows ← Session.fetchAll statement
  let removed ← firstNumber "deleted_count" rows
  return decide (0 < removed)

/-- Overwrites what the entity says of a stored one, and gives the result. -/
def update (repo : Repository α) (id : String) (entity : α) : Session (Option α) := do
  let statement ← Statement.updateNode repo.label id (repo.converter.toProperties entity)
  let rows ← Session.fetchAll statement
  repo.convertFirst rows

/-- Links two nodes and tells whether both were there. -/
def link (_ : Repository α) (sourceId type targetId : String) (direction : Direction) :
    Session Bool := do
  let statement ← Statement.mergeEdge sourceId type targetId direction
  let rows ← Session.fetchAll statement
  return !rows.isEmpty

/-- Makes the relationships of a type lead to exactly the given targets, and
gives the number of those that were there. -/
def syncLinks (_ : Repository α) (sourceId type : String) (targetIds : List String)
    (direction : Direction) : Session Int := do
  let statement ← Statement.syncEdges sourceId type targetIds direction
  let rows ← Session.fetchAll statement
  firstNumber "synced_count" rows

/-- What `syncLinks` would remove and add, without doing so. -/
def planSync (repo : Repository α) (sourceId type : String) (targetIds : List String)
    (direction : Direction) : Session Delta := do
  let rows ← repo.edges sourceId type direction
  let current ← Session.ofExcept (rows.mapM fun row =>
    (row.get Decode.node "target").map (·.id))
  return Delta.between (.ofList current) (.ofList targetIds)

end Repository

end EntityGraph
