import EntityGraph.Schema.Basic
/-!
# The schema registry

A map from entity types to their schemas, filled on first use. A use has two
steps that other uses may come between: looking the type up, and, if it is
not there, putting a schema in unless another use has done so meanwhile. An
entry is never replaced, so every use of a type gets the same one.
-/

namespace EntityGraph

/-- A schema together with the number of the build that made it, which tells
one build of a schema from another. -/
structure Built where
  serial : Nat
  schema : Schema
deriving DecidableEq, Repr

/-- The schemas by entity type. -/
structure Registry (κ : Type) where
  entries : List (κ × Built) := []

namespace Registry

variable {κ : Type} [DecidableEq κ]

/-- The number of types in the registry. -/
def size (r : Registry κ) : Nat :=
  r.entries.length

/-- Whether no type is in the registry. -/
def isEmpty (r : Registry κ) : Bool :=
  r.entries.isEmpty

/-- The first step of a use: the entry of a type. -/
def lookUp (r : Registry κ) (key : κ) : Option Built :=
  (r.entries.find? (·.1 == key)).map Prod.snd

/-- The second step of a use: puts an entry in unless the type has one, and
gives the one that the type has then. -/
def settle (r : Registry κ) (key : κ) (built : Built) : Built × Registry κ :=
  match r.lookUp key with
  | some kept => (kept, r)
  | none => (built, ⟨r.entries ++ [(key, built)]⟩)

/-- A use with nothing in between: the entry of a type, built if it is the
first use. -/
def schemaOf (r : Registry κ) (key : κ) (built : Built) : Built × Registry κ :=
  match r.lookUp key with
  | some kept => (kept, r)
  | none => r.settle key built

end Registry

end EntityGraph
