import EntityGraph.Proofs.Entity.Lawful
/-!
# Sheets

The plainest entities: their metadata and a bag with the values of their
fields. Their accessors are lawful on any schema whatever, since writing a
field is putting a value into the bag.
-/

namespace EntityGraph

/-- An entity that is a bag of values. -/
structure Sheet where
  metadata : Metadata := {}
  values : Bag Value := .empty

namespace Sheet

/-- The states that a sheet can be in. -/
def statuses : List String := ["Draft", "Published", "Archived"]

instance : Entity Sheet where
  label := "Sheet"
  fields :=
    [.scalar "title" .string, .scalar "views" .integer, .scalar "rating" .float,
      .scalar "featured" .boolean, (Field.scalar "publishedAt" .datetime).markNullable,
      .scalar "status" (.enum statuses), .scalar "history" (.list (.list (.enum statuses))),
      .relationship "authors" ["WROTE"]]
  blank := {}
  metadata := Sheet.metadata
  withMetadata sheet metadata := { sheet with metadata }
  readField sheet name := sheet.values.get? name
  writeField sheet name value := some { sheet with values := sheet.values.insert name value }

theorem isLawful (s : Schema) : Entity.IsLawful Sheet s :=
  Entity.isLawful_of_put_any
    (fun sheet name value => { sheet with values := sheet.values.insert name value })
    (fun _ _ _ => rfl) (fun _ _ _ _ => Bag.get?_insert ..) s

theorem readsApart (s : Schema) : Entity.ReadsApart Sheet s where
  readField_withMetadata _ _ _ := rfl

theorem keepsMetadata (s : Schema) : Entity.KeepsMetadata Sheet s where
  metadata_writeField _ _ _ _ h := by
    rw [← Option.some.inj h]
    rfl

theorem holdsMetadata : Entity.HoldsMetadata Sheet where
  metadata_withMetadata _ _ := rfl

theorem takesKinds (s : Schema) : Entity.TakesKinds Sheet s :=
  fun _ _ _ _ => rfl

end Sheet

end EntityGraph
