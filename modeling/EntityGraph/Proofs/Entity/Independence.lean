import EntityGraph.Proofs.Entity.Lawful
/-!
# What lawful writing leaves open

Two types of entities whose fields are written lawfully on any schema whatever,
with a law between fields and metadata that fails in each. A captioned entity is
told by its metadata where nothing was written, so its fields are not read apart
from them (`Captioned.not_readsApart`). A leaflet has nothing but its values and
does not hold the metadata that it is given (`Leaflet.not_holdsMetadata`).
-/

namespace EntityGraph

open Entity (readField writeField withMetadata blank IsLawful ReadsApart KeepsMetadata
  HoldsMetadata)

variable {s : Schema}

/-! ### Captioned entities -/

/-- An entity that is a bag of values, with a caption for those that it has not. -/
structure Captioned where
  metadata : Metadata := {}
  values : Bag Value := .empty

namespace Captioned

/-- The caption: when the entity was created, or else its identifier. -/
def caption (m : Metadata) : Option String :=
  (m.createdAt.map Time.Instant.toText).or m.id

/-- The entity with a value put into its bag. -/
def put (captioned : Captioned) (name : String) (value : Value) : Captioned :=
  { captioned with values := captioned.values.insert name value }

instance : Entity Captioned where
  label := "Captioned"
  fields := [.scalar "note" .string]
  blank := {}
  metadata := Captioned.metadata
  withMetadata captioned metadata := { captioned with metadata }
  readField captioned name :=
    (captioned.values.get? name).or ((caption captioned.metadata).map .string)
  writeField captioned name value := some (captioned.put name value)

theorem isLawful (s : Schema) : IsLawful Captioned s := by
  refine Entity.isLawful_of_put_any put (fun _ _ _ => rfl) (fun a name v other => ?_) s
  show ((a.values.insert name v).get? other).or _ = _
  rw [Bag.get?_insert]
  split <;> rfl

theorem keepsMetadata (s : Schema) : KeepsMetadata Captioned s where
  metadata_writeField _ _ _ _ h := by
    rw [← Option.some.inj h]
    rfl

theorem holdsMetadata : HoldsMetadata Captioned where
  metadata_withMetadata _ _ := rfl

/-- **Lawful writing does not make fields read apart from the metadata.** -/
theorem not_readsApart (hs : s.fields ≠ []) : ¬ ReadsApart Captioned s := by
  intro h
  obtain ⟨f, hf⟩ := List.exists_mem_of_ne_nil _ hs
  have hsame := h.readField_withMetadata hf blank { id := some "1" }
  simp [readField, withMetadata, blank, caption] at hsame

end Captioned

/-! ### Leaflets -/

/-- An entity that is a bag of values and nothing else. -/
structure Leaflet where
  values : Bag Value := .empty

namespace Leaflet

/-- The leaflet with a value put into its bag. -/
def put (leaflet : Leaflet) (name : String) (value : Value) : Leaflet :=
  ⟨leaflet.values.insert name value⟩

instance : Entity Leaflet where
  label := "Leaflet"
  fields := [.scalar "note" .string]
  blank := {}
  metadata _ := {}
  withMetadata leaflet _ := leaflet
  readField leaflet name := leaflet.values.get? name
  writeField leaflet name value := some (leaflet.put name value)

theorem isLawful (s : Schema) : IsLawful Leaflet s :=
  Entity.isLawful_of_put_any put (fun _ _ _ => rfl) (fun _ _ _ _ => Bag.get?_insert ..) s

theorem readsApart (s : Schema) : ReadsApart Leaflet s where
  readField_withMetadata _ _ _ := rfl

theorem keepsMetadata (s : Schema) : KeepsMetadata Leaflet s where
  metadata_writeField _ _ _ _ _ := rfl

/-- **Nor does it make an entity hold its metadata.** -/
theorem not_holdsMetadata : ¬ HoldsMetadata Leaflet := by
  intro h
  have hid := congrArg Metadata.id (h.metadata_withMetadata blank { id := some "1" })
  exact absurd hid (by decide)

end Leaflet

end EntityGraph
