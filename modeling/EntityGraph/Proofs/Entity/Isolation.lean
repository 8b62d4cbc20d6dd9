import EntityGraph.Proofs.Entity.Article
import EntityGraph.Proofs.Entity.Conversion
import EntityGraph.Proofs.Entity.Independence
/-!
# One bad property

How far a single property of a node reaches into the entity that is read of the
node. Two nodes that differ in the property alone give entities that differ
only in what is read of it (`agreeApart_fromNodeBy`): whatever the property holds
in either node, it stops no other field from being read and is written to no
other field. A property that nothing is read of makes no difference at all
(`fromNodeBy_congr`).

A property that a time of the metadata is read of does reach further where fields
are told by the metadata, which lawful writing does not rule out
(`not_agreeApart_captioned`).
-/

namespace EntityGraph

/-- Two nodes of one identifier whose properties differ under one key at most.
Nothing is said of what either of them has under the key, nor of their labels. -/
structure DifferAt (key : String) (n m : Node) : Prop where
  id : n.id = m.id
  properties : ∀ other, other ≠ key → n.properties.get? other = m.properties.get? other

/-- Metadata that agree in everything but what is read under one key. -/
structure Metadata.AgreeApart (key : String) (a b : Metadata) : Prop where
  id : a.id = b.id
  createdAt : key ≠ "created_at" → a.createdAt = b.createdAt
  updatedAt : key ≠ "updated_at" → a.updatedAt = b.updatedAt
  deletedAt : key ≠ "deleted_at" → a.deletedAt = b.deletedAt

namespace Converter

open Entity (readField metadata IsLawful ReadsApart KeepsMetadata HoldsMetadata)

variable {α : Type} [Entity α] {s : Schema} {f : Field} {key : String} {n m : Node}

/-- The keys that the times of an entity are read of. -/
def timeKeys : List String :=
  ["created_at", "updated_at", "deleted_at"]

/-- Entities whose fields agree in everything but what is read under one key. -/
structure FieldsAgreeApart (s : Schema) (key : String) (a b : α) : Prop where
  scalars : ∀ f ∈ s.scalars, f.storedName ≠ key → readField a f.name = readField b f.name
  relationships : ∀ f ∈ s.relationships, readField a f.name = readField b f.name

theorem differAt_insert (id : String) (labels : List String) (properties : Bag Json)
    (key : String) (a b : Json) :
    DifferAt key ⟨id, labels, properties.insert key a⟩ ⟨id, labels, properties.insert key b⟩ := by
  refine ⟨rfl, fun other hother => ?_⟩
  rw [Bag.get?_insert, Bag.get?_insert, if_neg hother, if_neg hother]

/-! ### What is read of the other properties -/

theorem readTime_congr (h : DifferAt key n m) {other : String} (hne : key ≠ other) :
    readTime n other = readTime m other := by
  rw [readTime, readTime, h.properties other hne.symm]

theorem readMetadata_agreeApart (h : DifferAt key n m) :
    (readMetadata n).AgreeApart key (readMetadata m) :=
  ⟨congrArg some h.id, readTime_congr h, readTime_congr h, readTime_congr h⟩

theorem readValue?_congr (h : DifferAt key n m) (hne : f.storedName ≠ key) :
    readValue? n.properties f = readValue? m.properties f := by
  rw [readValue?, readValue?, h.properties f.storedName hne]

/-- A property that no time is read of makes no difference to the metadata, -/
theorem readMetadata_congr (h : DifferAt key n m) (htimes : key ∉ timeKeys) :
    readMetadata n = readMetadata m := by
  have htime : ∀ other ∈ timeKeys, readTime n other = readTime m other := fun other hother =>
    readTime_congr h fun hsame => htimes (hsame ▸ hother)
  rw [readMetadata, readMetadata, h.id, htime "created_at" (by decide),
    htime "updated_at" (by decide), htime "deleted_at" (by decide)]

/-- **and one that nothing is read of makes none at all,** whatever the accessors
do. -/
theorem fromNodeBy_congr (h : DifferAt key n m) (hscalars : ∀ f ∈ s.scalars, f.storedName ≠ key)
    (htimes : key ∉ timeKeys) : (fromNodeBy s n : α) = fromNodeBy s m := by
  rw [fromNodeBy_eq, fromNodeBy_eq, bare, bare, readMetadata_congr h htimes]
  exact Entity.foldl_writeGiven_congr fun f hf => readValue?_congr h (hscalars f hf)

/-! ### The two entities -/

/-- The bare entities of the two nodes have the same fields. -/
theorem readField_bare_congr (h : DifferAt key n m) (hapart : key ∉ timeKeys ∨ ReadsApart α s)
    (hf : f ∈ s.fields) : readField (bare α n) f.name = readField (bare α m) f.name := by
  rcases hapart with htimes | hapart
  · rw [bare, bare, readMetadata_congr h htimes]
  · rw [readField_bare hapart hf, readField_bare hapart hf]

/-- **One property cannot hurt another.** Where fields are known by their names
and writing them is lawful, two nodes that differ under one key give entities
whose fields differ in what is read under the key and in nothing else. For the key
of a time this takes fields that are read apart from the metadata. The metadata
differ in no other time and have the identifiers of the nodes, where they are
held. -/
theorem agreeApart_fromNodeBy (hlawful : IsLawful α s) (hkeeps : KeepsMetadata α s)
    (hnames : (s.fields.map (·.name)).Nodup) (h : DifferAt key n m) :
    (key ∉ timeKeys ∨ ReadsApart α s →
      FieldsAgreeApart s key (fromNodeBy s n : α) (fromNodeBy s m)) ∧
    (HoldsMetadata α →
      (metadata (fromNodeBy s n : α)).AgreeApart key (metadata (fromNodeBy s m : α)) ∧
        (metadata (fromNodeBy s n : α)).id = some n.id ∧
        (metadata (fromNodeBy s m : α)).id = some m.id) ∧
    ((∀ f ∈ s.scalars, f.storedName ≠ key) → key ∉ timeKeys →
      (fromNodeBy s n : α) = fromNodeBy s m) := by
  refine ⟨fun hapart => ⟨?scalars, ?relationships⟩, fun hholds => ?metadata, fromNodeBy_congr h⟩
  case scalars =>
    intro f hf hne
    have hscalars := nodup_names_scalars hnames
    rw [readField_fromNodeBy hlawful hscalars hf, readField_fromNodeBy hlawful hscalars hf,
      takenValue?, takenValue?, readValue?_congr h hne,
      readField_bare_congr h hapart (List.mem_append_left _ hf)]
  case relationships =>
    intro f hf
    rw [readField_fromNodeBy_relationship hlawful hnames hf,
      readField_fromNodeBy_relationship hlawful hnames hf,
      readField_bare_congr h hapart (List.mem_append_right _ hf)]
  case metadata =>
    rw [metadata_fromNodeBy hkeeps hholds, metadata_fromNodeBy hkeeps hholds]
    exact ⟨readMetadata_agreeApart h, rfl, rfl⟩

/-- A node of an article with a score and some more that is in disorder. -/
def hurtNode (score : Json) : Node where
  id := "5"
  labels := ["Article"]
  properties := .insert (.ofList
    [("title", .str "Still here"), ("views", .str "many"), ("created_at", .str "not a date"),
      ("updated_at", .str "2024-02-03T04:05:06Z"), ("likes", .int 3)]) "article_score" score

/-- A score of null is read and then refused by the article, and one that is a
list cannot be read; neither is felt anywhere else. -/
theorem agreeApart_hurtNode :
    let s := Entity.schema Article
    let refused := hurtNode .null
    let unreadable := hurtNode (.arr [.str "updated_at"])
    DifferAt "article_score" refused unreadable ∧
      FieldsAgreeApart s "article_score" (fromNodeBy s refused : Article)
        (fromNodeBy s unreadable) ∧
      (metadata (fromNodeBy s refused : Article)).AgreeApart "article_score"
        (metadata (fromNodeBy s unreadable : Article)) ∧
      readField (fromNodeBy s unreadable : Article) "title" = some (.string "Still here") ∧
      (metadata (fromNodeBy s unreadable : Article)).updatedAt = some ⟨1706933106, 0⟩ := by
  intro s refused unreadable
  have hdiffer : DifferAt "article_score" refused unreadable := differAt_insert ..
  have hnames : (s.fields.map (·.name)).Nodup := by decide +kernel
  obtain ⟨hfields, hmetadata, -⟩ := agreeApart_fromNodeBy (Article.isLawful s)
    (Article.keepsMetadata s) hnames hdiffer
  exact ⟨hdiffer, hfields (.inr (Article.readsApart s)), (hmetadata Article.holdsMetadata).1,
    by decide +kernel, by decide +kernel⟩

/-- A node with nothing but a time of creation, if that. -/
def datedNode (createdAt : Json) : Node where
  id := "7"
  properties := .insert .empty "created_at" createdAt

/-- A captioned entity shows in its note what happens to the time of creation, and
a leaflet has no identifier at all. -/
theorem not_agreeApart_captioned :
    let s := Entity.schema Captioned
    let dated := datedNode (.str "2024-05-06T07:08:09Z")
    let undated := datedNode .null
    IsLawful Captioned s ∧ KeepsMetadata Captioned s ∧ HoldsMetadata Captioned ∧
      (s.fields.map (·.name)).Nodup ∧ DifferAt "created_at" dated undated ∧
      (∃ f ∈ s.scalars, f.storedName ≠ "created_at" ∧
        readField (fromNodeBy s dated : Captioned) f.name =
          some (.string "2024-05-06T07:08:09+00:00") ∧
        readField (fromNodeBy s undated : Captioned) f.name = some (.string "7")) ∧
      IsLawful Leaflet s ∧ KeepsMetadata Leaflet s ∧ ReadsApart Leaflet s ∧
      (metadata (fromNodeBy s dated : Leaflet)).id ≠ some dated.id := by
  intro s dated undated
  have hdiffer : DifferAt "created_at" dated undated := differAt_insert ..
  refine ⟨Captioned.isLawful s, Captioned.keepsMetadata s, Captioned.holdsMetadata,
    by decide +kernel, hdiffer, ⟨.scalar "note" .string, by decide +kernel, by decide +kernel,
      by decide +kernel, by decide +kernel⟩, Leaflet.isLawful s, Leaflet.keepsMetadata s,
    Leaflet.readsApart s, by decide +kernel⟩

end Converter

end EntityGraph
