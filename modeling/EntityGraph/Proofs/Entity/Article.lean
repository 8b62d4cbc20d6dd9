import EntityGraph.Proofs.Entity.Lawful
/-!
# Articles

Entities that are a bag of values and refuse one of them: no score may be null.
Their accessors are lawful on any schema whatever.
-/

namespace EntityGraph

/-- An entity that is a bag of values. -/
structure Article where
  metadata : Metadata := {}
  values : Bag Value := .empty

namespace Article

/-- The article with a value put into its bag. -/
def put (article : Article) (name : String) (value : Value) : Article :=
  { article with values := article.values.insert name value }

/-- Whether a value is taken under a name. -/
def accepts (name : String) (value : Value) : Prop :=
  ¬ (name = "score" ∧ value = .null)

instance (name : String) (value : Value) : Decidable (accepts name value) :=
  inferInstanceAs (Decidable (¬ _))

instance : Entity Article where
  label := "Article"
  fields :=
    [(Field.scalar "title" .string).markSearchable,
      (Field.scalar "subTitle" .string).markNullable,
      .scalar "views" .integer,
      .scalar "rating" .float,
      .scalar "featured" .boolean,
      .scalar "status" (.enum ["Draft", "Published", "Archived"]),
      .scalar "tags" (.list .string),
      (Field.scalar "publishedAt" .datetime).markNullable,
      ((Field.scalar "score" .integer).markNullable).storedAs "article_score",
      .scalar "createdAt" .datetime,
      (((Field.relationship "likes" ["LIKE"]).target "User").directed .incoming).countOnly,
      (((Field.relationship "authors" ["WROTE", "EDITED"]).target "User").targetField
        "name").directed .incoming,
      ((Field.relationship "topEditor" ["EDITED"]).directed .both).withCardinality .single]
  blank := {}
  metadata := Article.metadata
  withMetadata article metadata := { article with metadata }
  readField article name := article.values.get? name
  writeField article name value :=
    if accepts name value then some (article.put name value) else none

open Entity (readField writeField)

theorem isLawful (s : Schema) : Entity.IsLawful Article s := by
  refine Entity.isLawful_of_put accepts put ?_ ?_ s
  · intro a b name v
    show (if accepts name v then some (a.put name v) else none) = some b ↔ _
    split
    · next haccepts => simp [haccepts]
    · next haccepts => simp [haccepts]
  · intro a name v _ other
    exact Bag.get?_insert ..

theorem readsApart (s : Schema) : Entity.ReadsApart Article s where
  readField_withMetadata _ _ _ := rfl

theorem keepsMetadata (s : Schema) : Entity.KeepsMetadata Article s where
  metadata_writeField {f} _ {a b v} h := by
    have hput : (if accepts f.name v then some (a.put f.name v) else none) = some b := h
    split at hput
    · rw [← Option.some.inj hput]
      rfl
    · simp at hput

theorem holdsMetadata : Entity.HoldsMetadata Article where
  metadata_withMetadata _ _ := rfl

end Article

end EntityGraph
