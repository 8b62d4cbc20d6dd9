import EntityGraph.Proofs.Bag
import EntityGraph.Proofs.Entity.Article
import EntityGraph.Proofs.Entity.Conversion
import EntityGraph.Proofs.Entity.Independence
import EntityGraph.Proofs.Social.Lawful
import EntityGraph.Proofs.Value.Reading
import EntityGraph.Statement.Node
import Mathlib.Data.List.Basic
/-!
# Entities read and stored again

Storing an entity in the node that it was read of changes nothing that the
entity is read by, whatever is in the node (`resaving_is_harmless`). The reason
is found field by field (`readValue?_resaved`): a property that is overwritten
was read, since a bare entity stores nothing, and what is stored of a value
that was read is read as the value again. Properties of no scalar are left alone
(`get?_resaved_of_ne`), among them those that the metadata are read of. It is not
enough that a blank entity stores nothing: where a field is told by the metadata,
storing the entity writes down what was never said (`not_resaved_captioned`).
-/

namespace EntityGraph

/-- Scalars are known by their names and by their stored names, and variants by
their names up to case. -/
structure Schema.HasTidyScalars (s : Schema) : Prop where
  names : (s.scalars.map (·.name)).Nodup
  storedNames : (s.scalars.map (·.storedName)).Nodup
  kinds : ∀ f ∈ s.scalars, f.kind.IsTidy

instance (s : Schema) : Decidable s.HasTidyScalars :=
  decidable_of_iff ((s.scalars.map (·.name)).Nodup ∧ (s.scalars.map (·.storedName)).Nodup ∧
    ∀ f ∈ s.scalars, f.kind.IsTidy)
    ⟨fun h => ⟨h.1, h.2.1, h.2.2⟩, fun h => ⟨h.names, h.storedNames, h.kinds⟩⟩

/-- A schema is made of a table of fields. -/
def Schema.IsDeclared (s : Schema) : Prop :=
  ∃ label fields, s = Schema.ofFields label fields

/-- No scalar of a declared schema is stored under a name that the store keeps
for itself. -/
theorem Schema.IsDeclared.storedName_not_mem {s : Schema} (hs : s.IsDeclared) :
    ∀ f ∈ s.scalars, f.storedName ∉ reservedNames := by
  obtain ⟨label, fields, rfl⟩ := hs
  intro f hf hmem
  have hkept : f ∈ fields.filter (!·.isReserved) := (List.mem_filter.1 hf).1
  have hfree : (!f.isReserved) = true := (List.mem_filter.1 hkept).2
  simp [Field.isReserved, hmem] at hfree

namespace Converter

open Entity (readField blank withMetadata IsLawful KeepsMetadata HoldsMetadata)
open Social (Post User)
open Statement (updatable overwrites)

variable {α : Type} [Entity α] {s : Schema} {f : Field} {n : Node}

/-- The accessors of a type of entities are lawful, and nothing is stored of its
blank entity, whatever metadata it is given. -/
structure StartsBlank (α : Type) [Entity α] (s : Schema) : Prop where
  lawful : IsLawful α s
  toProperties_blank : ∀ m, toPropertiesBy s (withMetadata (blank : α) m) = .empty

/-- The scalars of an entity hold no number inside a list that is not finite,
and no moment whose year has not four digits. -/
def HoldsStorable (s : Schema) (entity : α) : Prop :=
  ∀ f ∈ s.scalars, ∀ v ∈ readField entity f.name, v.isStorable = true

instance (s : Schema) (entity : α) : Decidable (HoldsStorable s entity) :=
  inferInstanceAs (Decidable (∀ f ∈ s.scalars, ∀ v ∈ readField entity f.name, _))

/-- The node after the entity that is read of it was stored in it again. -/
def resaved (α : Type) [Entity α] (s : Schema) (n : Node) : Node :=
  { n with
    properties :=
      n.properties.insertAll (updatable (toPropertiesBy s (fromNodeBy s n : α))).entries }

theorem get?_resaved (key : String) : (resaved α s n).properties.get? key =
    (((toPropertiesBy s (fromNodeBy s n : α)).get? key).filter overwrites).or
      (n.properties.get? key) := by
  rw [resaved, Bag.get?_insertAll_entries, updatable, Bag.get?_filter]

/-- **A property of no scalar is left alone.** -/
theorem get?_resaved_of_ne {key : String} (hkey : ∀ f ∈ s.scalars, f.storedName ≠ key) :
    (resaved α s n).properties.get? key = n.properties.get? key := by
  have hnone : s.scalars.filter (·.storedName == key) = [] := by
    rw [List.filter_eq_nil_iff]
    intro f hf hsame
    exact hkey f hf (eq_of_beq hsame)
  rw [get?_resaved, get?_toPropertiesBy, hnone]
  rfl

theorem readMetadata_resaved (hreserved : ∀ f ∈ s.scalars, f.storedName ∉ reservedNames) :
    readMetadata (resaved α s n) = readMetadata n := by
  have htime {key : String} (hkey : key ∈ reservedNames) :
      readTime (resaved α s n) key = readTime n key := by
    rw [readTime, readTime, get?_resaved_of_ne fun f hf hsame => hreserved f hf (hsame ▸ hkey)]
  rw [readMetadata, readMetadata, htime (by simp [reservedNames]), htime (by simp [reservedNames]),
    htime (by simp [reservedNames])]
  rfl

section Resaved

variable (hs : s.HasTidyScalars) (hα : StartsBlank α s)

include hs hα

/-- What is stored of an entity that was read of a node was read of the
property that it is stored under: a bare entity stores nothing. -/
theorem exists_readValue?_of_storedJson? (hf : f ∈ s.scalars) {json : Json}
    (h : storedJson? (fromNodeBy s n : α) f = some json) :
    ∃ v, readField (fromNodeBy s n : α) f.name = some v ∧ readValue? n.properties f = some v ∧
      json = v.toJson := by
  have hbare : storedJson? (bare α n) f = none := by
    rw [← get?_toPropertiesBy_storedName hs.storedNames hf, bare, hα.toProperties_blank,
      Bag.get?_empty]
  have hread := readField_fromNodeBy hα.lawful hs.names hf n
  cases htaken : takenValue? α n.properties f with
  | none =>
    rw [htaken, Option.none_or] at hread
    rw [storedJson?, hread] at h
    rw [storedJson?, h] at hbare
    simp at hbare
  | some v =>
    rw [htaken, Option.some_or] at hread
    refine ⟨v, hread, (Option.filter_eq_some_iff.1 htaken).1, ?_⟩
    rw [storedJson?, hread, Option.bind_some] at h
    split at h
    · simp at h
    · exact (Option.some.inj h).symm

/-- **What is read of a field stays the same.** -/
theorem readValue?_resaved (hn : HoldsStorable s (fromNodeBy s n : α)) (hf : f ∈ s.scalars) :
    readValue? (resaved α s n).properties f = readValue? n.properties f := by
  have hproperty : (resaved α s n).properties.get? f.storedName =
      ((storedJson? (fromNodeBy s n : α) f).filter overwrites).or
        (n.properties.get? f.storedName) := by
    rw [get?_resaved, get?_toPropertiesBy_storedName hs.storedNames hf]
  rw [readValue?, hproperty]
  cases hjson : storedJson? (fromNodeBy s n : α) f with
  | none => rfl
  | some json =>
    obtain ⟨v, hv, hread, rfl⟩ := exists_readValue?_of_storedJson? hs hα hf hjson
    by_cases hover : overwrites v.toJson = true
    · obtain ⟨raw, -, hraw⟩ := Option.bind_eq_some_iff.1 hread
      have hcoerce : f.coerce raw = .ok v := by
        cases hresult : f.coerce raw with
        | error fault => simp [hresult, Except.toOption] at hraw
        | ok w =>
          rw [hresult] at hraw
          rw [Option.some.inj hraw]
      have hnull : v.toJson ≠ .null := by
        intro hnull
        simp [hnull, overwrites] at hover
      have hagain := Field.coerce_toJson_of_coerce (hs.kinds f hf) hcoerce (hn f hf v hv) hnull
      rw [hread, Option.filter_some_pos hover, Option.some_or, Option.bind_some, hagain]
      rfl
    · -- What is not stored leaves the property as it was.
      rw [Option.filter_some_neg (Bool.eq_false_iff.2 hover), Option.none_or]
      rfl

theorem fromNodeBy_resaved (hreserved : ∀ f ∈ s.scalars, f.storedName ∉ reservedNames)
    (hn : HoldsStorable s (fromNodeBy s n : α)) :
    (fromNodeBy s (resaved α s n) : α) = fromNodeBy s n := by
  rw [fromNodeBy_eq, fromNodeBy_eq, bare, bare, readMetadata_resaved hreserved]
  exact Entity.foldl_writeGiven_congr fun f hf => readValue?_resaved hs hα hn hf

end Resaved

/-! ### Types whose blank entity stores nothing -/

theorem toPropertiesBy_eq_empty {entity : α}
    (h : ∀ f ∈ s.scalars, ∀ v ∈ readField entity f.name, isOmitted f v = true) :
    toPropertiesBy s entity = .empty := by
  refine Bag.ext_get? fun key => ?_
  have hnone : (s.scalars.filter (·.storedName == key)).filterMap (storedJson? entity) = [] := by
    rw [List.filterMap_eq_nil_iff]
    intro f hf
    rw [storedJson?]
    cases hv : readField entity f.name with
    | none => rfl
    | some v => simp [h f (List.mem_filter.1 hf).1 v hv]
  rw [get?_toPropertiesBy, hnone]
  rfl

/-- An empty text is left out of every field. -/
theorem isOmitted_emptyText (f : Field) : isOmitted f (.string "") = true := by
  rw [isOmitted]
  split <;> rfl

/-- A blank entity whose fields hold empty texts or nothing, whatever metadata it is
given, stores nothing. -/
theorem startsBlank_of_emptyTexts (hlawful : IsLawful α s)
    (h : ∀ m name v, readField (withMetadata (blank : α) m) name = some v → v = .string "") :
    StartsBlank α s where
  lawful := hlawful
  toProperties_blank m := by
    refine toPropertiesBy_eq_empty fun f _ v hv => ?_
    obtain rfl := h m f.name v hv
    exact isOmitted_emptyText f

theorem startsBlank_user (s : Schema) : StartsBlank User s := by
  refine startsBlank_of_emptyTexts (User.isLawful s) fun m name v hv => ?_
  simp only [readField, withMetadata, blank] at hv
  split at hv
  · exact (Option.some.inj hv).symm
  · exact (Option.some.inj hv).symm
  · simp at hv

theorem startsBlank_post (s : Schema) : StartsBlank Post s := by
  refine startsBlank_of_emptyTexts (Post.isLawful s) fun m name v hv => ?_
  simp only [readField, withMetadata, blank] at hv
  split at hv
  · exact (Option.some.inj hv).symm
  · exact (Option.some.inj hv).symm
  · simp at hv

theorem startsBlank_article (s : Schema) : StartsBlank Article s := by
  refine startsBlank_of_emptyTexts (Article.isLawful s) fun m name v hv => ?_
  simp [readField, withMetadata, blank] at hv

/-! ### Reading, storing and reading again -/

/-- **Storing an entity in the node that it was read of is harmless,** whatever
is in the node. The same entity is read of the node again, and no property is
changed but those that scalars are stored under. Users, posts and articles are
entities of this sort. -/
theorem resaving_is_harmless :
    (∀ (α : Type) [Entity α] (s : Schema) (n : Node), s.IsDeclared → s.HasTidyScalars →
      StartsBlank α s → HoldsStorable s (fromNodeBy s n : α) →
        (fromNodeBy s (resaved α s n) : α) = fromNodeBy s n ∧
          ∀ key, (∀ f ∈ s.scalars, f.storedName ≠ key) →
            (resaved α s n).properties.get? key = n.properties.get? key) ∧
      ∀ s, StartsBlank User s ∧ StartsBlank Post s ∧ StartsBlank Article s := by
  constructor
  · intro α _ s n hs htidy hα hn
    exact ⟨fromNodeBy_resaved htidy hα hs.storedName_not_mem hn,
      fun key hkey => get?_resaved_of_ne hkey⟩
  · intro s
    exact ⟨startsBlank_user s, startsBlank_post s, startsBlank_article s⟩

/-- A node of an article with properties of the wrong sorts, which are read
nevertheless, dropped or refused, and with one of no field. -/
def unrulyNode : Node where
  id := "7"
  properties := .ofList
    [("title", .int 42), ("sub_title", .str " "), ("views", .str " 17 "), ("rating", .str "NaN"),
      ("featured", .str "TRUE"), ("status", .int 2),
      ("tags", .arr [.null, .int 3, .arr [], .str "a"]),
      ("published_at", .str "2016-12-31 23:59:60.5"), ("article_score", .null),
      ("created_at", .int 5), ("extra", .obj [("title", .null)])]

theorem resaving_unrulyNode :
    let s := Entity.schema Article
    (fromNodeBy s (resaved Article s unrulyNode) : Article) = fromNodeBy s unrulyNode ∧
      (resaved Article s unrulyNode).properties.get? "extra" = some (.obj [("title", .null)]) ∧
      (resaved Article s unrulyNode).properties.get? "views" = some (.int 17) := by
  intro s
  have hdeclared : s.IsDeclared := ⟨_, _, rfl⟩
  have htidy : s.HasTidyScalars := by decide +kernel
  have hstorable : HoldsStorable s (fromNodeBy s unrulyNode : Article) := by decide +kernel
  obtain ⟨hentity, hproperties⟩ := resaving_is_harmless.1 Article s unrulyNode hdeclared htidy
    (startsBlank_article s) hstorable
  refine ⟨hentity, ?_, by decide +kernel⟩
  rw [hproperties "extra" (by decide +kernel)]
  decide +kernel

/-- A node of which nothing but its identifier is known. -/
def emptyNode : Node where
  id := "7"

/-- A captioned entity with nothing said about it stores nothing, and one with an
identifier stores that as its note, by which it has a note of its own. -/
theorem not_resaved_captioned :
    let s := Entity.schema Captioned
    s.IsDeclared ∧ s.HasTidyScalars ∧ IsLawful Captioned s ∧ KeepsMetadata Captioned s ∧
      HoldsMetadata Captioned ∧ toPropertiesBy s (blank : Captioned) = .empty ∧
      HoldsStorable s (fromNodeBy s emptyNode : Captioned) ∧
      (resaved Captioned s emptyNode).properties.get? "note" = some (.str "7") ∧
      (fromNodeBy s emptyNode : Captioned).values.get? "note" = none ∧
      (fromNodeBy s (resaved Captioned s emptyNode) : Captioned).values.get? "note" =
        some (.string "7") ∧
      (fromNodeBy s (resaved Captioned s emptyNode) : Captioned) ≠ fromNodeBy s emptyNode := by
  intro s
  have hbefore : (fromNodeBy s emptyNode : Captioned).values.get? "note" = none := by
    decide +kernel
  have hafter : (fromNodeBy s (resaved Captioned s emptyNode) : Captioned).values.get? "note" =
      some (.string "7") := by
    decide +kernel
  refine ⟨⟨_, _, rfl⟩, by decide +kernel, Captioned.isLawful s, Captioned.keepsMetadata s,
    Captioned.holdsMetadata, ?_, by decide +kernel, by decide +kernel, hbefore, hafter, ?_⟩
  · exact toPropertiesBy_eq_empty fun f _ v hv => by simp [readField, blank, Captioned.caption] at hv
  · intro hsame
    rw [hsame, hbefore] at hafter
    simp at hafter

end Converter

end EntityGraph
