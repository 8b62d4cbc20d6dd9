import EntityGraph.Proofs.Entity.Update
/-!
# What is stored of an entity

The properties of an entity, read off the table of fields that its schema was
made of, whatever names the fields of the table have in common. Under a key
stands the last field of the table that is stored there and says something
(`get?_toPropertiesBy_ofFields`). Relationships, and fields with a name that the
store keeps for itself, are never among them: nothing but the values of the
scalars is looked at (`toPropertiesBy_congr`).
-/

namespace EntityGraph.Converter

open Entity (readField tryWrite withMetadata IsLawful ReadsApart)

variable {α : Type} [Entity α] {s : Schema} {entity : α}

/-- The last item of a list that has an image, told by the list itself. -/
theorem getLast?_filterMap_eq_some_iff {β γ : Type} {xs : List β} {g : β → Option γ} {y : γ} :
    (xs.filterMap g).getLast? = some y ↔
      ∃ before x after, xs = before ++ x :: after ∧ g x = some y ∧ ∀ z ∈ after, g z = none := by
  rw [List.getLast?_filterMap, List.findSome?_eq_some_iff]
  constructor
  · rintro ⟨after, x, before, hxs, hx, hafter⟩
    refine ⟨before.reverse, x, after.reverse, ?_, hx, fun z hz => hafter z (List.mem_reverse.1 hz)⟩
    rw [← List.reverse_reverse xs, hxs]
    simp
  · rintro ⟨before, x, after, rfl, hx, hafter⟩
    refine ⟨after.reverse, x, before.reverse, ?_, hx, fun z hz => hafter z (List.mem_reverse.1 hz)⟩
    simp

/-! ### Fields that are stored -/

/-- A field of a table that is stored under a key: a scalar without a name that
the store keeps for itself. -/
structure IsStoredUnder (key : String) (f : Field) : Prop where
  free : f.isReserved = false
  scalar : f.isRelationship = false
  storedName : f.storedName = key

/-- A field of which nothing is stored: the entity has no value for it, or one
that is left out. -/
def SaysNothing (entity : α) (f : Field) : Prop :=
  ∀ v ∈ readField entity f.name, isOmitted f v = true

instance (entity : α) (f : Field) : Decidable (SaysNothing entity f) :=
  inferInstanceAs (Decidable (∀ v ∈ readField entity f.name, _))

/-- The value of the last field of a table that is stored under a key and says
something. -/
def IsLastSaid (fields : List Field) (entity : α) (key : String) (v : Value) : Prop :=
  ∃ before f after, fields = before ++ f :: after ∧ IsStoredUnder key f ∧
    readField entity f.name = some v ∧ isOmitted f v = false ∧
    ∀ g ∈ after, IsStoredUnder key g → SaysNothing entity g

instance (key : String) (f : Field) : Decidable (IsStoredUnder key f) :=
  decidable_of_iff (f.isReserved = false ∧ f.isRelationship = false ∧ f.storedName = key)
    ⟨fun h => ⟨h.1, h.2.1, h.2.2⟩, fun h => ⟨h.free, h.scalar, h.storedName⟩⟩

theorem storedJson?_eq_some_iff {f : Field} {json : Json} : storedJson? entity f = some json ↔
    ∃ v, readField entity f.name = some v ∧ isOmitted f v = false ∧ json = v.toJson := by
  rw [storedJson?, Option.bind_eq_some_iff]
  refine exists_congr fun v => and_congr_right fun _ => ?_
  cases isOmitted f v with
  | true => simp
  | false => simp [eq_comm]

theorem storedJson?_eq_none_iff {f : Field} :
    storedJson? entity f = none ↔ SaysNothing entity f := by
  rw [storedJson?, Option.bind_eq_none_iff]
  refine forall₂_congr fun v _ => ?_
  cases isOmitted f v <;> simp

/-- The scalars under a key, as they stand in the table. -/
theorem filter_scalars_ofFields (label : String) (fields : List Field) (key : String) :
    (Schema.ofFields label fields).scalars.filter (·.storedName == key) =
      fields.filter fun f => IsStoredUnder key f := by
  rw [Schema.ofFields, List.filter_filter, List.filter_filter]
  refine List.filter_congr fun f _ => ?_
  rw [Bool.eq_iff_iff]
  simp only [Bool.and_eq_true, Bool.not_eq_true', beq_iff_eq, decide_eq_true_eq]
  exact ⟨fun h => ⟨h.2, h.1.2, h.1.1⟩, fun h => ⟨⟨h.storedName, h.scalar⟩, h.free⟩⟩

/-- **What a key has is the last field of the table that is stored under it and
says something.** -/
theorem get?_toPropertiesBy_ofFields (label : String) (fields : List Field) (key : String)
    (json : Json) : (toPropertiesBy (.ofFields label fields) entity).get? key = some json ↔
      ∃ v, IsLastSaid fields entity key v ∧ json = v.toJson := by
  rw [get?_toPropertiesBy, filter_scalars_ofFields, List.filterMap_filter,
    getLast?_filterMap_eq_some_iff]
  constructor
  · rintro ⟨before, f, after, hfields, hf, hafter⟩
    obtain ⟨hunder, hjson⟩ := Option.ite_none_right_eq_some.1 hf
    obtain ⟨v, hv, hkept, hvalue⟩ := storedJson?_eq_some_iff.1 hjson
    refine ⟨v, ⟨before, f, after, hfields, of_decide_eq_true hunder, hv, hkept, ?_⟩, hvalue⟩
    intro g hg hgunder
    exact storedJson?_eq_none_iff.1 (ite_eq_right_iff.1 (hafter g hg) (decide_eq_true hgunder))
  · rintro ⟨v, ⟨before, f, after, hfields, hunder, hv, hkept, hafter⟩, hvalue⟩
    refine ⟨before, f, after, hfields, ?_, fun g hg => ite_eq_right_iff.2 fun hgunder => ?_⟩
    · rw [if_pos (decide_eq_true hunder)]
      exact storedJson?_eq_some_iff.2 ⟨v, hv, hkept, hvalue⟩
    · exact storedJson?_eq_none_iff.2 (hafter g hg (of_decide_eq_true hgunder))

/-! ### What is not looked at -/

/-- **Entities with the same scalars have the same properties.** -/
theorem toPropertiesBy_congr {a b : α}
    (h : ∀ f ∈ s.scalars, readField a f.name = readField b f.name) :
    toPropertiesBy s a = toPropertiesBy s b := by
  refine List.foldl_ext _ _ _ fun properties f hf => ?_
  rw [writeScalar, writeScalar, h f hf]

theorem toPropertiesBy_withMetadata (hapart : ReadsApart α s) (m : Metadata) :
    toPropertiesBy s (withMetadata entity m) = toPropertiesBy s entity :=
  toPropertiesBy_congr fun _ hf =>
    hapart.readField_withMetadata (List.mem_append_left _ hf) entity m

/-- A relationship by the name of no scalar may be written at will. -/
theorem toPropertiesBy_tryWrite (hlawful : IsLawful α s) {g : Field} (hg : g ∈ s.relationships)
    (hname : ∀ f ∈ s.scalars, f.name ≠ g.name) (v : Value) :
    toPropertiesBy s (tryWrite entity g.name v) = toPropertiesBy s entity :=
  toPropertiesBy_congr fun f hf =>
    hlawful.readField_tryWrite_ne (List.mem_append_right _ hg) (List.mem_append_left _ hf)
      (hname f hf) entity v

/-! ### All of it -/

/-- The properties of an entity are those of its scalars. -/
structure StoresScalars (label : String) (fields : List Field) (entity : α) : Prop where
  /-- Every key is a name that a scalar is stored under. -/
  keys : ∀ key ∈ (toPropertiesBy (.ofFields label fields) entity).keys,
    ∃ f ∈ (Schema.ofFields label fields).scalars, f.storedName = key
  /-- None is a name that the store keeps for itself. -/
  reserved : ∀ key ∈ reservedNames, key ∉ (toPropertiesBy (.ofFields label fields) entity).keys
  values : ∀ key json, (toPropertiesBy (.ofFields label fields) entity).get? key = some json ↔
    ∃ v, IsLastSaid fields entity key v ∧ json = v.toJson
  /-- No other value is looked at. -/
  same : ∀ other : α,
    (∀ f ∈ (Schema.ofFields label fields).scalars,
      readField other f.name = readField entity f.name) →
    toPropertiesBy (.ofFields label fields) other = toPropertiesBy (.ofFields label fields) entity

/-- The properties of an entity stay the same when its metadata are changed. -/
def IgnoresMetadata (s : Schema) (entity : α) : Prop :=
  ∀ m, toPropertiesBy s (withMetadata entity m) = toPropertiesBy s entity

/-- They stay the same when a relationship by the name of no scalar is written. -/
def IgnoresRelationships (s : Schema) (entity : α) : Prop :=
  ∀ g ∈ s.relationships, (∀ f ∈ s.scalars, f.name ≠ g.name) →
    ∀ v, toPropertiesBy s (tryWrite entity g.name v) = toPropertiesBy s entity

/-- **Nothing but scalars is stored of an entity,** whatever the table that its
schema was made of and whatever the entity holds. Nothing else of the entity matters:
the metadata do not where fields are read apart from them, and relationships do not
where writing them is lawful. -/
theorem stores_only_scalars (label : String) (fields : List Field) (entity : α) :
    StoresScalars label fields entity ∧
      (ReadsApart α (.ofFields label fields) →
        IgnoresMetadata (.ofFields label fields) entity) ∧
      (IsLawful α (.ofFields label fields) →
        IgnoresRelationships (.ofFields label fields) entity) := by
  have hscalar : ∀ key ∈ (toPropertiesBy (.ofFields label fields) entity).keys,
      ∃ f ∈ (Schema.ofFields label fields).scalars, f.storedName = key := by
    intro key hkey
    obtain ⟨json, hjson⟩ := Option.ne_none_iff_exists'.1 ((Bag.mem_keys_iff _ key).1 hkey)
    obtain ⟨f, hf, hname, -⟩ := exists_scalar_of_get? hjson
    exact ⟨f, hf, hname⟩
  refine ⟨⟨hscalar, ?_, get?_toPropertiesBy_ofFields label fields,
    fun other h => toPropertiesBy_congr h⟩, fun hapart => toPropertiesBy_withMetadata hapart,
    fun hlawful g hg hname => toPropertiesBy_tryWrite hlawful hg hname⟩
  intro key hkey hmem
  obtain ⟨f, hf, rfl⟩ := hscalar key hmem
  exact Schema.IsDeclared.storedName_not_mem ⟨label, fields, rfl⟩ f hf hkey

/-- A table in which three fields are stored under one key, one of them a
relationship, and a field is stored under a name that the store keeps for
itself. -/
def crowdedTable : List Field :=
  [.scalar "title" .string, (Field.scalar "heading" .string).storedAs "title",
    (Field.scalar "edited" .datetime).storedAs "updated_at",
    ((Field.relationship "likes" ["LIKE"]).storedAs "title").countOnly,
    (Field.scalar "subtitle" .string).markNullable.storedAs "title"]

/-- A sheet with a value for each of them. -/
def crowdedSheet : Sheet where
  values := .ofList
    [("title", .string "First"), ("heading", .string "Second"), ("edited", .datetime ⟨0, 1⟩),
      ("likes", .integer 7), ("subtitle", .string " ")]

theorem stores_only_scalars_crowdedSheet :
    let s := Schema.ofFields "Sheet" crowdedTable
    IsLawful Sheet s ∧ ReadsApart Sheet s ∧
      (toPropertiesBy s crowdedSheet).get? "title" = some (.str "Second") ∧
      "updated_at" ∉ (toPropertiesBy s crowdedSheet).keys ∧
      toPropertiesBy s (withMetadata crowdedSheet { updatedAt := some ⟨0, 2⟩ }) =
        toPropertiesBy s crowdedSheet ∧
      toPropertiesBy s (tryWrite crowdedSheet "likes" .null) = toPropertiesBy s crowdedSheet := by
  intro s
  obtain ⟨hstores, hmetadata, hrelationships⟩ :=
    stores_only_scalars "Sheet" crowdedTable crowdedSheet
  have hlikes := hrelationships (Sheet.isLawful s)
    ((Field.relationship "likes" ["LIKE"]).storedAs "title").countOnly (by decide +kernel)
    (by decide +kernel) .null
  refine ⟨Sheet.isLawful s, Sheet.readsApart s,
    (hstores.values _ _).2 ⟨.string "Second", ?_, rfl⟩, hstores.reserved "updated_at" (by decide),
    hmetadata (Sheet.readsApart s) _, hlikes⟩
  -- The subtitle comes later but is blank, and the relationship is not stored at all.
  exact ⟨crowdedTable.take 1, (Field.scalar "heading" .string).storedAs "title",
    crowdedTable.drop 2, by decide +kernel, by decide +kernel, by decide +kernel,
    by decide +kernel, by decide +kernel⟩

end EntityGraph.Converter
