import EntityGraph.Entity.Converter
import EntityGraph.Proofs.Entity.Writing
/-!
# Conversion field by field

What a converter does to each field and each property. A property is the
stored form of the last field stored under its name that says something
(`get?_toPropertiesBy`). A scalar is read from its own property, when that can
be read and is taken, and is otherwise as in the bare entity of the node, which
has its metadata and nothing else (`readField_fromNodeBy`); a relationship is
never read (`readField_fromNodeBy_relationship`).
-/

namespace EntityGraph.Converter

open Entity (readField writeField withMetadata metadata blank IsLawful ReadsApart KeepsMetadata
  HoldsMetadata takes writeGiven foldl_writeGiven_kept readField_foldl_writeGiven
  readField_foldl_writeGiven_of_ne)

variable {α : Type} [Entity α] {s : Schema} {f g : Field}

/-! ### The properties of an entity -/

/-- What is stored of a field of an entity, if the field says something. -/
def storedJson? (entity : α) (f : Field) : Option Json :=
  (readField entity f.name).bind fun v => if isOmitted f v then none else some v.toJson

theorem writeScalar_eq (entity : α) (properties : Bag Json) (f : Field) :
    writeScalar entity properties f =
      (storedJson? entity f).elim properties (properties.insert f.storedName) := by
  rw [writeScalar, storedJson?]
  cases readField entity f.name with
  | none => rfl
  | some v => by_cases homitted : isOmitted f v = true <;> simp [homitted]

/-- One field changes the property it is stored under and no other. -/
theorem get?_writeScalar (entity : α) (properties : Bag Json) (f : Field) (key : String) :
    (writeScalar entity properties f).get? key =
      if f.storedName = key then (storedJson? entity f).or (properties.get? key)
      else properties.get? key := by
  rw [writeScalar_eq]
  by_cases hkey : f.storedName = key
  · cases storedJson? entity f <;> simp [hkey]
  · cases storedJson? entity f <;> simp [hkey, Ne.symm hkey]

theorem get?_foldl_writeScalar (entity : α) (fields : List Field) (properties : Bag Json)
    (key : String) : (fields.foldl (writeScalar entity) properties).get? key =
      ((fields.filter (·.storedName == key)).filterMap (storedJson? entity)).getLast?.or
        (properties.get? key) := by
  induction fields generalizing properties with
  | nil => simp
  | cons f fields ih =>
    rw [List.foldl_cons, ih, get?_writeScalar]
    by_cases hkey : f.storedName = key
    · rw [if_pos hkey, List.filter_cons_of_pos (by simpa using hkey), List.filterMap_cons]
      cases storedJson? entity f with
      | none => simp
      | some json => simp [List.getLast?_cons]
    · rw [if_neg hkey, List.filter_cons_of_neg (by simpa using hkey)]

/-- **A property is the stored form of the last field under its name that says
something.** -/
theorem get?_toPropertiesBy (s : Schema) (entity : α) (key : String) :
    (toPropertiesBy s entity).get? key =
      ((s.scalars.filter (·.storedName == key)).filterMap (storedJson? entity)).getLast? := by
  rw [toPropertiesBy, get?_foldl_writeScalar, Bag.get?_empty, Option.or_none]

theorem filter_eq_singleton {β γ : Type} [BEq γ] [LawfulBEq γ] {key : β → γ} {xs : List β}
    (hnodup : (xs.map key).Nodup) {x : β} (hx : x ∈ xs) : xs.filter (key · == key x) = [x] := by
  induction xs with
  | nil => simp at hx
  | cons y xs ih =>
    obtain ⟨hy, hxs⟩ := List.nodup_cons.1 hnodup
    rcases List.mem_cons.1 hx with rfl | hx
    · have hnone : xs.filter (key · == key x) = [] := by
        rw [List.filter_eq_nil_iff]
        intro z hz hsame
        exact hy (eq_of_beq hsame ▸ List.mem_map_of_mem hz)
      rw [List.filter_cons_of_pos (by simp), hnone]
    · have hne : ¬ (key y == key x) = true := fun hsame =>
        hy (eq_of_beq hsame ▸ List.mem_map_of_mem hx)
      rw [List.filter_cons, if_neg hne, ih hxs hx]

/-- When no other scalar is stored under the name, the property is that of the
field. -/
theorem get?_toPropertiesBy_storedName (hnames : (s.scalars.map (·.storedName)).Nodup)
    (hf : f ∈ s.scalars) (entity : α) :
    (toPropertiesBy s entity).get? f.storedName = storedJson? entity f := by
  rw [get?_toPropertiesBy, filter_eq_singleton hnames hf]
  cases h : storedJson? entity f <;> simp [h]

/-! ### What properties say -/

/-- What the properties say about a field, if it can be read. -/
def readValue? (properties : Bag Json) (f : Field) : Option Value :=
  (properties.get? f.storedName).bind fun raw => (f.coerce raw).toOption

/-- What the properties say about a field, if it is taken. -/
def takenValue? (α : Type) [Entity α] (properties : Bag Json) (f : Field) : Option Value :=
  (readValue? properties f).filter (takes α f)

theorem readScalar_eq (properties : Bag Json) :
    (readScalar properties : α → Field → α) = writeGiven (readValue? properties) := by
  funext entity f
  rw [readScalar, writeGiven, readValue?]
  cases properties.get? f.storedName with
  | none => rfl
  | some raw => cases hraw : f.coerce raw <;> simp [hraw, Except.toOption]

/-- The bare entity of a node: a blank one with the metadata of the node. -/
def bare (α : Type) [Entity α] (n : Node) : α :=
  withMetadata blank (readMetadata n)

/-- **The entity of a node** is the bare one in which the scalars are written of
which the properties say something. -/
theorem fromNodeBy_eq (s : Schema) (n : Node) : (fromNodeBy s n : α) =
    s.scalars.foldl (writeGiven (readValue? n.properties)) (bare α n) := by
  rw [fromNodeBy, readScalar_eq, bare]

/-! ### What rows say -/

/-- What a row says about a field that is a number of linked nodes. -/
def readCount? (row : Row) (f : Field) : Option Value :=
  ((row.columns.get? f.collectionAlias).bind countOf).map fun n => .integer (clampCount n)

theorem readCount_eq (row : Row) :
    (readCount row : α → Field → α) = writeGiven (readCount? row) := by
  funext entity f
  rw [readCount, writeGiven, readCount?]
  cases (row.columns.get? f.collectionAlias).bind countOf <;> rfl

/-- **The entity of a row** is that of a node in which the numbers of linked nodes
are written that the row has. -/
theorem fromRowBy_eq (s : Schema) (row : Row) (column : String) : fromRowBy s row column =
    (row.get Decode.node column).map fun n =>
      (s.relationships.filter (·.isCountOnly)).foldl (writeGiven (readCount? row))
        (fromNodeBy s n : α) := by
  rw [fromRowBy, readCount_eq]

/-! ### What every write keeps -/

section Kept

variable {P : α → Prop}
  (hwrite : ∀ {a b : α} {name : String} {v : Value}, writeField a name v = some b → P a → P b)

include hwrite

/-- What holds of the bare entity of a node, and is kept by every write, holds of
the entity of the node. -/
theorem fromNodeBy_kept (s : Schema) (n : Node) (hbare : P (bare α n)) : P (fromNodeBy s n) := by
  rw [fromNodeBy_eq]
  exact foldl_writeGiven_kept _ hwrite _ hbare

/-- And so it holds of the entity of a row in which the node stands. -/
theorem fromRowBy_kept (s : Schema) {row : Row} {column : String} {n : Node}
    (hn : row.get Decode.node column = .ok n) (hbare : P (bare α n)) :
    ∃ entity : α, fromRowBy s row column = .ok entity ∧ P entity := by
  refine ⟨_, by rw [fromRowBy_eq, hn]; rfl, ?_⟩
  exact foldl_writeGiven_kept _ hwrite _ (fromNodeBy_kept hwrite s n hbare)

end Kept

/-! ### The fields of a node -/

theorem nodup_names_scalars (hnames : (s.fields.map (·.name)).Nodup) :
    (s.scalars.map (·.name)).Nodup := by
  rw [Schema.fields, List.map_append] at hnames
  exact (List.nodup_append.1 hnames).1

/-- What the bare entity of a node has, where fields are read apart from the
metadata. -/
theorem readField_bare (ha : ReadsApart α s) (hf : f ∈ s.fields) (n : Node) :
    readField (bare α n) f.name = readField (blank : α) f.name :=
  ha.readField_withMetadata hf _ _

variable (hs : IsLawful α s)
include hs

/-- **A scalar of the entity of a node** is what its own property says, if
that can be read and is taken, and what the bare entity has otherwise. -/
theorem readField_fromNodeBy (hnames : (s.scalars.map (·.name)).Nodup) (hf : f ∈ s.scalars)
    (n : Node) : readField (fromNodeBy s n : α) f.name =
      (takenValue? α n.properties f).or (readField (bare α n) f.name) := by
  have hscalars : ∀ x ∈ s.scalars, x ∈ s.fields := fun x hx => List.mem_append_left _ hx
  rw [fromNodeBy_eq, readField_foldl_writeGiven _ hs hscalars hnames hf, takenValue?]

/-- **A relationship of the entity of a node** is as in the bare entity. -/
theorem readField_fromNodeBy_relationship (hnames : (s.fields.map (·.name)).Nodup)
    (hf : f ∈ s.relationships) (n : Node) :
    readField (fromNodeBy s n : α) f.name = readField (bare α n) f.name := by
  have hscalars : ∀ x ∈ s.scalars, x ∈ s.fields := fun x hx => List.mem_append_left _ hx
  have hfields : f ∈ s.fields := List.mem_append_right _ hf
  have hne : ∀ x ∈ s.scalars, f.name ≠ x.name := by
    intro x hx hsame
    rw [Schema.fields, List.map_append] at hnames
    exact (List.nodup_append.1 hnames).2.2 _ (List.mem_map_of_mem hx) _ (List.mem_map_of_mem hf)
      hsame.symm
  rw [fromNodeBy_eq, readField_foldl_writeGiven_of_ne _ hs hscalars hfields hne]

/-! ### The metadata of a node -/

omit hs
variable (hkeeps : KeepsMetadata α s)
include hkeeps

/-- **The metadata of the entity of a node** are those of the bare entity, -/
theorem metadata_fromNodeBy_bare (n : Node) :
    metadata (fromNodeBy s n : α) = metadata (bare α n) := by
  rw [fromNodeBy_eq, hkeeps.metadata_foldl_writeGiven _ fun x hx => List.mem_append_left _ hx]

/-- and so those of the node, where they are held. -/
theorem metadata_fromNodeBy (hholds : HoldsMetadata α) (n : Node) :
    metadata (fromNodeBy s n : α) = readMetadata n := by
  rw [metadata_fromNodeBy_bare hkeeps, bare, hholds.metadata_withMetadata]

end EntityGraph.Converter
