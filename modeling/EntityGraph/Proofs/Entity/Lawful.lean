import EntityGraph.Entity.Basic
import EntityGraph.Proofs.Value.Coercion
/-!
# Lawful accessors

What the fields of a schema can be relied on for when entities are read and
written through their accessors: a field that was written is read as it was
written, and every other field is as it was (`IsLawful`). A value that is
rejected changes nothing by construction, so the laws carry over to `tryWrite`.
How fields and metadata get on with each other is said by three laws of their
own, since none of them follows: `ReadsApart`, `KeepsMetadata` and
`HoldsMetadata`.
-/

namespace EntityGraph.Entity

variable {α : Type} [Entity α] {s : Schema} {f g : Field} {a b : α} {v : Value}

/-- The accessors of a type of entities are lawful on the fields of a schema.
-/
structure IsLawful (α : Type) [Entity α] (s : Schema) : Prop where
  /-- Whether a value is taken depends on the field and the value alone. -/
  isSome_writeField : ∀ {f : Field}, f ∈ s.fields → ∀ (a b : α) (v : Value),
    (writeField a f.name v).isSome = (writeField b f.name v).isSome
  /-- A value that was taken is what is read. -/
  readField_writeField : ∀ {f : Field}, f ∈ s.fields → ∀ {a b : α} {v : Value},
    writeField a f.name v = some b → readField b f.name = some v
  /-- It changes no other field. -/
  readField_writeField_ne : ∀ {f g : Field}, f ∈ s.fields → g ∈ s.fields → g.name ≠ f.name →
    ∀ {a b : α} {v : Value}, writeField a f.name v = some b →
      readField b g.name = readField a g.name

/-- The fields of a schema are read apart from the metadata. -/
structure ReadsApart (α : Type) [Entity α] (s : Schema) : Prop where
  readField_withMetadata : ∀ {f : Field}, f ∈ s.fields → ∀ (a : α) (m : Metadata),
    readField (withMetadata a m) f.name = readField a f.name

/-- Writing a field of a schema leaves the metadata alone. -/
structure KeepsMetadata (α : Type) [Entity α] (s : Schema) : Prop where
  metadata_writeField : ∀ {f : Field}, f ∈ s.fields → ∀ {a b : α} {v : Value},
    writeField a f.name v = some b → metadata b = metadata a

/-- The metadata that an entity is given are those that it has. -/
structure HoldsMetadata (α : Type) [Entity α] : Prop where
  metadata_withMetadata : ∀ (a : α) (m : Metadata), metadata (withMetadata a m) = m

/-- Whether a type of entities takes a value for a field, asked of its blank
entity. -/
def takes (α : Type) [Entity α] (f : Field) (v : Value) : Bool :=
  (writeField (blank : α) f.name v).isSome

/-- A type of entities takes every value of the kinds of its scalars. -/
def TakesKinds (α : Type) [Entity α] (s : Schema) : Prop :=
  ∀ f ∈ s.scalars, ∀ v, f.kind.admits v = true → takes α f v = true

namespace IsLawful

/-- A field that may have been written is read as what was written, if that
was taken. -/
theorem readField_tryWrite (h : IsLawful α s) (hf : f ∈ s.fields) (a : α) (v : Value) :
    readField (tryWrite a f.name v) f.name =
      if takes α f v then some v else readField a f.name := by
  have htakes : takes α f v = (writeField a f.name v).isSome := h.isSome_writeField hf _ _ _
  rw [htakes, tryWrite]
  cases hwrite : writeField a f.name v with
  | none => simp
  | some b => simpa using h.readField_writeField hf hwrite

theorem readField_tryWrite_ne (h : IsLawful α s) (hf : f ∈ s.fields) (hg : g ∈ s.fields)
    (hne : g.name ≠ f.name) (a : α) (v : Value) :
    readField (tryWrite a f.name v) g.name = readField a g.name := by
  rw [tryWrite]
  cases hwrite : writeField a f.name v with
  | none => rfl
  | some b => exact h.readField_writeField_ne hf hg hne hwrite

end IsLawful

theorem KeepsMetadata.metadata_tryWrite (h : KeepsMetadata α s) (hf : f ∈ s.fields) (a : α)
    (v : Value) : metadata (tryWrite a f.name v) = metadata a := by
  rw [tryWrite]
  cases hwrite : writeField a f.name v with
  | none => rfl
  | some b => exact h.metadata_writeField hf hwrite

/-- **Accessors are lawful when writing is putting a value into a place of its
own,** wherever the field takes the value at all. -/
theorem isLawful_of_put (accepts : String → Value → Prop) (put : α → String → Value → α)
    (hwrite : ∀ a b name v, writeField a name v = some b ↔ accepts name v ∧ put a name v = b)
    (hread : ∀ a name v, accepts name v → ∀ other,
      readField (put a name v) other = if other = name then some v else readField a other)
    (s : Schema) : IsLawful α s := by
  refine ⟨?_, ?_, ?_⟩
  · intro f _ a b v
    rw [Bool.eq_iff_iff, Option.isSome_iff_exists, Option.isSome_iff_exists]
    simp only [hwrite, exists_and_left, exists_eq']
  · intro f _ a b v h
    obtain ⟨haccepts, rfl⟩ := (hwrite _ _ _ _).1 h
    rw [hread a _ v haccepts, if_pos rfl]
  · intro f g _ _ hne a b v h
    obtain ⟨haccepts, rfl⟩ := (hwrite _ _ _ _).1 h
    rw [hread a _ v haccepts, if_neg hne]

/-- So they are when every value is taken. -/
theorem isLawful_of_put_any (put : α → String → Value → α)
    (hwrite : ∀ a name v, writeField a name v = some (put a name v))
    (hread : ∀ a name v other,
      readField (put a name v) other = if other = name then some v else readField a other)
    (s : Schema) : IsLawful α s :=
  isLawful_of_put (fun _ _ => True) put (fun a b name v => by simp [hwrite])
    (fun a name v _ other => hread a name v other) s

end EntityGraph.Entity
