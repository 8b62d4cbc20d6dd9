import EntityGraph.Proofs.Entity.Conversion
import EntityGraph.Proofs.Entity.Independence
import EntityGraph.Proofs.Entity.Sheet
import EntityGraph.Proofs.Time.Rereading
/-!
# Entities stored and read again

What is left of an entity when its properties are stored in a node and the
node is read (`readField_stored`): the scalars that say something keep their
values, and every other field is as in the bare entity of the node. The node says
nothing of the scalars that were left out, because no other field is stored under
their names.

A moment with nanoseconds for more than its second is moved on the way
(`readField_stored_of_isOverfull`), and a field that is told by the metadata has not what
it has in a blank entity (`stored_lateSheet`).
-/

namespace EntityGraph

/-- Fields are known by their names, scalars also by their stored names, and
variants by their names up to case. -/
structure Schema.IsTidy (s : Schema) : Prop where
  names : (s.fields.map (·.name)).Nodup
  storedNames : (s.scalars.map (·.storedName)).Nodup
  kinds : ∀ f ∈ s.scalars, f.kind.IsTidy

instance (s : Schema) : Decidable s.IsTidy :=
  decidable_of_iff ((s.fields.map (·.name)).Nodup ∧ (s.scalars.map (·.storedName)).Nodup ∧
    ∀ f ∈ s.scalars, f.kind.IsTidy)
    ⟨fun h => ⟨h.1, h.2.1, h.2.2⟩, fun h => ⟨h.names, h.storedNames, h.kinds⟩⟩

namespace Converter

open Entity (readField metadata blank IsLawful ReadsApart KeepsMetadata HoldsMetadata takes
  TakesKinds)

variable {α : Type} [Entity α] {s : Schema} {f : Field} {entity : α}

/-- The scalars that an entity has hold values of their kinds, or null where
the field allows it. -/
def HoldsKinds (s : Schema) (entity : α) : Prop :=
  ∀ f ∈ s.scalars, ∀ v ∈ readField entity f.name,
    f.kind.admits v = true ∨ f.nullable = true ∧ v = .null

instance (s : Schema) (entity : α) : Decidable (HoldsKinds s entity) :=
  inferInstanceAs (Decidable (∀ f ∈ s.scalars, ∀ v ∈ readField entity f.name, _))

/-- The node that the properties of an entity are stored in. -/
def nodeOf (s : Schema) (entity : α) (id : String) (labels : List String) : Node :=
  ⟨id, labels, toPropertiesBy s entity⟩

/-- The entity of the node. -/
def stored (s : Schema) (entity : α) (id : String) (labels : List String) : α :=
  fromNodeBy s (nodeOf s entity id labels)

/-- What an entity has after it was stored: the scalars that say something keep their
values, and every other field, also a scalar that the entity did not have, is as
in an entity that nothing was read into. -/
structure KeepsScalars (s : Schema) (before after unread : α) : Prop where
  kept : ∀ f ∈ s.scalars, ∀ v, readField before f.name = some v → isOmitted f v = false →
    readField after f.name = some v
  omitted : ∀ f ∈ s.scalars, ∀ v, readField before f.name = some v → isOmitted f v = true →
    readField after f.name = readField unread f.name
  absent : ∀ f ∈ s.scalars, readField before f.name = none →
    readField after f.name = readField unread f.name
  relationships : ∀ f ∈ s.relationships, readField after f.name = readField unread f.name

/-- Null is left out of every field. -/
theorem isOmitted_null (f : Field) : isOmitted f .null = true := by
  rw [isOmitted]
  split <;> rfl

theorem HoldsKinds.admits (h : HoldsKinds s entity) (hf : f ∈ s.scalars) {v : Value}
    (hv : readField entity f.name = some v) (hkept : isOmitted f v = false) :
    f.kind.admits v = true := by
  rcases h f hf v hv with hadmits | ⟨-, rfl⟩
  · exact hadmits
  · simp [isOmitted_null] at hkept

/-- What is stored of a field is what is read of it. -/
theorem readValue?_toPropertiesBy (hs : s.IsTidy) (hentity : HoldsKinds s entity)
    (hf : f ∈ s.scalars) : readValue? (toPropertiesBy s entity) f =
      (readField entity f.name).bind fun v => if isOmitted f v then none else some v := by
  rw [readValue?, get?_toPropertiesBy_storedName hs.storedNames hf, storedJson?]
  cases hv : readField entity f.name with
  | none => rfl
  | some v =>
    cases hkept : isOmitted f v with
    | true => simp [hkept]
    | false =>
      have hread := Field.coerce_toJson (hs.kinds f hf) (hentity.admits hf hv hkept)
      simp [hkept, hread, Except.toOption]

/-- A scalar of the entity that was stored is what is read of its property. -/
theorem readField_stored_scalar (hs : s.IsTidy) (hlawful : IsLawful α s) (hf : f ∈ s.scalars)
    (id : String) (labels : List String) : readField (stored s entity id labels) f.name =
      ((readValue? (toPropertiesBy s entity) f).filter (takes α f)).or
        (readField (bare α (nodeOf s entity id labels)) f.name) := by
  rw [stored, readField_fromNodeBy hlawful (nodup_names_scalars hs.names) hf, takenValue?, nodeOf]

/-- What is stored of an entity with values of their kinds is taken. -/
theorem takenValue?_toPropertiesBy (hs : s.IsTidy) (htakes : TakesKinds α s)
    (hentity : HoldsKinds s entity) (hf : f ∈ s.scalars) :
    (readValue? (toPropertiesBy s entity) f).filter (takes α f) =
      (readField entity f.name).bind fun v => if isOmitted f v then none else some v := by
  rw [readValue?_toPropertiesBy hs hentity hf]
  cases hv : readField entity f.name with
  | none => rfl
  | some v =>
    cases hkept : isOmitted f v with
    | true => simp [hkept]
    | false =>
      have htaken := htakes f hf v (hentity.admits hf hv hkept)
      simp [hkept, Option.filter, htaken]

theorem KeepsScalars.of_unread {before after unread unread' : α}
    (h : KeepsScalars s before after unread)
    (hsame : ∀ f ∈ s.fields, readField unread f.name = readField unread' f.name) :
    KeepsScalars s before after unread' where
  kept := h.kept
  omitted f hf v hv homitted :=
    (h.omitted f hf v hv homitted).trans (hsame f (List.mem_append_left _ hf))
  absent f hf hv := (h.absent f hf hv).trans (hsame f (List.mem_append_left _ hf))
  relationships f hf := (h.relationships f hf).trans (hsame f (List.mem_append_right _ hf))

/-- **What is stored of an entity is read again.** A scalar that is not left
out keeps its value; one that is left out or that the entity does not have is
as in the bare entity of the node, and so is every relationship. Where fields are
read apart from the metadata, that is as in a blank entity. Where metadata are kept
and held the entity has the identifier of the node. -/
theorem readField_stored (hs : s.IsTidy) (hlawful : IsLawful α s) (htakes : TakesKinds α s)
    (hentity : HoldsKinds s entity) (id : String) (labels : List String) :
    KeepsScalars s entity (stored s entity id labels) (bare α (nodeOf s entity id labels)) ∧
      (ReadsApart α s → KeepsScalars s entity (stored s entity id labels) blank) ∧
      (KeepsMetadata α s → HoldsMetadata α →
        (metadata (stored s entity id labels)).id = some id) := by
  have hread {f : Field} (hf : f ∈ s.scalars) : readField (stored s entity id labels) f.name =
      ((readField entity f.name).bind fun v => if isOmitted f v then none else some v).or
        (readField (bare α (nodeOf s entity id labels)) f.name) := by
    rw [readField_stored_scalar hs hlawful hf, takenValue?_toPropertiesBy hs htakes hentity hf]
  have hkeeps : KeepsScalars s entity (stored s entity id labels)
      (bare α (nodeOf s entity id labels)) := by
    refine ⟨fun f hf v hv hkept => ?kept, fun f hf v hv homitted => ?omitted,
      fun f hf hv => ?absent, fun f hf => readField_fromNodeBy_relationship hlawful hs.names hf _⟩
    case kept => simp [hread hf, hv, hkept]
    case omitted => simp [hread hf, hv, homitted]
    case absent => simp [hread hf, hv]
  refine ⟨hkeeps, fun hapart => hkeeps.of_unread fun f hf => readField_bare hapart hf _,
    fun hmetadata hholds => ?_⟩
  rw [stored, metadata_fromNodeBy hmetadata hholds]
  rfl

/-- A sheet with a value of each kind; the number of views is left out. -/
def filledSheet : Sheet where
  values := .ofList
    [("title", .string " Graphs"), ("views", .integer 0), ("rating", .float ⟨0x4012000000000000⟩),
      ("featured", .boolean true), ("publishedAt", .datetime ⟨1483228799, 1500000000⟩),
      ("status", .enum "Archived"), ("authors", .list [.string "1"]),
      ("history", .list [.list [.enum "Draft", .enum "Archived"], .list []])]

theorem readField_stored_filledSheet :
    readField (stored (Entity.schema Sheet) filledSheet "9" []) "publishedAt" =
        some (.datetime ⟨1483228799, 1500000000⟩) ∧
      readField (stored (Entity.schema Sheet) filledSheet "9" []) "history" =
        some (.list [.list [.enum "Draft", .enum "Archived"], .list []]) ∧
      readField (stored (Entity.schema Sheet) filledSheet "9" []) "views" = none ∧
      readField (stored (Entity.schema Sheet) filledSheet "9" []) "authors" = none ∧
      (metadata (stored (Entity.schema Sheet) filledSheet "9" [])).id = some "9" := by
  have htidy : (Entity.schema Sheet).IsTidy := by decide +kernel
  have hkinds : HoldsKinds (Entity.schema Sheet) filledSheet := by decide +kernel
  obtain ⟨-, hblank, hid⟩ :=
    readField_stored htidy (Sheet.isLawful _) (Sheet.takesKinds _) hkinds "9" []
  obtain ⟨hkept, homitted, -, hlinks⟩ := hblank (Sheet.readsApart _)
  refine ⟨?_, ?_, ?_, ?_, hid (Sheet.keepsMetadata _) Sheet.holdsMetadata⟩
  · exact hkept (Field.scalar "publishedAt" .datetime).markNullable (by decide +kernel)
      (.datetime ⟨1483228799, 1500000000⟩) (by decide +kernel) (by decide +kernel)
  · exact hkept (.scalar "history" (.list (.list (.enum Sheet.statuses)))) (by decide +kernel)
      (.list [.list [.enum "Draft", .enum "Archived"], .list []]) (by decide +kernel)
      (by decide +kernel)
  · exact homitted (.scalar "views" .integer) (by decide +kernel) (.integer 0) (by decide +kernel)
      (by decide +kernel)
  · exact hlinks (.relationship "authors" ["WROTE"]) (by decide +kernel)

/-! ### What does not come back -/

theorem isOmitted_of_isOverfull (f : Field) {t : Time.Instant} (ht : t.IsOverfull) :
    isOmitted f (.datetime t) = false := by
  have hne : t ≠ .epoch := by
    rintro rfl
    exact absurd ht.le_nanos (by decide)
  rw [isOmitted]
  split
  · rfl
  · rw [Value.isDefault, beq_eq_false_iff_ne]
    exact hne

/-- **A moment with nanoseconds for more than its second comes back as the next one,**
unless the second is the last of a minute. -/
theorem readField_stored_of_isOverfull (hs : s.IsTidy) (hlawful : IsLawful α s)
    (hf : f ∈ s.scalars) (hkind : f.kind = .datetime) {t : Time.Instant} (ht : t.IsOverfull)
    (hlow : 0 ≤ t.year) (hhigh : t.year ≤ 9999)
    (hv : readField entity f.name = some (.datetime t))
    (htakes : takes α f (.datetime t.carry) = true) (id : String) (labels : List String) :
    readField (stored s entity id labels) f.name = some (.datetime t.carry) := by
  have hcoerce : f.coerce (Value.datetime t).toJson = .ok (.datetime t.carry) := by
    rw [Field.coerce, hkind, Value.toJson, Kind.coerce, Kind.coerceDatetime,
      ht.read?_toText hlow hhigh]
    rfl
  have hread : readValue? (toPropertiesBy s entity) f = some (.datetime t.carry) := by
    rw [readValue?, get?_toPropertiesBy_storedName hs.storedNames hf, storedJson?, hv]
    simp [isOmitted_of_isOverfull f ht, hcoerce, Except.toOption]
  rw [readField_stored_scalar hs hlawful hf, hread]
  simp [Option.filter, htakes]

/-- A sheet that was published in the fifth second of 1970, with nanoseconds for a
second and a third. -/
def lateSheet : Sheet where
  values := .ofList [("publishedAt", .datetime ⟨4, 1333333333⟩)]

/-- A captioned entity with an empty note, which is left out. -/
def quietEntity : Captioned where
  values := .ofList [("note", .string "")]

/-- A sheet takes any moment, and this one comes back as the next second. A captioned
entity comes back with its identifier for the note, which a blank one has not. -/
theorem stored_lateSheet :
    let s := Entity.schema Sheet
    let c := Entity.schema Captioned
    let t : Time.Instant := ⟨4, 1333333333⟩
    (s.IsTidy ∧ IsLawful Sheet s ∧ ReadsApart Sheet s ∧ (∀ f v, takes Sheet f v = true) ∧
      (0 ≤ t.year ∧ t.year ≤ 9999) ∧
      (∀ f ∈ s.scalars, ∀ v ∈ readField lateSheet f.name,
        f.kind = .datetime ∧ v = .datetime t ∧ isOmitted f v = false) ∧
      readField lateSheet "publishedAt" = some (.datetime t) ∧
      readField (stored s lateSheet "9" []) "publishedAt" = some (.datetime ⟨5, 333333333⟩)) ∧
    c.IsTidy ∧ IsLawful Captioned c ∧ TakesKinds Captioned c ∧ HoldsKinds c quietEntity ∧
      (∃ f ∈ c.scalars, ∃ v, readField quietEntity f.name = some v ∧ isOmitted f v = true ∧
        readField (stored c quietEntity "9" []) f.name = some (.string "9") ∧
        readField (blank : Captioned) f.name = none) := by
  intro s c t
  refine ⟨⟨by decide +kernel, Sheet.isLawful s, Sheet.readsApart s, fun _ _ => rfl,
    by decide +kernel, by decide +kernel, by decide +kernel, by decide +kernel⟩, by decide +kernel,
    Captioned.isLawful c, fun _ _ _ _ => rfl, by decide +kernel, .scalar "note" .string,
    by decide +kernel, .string "", by decide +kernel, by decide +kernel, by decide +kernel,
    by decide +kernel⟩

end Converter

end EntityGraph
