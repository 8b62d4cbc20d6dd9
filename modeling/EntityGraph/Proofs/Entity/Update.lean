import EntityGraph.Proofs.Entity.Resaving
import EntityGraph.Proofs.Entity.Sheet
import EntityGraph.Proofs.Statement.Selection
/-!
# Partial updates

What an update makes of the properties that a node has. The database overwrites
them key by key, and a null takes a property away (`amended`); so an update could
destroy data in two ways, by a null and by a value that says nothing. It does
neither, whatever the entity holds and whatever the node has stored
(`update_keeps_data`): fields that say nothing are not stored, what was stored of
the others is sifted once more (`updatable`), and no field of a declared schema is
stored under a name that the store keeps for itself.
-/

namespace EntityGraph

/-- The bag without a key. -/
def Bag.erase {α : Type} (bag : Bag α) (key : String) : Bag α :=
  bag.filter fun other _ => other != key

@[simp] theorem Bag.get?_erase {α : Type} (bag : Bag α) (key other : String) :
    (bag.erase key).get? other = if other = key then none else bag.get? other := by
  rw [erase, get?_filter]
  by_cases hkey : other = key
  · simp [hkey]
  · cases bag.get? other <;> simp [hkey]

/-! ### Properties overwritten key by key -/

/-- A value that a property can have: the database keeps no nulls. -/
def Json.kept? : Json → Option Json
  | .null => none
  | json => some json

/-- The properties with a value given to one key; a null takes the key away. -/
def amend (stored : Bag Json) (given : String × Json) : Bag Json :=
  given.2.kept?.elim (stored.erase given.1) (stored.insert given.1)

/-- The properties of a node after others were added to them: every given value
takes the place of the stored one, and a null takes it away. -/
def amended (stored given : Bag Json) : Bag Json :=
  given.entries.foldl amend stored

/-- What one given value does to every look-up. -/
theorem get?_amend (stored : Bag Json) (given : String × Json) (key : String) :
    (amend stored given).get? key =
      if key = given.1 then given.2.kept? else stored.get? key := by
  rw [amend]
  cases given.2.kept? with
  | none => exact stored.get?_erase given.1 key
  | some json => exact stored.get?_insert given.1 key json

theorem get?_foldl_amend (entries : List (String × Json)) (stored : Bag Json) (key : String) :
    (entries.foldl amend stored).get? key =
      (lastValue? key entries).elim (stored.get? key) Json.kept? := by
  induction entries generalizing stored with
  | nil => rfl
  | cons given entries ih =>
    rw [List.foldl_cons, ih, get?_amend, lastValue?_cons]
    cases lastValue? key entries with
    | some json => rfl
    | none => by_cases hkey : key = given.1 <;> simp [hkey]

/-- **A key that is given has what it is given, and every other key has what was
stored.** -/
theorem get?_amended (stored given : Bag Json) (key : String) :
    (amended stored given).get? key = (given.get? key).elim (stored.get? key) Json.kept? := by
  rw [amended, get?_foldl_amend, given.ascending.lastValue?_eq]
  rfl

/-- Giving the same values once more changes nothing. -/
theorem amended_amended (stored given : Bag Json) :
    amended (amended stored given) given = amended stored given := by
  refine Bag.ext_get? fun key => ?_
  rw [get?_amended, get?_amended]
  cases given.get? key <;> rfl

/-! ### What an update gives -/

/-- A value that says something: it is neither null nor a blank text. -/
def Json.Says (json : Json) : Prop :=
  json ≠ .null ∧ ∀ text, json = .str text → Text.isBlank text = false

theorem Json.Says.kept? {json : Json} (h : json.Says) : json.kept? = some json := by
  cases json with
  | null => exact absurd rfl h.1
  | bool _ | int _ | float _ | str _ | arr _ | obj _ => rfl

namespace Converter

open Entity (readField)
open Statement (updatable overwrites updateNode)

theorem overwrites_iff {json : Json} : overwrites json = true ↔ json.Says := by
  cases json <;> simp [overwrites, Json.Says]

/-- What may overwrite is what says something. -/
theorem get?_updatable {properties : Bag Json} {key : String} {json : Json} :
    (updatable properties).get? key = some json ↔
      properties.get? key = some json ∧ json.Says := by
  rw [updatable, Bag.get?_filter, Option.filter_eq_some_iff, overwrites_iff]

theorem updatable_updatable (properties : Bag Json) :
    updatable (updatable properties) = updatable properties := by
  refine Bag.ext_get? fun key => ?_
  rw [updatable, updatable, Bag.get?_filter, Bag.get?_filter]
  cases properties.get? key with
  | none => rfl
  | some json => by_cases hover : overwrites json = true <;> simp [Option.filter, hover]

/-- What is given to some stored properties for an entity destroys none of
them. -/
structure KeepsData {α : Type} [Entity α] (s : Schema) (entity : α) (stored given : Bag Json) :
    Prop where
  /-- No property is taken away. -/
  keeps : ∀ key, stored.get? key ≠ none → (amended stored given).get? key ≠ none
  /-- What is given says something, and is what the property is afterwards. -/
  fills : ∀ key json, given.get? key = some json →
    json.Says ∧ (amended stored given).get? key = some json
  /-- A property that changes is that of a scalar which says something. -/
  changes : ∀ key, (amended stored given).get? key ≠ stored.get? key →
    ∃ f ∈ s.scalars, f.storedName = key ∧ ∃ v, readField entity f.name = some v ∧
      isOmitted f v = false ∧ v.toJson.Says ∧ (amended stored given).get? key = some v.toJson
  /-- What the store keeps for itself is not among what is given. -/
  spares : ∀ key ∈ reservedNames, given.get? key = none ∧
    (amended stored given).get? key = stored.get? key
  /-- Giving it once more changes nothing. -/
  settles : amended (amended stored given) given = amended stored given

variable {α : Type} [Entity α] {s : Schema}

/-- What is given for an entity is the stored form of a scalar that says
something. -/
theorem exists_scalar_of_get? {entity : α} {key : String} {json : Json}
    (h : (toPropertiesBy s entity).get? key = some json) :
    ∃ f ∈ s.scalars, f.storedName = key ∧ ∃ v, readField entity f.name = some v ∧
      isOmitted f v = false ∧ json = v.toJson := by
  rw [get?_toPropertiesBy] at h
  obtain ⟨f, hf, hjson⟩ := List.mem_filterMap.1 (List.mem_of_getLast? h)
  obtain ⟨hmem, hkey⟩ := List.mem_filter.1 hf
  obtain ⟨v, hv, hstored⟩ := Option.bind_eq_some_iff.1 hjson
  refine ⟨f, hmem, eq_of_beq hkey, v, hv, ?_⟩
  cases homitted : isOmitted f v with
  | true => simp [homitted] at hstored
  | false => exact ⟨rfl, by simpa [homitted, eq_comm] using hstored⟩

theorem keepsData_updatable (hs : s.IsDeclared) (entity : α) (stored : Bag Json) :
    KeepsData s entity stored (updatable (toPropertiesBy s entity)) := by
  have hgiven : ∀ key json, (updatable (toPropertiesBy s entity)).get? key = some json →
      json.Says ∧ (amended stored (updatable (toPropertiesBy s entity))).get? key = some json := by
    intro key json hjson
    have hspeaks := (get?_updatable.1 hjson).2
    exact ⟨hspeaks, by rw [get?_amended, hjson]; exact hspeaks.kept?⟩
  have hother : ∀ key, (updatable (toPropertiesBy s entity)).get? key = none →
      (amended stored (updatable (toPropertiesBy s entity))).get? key = stored.get? key := by
    intro key hnone
    rw [get?_amended, hnone]
    rfl
  refine ⟨?_, hgiven, ?_, ?_, amended_amended _ _⟩
  · intro key hkey
    cases hjson : (updatable (toPropertiesBy s entity)).get? key with
    | none => rwa [hother key hjson]
    | some json => simp [(hgiven key json hjson).2]
  · intro key hchanged
    cases hjson : (updatable (toPropertiesBy s entity)).get? key with
    | none => exact absurd (hother key hjson) hchanged
    | some json =>
      obtain ⟨hspeaks, hafter⟩ := hgiven key json hjson
      obtain ⟨f, hf, hname, v, hv, homitted, rfl⟩ :=
        exists_scalar_of_get? (get?_updatable.1 hjson).1
      exact ⟨f, hf, hname, v, hv, homitted, hspeaks, hafter⟩
  · intro key hreserved
    have hnone : (updatable (toPropertiesBy s entity)).get? key = none := by
      rw [Option.eq_none_iff_forall_ne_some]
      intro json hjson
      obtain ⟨f, hf, rfl, -⟩ := exists_scalar_of_get? (get?_updatable.1 hjson).1
      exact hs.storedName_not_mem f hf hreserved
    exact ⟨hnone, hother key hnone⟩

/-- What the statement of an update binds is sifted. -/
theorem exists_updateNode {label : String} (hlabel : isName label = true) (id : String)
    (properties : Bag Json) : ∃ st, updateNode label id properties = .ok st ∧
      st.parameters.get? "properties" = some (.ofBag (updatable properties)) := by
  have hok : updateNode label id properties = .ok _ :=
    bind_eq_ok.2 ⟨_, Statement.Identifier.ofText_of_isName "label" hlabel, rfl⟩
  refine ⟨_, hok, ?_⟩
  rw [Bag.get?_ofList]
  rfl

/-- **A partial update destroys no data.** Whatever an entity of a declared
schema holds and whatever a node has stored, the properties that the statement of
an update binds take nothing away, give no null and no blank text, change only
properties of scalars that say something, and leave alone what the store keeps
for itself. Sifting properties twice is sifting them once, and loses nothing that
says something. -/
theorem update_keeps_data :
    (∀ (α : Type) [Entity α] (s : Schema) (entity : α) (stored : Bag Json) (label id : String),
      s.IsDeclared → isName label = true →
        ∃ st given, updateNode label id (toPropertiesBy s entity) = .ok st ∧
          st.parameters.get? "properties" = some (.ofBag given) ∧
          KeepsData s entity stored given) ∧
      ∀ properties : Bag Json, updatable (updatable properties) = updatable properties ∧
        ∀ key json, properties.get? key = some json → json.Says →
          (updatable properties).get? key = some json := by
  constructor
  · intro α _ s entity stored label id hs hlabel
    obtain ⟨st, hst, hbound⟩ := exists_updateNode hlabel id (toPropertiesBy s entity)
    exact ⟨st, _, hst, hbound, keepsData_updatable hs entity stored⟩
  · intro properties
    exact ⟨updatable_updatable properties, fun key json hjson hspeaks =>
      get?_updatable.2 ⟨hjson, hspeaks⟩⟩

/-- Fields of a patch: two under one name, and one that the store keeps for
itself. -/
def patchedSchema : Schema :=
  .ofFields "Sheet" [.scalar "title" .string, (Field.scalar "heading" .string).storedAs "title",
    .scalar "rating" .float, .scalar "views" .integer, .scalar "createdAt" .datetime]

/-- A patch with a title under two names, the second one blank, a rating that is
no number, a text for a number, and a time that is not its to set. -/
def roughPatch : Sheet where
  values := .ofList
    [("title", .string "New"), ("heading", .string " "), ("rating", .float ⟨0x7ff8000000000000⟩),
      ("views", .string "many"), ("createdAt", .datetime ⟨1483228799, 0⟩)]

/-- What the node of the sheet has stored. -/
def storedProperties : Bag Json :=
  .ofList [("title", .str "Old"), ("rating", .float ⟨0x4012000000000000⟩), ("views", .int 17),
    ("created_at", .str "2017-01-01T00:00:00Z"), ("extra", .arr [])]

theorem keepsData_roughPatch :
    (∃ st given, updateNode "Sheet" "7" (toPropertiesBy patchedSchema roughPatch) = .ok st ∧
      st.parameters.get? "properties" = some (.ofBag given) ∧
      KeepsData patchedSchema roughPatch storedProperties given) ∧
      (updatable storedProperties).get? "extra" = some (.arr []) := by
  obtain ⟨hupdate, hsifted⟩ := update_keeps_data
  have hdeclared : patchedSchema.IsDeclared := ⟨_, _, rfl⟩
  refine ⟨hupdate Sheet patchedSchema roughPatch storedProperties "Sheet" "7" hdeclared (by decide),
    ?_⟩
  exact (hsifted storedProperties).2 "extra" (.arr []) (by decide) (by simp [Json.Says])

end Converter

end EntityGraph
