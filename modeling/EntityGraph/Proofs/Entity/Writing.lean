import EntityGraph.Proofs.Entity.Lawful
import Mathlib.Data.List.Basic
/-!
# Fields written one after another

Entities are filled by going through some fields and writing those for which
there is a value, be it a property of a node or a column of a row. What holds
after the last write is said here for all of them: whatever every write keeps
is kept (`foldl_writeGiven_kept`), a field that is gone through once has its
value, if it takes it (`readField_foldl_writeGiven`), and the other fields and the
metadata are as they were.
-/

namespace EntityGraph.Entity

variable {α : Type} [Entity α] {s : Schema} {f g : Field} {fields : List Field}

/-- The entity with a field written, if there is a value for the field. -/
def writeGiven (given : Field → Option Value) (entity : α) (f : Field) : α :=
  (given f).elim entity (tryWrite entity f.name)

/-- Fields for which there are the same values are written alike. -/
theorem foldl_writeGiven_congr {given given' : Field → Option Value} {entity : α}
    (h : ∀ f ∈ fields, given f = given' f) :
    fields.foldl (writeGiven given) entity = fields.foldl (writeGiven given') entity :=
  List.foldl_ext _ _ _ fun entity f hf => by rw [writeGiven, writeGiven, h f hf]

variable (given : Field → Option Value)

section Kept

variable {P : α → Prop}
  (hwrite : ∀ {a b : α} {name : String} {v : Value}, writeField a name v = some b → P a → P b)

include hwrite

theorem tryWrite_kept {entity : α} (name : String) (v : Value) (h : P entity) :
    P (tryWrite entity name v) := by
  rw [tryWrite]
  cases hb : writeField entity name v with
  | none => exact h
  | some b => exact hwrite hb h

/-- **What every write keeps is kept.** -/
theorem foldl_writeGiven_kept (fields : List Field) {entity : α} (h : P entity) :
    P (fields.foldl (writeGiven given) entity) := by
  induction fields generalizing entity with
  | nil => exact h
  | cons f fields ih =>
    refine ih ?_
    rw [writeGiven]
    cases given f with
    | none => exact h
    | some v => exact tryWrite_kept hwrite f.name v h

end Kept

section Lawful

variable (hs : IsLawful α s)

include hs

theorem readField_writeGiven (hf : f ∈ s.fields) (entity : α) :
    readField (writeGiven given entity f) f.name =
      ((given f).filter (takes α f)).or (readField entity f.name) := by
  rw [writeGiven]
  cases given f with
  | none => rfl
  | some v =>
    rw [Option.elim_some, hs.readField_tryWrite hf]
    by_cases htakes : takes α f v = true <;> simp [Option.filter, htakes]

theorem readField_writeGiven_ne (hf : f ∈ s.fields) (hg : g ∈ s.fields) (hne : g.name ≠ f.name)
    (entity : α) : readField (writeGiven given entity f) g.name = readField entity g.name := by
  rw [writeGiven]
  cases given f with
  | none => rfl
  | some v => exact hs.readField_tryWrite_ne hf hg hne entity v

/-- **A field that is not among those written stays as it is.** -/
theorem readField_foldl_writeGiven_of_ne (hfields : ∀ f ∈ fields, f ∈ s.fields)
    (hg : g ∈ s.fields) (hne : ∀ f ∈ fields, g.name ≠ f.name) (entity : α) :
    readField (fields.foldl (writeGiven given) entity) g.name = readField entity g.name := by
  induction fields generalizing entity with
  | nil => rfl
  | cons f fields ih =>
    rw [List.foldl_cons, ih (fun x hx => hfields x (List.mem_cons_of_mem f hx))
      (fun x hx => hne x (List.mem_cons_of_mem f hx))]
    exact readField_writeGiven_ne given hs (hfields f List.mem_cons_self) hg
      (hne f List.mem_cons_self) entity

/-- **One that is among them is written once,** at its own turn. -/
theorem readField_foldl_writeGiven (hfields : ∀ f ∈ fields, f ∈ s.fields)
    (hnames : (fields.map (·.name)).Nodup) (hf : f ∈ fields) (entity : α) :
    readField (fields.foldl (writeGiven given) entity) f.name =
      ((given f).filter (takes α f)).or (readField entity f.name) := by
  induction fields generalizing entity with
  | nil => simp at hf
  | cons first fields ih =>
    obtain ⟨hfirst, hothers⟩ := List.nodup_cons.1 hnames
    have hrest : ∀ x ∈ fields, x ∈ s.fields := fun x hx => hfields x (List.mem_cons_of_mem first hx)
    have hne : ∀ x ∈ fields, first.name ≠ x.name := fun x hx hsame =>
      hfirst (List.mem_map.2 ⟨x, hx, hsame.symm⟩)
    have hmem : first ∈ s.fields := hfields first List.mem_cons_self
    -- The field is written at its own step and no other step changes it.
    rw [List.foldl_cons]
    rcases List.mem_cons.1 hf with rfl | hf
    · rw [readField_foldl_writeGiven_of_ne given hs hrest hmem hne,
        readField_writeGiven given hs hmem]
    · rw [ih hrest hothers hf,
        readField_writeGiven_ne given hs hmem (hrest f hf) (Ne.symm (hne f hf))]

end Lawful

/-- The metadata stay as they are. -/
theorem KeepsMetadata.metadata_foldl_writeGiven (hm : KeepsMetadata α s)
    (hfields : ∀ f ∈ fields, f ∈ s.fields) (entity : α) :
    metadata (fields.foldl (writeGiven given) entity) = metadata entity := by
  induction fields generalizing entity with
  | nil => rfl
  | cons f fields ih =>
    rw [List.foldl_cons, ih fun x hx => hfields x (List.mem_cons_of_mem f hx), writeGiven]
    cases given f with
    | none => rfl
    | some v => exact hm.metadata_tryWrite (hfields f List.mem_cons_self) entity v

end EntityGraph.Entity
