import EntityGraph.Schema.Registry
import Mathlib.Data.List.Dedup
import Mathlib.Logic.Relation
/-!
# Racing uses of a registry

Any number of uses of one registry, side by side. A use looks its type up, and
if the type is not there it builds a schema of its own and then puts it in,
unless another use was faster; between any two of its steps other uses may take
theirs. So several uses of a type may build, and yet all of them give one and
the same entry (`uses_agree`). The reason is an invariant of every state in
between (`IsSound`): a use that is over gave what is in the registry, and what
is in the registry stays there (`lookUp_of_step`).
-/

namespace EntityGraph.Registry

variable {κ : Type} [DecidableEq κ]

/-! ### Entries -/

/-- The types that have an entry. -/
def keys (r : Registry κ) : List κ :=
  r.entries.map Prod.fst

theorem lookUp_eq_none_iff {r : Registry κ} {key : κ} : r.lookUp key = none ↔ key ∉ r.keys := by
  rw [lookUp, Option.map_eq_none_iff, List.find?_eq_none, keys, List.mem_map]
  constructor
  · rintro h ⟨p, hp, rfl⟩
    exact h p hp (beq_self_eq_true p.1)
  · intro h p hp hsame
    exact h ⟨p, hp, eq_of_beq hsame⟩

theorem mem_entries_of_lookUp {r : Registry κ} {key : κ} {entry : Built}
    (h : r.lookUp key = some entry) : (key, entry) ∈ r.entries := by
  obtain ⟨p, hfind, rfl⟩ := Option.map_eq_some_iff.1 h
  obtain rfl : p.1 = key := by simpa using List.find?_some hfind
  exact List.mem_of_find?_eq_some hfind

/-- **What putting an entry in does:** nothing if the type has one already, and
otherwise the entry is added after the others. -/
theorem settle_cases (r : Registry κ) (key : κ) (built : Built) :
    (∃ kept, r.lookUp key = some kept ∧ r.settle key built = (kept, r)) ∨
      (r.lookUp key = none ∧ r.settle key built = (built, ⟨r.entries ++ [(key, built)]⟩)) := by
  unfold settle
  cases h : r.lookUp key with
  | some kept => exact .inl ⟨kept, rfl, rfl⟩
  | none => exact .inr ⟨rfl, rfl⟩

/-- An entry that is there stays there. -/
theorem lookUp_settle_of_some {r : Registry κ} {key : κ} {entry : Built}
    (h : r.lookUp key = some entry) (other : κ) (built : Built) :
    (r.settle other built).2.lookUp key = some entry := by
  obtain ⟨kept, -, hsettle⟩ | ⟨-, hsettle⟩ := settle_cases r other built
  · rw [hsettle]
    exact h
  · obtain ⟨p, hfind, rfl⟩ := Option.map_eq_some_iff.1 h
    rw [hsettle, lookUp, List.find?_append, hfind]
    rfl

/-- What putting an entry in gives is what is there then. -/
theorem lookUp_settle_self (r : Registry κ) (key : κ) (built : Built) :
    (r.settle key built).2.lookUp key = some (r.settle key built).1 := by
  obtain ⟨kept, hkept, hsettle⟩ | ⟨habsent, hsettle⟩ := settle_cases r key built
  · rw [hsettle]
    exact hkept
  · have hfind : r.entries.find? (·.1 == key) = none := Option.map_eq_none_iff.1 habsent
    rw [hsettle, lookUp, List.find?_append, hfind]
    simp

/-! ### Uses and their steps -/

/-- How far a use has come. -/
inductive Phase where
  /-- The type is still to be looked up. -/
  | waiting
  /-- The type was not there, and a schema is being built. -/
  | building
  /-- The schema is built and still to be put in. -/
  | holding (built : Built)
  /-- The use is over and gave an entry. -/
  | finished (entry : Built)
deriving DecidableEq, Repr

/-- The number of steps that a use has before it, at most. -/
def Phase.remaining : Phase → Nat
  | waiting => 3
  | building => 2
  | holding _ => 1
  | finished _ => 0

/-- A use of a type. -/
structure Use (κ : Type) where
  key : κ
  phase : Phase := .waiting
deriving DecidableEq, Repr

/-- What the entity types declare: a label and a table of fields each. -/
structure Declarations (κ : Type) where
  label : κ → String
  fields : κ → List Field

/-- The schema of a type. -/
def Declarations.schema (d : Declarations κ) (key : κ) : Schema :=
  .ofFields (d.label key) (d.fields key)

/-- What a use that has come so far knows: what it built is the schema of its
type, and what it gave is in the registry. -/
def Phase.IsSound (d : Declarations κ) (r : Registry κ) (key : κ) : Phase → Prop
  | waiting | building => True
  | holding built => built.schema = d.schema key
  | finished entry => r.lookUp key = some entry

/-- A registry and its uses, and the number of schemas that were built so
far. -/
structure Race (κ : Type) where
  registry : Registry κ := {}
  builds : Nat := 0
  uses : List (Use κ)

namespace Race

/-- Uses of some types, of which none has begun, and an empty registry. -/
def start (keys : List κ) : Race κ :=
  { uses := keys.map fun key => { key } }

/-- Whether all uses are over. -/
def IsOver (race : Race κ) : Prop :=
  ∀ use ∈ race.uses, ∃ entry, use.phase = .finished entry

/-- The number of steps that the uses have before them, at most. -/
def remaining (race : Race κ) : Nat :=
  race.uses.foldr (fun use later => use.phase.remaining + later) 0

/-- One step of one use. Looking up and putting in are steps on the registry;
building is none, and the number of a build tells its schema from those that
other uses built of the same type. -/
inductive Step (d : Declarations κ) : Race κ → Race κ → Prop
  | hit {race : Race κ} {i : Nat} {key : κ} {entry : Built}
    (use : race.uses[i]? = some ⟨key, .waiting⟩) (present : race.registry.lookUp key = some entry) :
    Step d race { race with uses := race.uses.set i ⟨key, .finished entry⟩ }
  | miss {race : Race κ} {i : Nat} {key : κ}
    (use : race.uses[i]? = some ⟨key, .waiting⟩) (absent : race.registry.lookUp key = none) :
    Step d race { race with uses := race.uses.set i ⟨key, .building⟩ }
  | build {race : Race κ} {i : Nat} {key : κ} (use : race.uses[i]? = some ⟨key, .building⟩) :
    Step d race
      { race with
        builds := race.builds + 1
        uses := race.uses.set i ⟨key, .holding ⟨race.builds, d.schema key⟩⟩ }
  | settle {race : Race κ} {i : Nat} {key : κ} {built : Built}
    (use : race.uses[i]? = some ⟨key, .holding built⟩) :
    Step d race
      { race with
        registry := (race.registry.settle key built).2
        uses := race.uses.set i ⟨key, .finished (race.registry.settle key built).1⟩ }

/-- The states that steps lead to, in whatever order the uses take them. -/
def Leads (d : Declarations κ) : Race κ → Race κ → Prop :=
  Relation.ReflTransGen (Step d)

/-! ### What every step keeps -/

section Steps

variable {d : Declarations κ} {race later : Race κ}

/-- **An entry is never replaced or removed.** -/
theorem lookUp_of_step (h : Step d race later) {key : κ} {entry : Built}
    (hentry : race.registry.lookUp key = some entry) :
    later.registry.lookUp key = some entry := by
  cases h with
  | hit | miss | build => exact hentry
  | settle => exact lookUp_settle_of_some hentry _ _

theorem lookUp_of_leads (h : Leads d race later) {key : κ} {entry : Built}
    (hentry : race.registry.lookUp key = some entry) :
    later.registry.lookUp key = some entry := by
  induction h with
  | refl => exact hentry
  | tail _ step ih => exact lookUp_of_step step ih

omit [DecidableEq κ] in
/-- A use goes on with the type that it began with. -/
theorem map_key_set {uses : List (Use κ)} {i : Nat} {key : κ} {phase : Phase}
    (h : uses[i]? = some ⟨key, phase⟩) (next : Phase) :
    (uses.set i ⟨key, next⟩).map Use.key = uses.map Use.key := by
  have hkey : (uses.map Use.key)[i]? = some key := by rw [List.getElem?_map, h]; rfl
  obtain ⟨hlt, hget⟩ := List.getElem?_eq_some_iff.1 hkey
  rw [List.map_set, ← hget, List.set_getElem_self]

theorem map_key_of_step (h : Step d race later) :
    later.uses.map Use.key = race.uses.map Use.key := by
  cases h with
  | hit use | miss use | build use | settle use => exact map_key_set use _

theorem map_key_of_leads (h : Leads d race later) :
    later.uses.map Use.key = race.uses.map Use.key := by
  induction h with
  | refl => rfl
  | tail _ step ih => rw [map_key_of_step step, ih]

/-- **What holds in every state.** No type has two entries, every entry is the
schema of its type and was made for a type that is used, and every use is
sound. -/
structure IsSound (d : Declarations κ) (race : Race κ) : Prop where
  nodup : race.registry.keys.Nodup
  entries : ∀ p ∈ race.registry.entries, p.2.schema = d.schema p.1
  used : ∀ key ∈ race.registry.keys, key ∈ race.uses.map Use.key
  uses : ∀ use ∈ race.uses, use.phase.IsSound d race.registry use.key

theorem isSound_start (d : Declarations κ) (keys : List κ) : IsSound d (start keys) where
  nodup := .nil
  entries := by simp [start]
  used := by simp [start, Registry.keys]
  uses := by simp [start, Phase.IsSound]

omit [DecidableEq κ] in
/-- What holds of all uses holds of them after one has gone on, if it holds of
that one. -/
theorem forall_mem_set {P : Use κ → Prop} {uses : List (Use κ)} (h : ∀ use ∈ uses, P use) (i : Nat)
    {new : Use κ} (hnew : P new) : ∀ use ∈ uses.set i new, P use := by
  intro use hmem
  rcases List.mem_or_eq_of_mem_set hmem with hmem | rfl
  · exact h use hmem
  · exact hnew

/-- A sound use stays one while another use puts its schema in. -/
theorem isSound_phase_settle {r : Registry κ} {key : κ} {phase : Phase}
    (h : phase.IsSound d r key) (other : κ) (built : Built) :
    phase.IsSound d (r.settle other built).2 key := by
  cases phase with
  | waiting | building => trivial
  | holding own => exact h
  | finished entry => exact lookUp_settle_of_some h other built

/-- The registry after an entry was put in: nothing new if the type had one, and
otherwise an entry for a type that had none. -/
theorem isSound_settle (hsound : IsSound d race) {key : κ} {built : Built}
    (hbuilt : built.schema = d.schema key) (hkey : key ∈ race.uses.map Use.key) :
    IsSound d { race with registry := (race.registry.settle key built).2 } := by
  have huses : ∀ use ∈ race.uses, use.phase.IsSound d (race.registry.settle key built).2 use.key :=
    fun use hmem => isSound_phase_settle (hsound.uses use hmem) key built
  obtain ⟨kept, -, hsettle⟩ | ⟨habsent, hsettle⟩ := settle_cases race.registry key built
  · rw [hsettle]
    exact hsound
  · rw [hsettle] at huses ⊢
    have hkeys : (⟨race.registry.entries ++ [(key, built)]⟩ : Registry κ).keys =
        race.registry.keys ++ [key] := by simp [Registry.keys]
    refine ⟨?_, ?_, ?_, huses⟩
    · have hnew : key ∉ race.registry.keys := lookUp_eq_none_iff.1 habsent
      rw [hkeys, List.nodup_append]
      refine ⟨hsound.nodup, List.nodup_singleton key, fun a ha b hb hsame => hnew ?_⟩
      rw [← List.mem_singleton.1 hb, ← hsame]
      exact ha
    · exact List.forall_mem_append.2 ⟨hsound.entries, List.forall_mem_singleton.2 hbuilt⟩
    · rw [hkeys]
      exact List.forall_mem_append.2 ⟨hsound.used, List.forall_mem_singleton.2 hkey⟩

/-- **Every step keeps soundness.** -/
theorem isSound_of_step (h : Step d race later) (hsound : IsSound d race) : IsSound d later := by
  have hkeys := map_key_of_step h
  have hused {r : Registry κ} (hr : ∀ key ∈ r.keys, key ∈ race.uses.map Use.key) :
      ∀ key ∈ r.keys, key ∈ later.uses.map Use.key := fun key hkey => hkeys ▸ hr key hkey
  cases h with
  | hit use present =>
    exact ⟨hsound.nodup, hsound.entries, hused hsound.used, forall_mem_set hsound.uses _ present⟩
  | miss use absent =>
    exact ⟨hsound.nodup, hsound.entries, hused hsound.used, forall_mem_set hsound.uses _ trivial⟩
  | build use =>
    exact ⟨hsound.nodup, hsound.entries, hused hsound.used, forall_mem_set hsound.uses _ rfl⟩
  | settle use =>
    have hmem := List.mem_of_getElem? use
    have hsettled := isSound_settle hsound (hsound.uses _ hmem) (List.mem_map_of_mem hmem)
    exact ⟨hsettled.nodup, hsettled.entries, hused hsettled.used,
      forall_mem_set hsettled.uses _ (lookUp_settle_self _ _ _)⟩

theorem isSound_of_leads {keys : List κ} (h : Leads d (start keys) race) : IsSound d race := by
  induction h with
  | refl => exact isSound_start d keys
  | tail _ step ih => exact isSound_of_step step ih

/-- **When all uses are over, the types in the registry are the types that were
used.** -/
theorem mem_keys_iff_of_isOver (hsound : IsSound d race) (hover : race.IsOver) {key : κ} :
    key ∈ race.registry.keys ↔ key ∈ race.uses.map Use.key := by
  refine ⟨hsound.used key, fun hkey => ?_⟩
  obtain ⟨use, huse, rfl⟩ := List.mem_map.1 hkey
  obtain ⟨entry, hphase⟩ := hover use huse
  have hgave := hsound.uses use huse
  rw [hphase] at hgave
  by_contra hnone
  have hentry : race.registry.lookUp use.key = some entry := hgave
  rw [lookUp_eq_none_iff.2 hnone] at hentry
  simp at hentry

/-! ### Every use comes to an end -/

omit [DecidableEq κ] in
theorem foldr_remaining_set {uses : List (Use κ)} {i : Nat} {key : κ} {phase next : Phase}
    (h : uses[i]? = some ⟨key, phase⟩) (hless : next.remaining < phase.remaining) :
    (uses.set i ⟨key, next⟩).foldr (fun use later => use.phase.remaining + later) 0 <
      uses.foldr (fun use later => use.phase.remaining + later) 0 := by
  induction uses generalizing i with
  | nil => simp at h
  | cons use uses ih =>
    cases i with
    | zero =>
      obtain rfl : use = ⟨key, phase⟩ := by simpa using h
      simpa using hless
    | succ i =>
      have htail := ih (i := i) (by simpa using h)
      simpa using htail

/-- Every step of a use brings it closer to its end. -/
theorem remaining_of_step (h : Step d race later) : later.remaining < race.remaining := by
  cases h with
  | hit use | miss use | build use | settle use =>
    exact foldr_remaining_set use (by simp [Phase.remaining])

/-- As long as a use is not over there is a step. -/
theorem exists_step_of_not_isOver (d : Declarations κ) (h : ¬ race.IsOver) :
    ∃ later, Step d race later := by
  simp only [IsOver, not_forall] at h
  obtain ⟨⟨key, phase⟩, hmem, hphase⟩ := h
  obtain ⟨i, hi⟩ := List.mem_iff_getElem?.1 hmem
  cases phase with
  | waiting =>
    cases hlook : race.registry.lookUp key with
    | some entry => exact ⟨_, .hit hi hlook⟩
    | none => exact ⟨_, .miss hi hlook⟩
  | building => exact ⟨_, .build hi⟩
  | holding built => exact ⟨_, .settle hi⟩
  | finished entry => exact absurd ⟨entry, rfl⟩ hphase

theorem exists_isOver (d : Declarations κ) (race : Race κ) :
    ∃ final, Leads d race final ∧ final.IsOver := by
  -- Each step leaves fewer steps, so a run that goes on as long as it can ends.
  induction hn : race.remaining using Nat.strongRecOn generalizing race with
  | ind n ih =>
    by_cases hover : race.IsOver
    · exact ⟨race, .refl, hover⟩
    · obtain ⟨next, hstep⟩ := exists_step_of_not_isOver d hover
      obtain ⟨final, hleads, hfinal⟩ := ih next.remaining (hn ▸ remaining_of_step hstep) next rfl
      exact ⟨final, .head hstep hleads, hfinal⟩

/-- A use that no other use comes between gives what the registry gives in one
go. -/
theorem exists_leads_schemaOf {i : Nat} {key : κ} (h : race.uses[i]? = some ⟨key, .waiting⟩) :
    ∃ later, Leads d race later ∧
      later.registry = (race.registry.schemaOf key ⟨race.builds, d.schema key⟩).2 ∧
      later.uses = race.uses.set i
        ⟨key, .finished (race.registry.schemaOf key ⟨race.builds, d.schema key⟩).1⟩ := by
  obtain ⟨hlt, -⟩ := List.getElem?_eq_some_iff.1 h
  cases hlook : race.registry.lookUp key with
  | some kept =>
    refine ⟨_, .single (.hit h hlook), ?_, ?_⟩
    · simp [schemaOf, hlook]
    · simp [schemaOf, hlook]
  | none =>
    have hbuilding : (race.uses.set i ⟨key, .building⟩)[i]? = some ⟨key, .building⟩ :=
      List.getElem?_set_self hlt
    have hholding : ((race.uses.set i ⟨key, .building⟩).set i
        ⟨key, .holding ⟨race.builds, d.schema key⟩⟩)[i]? =
          some ⟨key, .holding ⟨race.builds, d.schema key⟩⟩ :=
      List.getElem?_set_self (by simpa using hlt)
    refine ⟨_, .head (.miss h hlook) (.head (.build hbuilding) (.single (.settle hholding))), ?_,
      ?_⟩
    · simp [schemaOf, hlook]
    · simp [schemaOf, hlook]

end Steps

end Race

/-! ### All uses agree -/

open Race

/-- **All uses of a type give the same entry,** whatever types are used, by how
many uses, and in whatever order their steps come: an entry with the schema
that the type declares. No entry is ever replaced or removed; every run can be
brought to an end; and at the end the registry has one entry for each type that
was used. -/
theorem uses_agree (d : Declarations κ) (keys : List κ) {race : Race κ}
    (h : Leads d (start keys) race) :
    (∀ key entry, ⟨key, .finished entry⟩ ∈ race.uses → entry.schema = d.schema key ∧
      ∀ other, ⟨key, .finished other⟩ ∈ race.uses → other = entry) ∧
    (∀ later, Leads d race later → ∀ key entry, race.registry.lookUp key = some entry →
      later.registry.lookUp key = some entry) ∧
    (race.IsOver → race.registry.size = keys.dedup.length) ∧
    ∃ final, Leads d race final ∧ final.IsOver ∧ final.uses.map Use.key = keys := by
  have hsound := isSound_of_leads h
  have hkeys : race.uses.map Use.key = keys := by
    rw [map_key_of_leads h]
    simp [start, Function.comp_def]
  refine ⟨?_, ?_, ?_, ?_⟩
  · intro key entry hentry
    have hlook : race.registry.lookUp key = some entry := hsound.uses _ hentry
    refine ⟨hsound.entries _ (mem_entries_of_lookUp hlook), fun other hother => ?_⟩
    have hlook' : race.registry.lookUp key = some other := hsound.uses _ hother
    exact Option.some.inj (hlook'.symm.trans hlook)
  · intro later hlater key entry hentry
    exact lookUp_of_leads hlater hentry
  · intro hover
    have hperm : race.registry.keys.Perm keys.dedup := by
      rw [List.perm_ext_iff_of_nodup hsound.nodup keys.nodup_dedup]
      intro key
      rw [mem_keys_iff_of_isOver hsound hover, hkeys, List.mem_dedup]
    have hlength := hperm.length_eq
    rwa [Registry.keys, List.length_map] at hlength
  · obtain ⟨final, hleads, hover⟩ := exists_isOver d race
    exact ⟨final, hleads, hover, by rw [map_key_of_leads hleads, hkeys]⟩

/-- Types that are known by their labels and have one field each. -/
def namedTypes : Declarations String where
  label := id
  fields _ := [.scalar "name" .string]

/-- Two uses of topics that both found nothing and both built: the second one
was faster, and the first one gives its entry. -/
theorem uses_agree_topics :
    let topic : Built := ⟨1, .ofFields "Topic" [.scalar "name" .string]⟩
    let race : Race String :=
      { registry := ⟨[("Topic", topic)]⟩
        builds := 2
        uses := [⟨"Topic", .finished topic⟩, ⟨"Topic", .finished topic⟩] }
    Leads namedTypes (start ["Topic", "Topic"]) race ∧ race.IsOver ∧
      topic.schema = namedTypes.schema "Topic" ∧ race.registry.size = 1 := by
  intro topic race
  have hmissed : Leads namedTypes (start ["Topic", "Topic"])
      { uses := [⟨"Topic", .building⟩, ⟨"Topic", .building⟩] } :=
    .head (.miss (i := 0) rfl rfl) (.single (.miss (i := 1) rfl rfl))
  have hbuilt : Leads namedTypes (start ["Topic", "Topic"])
      { builds := 2
        uses := [⟨"Topic", .holding { topic with serial := 0 }⟩, ⟨"Topic", .holding topic⟩] } :=
    (hmissed.tail (.build (i := 0) rfl)).tail (.build (i := 1) rfl)
  let held : Race String :=
    { registry := ⟨[("Topic", topic)]⟩
      builds := 2
      uses := [⟨"Topic", .holding { topic with serial := 0 }⟩, ⟨"Topic", .finished topic⟩] }
  have hheld : Leads namedTypes (start ["Topic", "Topic"]) held :=
    hbuilt.tail (.settle (i := 1) rfl)
  have hslow : held.uses[0]? = some ⟨"Topic", .holding { topic with serial := 0 }⟩ := rfl
  have hleads : Leads namedTypes (start ["Topic", "Topic"]) race := hheld.tail (Step.settle hslow :)
  have hover : race.IsOver := by
    simp [Race.IsOver, race]
  obtain ⟨hagree, -, hsize, -⟩ := uses_agree namedTypes ["Topic", "Topic"] hleads
  exact ⟨hleads, hover, (hagree "Topic" topic (by simp [race])).1, hsize hover⟩

end EntityGraph.Registry
