import EntityGraph.Proofs.Statement.Independence
import EntityGraph.Proofs.Statement.Parts
/-!
# Which requests are accepted

A search gives a statement exactly when everything that would stand in its text
as a name is one (`exists_search_iff`): the label, the fields that free text is
looked for in, what the active filters and the relationship fields speak of, and
the order. The number of matches asks for the same of what selects the entities
and for nothing else. Each part of a statement has its own law, which says when
the part can be made, and fails only for a name (`IsNameFault`).
-/

namespace EntityGraph

/-- A text that leaves something open, or is a name: an absent or an empty text
leaves it open. -/
def IsOpenOrName (text : Option String) : Prop :=
  ∀ value ∈ text, value = "" ∨ isName value = true

/-- A link that can be written as a pattern: it has types, and these and its
label are names. -/
structure Link.IsNamed (link : Link) : Prop where
  nonempty : link.types ≠ []
  types : ∀ type ∈ link.types, isName type = true
  label : IsOpenOrName link.targetLabel

/-- A filter that can be written as a condition. A list of texts for a
relationship field is about a property of the linked nodes, which must be
declared; every other filter is about a stored property. -/
def Filter.IsNamed (f : Filter) : Prop :=
  isName f.parameter = true ∧
    match f.value, f.field.link with
    | .oneOf _, some link => (∃ name ∈ link.targetField, isName name = true) ∧ link.IsNamed
    | _, _ => isName f.field.storedName = true

/-- A fault of something that is no name, or that lacks one. -/
inductive ArgumentFault.IsNameFault : ArgumentFault → Prop
  | notAName (what : String) {value : String} (h : isName value = false) :
    IsNameFault (.notAName what value)
  | noRelationshipTypes : IsNameFault .noRelationshipTypes
  | noTargetField (field : String) : IsNameFault (.noTargetField field)

namespace Statement

open ArgumentFault (IsNameFault)

/-- **The entities of a request can be selected:** the label is a name; so is
each field that free text is looked for in, if there is any; and so is what each
active filter speaks of. -/
structure IsSelectable (s : Schema) (r : SearchRequest) : Prop where
  label : isName s.label = true
  fields : r.hasText = true → ∀ field ∈ r.effectiveFields s, isName field = true
  filters : ∀ f ∈ r.filters, f.isActive = true → f.IsNamed

/-! ### Names, labels and types -/

theorem exists_ofText_iff {what value : String} :
    (∃ i, Identifier.ofText what value = .ok i) ↔ EntityGraph.isName value = true :=
  ⟨fun ⟨_, h⟩ => Identifier.isName_of_ofText h, fun h => ⟨_, Identifier.ofText_of_isName what h⟩⟩

theorem failsFor_ofText (what value : String) :
    FailsFor IsNameFault (Identifier.ofText what value) := by
  unfold Identifier.ofText
  split
  · exact .ok _
  · next h => exact .error (.notAName what (Bool.eq_false_iff.2 h))

theorem exists_mapM_ofText_iff {what : String} {values : List String} :
    (∃ is, values.mapM (Identifier.ofText what) = .ok is) ↔
      ∀ value ∈ values, EntityGraph.isName value = true := by
  rw [exists_mapM_iff]
  exact forall₂_congr fun value _ => exists_ofText_iff

theorem exists_withLabel_iff {variableName : String} {label : Option String} :
    (∃ node, NodePattern.withLabel variableName label = .ok node) ↔ IsOpenOrName label := by
  unfold NodePattern.withLabel IsOpenOrName
  cases label with
  | none => simp
  | some text =>
    by_cases hempty : text.isEmpty = true
    · have htext : text = "" := String.isEmpty_iff.1 hempty
      simp [htext]
    · have htext : text ≠ "" := fun h => hempty (String.isEmpty_iff.2 h)
      simp only [hempty, Bool.false_eq_true, if_false, exists_map_iff, exists_ofText_iff,
        Option.mem_def, Option.some.injEq, forall_eq', htext, false_or]

theorem failsFor_withLabel (variableName : String) (label : Option String) :
    FailsFor IsNameFault (NodePattern.withLabel variableName label) := by
  unfold NodePattern.withLabel
  split
  · exact .ok _
  · split
    · exact .ok _
    · exact (failsFor_ofText _ _).map _

theorem exists_identifyTypes_iff {types : List String} :
    (∃ is, identifyTypes types = .ok is) ↔
      types ≠ [] ∧ ∀ type ∈ types, EntityGraph.isName type = true := by
  unfold identifyTypes
  by_cases hempty : types = []
  · simp [hempty]
  · simp only [List.isEmpty_iff, hempty, if_false, ne_eq, not_false_eq_true, true_and,
      exists_mapM_ofText_iff]

theorem failsFor_identifyTypes (types : List String) :
    FailsFor IsNameFault (identifyTypes types) := by
  unfold identifyTypes
  split
  · exact .error .noRelationshipTypes
  · exact .mapM (failsFor_ofText _) types

/-! ### What selects the entities -/

theorem exists_linkedClause_iff {field : Field} {link : Link} {parameter : String}
    {texts : List String} : (∃ c, linkedClause field link parameter texts = .ok c) ↔
      (∃ name ∈ link.targetField, EntityGraph.isName name = true) ∧ link.IsNamed := by
  unfold linkedClause
  cases link.targetField with
  | none => simp
  | some name =>
    have htypes : (∃ is, identifyTypes link.types = .ok is) ↔ _ := exists_identifyTypes_iff
    refine (exists_bind_iff (P := link.IsNamed) fun targetField _ => ?_).trans ?_
    · refine (exists_bind_iff fun target _ => exists_bind_pure_iff.trans htypes).trans ?_
      rw [exists_withLabel_iff]
      exact ⟨fun ⟨hlabel, hnonempty, htypes⟩ => ⟨hnonempty, htypes, hlabel⟩,
        fun h => ⟨h.label, h.nonempty, h.types⟩⟩
    · rw [exists_ofText_iff]
      simp

theorem failsFor_linkedClause (field : Field) (link : Link) (parameter : String)
    (texts : List String) : FailsFor IsNameFault (linkedClause field link parameter texts) := by
  unfold linkedClause
  cases link.targetField with
  | none => exact .error (.noTargetField field.name)
  | some name =>
    exact (failsFor_ofText _ _).bind fun targetField =>
      (failsFor_withLabel _ _).bind fun target => (failsFor_identifyTypes _).bindPure _

theorem exists_filterClause_iff {f : Filter} :
    (∃ c, filterClause f = .ok c) ↔ f.IsNamed := by
  obtain ⟨field, value⟩ := f
  refine (exists_bind_iff fun parameter _ => ?_).trans (and_congr_left' exists_ofText_iff)
  cases value with
  | oneOf texts =>
    cases hlink : field.link with
    | none => exact exists_bind_pure_iff.trans exists_ofText_iff
    | some link => exact exists_linkedClause_iff
  | _ => exact exists_bind_pure_iff.trans exists_ofText_iff

theorem failsFor_filterClause (f : Filter) : FailsFor IsNameFault (filterClause f) := by
  refine (failsFor_ofText _ _).bind fun parameter => ?_
  split
  · exact failsFor_linkedClause _ _ _ _
  · exact (failsFor_ofText _ _).bindPure _

theorem exists_textClause_iff {s : Schema} {r : SearchRequest} :
    (∃ text, textClause s r = .ok text) ↔
      (r.hasText = true → ∀ field ∈ r.effectiveFields s, EntityGraph.isName field = true) := by
  rw [← isSome_soughtText, textClause]
  cases r.soughtText with
  | none => simp
  | some sought =>
    by_cases hempty : r.effectiveFields s = []
    · simp [hempty]
    · simp only [List.isEmpty_iff, hempty, if_false, exists_map_iff, exists_mapM_ofText_iff,
        Option.isSome_some, forall_const]

theorem failsFor_textClause (s : Schema) (r : SearchRequest) :
    FailsFor IsNameFault (textClause s r) := by
  unfold textClause
  split
  · exact .ok _
  · dsimp only
    split
    · exact .ok _
    · exact (FailsFor.mapM (failsFor_ofText _) _).map _

/-- **The entities are selected exactly when they can be.** -/
theorem exists_matching_iff {s : Schema} {r : SearchRequest} :
    (∃ m, matching s r = .ok m) ↔ IsSelectable s r := by
  have hfilters : (∃ clauses, r.activeFilters.mapM filterClause = .ok clauses) ↔
      ∀ f ∈ r.filters, f.isActive = true → f.IsNamed := by
    rw [exists_mapM_iff, SearchRequest.activeFilters]
    simp only [List.mem_filter, and_imp, exists_filterClause_iff]
  refine (exists_bind_iff fun text _ => (exists_bind_iff fun clauses _ =>
    exists_bind_pure_iff.trans exists_ofText_iff)).trans ?_
  rw [exists_textClause_iff, hfilters]
  exact ⟨fun ⟨hfields, hfilters, hlabel⟩ => ⟨hlabel, hfields, hfilters⟩,
    fun h => ⟨h.fields, h.filters, h.label⟩⟩

theorem failsFor_matching (s : Schema) (r : SearchRequest) :
    FailsFor IsNameFault (matching s r) :=
  (failsFor_textClause s r).bind fun _ =>
    (FailsFor.mapM failsFor_filterClause _).bind fun _ => (failsFor_ofText _ _).bindPure _

/-! ### What returns and orders them -/

theorem exists_linkClause_iff {field : Field} {link : Link} :
    (∃ c, linkClause field link = .ok c) ↔
      EntityGraph.isName field.lowerName = true ∧ link.IsNamed := by
  refine (exists_bind_iff fun lowerName _ => ?_).trans (and_congr_left' exists_ofText_iff)
  refine (exists_bind_iff fun types _ => exists_bind_pure_iff.trans exists_withLabel_iff).trans ?_
  rw [exists_identifyTypes_iff]
  exact ⟨fun ⟨⟨hnonempty, htypes⟩, hlabel⟩ => ⟨hnonempty, htypes, hlabel⟩,
    fun h => ⟨⟨h.nonempty, h.types⟩, h.label⟩⟩

theorem failsFor_linkClause (field : Field) (link : Link) :
    FailsFor IsNameFault (linkClause field link) :=
  (failsFor_ofText _ _).bind fun _ => (failsFor_identifyTypes _).bind fun _ =>
    (failsFor_withLabel _ _).bindPure _

theorem linkClauses_eq (s : Schema) :
    linkClauses s = (linkedFields s).mapM fun p => linkClause p.1 p.2 := rfl

theorem exists_projection_iff {s : Schema} : (∃ lines, projection s true = .ok lines) ↔
    ∀ field ∈ s.relationships, ∀ link ∈ field.link,
      EntityGraph.isName field.lowerName = true ∧ link.IsNamed := by
  have hclauses : (∃ clauses, linkClauses s = .ok clauses) ↔
      ∀ field ∈ s.relationships, ∀ link ∈ field.link,
        EntityGraph.isName field.lowerName = true ∧ link.IsNamed := by
    rw [linkClauses_eq, exists_mapM_iff]
    simp only [exists_linkClause_iff, linkedFields, List.mem_filterMap, Option.map_eq_some_iff,
      forall_exists_index, and_imp]
    constructor
    · intro h field hfield link hlink
      exact h (field, link) field hfield link hlink rfl
    · rintro h - field hfield link hlink rfl
      exact h field hfield link hlink
  unfold projection
  by_cases hempty : s.relationships = []
  · simp [Schema.hasRelationships, hempty]
  · have hlinks : s.hasRelationships = true := by simpa [Schema.hasRelationships] using hempty
    simp only [hlinks, Bool.and_self, if_true, exists_map_iff, hclauses]

theorem failsFor_linkClauses (s : Schema) : FailsFor IsNameFault (linkClauses s) := by
  intro fault h
  obtain ⟨p, -, hp⟩ := exists_of_mapM_eq_error h
  exact failsFor_linkClause p.1 p.2 fault hp

theorem failsFor_projection (s : Schema) (withLinks : Bool) :
    FailsFor IsNameFault (projection s withLinks) := by
  unfold projection
  split
  · exact (failsFor_linkClauses s).map _
  · exact .ok _

theorem exists_orderLines_iff {r : SearchRequest} :
    (∃ lines, orderLines r = .ok lines) ↔ IsOpenOrName (r.orderBy.map Text.trim) := by
  unfold orderLines SearchRequest.soughtOrder IsOpenOrName
  cases r.orderBy.map Text.trim with
  | none => simp
  | some order =>
    by_cases hempty : order = ""
    · rw [Option.filter_some_neg (by simp [hempty])]
      simp [hempty]
    · rw [Option.filter_some_pos (by simp [hempty])]
      simp only [exists_map_iff, exists_ofText_iff, Option.mem_def, Option.some.injEq,
        forall_eq', hempty, false_or]

theorem failsFor_orderLines (r : SearchRequest) : FailsFor IsNameFault (orderLines r) := by
  unfold orderLines
  split
  · exact .ok _
  · exact (failsFor_ofText _ _).map _

/-! ### Pages and the number of matches -/

theorem exists_results_iff {s : Schema} {r : SearchRequest} {skip limit : UInt64} :
    (∃ st, results s r skip limit true = .ok st) ↔ IsSelectable s r ∧
      (∀ field ∈ s.relationships, ∀ link ∈ field.link,
        EntityGraph.isName field.lowerName = true ∧ link.IsNamed) ∧
      IsOpenOrName (r.orderBy.map Text.trim) := by
  refine (exists_bind_iff fun m _ => (exists_bind_iff fun projected _ =>
    exists_bind_pure_iff.trans exists_orderLines_iff)).trans ?_
  rw [exists_matching_iff, exists_projection_iff]

theorem exists_count_iff {s : Schema} {r : SearchRequest} :
    (∃ st, count s r = .ok st) ↔ IsSelectable s r :=
  exists_bind_pure_iff.trans exists_matching_iff

/-- Only the active filters of a request are looked at. -/
theorem activeFilters_activeFilters (r : SearchRequest) :
    { r with filters := r.activeFilters }.activeFilters = r.activeFilters := by
  simp [SearchRequest.activeFilters]

theorem matching_activeFilters (s : Schema) (r : SearchRequest) :
    matching s { r with filters := r.activeFilters } = matching s r := by
  rw [matching, activeFilters_activeFilters]
  rfl

/-- **A search is accepted exactly when all that stands in its statement as a
name is one:** what selects the entities, what gathers the nodes linked to them,
and the order. The number of matches asks for the first of these alone. What is
not accepted is refused for a name, and filters that are not active are never
the reason. -/
theorem exists_search_iff (s : Schema) (r : SearchRequest) :
    ((∃ st, search s r = .ok st) ↔ IsSelectable s r ∧
      (∀ field ∈ s.relationships, ∀ link ∈ field.link,
        EntityGraph.isName field.lowerName = true ∧ link.IsNamed) ∧
      IsOpenOrName (r.orderBy.map Text.trim)) ∧
    ((∃ st, count s r = .ok st) ↔ IsSelectable s r) ∧
    (∀ fault, search s r = .error fault ∨ count s r = .error fault → fault.IsNameFault) ∧
    search s { r with filters := r.activeFilters } = search s r ∧
    count s { r with filters := r.activeFilters } = count s r := by
  refine ⟨exists_results_iff, exists_count_iff, ?_, ?_, ?_⟩
  · have hsearch : FailsFor IsNameFault (search s r) :=
      (failsFor_matching s r).bind fun _ => (failsFor_projection s true).bind fun _ =>
        (failsFor_orderLines r).bindPure _
    have hcount : FailsFor IsNameFault (count s r) := (failsFor_matching s r).bindPure _
    rintro fault (h | h)
    · exact hsearch fault h
    · exact hcount fault h
  · rw [search, search, results, results, matching_activeFilters]
    rfl
  · rw [count, count, matching_activeFilters]

/-- A request with a filter on a field whose name has a blank in it. -/
def misnamedRequest (rank : Int) : SearchRequest where
  filters := [⟨.scalar "page rank" .integer, .integer rank⟩]

theorem exists_search_iff_misnamedRequest :
    let s : Schema := .ofFields "Note" [.scalar "title" .string]
    (∃ st, search s (misnamedRequest 0) = .ok st) ∧
      (¬ ∃ st, search s (misnamedRequest 1) = .ok st) ∧
      ∀ fault, search s (misnamedRequest 1) = .error fault → fault.IsNameFault := by
  intro s
  have hfilters : ∀ f ∈ (misnamedRequest 0).filters, f.isActive = true → f.IsNamed := by
    intro f hf hactive
    obtain rfl := List.mem_singleton.1 hf
    exact absurd hactive (by decide)
  have hlinks : s.relationships = [] := by decide
  have horder : (misnamedRequest 0).orderBy.map Text.trim = some "created_at" := by decide
  refine ⟨(exists_search_iff s (misnamedRequest 0)).1.2 ⟨⟨by decide, by decide, hfilters⟩, ?_, ?_⟩,
    fun h => ?_, fun fault h => (exists_search_iff s _).2.2.1 fault (.inl h)⟩
  · simp [hlinks]
  · rw [horder]
    rintro value ⟨⟩
    exact .inr (by decide)
  · have hselectable := ((exists_search_iff s (misnamedRequest 1)).1.1 h).1
    have hnamed := hselectable.filters _ (.head _) (by decide)
    exact absurd hnamed.1 (by decide)

end Statement

end EntityGraph
